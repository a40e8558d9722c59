import OpenWrapper.Handlers

/-! # The gRPC service -/

set_option autoImplicit false

namespace OpenWrapper.Grpc
open OpenWrapper.Ids OpenWrapper.Errors OpenWrapper.Amounts OpenWrapper.Payments
open OpenWrapper.PaymentStore OpenWrapper.Providers OpenWrapper.Stateless
open OpenWrapper.Effects OpenWrapper.Suspended

structure CreatePaymentRequest where
  idempotencyKey : String
  provider : String
  amountMinorUnits : ℕ
  currency : String
  customer : Option Handlers.CustomerBody
  merchantReference : Option String
  description : Option String
  returnUrl : Option String
  metadata : List (String × String)
deriving DecidableEq

def invalid {α : Type} (message : String) : Except GrpcStatus α :=
  .error (.invalidArgument message)

/-- The checks of `create_payment` up to `payment_request.validate()`. -/
@[irreducible] def parseCreatePayment (req : CreatePaymentRequest) : Except GrpcStatus PaymentRequest :=
  match Currency.parse req.currency with
  | .error e => invalid ("Invalid currency: " ++ e.display)
  | .ok currency =>
    if req.amountMinorUnits > 9223372036854775807 then
      invalid "Amount exceeds supported integer range"
    else
      match Money.fromMinorUnits req.amountMinorUnits currency with
      | .error e => invalid ("Invalid amount: " ++ e.display)
      | .ok amount =>
        match IdempotencyKey.parse req.idempotencyKey with
        | .error e => invalid ("Invalid idempotency key: " ++ e.display)
        | .ok idempotencyKey =>
          match ProviderId.parse req.provider with
          | .error e => invalid ("Invalid provider: " ++ e.display)
          | .ok provider =>
            let request : PaymentRequest :=
              { idempotencyKey, provider, amount
                customer := ⟨(req.customer.map (·.phone)).getD "",
                  req.customer.bind (·.email), req.customer.bind (·.fullName)⟩
                merchantReference := req.merchantReference
                description := req.description
                returnUrl := req.returnUrl
                metadata := req.metadata }
            match request.validate with
            | .error e => invalid ("Validation error: " ++ e.display)
            | .ok () => .ok request

def storeStatus (_ : StoreError) : Reply :=
  .grpc (.error (.internal ("Store error: " ++ OpenWrapperError.internal.display)))

/-- The record the handler answers with, built from what it holds itself. -/
def freshPayment (request : PaymentRequest) (id : PaymentId)
    (providerReference : Option String) (status : PaymentStatus) (at_ : Instant) : Payment where
  id := id
  idempotencyKey := request.idempotencyKey
  provider := request.provider
  providerReference := providerReference
  status := status
  amount := request.amount
  currency := request.amount.currency
  merchantReference := request.merchantReference
  createdAt := at_
  updatedAt := at_

def okOrNone {α : Type} : StoreResult (Option α) → Option α
  | .ok a => a
  | .error _ => none

/-- `create_payment` from the claimed idempotency key on; the outcome of the
`mark_` calls is ignored. -/
def createClaimed (provider : Provider) (request : PaymentRequest) (id : PaymentId) :
    Gw Reply := do
  match ← Gw.createPayment provider id request with
  | .ok result =>
    match ← Gw.recordCreationResult id result with
    | .error e => pure (storeStatus e)
    | .ok () =>
      pure (.grpc (.ok ⟨freshPayment request id (some result.providerReference)
        result.status.toStatus result.createdAt, result.nextAction⟩))
  | .error e =>
    if e.isDefiniteNonOccurrence then
      let _ ← Gw.markFailed id
      pure (.grpc (.error (.aborted ("Provider rejected payment: " ++ e.display))))
    else
      let _ ← Gw.markUnknown id
      let now ← Gw.now
      pure (.grpc (.ok ⟨freshPayment request id none .unknown now, none⟩))

/-- `create_payment` from the validated request and its provider on. -/
def createValidated (provider : Provider) (request : PaymentRequest) : Gw Reply := do
  match ← Gw.begin request none with
  | .error e => pure (storeStatus e)
  | .ok .conflict =>
    pure (.grpc (.error (.alreadyExists
      "Idempotency-Key was already used with a different request payload")))
  | .ok (.returnExisting payment) =>
    let action ← Gw.getNextAction payment.id
    pure (.grpc (.ok ⟨payment, okOrNone action⟩))
  | .ok (.proceed id) => createClaimed provider request id

def createPayment (app : App) (req : CreatePaymentRequest) : Gw Reply :=
  match parseCreatePayment req with
  | .error status => pure (.grpc (.error status))
  | .ok request =>
    match app.providers request.provider.asStr with
    | none =>
      pure (.grpc (.error (.notFound
        ("Provider '" ++ request.provider.asStr ++ "' is not configured"))))
    | some provider => createValidated provider request

def getPayment (id : Text PaymentId) : Gw Reply :=
  match id with
  | .corrupt _ => pure (.grpc (.error (.invalidArgument "Invalid payment_id")))
  | .stored paymentId => do
    match ← Gw.getPayment paymentId with
    | .error e => pure (storeStatus e)
    | .ok none => pure (.grpc (.error (.notFound "Payment not found")))
    | .ok (some payment) =>
      let action ← Gw.getNextAction paymentId
      pure (.grpc (.ok ⟨payment, okOrNone action⟩))

/-- The stream carries at most one event, the payment as it is stored. -/
def streamPaymentEvents (filter : Option (Text PaymentId)) : Gw Reply :=
  match filter with
  | some (.stored paymentId) => do
    let payment ← Gw.getPayment paymentId
    pure (.stream (okOrNone payment))
  | some (.corrupt _) => pure (.stream none)
  | none => pure (.stream none)

end OpenWrapper.Grpc
