import OpenWrapper.Evolution
import OpenWrapper.RefundConservation
import OpenWrapper.WebhookAtomicity
import OpenWrapper.Authentication
import OpenWrapper.Adapters
import OpenWrapper.CreationAmbiguity
import OpenWrapper.IdempotentCreation
import OpenWrapper.Claimants
import OpenWrapper.Simulation
import OpenWrapper.Recovery
import OpenWrapper.SqliteLedger
import OpenWrapper.WebhookOrder
import OpenWrapper.JavaScript
import OpenWrapper.CallbackRoutes
import OpenWrapper.CallbackWrites
import OpenWrapper.CallbackAuthentication
import OpenWrapper.SignedCallbacks
import OpenWrapper.ApiRequests
import OpenWrapper.PaymentRoutes
import OpenWrapper.WebWorld
import OpenWrapper.RouteContracts
import OpenWrapper.StatusWrites
import OpenWrapper.ReferenceWrites
import OpenWrapper.SubmissionPaths
import OpenWrapper.ReadableRows
import OpenWrapper.LiveCreations
import OpenWrapper.SharedCreation
import OpenWrapper.CrossPaths
import OpenWrapper.Hexadecimal
import OpenWrapper.WebhookAdapters
import OpenWrapper.References
import OpenWrapper.SignedContent
import OpenWrapper.CallbackReferences
import OpenWrapper.EventIdentity
import OpenWrapper.UniqueReferences
import OpenWrapper.StatusMappings
import OpenWrapper.RightMoney
import OpenWrapper.GraphqlIsolation
import OpenWrapper.ReconcilerContracts
import OpenWrapper.ReconcilerFairness
import OpenWrapper.ReconcilerTurns
import OpenWrapper.AuditContracts
import OpenWrapper.Audit
import OpenWrapper.Deliveries
import OpenWrapper.DedupPrecision
import OpenWrapper.AcknowledgedWebhooks
import OpenWrapper.Apportionment
import OpenWrapper.MachineIntegers
import OpenWrapper.MoneyArithmetic
import OpenWrapper.Alone
import OpenWrapper.RefundAdapters
import OpenWrapper.RefundSequences
import OpenWrapper.RefundStatus
import OpenWrapper.RefundRecords
import OpenWrapper.Doubles
import OpenWrapper.RefundIdempotency
import OpenWrapper.Fingerprints
import OpenWrapper.Retries
import OpenWrapper.SdkRequests
import OpenWrapper.SdkRetries
import OpenWrapper.Pieces
import OpenWrapper.OutboundSignatures
import OpenWrapper.SignatureVerdicts
import OpenWrapper.CallbackVerdicts
import OpenWrapper.EqualParts
import OpenWrapper.AmountTexts
import OpenWrapper.FawryDecimals
import OpenWrapper.FawryAmounts
import OpenWrapper.CanonicalJson
import OpenWrapper.Paging
import OpenWrapper.EventPages
import OpenWrapper.InstantTexts
import OpenWrapper.StaleSelection
import OpenWrapper.StatusLegality
import OpenWrapper.BackendEquivalence
import OpenWrapper.TokenBuckets
import OpenWrapper.SlidingWindows
import OpenWrapper.TimestampedSignatures
import OpenWrapper.StoredTruth
import OpenWrapper.WebTables
import OpenWrapper.WebCreations
import OpenWrapper.WebCreateOnce
import OpenWrapper.RetryPolicies
import OpenWrapper.Redaction
import OpenWrapper.Utf8Texts
import OpenWrapper.QueryDecoding
import OpenWrapper.OutboundDispatch
import OpenWrapper.ScaledDecimals
import OpenWrapper.NearestDoubles
import OpenWrapper.SdkMoney
import OpenWrapper.MoneyAgreement
import OpenWrapper.Refinements
import OpenWrapper.IssuedStatements
import OpenWrapper.AtomicOperations
import OpenWrapper.UniqueEvents
import OpenWrapper.StatementLedger
import OpenWrapper.DeliveredOnce
import OpenWrapper.StatusProvenance
import OpenWrapper.RefundLedger
import OpenWrapper.MerchantTables
import OpenWrapper.Ownership
import OpenWrapper.MerchantIsolation
import OpenWrapper.ReconcileMessages
import OpenWrapper.ApiKeyRoutes
import OpenWrapper.ApiKeyContracts
import OpenWrapper.ApiKeyLifecycle
