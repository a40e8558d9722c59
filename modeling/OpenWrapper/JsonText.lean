import OpenWrapper.Hexadecimal
import OpenWrapper.JsonValue

/-! # The text of a JSON value

Values are printed without blanks, strings with the escapes every printer
makes. A text has one reading: two values whose numerals are numerals are
printed alike only if they are the same. -/

set_option autoImplicit false

namespace OpenWrapper.JsonText
open OpenWrapper.JsonValue OpenWrapper.Hexadecimal

section Printing

def shortEscape : Char → Option Char
  | '"' => some '"'
  | '\\' => some '\\'
  | '\x08' => some 'b'
  | '\t' => some 't'
  | '\n' => some 'n'
  | '\x0c' => some 'f'
  | '\r' => some 'r'
  | _ => none

def escapeChar (c : Char) : List Char :=
  match shortEscape c with
  | some e => ['\\', e]
  | none =>
    if c.toNat < 32 then ['\\', 'u', '0', '0', digit (c.toNat / 16), digit (c.toNat % 16)]
    else [c]

def quoted (s : String) : List Char := '"' :: (s.toList.flatMap escapeChar ++ ['"'])

/-- The parts after the first, and the closing bracket. -/
def following (close : Char) : List (List Char) → List Char
  | [] => [close]
  | part :: parts => ',' :: (part ++ following close parts)

def bracketed (opening close : Char) : List (List Char) → List Char
  | [] => [opening, close]
  | part :: parts => opening :: (part ++ following close parts)

mutual

def render : Json → List Char
  | .null => ['n', 'u', 'l', 'l']
  | .bool b => if b then ['t', 'r', 'u', 'e'] else ['f', 'a', 'l', 's', 'e']
  | .num numeral => numeral.toList
  | .str s => quoted s
  | .arr items => bracketed '[' ']' (renderItems items)
  | .obj members => bracketed '\x7b' '\x7d' (renderMembers members)

def renderItems : List Json → List (List Char)
  | [] => []
  | item :: rest => render item :: renderItems rest

def renderMembers : List (String × Json) → List (List Char)
  | [] => []
  | (name, value) :: rest => (quoted name ++ ':' :: render value) :: renderMembers rest

end

end Printing

section Strings

theorem escapeChar_head (c : Char) (rest : List Char) : (escapeChar c ++ rest).head? ≠ some '"' := by
  unfold escapeChar
  split
  · simp
  next none_ =>
    split
    · simp
    · simp only [List.cons_append, List.head?_cons, ne_eq, Option.some.injEq]
      rintro rfl
      cases none_

theorem shortEscape_eq {c c' e : Char} (is : shortEscape c = some e) (is' : shortEscape c' = some e) :
    c = c' := by
  unfold shortEscape at is is'
  split at is <;> cases is <;> split at is' <;> first | rfl | cases is'

theorem shortEscape_not_u {c : Char} : shortEscape c ≠ some 'u' := by
  unfold shortEscape
  split <;> decide

theorem digit_eq {n m : ℕ} (small : n < 16) (small' : m < 16) (same : digit n = digit m) : n = m := by
  have value := digitValue_digit n small
  rw [same, digitValue_digit m small'] at value
  exact (Option.some.inj value).symm

theorem not_backslash {c : Char} (plain : shortEscape c = none) : c ≠ '\\' := by
  rintro rfl
  cases plain

theorem escapeChar_unique {c c' : Char} {rest rest' : List Char}
    (same : escapeChar c ++ rest = escapeChar c' ++ rest') : c = c' ∧ rest = rest' := by
  unfold escapeChar at same
  cases short : shortEscape c with
  | some e =>
    cases short' : shortEscape c' with
    | some e' =>
      simp only [short, short', List.cons_append, List.nil_append, List.cons.injEq, true_and] at same
      obtain ⟨rfl, rest_⟩ := same
      exact ⟨shortEscape_eq short short', rest_⟩
    | none =>
      simp only [short, short'] at same
      split at same
      · simp only [List.cons_append, List.nil_append, List.cons.injEq, true_and] at same
        exact absurd (same.1 ▸ short) shortEscape_not_u
      · simp only [List.cons_append, List.nil_append, List.cons.injEq] at same
        exact absurd same.1.symm (not_backslash short')
  | none =>
    cases short' : shortEscape c' with
    | some e' =>
      simp only [short, short'] at same
      split at same
      · simp only [List.cons_append, List.nil_append, List.cons.injEq, true_and] at same
        exact absurd (same.1 ▸ short') shortEscape_not_u
      · simp only [List.cons_append, List.nil_append, List.cons.injEq] at same
        exact absurd same.1 (not_backslash short)
    | none =>
      simp only [short, short'] at same
      split at same
      next control =>
        split at same
        next control' =>
          simp only [List.cons_append, List.nil_append, List.cons.injEq, true_and] at same
          have high := digit_eq (by omega) (by omega) same.1
          have low := digit_eq (by omega) (by omega) same.2.1
          have value : c.toNat = c'.toNat := by omega
          exact ⟨Char.toNat_inj.mp value, same.2.2⟩
        · simp only [List.cons_append, List.nil_append, List.cons.injEq] at same
          exact absurd same.1.symm (not_backslash short')
      · split at same
        · simp only [List.cons_append, List.nil_append, List.cons.injEq] at same
          exact absurd same.1 (not_backslash short)
        · simpa using same

theorem escaped_unique {cs cs' rest rest' : List Char}
    (same : cs.flatMap escapeChar ++ '"' :: rest = cs'.flatMap escapeChar ++ '"' :: rest') :
    cs = cs' ∧ rest = rest' := by
  induction cs generalizing cs' with
  | nil =>
    cases cs' with
    | nil => simpa using same
    | cons c' cs' =>
      have head := congrArg List.head? same
      rw [List.flatMap_cons, List.append_assoc] at head
      exact absurd head.symm (escapeChar_head c' _)
  | cons c cs ih =>
    cases cs' with
    | nil =>
      have head := congrArg List.head? same
      rw [List.flatMap_cons, List.append_assoc] at head
      exact absurd head (escapeChar_head c _)
    | cons c' cs' =>
      rw [List.flatMap_cons, List.flatMap_cons, List.append_assoc, List.append_assoc] at same
      obtain ⟨rfl, others⟩ := escapeChar_unique same
      obtain ⟨rfl, rest_⟩ := ih others
      exact ⟨rfl, rest_⟩

theorem quoted_unique {s s' : String} {rest rest' : List Char}
    (same : quoted s ++ rest = quoted s' ++ rest') : s = s' ∧ rest = rest' := by
  simp only [quoted, List.cons_append, List.append_assoc, List.cons.injEq, true_and,
    List.nil_append] at same
  obtain ⟨chars, rest_⟩ := escaped_unique same
  exact ⟨String.toList_inj.mp chars, rest_⟩

end Strings

section Numerals

def numeralChar (c : Char) : Bool :=
  c.isDigit || c == '-' || c == '+' || c == '.' || c == 'e' || c == 'E'

/-- What a numeral looks like from outside. -/
structure Lexical (cs : List Char) : Prop where
  starts : ∃ c, cs.head? = some c ∧ (c = '-' ∨ c.isDigit = true)
  within : ∀ c ∈ cs, numeralChar c = true

/-- What stands behind a value in a text. -/
def Follows (rest : List Char) : Prop :=
  ∀ c, rest.head? = some c → c = ',' ∨ c = ']' ∨ c = '\x7d'

theorem follows_not_numeral {rest : List Char} (follows : Follows rest) :
    ∀ c, rest.head? = some c → numeralChar c = false := by
  intro c is
  rcases follows c is with rfl | rfl | rfl
  · rfl
  · rfl
  · rfl

theorem takeWhile_numeral {cs rest : List Char} (lexical : Lexical cs) (follows : Follows rest) :
    (cs ++ rest).takeWhile numeralChar = cs := by
  rw [List.takeWhile_append_of_pos lexical.within]
  cases rest with
  | nil => simp
  | cons c rest =>
    have stops := follows_not_numeral follows c rfl
    rw [List.takeWhile_cons_of_neg (by simp [stops]), List.append_nil]

theorem numeral_unique {cs cs' rest rest' : List Char} (lexical : Lexical cs)
    (lexical' : Lexical cs') (follows : Follows rest) (follows' : Follows rest')
    (same : cs ++ rest = cs' ++ rest') : cs = cs' ∧ rest = rest' := by
  have one : cs = cs' := by
    rw [← takeWhile_numeral lexical follows, same, takeWhile_numeral lexical' follows']
  subst one
  exact ⟨rfl, List.append_cancel_left same⟩

end Numerals

section Values

mutual

/-- All numerals of the value are numerals. -/
def Plain : Json → Prop
  | .num numeral => Lexical numeral.toList
  | .arr items => PlainItems items
  | .obj members => PlainMembers members
  | _ => True

def PlainItems : List Json → Prop
  | [] => True
  | item :: rest => Plain item ∧ PlainItems rest

def PlainMembers : List (String × Json) → Prop
  | [] => True
  | (_, value) :: rest => Plain value ∧ PlainMembers rest

end

theorem plainMembers_iff (members : List (String × Json)) :
    PlainMembers members ↔ ∀ m ∈ members, Plain m.2 := by
  induction members with
  | nil => simp [PlainMembers]
  | cons m rest ih => simp [PlainMembers, ih]

/-- The kind of value that begins with this character. -/
def kindOf (c : Char) : ℕ :=
  if c = 'n' then 0
  else if c = 't' ∨ c = 'f' then 1
  else if c = '"' then 2
  else if c = '[' then 3
  else if c = '\x7b' then 4
  else if c = '-' ∨ c.isDigit then 5
  else 6

def kind : Json → ℕ
  | .null => 0
  | .bool _ => 1
  | .str _ => 2
  | .arr _ => 3
  | .obj _ => 4
  | .num _ => 5

theorem kindOf_numeral {c : Char} (starts : c = '-' ∨ c.isDigit = true) : kindOf c = 5 := by
  rcases starts with rfl | isDigit
  · rfl
  · have apart (d : Char) (not_ : d.isDigit = false) : c ≠ d := by
      rintro rfl
      rw [isDigit] at not_
      cases not_
    unfold kindOf
    rw [if_neg (apart 'n' rfl), if_neg (not_or.mpr ⟨apart 't' rfl, apart 'f' rfl⟩),
      if_neg (apart '"' rfl), if_neg (apart '[' rfl), if_neg (apart '\x7b' rfl),
      if_pos (.inr isDigit)]

theorem bracketed_head (opening close : Char) (parts : List (List Char)) (rest : List Char) :
    (bracketed opening close parts ++ rest).head? = some opening := by
  cases parts with
  | nil => rfl
  | cons part parts => rfl

theorem render_head {v : Json} (plain : Plain v) (rest : List Char) :
    ∃ c, (render v ++ rest).head? = some c ∧ kindOf c = kind v := by
  cases v with
  | null => exact ⟨_, rfl, rfl⟩
  | bool b =>
    cases b with
    | true => exact ⟨_, rfl, rfl⟩
    | false => exact ⟨_, rfl, rfl⟩
  | num numeral =>
    rw [Plain] at plain
    obtain ⟨c, head, starts⟩ := plain.starts
    refine ⟨c, ?_, kindOf_numeral starts⟩
    rw [render, List.head?_append, head]
    rfl
  | str s => exact ⟨_, rfl, rfl⟩
  | arr items =>
    rw [render]
    exact ⟨_, bracketed_head _ _ _ _, rfl⟩
  | obj members =>
    rw [render]
    exact ⟨_, bracketed_head _ _ _ _, rfl⟩

theorem same_kind {v v' : Json} {rest rest' : List Char} (plain : Plain v) (plain' : Plain v')
    (same : render v ++ rest = render v' ++ rest') : kind v = kind v' := by
  obtain ⟨c, head, is⟩ := render_head plain rest
  obtain ⟨c', head', is'⟩ := render_head plain' rest'
  rw [same, head'] at head
  rw [← is, ← is', Option.some.inj head]

theorem kind_lt (v : Json) : kind v < 6 := by cases v <;> simp [kind]

theorem render_not_close {v : Json} {close : Char} {rest : List Char} {more : List Char}
    (plain : Plain v) (closes : close = ']' ∨ close = '\x7d') :
    close :: rest ≠ render v ++ more := by
  intro same
  obtain ⟨c, head, is⟩ := render_head plain more
  rw [← same] at head
  have bound := kind_lt v
  rw [← is, ← Option.some.inj head] at bound
  rcases closes with rfl | rfl
  · exact absurd bound (by decide)
  · exact absurd bound (by decide)

theorem follows_following (close : Char) (closes : close = ']' ∨ close = '\x7d')
    (parts : List (List Char)) (rest : List Char) : Follows (following close parts ++ rest) := by
  intro c head
  cases parts with
  | nil =>
    cases head
    exact .inr closes
  | cons part parts =>
    cases head
    exact .inl rfl

mutual

/-- A text has one reading. -/
theorem render_unique : (v v' : Json) → Plain v → Plain v' → ∀ rest rest' : List Char,
    Follows rest → Follows rest' → render v ++ rest = render v' ++ rest' → v = v' ∧ rest = rest' := by
  intro v v' plain plain' rest rest' follows follows' same
  have kinds := same_kind plain plain' same
  cases v with
  | null =>
    cases v' with
    | null => exact ⟨rfl, by simpa [render] using same⟩
    | _ => cases kinds
  | bool b =>
    cases v' with
    | bool b' => cases b <;> cases b' <;> simp_all [render]
    | _ => cases kinds
  | num numeral =>
    cases v' with
    | num numeral' =>
      rw [Plain] at plain plain'
      obtain ⟨chars, rest_⟩ := numeral_unique plain plain' follows follows' same
      exact ⟨congrArg Json.num (String.toList_inj.mp chars), rest_⟩
    | _ => cases kinds
  | str s =>
    cases v' with
    | str s' =>
      rw [render, render] at same
      obtain ⟨rfl, rest_⟩ := quoted_unique same
      exact ⟨rfl, rest_⟩
    | _ => cases kinds
  | arr items =>
    cases v' with
    | arr items' =>
      rw [Plain] at plain plain'
      rw [render, render] at same
      have both : items = items' ∧ rest = rest' := by
        cases items with
        | nil =>
          cases items' with
          | nil => simpa [renderItems, bracketed] using same
          | cons item' more' =>
            simp only [renderItems, bracketed, List.cons_append, List.nil_append, List.cons.injEq,
              true_and, List.append_assoc] at same
            exact absurd same (render_not_close plain'.1 (.inl rfl))
        | cons item more =>
          cases items' with
          | nil =>
            simp only [renderItems, bracketed, List.cons_append, List.nil_append, List.cons.injEq,
              true_and, List.append_assoc] at same
            exact absurd same.symm (render_not_close plain.1 (.inl rfl))
          | cons item' more' =>
            simp only [renderItems, bracketed, List.cons_append, List.cons.injEq,
              true_and, List.append_assoc] at same
            obtain ⟨rfl, others⟩ := render_unique item item' plain.1 plain'.1 _ _
              (follows_following _ (.inl rfl) _ _) (follows_following _ (.inl rfl) _ _) same
            obtain ⟨rfl, rest_⟩ := items_unique more more' plain.2 plain'.2 rest rest' others
            exact ⟨rfl, rest_⟩
      exact ⟨congrArg Json.arr both.1, both.2⟩
    | _ => cases kinds
  | obj members =>
    cases v' with
    | obj members' =>
      rw [Plain] at plain plain'
      rw [render, render] at same
      have both : members = members' ∧ rest = rest' := by
        cases members with
        | nil =>
          cases members' with
          | nil => simpa [renderMembers, bracketed] using same
          | cons member' more' => simp [renderMembers, bracketed, quoted] at same
        | cons member more =>
          obtain ⟨name, value⟩ := member
          cases members' with
          | nil => simp [renderMembers, bracketed, quoted] at same
          | cons member' more' =>
            obtain ⟨name', value'⟩ := member'
            simp only [renderMembers, bracketed, List.cons_append, List.cons.injEq,
              true_and, List.append_assoc] at same
            obtain ⟨rfl, others⟩ := quoted_unique same
            rw [List.cons.injEq] at others
            obtain ⟨rfl, others'⟩ := render_unique value value' plain.1 plain'.1 _ _
              (follows_following _ (.inr rfl) _ _) (follows_following _ (.inr rfl) _ _) others.2
            obtain ⟨rfl, rest_⟩ := members_unique more more' plain.2 plain'.2 rest rest' others'
            exact ⟨rfl, rest_⟩
      exact ⟨congrArg Json.obj both.1, both.2⟩
    | _ => cases kinds

theorem items_unique : (items items' : List Json) → PlainItems items → PlainItems items' →
    ∀ rest rest' : List Char, following ']' (renderItems items) ++ rest =
      following ']' (renderItems items') ++ rest' → items = items' ∧ rest = rest'
  | [], [], _, _, rest, rest', same => ⟨rfl, by simpa [renderItems, following] using same⟩
  | [], _ :: _, _, _, rest, rest', same => by simp [renderItems, following] at same
  | _ :: _, [], _, _, rest, rest', same => by simp [renderItems, following] at same
  | item :: more, item' :: more', plain, plain', rest, rest', same => by
    simp only [renderItems, following, List.cons_append, List.cons.injEq, true_and,
      List.append_assoc] at same
    obtain ⟨rfl, others⟩ := render_unique item item' plain.1 plain'.1 _ _
      (follows_following _ (.inl rfl) _ _) (follows_following _ (.inl rfl) _ _) same
    obtain ⟨rfl, rest_⟩ := items_unique more more' plain.2 plain'.2 rest rest' others
    exact ⟨rfl, rest_⟩

theorem members_unique : (members members' : List (String × Json)) → PlainMembers members →
    PlainMembers members' → ∀ rest rest' : List Char,
    following '\x7d' (renderMembers members) ++ rest =
      following '\x7d' (renderMembers members') ++ rest' → members = members' ∧ rest = rest'
  | [], [], _, _, rest, rest', same => ⟨rfl, by simpa [renderMembers, following] using same⟩
  | [], (_, _) :: _, _, _, rest, rest', same => by simp [renderMembers, following] at same
  | (_, _) :: _, [], _, _, rest, rest', same => by simp [renderMembers, following] at same
  | (name, value) :: more, (name', value') :: more', plain, plain', rest, rest', same => by
    simp only [renderMembers, following, List.cons_append, List.cons.injEq, true_and,
      List.append_assoc] at same
    obtain ⟨rfl, others⟩ := quoted_unique same
    rw [List.cons.injEq] at others
    obtain ⟨rfl, others'⟩ := render_unique value value' plain.1 plain'.1 _ _
      (follows_following _ (.inr rfl) _ _) (follows_following _ (.inr rfl) _ _) others.2
    obtain ⟨rfl, rest_⟩ := members_unique more more' plain.2 plain'.2 rest rest' others'
    exact ⟨rfl, rest_⟩

end

theorem render_injective {v v' : Json} (plain : Plain v) (plain' : Plain v')
    (same : render v = render v') : v = v' := by
  have whole : render v ++ [] = render v' ++ [] := by rw [same]
  exact (render_unique v v' plain plain' [] [] nofun nofun whole).1

end Values

end OpenWrapper.JsonText
