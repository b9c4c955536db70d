import DeliveryIntelligence.Common.Json
import DeliveryIntelligence.Common.Python

set_option autoImplicit false

/-!
# JSON Schema

The keywords of draft 2020-12 that the schemas of the application use, for an object whose
members are no objects with a schema of their own. A keyword that is about another type than
that of the value accepts it. The check of a format is a parameter; the grammar of RFC 3339 at the
end is what a check for `date-time` is held against.
-/

namespace JsonSchema

inductive JsonType
  | string
  | integer
  | object
  deriving DecidableEq, Repr

/-- A number without a fractional part is an integer, however it is written. -/
def JsonType.admits : JsonType → Json → Bool
  | .string, .string _ => true
  | .integer, .number mantissa places => mantissa % 10 ^ places == 0
  | .object, .object _ => true
  | _, _ => false

/-- Equality of the scalars that `const` and `enum` list: a boolean is no number. -/
def scalarEq : Json → Json → Bool
  | .number m p, .number n q => m * 10 ^ q == n * 10 ^ p
  | .string s, .string t => s == t
  | _, _ => false

inductive Keyword
  | type (type : JsonType)
  | const (value : Json)
  | enum (values : List Json)
  | minLength (length : Nat)
  | minimum (bound : Int)
  /-- the regular expression, by what `re.search` finds -/
  | pattern (search : List Char → Bool)
  /-- the format, by its check -/
  | format (check : List Char → Bool)

def Keyword.accepts : Keyword → Json → Bool
  | .type expected, value => expected.admits value
  | .const expected, value => scalarEq expected value
  | .enum values, value => values.any fun expected => scalarEq expected value
  | .minLength length, .string s => decide (length ≤ s.toList.length)
  | .minimum bound, .number mantissa places => decide (bound * 10 ^ places ≤ mantissa)
  | .pattern search, .string s => search s.toList
  | .format check, .string s => check s.toList
  | _, _ => true

/-- `"type": "object"` with `properties`, `required` and `"additionalProperties": false` -/
structure ObjectSchema where
  properties : List (String × List Keyword)
  required : List String

def ObjectSchema.accepts (schema : ObjectSchema) : Json → Bool
  | .object members =>
      schema.required.all (fun name => ((Json.object members).member name).isSome)
        && members.all (fun m => schema.properties.any fun property => property.1 == m.1)
        && schema.properties.all fun property =>
          ((Json.object members).member property.1).all fun value =>
            property.2.all fun keyword => keyword.accepts value
  | _ => false

end JsonSchema

/-! ## Date-times as RFC 3339 writes them -/

namespace Rfc3339

/-- The value of ASCII digits. -/
def digits (text : List Char) : Option Nat :=
  if text.all fun c => decide ('0' ≤ c ∧ c ≤ '9') then
    some (text.foldl (fun n c => 10 * n + (c.toNat - '0'.toNat)) 0)
  else none

theorem isDigit_of_digits {c : Char} {text : List Char} {n : Nat}
    (h : digits (c :: text) = some n) : c.isDigit = true := by
  unfold digits at h
  split at h
  · rename_i hall
    rw [List.all_cons, Bool.and_eq_true, decide_eq_true_eq] at hall
    exact Char.isDigit_iff_toNat.mpr hall.1
  · cases h

def daysInMonth (year month : Nat) : Nat :=
  if month = 2 then
    if year % 4 = 0 ∧ (year % 100 ≠ 0 ∨ year % 400 = 0) then 29 else 28
  else if month = 4 ∨ month = 6 ∨ month = 9 ∨ month = 11 then 30
  else 31

/-- `Z` or an offset in hours and minutes. -/
def isOffset : List Char → Bool
  | [c] => c == 'Z' || c == 'z'
  | [sign, h1, h2, colon, m1, m2] =>
      (sign == '+' || sign == '-') && colon == ':'
        && (digits [h1, h2]).any (fun n => decide (n < 24))
        && (digits [m1, m2]).any fun n => decide (n < 60)
  | _ => false

/-- The text behind an optional fraction of a second. -/
def dropFraction : List Char → Option (List Char)
  | '.' :: rest =>
      if rest.head?.any Char.isDigit then some (rest.dropWhile Char.isDigit) else none
  | rest => some rest

/-- The text behind a date and a time with seconds. The second is never 60 here. -/
def dropLocal : List Char → Option (List Char)
  | y1 :: y2 :: y3 :: y4 :: dash :: m1 :: m2 :: dash' :: d1 :: d2 :: t :: h1 :: h2 :: colon ::
      n1 :: n2 :: colon' :: s1 :: s2 :: rest => do
      guard ([dash, dash', colon, colon'] == ['-', '-', ':', ':'] && (t == 'T' || t == 't'))
      let year ← digits [y1, y2, y3, y4]
      let month ← digits [m1, m2]
      let day ← digits [d1, d2]
      guard (1 ≤ year ∧ 1 ≤ month ∧ month ≤ 12 ∧ 1 ≤ day ∧ day ≤ daysInMonth year month)
      let hour ← digits [h1, h2]
      let minute ← digits [n1, n2]
      let second ← digits [s1, s2]
      guard (hour < 24 ∧ minute < 60 ∧ second < 60)
      dropFraction rest
  | _ => none

theorem any_isDigit_of_dropLocal {text rest : List Char} (h : dropLocal text = some rest) :
    text.any Char.isDigit = true := by
  unfold dropLocal at h
  split at h
  · rename_i y1 _ _ _ _ _ _ _ _ _ _ _ _ _ _ _ _ _ _ _
    obtain ⟨_, -, h⟩ := Option.bind_eq_some_iff.mp h
    obtain ⟨year, hyear, -⟩ := Option.bind_eq_some_iff.mp h
    have hfirst : y1.isDigit = true := isDigit_of_digits hyear
    rw [List.any_cons, hfirst, Bool.true_or]
  · cases h

/-- A date and time with an offset. -/
def isDateTime (text : List Char) : Bool := (dropLocal text).any isOffset

/-- The text behind digits where a date and a time have digits, whatever they say. -/
def dropDigits : List Char → Option (List Char)
  | y1 :: y2 :: y3 :: y4 :: dash :: m1 :: m2 :: dash' :: d1 :: d2 :: t :: h1 :: h2 :: colon ::
      n1 :: n2 :: colon' :: s1 :: s2 :: rest =>
      if [dash, dash', colon, colon'] == ['-', '-', ':', ':'] && (t == 'T' || t == 't')
          && [y1, y2, y3, y4, m1, m2, d1, d2, h1, h2, n1, n2, s1, s2].all Char.isDigit then
        dropFraction rest
      else none
  | _ => none

/-- No offset, or one with digits where it has digits. -/
def endsFormat : List Char → Bool
  | [] => true
  | [c] => c == 'Z' || c == 'z'
  | [sign, h1, h2, colon, m1, m2] =>
      (sign == '+' || sign == '-') && colon == ':' && [h1, h2, m1, m2].all Char.isDigit
  | _ => false

/-- In the format of a date and time, but without an offset or with a part that is out of range. -/
def isMisdated (text : List Char) : Bool := (dropDigits text).any endsFormat && !isDateTime text

example : isDateTime "2028-02-29T18:00:00.5+05:30".toList = true := by decide

example : isMisdated "2026-07-23T18:00:00".toList = true := by decide

example : isMisdated "2026-02-29T18:00:00Z".toList = true := by decide

end Rfc3339
