import DeliveryIntelligence.Common.Datetime
import DeliveryIntelligence.Common.Json
import DeliveryIntelligence.Library.Query

set_option autoImplicit false

/-!
# The database the dbt models run on

`Server` holds what PostgreSQL decides by itself: which texts are values of a type, the order of
texts, lower case and the offsets of the time zones. The rest of the file is what the models
under `dbt/github_analytics` share: the text of a place in a `jsonb` document, casts, the
durations of `extract(epoch from ..)::bigint`, the dates of an instant and the two arithmetic
operations on `numeric`. The session time zone is UTC.
-/

namespace Dbt

open Postgres Query

/-- The type input functions of the server, its collation and its time zones. A cast that gives
`none` is an error of the statement. -/
structure Server where
  integer : String → Option Int
  bigint : String → Option Int
  boolean : String → Option Bool
  timestamptz : String → Option Timestamp
  /-- the text of a `jsonb` array or object -/
  compositeText : Json → String
  lower : String → String
  compareText : String → String → Ordering
  /-- the offset from UTC of a named time zone at an instant, in microseconds -/
  utcOffset : String → Timestamp → Int
  bigint_separator : ∀ {text : String} {n : Int}, bigint text = some n → ':' ∉ text.toList
  compareText_trans : Std.TransCmp compareText
  compareText_eq : Std.LawfulEqCmp compareText
  utcOffset_utc : ∀ t, utcOffset "UTC" t = 0

attribute [instance] Server.compareText_trans Server.compareText_eq

variable (server : Server)

/-! ## Texts of a document -/

/-- The text of a `numeric` with the given number of digits after the point. -/
def numericText (mantissa : Int) (scale : Nat) : String :=
  if scale = 0 then toString mantissa
  else
    (if mantissa < 0 then "-" else "") ++ toString (mantissa.natAbs / 10 ^ scale) ++ "."
      ++ Datetime.padded scale ((mantissa.natAbs % 10 ^ scale : Nat) : Int)

/-- `payload #> path` -/
def atPath : List String → Json → Option Json
  | [], document => some document
  | name :: rest, document => (document.member name).bind (atPath rest)

/-- `payload #>> path` -/
def textAt (payload : Json) (path : List String) : Option String :=
  match atPath path payload with
  | none | some .null => none
  | some (.bool b) => some (if b then "true" else "false")
  | some (.number mantissa scale) => some (numericText mantissa scale)
  | some (.string s) => some s
  | some document => some (server.compositeText document)

/-! ## Casts -/

/-- `value::type` -/
def cast {α : Type} (type : String) (read : String → Option α) :
    Option String → Except Error (Option α)
  | none => .ok none
  | some text =>
      match read text with
      | none => .error (.invalidInput type)
      | some value => .ok (some value)

/-- `coalesce(a, b, ..)` of casts: a later one is evaluated when the earlier ones are null. -/
def coalesceCasts {α : Type} : List (Except Error (Option α)) → Except Error (Option α)
  | [] => .ok none
  | value :: rest => do
      match ← value with
      | some found => return some found
      | none => coalesceCasts rest

/-- `value ~ '^[0-9]+$'` -/
def isNumeral (text : String) : Bool := text.toList != [] && text.toList.all Char.isDigit

/-- The macro `github_bigint`: a numeral is cast, any other text is null. -/
def githubBigint (value : Option String) : Except Error (Option Int) :=
  cast "bigint" server.bigint (value.filter isNumeral)

/-- `case when value !~ '^[0-9]+$' then value end` -/
def nodeId (value : Option String) : Option String := value.filter fun text => !isNumeral text

/-- `repository_id::text || ':' || part` -/
def repositoryKey (repositoryId : Int) (part : Option String) : Option String :=
  part.map fun text => toString repositoryId ++ ":" ++ text

/-! ## Instants -/

/-- A number of microseconds in seconds, as a cast of `numeric` to `bigint` rounds it. -/
def wholeSeconds (micros : Int) : Int :=
  if 0 ≤ micros then (2 * micros + Datetime.microsPerSecond) / (2 * Datetime.microsPerSecond)
  else -((2 * -micros + Datetime.microsPerSecond) / (2 * Datetime.microsPerSecond))

/-- `extract(epoch from (later - earlier))::bigint` -/
def secondsBetween (later earlier : Option Timestamp) : Option Int :=
  Option.map₂ (fun t s => wholeSeconds (t - s)) later earlier

/-- `instant::date` -/
def utcDate (t : Timestamp) : Int := t / Datetime.microsPerDay

/-- `(instant at time zone zone)::date` -/
def localDate (zone : String) (t : Timestamp) : Int :=
  (t + server.utcOffset zone t) / Datetime.microsPerDay

theorem wholeSeconds_nonneg {micros : Int} (h : 0 ≤ micros) : 0 ≤ wholeSeconds micros := by
  unfold wholeSeconds Datetime.microsPerSecond
  rw [if_pos h]
  omega

/-! ## Numbers -/

/-- A rational number with the given number of digits after the point, ties away from zero. -/
def roundedTo (digits : Nat) (q : ℚ) : ℚ :=
  let scaled := q * 10 ^ digits
  (if 0 ≤ scaled then ⌊scaled + 1 / 2⌋ else -⌊-scaled + 1 / 2⌋) / 10 ^ digits

/-- The place and the value of the first digit of a number in base 10000. -/
def firstDigit (n : Nat) : Nat × Nat :=
  let weight := Nat.log 10000 n
  (weight, n / 10000 ^ weight)

/-- The scale `numeric` division gives the quotient of two integers: sixteen significant digits,
counted in base 10000. -/
def divisionScale (dividend divisor : Int) : Nat :=
  let (weight₁, first₁) := firstDigit dividend.natAbs
  let (weight₂, first₂) := firstDigit divisor.natAbs
  let weight : Int := (weight₁ : Int) - weight₂ - (if first₁ ≤ first₂ then 1 else 0)
  (16 - weight * 4).toNat

/-- `dividend::numeric / divisor::numeric` -/
def numericDivision (dividend divisor : Int) : ℚ :=
  roundedTo (divisionScale dividend divisor) ((dividend : ℚ) / divisor)

theorem roundedTo_intCast (digits : Nat) (n : Int) : roundedTo digits n = n := by
  have hpos : (0 : ℚ) < 10 ^ digits := by positivity
  have hscaled : (n : ℚ) * 10 ^ digits = ((n * 10 ^ digits : Int) : ℚ) := by push_cast; rfl
  have hfloor : ∀ m : Int, ⌊(m : ℚ) + 1 / 2⌋ = m := fun m => by
    rw [Int.floor_intCast_add]
    norm_num
  unfold roundedTo
  simp only [hscaled]
  split
  · rw [hfloor, ← hscaled, mul_div_assoc, div_self hpos.ne', mul_one]
  · rw [← Int.cast_neg, hfloor, Int.cast_neg, Int.cast_neg, neg_neg, ← hscaled, mul_div_assoc,
      div_self hpos.ne', mul_one]

theorem abs_nearest_sub_le (x : ℚ) :
    |((if 0 ≤ x then ⌊x + 1 / 2⌋ else -⌊-x + 1 / 2⌋ : Int) : ℚ) - x| ≤ 1 / 2 := by
  rw [abs_le]
  by_cases hx : 0 ≤ x
  · have hle := Int.floor_le (x + 1 / 2)
    have hlt := Int.lt_floor_add_one (x + 1 / 2)
    rw [if_pos hx]
    constructor <;> linarith
  · have hle := Int.floor_le (-x + 1 / 2)
    have hlt := Int.lt_floor_add_one (-x + 1 / 2)
    rw [if_neg hx, Int.cast_neg]
    constructor <;> linarith

/-- Rounding moves a number by at most half a unit of its last digit. -/
theorem abs_roundedTo_sub_le (digits : Nat) (q : ℚ) :
    |roundedTo digits q - q| ≤ 1 / (2 * 10 ^ digits) := by
  have hpos : (0 : ℚ) < 10 ^ digits := by positivity
  have hround : roundedTo digits q - q
      = (((if 0 ≤ q * 10 ^ digits then ⌊q * 10 ^ digits + 1 / 2⌋
          else -⌊-(q * 10 ^ digits) + 1 / 2⌋ : Int) : ℚ) - q * 10 ^ digits) / 10 ^ digits := by
    unfold roundedTo
    rw [sub_div, mul_div_assoc, div_self hpos.ne', mul_one]
  rw [hround, abs_div, abs_of_pos hpos]
  calc _ ≤ (1 / 2 : ℚ) / 10 ^ digits :=
        div_le_div_of_nonneg_right (abs_nearest_sub_le _) hpos.le
    _ = 1 / (2 * 10 ^ digits) := by rw [div_div]

/-- A quotient of at most one has at least sixteen digits after the point. -/
theorem divisionScale_of_le {dividend divisor : Nat} (h : dividend ≤ divisor) :
    16 ≤ divisionScale dividend divisor := by
  have hweight : Nat.log 10000 dividend ≤ Nat.log 10000 divisor := Nat.log_mono_right h
  unfold divisionScale firstDigit
  simp only [Int.natAbs_natCast]
  split <;> omega

theorem abs_numericDivision_sub_le {dividend divisor : Nat} (h : dividend ≤ divisor) :
    |numericDivision dividend divisor - (dividend : ℚ) / divisor| ≤ 1 / (2 * 10 ^ 16) := by
  have hround := abs_roundedTo_sub_le (divisionScale dividend divisor)
    (((dividend : Int) : ℚ) / ((divisor : Int) : ℚ))
  have hscale : (10 : ℚ) ^ 16 ≤ 10 ^ divisionScale dividend divisor :=
    pow_le_pow_right₀ (by norm_num) (divisionScale_of_le h)
  unfold numericDivision
  rw [Int.cast_natCast, Int.cast_natCast] at *
  refine hround.trans ?_
  apply one_div_le_one_div_of_le
  · positivity
  · linarith

/-- The cast of a quotient of at most one to six digits is the quotient, up to half a unit of the
sixth digit and half a unit of the sixteenth. -/
theorem abs_roundedTo_numericDivision_sub_le {dividend divisor : Nat} (h : dividend ≤ divisor) :
    |roundedTo 6 (numericDivision dividend divisor) - (dividend : ℚ) / divisor|
      ≤ 1 / (2 * 10 ^ 6) + 1 / (2 * 10 ^ 16) :=
  (abs_sub_le _ (numericDivision dividend divisor) _).trans
    (add_le_add (abs_roundedTo_sub_le 6 _) (abs_numericDivision_sub_le h))

/-! ## A server for small inputs -/

/-- The value of a numeral. -/
def numeral (text : String) : Option Int :=
  if isNumeral text then some (Nat.ofDigitChars 10 text.toList 0) else none

/-- A server that knows numerals, the given instants and offsets, and orders texts by code
points. -/
def smallServer (instants : List (String × Timestamp)) (offsets : List (String × Int)) :
    Server where
  integer := numeral
  bigint := numeral
  boolean text := if text = "true" then some true else if text = "false" then some false else none
  timestamptz text := instants.lookup text
  compositeText _ := ""
  lower text := String.ofList (text.toList.map Char.toLower)
  compareText := compare
  utcOffset zone _ := if zone = "UTC" then 0 else (offsets.lookup zone).getD 0
  bigint_separator {text n} h := by
    intro hmem
    unfold numeral at h
    split at h
    · rename_i hnumeral
      unfold isNumeral at hnumeral
      rw [Bool.and_eq_true, List.all_eq_true] at hnumeral
      exact absurd (hnumeral.2 ':' hmem) (by decide)
    · cases h
  compareText_trans := inferInstance
  compareText_eq := inferInstance
  utcOffset_utc _ := if_pos rfl

/-- An hour of 24 July 2026 in UTC. -/
def july24 (hour : Int) : Timestamp :=
  20658 * Datetime.microsPerDay + hour * (3600 * Datetime.microsPerSecond)

example : (Datetime.Aware.mk (july24 12) 0).isoformat = "2026-07-24T12:00:00+00:00" := by
  decide +kernel

end Dbt
