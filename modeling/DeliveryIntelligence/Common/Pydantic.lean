import DeliveryIntelligence.Common.Datetime
import DeliveryIntelligence.Common.Json
import DeliveryIntelligence.Common.Python
import Mathlib.Data.List.DropRight

set_option autoImplicit false

/-!
# The fields of pydantic models

`StringConstraints(strip_whitespace=True)` removes the Unicode white space around a text. The
separators `U+001C..U+001F`, which `str.strip` removes as well, are not white space, so a
stripped text may consist of nothing else: `hasText` is then false although the text is not
empty. What a field type promises about its values is a field of its structure here.

The conversions of the lax mode that start from a float or from text are pydantic's own
(`Lax`); a value of the type itself is never converted.
-/

namespace Pydantic

/-- The code points with the Unicode property `White_Space`. -/
def isWhiteSpaceCode (n : Nat) : Bool :=
  Python.isSpaceCode n && !decide (28 ≤ n ∧ n ≤ 31)

def isWhiteSpace (c : Char) : Bool := isWhiteSpaceCode c.toNat

/-- `strip_whitespace=True` -/
def strip (s : String) : String :=
  String.ofList ((s.toList.dropWhile isWhiteSpace).rdropWhile isWhiteSpace)

/-- The text begins and ends with a character that is no white space. -/
def Stripped (s : String) : Prop :=
  (∀ c ∈ s.toList.head?, isWhiteSpace c = false) ∧ ∀ c ∈ s.toList.getLast?, isWhiteSpace c = false

instance (s : String) : Decidable (Stripped s) :=
  decidable_of_iff (s.toList.head?.all (!isWhiteSpace ·) = true
      ∧ s.toList.getLast?.all (!isWhiteSpace ·) = true) (by
    unfold Stripped
    rw [Option.all_eq_true, Option.all_eq_true]
    simp only [Bool.not_eq_true', Option.mem_def])

theorem stripped_strip (s : String) : Stripped (strip s) := by
  unfold Stripped strip
  rw [String.toList_ofList]
  constructor
  · intro c hc
    -- dropping at the end keeps the first character, unless nothing is left
    obtain ⟨tail, htail⟩ := List.rdropWhile_prefix isWhiteSpace (s.toList.dropWhile isWhiteSpace)
    have hfirst : (s.toList.dropWhile isWhiteSpace).head? = some c := by
      rw [← htail, List.head?_append, Option.mem_def.mp hc]
      rfl
    have hkept := List.head?_dropWhile_not isWhiteSpace s.toList
    rw [hfirst] at hkept
    simpa using hkept
  · intro c hc
    rw [List.rdropWhile, List.getLast?_reverse] at hc
    have hkept := List.head?_dropWhile_not isWhiteSpace (s.toList.dropWhile isWhiteSpace).reverse
    rw [Option.mem_def.mp hc] at hkept
    simpa using hkept

/-- Stripping a second time changes nothing. -/
theorem strip_of_stripped {s : String} (h : Stripped s) : strip s = s := by
  have hfront : s.toList.dropWhile isWhiteSpace = s.toList := by
    refine List.dropWhile_eq_self_iff.mpr fun hlength => ?_
    have hhead := h.1 (s.toList[0]) (by rw [List.head?_eq_getElem?]; simp)
    rw [hhead]
    exact Bool.false_ne_true
  have hback : s.toList.rdropWhile isWhiteSpace = s.toList := by
    refine List.rdropWhile_eq_self_iff.mpr fun hne => ?_
    have hlast := h.2 (s.toList.getLast hne) (by rw [List.getLast?_eq_some_getLast hne]; rfl)
    rw [hlast]
    exact Bool.false_ne_true
  unfold strip
  rw [hfront, hback, String.ofList_toList]

theorem isWhiteSpace_blank : isWhiteSpace ' ' = true := by decide

/-- A stripped text that is not empty passes `btrim(value) <> ''`. -/
theorem nonempty_of_stripped {s : String} (h : Stripped s) (hne : s ≠ "") :
    Postgres.nonempty s = true := by
  cases htext : s.toList with
  | nil => exact absurd (String.toList_eq_nil_iff.mp htext) hne
  | cons c rest =>
      have hc : isWhiteSpace c = false := h.1 c (by rw [htext]; rfl)
      have hblank : c ≠ ' ' := by
        rintro rfl
        rw [isWhiteSpace_blank] at hc
        cases hc
      unfold Postgres.nonempty
      rw [htext, List.any_cons]
      simp [hblank]

/-- So does every text that Python finds not blank. -/
theorem nonempty_of_hasText {s : String} (h : Python.hasText s = true) :
    Postgres.nonempty s = true := by
  obtain ⟨c, hc, hspace⟩ := List.any_eq_true.mp h
  refine List.any_eq_true.mpr ⟨c, hc, ?_⟩
  have hblank : c ≠ ' ' := by
    rintro rfl
    exact absurd hspace (by decide)
  simpa using hblank

/-! ## Field types -/

/-- `Annotated[str, StringConstraints(strip_whitespace=True, min_length=1)]` -/
structure NonEmptyString where
  text : String
  nonempty : text ≠ ""
  stripped : Stripped text

def NonEmptyString.validate (s : String) : Option NonEmptyString :=
  if h : strip s ≠ "" then some ⟨strip s, h, stripped_strip s⟩ else none

theorem NonEmptyString.validate_text (t : NonEmptyString) : validate t.text = some t := by
  have hstrip := strip_of_stripped t.stripped
  unfold validate
  rw [dif_pos (by rw [hstrip]; exact t.nonempty)]
  congr 1
  cases t
  simp only [mk.injEq]
  exact hstrip

/-- `int` with `Field(gt=0)` -/
abbrev PositiveInt := { n : Int // 0 < n }

def PositiveInt.check (n : Int) : Option PositiveInt :=
  if h : 0 < n then some ⟨n, h⟩ else none

theorem PositiveInt.check_val (n : PositiveInt) : check n.val = some n := dif_pos n.property

/-- The conversions of the lax mode. -/
structure Lax where
  /-- an `int` from a float, which is given by its decimal -/
  intOfFloat : Int → Nat → Option Int
  intOfText : String → Option Int
  /-- whether `Literal[1]` admits a float or a boolean -/
  literalOne : Json → Bool
  awareDatetime : Json → Option Datetime.Aware

/-- `int` -/
def Lax.int (lax : Lax) : Json → Option Int
  | .number n 0 => some n
  | .number mantissa places => lax.intOfFloat mantissa places
  | .bool b => some (if b then 1 else 0)
  | .string s => lax.intOfText s
  | _ => none

/-- `Literal[1]` -/
def Lax.one (lax : Lax) : Json → Bool
  | .number n 0 => n == 1
  | .number mantissa places => lax.literalOne (.number mantissa places)
  | .bool b => lax.literalOne (.bool b)
  | _ => false

end Pydantic
