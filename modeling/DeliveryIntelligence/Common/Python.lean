import DeliveryIntelligence.Library.Text

set_option autoImplicit false

/-!
# Python text and values

`str.strip`, the truth value the constructors of the application test with it, `str.replace`,
the conversions between integers and decimal text, and the values `json.loads` returns. A string
of Python is a sequence of code points that may contain lone surrogates (`codePoints`); text that
has been validated is a `String`. Everything is handled through lists, so that the definitions
evaluate.
-/

namespace Python

/-- Characters `str.strip` removes: Unicode whitespace and the separators `U+001C..U+001F`. -/
def isSpaceCode (n : Nat) : Bool :=
  decide (9 ≤ n ∧ n ≤ 13) || decide (28 ≤ n ∧ n ≤ 32) || n == 0x85 || n == 0xA0 || n == 0x1680
    || decide (0x2000 ≤ n ∧ n ≤ 0x200A) || n == 0x2028 || n == 0x2029 || n == 0x202F
    || n == 0x205F || n == 0x3000

def isSpace (c : Char) : Bool := isSpaceCode c.toNat

/-- The truth value of `s.strip()`. -/
def hasText (s : String) : Bool := s.toList.any fun c => !isSpace c

/-- The code points of a literal. -/
def codePoints (s : String) : List Nat := s.toList.map Char.toNat

/-- `s.split()` of a string given by its code points: the words between white space. -/
def split (codePoints : List Nat) : List (List Nat) :=
  (codePoints.splitOnP isSpaceCode).filter fun word => !word.isEmpty

/-- `s.strip()` of a string given by its code points. -/
def strip (codePoints : List Nat) : List Nat :=
  ((codePoints.dropWhile isSpaceCode).reverse.dropWhile isSpaceCode).reverse

/-- `s.lower()` of a string given by its code points, as far as its ASCII characters go: of the
others only the Kelvin sign and the dotted capital I are lowered to text with an ASCII letter. -/
def lower (codePoints : List Nat) : List Nat :=
  codePoints.flatMap fun n =>
    if 0x41 ≤ n ∧ n ≤ 0x5A then [n + 0x20]
    else if n = 0x212A then [0x6B]
    else if n = 0x130 then [0x69, 0x307]
    else [n]

/-- The text of a string that contains no lone surrogate. -/
def text (codePoints : List Nat) : Option String :=
  if codePoints.all fun n => decide n.isValidChar then
    some (String.ofList (codePoints.map Char.ofNat))
  else none

/-- `s.replace(old, new)`, where `skip` characters of an occurrence are still to be dropped. -/
def replaceFrom (old new : List Char) (skip : Nat) : List Char → List Char
  | [] => []
  | c :: rest =>
      match skip with
      | skip + 1 => replaceFrom old new skip rest
      | 0 =>
          if old.isPrefixOf (c :: rest) then new ++ replaceFrom old new (old.length - 1) rest
          else c :: replaceFrom old new 0 rest

/-- `s.replace(old, new)` for a nonempty `old`. -/
def replace (old new s : String) : String :=
  String.ofList (replaceFrom old.toList new.toList 0 s.toList)

/-! ## Decimal text -/

/-- The default of `sys.int_info.default_max_str_digits`. -/
def maxStrDigits : Nat := 4300

/-- `str(n)`, with no result where it raises `ValueError`. -/
def str (n : Int) : Option String :=
  if (toString n.natAbs).toList.length ≤ maxStrDigits then some (toString n) else none

/-- The zeros of the decimal digits of Unicode; the other nine follow each of them. -/
def digitZeros : List Nat :=
  0x30 ::
  [ 0x660, 0x6F0, 0x7C0, 0x966, 0x9E6, 0xA66, 0xAE6, 0xB66, 0xBE6, 0xC66, 0xCE6, 0xD66
  , 0xDE6, 0xE50, 0xED0, 0xF20, 0x1040, 0x1090, 0x17E0, 0x1810, 0x1946, 0x19D0, 0x1A80, 0x1A90
  , 0x1B50, 0x1BB0, 0x1C40, 0x1C50, 0xA620, 0xA8D0, 0xA900, 0xA9D0, 0xA9F0, 0xAA50, 0xABF0
  , 0xFF10, 0x104A0, 0x10D30, 0x11066, 0x110F0, 0x11136, 0x111D0, 0x112F0, 0x11450, 0x114D0
  , 0x11650, 0x116C0, 0x11730, 0x118E0, 0x11950, 0x11C50, 0x11D50, 0x11DA0, 0x11F50, 0x16A60
  , 0x16AC0, 0x16B50, 0x1D7CE, 0x1D7D8, 0x1D7E2, 0x1D7EC, 0x1D7F6, 0x1E140, 0x1E2F0, 0x1E4F0
  , 0x1E950, 0x1FBF0 ]

/-- The value of a decimal digit. -/
def decimalDigit (c : Char) : Option Nat :=
  (digitZeros.find? fun first => decide (first ≤ c.toNat ∧ c.toNat < first + 10)).map
    fun first => c.toNat - first

/-- Digits with single underscores between them; `afterDigit` tells whether one may stand
here. -/
def underscoredDigits (afterDigit : Bool) : List Char → Option (List Nat)
  | [] => if afterDigit then some [] else none
  | c :: rest =>
      if c = '_' ∧ afterDigit = true then underscoredDigits false rest
      else do
        let digit ← decimalDigit c
        let digits ← underscoredDigits true rest
        return digit :: digits

/-- The whitespace `int` ignores around a number. -/
def isNumberSpace (c : Char) : Bool :=
  isSpace c && !decide (28 ≤ c.toNat ∧ c.toNat ≤ 31)

/-- The value of unsigned decimal text. -/
def natOfText (digits : List Char) : Option Nat := do
  let values ← underscoredDigits false digits
  if values.length ≤ maxStrDigits then some (values.foldl (fun n digit => 10 * n + digit) 0)
  else none

/-- `int(s)`, with no result where it raises `ValueError`. -/
def int (s : String) : Option Int :=
  match ((s.toList.dropWhile isNumberSpace).reverse.dropWhile isNumberSpace).reverse with
  | '-' :: digits => (natOfText digits).map fun n : Nat => -Int.ofNat n
  | '+' :: digits => (natOfText digits).map Int.ofNat
  | digits => (natOfText digits).map Int.ofNat

example : int " 1_0\t" = some 10 := by decide

/-- What `float` returns. The value of a finite float is the number it is written as, without the
rounding to 53 bits; only what rounds to zero or to infinity is rounded. -/
inductive FloatValue
  | nan
  | infinity (negative : Bool)
  | finite (value : ℚ)
  deriving DecidableEq

def FloatValue.neg : FloatValue → FloatValue
  | .nan => .nan
  | .infinity negative => .infinity !negative
  | .finite value => .finite (-value)

/-- The double nearest to a number that is not negative: from half a unit above the largest one
on it is infinite, and up to half the smallest positive one it is zero. -/
def FloatValue.ofRat (value : ℚ) : FloatValue :=
  if 2 ^ 1024 - 2 ^ 970 ≤ value then .infinity false
  else if value ≤ 1 / 2 ^ 1075 then .finite 0
  else .finite value

/-- The value of digits. -/
def natOfDigits (digits : List Nat) : Nat := digits.foldl (fun n digit => 10 * n + digit) 0

/-- The part of a float behind `e`. -/
def floatExponent : List Char → Option Int
  | '-' :: digits => (underscoredDigits false digits).map fun digits => -(natOfDigits digits : Int)
  | '+' :: digits => (underscoredDigits false digits).map fun digits => (natOfDigits digits : Int)
  | digits => (underscoredDigits false digits).map fun digits => (natOfDigits digits : Int)

/-- The digits before and behind the point; one of the two parts may be left out. -/
def floatDigits (whole fraction : List Char) : Option (List Nat × List Nat) :=
  match whole, fraction with
  | whole, [] => (underscoredDigits false whole).map fun digits => (digits, [])
  | [], fraction => (underscoredDigits false fraction).map fun digits => ([], digits)
  | whole, fraction => do
      let digits ← underscoredDigits false whole
      let places ← underscoredDigits false fraction
      return (digits, places)

/-- The value of unsigned text. -/
def unsignedFloat (s : List Char) : Option FloatValue :=
  let word := String.ofList (s.map Char.toLower)
  if word = "inf" ∨ word = "infinity" then some (.infinity false)
  else if word = "nan" then some .nan
  else do
    let (number, power) := s.span fun c => c != 'e' && c != 'E'
    let (whole, fraction) := number.span (· != '.')
    let (digits, places) ← floatDigits whole (fraction.drop 1)
    let exponent ← if power = [] then some 0 else floatExponent (power.drop 1)
    return .ofRat (natOfDigits (digits ++ places) * 10 ^ (exponent - places.length))

/-- `float(s)`, with no result where it raises `ValueError`. -/
def float (s : String) : Option FloatValue :=
  match ((s.toList.dropWhile isNumberSpace).reverse.dropWhile isNumberSpace).reverse with
  | '-' :: number => (unsignedFloat number).map FloatValue.neg
  | '+' :: number => unsignedFloat number
  | number => unsignedFloat number

example : float " -1_0.5e-1" = some (.finite (-21 / 20)) := by decide +kernel

example : float "-1e400" = some (.infinity true) := by decide +kernel

theorem isDigit_range {c : Char} (h : c.isDigit = true) : 48 ≤ c.toNat ∧ c.toNat ≤ 57 :=
  Char.isDigit_iff_toNat.mp h

theorem decimalDigit_of_isDigit {c : Char} (h : c.isDigit = true) :
    decimalDigit c = some (c.toNat - '0'.toNat) := by
  have hrange := isDigit_range h
  have hascii : decide (0x30 ≤ c.toNat ∧ c.toNat < 0x30 + 10) = true :=
    decide_eq_true (by omega)
  have hfirst : (digitZeros.find? fun first => decide (first ≤ c.toNat ∧ c.toNat < first + 10))
      = some 0x30 := List.find?_cons_of_pos hascii
  unfold decimalDigit
  rw [hfirst]
  rfl

theorem underscoredDigits_of_isDigit (afterDigit : Bool) {digits : List Char}
    (hdigits : ∀ c ∈ digits, c.isDigit = true) (hne : digits ≠ [] ∨ afterDigit = true) :
    underscoredDigits afterDigit digits = some (digits.map fun c => c.toNat - '0'.toNat) := by
  -- on the digits, for both values of the flag: it is set once a digit has been read
  induction digits generalizing afterDigit with
  | nil =>
      have hafter : afterDigit = true := hne.resolve_left fun h => h rfl
      rw [hafter]
      rfl
  | cons c rest ih =>
      have hc := hdigits c List.mem_cons_self
      have hrest := ih true (fun d hd => hdigits d (List.mem_cons_of_mem _ hd)) (Or.inr rfl)
      have hunderscore : ¬ (c = '_' ∧ afterDigit = true) := by
        rintro ⟨rfl, -⟩
        exact absurd hc (by decide)
      unfold underscoredDigits
      rw [if_neg hunderscore, decimalDigit_of_isDigit hc, hrest]
      rfl

theorem natOfText_toDigits {m : Nat} (h : (Nat.toDigits 10 m).length ≤ maxStrDigits) :
    natOfText (Nat.toDigits 10 m) = some m := by
  have hvalues := underscoredDigits_of_isDigit false
    (fun c hc => Text.isDigit_of_mem_toDigits hc) (Or.inl (Nat.toDigits_ne_nil (n := m) (b := 10)))
  -- `int` and `Nat.toDigits` agree on the value of a digit
  have hfold : ((Nat.toDigits 10 m).map fun c => c.toNat - '0'.toNat).foldl
      (fun n digit => 10 * n + digit) 0 = m := by
    rw [List.foldl_map, ← Nat.ofDigitChars_eq_foldl, Nat.ofDigitChars_ten_toDigits]
  unfold natOfText
  rw [hvalues]
  show (if ((Nat.toDigits 10 m).map _).length ≤ maxStrDigits then some _ else none) = _
  rw [List.length_map, if_pos h, hfold]

/-- Text without whitespace is read as it stands. -/
theorem strip_numberSpace {s : List Char} (h : ∀ c ∈ s, isNumberSpace c = false) :
    ((s.dropWhile isNumberSpace).reverse.dropWhile isNumberSpace).reverse = s := by
  have hdrop : ∀ t : List Char, (∀ c ∈ t, isNumberSpace c = false) →
      t.dropWhile isNumberSpace = t := by
    intro t ht
    cases t with
    | nil => rfl
    | cons c rest => rw [List.dropWhile_cons_of_neg (by simp [ht c List.mem_cons_self])]
  rw [hdrop s h, hdrop s.reverse fun c hc => h c (List.mem_reverse.mp hc), List.reverse_reverse]

theorem isNumberSpace_of_isDigit {c : Char} (h : c.isDigit = true) : isNumberSpace c = false := by
  have hrange := isDigit_range h
  have hcode : isSpaceCode c.toNat = false := by
    simp only [isSpaceCode, Bool.or_eq_false_iff, decide_eq_false_iff_not, beq_eq_false_iff_ne]
    omega
  unfold isNumberSpace isSpace
  rw [hcode, Bool.false_and]

/-- `int(str(n)) == n` -/
theorem int_str {n : Int} {s : String} (h : str n = some s) : int s = some n := by
  unfold str at h
  split at h
  · rename_i hlength
    cases h
    have hdigitSpace : ∀ (m : Nat), ∀ c ∈ Nat.toDigits 10 m, isNumberSpace c = false :=
      fun m c hc => isNumberSpace_of_isDigit (Text.isDigit_of_mem_toDigits hc)
    cases n with
    | ofNat m =>
        have htext : (toString (Int.ofNat m)).toList = Nat.toDigits 10 m := Text.intText_ofNat m
        have hshort : (Nat.toDigits 10 m).length ≤ maxStrDigits := by
          rw [← Nat.toList_repr]
          exact hlength
        have hvalue := natOfText_toDigits hshort
        unfold int
        rw [htext, strip_numberSpace (hdigitSpace m)]
        -- a digit is no sign
        split
        · rename_i digits hminus
          have hdigit := Text.isDigit_of_mem_toDigits (hminus ▸ List.mem_cons_self : '-' ∈ _)
          exact absurd hdigit (by decide)
        · rename_i digits hplus
          have hdigit := Text.isDigit_of_mem_toDigits (hplus ▸ List.mem_cons_self : '+' ∈ _)
          exact absurd hdigit (by decide)
        · rw [hvalue]
          rfl
    | negSucc m =>
        -- the text of a negative number starts with the sign, which `int` takes off
        have htext : (toString (Int.negSucc m)).toList = '-' :: Nat.toDigits 10 (m + 1) :=
          Text.intText_negSucc m
        have hshort : (Nat.toDigits 10 (m + 1)).length ≤ maxStrDigits := by
          rw [← Nat.toList_repr]
          exact hlength
        have hspace : ∀ c ∈ '-' :: Nat.toDigits 10 (m + 1), isNumberSpace c = false := by
          intro c hc
          rcases List.mem_cons.mp hc with rfl | hdigit
          · decide
          · exact hdigitSpace (m + 1) c hdigit
        unfold int
        rw [htext, strip_numberSpace hspace]
        show (natOfText (Nat.toDigits 10 (m + 1))).map _ = _
        rw [natOfText_toDigits hshort]
        rfl
  · cases h

/-! ## Parsed documents -/

/-- A value `json.loads` returns. -/
inductive Value
  | none
  | bool (value : Bool)
  | int (value : Int)
  | float (repr : String)
  | str (codePoints : List Nat)
  | list (items : List Value)
  | dict (members : List (List Nat × Value))

/-- `value.get(name)` of a dictionary; a key written twice keeps its last value. -/
def get (members : List (List Nat × Value)) (name : String) : Option Value :=
  (members.reverse.find? fun m => m.1 = codePoints name).map Prod.snd

end Python
