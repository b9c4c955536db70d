import Mathlib.Tactic

set_option autoImplicit false

/-!
# Base64

The standard alphabet with padding, three bytes to four characters at a time. `decode` is the
inverse a reader of the text applies; `decode_encode` says that it recovers the bytes.
-/

namespace Base64

/-- The character of a six-bit digit. -/
def digit (n : Nat) : Char :=
  if n < 26 then Char.ofNat (65 + n)
  else if n < 52 then Char.ofNat (71 + n)
  else if n < 62 then Char.ofNat (n - 4)
  else if n = 62 then '+'
  else '/'

/-- The six-bit digit of a character. -/
def value (c : Char) : Option Nat :=
  if 'A' ≤ c ∧ c ≤ 'Z' then some (c.toNat - 65)
  else if 'a' ≤ c ∧ c ≤ 'z' then some (c.toNat - 71)
  else if '0' ≤ c ∧ c ≤ '9' then some (c.toNat + 4)
  else if c = '+' then some 62
  else if c = '/' then some 63
  else none

def encode : List UInt8 → List Char
  | [] => []
  | [a] => [digit (a.toNat / 4), digit (a.toNat % 4 * 16), '=', '=']
  | [a, b] =>
      [digit (a.toNat / 4), digit (a.toNat % 4 * 16 + b.toNat / 16), digit (b.toNat % 16 * 4), '=']
  | a :: b :: c :: rest =>
      digit (a.toNat / 4) :: digit (a.toNat % 4 * 16 + b.toNat / 16)
        :: digit (b.toNat % 16 * 4 + c.toNat / 64) :: digit (c.toNat % 64) :: encode rest

def decode : List Char → Option (List UInt8)
  | [] => some []
  | w :: x :: y :: z :: rest => do
      let p ← value w
      let q ← value x
      let first := UInt8.ofNat (p * 4 + q / 16)
      if y = '=' then return [first]
      let r ← value y
      let second := UInt8.ofNat (q % 16 * 16 + r / 4)
      if z = '=' then return [first, second]
      let s ← value z
      let others ← decode rest
      return first :: second :: UInt8.ofNat (r % 4 * 64 + s) :: others
  | _ => none

theorem value_digit {n : Nat} (h : n < 64) : value (digit n) = some n := by
  have hall : ∀ n < 64, value (digit n) = some n := by decide
  exact hall n h

theorem digit_ne_pad {n : Nat} (h : n < 64) : digit n ≠ '=' := by
  have hall : ∀ n < 64, digit n ≠ '=' := by decide
  exact hall n h

theorem ofNat_eq_of_toNat {a : UInt8} {n : Nat} (h : n = a.toNat) : UInt8.ofNat n = a := by
  rw [h, UInt8.ofNat_toNat]

/-- **Round trip.** The text of a byte string determines it. -/
theorem decode_encode (bytes : List UInt8) : decode (encode bytes) = some bytes := by
  have hbyte : ∀ a : UInt8, a.toNat < 256 := fun a => a.toNat_lt
  induction bytes using encode.induct with
  | case1 => rfl
  | case2 a =>
      -- one byte left: two digits, the second padded with four zero bits
      have ha := hbyte a
      have hp : a.toNat / 4 < 64 := by omega
      have hq : a.toNat % 4 * 16 < 64 := by omega
      have hfirst : UInt8.ofNat (a.toNat / 4 * 4 + a.toNat % 4 * 16 / 16) = a :=
        ofNat_eq_of_toNat (by omega)
      simp only [encode, decode, value_digit hp, value_digit hq, if_true, hfirst,
        Option.bind_eq_bind, Option.bind_some, Option.pure_def]
  | case3 a b =>
      -- two bytes left: three digits, the third padded with two zero bits
      have ha := hbyte a
      have hb := hbyte b
      have hp : a.toNat / 4 < 64 := by omega
      have hq : a.toNat % 4 * 16 + b.toNat / 16 < 64 := by omega
      have hr : b.toNat % 16 * 4 < 64 := by omega
      have hfirst : UInt8.ofNat (a.toNat / 4 * 4 + (a.toNat % 4 * 16 + b.toNat / 16) / 16) = a :=
        ofNat_eq_of_toNat (by omega)
      have hsecond : UInt8.ofNat
          ((a.toNat % 4 * 16 + b.toNat / 16) % 16 * 16 + b.toNat % 16 * 4 / 4) = b :=
        ofNat_eq_of_toNat (by omega)
      simp only [encode, decode, value_digit hp, value_digit hq, value_digit hr,
        digit_ne_pad hr, if_false, if_true, hfirst, hsecond, Option.bind_eq_bind,
        Option.bind_some, Option.pure_def]
  | case4 a b c rest ih =>
      -- three bytes: four digits, and no padding may be read into them
      have ha := hbyte a
      have hb := hbyte b
      have hc := hbyte c
      have hp : a.toNat / 4 < 64 := by omega
      have hq : a.toNat % 4 * 16 + b.toNat / 16 < 64 := by omega
      have hr : b.toNat % 16 * 4 + c.toNat / 64 < 64 := by omega
      have hs : c.toNat % 64 < 64 := by omega
      have hfirst : UInt8.ofNat (a.toNat / 4 * 4 + (a.toNat % 4 * 16 + b.toNat / 16) / 16) = a :=
        ofNat_eq_of_toNat (by omega)
      have hsecond : UInt8.ofNat
          ((a.toNat % 4 * 16 + b.toNat / 16) % 16 * 16 + (b.toNat % 16 * 4 + c.toNat / 64) / 4)
            = b :=
        ofNat_eq_of_toNat (by omega)
      have hthird : UInt8.ofNat ((b.toNat % 16 * 4 + c.toNat / 64) % 4 * 64 + c.toNat % 64) = c :=
        ofNat_eq_of_toNat (by omega)
      simp only [encode, decode, value_digit hp, value_digit hq, value_digit hr, value_digit hs,
        digit_ne_pad hr, digit_ne_pad hs, if_false, hfirst, hsecond, hthird, ih,
        Option.bind_eq_bind, Option.bind_some, Option.pure_def]

end Base64
