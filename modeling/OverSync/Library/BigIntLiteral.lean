import Mathlib.Data.Int.Notation
import Mathlib.Data.Nat.Notation

/-! # Integers in strings

`BigInt(s)` of JavaScript: white space around the literal is dropped, nothing stands for zero,
and a sign may stand before decimal digits only. -/

namespace OverSync.Library

/-- White space and line terminators. -/
def isJsSpace (c : Char) : Bool :=
  (9 ≤ c.toNat ∧ c.toNat ≤ 13) ∨ c.toNat = 0x20 ∨ c.toNat = 0xA0 ∨ c.toNat = 0x1680 ∨
    (0x2000 ≤ c.toNat ∧ c.toNat ≤ 0x200A) ∨ c.toNat = 0x2028 ∨ c.toNat = 0x2029 ∨
    c.toNat = 0x202F ∨ c.toNat = 0x205F ∨ c.toNat = 0x3000 ∨ c.toNat = 0xFEFF

/-- `s.trim()` -/
def jsTrim (s : List Char) : List Char :=
  ((s.dropWhile isJsSpace).reverse.dropWhile isJsSpace).reverse

/-- The value of a digit or letter. -/
def digitValue (c : Char) : Option ℕ :=
  if '0' ≤ c ∧ c ≤ '9' then some (c.toNat - 48)
  else if 'a' ≤ c ∧ c ≤ 'z' then some (c.toNat - 87)
  else if 'A' ≤ c ∧ c ≤ 'Z' then some (c.toNat - 55)
  else none

/-- Digits of a radix, after what has been read so far. -/
def parseDigits (radix : ℕ) (value : ℕ) : List Char → Option ℕ
  | [] => some value
  | c :: cs =>
    match digitValue c with
    | some digit => if digit < radix then parseDigits radix (value * radix + digit) cs else none
    | none => none

/-- At least one digit. -/
def parseNatural (radix : ℕ) (digits : List Char) : Option ℤ :=
  if digits = [] then none else (parseDigits radix 0 digits).map Int.ofNat

/-- `none` is a `SyntaxError`. -/
def parseBigInt (s : String) : Option ℤ :=
  match jsTrim s.toList with
  | [] => some 0
  | '0' :: 'x' :: digits | '0' :: 'X' :: digits => parseNatural 16 digits
  | '0' :: 'o' :: digits | '0' :: 'O' :: digits => parseNatural 8 digits
  | '0' :: 'b' :: digits | '0' :: 'B' :: digits => parseNatural 2 digits
  | '-' :: digits => (parseNatural 10 digits).map Int.neg
  | '+' :: digits => parseNatural 10 digits
  | digits => parseNatural 10 digits

end OverSync.Library
