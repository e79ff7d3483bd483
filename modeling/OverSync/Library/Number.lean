import Mathlib.Algebra.Order.Floor.Ring
import Mathlib.Data.Rat.Floor
import Mathlib.Tactic.Linarith
import OverSync.Library.Decimal

/-! # Numbers in strings

`Number(s)` and `x.toFixed(d)` of JavaScript, with rational numbers in the place of doubles. -/

namespace OverSync.Library

/-- Digits behind an optional sign. -/
def parseSignedDigits : List Char → Option ℤ
  | '-' :: s => (parseNatural 10 s).map Int.neg
  | '+' :: s => parseNatural 10 s
  | s => parseNatural 10 s

/-- The exponent of ten, if there is one. -/
def parseExponent : List Char → Option ℤ
  | [] => some 0
  | 'e' :: s | 'E' :: s => parseSignedDigits s
  | _ => none

/-- The digits behind the point, if there is one, and what is left. -/
def spanFraction : List Char → Digits × List Char
  | '.' :: s => Digits.span s
  | s => (.empty, s)

/-- A decimal literal without sign; at least one digit stands before the exponent. -/
def parseUnsignedDecimal (s : List Char) : Option ℚ :=
  let (whole, rest) := Digits.span s
  let (fraction, rest) := spanFraction rest
  if whole.chars = [] ∧ fraction.chars = [] then none
  else (parseExponent rest).map fun exponent => (Decimal.mk whole fraction).value * 10 ^ exponent

/-- `none` is `NaN` or an infinity. -/
def parseNumber (s : List Char) : Option ℚ :=
  match jsTrim s with
  | [] => some 0
  | '0' :: 'x' :: digits | '0' :: 'X' :: digits => (parseNatural 16 digits).map Int.cast
  | '0' :: 'o' :: digits | '0' :: 'O' :: digits => (parseNatural 8 digits).map Int.cast
  | '0' :: 'b' :: digits | '0' :: 'B' :: digits => (parseNatural 2 digits).map Int.cast
  | '-' :: s => (parseUnsignedDecimal s).map Neg.neg
  | '+' :: s => parseUnsignedDecimal s
  | s => parseUnsignedDecimal s

/-- A number in units of the `d`-th place, rounded; a half goes up. -/
def roundTo (d : ℕ) (x : ℚ) : ℤ := ⌊x * 10 ^ d + 1 / 2⌋

/-- `n` units of the `d`-th place. -/
def fixedPoint (d n : ℕ) : List Char :=
  (Decimal.ofAtomic n d).whole.chars ++ '.' :: (Decimal.ofAtomic n d).fraction.chars

/-- `x.toFixed(d)` for a positive `d`; also large numbers are written with all their digits. -/
def toFixed (d : ℕ) (x : ℚ) : List Char :=
  if x < 0 then '-' :: fixedPoint d (roundTo d (-x)).toNat else fixedPoint d (roundTo d x).toNat

variable {d m n : ℕ} {x y : ℚ}

/-! ## Numerals -/

theorem Numeral.head {s : List Char} {a : Decimal} (h : Numeral s a) :
    ∃ c rest, s = c :: rest ∧ c.isDigit := by
  cases h with
  | @whole w hw =>
      obtain ⟨c, rest, hchars⟩ := List.exists_cons_of_ne_nil hw
      exact ⟨c, rest, hchars, w.isDigits c (by simp [hchars])⟩
  | @point w f hw hf =>
      obtain ⟨c, rest, hchars⟩ := List.exists_cons_of_ne_nil hw
      exact ⟨c, rest ++ '.' :: f.chars, by simp [hchars], w.isDigits c (by simp [hchars])⟩

/-! ## Rounding -/

theorem roundTo_nonneg (hx : 0 ≤ x) : 0 ≤ roundTo d x := by
  rw [roundTo, Int.floor_nonneg]
  positivity

theorem roundTo_eq_iff {k : ℤ} :
    roundTo d x = k ↔ (k : ℚ) - 1 / 2 ≤ x * 10 ^ d ∧ x * 10 ^ d < k + 1 / 2 := by
  rw [roundTo, Int.floor_eq_iff]
  constructor
  · rintro ⟨hle, hlt⟩
    exact ⟨by linarith, by linarith⟩
  · rintro ⟨hle, hlt⟩
    exact ⟨by linarith, by linarith⟩

/-- A number with at most `d` places stays what it is. -/
theorem roundTo_exact {k : ℤ} (h : x * 10 ^ d = k) : roundTo d x = k :=
  roundTo_eq_iff.mpr ⟨by linarith, by linarith⟩

theorem eq_of_roundTo_eq {j k : ℤ} (hx : x * 10 ^ d = j) (hy : y * 10 ^ d = k)
    (h : roundTo d x = roundTo d y) : x = y := by
  rw [roundTo_exact hx, roundTo_exact hy] at h
  have hpos : ((10 : ℚ) ^ d) ≠ 0 := by positivity
  rw [← mul_left_inj' hpos, hx, hy, h]

theorem notMem_digits (ds : Digits) : '.' ∉ ds.chars := fun hmem =>
  absurd (ds.isDigits '.' hmem) (by decide)

theorem fixedPoint_inj (h : fixedPoint d m = fixedPoint d n) : m = n := by
  obtain ⟨hwhole, -, hfraction⟩ :=
    (List.append_cons_inj_of_notMem (notMem_digits _) (notMem_digits _)).mp h
  have hdecimal : Decimal.ofAtomic m d = Decimal.ofAtomic n d := by
    rw [Decimal.mk.injEq]
    exact ⟨Digits.ext hwhole, Digits.ext hfraction⟩
  have hvalue : (m : ℚ) = n := by
    rw [← Decimal.scaled_ofAtomic m d, hdecimal, Decimal.scaled_ofAtomic]
  exact_mod_cast hvalue

theorem head_fixedPoint : (fixedPoint d n).head? ≠ some '-' := by
  obtain ⟨c, rest, hchars, hdigit⟩ := (Numeral.ofAtomic n d).head
  rw [fixedPoint, hchars, List.head?_cons]
  intro hc
  rw [Option.some.inj hc] at hdigit
  contradiction

/-- Fixed-point forms of numbers that are not negative agree exactly where the roundings do. -/
theorem toFixed_eq_iff (hy : 0 ≤ y) :
    toFixed d x = toFixed d y ↔ 0 ≤ x ∧ roundTo d x = roundTo d y := by
  have hright : toFixed d y = fixedPoint d (roundTo d y).toNat := if_neg (not_lt.mpr hy)
  rcases lt_or_ge x 0 with hx | hx
  · have hleft : toFixed d x = '-' :: fixedPoint d (roundTo d (-x)).toNat := if_pos hx
    rw [hleft, hright]
    constructor
    · intro h
      exact absurd (by rw [← h]; rfl) (head_fixedPoint (d := d) (n := (roundTo d y).toNat))
    · rintro ⟨hle, -⟩
      exact absurd hx (not_lt.mpr hle)
  · have hleft : toFixed d x = fixedPoint d (roundTo d x).toNat := if_neg (not_lt.mpr hx)
    rw [hleft, hright]
    constructor
    · intro h
      refine ⟨hx, ?_⟩
      rw [← Int.toNat_of_nonneg (roundTo_nonneg hx), fixedPoint_inj h,
        Int.toNat_of_nonneg (roundTo_nonneg hy)]
    · rintro ⟨-, h⟩
      rw [h]

end OverSync.Library
