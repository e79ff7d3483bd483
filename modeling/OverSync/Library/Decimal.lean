import Mathlib.Algebra.Order.Field.Basic
import Mathlib.Algebra.Order.Ring.Rat
import Mathlib.Data.List.TakeWhile
import Mathlib.Data.Nat.Cast.Field
import Mathlib.Data.Rat.Cast.Defs
import Mathlib.Tactic.Positivity
import OverSync.Library.BigIntLiteral

/-! # Decimal numerals

Strings of digits and the numbers they write, before and behind a decimal point. -/

namespace OverSync.Library

/-- A string of decimal digits, which may be empty. -/
structure Digits where
  chars : List Char
  isDigits : ∀ c ∈ chars, c.isDigit
  deriving DecidableEq

namespace Digits

def length (ds : Digits) : ℕ := ds.chars.length

def empty : Digits := ⟨[], by simp⟩

instance : Append Digits where
  append ds es := ⟨ds.chars ++ es.chars, fun c hc =>
    (List.mem_append.mp hc).elim (ds.isDigits c) (es.isDigits c)⟩

/-- The number the digits write; none write zero. -/
def value (ds : Digits) : ℕ := Nat.ofDigitChars 10 ds.chars 0

def zeros (n : ℕ) : Digits := ⟨List.replicate n '0', by
  intro c hc
  rw [List.eq_of_mem_replicate hc]
  rfl⟩

/-- `ds.padStart(n, "0")` -/
def padStart (ds : Digits) (n : ℕ) : Digits := zeros (n - ds.length) ++ ds

/-- `ds.padEnd(n, "0")` -/
def padEnd (ds : Digits) (n : ℕ) : Digits := ds ++ zeros (n - ds.length)

/-- `n.toString()` -/
def ofNat (n : ℕ) : Digits :=
  ⟨Nat.toDigits 10 n, fun _ hc => Nat.isDigit_of_mem_toDigits (by decide) (by decide) hc⟩

/-- What `\d*` matches at the start, and what is left. -/
def span (s : List Char) : Digits × List Char :=
  (⟨s.takeWhile Char.isDigit, fun _ hc => List.mem_takeWhile_imp hc⟩, s.dropWhile Char.isDigit)

/-- A match of `^\d*$`. -/
def ofChars? (s : List Char) : Option Digits :=
  if h : s.all Char.isDigit then some ⟨s, List.all_eq_true.mp h⟩ else none

variable {ds es : Digits} {s : List Char} {n : ℕ}

theorem ext (h : ds.chars = es.chars) : ds = es := by
  cases ds
  cases es
  simp_all

@[simp] theorem chars_append : (ds ++ es).chars = ds.chars ++ es.chars := rfl

@[simp] theorem chars_empty : empty.chars = [] := rfl

@[simp] theorem chars_zeros : (zeros n).chars = List.replicate n '0' := rfl

@[simp] theorem length_append : (ds ++ es).length = ds.length + es.length :=
  List.length_append

@[simp] theorem length_zeros : (zeros n).length = n := List.length_replicate

@[simp] theorem length_empty : empty.length = 0 := rfl

theorem append_assoc (ds es fs : Digits) : ds ++ es ++ fs = ds ++ (es ++ fs) :=
  ext (List.append_assoc _ _ _)

@[simp] theorem append_empty : ds ++ empty = ds := ext (List.append_nil _)

@[simp] theorem ofChars?_chars : ofChars? ds.chars = some ds :=
  dif_pos (List.all_eq_true.mpr ds.isDigits)

theorem ofChars?_eq_some : ofChars? s = some ds ↔ s = ds.chars := by
  constructor
  · intro h
    unfold ofChars? at h
    split_ifs at h
    rw [← Option.some.inj h]
  · rintro rfl
    exact ofChars?_chars

theorem length_eq_zero : ds.length = 0 ↔ ds.chars = [] := List.length_eq_zero_iff

/-- The digits at the start of a text end at the first other character. -/
theorem span_append (hs : ∀ c ∈ s.head?, ¬c.isDigit) : span (ds.chars ++ s) = (ds, s) := by
  have htake : s.takeWhile Char.isDigit = [] := by
    cases s with
    | nil => rfl
    | cons c s => exact List.takeWhile_cons_of_neg (hs c rfl)
  have hdrop : s.dropWhile Char.isDigit = s := by
    cases s with
    | nil => rfl
    | cons c s => exact List.dropWhile_cons_of_neg (hs c rfl)
  refine Prod.ext (ext ?_) ?_
  · exact (List.takeWhile_append_of_pos ds.isDigits).trans (by rw [htake, List.append_nil])
  · exact (List.dropWhile_append_of_pos ds.isDigits).trans hdrop

theorem span_chars : span ds.chars = (ds, []) := by
  have hspan : span (ds.chars ++ []) = (ds, []) := span_append (by simp)
  rwa [List.append_nil] at hspan

theorem span_spec (s : List Char) : s = (span s).1.chars ++ (span s).2 :=
  List.takeWhile_append_dropWhile.symm

/-! ## Values -/

@[simp] theorem value_empty : empty.value = 0 := rfl

theorem value_append : (ds ++ es).value = ds.value * 10 ^ es.length + es.value := by
  rw [value, chars_append, Nat.ofDigitChars_append, Nat.ofDigitChars_eq_ofDigitChars_zero,
    Nat.mul_comm]
  rfl

@[simp] theorem value_zeros : (zeros n).value = 0 := by
  rw [value, chars_zeros, Nat.ofDigitChars_replicate_zero, Nat.mul_zero]

@[simp] theorem value_ofNat : (ofNat n).value = n := Nat.ofDigitChars_ten_toDigits

theorem chars_ofNat_ne_nil : (ofNat n).chars ≠ [] := Nat.toDigits_ne_nil

@[simp] theorem value_padStart : (ds.padStart n).value = ds.value := by
  rw [padStart, value_append, value_zeros, Nat.zero_mul, Nat.zero_add]

theorem value_padEnd : (ds.padEnd n).value = ds.value * 10 ^ (n - ds.length) := by
  rw [padEnd, value_append, value_zeros, length_zeros, Nat.add_zero]

theorem length_padStart : (ds.padStart n).length = max n ds.length := by
  rw [padStart, length_append, length_zeros]
  omega

theorem length_ofNat_le (hn : 0 < n) {m : ℕ} : (ofNat m).length ≤ n ↔ m < 10 ^ n :=
  Nat.length_toDigits_le_iff (by decide) hn

/-! ## Reading -/

theorem toNat_of_isDigit {c : Char} (h : c.isDigit) : 48 ≤ c.toNat ∧ c.toNat ≤ 57 := by
  simpa [Char.isDigit, UInt32.le_iff_toNat_le] using h

theorem digitValue_of_isDigit {c : Char} (h : c.isDigit) :
    digitValue c = some (c.toNat - 48) ∧ c.toNat - 48 < 10 := by
  have hrange := toNat_of_isDigit h
  exact ⟨if_pos hrange, by omega⟩

theorem isJsSpace_of_isDigit {c : Char} (h : c.isDigit) : isJsSpace c = false := by
  have hrange := toNat_of_isDigit h
  simp only [isJsSpace, decide_eq_false_iff_not]
  omega

theorem parseDigits_chars : ∀ {s : List Char} (acc : ℕ), (∀ c ∈ s, c.isDigit) →
    parseDigits 10 acc s = some (Nat.ofDigitChars 10 s acc) := by
  intro s
  induction s with
  | nil => intro acc _; rfl
  | cons c s ih =>
      intro acc hs
      obtain ⟨hvalue, hlt⟩ := digitValue_of_isDigit (hs c (by simp))
      rw [parseDigits, hvalue]
      simp only [hlt, if_true]
      rw [ih _ fun c hc => hs c (by simp [hc]), Nat.ofDigitChars_cons, Nat.mul_comm]
      rfl

end Digits

/-- A text without white space keeps every character. -/
theorem jsTrim_of_not_space {s : List Char} (h : ∀ c ∈ s, isJsSpace c = false) : jsTrim s = s := by
  have hdrop : ∀ t : List Char, (∀ c ∈ t, isJsSpace c = false) → t.dropWhile isJsSpace = t := by
    intro t ht
    cases t with
    | nil => rfl
    | cons c t => exact List.dropWhile_cons_of_neg (by simp [ht c (by simp)])
  rw [jsTrim, hdrop s h, hdrop _ fun c hc => h c (List.mem_reverse.mp hc), List.reverse_reverse]

/-- `BigInt` of a string of digits. -/
theorem parseBigInt_digits (ds : Digits) :
    parseBigInt (String.ofList ds.chars) = some (ds.value : ℤ) := by
  have htrim : jsTrim ds.chars = ds.chars :=
    jsTrim_of_not_space fun c hc => Digits.isJsSpace_of_isDigit (ds.isDigits c hc)
  have hnot : ∀ c : Char, c.isDigit = false → c ∉ ds.chars := by
    intro c hc hmem
    rw [ds.isDigits c hmem] at hc
    contradiction
  rw [parseBigInt, String.toList_ofList, htrim]
  split
  case h_1 h => rw [Digits.value, h]; rfl
  case h_2 h => exact absurd (by simp [h]) (hnot 'x' rfl)
  case h_3 h => exact absurd (by simp [h]) (hnot 'X' rfl)
  case h_4 h => exact absurd (by simp [h]) (hnot 'o' rfl)
  case h_5 h => exact absurd (by simp [h]) (hnot 'O' rfl)
  case h_6 h => exact absurd (by simp [h]) (hnot 'b' rfl)
  case h_7 h => exact absurd (by simp [h]) (hnot 'B' rfl)
  case h_8 h => exact absurd (by simp [h]) (hnot '-' rfl)
  case h_9 h => exact absurd (by simp [h]) (hnot '+' rfl)
  case h_10 hne _ _ _ _ _ _ _ _ =>
    rw [parseNatural, if_neg hne, Digits.parseDigits_chars 0 ds.isDigits]
    rfl

/-! ## Numerals with a point -/

/-- Digits before the point and behind it. -/
structure Decimal where
  whole : Digits
  fraction : Digits
  deriving DecidableEq

namespace Decimal

/-- The number in units of its last place. -/
def mantissa (x : Decimal) : ℕ := (x.whole ++ x.fraction).value

/-- The number. -/
def value (x : Decimal) : ℚ := x.whole.value + x.fraction.value / 10 ^ x.fraction.length

/-- `a` units of the `d`-th place, written with `d` places, or with one if `d` is zero. -/
def ofAtomic (a d : ℕ) : Decimal := ⟨.ofNat (a / 10 ^ d), (Digits.ofNat (a % 10 ^ d)).padStart d⟩

variable {x y : Decimal} {d : ℕ}

theorem mantissa_eq (x : Decimal) :
    x.mantissa = x.whole.value * 10 ^ x.fraction.length + x.fraction.value :=
  Digits.value_append

theorem value_mul (x : Decimal) : x.value * 10 ^ x.fraction.length = x.mantissa := by
  rw [mantissa_eq, value, add_mul, div_mul_cancel₀ _ (by positivity)]
  push_cast
  rfl

/-- A fraction that is short enough is scaled up. -/
theorem scaled_of_le (h : x.fraction.length ≤ d) :
    x.value * 10 ^ d = ((x.mantissa * 10 ^ (d - x.fraction.length) : ℕ) : ℚ) := by
  obtain ⟨k, rfl⟩ := Nat.exists_eq_add_of_le h
  rw [Nat.add_sub_cancel_left, pow_add, ← mul_assoc, value_mul]
  push_cast
  rfl

/-- A longer one is scaled down. -/
theorem scaled_of_ge (h : d ≤ x.fraction.length) :
    x.value * 10 ^ d * (10 ^ (x.fraction.length - d) : ℕ) = x.mantissa := by
  push_cast
  rw [mul_assoc, ← pow_add, Nat.add_sub_cancel' h, value_mul]

/-- It is an integer if the places that go are all zeros. -/
theorem scaled_eq_iff_of_ge (h : d ≤ x.fraction.length) {n : ℤ} :
    x.value * 10 ^ d = n ↔ n * (10 ^ (x.fraction.length - d) : ℕ) = (x.mantissa : ℤ) := by
  have hpos : ((10 ^ (x.fraction.length - d) : ℕ) : ℚ) ≠ 0 := by positivity
  rw [← mul_left_inj' hpos, scaled_of_ge h, eq_comm]
  norm_cast

theorem value_eq_zero (x : Decimal) : x.value = 0 ↔ x.mantissa = 0 := by
  have hpos : ((10 : ℚ) ^ x.fraction.length) ≠ 0 := by positivity
  rw [← mul_eq_zero_iff_right hpos, value_mul, Nat.cast_eq_zero]

theorem scaled_ofAtomic (a d : ℕ) : (ofAtomic a d).value * 10 ^ d = a := by
  have hdiv : a / 10 ^ d * 10 ^ d + a % 10 ^ d = a := Nat.div_add_mod' a _
  rcases Nat.eq_zero_or_pos d with rfl | hd
  · have hzero : (ofAtomic a 0).fraction.value = 0 := by
      rw [ofAtomic, Digits.value_padStart, Digits.value_ofNat, Nat.pow_zero, Nat.mod_one]
    rw [value, hzero, ofAtomic, Digits.value_ofNat]
    simp
  · have hlength : (ofAtomic a d).fraction.length = d := by
      have hle := (Digits.length_ofNat_le hd).mpr (Nat.mod_lt a (show 0 < 10 ^ d by positivity))
      rw [ofAtomic, Digits.length_padStart]
      omega
    have hmantissa : (ofAtomic a d).mantissa = a := by
      rw [mantissa_eq, hlength, ofAtomic, Digits.value_ofNat, Digits.value_padStart,
        Digits.value_ofNat, hdiv]
    rw [← hmantissa, ← value_mul, hlength, hmantissa]

end Decimal

/-- Digits, optionally with a point and digits behind it. -/
inductive Numeral : List Char → Decimal → Prop where
  | whole {w : Digits} : w.chars ≠ [] → Numeral w.chars ⟨w, .empty⟩
  | point {w f : Digits} : w.chars ≠ [] → f.chars ≠ [] →
      Numeral (w.chars ++ '.' :: f.chars) ⟨w, f⟩

theorem Numeral.ofAtomic (a d : ℕ) :
    Numeral ((Decimal.ofAtomic a d).whole.chars ++ '.' :: (Decimal.ofAtomic a d).fraction.chars)
      (Decimal.ofAtomic a d) := by
  refine .point Digits.chars_ofNat_ne_nil fun hnil => ?_
  rw [Decimal.ofAtomic, Digits.padStart, Digits.chars_append] at hnil
  exact Digits.chars_ofNat_ne_nil (List.append_eq_nil_iff.mp hnil).2

/-- Every character is a digit or a point. -/
theorem Numeral.mem {s : List Char} {x : Decimal} (h : Numeral s x) :
    ∀ c ∈ s, c.isDigit ∨ c = '.' := by
  intro c hc
  cases h with
  | @whole w _ => exact .inl (w.isDigits c hc)
  | @point w f _ _ =>
      rcases List.mem_append.mp hc with hc | hc
      · exact .inl (w.isDigits c hc)
      · rcases List.mem_cons.mp hc with rfl | hc
        · exact .inr rfl
        · exact .inl (f.isDigits c hc)

theorem Numeral.jsTrim {s : List Char} {x : Decimal} (h : Numeral s x) : jsTrim s = s := by
  refine jsTrim_of_not_space fun c hc => ?_
  rcases h.mem c hc with hdigit | rfl
  · exact Digits.isJsSpace_of_isDigit hdigit
  · rfl

end OverSync.Library
