import Mathlib.Tactic.Ring
import OverSync.Model.RelayerUtils
import OverSync.Verification.SdkAmounts.Decimals

/-! # When the relayer reads an amount right

`parseAmount` pads a fraction that is too short, and takes one that is too long as it stands;
`formatAmount` divides by a power of ten that may be rounded. -/

namespace OverSync.RelayerUtils

open Library

variable {s : List Char} {x : Decimal} {a d div : ℕ}

/-! ## Strings of integers -/

theorem toString_toList (n : ℕ) : (toString n).toList = (Digits.ofNat n).chars := Nat.toList_repr

theorem toString_natCast (n : ℕ) : toString (n : ℤ) = toString n := rfl

theorem parseBigInt_toString (n : ℕ) : parseBigInt (toString n) = some (n : ℤ) := by
  have hdigits := parseBigInt_digits (.ofNat n)
  rwa [← toString_toList, String.ofList_toList, Digits.value_ofNat] at hdigits

theorem toString_inj {m n : ℕ} (h : toString m = toString n) : m = n := by
  have hm := parseBigInt_toString m
  rw [h, parseBigInt_toString] at hm
  exact (Int.natCast_inj.mp (Option.some.inj hm)).symm

/-! ## Parsing -/

theorem splitPoint_numeral (h : Numeral s x) : splitPoint s = (x.whole.chars, x.fraction.chars) := by
  have hnot : ∀ (ds : Digits), ∀ c ∈ ds.chars, (c ≠ '.') := by
    rintro ds c hc rfl
    exact absurd (ds.isDigits _ hc) (by decide)
  have htake : ∀ (ds : Digits) (t : List Char),
      (ds.chars ++ t).takeWhile (· ≠ '.') = ds.chars ++ t.takeWhile (· ≠ '.') := fun ds t =>
    List.takeWhile_append_of_pos fun c hc => decide_eq_true (hnot ds c hc)
  have hdrop : ∀ (ds : Digits) (t : List Char),
      (ds.chars ++ t).dropWhile (· ≠ '.') = t.dropWhile (· ≠ '.') := fun ds t =>
    List.dropWhile_append_of_pos fun c hc => decide_eq_true (hnot ds c hc)
  have hall : ∀ ds : Digits, ds.chars.takeWhile (· ≠ '.') = ds.chars := by
    intro ds
    simpa using htake ds []
  cases h with
  | @whole w _ =>
      have hnone : w.chars.dropWhile (· ≠ '.') = [] := by simpa using hdrop w []
      rw [splitPoint, hall, hnone]
      rfl
  | @point w f _ _ =>
      rw [splitPoint, htake, hdrop]
      simpa using hnot f

/-- The digits of a numeral in a row, whatever their number behind the point. -/
theorem parseAmount_numeral {amount : String} (h : Numeral amount.toList x) :
    parseAmount amount d =
      some (toString (x.mantissa * 10 ^ (d - x.fraction.length))) := by
  have hpad : padEnd x.fraction.chars d = (x.fraction.padEnd d).chars := rfl
  rw [parseAmount, splitPoint_numeral h]
  simp only
  rw [hpad, ← Digits.chars_append, parseBigInt_digits, Option.map_some, toString_natCast,
    Digits.padEnd, ← Digits.append_assoc, Digits.value_append, Digits.value_zeros,
    Digits.length_zeros, Nat.add_zero]
  rfl

/-- What is right for `parseAmount` on a numeral: the value or an error, and what the SDK says. -/
def Exact (amount : String) (x : Decimal) (d : ℕ) : Prop :=
  (parseAmount amount d = none ∨
    ∃ n : ℕ, parseAmount amount d = some (toString n) ∧ x.value * 10 ^ d = n) ∧
  ∀ v : ℤ, SdkAmounts.parseDecimalToAtomic amount d = .ok v →
    parseAmount amount d = some (toString v)

theorem exact_of_value {amount : String} {n : ℕ} (h : Numeral amount.toList x)
    (hparse : parseAmount amount d = some (toString n)) (hvalue : x.value * 10 ^ d = n) :
    Exact amount x d := by
  refine ⟨.inr ⟨n, hparse, hvalue⟩, fun v hv => ?_⟩
  obtain ⟨y, hy, hv⟩ := (SdkAmounts.parseDecimalToAtomic_eq_iff.mp hv).of_ok
  rw [h.jsTrim] at hy
  rw [hy.unique (.plain h), hvalue, ← Int.cast_natCast, Int.cast_inj] at hv
  rw [hparse, ← hv, toString_natCast]

theorem exact_iff {amount : String} (h : Numeral amount.toList x) :
    Exact amount x d ↔ x.fraction.length ≤ d ∨ x.value = 0 := by
  have hparse := @parseAmount_numeral _ d _ h
  by_cases hle : x.fraction.length ≤ d
  · exact iff_of_true (exact_of_value h hparse (Decimal.scaled_of_le hle)) (.inl hle)
  · have hlt : d < x.fraction.length := Nat.lt_of_not_le hle
    rw [Nat.sub_eq_zero_of_le hlt.le, Nat.pow_zero, Nat.mul_one] at hparse
    by_cases hzero : x.value = 0
    · refine iff_of_true (exact_of_value h hparse ?_) (.inr hzero)
      rw [hzero, x.value_eq_zero.mp hzero, zero_mul, Nat.cast_zero]
    · refine iff_of_false (fun hexact => ?_) (not_or.mpr ⟨hle, hzero⟩)
      rcases hexact.1 with hnone | ⟨n, hn, hvalue⟩
      · exact absurd (hparse.symm.trans hnone) (Option.some_ne_none _)
      · -- the digits in a row are worth more than `d` of them allow
        rw [hparse] at hn
        rw [← toString_inj (Option.some.inj hn), ← x.value_mul] at hvalue
        have hpow : (10 : ℚ) ^ d = 10 ^ x.fraction.length := mul_left_cancel₀ hzero hvalue
        exact hlt.ne (pow_right_injective₀ (by norm_num) (by norm_num) hpow)

/-! ## Powers of ten -/

theorem tenTo_of_le (h : d ≤ 308) : tenTo d = some (Double.nearest (10 ^ d)) :=
  Double.ofNat_of_le (Nat.pow_le_pow_right (by decide) h) (by decide +kernel)

theorem tenTo_of_lt (h : 308 < d) : tenTo d = none :=
  Double.ofNat_of_ge (Nat.pow_le_pow_right (by decide) (Nat.succ_le_of_lt h)) (by decide +kernel)

theorem tenTo_pos (h : tenTo d = some div) : 0 < div := by
  have hpower : 0 < 10 ^ d := by positivity
  have hbound := Double.nearest_between (10 ^ d)
  rw [Double.ofNat_eq_some h]
  omega

theorem tenTo_lt (h : tenTo d = some div) : div < 10 ^ (d + 1) := by
  have hpower : 0 < 10 ^ d := by positivity
  have hbound := Double.nearest_between (10 ^ d)
  rw [Double.ofNat_eq_some h, Nat.pow_succ]
  omega

/-- Powers of ten up to the twenty-second are doubles. -/
theorem nearest_ten_pow_iff : Double.nearest (10 ^ d) = 10 ^ d ↔ d ≤ 22 := by
  have hodd : 5 ^ d % 2 = 1 := Nat.odd_iff.mp (Odd.pow (by decide))
  have hsplit : 10 ^ d = 5 ^ d * 2 ^ d := Nat.mul_pow 5 2 d
  rw [Double.nearest_eq_self_iff, hsplit, Double.spacing_dvd_iff hodd]
  constructor
  · intro h
    by_contra hlarge
    have hpower : 5 ^ 23 ≤ 5 ^ d := Nat.pow_le_pow_right (by decide) (by omega)
    omega
  · intro h
    have hpower : 5 ^ d ≤ 5 ^ 22 := Nat.pow_le_pow_right (by decide) h
    omega

/-! ## Formatting -/

/-- Without its zeros at the end, a string of digits ends with another digit, if with any. -/
theorem dropTrailingZeros_digits (ds : Digits) : ∃ (es : Digits) (k : ℕ),
    dropTrailingZeros ds.chars = es.chars ∧ ds = es ++ .zeros k ∧
      (es.value % 10 = 0 → es.chars = []) := by
  have hsplit := List.takeWhile_append_dropWhile (p := (· = '0')) (l := ds.chars.reverse)
  generalize hzeros : ds.chars.reverse.takeWhile (· = '0') = zs at hsplit
  generalize hrest : ds.chars.reverse.dropWhile (· = '0') = rest at hsplit
  have hreplicate : zs = List.replicate zs.length '0' := by
    refine List.eq_replicate_of_mem fun c hc => ?_
    rw [← hzeros] at hc
    simpa using List.mem_takeWhile_imp hc
  have hchars : ds.chars = rest.reverse ++ List.replicate zs.length '0' := by
    rw [← List.reverse_reverse ds.chars, ← hsplit, List.reverse_append, hreplicate,
      List.reverse_replicate, List.length_replicate]
  have hdigits : ∀ c ∈ rest.reverse, c.isDigit := fun c hc =>
    ds.isDigits c (hchars ▸ List.mem_append_left _ hc)
  refine ⟨⟨rest.reverse, hdigits⟩, zs.length, ?_, Digits.ext hchars, fun hvalue => ?_⟩
  · rw [dropTrailingZeros, hrest]
  · cases rest with
    | nil => rfl
    | cons c cs =>
        have hc : c ≠ '0' := by
          simpa [hrest] using List.head?_dropWhile_not (· = '0') ds.chars.reverse
        obtain ⟨hlow, hhigh⟩ := Digits.toNat_of_isDigit (hdigits c (by simp))
        change Nat.ofDigitChars 10 (c :: cs).reverse 0 % 10 = 0 at hvalue
        rw [List.reverse_cons, Nat.ofDigitChars_append, Nat.ofDigitChars_cons,
          Nat.ofDigitChars_nil] at hvalue
        have hzero : c.toNat = '0'.toNat := by
          have h48 : '0'.toNat = 48 := rfl
          omega
        exact absurd (Char.toNat_inj.mp hzero) hc

theorem formatAmount_natCast (h : tenTo d = some div) :
    formatAmount (toString a) d = some (if a % div = 0 then toString (a / div) else
      String.ofList ((Digits.ofNat (a / div)).chars ++
        '.' :: dropTrailingZeros ((Digits.ofNat (a % div)).padStart d).chars)) := by
  have hpad : ∀ n : ℕ, padStart (Digits.ofNat n).chars d = ((Digits.ofNat n).padStart d).chars :=
    fun n => rfl
  rw [formatAmount, parseBigInt_toString, h]
  simp only [Option.bind_eq_bind, Option.bind_some, ← Int.ofNat_tdiv, ← Int.ofNat_tmod,
    Nat.cast_eq_zero, toString_natCast, toString_toList, hpad]
  split_ifs
  · rfl
  · rfl

/-! ## Formatting and parsing -/

theorem length_padStart_ofNat {r : ℕ} (hr : r ≠ 0) (hlt : r < 10 ^ (d + 1)) :
    ((Digits.ofNat r).padStart d).length = if r < 10 ^ d then d else d + 1 := by
  have hmost : (Digits.ofNat r).length ≤ d + 1 :=
    (Digits.length_ofNat_le (Nat.succ_pos d)).mpr hlt
  have hsome : (Digits.ofNat r).length ≠ 0 :=
    mt Digits.length_eq_zero.mp Digits.chars_ofNat_ne_nil
  rw [Digits.length_padStart]
  rcases Nat.eq_zero_or_pos d with rfl | hd
  · rw [if_neg (by omega)]
    omega
  · have hle := Digits.length_ofNat_le hd (m := r)
    split_ifs with hsmall
    · have := hle.mpr hsmall
      omega
    · have := mt hle.mp hsmall
      omega

/-- What comes back of an amount. -/
def roundTrip (a d : ℕ) : Option String :=
  (formatAmount (toString a) d).bind (parseAmount · d)

theorem roundTrip_whole (h : tenTo d = some div) (hr : a % div = 0) :
    roundTrip a d = some (toString (a / div * 10 ^ d)) := by
  have hnumeral : Numeral (toString (a / div)).toList ⟨.ofNat (a / div), .empty⟩ := by
    rw [toString_toList]
    exact .whole Digits.chars_ofNat_ne_nil
  rw [roundTrip, formatAmount_natCast h, if_pos hr, Option.bind_some, parseAmount_numeral hnumeral,
    Decimal.mantissa, Digits.append_empty, Digits.value_ofNat, Digits.length_empty, Nat.sub_zero]

/-- The places of the remainder, without the zeros behind them, are filled up again. -/
theorem roundTrip_remainder (h : tenTo d = some div) (hr : a % div ≠ 0) :
    ∃ (f : Digits) (k : ℕ), a % div = f.value * 10 ^ k ∧ f.value % 10 ≠ 0 ∧
      f.length + k = (if a % div < 10 ^ d then d else d + 1) ∧
      roundTrip a d =
        some (toString ((a / div * 10 ^ f.length + f.value) * 10 ^ (d - f.length))) := by
  have hlt : a % div < 10 ^ (d + 1) := (Nat.mod_lt a (tenTo_pos h)).trans (tenTo_lt h)
  obtain ⟨f, k, hdrop, hsplit, hlast⟩ :=
    dropTrailingZeros_digits ((Digits.ofNat (a % div)).padStart d)
  have hvalue : a % div = f.value * 10 ^ k := by
    have := congrArg Digits.value hsplit
    rwa [Digits.value_padStart, Digits.value_ofNat, Digits.value_append, Digits.value_zeros,
      Digits.length_zeros, Nat.add_zero] at this
  have hne : f.chars ≠ [] := by
    intro hnil
    rw [show f = .empty from Digits.ext hnil, Digits.value_empty, Nat.zero_mul] at hvalue
    exact hr hvalue
  refine ⟨f, k, hvalue, mt hlast hne, ?_, ?_⟩
  · rw [← length_padStart_ofNat hr hlt, hsplit, Digits.length_append, Digits.length_zeros]
  · have hnumeral : Numeral (String.ofList ((Digits.ofNat (a / div)).chars ++ '.' :: f.chars)).toList
        ⟨.ofNat (a / div), f⟩ := by
      rw [String.toList_ofList]
      exact .point Digits.chars_ofNat_ne_nil hne
    rw [roundTrip, formatAmount_natCast h, if_neg hr, hdrop, Option.bind_some,
      parseAmount_numeral hnumeral, Decimal.mantissa_eq, Digits.value_ofNat]

/-- The power is right, or the amount is below it in every respect. -/
def RightPower (a d div : ℕ) : Prop :=
  div = 10 ^ d ∨ (a < div ∧ (a < 10 ^ d ∨ a % 10 ≠ 0))

theorem rightPower_of_lt {q r : ℕ} (ha : a = q * div + r) (hr : r < div) (hsmall : r < 10 ^ d) :
    q * 10 ^ d + r = a ↔ RightPower a d div := by
  unfold RightPower
  rcases Nat.eq_zero_or_pos q with rfl | hq
  · rw [Nat.zero_mul, Nat.zero_add] at ha ⊢
    subst ha
    exact iff_of_true rfl (.inr ⟨hr, .inl hsmall⟩)
  · have hge : div ≤ q * div := Nat.le_mul_of_pos_left div hq
    have hcancel : q * 10 ^ d + r = a ↔ div = 10 ^ d := by
      rw [ha, Nat.add_right_cancel_iff, Nat.mul_right_inj hq.ne', eq_comm]
    rw [hcancel]
    omega

theorem rightPower_of_ge {q r : ℕ} (ha : a = q * div + r) (hr : r < div) (hbig : 10 ^ d ≤ r) :
    RightPower a d div ↔ q = 0 ∧ r % 10 ≠ 0 := by
  unfold RightPower
  rcases Nat.eq_zero_or_pos q with rfl | hq
  · rw [Nat.zero_mul, Nat.zero_add] at ha
    subst ha
    omega
  · have hge : div ≤ q * div := Nat.le_mul_of_pos_left div hq
    omega

/-- With a digit too many the remainder comes back as it is, and the whole part ten times too
large; after a zero is dropped the remainder is ten times too small. -/
theorem roundTrip_long_iff {q r fl fv k : ℕ} (ha : a = q * div + r) (hr : r < div)
    (hdiv : div < 10 ^ (d + 1)) (hbig : 10 ^ d ≤ r) (hvalue : r = fv * 10 ^ k)
    (hlast : fv % 10 ≠ 0) (hlen : fl + k = d + 1) :
    (q * 10 ^ fl + fv) * 10 ^ (d - fl) = a ↔ RightPower a d div := by
  rw [rightPower_of_ge ha hr hbig]
  cases k with
  | zero =>
      obtain rfl : fl = d + 1 := by omega
      rw [Nat.pow_zero, Nat.mul_one] at hvalue
      subst hvalue
      rw [Nat.sub_eq_zero_of_le (Nat.le_succ d), Nat.pow_zero, Nat.mul_one]
      have hcancel : q * 10 ^ (d + 1) + r = a ↔ q = 0 := by
        rw [ha, Nat.add_right_cancel_iff, mul_eq_mul_left_iff]
        omega
      rw [hcancel, and_iff_left hlast]
  | succ k =>
      have hd : d = fl + k := by omega
      have hten : r = 10 * (fv * 10 ^ k) := by
        rw [hvalue, Nat.pow_succ]
        ring
      have hback : (q * 10 ^ fl + fv) * 10 ^ (d - fl) = q * 10 ^ d + fv * 10 ^ k := by
        rw [hd, Nat.add_sub_cancel_left, pow_add]
        ring
      have hpos : 0 < 10 ^ d := by positivity
      have hle : q * 10 ^ d ≤ q * div := Nat.mul_le_mul_left q (hbig.trans hr.le)
      rw [hback]
      omega

theorem roundTrip_eq_iff (h : tenTo d = some div) :
    roundTrip a d = some (toString a) ↔ RightPower a d div := by
  have hpos := tenTo_pos h
  have ha : a = a / div * div + a % div := (Nat.div_add_mod' a div).symm
  have hcompare : ∀ n : ℕ, some (toString n) = some (toString a) ↔ n = a := fun n =>
    ⟨fun heq => toString_inj (Option.some.inj heq), fun heq => heq ▸ rfl⟩
  by_cases hr : a % div = 0
  · rw [hr] at ha
    rw [roundTrip_whole h hr, hcompare, ← rightPower_of_lt ha hpos (by positivity), Nat.add_zero]
  · obtain ⟨f, k, hvalue, hlast, hlen, hback⟩ := roundTrip_remainder h hr
    have hlt := Nat.mod_lt a hpos
    rw [hback, hcompare]
    split_ifs at hlen with hsmall
    · have hd : d - f.length = k := by omega
      rw [← rightPower_of_lt ha hlt hsmall, hd, Nat.add_mul, ← hvalue, Nat.mul_assoc, ← pow_add,
        hlen]
    · exact roundTrip_long_iff ha hlt (tenTo_lt h) (Nat.le_of_not_lt hsmall) hvalue hlast hlen

/-- The power of ten is a double, or the amount is below the double nearest to it and either
below the power itself or does not end in a zero. -/
def Returns (a d : ℕ) : Prop :=
  d ≤ 22 ∨ d ≤ 308 ∧ a < Double.nearest (10 ^ d) ∧ (a < 10 ^ d ∨ a % 10 ≠ 0)

instance (a d : ℕ) : Decidable (Returns a d) := inferInstanceAs (Decidable (_ ∨ _))

theorem roundTrip_iff : roundTrip a d = some (toString a) ↔ Returns a d := by
  unfold Returns
  rcases Nat.lt_or_ge 308 d with hlarge | hle
  · have hthrow : formatAmount (toString a) d = none := by
      rw [formatAmount, parseBigInt_toString, tenTo_of_lt hlarge]
      rfl
    rw [roundTrip, hthrow]
    exact iff_of_false (by simp) (by omega)
  · rw [roundTrip_eq_iff (tenTo_of_le hle), RightPower, nearest_ten_pow_iff, and_iff_right hle]

/-- `1.23`, a numeral with two digits behind the point. -/
def oneTwentyThree : Decimal := ⟨⟨['1'], by simp⟩, ⟨['2', '3'], by simp⟩⟩

theorem numeral_oneTwentyThree : Numeral "1.23".toList oneTwentyThree := by
  rw [String.toList_ofList]
  exact .point (w := ⟨['1'], by simp⟩) (f := ⟨['2', '3'], by simp⟩) (by simp) (by simp)

end OverSync.RelayerUtils
