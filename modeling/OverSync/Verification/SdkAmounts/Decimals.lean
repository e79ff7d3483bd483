import OverSync.Model.SdkAmounts

/-! # Decimal strings of the SDK

What `parseDecimalToAtomic` accepts, and that it reads back what `formatAtomicToDecimal` writes. -/

namespace OverSync.SdkAmounts

open Library

variable {s : List Char} {x y : Decimal} {d : ℕ}

/-- A numeral without a sign or with a plus. -/
inductive Unsigned : List Char → Decimal → Prop where
  | plain {s : List Char} {x : Decimal} : Numeral s x → Unsigned s x
  | plus {s : List Char} {x : Decimal} : Numeral s x → Unsigned ('+' :: s) x

/-- A numeral with a minus. -/
inductive Negative : List Char → Decimal → Prop where
  | minus {s : List Char} {x : Decimal} : Numeral s x → Negative ('-' :: s) x

/-! ## The pattern -/

theorem matchDigits_of_numeral (h : Numeral s x) : matchDigits s = some (x.whole, x.fraction) := by
  cases h with
  | whole hw => rw [matchDigits, Digits.span_chars]; simp [hw]
  | point hw hf =>
      rw [matchDigits, Digits.span_append (by simp)]
      simp [hw, hf]

theorem numeral_of_matchDigits (h : matchDigits s = some (x.whole, x.fraction)) : Numeral s x := by
  have hs := Digits.span_spec s
  unfold matchDigits at h
  cases hspan : Digits.span s with
  | mk whole rest =>
      rw [hspan] at h hs
      simp only at h hs
      split at h
      · cases h
      · next hw =>
          split at h
          · obtain ⟨hwhole, hfraction⟩ := Prod.mk.inj (Option.some.inj h)
            rw [hs, List.append_nil]
            have hx : x = ⟨whole, .empty⟩ := by rw [hwhole, hfraction]
            exact hx ▸ .whole hw
          · next rest =>
              split at h
              · next fraction hfraction =>
                  split at h
                  · cases h
                  · next hf =>
                      obtain ⟨hx, hy⟩ := Prod.mk.inj (Option.some.inj h)
                      have hx : x = ⟨whole, fraction⟩ := by rw [hx, hy]
                      rw [hs, Digits.ofChars?_eq_some.mp hfraction, hx]
                      exact .point hw hf
              · cases h
          · cases h

/-- A numeral starts with a digit, so it has no sign. -/
theorem matchSign_of_numeral (h : Numeral s x) : matchSign s = (none, s) := by
  unfold matchSign
  split
  · rcases h.mem '+' (by simp) with hdigit | hpoint
    · contradiction
    · contradiction
  · rcases h.mem '-' (by simp) with hdigit | hpoint
    · contradiction
    · contradiction
  · rfl

theorem decimalPattern_of_unsigned (h : Unsigned s x) :
    ∃ sign, sign ≠ some .minus ∧ decimalPattern s = some (sign, x.whole, x.fraction) := by
  cases h with
  | plain h =>
      refine ⟨none, by simp, ?_⟩
      rw [decimalPattern, matchSign_of_numeral h]
      simp only [matchDigits_of_numeral h, Option.map_some]
  | plus h =>
      refine ⟨some .plus, by simp, ?_⟩
      rw [decimalPattern, matchSign]
      simp only [matchDigits_of_numeral h, Option.map_some]

theorem decimalPattern_of_negative (h : Negative s x) :
    decimalPattern s = some (some .minus, x.whole, x.fraction) := by
  cases h with
  | minus h =>
      rw [decimalPattern, matchSign]
      simp only [matchDigits_of_numeral h, Option.map_some]

/-- What is left when the sign is gone. -/
theorem matchSign_cases (s : List Char) :
    (∃ rest, s = '+' :: rest ∧ matchSign s = (some .plus, rest)) ∨
      (∃ rest, s = '-' :: rest ∧ matchSign s = (some .minus, rest)) ∨
      matchSign s = (none, s) := by
  unfold matchSign
  split
  · exact .inl ⟨_, rfl, rfl⟩
  · exact .inr (.inl ⟨_, rfl, rfl⟩)
  · exact .inr (.inr rfl)

theorem of_decimalPattern {sign : Option Sign}
    (h : decimalPattern s = some (sign, x.whole, x.fraction)) :
    (sign = some .minus ∧ Negative s x) ∨ (sign ≠ some .minus ∧ Unsigned s x) := by
  rw [decimalPattern] at h
  rcases matchSign_cases s with ⟨rest, rfl, hsign⟩ | ⟨rest, rfl, hsign⟩ | hsign
  all_goals
    rw [hsign] at h
    obtain ⟨_, hmatch, hpair⟩ := Option.map_eq_some_iff.mp h
    obtain ⟨rfl, rfl⟩ := Prod.mk.inj hpair
  · exact .inr ⟨by simp, .plus (numeral_of_matchDigits hmatch)⟩
  · exact .inl ⟨rfl, .minus (numeral_of_matchDigits hmatch)⟩
  · exact .inr ⟨by simp, .plain (numeral_of_matchDigits hmatch)⟩

/-! ## Parsing -/

/-- What a text, its white space trimmed, is worth in units of the `d`-th place. -/
inductive Reading (s : List Char) (d : ℕ) : AmountResult ℤ → Prop where
  | ok {x : Decimal} {v : ℤ} : Unsigned s x → x.value * 10 ^ d = v → Reading s d (.ok v)
  | precisionLoss {x : Decimal} : Unsigned s x → (∀ v : ℤ, x.value * 10 ^ d ≠ v) →
      Reading s d (.error .precisionLoss)
  | negative {x : Decimal} : Negative s x → Reading s d (.error .negative)
  | notADecimal : (∀ x, ¬Unsigned s x ∧ ¬Negative s x) → Reading s d (.error .notADecimal)

theorem pow10_natCast (n : ℕ) : pow10 n = (10 ^ n : ℕ) := by
  rw [pow10, Int.toNat_natCast]
  push_cast
  rfl

theorem pow10_sub {m n : ℕ} (h : m ≤ n) : pow10 (n - m) = (10 ^ (n - m) : ℕ) := by
  rw [← pow10_natCast, Nat.cast_sub h]

theorem reading_of_unsigned {value : String} (h : Unsigned (jsTrim value.toList) x) :
    Reading (jsTrim value.toList) d (parseDecimalToAtomic value d) := by
  obtain ⟨sign, hsign, hpattern⟩ := decimalPattern_of_unsigned h
  have hmantissa : (((x.whole ++ x.fraction).value : ℕ) : ℤ) = (x.mantissa : ℤ) := rfl
  rw [parseDecimalToAtomic, hpattern]
  simp only [hsign, if_false, hmantissa]
  by_cases hle : x.fraction.length ≤ d
  · rw [if_pos hle, pow10_sub hle]
    refine .ok h ?_
    rw [Decimal.scaled_of_le hle]
    push_cast
    rfl
  · have hge : d ≤ x.fraction.length := Nat.le_of_not_le hle
    have hpos : (0 : ℤ) < (10 ^ (x.fraction.length - d) : ℕ) := by positivity
    rw [if_neg hle, pow10_sub hge, Int.tmod_eq_emod_of_nonneg (by positivity),
      Int.tdiv_eq_ediv_of_nonneg (by positivity)]
    by_cases hdvd : (x.mantissa : ℤ) % (10 ^ (x.fraction.length - d) : ℕ) = 0
    · rw [if_neg (not_not.mpr hdvd)]
      exact .ok h ((Decimal.scaled_eq_iff_of_ge hge).mpr
        (Int.ediv_mul_cancel (Int.dvd_of_emod_eq_zero hdvd)))
    · rw [if_pos hdvd]
      refine .precisionLoss h fun v hv => hdvd ?_
      rw [← (Decimal.scaled_eq_iff_of_ge hge).mp hv]
      exact Int.mul_emod_left _ _

theorem parseDecimalToAtomic_reading (value : String) (d : ℕ) :
    Reading (jsTrim value.toList) d (parseDecimalToAtomic value d) := by
  cases hpattern : decimalPattern (jsTrim value.toList) with
  | none =>
      have hnone : parseDecimalToAtomic value d = .error .notADecimal := by
        rw [parseDecimalToAtomic, hpattern]
      rw [hnone]
      refine .notADecimal fun x => ⟨fun h => ?_, fun h => ?_⟩
      · obtain ⟨_, _, hsome⟩ := decimalPattern_of_unsigned h
        rw [hpattern] at hsome
        contradiction
      · rw [decimalPattern_of_negative h] at hpattern
        contradiction
  | some groups =>
      obtain ⟨sign, whole, fraction⟩ := groups
      rcases of_decimalPattern (x := ⟨whole, fraction⟩) hpattern with ⟨hsign, hx⟩ | ⟨-, hx⟩
      · have hnegative : parseDecimalToAtomic value d = .error .negative := by
          rw [parseDecimalToAtomic, hpattern]
          exact if_pos hsign
        rw [hnegative]
        exact .negative hx
      · exact reading_of_unsigned hx

theorem Unsigned.unique (h : Unsigned s x) (h' : Unsigned s y) : x = y := by
  obtain ⟨_, -, hx⟩ := decimalPattern_of_unsigned h
  obtain ⟨_, -, hy⟩ := decimalPattern_of_unsigned h'
  rw [hx] at hy
  obtain ⟨-, hpair⟩ := Prod.mk.inj (Option.some.inj hy)
  cases x
  cases y
  simp_all

theorem Unsigned.not_negative (h : Unsigned s x) : ¬Negative s y := by
  intro h'
  obtain ⟨_, hsign, hx⟩ := decimalPattern_of_unsigned h
  rw [decimalPattern_of_negative h'] at hx
  exact hsign (Prod.mk.inj (Option.some.inj hx)).1.symm

/-- A text has one reading. -/
theorem Reading.unique {r r' : AmountResult ℤ} (h : Reading s d r) (h' : Reading s d r') :
    r = r' := by
  cases h with
  | ok hx hv =>
      cases h' with
      | ok hx' hv' =>
          rw [hx.unique hx', hv'] at hv
          rw [Int.cast_inj.mp hv]
      | precisionLoss hx' hv' => exact absurd (hx.unique hx' ▸ hv) (hv' _)
      | negative hx' => exact absurd hx' hx.not_negative
      | notADecimal hnone => exact absurd hx (hnone _).1
  | precisionLoss hx hv =>
      cases h' with
      | ok hx' hv' => exact absurd (hx'.unique hx ▸ hv') (hv _)
      | precisionLoss _ _ => rfl
      | negative hx' => exact absurd hx' hx.not_negative
      | notADecimal hnone => exact absurd hx (hnone _).1
  | negative hx =>
      cases h' with
      | ok hx' _ => exact absurd hx hx'.not_negative
      | precisionLoss hx' _ => exact absurd hx hx'.not_negative
      | negative _ => rfl
      | notADecimal hnone => exact absurd hx (hnone _).2
  | notADecimal hnone =>
      cases h' with
      | ok hx _ => exact absurd hx (hnone _).1
      | precisionLoss hx _ => exact absurd hx (hnone _).1
      | negative hx => exact absurd hx (hnone _).2
      | notADecimal _ => rfl

theorem Reading.of_ok {v : ℤ} (h : Reading s d (.ok v)) :
    ∃ x, Unsigned s x ∧ x.value * 10 ^ d = v := by
  cases h with
  | ok hx hv => exact ⟨_, hx, hv⟩

theorem parseDecimalToAtomic_eq_iff {value : String} {r : AmountResult ℤ} :
    parseDecimalToAtomic value d = r ↔ Reading (jsTrim value.toList) d r := by
  constructor
  · rintro rfl
    exact parseDecimalToAtomic_reading value d
  · exact (parseDecimalToAtomic_reading value d).unique

/-! ## Formatting -/

theorem formatAtomicToDecimal_natCast (a d : ℕ) :
    formatAtomicToDecimal a d = String.ofList ((Decimal.ofAtomic a d).whole.chars ++
      '.' :: (Decimal.ofAtomic a d).fraction.chars) := by
  rw [formatAtomicToDecimal, if_neg (by omega), Int.natAbs_natCast]
  rfl

theorem reading_formatAtomicToDecimal (a d : ℕ) :
    Reading (jsTrim (formatAtomicToDecimal a d).toList) d (.ok (a : ℤ)) := by
  have hnumeral := Numeral.ofAtomic a d
  rw [formatAtomicToDecimal_natCast, String.toList_ofList, hnumeral.jsTrim]
  refine .ok (.plain hnumeral) ?_
  rw [Decimal.scaled_ofAtomic, Int.cast_natCast]

/-- `parseDecimalToAtomic` is exact, and reads back what `formatAtomicToDecimal` writes. -/
theorem parseDecimalToAtomic_exact (value : String) (d : ℕ) :
    (∀ v, parseDecimalToAtomic value d = .ok v ↔
      ∃ x, Unsigned (jsTrim value.toList) x ∧ x.value * 10 ^ d = v) ∧
    (parseDecimalToAtomic value d = .error .negative ↔ ∃ x, Negative (jsTrim value.toList) x) ∧
    (parseDecimalToAtomic value d = .error .precisionLoss ↔
      ∃ x, Unsigned (jsTrim value.toList) x ∧ ∀ v : ℤ, x.value * 10 ^ d ≠ v) ∧
    (parseDecimalToAtomic value d = .error .notADecimal ↔
      ∀ x, ¬Unsigned (jsTrim value.toList) x ∧ ¬Negative (jsTrim value.toList) x) ∧
    ∀ a : ℕ, parseDecimalToAtomic (formatAtomicToDecimal a d) d = .ok (a : ℤ) := by
  refine ⟨fun v => ?_, ?_, ?_, ?_, fun a => ?_⟩
  · rw [parseDecimalToAtomic_eq_iff]
    refine ⟨Reading.of_ok, ?_⟩
    rintro ⟨x, hx, hv⟩
    exact .ok hx hv
  · rw [parseDecimalToAtomic_eq_iff]
    constructor
    · rintro (_ | _ | hx | _)
      exact ⟨_, hx⟩
    · rintro ⟨x, hx⟩
      exact .negative hx
  · rw [parseDecimalToAtomic_eq_iff]
    constructor
    · rintro (_ | ⟨hx, hv⟩ | _ | _)
      exact ⟨_, hx, hv⟩
    · rintro ⟨x, hx, hv⟩
      exact .precisionLoss hx hv
  · rw [parseDecimalToAtomic_eq_iff]
    constructor
    · rintro (_ | _ | _ | hnone)
      exact hnone
    · exact .notADecimal
  · exact parseDecimalToAtomic_eq_iff.mpr (reading_formatAtomicToDecimal a d)

end OverSync.SdkAmounts
