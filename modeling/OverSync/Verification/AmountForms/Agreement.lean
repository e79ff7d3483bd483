import Mathlib.Tactic.Ring
import OverSync.Model.AmountForms
import OverSync.Verification.SdkAmounts.Decimals

/-! # One amount for the form, the coordinator and the SDK

The grammar that the form and the coordinator share, the value they read, and the texts that the
form lets a user type. -/

namespace OverSync.AmountForms

open Library

variable {s : List Char} {x y : Decimal} {d : ℕ}

/-- A numeral in which one side of the point may be missing. -/
inductive FormNumeral : List Char → Decimal → Prop where
  | whole {w : Digits} : w.chars ≠ [] → FormNumeral w.chars ⟨w, .empty⟩
  | trailing {w f : Digits} : w.chars ≠ [] → FormNumeral (w.chars ++ '.' :: f.chars) ⟨w, f⟩
  | leading {f : Digits} : f.chars ≠ [] → FormNumeral ('.' :: f.chars) ⟨.zeros 1, f⟩

/-! ## The pattern -/

def AmountMatch.decimal (m : AmountMatch) : Decimal := ⟨m.wholeDigits, m.fracDigits⟩

theorem decimalAmount_of_formNumeral (h : FormNumeral s x) :
    ∃ m, decimalAmount s = some m ∧ m.decimal = x := by
  cases h with
  | @whole w hw =>
      refine ⟨⟨some w, none, none⟩, ?_, rfl⟩
      rw [decimalAmount, Digits.span_chars]
      simp [hw]
  | @trailing w f hw =>
      refine ⟨⟨some w, some f, none⟩, ?_, rfl⟩
      rw [decimalAmount, Digits.span_append (by simp)]
      simp [hw]
  | @leading f hf =>
      refine ⟨⟨none, none, some f⟩, ?_, rfl⟩
      have hspan : Digits.span (Digits.empty.chars ++ '.' :: f.chars) = (.empty, '.' :: f.chars) :=
        Digits.span_append (by simp)
      rw [Digits.chars_empty, List.nil_append] at hspan
      rw [decimalAmount, hspan]
      simp [hf]

theorem formNumeral_of_decimalAmount {m : AmountMatch} (h : decimalAmount s = some m) :
    FormNumeral s m.decimal := by
  have hs := Digits.span_spec s
  unfold decimalAmount at h
  cases hspan : Digits.span s with
  | mk whole rest =>
      rw [hspan] at h hs
      simp only at h hs
      split at h
      · split at h
        · cases h
        · next hw =>
            rw [hs, List.append_nil, ← Option.some.inj h]
            exact .whole hw
      · split at h
        · cases h
        · next hfraction =>
            rw [hs, Digits.ofChars?_eq_some.mp hfraction]
            split_ifs at h with hw hf
            · rw [← Option.some.inj h]
              exact .trailing hw
            · rw [← Option.some.inj h, not_not.mp hw]
              exact .leading hf
      · cases h

theorem FormNumeral.unique (h : FormNumeral s x) (h' : FormNumeral s y) : x = y := by
  obtain ⟨m, hm, rfl⟩ := decimalAmount_of_formNumeral h
  obtain ⟨m', hm', rfl⟩ := decimalAmount_of_formNumeral h'
  rw [hm] at hm'
  rw [Option.some.inj hm']

/-- Every numeral of the SDK without a sign is one of the form. -/
theorem formNumeral_of_numeral (h : Numeral s x) : FormNumeral s x := by
  cases h with
  | whole hw => exact .whole hw
  | point hw _ => exact .trailing hw

theorem not_formNumeral_plus : ¬FormNumeral ('+' :: s) x := by
  intro h
  obtain ⟨m, hm, -⟩ := decimalAmount_of_formNumeral h
  have hspan : Digits.span ('+' :: s) = (.empty, '+' :: s) := rfl
  rw [decimalAmount, hspan] at hm
  contradiction

/-! ## The value -/

theorem value_orZero (ds : Digits) : (orZero ds).value = ds.value := by
  unfold orZero
  split
  · next hnil =>
      rw [Digits.value_zeros, show ds = .empty from Digits.ext hnil, Digits.value_empty]
  · rfl

theorem baseUnits_eq {m : AmountMatch} (h : m.fracDigits.length ≤ d) :
    m.decimal.value * 10 ^ d = (m.baseUnits d : ℤ) := by
  have hsplit : (10 : ℤ) ^ d = 10 ^ m.fracDigits.length * 10 ^ (d - m.fracDigits.length) := by
    rw [← pow_add, Nat.add_sub_cancel' h]
  have hbase : m.baseUnits d =
      ((m.decimal.mantissa * 10 ^ (d - m.decimal.fraction.length) : ℕ) : ℤ) := by
    rw [AmountMatch.baseUnits, value_orZero, Digits.value_padEnd, Decimal.mantissa_eq]
    simp only [AmountMatch.decimal]
    push_cast
    rw [hsplit]
    ring
  rw [Decimal.scaled_of_le h, hbase, Int.cast_natCast]

/-! ## The two parsers -/

theorem isInt_natCast (d : ℕ) : ((d : ℚ).isInt = true ∧ (0 : ℚ) ≤ d) ∧ (d : ℚ).num.toNat = d :=
  ⟨⟨rfl, Nat.cast_nonneg d⟩, rfl⟩

namespace Frontend

theorem parseAmountToBaseUnits_eq_some {raw : String} {n : ℤ} :
    parseAmountToBaseUnits raw d = some n ↔
      ∃ x, FormNumeral (jsTrim raw.toList) x ∧ x.fraction.length ≤ d ∧ x.value * 10 ^ d = n := by
  obtain ⟨⟨hint, hnonneg⟩, hnat⟩ := isInt_natCast d
  rw [parseAmountToBaseUnits, if_neg (by simp [hint, hnonneg]), hnat]
  constructor
  · intro h
    cases hm : decimalAmount (jsTrim raw.toList) with
    | none => simp [hm] at h
    | some m =>
        simp only [hm, gt_iff_lt, Nat.cast_lt] at h
        split_ifs at h with hlong
        have hle : m.fracDigits.length ≤ d := Nat.le_of_not_lt hlong
        refine ⟨m.decimal, formNumeral_of_decimalAmount hm, hle, ?_⟩
        rw [baseUnits_eq hle, Option.some.inj h]
  · rintro ⟨x, hx, hle, hvalue⟩
    obtain ⟨m, hm, rfl⟩ := decimalAmount_of_formNumeral hx
    rw [baseUnits_eq hle, Int.cast_inj] at hvalue
    have hshort : ¬d < m.fracDigits.length := Nat.not_lt.mpr hle
    simp only [hm, gt_iff_lt, Nat.cast_lt, hshort, if_false, hvalue]

end Frontend

namespace Coordinator

/-- The coordinator reads what the form reads, and refuses what it refuses. -/
theorem parseAmountToBaseUnits_eq_ok {input : String} {n : ℤ} :
    parseAmountToBaseUnits input d = .ok n ↔ Frontend.parseAmountToBaseUnits input d = some n := by
  obtain ⟨⟨hint, hnonneg⟩, hnat⟩ := isInt_natCast d
  rw [parseAmountToBaseUnits, Frontend.parseAmountToBaseUnits, if_neg (by simp [hint, hnonneg]),
    require_bind_eq_ok]
  cases decimalAmount (jsTrim input.toList) with
  | none => simp
  | some m =>
      simp only [require_bind_eq_ok, hint, hnonneg, true_and, gt_iff_lt]
      by_cases hle : (m.fracDigits.length : ℚ) ≤ d
      · simp [hle, not_lt.mpr hle]
      · simp [hle, not_le.mp hle]

end Coordinator

/-! ## The sanitiser -/

theorem FormNumeral.mem (h : FormNumeral s x) : ∀ c ∈ s, c.isDigit ∨ c = '.' := by
  intro c hc
  cases h with
  | @whole w _ => exact .inl (w.isDigits c hc)
  | @trailing w f _ =>
      rcases List.mem_append.mp hc with hc | hc
      · exact .inl (w.isDigits c hc)
      · exact (List.mem_cons.mp hc).symm.imp_left (f.isDigits c)
  | @leading f _ => exact (List.mem_cons.mp hc).symm.imp_left (f.isDigits c)

theorem FormNumeral.jsTrim (h : FormNumeral s x) : jsTrim s = s := by
  refine jsTrim_of_not_space fun c hc => ?_
  rcases h.mem c hc with hdigit | rfl
  · exact Digits.isJsSpace_of_isDigit hdigit
  · rfl

/-- What the sanitiser lets through: digits, and digits behind at most one point. -/
theorem sanitizeAmountInput_cases (raw : String) (maxDecimals : ℕ) :
    ∃ w : Digits, (Frontend.sanitizeAmountInput raw maxDecimals).toList = w.chars ∨
      ∃ f : Digits, (Frontend.sanitizeAmountInput raw maxDecimals).toList =
        w.chars ++ '.' :: f.chars := by
  unfold Frontend.sanitizeAmountInput
  extract_lets cleaned
  cases Digits.span cleaned with
  | mk whole rest =>
      refine ⟨whole, ?_⟩
      simp only
      split
      · next rest =>
          refine .inr ⟨⟨(Digits.span rest).1.chars.take maxDecimals, fun c hc => ?_⟩, ?_⟩
          · exact (Digits.span rest).1.isDigits c (List.mem_of_mem_take hc)
          · exact String.toList_ofList
      · exact .inl String.toList_ofList

/-- A text from the sanitiser with something in it is a numeral. -/
theorem formNumeral_of_sanitized {out : String} {w : Digits}
    (h : out.toList = w.chars ∨ ∃ f : Digits, out.toList = w.chars ++ '.' :: f.chars)
    (hne : out ≠ "") (hpoint : out ≠ ".") : ∃ x, FormNumeral out.toList x ∧
      (x.fraction = .empty ∨ ∃ u, out.toList = u ++ '.' :: x.fraction.chars) := by
  rcases h with h | ⟨f, h⟩
  · rw [h]
    refine ⟨_, .whole fun hnil => hne ?_, .inl rfl⟩
    rw [← String.toList_inj, h, hnil]
    rfl
  · rw [h]
    by_cases hw : w.chars = []
    · rw [hw, List.nil_append] at h ⊢
      refine ⟨_, .leading fun hnil => hpoint ?_, .inr ⟨[], rfl⟩⟩
      rw [← String.toList_inj, h, hnil]
      rfl
    · exact ⟨_, .trailing hw, .inr ⟨w.chars, rfl⟩⟩

/-- The form and the coordinator agree on every text, with the SDK wherever it accepts one too,
and the form can read what it lets a user type. -/
theorem amounts_agree (text : String) (d : ℕ) :
    ((Frontend.parseAmountToBaseUnits text d = none ∧
        ∃ e, Coordinator.parseAmountToBaseUnits text d = .error e) ∨
      ∃ n x, Frontend.parseAmountToBaseUnits text d = some n ∧
        Coordinator.parseAmountToBaseUnits text d = .ok n ∧
        FormNumeral (jsTrim text.toList) x ∧ x.value * 10 ^ d = n) ∧
    (∀ v n, SdkAmounts.parseDecimalToAtomic text d = .ok v →
      Frontend.parseAmountToBaseUnits text d = some n → v = n) ∧
    ∀ (raw : String) (maxDecimals : ℕ) (out : String),
      Frontend.sanitizeAmountInput raw maxDecimals = out → out ≠ "" → out ≠ "." →
      (∀ before fraction, out.toList = before ++ '.' :: fraction → fraction.length ≤ d) →
      ∃ n, Frontend.parseAmountToBaseUnits out d = some n ∧
        Coordinator.parseAmountToBaseUnits out d = .ok n := by
  refine ⟨?_, fun v n hsdk hform => ?_, fun raw maxDecimals out hout hne hpoint hshort => ?_⟩
  · cases hform : Frontend.parseAmountToBaseUnits text d with
    | none =>
        refine .inl ⟨rfl, ?_⟩
        cases hcoordinator : Coordinator.parseAmountToBaseUnits text d with
        | error e => exact ⟨e, rfl⟩
        | ok n =>
            rw [Coordinator.parseAmountToBaseUnits_eq_ok, hform] at hcoordinator
            contradiction
    | some n =>
        obtain ⟨x, hx, -, hvalue⟩ := Frontend.parseAmountToBaseUnits_eq_some.mp hform
        exact .inr ⟨n, x, rfl, Coordinator.parseAmountToBaseUnits_eq_ok.mpr hform, hx, hvalue⟩
  · obtain ⟨x, hx, hv⟩ := (SdkAmounts.parseDecimalToAtomic_eq_iff.mp hsdk).of_ok
    obtain ⟨y, hy, -, hn⟩ := Frontend.parseAmountToBaseUnits_eq_some.mp hform
    generalize jsTrim text.toList = t at hx hy
    cases hx with
    | plain hx =>
        rw [(formNumeral_of_numeral hx).unique hy, hn] at hv
        exact (Int.cast_inj.mp hv).symm
    | plus _ => exact absurd hy not_formNumeral_plus
  · obtain ⟨w, hform⟩ := sanitizeAmountInput_cases raw maxDecimals
    rw [hout] at hform
    obtain ⟨x, hx, hfraction⟩ := formNumeral_of_sanitized hform hne hpoint
    have hle : x.fraction.length ≤ d := by
      rcases hfraction with hnone | ⟨u, hu⟩
      · rw [hnone]
        exact Nat.zero_le d
      · exact hshort u _ hu
    have hscaled := Decimal.scaled_of_le hle
    rw [← Int.cast_natCast] at hscaled
    have hn := Frontend.parseAmountToBaseUnits_eq_some.mpr ⟨x, hx.jsTrim.symm ▸ hx, hle, hscaled⟩
    exact ⟨_, hn, Coordinator.parseAmountToBaseUnits_eq_ok.mpr hn⟩

end OverSync.AmountForms
