import OverSync.Model.SdkAmounts

/-! # Conversion between wei and stroops

A conversion is exact or refused, so that the way back is the identity. -/

namespace OverSync.SdkAmounts

theorem pow10_pos (n : ℤ) : 0 < pow10 n := by
  rw [pow10]
  positivity

/-- One amount written with `from` and with `to` places. -/
theorem convertAtomic_eq_ok {amount fromDecimals toDecimals v : ℤ} :
    convertAtomic ⟨amount, fromDecimals, toDecimals⟩ = .ok v ↔
      0 ≤ amount ∧ amount * pow10 (toDecimals - fromDecimals) =
        v * pow10 (fromDecimals - toDecimals) := by
  have hzero : ∀ {n : ℤ}, n ≤ 0 → pow10 n = 1 := by
    intro n hn
    rw [pow10, Int.toNat_of_nonpos hn, pow_zero]
  unfold convertAtomic
  by_cases hneg : amount < 0
  · simp only [hneg, if_true, reduceCtorEq, false_iff]
    omega
  · have hamount : 0 ≤ amount := by omega
    by_cases hup : toDecimals ≥ fromDecimals
    · simp only [hneg, hup, if_true, if_false, Except.ok.injEq, hamount, true_and]
      rw [hzero (show fromDecimals - toDecimals ≤ 0 by omega), mul_one]
    · have hpos := pow10_pos (fromDecimals - toDecimals)
      simp only [hneg, hup, if_false, hamount, true_and]
      rw [Int.tmod_eq_emod_of_nonneg hamount, Int.tdiv_eq_ediv_of_nonneg hamount,
        hzero (show toDecimals - fromDecimals ≤ 0 by omega), mul_one]
      by_cases hdvd : amount % pow10 (fromDecimals - toDecimals) = 0
      · rw [if_neg (not_not.mpr hdvd), Except.ok.injEq,
          Int.ediv_eq_iff_eq_mul_left hpos.ne' (Int.dvd_of_emod_eq_zero hdvd)]
      · rw [if_pos hdvd]
        simp only [reduceCtorEq, false_iff]
        rintro rfl
        exact hdvd (Int.mul_emod_left _ _)

/-- The way back is the identity. -/
theorem convertAtomic_reverse {amount fromDecimals toDecimals v back : ℤ}
    (h : convertAtomic ⟨amount, fromDecimals, toDecimals⟩ = .ok v)
    (hback : convertAtomic ⟨v, toDecimals, fromDecimals⟩ = .ok back) : back = amount := by
  obtain ⟨-, hv⟩ := convertAtomic_eq_ok.mp h
  obtain ⟨-, hb⟩ := convertAtomic_eq_ok.mp hback
  rw [← hv] at hb
  exact (mul_right_cancel₀ (pow10_pos _).ne' hb).symm

theorem maxStellarStroops_eq : maxStellarStroops = 2 ^ 63 - 1 := rfl

/-- One stroop is `10 ^ 11` wei. -/
theorem convertAtomic_wei {w s : ℤ} :
    convertAtomic ⟨w, ethereumDecimals, stellarDecimals⟩ = .ok s ↔ 0 ≤ w ∧ w = s * 10 ^ 11 := by
  have hdown : pow10 (ethereumDecimals - stellarDecimals) = 10 ^ 11 := rfl
  have hup : pow10 (stellarDecimals - ethereumDecimals) = 1 := rfl
  rw [convertAtomic_eq_ok, hdown, hup, mul_one]

theorem convertAtomic_stroops {s w : ℤ} :
    convertAtomic ⟨s, stellarDecimals, ethereumDecimals⟩ = .ok w ↔ 0 ≤ s ∧ w = s * 10 ^ 11 := by
  have hdown : pow10 (ethereumDecimals - stellarDecimals) = 10 ^ 11 := rfl
  have hup : pow10 (stellarDecimals - ethereumDecimals) = 1 := rfl
  rw [convertAtomic_eq_ok, hdown, hup, mul_one, eq_comm (a := w)]

theorem weiToStroops_eq_ok {w s : ℤ} :
    weiToStroops w = .ok s ↔ 0 ≤ w ∧ w = s * 10 ^ 11 ∧ s ≤ 2 ^ 63 - 1 := by
  unfold weiToStroops
  cases hw : convertAtomic ⟨w, ethereumDecimals, stellarDecimals⟩ with
  | error code =>
      simp only [reduceCtorEq, false_iff]
      rintro ⟨hnonneg, heq, -⟩
      rw [convertAtomic_wei.mpr ⟨hnonneg, heq⟩] at hw
      contradiction
  | ok v =>
      obtain ⟨hnonneg, heq⟩ := convertAtomic_wei.mp hw
      rw [← maxStellarStroops_eq]
      by_cases hmax : v > maxStellarStroops
      · simp only [hmax, if_true, reduceCtorEq, false_iff]
        omega
      · simp only [hmax, if_false, Except.ok.injEq]
        omega

theorem stroopsToWei_eq_ok {s w : ℤ} :
    stroopsToWei s = .ok w ↔ s ≤ 2 ^ 63 - 1 ∧ 0 ≤ s ∧ w = s * 10 ^ 11 := by
  rw [← maxStellarStroops_eq]
  unfold stroopsToWei
  by_cases hmax : s > maxStellarStroops
  · simp only [hmax, if_true, reduceCtorEq, false_iff]
    omega
  · rw [if_neg hmax, convertAtomic_stroops]
    exact (and_iff_right (Int.not_lt.mp hmax)).symm

theorem isBridgeableWei_iff {w : ℤ} : isBridgeableWei w = true ↔ ∃ s, weiToStroops w = .ok s := by
  unfold isBridgeableWei
  cases hw : weiToStroops w with
  | error code => simp
  | ok s =>
      obtain ⟨hnonneg, hexact, hmax⟩ := weiToStroops_eq_ok.mp hw
      have hback := stroopsToWei_eq_ok.mpr ⟨hmax, by omega, hexact⟩
      simp [hback]

/-- No conversion between wei and stroops creates or loses value. -/
theorem conversions_exact :
    (∀ w s, weiToStroops w = .ok s ↔ 0 ≤ w ∧ w = s * 10 ^ 11 ∧ s ≤ 2 ^ 63 - 1) ∧
    (∀ s : ℤ, 0 ≤ s → s ≤ 2 ^ 63 - 1 →
      ∃ w, stroopsToWei s = .ok w ∧ weiToStroops w = .ok s) ∧
    (∀ w, isBridgeableWei w = true ↔ ∃ s, weiToStroops w = .ok s) ∧
    ∀ amount fromDecimals toDecimals v back : ℤ,
      convertAtomic ⟨amount, fromDecimals, toDecimals⟩ = .ok v →
      convertAtomic ⟨v, toDecimals, fromDecimals⟩ = .ok back → back = amount := by
  refine ⟨fun w s => weiToStroops_eq_ok, fun s hnonneg hmax => ?_, fun w => isBridgeableWei_iff,
    fun _ _ _ _ _ h hback => convertAtomic_reverse h hback⟩
  refine ⟨s * 10 ^ 11, stroopsToWei_eq_ok.mpr ⟨hmax, hnonneg, rfl⟩, ?_⟩
  exact weiToStroops_eq_ok.mpr ⟨by positivity, rfl, hmax⟩

end OverSync.SdkAmounts
