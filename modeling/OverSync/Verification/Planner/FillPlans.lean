import OverSync.Model.Planner
import Mathlib.Data.Int.Order.Basic

/-! # The timelocks of planned fills

The planned timelock is clamped to what the contracts accept after the buffer has been taken
off, so an order that runs out soon is still planned, with a fill that outlives it. -/

namespace OverSync.Planner

open Library

variable {order : ObservedSourceOrder} {cfg : ResolverConfig} {opts : PlanOptions}
  {timelock now buffer : ℤ} {plan : FillPlan}

/-! ## The clamp -/

theorem computeTimelockSeconds_mem (timelock now buffer : ℤ) :
    300 ≤ computeTimelockSeconds timelock now buffer ∧
      computeTimelockSeconds timelock now buffer ≤ 86400 := by
  unfold computeTimelockSeconds
  dsimp only
  split
  · omega
  · split <;> omega

/-- The buffer is kept exactly when the minimum fits before it. -/
theorem computeTimelockSeconds_le_iff :
    now + computeTimelockSeconds timelock now buffer ≤ timelock - buffer ↔
      buffer + 300 ≤ timelock - now := by
  unfold computeTimelockSeconds
  dsimp only
  split
  · omega
  · split <;> omega

/-- The check of the bounds comes after the clamp and finds nothing. -/
theorem validateDestinationParams_clamped (amount safetyDeposit : ℤ) :
    validateDestinationParams amount safetyDeposit (computeTimelockSeconds timelock now buffer) = [] ↔
      0 < amount ∧ 0 ≤ safetyDeposit := by
  obtain ⟨hmin, hmax⟩ := computeTimelockSeconds_mem timelock now buffer
  simp only [validateDestinationParams, List.append_eq_nil_iff, noteIf_eq_nil, not_le, not_lt]
  exact ⟨fun h => h.1.1, fun h => ⟨⟨h, hmin⟩, hmax⟩⟩

/-! ## Plans -/

/-- The configuration is complete and the amounts are in order. The timelock plays no part. -/
structure Plannable (order : ObservedSourceOrder) (cfg : ResolverConfig) (opts : PlanOptions) :
    Prop where
  config : validateResolverConfig cfg opts.dryRun = []
  amount : 0 < computeDestinationAmount order.amount opts.feeBp
  safetyDeposit : 0 ≤ order.safetyDeposit

theorem buildPlan_eq_ok_iff : buildPlan order cfg opts now = .ok plan ↔
    Plannable order cfg opts ∧
      plan = ⟨order, destinationParams order cfg opts now, resolveDirection order.sourceChain⟩ := by
  have hparams : validateDestinationParams (destinationParams order cfg opts now).amount
      (destinationParams order cfg opts now).safetyDeposit
      (destinationParams order cfg opts now).timelockSeconds = [] ↔
      0 < computeDestinationAmount order.amount opts.feeBp ∧ 0 ≤ order.safetyDeposit :=
    validateDestinationParams_clamped _ _
  unfold buildPlan
  dsimp only
  by_cases hconfig : validateResolverConfig cfg opts.dryRun = []
  · rw [if_neg (not_not.mpr hconfig)]
    by_cases hcomputed : 0 < computeDestinationAmount order.amount opts.feeBp ∧
        0 ≤ order.safetyDeposit
    · rw [if_neg (not_not.mpr (hparams.mpr hcomputed)), Except.ok.injEq]
      constructor
      · intro hplan
        exact ⟨⟨hconfig, hcomputed.1, hcomputed.2⟩, hplan.symm⟩
      · intro h
        exact h.2.symm
    · rw [if_pos fun h => hcomputed (hparams.mp h)]
      constructor
      · intro h
        cases h
      · rintro ⟨hplannable, -⟩
        exact absurd ⟨hplannable.amount, hplannable.safetyDeposit⟩ hcomputed
  · rw [if_pos hconfig]
    constructor
    · intro h
      cases h
    · rintro ⟨hplannable, -⟩
      exact absurd hplannable.config hconfig

/-- The contracts of both chains accept the planned timelock. -/
theorem buildPlan_timelock_mem (h : buildPlan order cfg opts now = .ok plan) :
    300 ≤ plan.destination.timelockSeconds ∧ plan.destination.timelockSeconds ≤ 86400 := by
  obtain ⟨-, rfl⟩ := buildPlan_eq_ok_iff.mp h
  exact computeTimelockSeconds_mem _ _ _

/-- The fill runs out before the source lock less the buffer exactly when the order, unless it
is refused, has the buffer and the minimal timelock left. -/
theorem buildPlan_keeps_buffer_iff (order : ObservedSourceOrder) (cfg : ResolverConfig)
    (opts : PlanOptions) (now : ℤ) :
    (∀ plan, buildPlan order cfg opts now = .ok plan →
        now + plan.destination.timelockSeconds ≤ order.timelock - opts.timelockBuffer) ↔
      (Plannable order cfg opts → opts.timelockBuffer + 300 ≤ order.timelock - now) := by
  constructor
  · intro h hplannable
    exact computeTimelockSeconds_le_iff.mp (h _ (buildPlan_eq_ok_iff.mpr ⟨hplannable, rfl⟩))
  · intro h plan hplan
    obtain ⟨hplannable, rfl⟩ := buildPlan_eq_ok_iff.mp hplan
    exact computeTimelockSeconds_le_iff.mpr (h hplannable)

/-! ## An order with a minute left -/

def config7 : ResolverConfig where
  network := "testnet"
  ethereum := ⟨"https://rpc", some "0xe5c", none, none⟩
  soroban := ⟨"https://soroban", some "CHTLC", none, none⟩

def observed7 : ObservedSourceOrder where
  sourceChain := .ethereum
  orderId := "7"
  sender := "0x5e"
  beneficiary := "0xbe"
  token := "0x0"
  amount := 100000
  safetyDeposit := 0
  hashlock := "0xab"
  timelock := 1060

/-- The source lock runs out at 1060 and its fill at 1300. -/
theorem fill_outlives_source :
    ¬ ∀ (order : ObservedSourceOrder) (cfg : ResolverConfig) (opts : PlanOptions) (now : ℤ)
        (plan : FillPlan), buildPlan order cfg opts now = .ok plan →
      now + plan.destination.timelockSeconds ≤ order.timelock - opts.timelockBuffer := by
  intro h
  have hplan : buildPlan observed7 config7 ⟨none, none, true⟩ 1000 = .ok
      ⟨observed7, destinationParams observed7 config7 ⟨none, none, true⟩ 1000, .ethToXlm⟩ := rfl
  have hkept := h _ _ _ _ _ hplan
  revert hkept
  decide

end OverSync.Planner
