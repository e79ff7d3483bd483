import OverSync.Model.SorobanRegistry
import Mathlib.Tactic.Common

/-! # What a successful call of `resolver-registry` does -/

namespace OverSync.SorobanRegistry

open Function Library

variable {env : Env} {s s' : State} {asset resolver : Address} {event : Option Event}

theorem unwrap_eq_ok {α : Type} {o : Option α} {a : α} : unwrap o = .ok a ↔ o = some a := by
  cases o <;> simp [unwrap]

theorem getResolver_eq_ok {info : ResolverInfo} :
    getResolver s resolver = .ok info ↔ s.resolvers resolver = some info := by
  unfold getResolver
  cases s.resolvers resolver <;> simp

theorem checkedAdd_eq_ok {a b c : ℤ} (h : checkedAdd a b = .ok c) : c = a + b := by
  unfold checkedAdd at h
  split at h
  · exact (Except.ok.inj h).symm
  · cases h

theorem sub_eq_ok {a b c : ℤ} (h : sub a b = .ok c) : c = a - b := by
  unfold sub at h
  split at h
  · exact (Except.ok.inj h).symm
  · cases h

theorem requireAdmin_eq_ok (h : requireAdmin env s = .ok ()) :
    ∃ admin, s.inst.admin = some admin := by
  unfold requireAdmin at h
  cases hadmin : s.inst.admin with
  | none => simp [hadmin] at h
  | some admin => exact ⟨admin, rfl⟩

/-! ## Transfers -/

theorem pullTransfer_eq_ok {amount : ℤ} {ok : Bool}
    (h : pullTransfer env asset amount ok s = .ok s') :
    s' = { s with balance := update s.balance asset (s.balance asset + amount) } := by
  simp only [pullTransfer, require_bind_eq_ok] at h
  exact (Except.ok.inj h.2).symm

/-- The contract pays out of its balance, or to itself. -/
theorem payTransfer_eq_ok {recipient : Address} {amount : ℤ} {ok : Bool} (hamount : 0 ≤ amount)
    (h : payTransfer env asset recipient amount ok s = .ok s') :
    s' = { s with balance := s'.balance } ∧ s.balance asset ≤ s'.balance asset + amount := by
  simp only [payTransfer, require_bind_eq_ok] at h
  obtain ⟨-, -, -, h⟩ := h
  cases h
  by_cases hself : recipient = env.self
  · simp only [hself, if_true]
    exact ⟨trivial, by omega⟩
  · simp [hself]

/-- Only a missing balance makes a payment fail for lack of funds. -/
theorem payTransfer_funds {recipient : Address} {amount : ℤ} {ok : Bool}
    (h : payTransfer env asset recipient amount ok s = .error .insufficientBalance) :
    s.balance asset < amount := by
  unfold payTransfer at h
  by_contra hlt
  have hle : amount ≤ s.balance asset := by omega
  rw [require_of hle, ok_bind] at h
  exact bind_ne_error (require_ne_error (by simp))
    (fun _ _ => bind_ne_error (require_ne_error (by simp)) fun _ _ => by simp [pure, Except.pure]) h

/-! ## The operations -/

theorem initialise_eq_ok {admin stakeAsset : Address} {minStake : ℤ} {beneficiary : Address}
    (h : initialise env admin stakeAsset minStake beneficiary s = .ok (s', event)) :
    s.inst.admin = none ∧ 0 ≤ minStake ∧
      s' = { s with inst := ⟨some admin, some stakeAsset, some minStake, some beneficiary,
        some []⟩ } := by
  simp only [initialise, requireAuth, require_bind_eq_ok] at h
  obtain ⟨hadmin, hmin, -, h⟩ := h
  cases h
  exact ⟨hadmin, hmin, rfl⟩

theorem register_eq_ok {stake : ℤ} {pull : Bool}
    (h : register env resolver stake pull s = .ok (s', event)) :
    s.inst.admin ≠ none ∧ s.minStake ≤ stake ∧ s.resolvers resolver = none ∧
      ∃ asset, s.inst.stakeAsset = some asset ∧
        s' = { s with
          resolvers :=
            update s.resolvers resolver (some (.registered resolver stake env.timestamp))
          inst := { s.inst with resolverList := some (s.list ++ [resolver]) }
          balance := update s.balance asset (s.balance asset + stake) } := by
  simp only [register, requireInitialised, requireAuth, require_bind_eq_ok] at h
  obtain ⟨hadmin, -, hmin, hnew, h⟩ := h
  obtain ⟨asset, hasset, h⟩ := bind_eq_ok.mp h
  obtain ⟨s₁, hpull, h⟩ := bind_eq_ok.mp h
  have hs₁ := pullTransfer_eq_ok hpull
  cases h
  refine ⟨hadmin, hmin, hnew, asset, unwrap_eq_ok.mp hasset, ?_⟩
  rw [hs₁]
  rfl

theorem increaseStake_eq_ok {additional : ℤ} {pull : Bool}
    (h : increaseStake env resolver additional pull s = .ok (s', event)) :
    s.inst.admin ≠ none ∧ 0 < additional ∧
      ∃ info asset, s.resolvers resolver = some info ∧ s.inst.stakeAsset = some asset ∧
        s' = { s with
          resolvers := update s.resolvers resolver
            (some { info with stake := info.stake + additional })
          balance := update s.balance asset (s.balance asset + additional) } := by
  simp only [increaseStake, requireInitialised, requireAuth, require_bind_eq_ok] at h
  obtain ⟨hadmin, -, hpos, h⟩ := h
  obtain ⟨info, hinfo, h⟩ := bind_eq_ok.mp h
  obtain ⟨asset, hasset, h⟩ := bind_eq_ok.mp h
  obtain ⟨s₁, hpull, h⟩ := bind_eq_ok.mp h
  obtain ⟨stake, hstake, h⟩ := bind_eq_ok.mp h
  have hs₁ := pullTransfer_eq_ok hpull
  obtain rfl := checkedAdd_eq_ok hstake
  cases h
  refine ⟨hadmin, hpos, info, asset, getResolver_eq_ok.mp hinfo, unwrap_eq_ok.mp hasset, ?_⟩
  rw [hs₁]

theorem unregister_eq_ok {pay : Bool} (hnonneg : ∀ info ∈ s.resolvers resolver, 0 ≤ info.stake)
    (h : unregister env resolver pay s = .ok (s', event)) :
    s.inst.admin ≠ none ∧
      ∃ info asset, s.resolvers resolver = some info ∧ s.inst.stakeAsset = some asset ∧
        s' = { s with
          resolvers := update s.resolvers resolver none
          inst := { s.inst with
            resolverList := some (s.list.filter fun addr => addr ≠ resolver) }
          balance := s'.balance } ∧
        s.balance asset ≤ s'.balance asset + info.stake := by
  simp only [unregister, requireInitialised, requireAuth, require_bind_eq_ok] at h
  obtain ⟨hadmin, -, h⟩ := h
  obtain ⟨info, hinfo, h⟩ := bind_eq_ok.mp h
  obtain ⟨asset, hasset, h⟩ := bind_eq_ok.mp h
  obtain ⟨s₁, hpay, h⟩ := bind_eq_ok.mp h
  rw [getResolver_eq_ok] at hinfo
  obtain ⟨hs₁, hbalance⟩ := payTransfer_eq_ok (hnonneg info hinfo) hpay
  cases h
  refine ⟨hadmin, info, asset, hinfo, unwrap_eq_ok.mp hasset, ?_, hbalance⟩
  rw [hs₁]
  rfl

theorem slash_eq_ok {amount : ℤ} {pay : Bool}
    (hnonneg : ∀ info ∈ s.resolvers resolver, 0 ≤ info.stake)
    (h : slash env resolver amount pay s = .ok (s', event)) :
    s.inst.admin ≠ none ∧ 0 < amount ∧
      ∃ info asset, s.resolvers resolver = some info ∧ s.inst.stakeAsset = some asset ∧
        s' = { s with
          resolvers := update s.resolvers resolver
            (some (info.slashed (info.stake - min amount info.stake)
              (info.totalSlashed + min amount info.stake) s.minStake env.timestamp))
          balance := s'.balance } ∧
        s.balance asset ≤ s'.balance asset + min amount info.stake := by
  unfold slash at h
  obtain ⟨⟨⟩, hadmin, h⟩ := bind_eq_ok.mp h
  obtain ⟨admin, hadmin⟩ := requireAdmin_eq_ok hadmin
  simp only [require_bind_eq_ok] at h
  obtain ⟨hpos, h⟩ := h
  obtain ⟨info, hinfo, h⟩ := bind_eq_ok.mp h
  obtain ⟨asset, hasset, h⟩ := bind_eq_ok.mp h
  obtain ⟨beneficiary, -, h⟩ := bind_eq_ok.mp h
  obtain ⟨s₁, hpay, h⟩ := bind_eq_ok.mp h
  obtain ⟨stake, hstake, h⟩ := bind_eq_ok.mp h
  obtain ⟨totalSlashed, htotal, h⟩ := bind_eq_ok.mp h
  rw [getResolver_eq_ok] at hinfo
  have hstakeNonneg := hnonneg info hinfo
  obtain ⟨hs₁, hbalance⟩ := payTransfer_eq_ok (by omega) hpay
  obtain rfl := sub_eq_ok hstake
  obtain rfl := checkedAdd_eq_ok htotal
  cases h
  refine ⟨by simp [hadmin], hpos, info, asset, hinfo, unwrap_eq_ok.mp hasset, ?_, hbalance⟩
  rw [hs₁]
  rfl

/-- The settings of the admin change neither the list nor the records. -/
structure SetSpec (s s' : State) : Prop where
  admin : s.inst.admin ≠ none ∧ s'.inst.admin ≠ none
  stakeAsset : s'.inst.stakeAsset = s.inst.stakeAsset
  resolverList : s'.inst.resolverList = s.inst.resolverList
  minStake : 0 ≤ s.minStake → 0 ≤ s'.minStake
  resolvers : s'.resolvers = s.resolvers
  balance : s'.balance = s.balance

theorem setMinStake_eq_ok {newMinimum : ℤ}
    (h : setMinStake env newMinimum s = .ok (s', event)) : SetSpec s s' := by
  unfold setMinStake at h
  obtain ⟨⟨⟩, hadmin, h⟩ := bind_eq_ok.mp h
  obtain ⟨admin, hadmin⟩ := requireAdmin_eq_ok hadmin
  simp only [require_bind_eq_ok] at h
  obtain ⟨hmin, h⟩ := h
  cases h
  exact ⟨by simp [hadmin], rfl, rfl, fun _ => hmin, rfl, rfl⟩

theorem setAdmin_eq_ok {newAdmin : Address} (h : setAdmin env newAdmin s = .ok (s', event)) :
    SetSpec s s' := by
  unfold setAdmin at h
  obtain ⟨⟨⟩, hadmin, h⟩ := bind_eq_ok.mp h
  obtain ⟨admin, hadmin⟩ := requireAdmin_eq_ok hadmin
  cases h
  exact ⟨by simp [hadmin], rfl, rfl, id, rfl, rfl⟩

theorem setSlashBeneficiary_eq_ok {newBeneficiary : Address}
    (h : setSlashBeneficiary env newBeneficiary s = .ok (s', event)) : SetSpec s s' := by
  unfold setSlashBeneficiary at h
  obtain ⟨⟨⟩, hadmin, h⟩ := bind_eq_ok.mp h
  obtain ⟨admin, hadmin⟩ := requireAdmin_eq_ok hadmin
  cases h
  exact ⟨by simp [hadmin], rfl, rfl, id, rfl, rfl⟩

end OverSync.SorobanRegistry
