import OverSync.Verification.Registries.Roll
import OverSync.Verification.SorobanRegistry.Backing

/-! # The Stellar registry keeps a roll

With a token contract that lets transfers through, and with no overflow, every action on the
registry is the action on its roll in which a top-up leaves the flag alone. -/

namespace OverSync.SorobanRegistry

open Function Library Registries

variable {self timestamp caller resolver : Address} {s s' : State} {event : Option Event}

/-- A call authorised by its caller alone. -/
def Env.by (self timestamp caller : Address) : Env where
  self := self
  timestamp := timestamp
  auth := fun a => decide (a = caller)

/-- The keys `initialize` sets are there, and the stake asset is another contract. -/
structure Ready (current : Address) (s : State) : Prop where
  admin : s.inst.admin ≠ none
  stakeAsset : ∃ asset, s.inst.stakeAsset = some asset ∧ asset ≠ current
  beneficiary : ∃ beneficiary, s.inst.slashBeneficiary = some beneficiary

/-! ## Calls that go through -/

theorem requireAuth_by (h : caller ≠ self) :
    requireAuth (Env.by self timestamp caller) caller = .ok () :=
  require_of ⟨h, by simp [Env.by]⟩

theorem requireAdmin_by (h : caller ≠ self) (hadmin : s.inst.admin = some caller) :
    requireAdmin (Env.by self timestamp caller) s = .ok () := by
  rw [requireAdmin, hadmin]
  exact requireAuth_by h

theorem requireAdmin_eq_ok_by (h : requireAdmin (Env.by self timestamp caller) s = .ok ()) :
    s.inst.admin = some caller := by
  unfold requireAdmin at h
  cases hadmin : s.inst.admin with
  | none => simp [hadmin] at h
  | some admin =>
      simp only [hadmin, requireAuth, require_eq_ok] at h
      rw [of_decide_eq_true h.2]

variable (timestamp) in
theorem register_ok {stake : ℕ} (hr : Ready self s) (hcaller : caller ≠ self)
    (hmin : s.minStake ≤ stake) (hnew : s.resolvers caller = none) :
    ∃ r, register (Env.by self timestamp caller) caller stake true s = .ok r := by
  obtain ⟨asset, hasset, hne⟩ := hr.stakeAsset
  have hpull : pullTransfer (Env.by self timestamp caller) asset stake true s =
      .ok { s with balance := update s.balance asset (s.balance asset + stake) } := by
    rw [pullTransfer, require_of ⟨hne, rfl⟩]
    rfl
  simp only [register, requireInitialised, require_of hr.admin, requireAuth_by hcaller,
    require_of hmin, require_of hnew, unwrap_eq_ok.mpr hasset, hpull, ok_bind]
  exact ⟨_, rfl⟩

variable (timestamp) in
theorem increaseStake_ok {additional : ℕ} {info : ResolverInfo} (hr : Ready self s)
    (hcaller : caller ≠ self) (hpos : (0 : ℤ) < additional)
    (hinfo : s.resolvers caller = some info) (hfits : Roll.InRange (info.stake + additional)) :
    ∃ r, increaseStake (Env.by self timestamp caller) caller additional true s = .ok r := by
  obtain ⟨asset, hasset, hne⟩ := hr.stakeAsset
  have hpull : pullTransfer (Env.by self timestamp caller) asset additional true s =
      .ok { s with balance := update s.balance asset (s.balance asset + additional) } := by
    rw [pullTransfer, require_of ⟨hne, rfl⟩]
    rfl
  have hadd : checkedAdd info.stake additional = .ok (info.stake + additional) := if_pos hfits
  simp only [increaseStake, requireInitialised, require_of hr.admin, requireAuth_by hcaller,
    require_of hpos, getResolver_eq_ok.mpr hinfo, unwrap_eq_ok.mpr hasset, hpull, hadd, ok_bind]
  exact ⟨_, rfl⟩

/-- Out of a balance that covers it, a payment goes through. -/
theorem payTransfer_ok (env : Env) {asset : Address} {amount : ℤ} (recipient : Address)
    (hne : asset ≠ env.self) (hbalance : amount ≤ s.balance asset) :
    ∃ balance, payTransfer env asset recipient amount true s =
      .ok { s with balance := balance } := by
  rw [payTransfer, require_of hne, ok_bind, require_of hbalance, ok_bind, require_of rfl, ok_bind]
  by_cases hself : recipient = env.self
  · exact ⟨s.balance, by rw [if_pos hself]; rfl⟩
  · exact ⟨_, by rw [if_neg hself]; rfl⟩

variable (timestamp) in
theorem unregister_ok {info : ResolverInfo} (hs : WellFormed s) (hb : s.stakes.Backed)
    (hr : Ready self s) (hcaller : caller ≠ self) (hinfo : s.resolvers caller = some info) :
    ∃ r, unregister (Env.by self timestamp caller) caller true s = .ok r := by
  obtain ⟨asset, hasset, hne⟩ := hr.stakeAsset
  obtain ⟨balance, hpay⟩ := payTransfer_ok (.by self timestamp caller)
    caller hne (pool_covers hs hb hinfo hasset)
  simp only [unregister, requireInitialised, require_of hr.admin, requireAuth_by hcaller,
    getResolver_eq_ok.mpr hinfo, unwrap_eq_ok.mpr hasset, hpay, ok_bind]
  exact ⟨_, rfl⟩

variable (timestamp) in
theorem slash_ok {info : ResolverInfo} {amount : ℕ} (hs : WellFormed s) (hb : s.stakes.Backed)
    (hr : Ready self s) (hcaller : caller ≠ self) (hadmin : s.inst.admin = some caller)
    (hpos : (0 : ℤ) < amount) (hinfo : s.resolvers resolver = some info)
    (hstake : info.stake < 2 ^ 127)
    (hfits : Roll.InRange (info.totalSlashed + min (amount : ℤ) info.stake)) :
    ∃ r, slash (Env.by self timestamp caller) resolver amount true s = .ok r := by
  obtain ⟨asset, hasset, hne⟩ := hr.stakeAsset
  obtain ⟨beneficiary, hbeneficiary⟩ := hr.beneficiary
  have hnonneg := stake_nonneg hs hb info hinfo
  have hcovers := pool_covers hs hb hinfo hasset
  have htake : min (amount : ℤ) info.stake ≤ s.balance asset := by omega
  obtain ⟨balance, hpay⟩ := payTransfer_ok (.by self timestamp caller)
    beneficiary hne htake
  have hsub : sub info.stake (min (amount : ℤ) info.stake) =
      .ok (info.stake - min (amount : ℤ) info.stake) := if_pos (by omega)
  have hadd : checkedAdd info.totalSlashed (min (amount : ℤ) info.stake) =
      .ok (info.totalSlashed + min (amount : ℤ) info.stake) := if_pos hfits
  simp only [slash, requireAdmin_by hcaller hadmin, require_of hpos,
    getResolver_eq_ok.mpr hinfo, unwrap_eq_ok.mpr hasset, unwrap_eq_ok.mpr hbeneficiary, hpay,
    hsub, hadd, ok_bind]
  exact ⟨_, rfl⟩

/-! ## The roll -/

def ResolverInfo.entry (info : ResolverInfo) : Entry where
  stake := info.stake
  slashed := info.totalSlashed
  active := info.active

/-- The roll the registry keeps. -/
def State.roll (s : State) : Roll where
  owner := s.inst.admin.getD 0
  minStake := s.minStake
  entry := fun a => (s.resolvers a).map ResolverInfo.entry

/-- The call with which an action is asked for, of a token contract that lets it through. -/
def call (caller : Address) : Action → Call
  | .register stake => .register caller stake true
  | .increaseStake additional => .increaseStake caller additional true
  | .unregister => .unregister caller true
  | .slash resolver amount => .slash resolver amount true
  | .setMinStake newMinStake => .setMinStake newMinStake

theorem roll_set {o : Option Entry} (hadmin : s'.inst.admin = s.inst.admin)
    (hmin : s'.minStake = s.minStake) (hself : s'.roll.entry resolver = o)
    (hother : ∀ a, a ≠ resolver → s'.resolvers a = s.resolvers a) :
    s'.roll = s.roll.set resolver o := by
  have hentry : s'.roll.entry = update s.roll.entry resolver o := by
    funext a
    by_cases ha : a = resolver
    · subst ha
      rw [hself, update_self]
    · rw [update_of_ne ha]
      simp [State.roll, hother a ha]
  rw [Roll.set, ← hentry]
  simp [State.roll, hadmin, hmin]

/-- The roll after a call, if it went through. -/
def rollAfter (result : Except Failure (State × Option Event)) : Option Roll :=
  result.toOption.map fun r => r.1.roll

theorem rollAfter_none {result : Except Failure (State × Option Event)}
    (h : ∀ s' event, result ≠ .ok (s', event)) : rollAfter result = none :=
  toOption_map_eq_none fun r => h r.1 r.2

theorem register_roll {stake : ℕ} (hr : Ready self s) (hcaller : caller ≠ self) :
    rollAfter (register (Env.by self timestamp caller) caller stake true s) =
      s.roll.step caller false (.register stake) := by
  rw [Roll.step]
  split
  case isTrue h =>
      obtain ⟨hmin, hnew⟩ := h
      have hnone : s.resolvers caller = none := by simpa [State.roll] using hnew
      obtain ⟨⟨s', event⟩, hok⟩ := register_ok timestamp hr hcaller hmin hnone
      obtain ⟨-, -, -, asset, -, hs'⟩ := register_eq_ok hok
      rw [hok, hs']
      refine congrArg some (roll_set rfl rfl ?_ fun a ha => ?_)
      · simp [State.roll, ResolverInfo.entry, ResolverInfo.registered]
      · simp [ha]
  case isFalse h =>
      refine rollAfter_none fun s' event hok => h ?_
      obtain ⟨-, hmin, hnew, -⟩ := register_eq_ok hok
      exact ⟨hmin, by simp [State.roll, hnew]⟩

theorem increaseStake_roll {additional : ℕ} (hr : Ready self s) (hcaller : caller ≠ self)
    (hfits : s.roll.Fits caller (.increaseStake additional)) :
    rollAfter (increaseStake (Env.by self timestamp caller) caller additional true s) =
      s.roll.step caller false (.increaseStake additional) := by
  cases hinfo : s.resolvers caller with
  | none =>
      have hnone : s.roll.step caller false (.increaseStake additional) = none := by
        simp [Roll.step, State.roll, hinfo]
      rw [hnone]
      refine rollAfter_none fun s' event hok => ?_
      obtain ⟨-, -, info, asset, hsome, -⟩ := increaseStake_eq_ok hok
      simp [hinfo] at hsome
  | some info =>
      have hentry : s.roll.entry caller = some info.entry := by simp [State.roll, hinfo]
      rw [Roll.step, hentry]
      split
      case isTrue hne =>
          obtain ⟨⟨s', event⟩, hok⟩ := increaseStake_ok timestamp hr hcaller
            (show (0 : ℤ) < additional by omega) hinfo (hfits _ hentry)
          obtain ⟨-, -, info', asset, hsome, -, hs'⟩ := increaseStake_eq_ok hok
          obtain rfl := Option.some.inj (hinfo.symm.trans hsome)
          rw [hok, hs']
          refine congrArg some (roll_set rfl rfl ?_ fun a ha => ?_)
          · simp [State.roll, ResolverInfo.entry, Entry.raised]
          · simp [ha]
      case isFalse hzero =>
          refine rollAfter_none fun s' event hok => hzero ?_
          obtain ⟨-, hpos, -⟩ := increaseStake_eq_ok hok
          omega

theorem unregister_roll (hs : WellFormed s) (hb : s.stakes.Backed) (hr : Ready self s)
    (hcaller : caller ≠ self) :
    rollAfter (unregister (Env.by self timestamp caller) caller true s) =
      s.roll.step caller false .unregister := by
  cases hinfo : s.resolvers caller with
  | none =>
      have hnone : s.roll.step caller false .unregister = none := by
        simp [Roll.step, State.roll, hinfo]
      rw [hnone]
      refine rollAfter_none fun s' event hok => ?_
      obtain ⟨-, info, asset, hsome, -⟩ := unregister_eq_ok (stake_nonneg hs hb) hok
      simp [hinfo] at hsome
  | some info =>
      have hentry : s.roll.entry caller = some info.entry := by simp [State.roll, hinfo]
      obtain ⟨⟨s', event⟩, hok⟩ := unregister_ok timestamp hs hb hr hcaller hinfo
      obtain ⟨-, info', asset, -, -, hs', -⟩ := unregister_eq_ok (stake_nonneg hs hb) hok
      rw [Roll.step, hentry, hok, hs']
      refine congrArg some (roll_set rfl rfl ?_ fun a ha => ?_)
      · simp [State.roll]
      · simp [ha]

theorem slash_roll {amount : ℕ} (hs : WellFormed s) (hb : s.stakes.Backed) (hr : Ready self s)
    (hcaller : caller ≠ self) (hbound : ∀ info ∈ s.resolvers resolver, info.stake < 2 ^ 127)
    (hfits : s.roll.Fits caller (.slash resolver amount)) :
    rollAfter (slash (Env.by self timestamp caller) resolver amount true s) =
      s.roll.step caller false (.slash resolver amount) := by
  cases hinfo : s.resolvers resolver with
  | none =>
      have hnone : s.roll.step caller false (.slash resolver amount) = none := by
        simp [Roll.step, State.roll, hinfo]
      rw [hnone]
      refine rollAfter_none fun s' event hok => ?_
      obtain ⟨-, -, info, asset, hsome, -⟩ := slash_eq_ok (stake_nonneg hs hb) hok
      simp [hinfo] at hsome
  | some info =>
      have hentry : s.roll.entry resolver = some info.entry := by simp [State.roll, hinfo]
      rw [Roll.step, hentry]
      split
      case isTrue h =>
          obtain ⟨howner, hne⟩ := h
          have hadmin : s.inst.admin = some caller := by
            obtain ⟨admin, hadmin⟩ := Option.ne_none_iff_exists'.mp hr.admin
            rw [hadmin, howner]
            simp [State.roll, hadmin]
          obtain ⟨⟨s', event⟩, hok⟩ := slash_ok timestamp hs hb
            hr hcaller hadmin (show (0 : ℤ) < amount by omega) hinfo (hbound info hinfo) (hfits _ hentry)
          obtain ⟨-, -, info', asset, hsome, -, hs', -⟩ := slash_eq_ok (stake_nonneg hs hb) hok
          obtain rfl := Option.some.inj (hinfo.symm.trans hsome)
          rw [hok, hs']
          refine congrArg some (roll_set rfl rfl ?_ fun a ha => ?_)
          · simp only [State.roll, update_self, Option.map_some]
            rfl
          · simp [ha]
      case isFalse h =>
          refine rollAfter_none fun s' event hok => h ?_
          obtain ⟨-, hpos, -⟩ := slash_eq_ok (stake_nonneg hs hb) hok
          unfold slash at hok
          obtain ⟨⟨⟩, hauth, -⟩ := bind_eq_ok.mp hok
          have hadmin := requireAdmin_eq_ok_by hauth
          exact ⟨by simp [State.roll, hadmin], by omega⟩

theorem setMinStake_roll {newMinStake : ℕ} (hr : Ready self s) (hcaller : caller ≠ self) :
    rollAfter (setMinStake (Env.by self timestamp caller) newMinStake s) =
      s.roll.step caller false (.setMinStake newMinStake) := by
  rw [Roll.step]
  split
  case isTrue howner =>
      have hadmin : s.inst.admin = some caller := by
        obtain ⟨admin, hadmin⟩ := Option.ne_none_iff_exists'.mp hr.admin
        rw [hadmin, howner]
        simp [State.roll, hadmin]
      rw [setMinStake, requireAdmin_by hcaller hadmin, ok_bind,
        require_of (Int.natCast_nonneg newMinStake)]
      rfl
  case isFalse howner =>
      refine rollAfter_none fun s' event hok => howner ?_
      unfold setMinStake at hok
      obtain ⟨⟨⟩, hauth, -⟩ := bind_eq_ok.mp hok
      have hadmin := requireAdmin_eq_ok_by hauth
      simp [State.roll, hadmin]

/-- Every action on the registry is one on its roll, and goes through when that does. -/
theorem exec_roll {action : Action} (hs : WellFormed s) (hb : s.stakes.Backed)
    (hr : Ready self s) (hcaller : caller ≠ self)
    (hbound : ∀ a, ∀ info ∈ s.resolvers a, info.stake < 2 ^ 127)
    (hfits : s.roll.Fits caller action) :
    rollAfter (exec (Env.by self timestamp caller) s (call caller action)) =
      s.roll.step caller false action := by
  cases action with
  | register stake => exact register_roll hr hcaller
  | increaseStake additional => exact increaseStake_roll hr hcaller hfits
  | unregister => exact unregister_roll hs hb hr hcaller
  | slash resolver amount => exact slash_roll hs hb hr hcaller (hbound resolver) hfits
  | setMinStake newMinStake => exact setMinStake_roll hr hcaller

theorem Ready.exec {env : Env} {action : Action} (hs : WellFormed s) (hb : s.stakes.Backed)
    (hr : Ready self s) (h : SorobanRegistry.exec env s (call caller action) = .ok (s', event)) :
    Ready self s' := by
  cases action with
  | register stake =>
      obtain ⟨-, -, -, asset, -, rfl⟩ := register_eq_ok h
      exact ⟨hr.admin, hr.stakeAsset, hr.beneficiary⟩
  | increaseStake additional =>
      obtain ⟨-, -, info, asset, -, -, rfl⟩ := increaseStake_eq_ok h
      exact ⟨hr.admin, hr.stakeAsset, hr.beneficiary⟩
  | unregister =>
      obtain ⟨-, info, asset, -, -, hs', -⟩ := unregister_eq_ok (stake_nonneg hs hb) h
      rw [hs']
      exact ⟨hr.admin, hr.stakeAsset, hr.beneficiary⟩
  | slash resolver amount =>
      obtain ⟨-, -, info, asset, -, -, hs', -⟩ := slash_eq_ok (stake_nonneg hs hb) h
      rw [hs']
      exact ⟨hr.admin, hr.stakeAsset, hr.beneficiary⟩
  | setMinStake newMinStake =>
      simp only [SorobanRegistry.exec, call, setMinStake] at h
      obtain ⟨⟨⟩, -, h⟩ := bind_eq_ok.mp h
      simp only [require_bind_eq_ok] at h
      obtain ⟨-, h⟩ := h
      cases h
      exact ⟨hr.admin, hr.stakeAsset, hr.beneficiary⟩

/-! ## What the registry answers -/

theorem roll_flag (a : Address) : s.roll.flag a = s.isActive a := by
  simp [Roll.flag, State.roll, State.isActive, ResolverInfo.entry, Function.comp_def]

theorem roll_stake (a : Address) : s.roll.stake a = s.stake a := by
  simp [Roll.stake, State.roll, State.stake, ResolverInfo.entry, Function.comp_def]

end OverSync.SorobanRegistry
