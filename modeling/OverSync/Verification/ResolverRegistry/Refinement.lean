import OverSync.Verification.Registries.Roll
import OverSync.Verification.ResolverRegistry.Backing
import Mathlib.Data.Nat.Cast.Order.Ring

/-! # The Ethereum registry keeps a roll

With a stake token that moves what it is asked to, and with no overflow, every action on the
registry is the action on its roll in which a top-up brings an inactive resolver back. -/

namespace OverSync.ResolverRegistry

open Function Library Registries

variable {self timestamp caller resolver : Address} {s s' : State}

/-- A token that moves what it is asked to and does nothing else. -/
def plain : Callee := fun s => (s, true)

theorem plain_contained : Contained plain := fun _ _ => rfl

theorem execAll_nil : (fun s => (execAll self timestamp [] s, true)) = plain := by
  funext s
  rw [execAll]
  rfl

/-! ## Calls with a plain token -/

theorem safeTransferFrom_plain (amount : ℕ) :
    safeTransferFrom amount plain s = .ok { s with balance := s.balance + amount } := rfl

theorem register_plain {stake : ℕ} (hidle : s.entered = false) (hmin : s.minStake ≤ stake)
    (hnew : s.resolverIndex caller = 0) :
    register timestamp caller stake plain s = .ok ({ s with
      resolvers := update s.resolvers caller (.fresh caller stake timestamp)
      resolverList := s.resolverList ++ [caller]
      resolverIndex := update s.resolverIndex caller (s.resolverList.length + 1)
      balance := s.balance + stake }, .registered caller stake) := by
  simp only [register, safeTransferFrom_plain, require_of hidle, require_of hmin,
    require_of hnew, ok_bind]
  simp [ResolverInfo.fresh, hidle, pure, Except.pure]

theorem increaseStake_plain {additional : ℕ} (hidle : s.entered = false)
    (hne : additional ≠ 0) (hlisted : s.resolverIndex caller ≠ 0)
    (hfits : (s.resolvers caller).stake + additional < 2 ^ 256) :
    increaseStake caller additional plain s = .ok ({ s with
      resolvers :=
        update s.resolvers caller ((s.resolvers caller).increased additional s.minStake)
      balance := s.balance + additional },
      .stakeIncreased caller additional ((s.resolvers caller).stake + additional)) := by
  simp only [increaseStake, safeTransferFrom_plain, require_of hidle, require_of hne,
    require_of hlisted, require_of hfits, ok_bind]
  simp [ResolverInfo.increased, hidle, pure, Except.pure]

variable (self) in
theorem safeTransfer_plain (recipient : Address) {amount : ℕ} (h : amount ≤ s.balance) :
    ∃ balance, safeTransfer self recipient amount plain s = .ok { s with balance := balance } := by
  by_cases hself : recipient = self
  · exact ⟨s.balance, by simp [safeTransfer, require, plain, h, hself, pure, Except.pure]⟩
  · exact ⟨s.balance - amount, by simp [safeTransfer, require, plain, h, hself, pure, Except.pure]⟩

variable (self) in
theorem unregister_plain {l : IndexedList Address} (hidle : s.entered = false) (hl : Listed s l)
    (hmem : caller ∈ l.items) (hbalance : (s.resolvers caller).stake ≤ s.balance) :
    ∃ last hlast balance, unregister self caller plain s = .ok ({ s with
      resolvers := update s.resolvers caller .unset
      resolverList := (l.swapRemove caller last hmem hlast).items
      resolverIndex := (l.swapRemove caller last hmem hlast).place
      balance := balance }, .unregistered caller (s.resolvers caller).stake) := by
  have hlast := List.getLast?_eq_some_getLast (List.ne_nil_of_mem hmem)
  refine ⟨_, hlast, ?_⟩
  rw [unregister_eq hl hidle hmem hlast]
  split
  · obtain ⟨balance, htransfer⟩ := safeTransfer_plain self caller
      (s := s.removing caller (l.swapRemove caller _ hmem hlast)) hbalance
    rw [htransfer]
    exact ⟨balance, by simp [State.removing, hidle]⟩
  · exact ⟨s.balance, by simp [State.removing, hidle]⟩

variable (self timestamp) in
theorem slash_plain {amount : ℕ} (howner : caller = s.owner) (hidle : s.entered = false)
    (hne : amount ≠ 0) (hlisted : s.resolverIndex resolver ≠ 0)
    (hfits : (s.resolvers resolver).totalSlashed + (s.resolvers resolver).take amount < 2 ^ 256)
    (hbalance : (s.resolvers resolver).stake ≤ s.balance) :
    ∃ balance, slash timestamp self caller resolver amount plain s = .ok ({ s with
      resolvers := update s.resolvers resolver
        ((s.resolvers resolver).slashed amount s.minStake timestamp)
      balance := balance },
      .slashed resolver ((s.resolvers resolver).take amount) s.slashBeneficiary) := by
  have htake := (s.resolvers resolver).take_le amount
  simp only [slash, require_of howner, require_of hidle, require_of hne, require_of hlisted,
    require_of hfits, ok_bind]
  split
  · obtain ⟨balance, htransfer⟩ := safeTransfer_plain self
      s.slashBeneficiary (s := { s with
        resolvers := update s.resolvers resolver
          ((s.resolvers resolver).slashed amount s.minStake timestamp)
        entered := true }) (htake.trans hbalance)
    rw [htransfer]
    exact ⟨balance, by simp [hidle, pure, Except.pure]⟩
  · exact ⟨s.balance, by simp [hidle, pure, Except.pure]⟩

/-! ## The roll -/

def ResolverInfo.entry (info : ResolverInfo) : Entry where
  stake := info.stake
  slashed := info.totalSlashed
  active := info.active

/-- The roll the registry keeps. -/
def State.roll (s : State) : Roll where
  owner := s.owner
  minStake := s.minStake
  entry := fun a => if s.resolverIndex a = 0 then none else some (s.resolvers a).entry

/-- The call with which an action is asked for, of a plain token. -/
def call (caller : Address) : Action → Call
  | .register stake => .register caller stake ([], true)
  | .increaseStake additional => .increaseStake caller additional ([], true)
  | .unregister => .unregister caller ([], true)
  | .slash resolver amount => .slash caller resolver amount ([], true)
  | .setMinStake newMinStake => .setMinStake caller newMinStake

theorem increased_entry (info : ResolverInfo) (additional minStake : ℕ) :
    (info.increased additional minStake).entry = info.entry.raised true additional minStake := by
  have hle : (minStake : ℤ) ≤ info.stake + additional ↔ minStake ≤ info.stake + additional := by
    omega
  simp [ResolverInfo.entry, ResolverInfo.increased, Entry.raised, hle]

theorem take_eq_min (info : ResolverInfo) (amount : ℕ) :
    info.take amount = min amount info.stake := by
  unfold ResolverInfo.take
  split <;> omega

theorem slashed_entry (info : ResolverInfo) (amount minStake : ℕ) :
    (info.slashed amount minStake timestamp).entry = info.entry.cut amount minStake := by
  have hstake : ((info.stake - info.take amount : ℕ) : ℤ) =
      info.stake - min (amount : ℤ) info.stake := by
    rw [take_eq_min]
    omega
  have htotal : ((info.totalSlashed + info.take amount : ℕ) : ℤ) =
      info.totalSlashed + min (amount : ℤ) info.stake := by
    rw [take_eq_min]
    omega
  have hlt : ((info.stake - info.take amount : ℕ) : ℤ) < minStake ↔
      info.stake - info.take amount < minStake := by
    omega
  simp only [ResolverInfo.entry, ResolverInfo.slashed, Entry.cut, htotal, ← hstake, hlt]

theorem roll_entry (hs : WellFormed s) (hmem : resolver ∈ s.resolverList) :
    s.roll.entry resolver = some (s.resolvers resolver).entry :=
  if_neg (hs.index_ne_zero.mpr hmem)

theorem roll_entry_none : s.roll.entry resolver = none ↔ s.resolverIndex resolver = 0 := by
  simp [State.roll]

theorem roll_set {o : Option Entry} (howner : s'.owner = s.owner)
    (hmin : s'.minStake = s.minStake) (hself : s'.roll.entry resolver = o)
    (hother : ∀ a, a ≠ resolver → s'.roll.entry a = s.roll.entry a) :
    s'.roll = s.roll.set resolver o := by
  have hentry : s'.roll.entry = update s.roll.entry resolver o := by
    funext a
    by_cases ha : a = resolver
    · subst ha
      rw [hself, update_self]
    · rw [hother a ha, update_of_ne ha]
  rw [Roll.set, ← hentry]
  simp [State.roll, howner, hmin]

/-- The roll after a call, if it went through. -/
def rollAfter (result : Except Error (State × Event)) : Option Roll :=
  result.toOption.map fun r => r.1.roll

theorem rollAfter_none {result : Except Error (State × Event)}
    (h : ∀ s' event, result ≠ .ok (s', event)) : rollAfter result = none :=
  toOption_map_eq_none fun r => h r.1 r.2

theorem register_roll {stake : ℕ} (hs : WellFormed s) :
    rollAfter (register timestamp caller stake plain s) =
      s.roll.step caller true (.register stake) := by
  rw [Roll.step]
  split
  case isTrue h =>
      obtain ⟨hmin, hnew⟩ := h
      rw [roll_entry_none] at hnew
      rw [register_plain hs.idle (by simpa [State.roll] using hmin) hnew]
      refine congrArg some (roll_set rfl rfl ?_ fun a ha => ?_)
      · simp [State.roll, ResolverInfo.entry, ResolverInfo.fresh]
      · simp [State.roll, ha]
  case isFalse h =>
      refine rollAfter_none fun s' event hok => h ?_
      obtain ⟨-, hmin, hnew, -⟩ := register_eq_ok plain_contained hok
      exact ⟨by simpa [State.roll] using hmin, roll_entry_none.mpr hnew⟩

theorem increaseStake_roll {additional : ℕ} (hs : WellFormed s)
    (hfits : s.roll.Fits caller (.increaseStake additional)) :
    rollAfter (increaseStake caller additional plain s) =
      s.roll.step caller true (.increaseStake additional) := by
  by_cases h : additional ≠ 0 ∧ s.resolverIndex caller ≠ 0
  · obtain ⟨hne, hlisted⟩ := h
    have hentry := roll_entry hs (hs.index_ne_zero.mp hlisted)
    have hrange := hfits _ hentry
    have hbound : (s.resolvers caller).stake + additional < 2 ^ 256 := by
      simp only [Roll.InRange, ResolverInfo.entry] at hrange
      omega
    rw [increaseStake_plain hs.idle hne hlisted hbound, Roll.step, if_pos hne, hentry]
    refine congrArg some (roll_set rfl rfl ?_ fun a ha => ?_)
    · simp [State.roll, hlisted, increased_entry]
    · simp [State.roll, ha]
  · have hnone : s.roll.step caller true (.increaseStake additional) = none := by
      rw [Roll.step]
      split
      case isTrue hne =>
          have hzero : s.resolverIndex caller = 0 := by
            by_contra hlisted
            exact h ⟨hne, hlisted⟩
          simp [State.roll, hzero]
      case isFalse => rfl
    rw [hnone]
    refine rollAfter_none fun s' event hok => h ?_
    obtain ⟨hne, hlisted, -⟩ := increaseStake_eq_ok plain_contained hok
    exact ⟨hne, hlisted⟩

theorem unregister_roll (hs : WellFormed s) (hb : s.stakes.Backed) :
    rollAfter (unregister self caller plain s) = s.roll.step caller true .unregister := by
  obtain ⟨l, hl⟩ := hs.listed
  rw [Roll.step]
  by_cases hmem : caller ∈ l.items
  · have hmem' : caller ∈ s.resolverList := hl.list ▸ hmem
    obtain ⟨last, hlast, balance, hok⟩ :=
      unregister_plain self hs.idle hl hmem (hb.stake_le_pool hmem')
    rw [hok, roll_entry hs hmem']
    refine congrArg some (roll_set rfl rfl ?_ fun a ha => ?_)
    · simp [State.roll, IndexedList.swapRemove]
    · have hplace : (l.swapRemove caller last hmem hlast).place a = 0 ↔ l.place a = 0 := by
        rw [IndexedList.place_eq_zero, IndexedList.place_eq_zero, IndexedList.mem_swapRemove]
        simp [ha]
      simp [State.roll, hplace, hl.index, ha]
  · have hzero : s.resolverIndex caller = 0 := by
      rw [hl.index]
      exact l.place_eq_zero.mpr hmem
    rw [roll_entry_none.mpr hzero]
    refine rollAfter_none fun s' event hok => ?_
    obtain ⟨-, hmem', -⟩ := unregister_eq_ok hl plain_contained hok
    exact hmem hmem'

theorem slash_roll {amount : ℕ} (hs : WellFormed s) (hb : s.stakes.Backed)
    (hfits : s.roll.Fits caller (.slash resolver amount)) :
    rollAfter (slash timestamp self caller resolver amount plain s) =
      s.roll.step caller true (.slash resolver amount) := by
  by_cases h : (caller = s.owner ∧ amount ≠ 0) ∧ s.resolverIndex resolver ≠ 0
  · obtain ⟨⟨howner, hne⟩, hlisted⟩ := h
    have hmem := hs.index_ne_zero.mp hlisted
    have hentry := roll_entry hs hmem
    have hrange := hfits _ hentry
    have hbound : (s.resolvers resolver).totalSlashed + (s.resolvers resolver).take amount <
        2 ^ 256 := by
      simp only [Roll.InRange, ResolverInfo.entry] at hrange
      rw [take_eq_min]
      omega
    obtain ⟨balance, hok⟩ := slash_plain self timestamp howner hs.idle
      hne hlisted hbound (hb.stake_le_pool hmem)
    rw [hok, Roll.step, if_pos ⟨howner, hne⟩, hentry]
    refine congrArg some (roll_set rfl rfl ?_ fun a ha => ?_)
    · simp [State.roll, hlisted, slashed_entry]
    · simp [State.roll, ha]
  · have hnone : s.roll.step caller true (.slash resolver amount) = none := by
      rw [Roll.step]
      split
      case isTrue hne =>
          have hzero : s.resolverIndex resolver = 0 := by
            by_contra hlisted
            exact h ⟨hne, hlisted⟩
          simp [State.roll, hzero]
      case isFalse => rfl
    rw [hnone]
    refine rollAfter_none fun s' event hok => h ?_
    obtain ⟨hchecks, hlisted, -⟩ := slash_eq_ok plain_contained hok
    exact ⟨hchecks, hlisted⟩

theorem setMinStake_roll {newMinStake : ℕ} :
    rollAfter (setMinStake caller newMinStake s) =
      s.roll.step caller true (.setMinStake newMinStake) := by
  rw [Roll.step]
  split
  case isTrue howner =>
      rw [setMinStake, require_of (show caller = s.owner from howner)]
      rfl
  case isFalse howner =>
      refine rollAfter_none fun s' event hok => howner ?_
      simp only [setMinStake, require_bind_eq_ok] at hok
      exact hok.1

/-- Every action on the registry is one on its roll, and goes through when that does. -/
theorem exec_roll {action : Action} (hs : WellFormed s) (hb : s.stakes.Backed)
    (hfits : s.roll.Fits caller action) :
    rollAfter (exec self timestamp (call caller action) s) = s.roll.step caller true action := by
  cases action with
  | register stake =>
      rw [call, exec, execAll_nil]
      exact register_roll hs
  | increaseStake additional =>
      rw [call, exec, execAll_nil]
      exact increaseStake_roll hs hfits
  | unregister =>
      rw [call, exec, execAll_nil]
      exact unregister_roll hs hb
  | slash resolver amount =>
      rw [call, exec, execAll_nil]
      exact slash_roll hs hb hfits
  | setMinStake newMinStake =>
      rw [call, exec]
      exact setMinStake_roll

/-! ## What the registry answers -/

theorem roll_staked (hs : WellFormed s) (a : Address) : s.roll.staked a = s.isActive a := by
  by_cases ha : s.resolverIndex a = 0
  · have hunset := hs.unrecorded a (hs.index_eq_zero.mp ha)
    simp [Roll.staked, State.roll, State.isActive, ha, hunset, ResolverInfo.unset]
  · simp [Roll.staked, State.roll, State.isActive, ha, ResolverInfo.entry]

theorem roll_stake (hs : WellFormed s) (a : Address) :
    s.roll.stake a = (s.resolvers a).stake := by
  by_cases ha : s.resolverIndex a = 0
  · have hunset := hs.unrecorded a (hs.index_eq_zero.mp ha)
    simp [Roll.stake, State.roll, ha, hunset, ResolverInfo.unset]
  · simp [Roll.stake, State.roll, ha, ResolverInfo.entry]

end OverSync.ResolverRegistry
