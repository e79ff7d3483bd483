import OverSync.Library.Stakes
import OverSync.Verification.ResolverRegistry.Equations
import Mathlib.Algebra.Order.Group.Nat

/-! # The list of resolvers and the stakes behind it

Every step of the registry keeps list, index and records together and is a movement of the
stakes of its resolvers, so that the balance covers what is recorded. -/

namespace OverSync.ResolverRegistry

open Function Library

variable {self timestamp sender resolver : Address} {s s' : State} {token : Callee}
  {event : Event}

/-- The stakes of the resolvers and the balance they lie in. -/
def State.stakes (s : State) : Stakes Address ℕ where
  members := s.resolverList
  stake := fun a => (s.resolvers a).stake
  pool := s.balance

/-- List and index belong together, and exactly the listed addresses have a record. -/
structure WellFormed (s : State) : Prop where
  idle : s.entered = false
  listed : ∃ l, Listed s l
  recorded : ∀ a ∈ s.resolverList, (s.resolvers a).resolver = a ∧ a ≠ zeroAddress
  unrecorded : ∀ a, a ∉ s.resolverList → s.resolvers a = .unset

theorem WellFormed.index_ne_zero (h : WellFormed s) :
    s.resolverIndex resolver ≠ 0 ↔ resolver ∈ s.resolverList := by
  obtain ⟨l, hl⟩ := h.listed
  rw [hl.index, hl.list, l.place_ne_zero]

theorem WellFormed.index_eq_zero (h : WellFormed s) :
    s.resolverIndex resolver = 0 ↔ resolver ∉ s.resolverList := by
  rw [← h.index_ne_zero, not_not]

theorem stake_update (records : Address → ResolverInfo) (info : ResolverInfo) :
    (fun a => (update records resolver info a).stake) =
      update (fun a => (records a).stake) resolver info.stake := by
  funext a
  by_cases ha : a = resolver
  · subst ha
    simp
  · simp [ha]

theorem WellFormed.congr (h : WellFormed s) (hentered : s'.entered = s.entered)
    (hlist : s'.resolverList = s.resolverList) (hindex : s'.resolverIndex = s.resolverIndex)
    (hresolvers : s'.resolvers = s.resolvers) : WellFormed s' := by
  obtain ⟨l, hl⟩ := h.listed
  refine ⟨hentered.trans h.idle, ⟨l, hlist.trans hl.list, hindex.trans hl.index⟩, ?_, ?_⟩
  · rw [hlist, hresolvers]
    exact h.recorded
  · rw [hlist, hresolvers]
    exact h.unrecorded

/-- Changing the record of a listed resolver, but not its address, keeps everything together. -/
theorem WellFormed.rewrite (info : ResolverInfo) (h : WellFormed s)
    (hmem : resolver ∈ s.resolverList) (hinfo : info.resolver = (s.resolvers resolver).resolver)
    (hs' : s' = { s.withSettings s' with
      resolvers := update s.resolvers resolver info
      balance := s'.balance }) : WellFormed s' := by
  obtain ⟨l, hl⟩ := h.listed
  rw [hs']
  refine ⟨h.idle, ⟨l, hl.list, hl.index⟩, fun a ha => ?_, fun a ha => ?_⟩
  · have ha' : a ∈ s.resolverList := ha
    by_cases heq : a = resolver
    · subst heq
      simpa [hinfo] using h.recorded a ha'
    · simpa [update_of_ne heq] using h.recorded a ha'
  · have hne : a ≠ resolver := by
      rintro rfl
      exact ha hmem
    simpa [update_of_ne hne] using h.unrecorded a ha

/-! ## What one call does to the stakes -/

theorem register_moves {stake : ℕ} (hs : WellFormed s) (hsender : sender ≠ zeroAddress)
    (htoken : Contained token) (h : register timestamp sender stake token s = .ok (s', event)) :
    WellFormed s' ∧ Stakes.Step s.stakes (.joined sender stake) s'.stakes := by
  obtain ⟨hidle, -, hnew, hs'⟩ := register_eq_ok htoken h
  have hnotMem := hs.index_eq_zero.mp hnew
  obtain ⟨l, hl⟩ := hs.listed
  rw [hs']
  constructor
  · refine ⟨hidle, ⟨l.push sender (hl.list ▸ hnotMem), ?_, ?_⟩, fun a ha => ?_, fun a ha => ?_⟩
    · simp [IndexedList.push, hl.list]
    · simp [IndexedList.push, hl.list, hl.index]
    · rcases List.mem_append.mp ha with hold | hnew
      · have hne : a ≠ sender := fun heq => hnotMem (heq ▸ hold)
        simpa [update_of_ne hne] using hs.recorded a hold
      · have heq := List.mem_singleton.mp hnew
        simpa [heq, ResolverInfo.fresh] using hsender
    · simp only [List.mem_append, List.mem_singleton, not_or] at ha
      simpa [update_of_ne ha.2] using hs.unrecorded a ha.1
  · refine .joined hnotMem (Nat.zero_le _) ?_ ?_ le_rfl
    · exact List.perm_append_singleton sender s.resolverList
    · exact stake_update s.resolvers (.fresh sender stake timestamp)

theorem increaseStake_moves {additional : ℕ} (hs : WellFormed s) (htoken : Contained token)
    (h : increaseStake sender additional token s = .ok (s', event)) :
    WellFormed s' ∧ Stakes.Step s.stakes (.raised sender additional) s'.stakes := by
  obtain ⟨-, hlisted, hs'⟩ := increaseStake_eq_ok htoken h
  have hmem := hs.index_ne_zero.mp hlisted
  have hbalance : s'.balance = s.balance + additional := by rw [hs']
  refine ⟨hs.rewrite ((s.resolvers sender).increased additional s'.minStake) hmem rfl ?_, ?_⟩
  · rw [hbalance]
    exact hs'
  · rw [hs']
    exact .raised hmem (Nat.zero_le _) rfl
      (stake_update s.resolvers ((s.resolvers sender).increased additional s'.minStake)) le_rfl

theorem unregister_moves (hs : WellFormed s) (htoken : Contained token)
    (h : unregister self sender token s = .ok (s', event)) :
    WellFormed s' ∧ Stakes.Step s.stakes (.left sender) s'.stakes := by
  obtain ⟨l, hl⟩ := hs.listed
  obtain ⟨hidle, hmem, last, hlast, hs', hbalance⟩ := unregister_eq_ok hl htoken h
  rw [hs']
  constructor
  · refine ⟨hidle, ⟨l.swapRemove sender last hmem hlast, rfl, rfl⟩, fun a ha => ?_, fun a ha => ?_⟩
    · obtain ⟨hne, ha⟩ := (IndexedList.mem_swapRemove hmem hlast).mp ha
      simpa [update_of_ne hne] using hs.recorded a (hl.list ▸ ha)
    · by_cases hne : a = sender
      · subst hne
        simp
      · have ha' : a ∉ s.resolverList := fun hin =>
          ha ((IndexedList.mem_swapRemove hmem hlast).mpr ⟨hne, hl.list ▸ hin⟩)
        simpa [update_of_ne hne] using hs.unrecorded a ha'
  · refine .left ?_ (fun a ha => ?_) hbalance
    · have hperm := IndexedList.swapRemove_perm hmem hlast
      rwa [← hl.list] at hperm
    · simp [State.stakes, update_of_ne ha]

theorem slash_moves {amount : ℕ} (hs : WellFormed s) (htoken : Contained token)
    (h : slash timestamp self sender resolver amount token s = .ok (s', event)) :
    WellFormed s' ∧ Stakes.Step s.stakes
      (.cut resolver ((s.resolvers resolver).take amount)) s'.stakes := by
  obtain ⟨-, hlisted, hs', hbalance⟩ := slash_eq_ok htoken h
  have hmem := hs.index_ne_zero.mp hlisted
  have htake := (s.resolvers resolver).take_le amount
  refine ⟨hs.rewrite
    ((s.resolvers resolver).slashed amount s.minStake timestamp) hmem rfl hs', ?_⟩
  rw [hs']
  refine .cut hmem (Nat.zero_le _) rfl ?_
    (stake_update s.resolvers ((s.resolvers resolver).slashed amount s.minStake timestamp)) hbalance
  simp only [State.stakes, ResolverInfo.slashed]
  omega

theorem exec_moves {call : Call} (hs : WellFormed s) (hsender : call.sender ≠ zeroAddress)
    (h : exec self timestamp call s = .ok (s', event)) :
    WellFormed s' ∧ ∃ movement, Stakes.Step s.stakes movement s'.stakes := by
  cases call with
  | register sender stake token =>
      rw [exec] at h
      obtain ⟨hs', hstep⟩ := register_moves hs hsender (contained_execAll _ _) h
      exact ⟨hs', _, hstep⟩
  | increaseStake sender additional token =>
      rw [exec] at h
      obtain ⟨hs', hstep⟩ := increaseStake_moves hs (contained_execAll _ _) h
      exact ⟨hs', _, hstep⟩
  | unregister sender token =>
      rw [exec] at h
      obtain ⟨hs', hstep⟩ := unregister_moves hs (contained_execAll _ _) h
      exact ⟨hs', _, hstep⟩
  | slash sender resolver amount token =>
      rw [exec] at h
      obtain ⟨hs', hstep⟩ := slash_moves hs (contained_execAll _ _) h
      exact ⟨hs', _, hstep⟩
  | setMinStake sender newMinStake =>
      simp only [exec, setMinStake, require_bind_eq_ok] at h
      obtain ⟨-, h⟩ := h
      cases h
      exact ⟨hs.congr rfl rfl rfl rfl, .gift, .gift rfl rfl le_rfl⟩
  | setSlashBeneficiary sender newBeneficiary =>
      simp only [exec, setSlashBeneficiary, require_bind_eq_ok] at h
      obtain ⟨-, -, h⟩ := h
      cases h
      exact ⟨hs.congr rfl rfl rfl rfl, .gift, .gift rfl rfl le_rfl⟩

theorem Step.moves {record : Record} (hs : WellFormed s) (h : Step self s record s') :
    WellFormed s' ∧ ∃ movement, Stakes.Step s.stakes movement s'.stakes := by
  cases h with
  | success _ hsender hexec => exact exec_moves hs hsender hexec
  | revert _ => exact ⟨hs, .gift, .gift rfl rfl le_rfl⟩
  | donation =>
      exact ⟨hs.congr rfl rfl rfl rfl, .gift, .gift rfl rfl (Nat.le_add_right _ _)⟩
  | ownership => exact ⟨hs.congr rfl rfl rfl rfl, .gift, .gift rfl rfl le_rfl⟩

/-! ## Runs -/

variable {stakeAsset minStake beneficiary owner : ℕ} {records : List Record} {s₀ : State}

theorem construct_eq_ok (h : construct stakeAsset minStake beneficiary owner = .ok s₀) :
    WellFormed s₀ ∧ s₀.stakes = Stakes.empty := by
  simp only [construct, require_bind_eq_ok] at h
  obtain ⟨-, h⟩ := h
  cases h
  exact ⟨⟨rfl, ⟨IndexedList.empty, rfl, rfl⟩, by simp, by simp⟩, rfl⟩

/-- Runs of the registry are runs of its stakes. -/
theorem execution_moves (hnew : construct stakeAsset minStake beneficiary owner = .ok s₀)
    (h : Execution (Step self) s₀ records s) :
    WellFormed s ∧ ∃ movements, Execution Stakes.Step Stakes.empty movements s.stakes := by
  refine h.invariant (P := fun s => WellFormed s ∧
    ∃ movements, Execution Stakes.Step Stakes.empty movements s.stakes) ?_ ?_
  · obtain ⟨hs₀, hstakes⟩ := construct_eq_ok hnew
    rw [hstakes]
    exact ⟨hs₀, [], .refl⟩
  · rintro u record v ⟨hu, movements, hexecution⟩ hstep
    obtain ⟨hv, movement, hmove⟩ := hstep.moves hu
    exact ⟨hv, _, .snoc hexecution hmove⟩

/-- A listed resolver gets its stake back whenever the token lets the transfer through. -/
theorem unregister_ok (hs : WellFormed s) (hbacked : s.stakes.Backed)
    (hmem : resolver ∈ s.resolverList) (htoken : ∀ s, (token s).2 = true) :
    ∃ s', unregister self resolver token s =
      .ok (s', .unregistered resolver (s.resolvers resolver).stake) := by
  obtain ⟨l, hl⟩ := hs.listed
  have hbalance : (s.resolvers resolver).stake ≤ s.balance := hbacked.stake_le_pool hmem
  have hmem' : resolver ∈ l.items := hl.list ▸ hmem
  have hlast := List.getLast?_eq_some_getLast (List.ne_nil_of_mem hmem')
  rw [unregister_eq hl hs.idle hmem' hlast]
  split
  · obtain ⟨s₁, hs₁⟩ := safeTransfer_ok self resolver
      (s := s.removing resolver (l.swapRemove resolver _ hmem' hlast)) hbalance htoken
    rw [hs₁]
    exact ⟨_, rfl⟩
  · exact ⟨_, rfl⟩

/-- In every reachable state, list, index and records belong together, the balance covers the
recorded stakes, and unregistering never fails for lack of funds. -/
theorem registry_backed (hnew : construct stakeAsset minStake beneficiary owner = .ok s₀)
    (h : Execution (Step self) s₀ records s) :
    s.resolverList.Nodup ∧
      (∀ a i, s.resolverIndex a = i + 1 ↔ s.resolverList[i]? = some a) ∧
      (∀ a, a ∉ s.resolverList → s.resolverIndex a = 0) ∧
      (∀ a, a ∈ s.resolverList ↔ s.resolvers a ≠ .unset) ∧
      (s.resolverList.map fun a => (s.resolvers a).stake).sum ≤ s.balance ∧
      ∀ a ∈ s.resolverList, ∀ timestamp calls, ∃ s',
        exec self timestamp (.unregister a (calls, true)) s =
          .ok (s', .unregistered a (s.resolvers a).stake) := by
  obtain ⟨hs, movements, hmoves⟩ := execution_moves hnew h
  have hbacked := Stakes.backed_of_execution hmoves Stakes.Backed.empty
  obtain ⟨l, hl⟩ := hs.listed
  refine ⟨hbacked.nodup, fun a i => ?_, fun a ha => hs.index_eq_zero.mpr ha, fun a => ?_,
    hbacked.covered, fun a ha timestamp calls => ?_⟩
  · rw [hl.index, hl.list]
    exact l.place_eq a i
  · constructor
    · intro ha hunset
      obtain ⟨hresolver, hne⟩ := hs.recorded a ha
      rw [hunset] at hresolver
      exact hne hresolver.symm
    · intro hset
      by_contra ha
      exact hset (hs.unrecorded a ha)
  · rw [exec]
    exact unregister_ok hs hbacked ha fun _ => rfl

/-- A registry at 50 of the owner 9, as constructed. -/
def opened : State where
  owner := 9
  minStake := 100
  slashBeneficiary := 12
  resolvers := fun _ => .unset
  resolverList := []
  resolverIndex := fun _ => 0
  entered := false
  balance := 0

/-- The state after a registration. -/
def State.joined (s : State) (resolver : Address) (stake timestamp : ℕ) : State :=
  { s with
    resolvers := update s.resolvers resolver (.fresh resolver stake timestamp)
    resolverList := s.resolverList ++ [resolver]
    resolverIndex := update s.resolverIndex resolver (s.resolverList.length + 1)
    balance := s.balance + stake }

/-- Three resolvers have registered. -/
def occupied : State :=
  ((opened.joined 2 100 1).joined 3 110 1).joined 4 120 2

/-- The first of them has left, and the last has taken its place. -/
def vacated : State :=
  { occupied with
    resolvers := update occupied.resolvers 2 .unset
    resolverList := [4, 3]
    resolverIndex := update (update occupied.resolverIndex 4 1) 2 0
    balance := 230 }

/-- The one that moved is slashed, while the owner changes the minimum from within the
transfer. -/
def slashRecords : List Record :=
  [.transaction 1 (.register 2 100 ([], true)) (.ok (.registered 2 100)),
    .transaction 1 (.register 3 110 ([], true)) (.ok (.registered 3 110)),
    .transaction 2 (.register 4 120 ([], true)) (.ok (.registered 4 120)),
    .transaction 3 (.unregister 2 ([], true)) (.ok (.unregistered 2 100)),
    .transaction 4 (.slash 9 4 30 ([.setMinStake 9 7], true)) (.ok (.slashed 4 30 12))]

theorem slashRecords_run : ∃ s, Execution (Step 50) opened slashRecords s ∧
    s.resolverList = [4, 3] ∧ s.minStake = 7 ∧ s.balance = 200 := by
  have hfirst : exec 50 1 (.register 2 100 ([], true)) opened =
    .ok (opened.joined 2 100 1, .registered 2 100) := rfl
  have hsecond : exec 50 1 (.register 3 110 ([], true)) (opened.joined 2 100 1) =
    .ok ((opened.joined 2 100 1).joined 3 110 1, .registered 3 110) := rfl
  have hthird : exec 50 2 (.register 4 120 ([], true))
      ((opened.joined 2 100 1).joined 3 110 1) = .ok (occupied, .registered 4 120) := rfl
  have hleave : exec 50 3 (.unregister 2 ([], true)) occupied =
    .ok (vacated, .unregistered 2 100) := rfl
  refine ⟨_, .cons (.success ?_ ?_ hfirst) (.cons (.success ?_ ?_ hsecond)
    (.cons (.success ?_ ?_ hthird) (.cons (.success ?_ ?_ hleave)
      (.cons (.success ?_ ?_ rfl) .refl)))), rfl, rfl, rfl⟩
  all_goals decide

theorem registry_backed_slashed : ∃ s, Execution (Step 50) opened slashRecords s ∧
    s.resolverList = [4, 3] ∧ s.minStake = 7 ∧
    s.resolverIndex 4 = 1 ∧ s.resolverIndex 3 = 2 ∧ s.resolverIndex 2 = 0 ∧
    s.resolvers 2 = .unset ∧
    (s.resolverList.map fun a => (s.resolvers a).stake).sum ≤ 200 ∧
    ∃ s', exec 50 5 (.unregister 4 ([], true)) s =
      .ok (s', .unregistered 4 (s.resolvers 4).stake) := by
  obtain ⟨s, hrun, hlist, hmin, hbalance⟩ := slashRecords_run
  have hnew : construct 11 100 12 9 = .ok opened := rfl
  obtain ⟨-, hindex, houtside, hrecord, hcovered, hunregister⟩ := registry_backed hnew hrun
  have hout : 2 ∉ s.resolverList := by simp [hlist]
  refine ⟨s, hrun, hlist, hmin, (hindex 4 0).mpr (by simp [hlist]),
    (hindex 3 1).mpr (by simp [hlist]), houtside 2 hout, ?_, hbalance ▸ hcovered,
    hunregister 4 (by simp [hlist]) 5 []⟩
  by_contra hset
  exact hout ((hrecord 2).mpr hset)

end OverSync.ResolverRegistry
