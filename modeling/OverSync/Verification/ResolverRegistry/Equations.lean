import OverSync.Library.IndexedList
import OverSync.Model.ResolverRegistry
import Mathlib.Tactic.Common

/-! # What a successful call of the resolver registry does

While stake moves the guard is closed, so the stake token can have nothing done but a change of
the settings, by the owner. -/

namespace OverSync.ResolverRegistry

open Function Library

variable {self timestamp sender resolver : Address} {s s' : State} {token : Callee}
  {event : Event}

/-- The state of `s` with the settings of `t`. -/
def State.withSettings (s t : State) : State :=
  { s with minStake := t.minStake, slashBeneficiary := t.slashBeneficiary }

/-! ## Reentrant calls -/

/-- A callee that changes the settings at most while the guard is closed. -/
def Contained (token : Callee) : Prop :=
  ∀ s, s.entered = true → (token s).1 = s.withSettings (token s).1

theorem exec_entered {call : Call} (hs : s.entered = true)
    (h : exec self timestamp call s = .ok (s', event)) : s' = s.withSettings s' := by
  cases call with
  | register sender stake token => simp [exec, register, require, hs] at h
  | increaseStake sender additional token => simp [exec, increaseStake, require, hs] at h
  | unregister sender token => simp [exec, unregister, require, hs] at h
  | slash sender resolver amount token =>
      simp only [exec, slash, require_bind_eq_ok] at h
      simp [hs] at h
  | setMinStake sender newMinStake =>
      simp only [exec, setMinStake, require_bind_eq_ok] at h
      obtain ⟨-, h⟩ := h
      cases h
      rfl
  | setSlashBeneficiary sender newBeneficiary =>
      simp only [exec, setSlashBeneficiary, require_bind_eq_ok] at h
      obtain ⟨-, -, h⟩ := h
      cases h
      rfl

theorem execAll_entered (calls : List Call) (hs : s.entered = true) :
    execAll self timestamp calls s = s.withSettings (execAll self timestamp calls s) := by
  induction calls generalizing s with
  | nil => rw [execAll]; rfl
  | cons call calls ih =>
      rw [execAll]
      cases hexec : exec self timestamp call s with
      | error e => exact ih hs
      | ok result =>
          obtain ⟨s₁, event⟩ := result
          have hs₁ := exec_entered hs hexec
          have hentered : s₁.entered = true := by rw [hs₁]; exact hs
          simp only
          rw [ih hentered, hs₁]
          rfl

theorem contained_execAll (calls : List Call) (ok : Bool) :
    Contained fun s => (execAll self timestamp calls s, ok) :=
  fun _ hs => execAll_entered calls hs

/-! ## Moving stake -/

theorem safeTransferFrom_eq_ok {amount : ℕ} (htoken : Contained token) (hs : s.entered = true)
    (h : safeTransferFrom amount token s = .ok s') :
    s' = { s.withSettings s' with balance := s.balance + amount } := by
  simp only [safeTransferFrom, require_bind_eq_ok] at h
  obtain ⟨-, h⟩ := h
  cases h
  rw [htoken _ (by exact hs)]
  rfl

/-- The registry pays out of its balance, or to itself. -/
theorem safeTransfer_eq_ok {recipient : Address} {amount : ℕ} (htoken : Contained token)
    (hs : s.entered = true) (h : safeTransfer self recipient amount token s = .ok s') :
    s' = { s.withSettings s' with balance := s'.balance } ∧
      s.balance ≤ s'.balance + amount := by
  simp only [safeTransfer, require_bind_eq_ok] at h
  obtain ⟨hamount, -, h⟩ := h
  cases h
  split
  case isTrue hself =>
      rw [htoken _ (by exact hs)]
      exact ⟨rfl, by simp [State.withSettings]⟩
  case isFalse hself =>
      rw [htoken _ (by exact hs)]
      refine ⟨rfl, ?_⟩
      simp only [State.withSettings]
      omega

variable (self) in
/-- With its balance and the consent of the token, a payment goes through. -/
theorem safeTransfer_ok (recipient : Address) {amount : ℕ} (hbalance : amount ≤ s.balance)
    (htoken : ∀ s, (token s).2 = true) :
    ∃ s', safeTransfer self recipient amount token s = .ok s' := by
  rw [safeTransfer, require_of hbalance, ok_bind]
  exact ⟨_, by simp only [require_of (htoken _)]; rfl⟩

/-! ## The list of resolvers -/

/-- The list and the index of the contract are those of `l`. -/
structure Listed (s : State) (l : IndexedList Address) : Prop where
  list : s.resolverList = l.items
  index : s.resolverIndex = l.place

variable {l : IndexedList Address}

/-- Removing a listed address never panics. -/
theorem removeFromList_eq {last : Address} (hs : Listed s l) (hmem : resolver ∈ l.items)
    (hlast : l.items.getLast? = some last) :
    removeFromList resolver (s.resolverIndex resolver) s =
      .ok { s with
        resolverList := (l.swapRemove resolver last hmem hlast).items
        resolverIndex := (l.swapRemove resolver last hmem hlast).place } := by
  have hplace := l.place_ne_zero.mpr hmem
  have hle := l.place_le (a := resolver)
  have hget := hlast
  rw [List.getLast?_eq_getElem?] at hget
  rw [removeFromList, hs.index, require_of hplace, ok_bind, hs.list, require_of (by omega),
    ok_bind]
  by_cases hi : l.place resolver - 1 = l.items.length - 1
  · -- the address is the last of the list
    have heq : last = resolver := by
      have hresolver := (l.place_eq resolver (l.place resolver - 1)).mp (by omega)
      rw [hi, hget] at hresolver
      exact Option.some.inj hresolver
    subst heq
    rw [if_neg (by simpa using hi), ok_bind]
    have hset : l.items.set (l.place last - 1) last = l.items := by
      refine List.ext_getElem? fun i => ?_
      rw [List.getElem?_set]
      split
      case isTrue hi =>
          subst hi
          rw [if_pos (by omega)]
          exact ((l.place_eq last _).mp (by omega)).symm
      case isFalse hi => rfl
    simp [IndexedList.swapRemove, hset, hs.list, hs.index, pure, Except.pure]
  · have hsucc : l.place resolver - 1 + 1 = l.place resolver := by omega
    rw [if_pos (by simpa using hi), moveLast, hs.list, hget]
    simp only
    rw [require_of (show l.place resolver - 1 < l.items.length by omega)]
    simp [IndexedList.swapRemove, hs.index, hsucc, pure, Except.pure]

/-! ## The operations -/

/-- The record of a new resolver. -/
def ResolverInfo.fresh (resolver : Address) (stake timestamp : ℕ) : ResolverInfo where
  resolver := resolver
  stake := stake
  registeredAt := uint64 timestamp
  lastSlashAt := 0
  totalSlashed := 0
  active := true

theorem register_eq_ok {stake : ℕ} (htoken : Contained token)
    (h : register timestamp sender stake token s = .ok (s', event)) :
    s.entered = false ∧ s.minStake ≤ stake ∧ s.resolverIndex sender = 0 ∧
      s' = { s.withSettings s' with
        resolvers := update s.resolvers sender (.fresh sender stake timestamp)
        resolverList := s.resolverList ++ [sender]
        resolverIndex := update s.resolverIndex sender (s.resolverList.length + 1)
        balance := s.balance + stake } := by
  simp only [register, require_bind_eq_ok] at h
  obtain ⟨hidle, hmin, hnew, h⟩ := h
  obtain ⟨s₁, htransfer, h⟩ := bind_eq_ok.mp h
  have hs₁ := safeTransferFrom_eq_ok htoken rfl htransfer
  cases h
  refine ⟨hidle, hmin, hnew, ?_⟩
  rw [hs₁]
  simp [State.withSettings, hidle, ResolverInfo.fresh]

theorem increaseStake_eq_ok {additional : ℕ} (htoken : Contained token)
    (h : increaseStake sender additional token s = .ok (s', event)) :
    additional ≠ 0 ∧ s.resolverIndex sender ≠ 0 ∧
      s' = { s.withSettings s' with
        resolvers :=
          update s.resolvers sender ((s.resolvers sender).increased additional s'.minStake)
        balance := s.balance + additional } := by
  simp only [increaseStake, require_bind_eq_ok] at h
  obtain ⟨hidle, hne, hlisted, h⟩ := h
  obtain ⟨s₁, htransfer, h⟩ := bind_eq_ok.mp h
  have hs₁ := safeTransferFrom_eq_ok htoken rfl htransfer
  simp only [require_bind_eq_ok] at h
  obtain ⟨-, h⟩ := h
  cases h
  refine ⟨hne, hlisted, ?_⟩
  rw [hs₁]
  simp [State.withSettings, hidle]

/-- The state in which a leaving resolver is paid, with `rest` as the list. -/
def State.removing (s : State) (resolver : Address) (rest : IndexedList Address) : State :=
  { s with
    resolvers := update s.resolvers resolver .unset
    resolverList := rest.items
    resolverIndex := rest.place
    entered := true }

/-- A listed resolver is removed first and then paid. -/
theorem unregister_eq {last : Address} (hs : Listed s l) (hidle : s.entered = false)
    (hmem : sender ∈ l.items) (hlast : l.items.getLast? = some last) :
    unregister self sender token s =
      (if 0 < (s.resolvers sender).stake then
        safeTransfer self sender (s.resolvers sender).stake token
          (s.removing sender (l.swapRemove sender last hmem hlast))
      else .ok (s.removing sender (l.swapRemove sender last hmem hlast))) >>= fun s₁ =>
        .ok ({ s₁ with entered := false },
          .unregistered sender (s.resolvers sender).stake) := by
  have hlisted : s.resolverIndex sender ≠ 0 := by
    rw [hs.index]
    exact l.place_ne_zero.mpr hmem
  have hlisted' : Listed { s with
      resolvers := update s.resolvers sender .unset
      entered := true } l := ⟨hs.list, hs.index⟩
  have hremove := removeFromList_eq hlisted' hmem hlast
  simp only at hremove
  simp only [unregister, require_of hidle, require_of hlisted, ok_bind]
  rw [hremove, ok_bind]
  split <;> rfl

theorem unregister_eq_ok (hs : Listed s l) (htoken : Contained token)
    (h : unregister self sender token s = .ok (s', event)) :
    s.entered = false ∧ ∃ hmem : sender ∈ l.items, ∃ last, ∃ hlast,
      s' = { s.withSettings s' with
        resolvers := update s.resolvers sender .unset
        resolverList := (l.swapRemove sender last hmem hlast).items
        resolverIndex := (l.swapRemove sender last hmem hlast).place
        balance := s'.balance } ∧
      s.balance ≤ s'.balance + (s.resolvers sender).stake := by
  have hchecks := h
  simp only [unregister, require_bind_eq_ok] at hchecks
  obtain ⟨hidle, hlisted, -⟩ := hchecks
  have hmem := l.place_ne_zero.mp (hs.index ▸ hlisted)
  have hlast := List.getLast?_eq_some_getLast (List.ne_nil_of_mem hmem)
  refine ⟨hidle, hmem, _, hlast, ?_⟩
  rw [unregister_eq hs hidle hmem hlast] at h
  obtain ⟨s₁, hpaid, h⟩ := bind_eq_ok.mp h
  split at hpaid
  · obtain ⟨hs₁, hbalance⟩ := safeTransfer_eq_ok htoken rfl hpaid
    cases h
    refine ⟨?_, hbalance⟩
    rw [hs₁]
    simp [State.withSettings, State.removing, hidle]
  · cases hpaid
    cases h
    refine ⟨?_, by simp [State.removing]⟩
    simp [State.withSettings, State.removing, hidle]

theorem ResolverInfo.take_le (info : ResolverInfo) (amount : ℕ) :
    info.take amount ≤ info.stake := by
  unfold ResolverInfo.take
  split <;> omega

theorem slash_eq_ok {amount : ℕ} (htoken : Contained token)
    (h : slash timestamp self sender resolver amount token s = .ok (s', event)) :
    (sender = s.owner ∧ amount ≠ 0) ∧ s.resolverIndex resolver ≠ 0 ∧
      s' = { s.withSettings s' with
        resolvers :=
          update s.resolvers resolver ((s.resolvers resolver).slashed amount s.minStake timestamp)
        balance := s'.balance } ∧
      s.balance ≤ s'.balance + (s.resolvers resolver).take amount := by
  simp only [slash, require_bind_eq_ok] at h
  obtain ⟨howner, hidle, hne, hlisted, -, h⟩ := h
  refine ⟨⟨howner, hne⟩, hlisted, ?_⟩
  by_cases htake : 0 < (s.resolvers resolver).take amount
  · simp only [htake, if_true] at h
    obtain ⟨s₁, htransfer, h⟩ := bind_eq_ok.mp h
    obtain ⟨hs₁, hbalance⟩ := safeTransfer_eq_ok htoken rfl htransfer
    cases h
    refine ⟨?_, hbalance⟩
    rw [hs₁]
    simp [State.withSettings, hidle]
  · simp only [htake, if_false] at h
    cases h
    refine ⟨?_, by simp⟩
    simp [State.withSettings, hidle]

end OverSync.ResolverRegistry
