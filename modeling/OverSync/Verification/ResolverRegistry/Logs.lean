import OverSync.Library.Ledger
import OverSync.Verification.ResolverRegistry.Backing

/-! # What the events of the resolver registry tell

Whoever reads the events as a ledger has the stake of every resolver, although the stake token
may call back in the middle of every transfer. -/

namespace OverSync.ResolverRegistry

open Function Library

variable {self timestamp sender resolver : Address} {s s' : State} {token : Callee}
  {event : Event}

/-- The line of the ledger that an event stands for. -/
def Event.postings : Event → List (Ledger.Posting Address ℕ)
  | .registered resolver stake => [.opened resolver stake]
  | .stakeIncreased resolver added newTotal => [.raised resolver added (some newTotal)]
  | .unregistered resolver stakeReturned => [.closed resolver stakeReturned]
  | .slashed resolver amount _ => [.reduced resolver amount]
  | .minStakeUpdated _ _ => []
  | .slashBeneficiaryUpdated _ _ => []

def Record.postings : Record → List (Ledger.Posting Address ℕ)
  | .transaction _ _ (.ok event) => event.postings
  | .transaction _ _ (.error _) => []
  | .donation _ => []
  | .ownership _ => []

/-! ## The event of each call -/

theorem register_event {stake : ℕ}
    (h : register timestamp sender stake token s = .ok (s', event)) :
    event = .registered sender stake := by
  simp only [register, require_bind_eq_ok] at h
  obtain ⟨-, -, -, h⟩ := h
  obtain ⟨s₁, -, h⟩ := bind_eq_ok.mp h
  cases h
  rfl

theorem increaseStake_event {additional : ℕ} (htoken : Contained token)
    (h : increaseStake sender additional token s = .ok (s', event)) :
    event = .stakeIncreased sender additional ((s.resolvers sender).stake + additional) := by
  simp only [increaseStake, require_bind_eq_ok] at h
  obtain ⟨-, -, -, h⟩ := h
  obtain ⟨s₁, htransfer, h⟩ := bind_eq_ok.mp h
  have hs₁ := safeTransferFrom_eq_ok htoken rfl htransfer
  simp only [require_bind_eq_ok] at h
  obtain ⟨-, h⟩ := h
  cases h
  rw [hs₁]
  rfl

theorem unregister_event (h : unregister self sender token s = .ok (s', event)) :
    event = .unregistered sender (s.resolvers sender).stake := by
  simp only [unregister, require_bind_eq_ok] at h
  obtain ⟨-, -, h⟩ := h
  obtain ⟨s₁, -, h⟩ := bind_eq_ok.mp h
  split at h
  · obtain ⟨s₂, -, h⟩ := bind_eq_ok.mp h
    cases h
    rfl
  · cases h
    rfl

theorem slash_event {amount : ℕ}
    (h : slash timestamp self sender resolver amount token s = .ok (s', event)) :
    ∃ beneficiary, event =
      .slashed resolver ((s.resolvers resolver).take amount) beneficiary := by
  simp only [slash, require_bind_eq_ok] at h
  obtain ⟨-, -, -, -, -, h⟩ := h
  split at h
  · obtain ⟨s₁, -, h⟩ := bind_eq_ok.mp h
    cases h
    exact ⟨_, rfl⟩
  · cases h
    exact ⟨_, rfl⟩

/-! ## The ledger -/

/-- The resolvers on the list, each with its recorded stake. -/
def State.book (s : State) : Ledger.Book Address ℕ := s.stakes.book

theorem exec_posts {call : Call} (hs : WellFormed s) (hnodup : s.resolverList.Nodup)
    (hsender : call.sender ≠ zeroAddress) (h : exec self timestamp call s = .ok (s', event)) :
    Execution Ledger.Posts s.book event.postings s'.book := by
  cases call with
  | register sender stake token =>
      rw [exec] at h
      obtain ⟨-, hstep⟩ := register_moves hs hsender (contained_execAll _ _) h
      rw [register_event h]
      exact .single hstep.posts_joined
  | increaseStake sender additional token =>
      rw [exec] at h
      have htoken : Contained fun s => (execAll self timestamp token.1 s, token.2) :=
        contained_execAll token.1 token.2
      obtain ⟨-, hstep⟩ := increaseStake_moves hs htoken h
      rw [increaseStake_event htoken h]
      exact .single (hstep.posts_raised (by simp [State.stakes]))
  | unregister sender token =>
      rw [exec] at h
      obtain ⟨-, hstep⟩ := unregister_moves hs (contained_execAll _ _) h
      rw [unregister_event h]
      exact .single (hstep.posts_left hnodup)
  | slash sender resolver amount token =>
      rw [exec] at h
      obtain ⟨-, hstep⟩ := slash_moves hs (contained_execAll _ _) h
      obtain ⟨beneficiary, hevent⟩ := slash_event h
      rw [hevent]
      exact .single (hstep.posts_cut (Nat.zero_le _))
  | setMinStake sender newMinStake =>
      simp only [exec, setMinStake, require_bind_eq_ok] at h
      obtain ⟨-, h⟩ := h
      cases h
      exact .refl
  | setSlashBeneficiary sender newBeneficiary =>
      simp only [exec, setSlashBeneficiary, require_bind_eq_ok] at h
      obtain ⟨-, -, h⟩ := h
      cases h
      exact .refl

theorem Step.posts {record : Record} (hs : WellFormed s) (hnodup : s.resolverList.Nodup)
    (h : Step self s record s') :
    Execution Ledger.Posts s.book record.postings s'.book := by
  cases h with
  | success _ hsender hexec => exact exec_posts hs hnodup hsender hexec
  | revert _ => exact .refl
  | donation => exact .refl
  | ownership => exact .refl

/-! ## Runs -/

variable {stakeAsset minStake beneficiary owner : ℕ} {records : List Record} {s₀ : State}

/-- Runs of the registry are runs of the ledger its events write. -/
theorem execution_posts (hnew : construct stakeAsset minStake beneficiary owner = .ok s₀)
    (h : Execution (Step self) s₀ records s) :
    WellFormed s ∧
      Execution Ledger.Posts Ledger.blank (records.flatMap Record.postings) s.book := by
  obtain ⟨hs₀, hstakes⟩ := construct_eq_ok hnew
  have hblank : s₀.book = Ledger.blank := by
    funext a
    simp [State.book, hstakes, Ledger.blank, Stakes.empty]
  have hrun : ∃ book,
      Execution Ledger.Posts Ledger.blank (records.flatMap Record.postings) book ∧
        (WellFormed s ∧ s.stakes.Backed) ∧ book = s.book := by
    refine h.simulate (R := fun _ u book => (WellFormed u ∧ u.stakes.Backed) ∧ book = u.book)
      ⟨⟨hs₀, hstakes ▸ Stakes.Backed.empty⟩, hblank.symm⟩ ?_
    rintro past u record v book - ⟨⟨hu, hbacked⟩, rfl⟩ hstep
    obtain ⟨hv, movement, hmove⟩ := hstep.moves hu
    exact ⟨v.book, hstep.posts hu hbacked.nodup, ⟨hv, hmove.backed hbacked⟩, rfl⟩
  obtain ⟨book, hledger, ⟨hs, -⟩, rfl⟩ := hrun
  exact ⟨hs, hledger⟩

/-- In every run the events are the ledger of one book only, that of the recorded stakes; and
what they say was staked is still there, was slashed or was returned. -/
theorem events_tell_stakes (hnew : construct stakeAsset minStake beneficiary owner = .ok s₀)
    (h : Execution (Step self) s₀ records s) :
    (∀ book, Execution Ledger.Posts Ledger.blank (records.flatMap Record.postings) book ↔
      book = s.book) ∧
    ∀ a, Ledger.paidIn (records.flatMap Record.postings) a =
      (s.resolvers a).stake + Ledger.paidOut (records.flatMap Record.postings) a := by
  obtain ⟨hs, hledger⟩ := execution_posts hnew h
  refine ⟨fun book => ⟨fun hbook => Ledger.book_unique hbook hledger, ?_⟩, fun a => ?_⟩
  · rintro rfl
    exact hledger
  · have hstake : (s.book a).getD 0 = (s.resolvers a).stake := by
      by_cases ha : a ∈ s.resolverList
      · simp [State.book, Stakes.book, State.stakes, ha]
      · simp [State.book, Stakes.book, State.stakes, ha, hs.unrecorded a ha, ResolverInfo.unset]
    rw [Ledger.accounts_balance hledger a, hstake]

/-- The slash from which the owner is called back. -/
theorem slash_told : ∃ s, Execution (Step 50) opened slashRecords s ∧
    (s.resolvers 4).stake + 30 = 120 := by
  obtain ⟨s, hrun, -⟩ := slashRecords_run
  have hnew : construct 11 100 12 9 = .ok opened := rfl
  exact ⟨s, hrun, ((events_tell_stakes hnew hrun).2 4).symm⟩

end OverSync.ResolverRegistry
