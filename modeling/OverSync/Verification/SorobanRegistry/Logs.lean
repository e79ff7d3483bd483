import OverSync.Library.Ledger
import OverSync.Verification.SorobanRegistry.Backing

/-! # What the events of `resolver-registry` tell

Unlike the registry on Ethereum this one does not publish the total after a raise; the ledger
its events make is that of the recorded stakes all the same. -/

namespace OverSync.SorobanRegistry

open Function Library

variable {env : Env} {current resolver : Address} {s s' : State} {event : Option Event}

/-- The line of the ledger that an event stands for. -/
def Event.postings : Event → List (Ledger.Posting Address ℤ)
  | .register resolver stake => [.opened resolver stake]
  | .increase resolver additional => [.raised resolver additional none]
  | .unreg resolver stake => [.closed resolver stake]
  | .slashed resolver take => [.reduced resolver take]

def Record.postings : Record → List (Ledger.Posting Address ℤ)
  | .invocation _ _ (.ok (some event)) => event.postings
  | .invocation _ _ (.ok none) => []
  | .invocation _ _ (.error _) => []
  | .donation _ _ => []

/-! ## The event of each call -/

theorem register_event {stake : ℤ} {pull : Bool}
    (h : register env resolver stake pull s = .ok (s', event)) :
    event = some (.register resolver stake) := by
  simp only [register, requireInitialised, requireAuth, require_bind_eq_ok] at h
  obtain ⟨-, -, -, -, h⟩ := h
  obtain ⟨asset, -, h⟩ := bind_eq_ok.mp h
  obtain ⟨s₁, -, h⟩ := bind_eq_ok.mp h
  cases h
  rfl

theorem increaseStake_event {additional : ℤ} {pull : Bool}
    (h : increaseStake env resolver additional pull s = .ok (s', event)) :
    event = some (.increase resolver additional) := by
  simp only [increaseStake, requireInitialised, requireAuth, require_bind_eq_ok] at h
  obtain ⟨-, -, -, h⟩ := h
  obtain ⟨info, -, h⟩ := bind_eq_ok.mp h
  obtain ⟨asset, -, h⟩ := bind_eq_ok.mp h
  obtain ⟨s₁, -, h⟩ := bind_eq_ok.mp h
  obtain ⟨stake, -, h⟩ := bind_eq_ok.mp h
  cases h
  rfl

theorem unregister_event {pay : Bool}
    (h : unregister env resolver pay s = .ok (s', event)) :
    event = some (.unreg resolver (s.stake resolver)) := by
  simp only [unregister, requireInitialised, requireAuth, require_bind_eq_ok] at h
  obtain ⟨-, -, h⟩ := h
  obtain ⟨info, hinfo, h⟩ := bind_eq_ok.mp h
  obtain ⟨asset, -, h⟩ := bind_eq_ok.mp h
  obtain ⟨s₁, -, h⟩ := bind_eq_ok.mp h
  cases h
  rw [State.stake_of (getResolver_eq_ok.mp hinfo)]

theorem slash_event {amount : ℤ} {pay : Bool}
    (h : slash env resolver amount pay s = .ok (s', event)) :
    event = some (.slashed resolver (min amount (s.stake resolver))) := by
  unfold slash at h
  obtain ⟨⟨⟩, -, h⟩ := bind_eq_ok.mp h
  simp only [require_bind_eq_ok] at h
  obtain ⟨-, h⟩ := h
  obtain ⟨info, hinfo, h⟩ := bind_eq_ok.mp h
  obtain ⟨asset, -, h⟩ := bind_eq_ok.mp h
  obtain ⟨beneficiary, -, h⟩ := bind_eq_ok.mp h
  obtain ⟨s₁, -, h⟩ := bind_eq_ok.mp h
  obtain ⟨stake, -, h⟩ := bind_eq_ok.mp h
  obtain ⟨totalSlashed, -, h⟩ := bind_eq_ok.mp h
  cases h
  rw [State.stake_of (getResolver_eq_ok.mp hinfo)]

theorem setMinStake_event {newMinimum : ℤ}
    (h : setMinStake env newMinimum s = .ok (s', event)) : event = none := by
  unfold setMinStake at h
  obtain ⟨⟨⟩, -, h⟩ := bind_eq_ok.mp h
  simp only [require_bind_eq_ok] at h
  obtain ⟨-, h⟩ := h
  cases h
  rfl

theorem setAdmin_event {newAdmin : Address} (h : setAdmin env newAdmin s = .ok (s', event)) :
    event = none := by
  unfold setAdmin at h
  obtain ⟨⟨⟩, -, h⟩ := bind_eq_ok.mp h
  cases h
  rfl

theorem setSlashBeneficiary_event {newBeneficiary : Address}
    (h : setSlashBeneficiary env newBeneficiary s = .ok (s', event)) : event = none := by
  unfold setSlashBeneficiary at h
  obtain ⟨⟨⟩, -, h⟩ := bind_eq_ok.mp h
  cases h
  rfl

/-! ## The ledger -/

/-- The recorded resolvers, each with its stake. -/
def State.book (s : State) : Ledger.Book Address ℤ :=
  fun a => (s.resolvers a).map ResolverInfo.stake

theorem WellFormed.book_eq (hs : WellFormed s) : s.book = s.stakes.book := by
  funext a
  have hlisted := hs.listed a
  cases hinfo : s.resolvers a with
  | none =>
      rw [hinfo] at hlisted
      have hnot : a ∉ s.list := by simpa using hlisted
      simp [State.book, Stakes.book, State.stakes, hinfo, hnot]
  | some info =>
      rw [hinfo] at hlisted
      have hmem : a ∈ s.list := by simpa using hlisted
      simp [State.book, Stakes.book, State.stakes, State.stake, hinfo, hmem]

theorem book_update_some {records : Address → Option ResolverInfo} {info : ResolverInfo} :
    (fun a => (update records resolver (some info) a).map ResolverInfo.stake) =
      update (fun a => (records a).map ResolverInfo.stake) resolver (some info.stake) := by
  funext a
  by_cases ha : a = resolver
  · subst ha
    simp
  · simp [ha]

/-- What a slash takes is what it publishes. -/
theorem slash_posts {amount : ℤ} {pay : Bool} (hs : WellFormed s) (hb : s.stakes.Backed)
    (h : slash env resolver amount pay s = .ok (s', event)) :
    Ledger.Posts s.book (.reduced resolver (min amount (s.stake resolver))) s'.book := by
  obtain ⟨-, hpos, info, asset, hinfo, -, hs', -⟩ := slash_eq_ok (stake_nonneg hs hb) h
  have hnonneg := stake_nonneg hs hb info hinfo
  have hbook : s'.book = update s.book resolver (some (info.stake - min amount info.stake)) := by
    rw [hs']
    exact book_update_some
  rw [hbook, State.stake_of hinfo]
  refine .reduced ?_ (by omega) (by omega)
  simp [State.book, hinfo]

theorem SetSpec.book_eq (h : SetSpec s s') : s'.book = s.book := by
  unfold State.book
  rw [h.resolvers]

theorem exec_posts {call : Call} (hs : WellFormed s) (hb : s.stakes.Backed)
    (hs' : WellFormed s') (h : exec env s call = .ok (s', event)) :
    Execution Ledger.Posts s.book ((event.map Event.postings).getD []) s'.book := by
  cases call with
  | register resolver stake pull =>
      obtain ⟨-, hstep⟩ := register_moves hs h
      rw [register_event h, hs.book_eq, hs'.book_eq]
      exact .single hstep.posts_joined
  | increaseStake resolver additional pull =>
      obtain ⟨-, hstep⟩ := increaseStake_moves hs h
      rw [increaseStake_event h, hs.book_eq, hs'.book_eq]
      exact .single (hstep.posts_raised (by simp))
  | unregister resolver pay =>
      obtain ⟨-, hstep⟩ := unregister_moves hs hb h
      rw [unregister_event h, hs.book_eq, hs'.book_eq]
      exact .single (hstep.posts_left hs.nodup)
  | slash resolver amount pay =>
      rw [slash_event h]
      exact .single (slash_posts hs hb h)
  | initialise admin stakeAsset minStake beneficiary =>
      simp only [exec, initialise, requireAuth, require_bind_eq_ok] at h
      obtain ⟨-, -, -, h⟩ := h
      cases h
      exact .refl
  | setMinStake newMinimum =>
      rw [setMinStake_event h, (setMinStake_eq_ok h).book_eq]
      exact .refl
  | setAdmin newAdmin =>
      rw [setAdmin_event h, (setAdmin_eq_ok h).book_eq]
      exact .refl
  | setSlashBeneficiary newBeneficiary =>
      rw [setSlashBeneficiary_event h, (setSlashBeneficiary_eq_ok h).book_eq]
      exact .refl

theorem Step.posts {record : Record} (hs : WellFormed s) (hb : s.stakes.Backed)
    (hs' : WellFormed s') (h : Step current s record s') :
    Execution Ledger.Posts s.book record.postings s'.book := by
  cases h with
  | @success _ _ _ event _ hexec =>
      have hposts := exec_posts hs hb hs' hexec
      cases event with
      | none => exact hposts
      | some event => exact hposts
  | panic _ _ => exact .refl
  | donation _ => exact .refl

/-! ## Runs -/

variable {records : List Record}

/-- Runs of the registry are runs of the ledger its events write. -/
theorem execution_posts (h : Execution (Step current) .deployed records s) :
    Execution Ledger.Posts Ledger.blank (records.flatMap Record.postings) s.book := by
  have hrun : ∃ book,
      Execution Ledger.Posts Ledger.blank (records.flatMap Record.postings) book ∧
        (WellFormed s ∧ s.stakes.Backed) ∧ book = s.book := by
    refine h.simulate (R := fun _ u book => (WellFormed u ∧ u.stakes.Backed) ∧ book = u.book)
      ⟨⟨wellFormed_deployed, Stakes.Backed.empty⟩, rfl⟩ ?_
    rintro past u record v book - ⟨⟨hu, hbacked⟩, rfl⟩ hstep
    obtain ⟨hv, movement, hmove⟩ := hstep.moves hu hbacked
    exact ⟨v.book, hstep.posts hu hbacked hv, ⟨hv, hmove.backed hbacked⟩, rfl⟩
  obtain ⟨book, hledger, -, rfl⟩ := hrun
  exact hledger

/-- In every run the events are the ledger of one book only, that of the recorded stakes; and
what they say was staked is still there, was slashed or was returned. -/
theorem events_tell_soroban_stakes (h : Execution (Step current) .deployed records s) :
    (∀ book, Execution Ledger.Posts Ledger.blank (records.flatMap Record.postings) book ↔
      book = s.book) ∧
    ∀ a, Ledger.paidIn (records.flatMap Record.postings) a =
      s.stake a + Ledger.paidOut (records.flatMap Record.postings) a := by
  have hledger := execution_posts h
  refine ⟨fun book => ⟨fun hbook => Ledger.book_unique hbook hledger, ?_⟩, fun a => ?_⟩
  · rintro rfl
    exact hledger
  · rw [Ledger.accounts_balance hledger a]
    rfl

theorem soroban_slash_told : ∃ s, Execution (Step 50) .deployed slashRecords s ∧
    s.stake 4 + 30 = 120 := by
  obtain ⟨s, hrun, -⟩ := slashRecords_run
  exact ⟨s, hrun, ((events_tell_soroban_stakes hrun).2 4).symm⟩

end OverSync.SorobanRegistry
