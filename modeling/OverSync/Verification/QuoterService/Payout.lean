import OverSync.Model.QuoterService
import OverSync.Verification.RelaySubmissionTracker.Broadcast

/-! # Payments of one order

The executor is a one-phase stager: its result has no hash, so that the submission fails as if
nothing had been sent and the next call stages it again. The executor is called at most once as
long as no call meets such a record after the executor was called, or while a stager of an earlier
call may still call it. -/

namespace OverSync.QuoterService

open Library Machine RelaySubmissionTracker

variable {R : Type} {cfg : RelayTrackerConfig R} {toLowerCase : String → String}
  {claim : RelayAction} {p p' : Payout R} {world : World R} {j j' : Ledger}
  {past : List (SystemEffect R Execute)}

/-! ## Stagers that may call the executor -/

def Gate.isAsking : Gate → Bool
  | .asking _ => true
  | _ => false

/-- The stagers that may still call the executor. -/
def asking (gates : List (ℕ × Gate)) : ℕ := gates.countP fun entry => entry.2.isAsking

theorem asking_append (gates gates' : List (ℕ × Gate)) :
    asking (gates ++ gates') = asking gates + asking gates' :=
  List.countP_append

variable (cfg) in
theorem asking_startGates_le (gate : Gate) (effects : List (Effect R)) :
    asking (startGates gate effects) ≤ (effects.filterMap (Effect.staged cfg.shortDigest)).length := by
  apply List.countP_le_length.trans
  apply le_of_eq
  induction effects with
  | nil => rfl
  | cons effect effects ih =>
      cases effect with
      | stage task action => exact congrArg Nat.succ ih
      | save | broadcast | confirm | sleep | settle | reply | join => exact ih

theorem asking_setGate (gates : List (ℕ × Gate)) (task : ℕ) {gate : Gate}
    (hgate : gate.isAsking = false) :
    asking (gates.map fun entry => if entry.1 = task then (task, gate) else entry) ≤
      asking gates := by
  rw [asking, List.countP_map]
  apply List.countP_mono_left
  intro entry _ hentry
  simp only [Function.comp_apply] at hentry
  split_ifs at hentry
  · rw [hgate] at hentry
    contradiction
  · exact hentry

/-- A stager that goes on no longer counts. -/
theorem asking_setGate_lt {task : ℕ} {gate : Gate} {quote : QuoteResponse}
    (hfound : p.gate task = some (.asking quote)) (hgate : gate.isAsking = false) :
    asking (p.setGate task gate).gates < asking p.gates := by
  rcases Option.map_eq_some_iff.mp hfound with ⟨entry, hfind, hentry⟩
  have htask : entry.1 = task := by simpa using List.find?_some hfind
  rcases List.append_of_mem (List.mem_of_find?_eq_some hfind) with ⟨front, back, hgates⟩
  rw [Payout.setGate, hgates]
  simp only [List.map_append, List.map_cons, if_pos htask]
  have hfront := asking_setGate front task hgate
  have hback := asking_setGate back task hgate
  rw [asking_append, asking_append]
  have hnew : asking ((task, gate) :: back.map fun entry =>
      if entry.1 = task then (task, gate) else entry) ≤ asking back := by
    rw [asking, List.countP_cons_of_neg (by simp [hgate])]
    exact hback
  have hold : asking (entry :: back) = asking back + 1 := by
    rw [asking, List.countP_cons_of_pos (by simp [hentry, Gate.isAsking])]
    rfl
  omega

theorem asking_dropGate (task : ℕ) : asking (p.dropGate task).gates ≤ asking p.gates :=
  List.filter_sublist.countP_le

/-! ## The invariant -/

/-- The executor was called or may be called at most once, and then the job is known. -/
structure Spent (cfg : RelayTrackerConfig R) (claim : RelayAction) (spent : ℕ) (j : Ledger) :
    Prop where
  once : spent ≤ 1
  held : 0 < spent → j.Held (computeSubmissionKey cfg.shortDigest claim)

theorem Spent.mono {spent spent' : ℕ} (h : Spent cfg claim spent j) (hle : spent' ≤ spent) :
    Spent cfg claim spent' j :=
  ⟨hle.trans h.once, fun hpos => h.held (by omega)⟩

/-- The journal follows the process and its store. -/
structure Follows (cfg : RelayTrackerConfig R) (stored : List (PersistedSubmission R))
    (past : List (SystemEffect R Execute)) (j : Ledger) : Prop where
  sends : Sends cfg (relayed past) j
  stored : Stored cfg stored j

variable (cfg claim) in
def PayoutLive (p : Payout R) (world : World R) (past : List (SystemEffect R Execute)) : Prop :=
  ∃ j, Follows cfg world.stored past j ∧ Matches cfg p.tracker j ∧
    Spent cfg claim (asking p.gates + world.payments) j

variable (cfg claim) in
def PayoutSaved (world : World R) (past : List (SystemEffect R Execute)) : Prop :=
  ∃ j, Follows cfg world.stored past j ∧ Spent cfg claim world.payments j

variable (cfg claim) in
/-- The condition: no call meets a record that can be staged again once the executor was called,
or while a stager of an earlier call may still call it. -/
def unspent : PayoutEvent R → Payout R → World R → Bool
  | .quoted _ _ _, p, world =>
    !(p.tracker.restageable (computeSubmissionKey cfg.shortDigest claim) ∧
      0 < asking p.gates + world.payments)
  | _, _, _ => true

variable {effects : List (Effect R)} {moves : List Move} {stored : List (PersistedSubmission R)}
  {spent now : ℕ}

theorem Follows.trail (h : Follows cfg stored past j) (htrail : Trail cfg j effects moves j') :
    Follows cfg ((process cfg).applyAll stored effects) (past ++ effects.map .relay) j' where
  sends := by
    rw [relayed_append, relayed_map]
    exact h.sends.trail htrail
  stored := htrail.stored_applyAll h.stored

theorem Follows.execute (h : Follows cfg stored past j) (effect : Execute) :
    Follows cfg stored (past ++ [.world effect]) j where
  sends := by
    rw [relayed_append_world]
    exact h.sends
  stored := h.stored

theorem Spent.run (h : Spent cfg claim spent j) (hrun : Execution Journal.Step j moves j')
    (hmoves : .release (computeSubmissionKey cfg.shortDigest claim) ∉ moves) :
    Spent cfg claim spent j' :=
  ⟨h.once, fun hpos => (h.held hpos).run hrun hmoves⟩

theorem applyAll_relay (effects : List (Effect R)) (world : World R) :
    (payout cfg toLowerCase claim).applyAll world (effects.map .relay) =
      ⟨(process cfg).applyAll world.stored effects, world.payments⟩ := by
  induction effects generalizing world with
  | nil => rfl
  | cons effect effects ih =>
      rw [List.map_cons, applyAll_cons, applyAll_cons, ih]
      rfl

/-- A call that finds a record which cannot be staged again starts nothing. -/
theorem quoted_idle {t : Tracker R} (h : Matches cfg t j)
    (hheld : j.Held (computeSubmissionKey cfg.shortDigest claim))
    (hnot : t.restageable (computeSubmissionKey cfg.shortDigest claim) = false)
    (hmoves : ∀ move ∈ moves, Justified cfg t (.submit claim) move) :
    moves.filterMap Journal.Move.started = [] ∧
      .release (computeSubmissionKey cfg.shortDigest claim) ∉ moves := by
  constructor
  · rw [List.filterMap_eq_nil_iff]
    intro move hmove
    cases move with
    | start key =>
        rcases hmoves _ hmove with ⟨action, heq, rfl, hfree⟩
        cases heq
        rcases hfree with hnone | hrestageable
        · rcases List.mem_map.mp hheld.memory with ⟨e, he, hkey⟩
          exact absurd hkey (h.entry_key_ne hnone e he)
        · rw [hnot] at hrestageable
          contradiction
    | reserve | commit | send | settle | abandon | cancel | release | save | crash => rfl
  · intro hmove
    rcases hmoves _ hmove with ⟨action, heq, _, hrestageable⟩
    rw [hnot] at hrestageable
    contradiction

/-- The first call may start a stager, and then the job is known. -/
theorem spent_of_first {gate : Gate} {gates : List (ℕ × Gate)} {t : Tracker R}
    (htrail : Trail cfg j effects moves j') (hstarts : Journal.StartsLast moves)
    (hmoves : ∀ move ∈ moves, Justified cfg t (.submit claim) move) (hgates : asking gates = 0) :
    Spent cfg claim (asking (gates ++ startGates gate effects)) j' := by
  have hcount := asking_startGates_le cfg gate effects
  rw [asking_append, hgates, Nat.zero_add]
  rw [← htrail.started] at hcount
  rcases hstarts with ⟨front, hfront, rfl | ⟨key, rfl⟩⟩
  · rw [hfront] at hcount
    exact ⟨hcount.trans (Nat.zero_le 1), fun hpos => absurd hcount (Nat.not_le.mpr hpos)⟩
  · rw [List.filterMap_append, hfront] at hcount
    refine ⟨hcount, fun _ => ?_⟩
    rcases hmoves (.start key) (by simp) with ⟨action, heq, rfl, _⟩
    cases heq
    exact Journal.held_of_start htrail.execution

/-! ## Steps -/

variable (cfg toLowerCase claim) in
/-- The process in a world where the condition is met. -/
abbrev unspentPayout := (payout cfg toLowerCase claim).guarded (unspent cfg claim)

/-- What a step of the process can be. -/
inductive PayoutStep (cfg : RelayTrackerConfig R) (claim : RelayAction) (p : Payout R)
    (world : World R) : Payout R → List (SystemEffect R Execute) → Prop where
  | quoted {now gate} :
      ¬(p.tracker.restageable (computeSubmissionKey cfg.shortDigest claim) ∧
        0 < asking p.gates + world.payments) →
      PayoutStep cfg claim p world
        ⟨(p.tracker.submit cfg now claim).1,
          p.gates ++ startGates gate (p.tracker.submit cfg now claim).2⟩
        ((p.tracker.submit cfg now claim).2.map .relay)
  | tracked {now event t' trace gates} :
      p.tracker.handle cfg now event = some (t', trace) →
      (∀ action, event = .submit action →
        computeSubmissionKey cfg.shortDigest action ≠ computeSubmissionKey cfg.shortDigest claim) →
      asking gates ≤ asking p.gates →
      PayoutStep cfg claim p world ⟨t', gates⟩ (trace.map .relay)
  | waited {gates} : asking gates ≤ asking p.gates →
      PayoutStep cfg claim p world ⟨p.tracker, gates⟩ []
  | executed {effect gates} : asking gates < asking p.gates →
      PayoutStep cfg claim p world ⟨p.tracker, gates⟩ [.world effect]

theorem payout_step {event : PayoutEvent R} {effects : List (SystemEffect R Execute)}
    (h : (unspentPayout cfg toLowerCase claim).handle event p world = some (p', effects)) :
    PayoutStep cfg claim p world p' effects := by
  rcases guarded_handle.mp h with ⟨hunspent, hhandle⟩
  cases event with
  | quoted now quote coordinatorQuoteId =>
      rcases Option.some.inj hhandle with ⟨⟩
      simp only [unspent, Bool.not_eq_true', decide_eq_false_iff_not] at hunspent
      exact .quoted hunspent
  | fetched task now answer =>
      simp only [payout, Payout.handle] at hhandle
      split at hhandle
      · rename_i quote hgate
        split at hhandle
        · rcases Option.some.inj hhandle with ⟨⟩
          exact .waited (asking_setGate_lt hgate rfl).le
        · rcases Option.some.inj hhandle with ⟨⟩
          exact .executed (asking_setGate_lt hgate rfl)
      · contradiction
  | executed task result =>
      simp only [payout, Payout.handle] at hhandle
      split at hhandle
      · rcases Option.some.inj hhandle with ⟨⟩
        exact .waited (asking_setGate p.gates task rfl)
      · contradiction
  | resumed task now =>
      simp only [payout, Payout.handle] at hhandle
      split at hhandle
      · split at hhandle
        · rename_i htracker
          rcases Option.some.inj hhandle with ⟨⟩
          exact .tracked htracker nofun (asking_dropGate task)
        · rcases Option.some.inj hhandle with ⟨⟩
          exact .waited (asking_dropGate task)
      · contradiction
  | relay now event =>
      simp only [payout, Payout.handle] at hhandle
      split_ifs at hhandle with hforeign
      rcases Option.map_eq_some_iff.mp hhandle with ⟨⟨t', trace⟩, htracker, ⟨⟩⟩
      refine .tracked htracker ?_ le_rfl
      rintro action rfl
      simpa [Payout.foreign] using hforeign

variable (toLowerCase) in
theorem PayoutStep.live {effects : List (SystemEffect R Execute)}
    (h : PayoutStep cfg claim p world p' effects) (hlive : PayoutLive cfg claim p world past) :
    PayoutLive cfg claim p' ((payout cfg toLowerCase claim).applyAll world effects)
      (past ++ effects) := by
  rcases hlive with ⟨j, hfollows, hmatches, hspent⟩
  cases h with
  | @quoted now gate hcondition =>
      rcases submit_makes now claim hmatches with
        ⟨moves, ⟨j', htrail, hmatches'⟩, hstarts, hjustified⟩
      rw [applyAll_relay]
      refine ⟨j', hfollows.trail htrail, hmatches', ?_⟩
      rcases Nat.eq_zero_or_pos (asking p.gates + world.payments) with hzero | hpos
      · have hgates : asking p.gates = 0 := by omega
        have hpayments : world.payments = 0 := by omega
        rw [hpayments, Nat.add_zero]
        exact spent_of_first htrail hstarts hjustified hgates
      · have hnot : p.tracker.restageable (computeSubmissionKey cfg.shortDigest claim) = false :=
          Bool.eq_false_iff.mpr fun hrestageable => hcondition ⟨hrestageable, hpos⟩
        have hidle := quoted_idle hmatches (hspent.held hpos) hnot hjustified
        have hcount := asking_startGates_le cfg gate (p.tracker.submit cfg now claim).2
        rw [← htrail.started, hidle.1, List.length_nil, Nat.le_zero] at hcount
        rw [asking_append, hcount, Nat.add_zero]
        exact hspent.run htrail.execution hidle.2
  | @tracked now event t' trace gates htracker hforeign hgates =>
      rcases handle_makes hmatches htracker with ⟨moves, ⟨j', htrail, hmatches'⟩, hjustified⟩
      rw [applyAll_relay]
      refine ⟨j', hfollows.trail htrail, hmatches', ?_⟩
      have hrun := hspent.run htrail.execution fun hrelease => by
        rcases hjustified _ hrelease with ⟨action, hevent, hkey, _⟩
        exact hforeign action hevent hkey.symm
      exact hrun.mono (Nat.add_le_add_right hgates _)
  | waited hgates =>
      rw [applyAll_nil, List.append_nil]
      exact ⟨j, hfollows, hmatches, hspent.mono (Nat.add_le_add_right hgates _)⟩
  | @executed effect gates hgates =>
      refine ⟨j, hfollows.execute effect, hmatches, hspent.mono ?_⟩
      change asking gates + (world.payments + 1) ≤ _
      omega

/-- A crash in the middle of a stretch of the tracker. -/
theorem saved_of_trail {front : List (SystemEffect R Execute)}
    (hfollows : Follows cfg world.stored past j) (htrail : Trail cfg j effects moves j')
    (hspent : Spent cfg claim world.payments j) (hfront : front <+: effects.map .relay)
    (hmoves : 0 < world.payments →
      .release (computeSubmissionKey cfg.shortDigest claim) ∉ moves) :
    PayoutSaved cfg claim ((payout cfg toLowerCase claim).applyAll world front)
      (past ++ front) := by
  rcases List.prefix_map_iff.mp hfront with ⟨trace, htrace, rfl⟩
  rcases htrail.prefix htrace with ⟨moves', j₁, hmoves₁, htrail'⟩
  rw [applyAll_relay]
  refine ⟨j₁, hfollows.trail htrail', hspent.once, fun hpos => ?_⟩
  apply (hspent.held hpos).run htrail'.execution
  exact fun hmem => hmoves hpos (hmoves₁.subset hmem)

variable (toLowerCase) in
theorem PayoutStep.saved {effects front : List (SystemEffect R Execute)}
    (h : PayoutStep cfg claim p world p' effects) (hlive : PayoutLive cfg claim p world past)
    (hfront : front <+: effects) :
    PayoutSaved cfg claim ((payout cfg toLowerCase claim).applyAll world front)
      (past ++ front) := by
  rcases hlive with ⟨j, hfollows, hmatches, hspent⟩
  have hpayments : Spent cfg claim world.payments j := hspent.mono (Nat.le_add_left _ _)
  cases h with
  | @quoted now gate hcondition =>
      rcases submit_makes now claim hmatches with
        ⟨moves, ⟨j', htrail, _⟩, _, hjustified⟩
      apply saved_of_trail hfollows htrail hpayments hfront
      intro hpos hrelease
      rcases hjustified _ hrelease with ⟨_, _, _, hrestageable⟩
      exact hcondition ⟨hrestageable, by omega⟩
  | @tracked now event t' trace gates htracker hforeign hgates =>
      rcases handle_makes hmatches htracker with ⟨moves, ⟨j', htrail, _⟩, hjustified⟩
      apply saved_of_trail hfollows htrail hpayments hfront
      intro _ hrelease
      rcases hjustified _ hrelease with ⟨action, hevent, hkey, _⟩
      exact hforeign action hevent hkey.symm
  | waited hgates =>
      rw [List.prefix_nil.mp hfront, List.append_nil]
      exact ⟨j, hfollows, hpayments⟩
  | @executed effect gates hgates =>
      rcases List.prefix_cons_iff.mp hfront with rfl | ⟨rest, rfl, hrest⟩
      · rw [List.append_nil]
        exact ⟨j, hfollows, hpayments⟩
      · rw [List.prefix_nil.mp hrest]
        refine ⟨j, hfollows.execute effect, hspent.mono ?_⟩
        change world.payments + 1 ≤ _
        omega

variable (toLowerCase) in
theorem PayoutSaved.restart (h : PayoutSaved cfg claim world past) :
    PayoutLive cfg claim ((payout cfg toLowerCase claim).recover world) world past := by
  rcases h with ⟨j, hfollows, hspent⟩
  refine ⟨_, ⟨hfollows.sends.crash, hfollows.stored.entries_eq, hfollows.stored.coherent⟩,
    hfollows.stored.restart hfollows.sends.invariant.saved.nodup, ?_⟩
  have hcrash : Execution Journal.Step j [.crash]
      { j with memory := j.saved.map Journal.Entry.recover, ready := none } := .single .crash
  have hrun := hspent.run hcrash (by simp)
  rw [show asking ((payout cfg toLowerCase claim).recover world).gates = 0 from rfl, Nat.zero_add]
  exact hrun

/-! ## At most one payment -/

/-- The process before its first event. -/
def Payout.empty : Payout R := ⟨Tracker.empty, []⟩

theorem payout_refines {labels : List (Machine.Label (PayoutEvent R) (SystemEffect R Execute))}
    (h : Execution (unspentPayout cfg toLowerCase claim).Step (Payout.empty, World.empty) labels
      (p, world)) : PayoutLive cfg claim p world (issued labels) := by
  apply Machine.invariant (PayoutLive cfg claim) (PayoutSaved cfg claim) h
  · refine ⟨Journal.empty, ⟨⟨[], .refl, rfl⟩, rfl, by simp [World.empty]⟩, ⟨.empty, rfl⟩, ?_⟩
    exact ⟨Nat.zero_le 1, fun hpos => absurd hpos (Nat.lt_irrefl 0)⟩
  · rintro p world past ⟨j, hfollows, _, hspent⟩
    exact ⟨j, hfollows, hspent.mono (Nat.le_add_left _ _)⟩
  · exact PayoutSaved.restart toLowerCase
  · exact fun hlive hhandle => (payout_step hhandle).live toLowerCase hlive
  · exact fun hlive hhandle hfront => (payout_step hhandle).saved toLowerCase hlive hfront

/-- The executor is called at most once. -/
theorem executor_once {labels : List (Machine.Label (PayoutEvent R) (SystemEffect R Execute))}
    (h : Execution (unspentPayout cfg toLowerCase claim).Step (Payout.empty, World.empty) labels
      (p, world)) : world.payments ≤ 1 := by
  rcases payout_refines h with ⟨j, _, _, hspent⟩
  exact (Nat.le_add_left _ _).trans hspent.once

/-! ## Order 7 -/

/-- What `toLowerCase` makes of ASCII. -/
def asciiLower (s : String) : String := String.ofList (s.toList.map Char.toLower)

/-- The quote of order 7 in milliseconds. -/
def order7Quote : QuoteResponse := ⟨"0xA", "XLM", "ethereum", "stellar", "1000", 1700000030000⟩

/-- The coordinator knows the quote. -/
def order7Answer : StatusAnswer :=
  .answered 200 (some ⟨some true, some "0xa", some "XLM", some "1000", some "ethereum",
    some "stellar", some (.finite 1700000030000)⟩)

def order7Claim : RelayAction := ⟨"7", "eth_to_xlm", "claim", "stellar", some "testnet"⟩

/-- Two calls one after the other, each with a quote that the coordinator accepts. -/
def order7Calls : List (Machine.Command (PayoutEvent String)) :=
  [.run (.quoted 1700000000000 (some order7Quote) (some "q7")),
    .run (.fetched 0 1700000000001 order7Answer), .run (.executed 0 (.ok "tx-1")),
    .run (.resumed 0 1700000000002),
    .run (.quoted 1700000000003 (some order7Quote) (some "q7")),
    .run (.fetched 1 1700000000004 order7Answer)]

/-- Two calls at a time: the second one joins the submission of the first. -/
def joinedCalls : List (Machine.Command (PayoutEvent String)) :=
  [.run (.quoted 1700000000000 (some order7Quote) (some "q7")),
    .run (.quoted 1700000000001 (some order7Quote) (some "q7")),
    .run (.fetched 0 1700000000002 order7Answer),
    .run (.quoted 1700000000003 none none), .run (.executed 0 (.ok "tx-1")),
    .run (.resumed 0 1700000000004)]

/-- None of these events is left out, and one payment is submitted. -/
theorem executor_once_order7 :
    let run := (unspentPayout order7Config asciiLower order7Claim).play joinedCalls
      (Payout.empty, World.empty)
    run.1.length = 6 ∧ run.2.2.payments = 1 ∧ run.2.2.payments ≤ 1 :=
  ⟨by decide, by decide, executor_once (play_execution joinedCalls _)⟩

/-- The second call submits a second payment. -/
theorem second_call_pays_again :
    ¬ ∀ labels p world, Execution (payout order7Config asciiLower order7Claim).Step
      (Payout.empty, World.empty) labels (p, world) → world.payments ≤ 1 := by
  intro h
  have htwice : ((payout order7Config asciiLower order7Claim).play order7Calls
      (Payout.empty, World.empty)).2.2.payments ≤ 1 := h _ _ _ (play_execution order7Calls _)
  have hpayments : ((payout order7Config asciiLower order7Claim).play order7Calls
      (Payout.empty, World.empty)).2.2.payments = 2 := by decide
  rw [hpayments] at htwice
  contradiction

end OverSync.QuoterService
