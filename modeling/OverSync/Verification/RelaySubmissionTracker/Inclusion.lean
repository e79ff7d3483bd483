import OverSync.Model.RelayChain
import OverSync.Verification.RelaySubmissionTracker.Broadcast

/-! # What is included on chain

The lock of an order is released when a poll budget ends in `not_found`, while the transaction may
still be in the pool. As long as no such transaction is included, at most one transaction of each
side of an order is. -/

namespace OverSync.RelaySubmissionTracker

open Library Machine Function

variable {R : Type} {cfg : RelayTrackerConfig R} {t : Tracker R}

/-! ## The condition -/

/-- The tracker has given the transaction up as `not_found`. -/
def Tracker.givenUp (t : Tracker R) (txHash : String) : Bool :=
  t.list.any fun r => r.txHash = some txHash ∧ r.status = .failed ∧ r.terminalReason = some .notFound

variable (cfg) in
/-- A transaction that was given up is not included, and none is given up that was included
between the last question and its answer. -/
def inTime : SystemEvent R → Tracker R → List (PersistedSubmission R) × Chain → Bool
  | .land txHash .included, t, _ => !t.givenUp txHash
  | .relay _ (.confirmed id answer), t, d =>
    match t.tasks id with
    | some (.polling obj polls _) =>
      !((confirmationOf answer).state = .notFound ∧ cfg.maxAttempts ≤ polls ∧
        d.2.fate ((t.heap obj).txHash.getD "") = .included)
    | _ => true
  | _, _, _ => true

/-! ## Effects on the chain -/

theorem observe_relay_fate (chain : Chain) (effect : Effect R) :
    (chain.observe (.relay effect)).fate = chain.fate := by
  cases effect <;> rfl

theorem applyAll_relay (effects : List (Effect R))
    (d : List (PersistedSubmission R) × Chain) :
    ((system cfg).applyAll d (effects.map .relay)).1 = (process cfg).applyAll d.1 effects ∧
      ((system cfg).applyAll d (effects.map .relay)).2.fate = d.2.fate := by
  induction effects generalizing d with
  | nil => exact ⟨rfl, rfl⟩
  | cons effect effects ih =>
      rw [List.map_cons, applyAll_cons, applyAll_cons]
      have hrest := ih ((system cfg).apply d (.relay effect))
      exact ⟨hrest.1, hrest.2.trans (observe_relay_fate d.2 effect)⟩

/-! ## The invariant -/

/-- What is known of a transaction that was abandoned. -/
def Doomed (fate : String → Fate) (txHash : String) (reason : RelayTerminalReason) : Prop :=
  reason = .failed ∧ fate txHash = .reverted ∨ reason = .notFound ∧ fate txHash ≠ .included

theorem Doomed.not_included {fate : String → Fate} {txHash : String}
    {reason : RelayTerminalReason} (h : Doomed fate txHash reason) : fate txHash ≠ .included := by
  rcases h with ⟨_, hreverted⟩ | ⟨_, hnot⟩
  · rw [hreverted]
    nofun
  · exact hnot

variable (cfg) in
/-- The journal sent what was broadcast, has the store and abandoned only what is doomed. -/
structure Covers (d : List (PersistedSubmission R) × Chain) (past : List (SystemEffect R Landing))
    (j : Ledger) : Prop where
  sends : Sends cfg (relayed past) j
  stored : Stored cfg d.1 j
  disposed : Journal.Disposed (Doomed d.2.fate) j.memory j.saved

/-- The tracker abandons only what is doomed. -/
theorem doomed_of_justified {event : Event R} {now : ℕ}
    {d : List (PersistedSubmission R) × Chain} (hallows : d.2.allows t event)
    (htime : inTime cfg (.relay now event) t d) {key hash : String} {reason : RelayTerminalReason}
    (h : Justified cfg t event (.abandon key hash reason)) : Doomed d.2.fate hash reason := by
  rcases h with ⟨id, answer, obj, polls, duplicate, rfl, htask, hkey, hhash, hreason, hpolls⟩
  simp only [Chain.allows, htask, Task.obj, hhash, Option.getD_some] at hallows
  simp only [inTime, htask, hhash, Option.getD_some] at htime
  cases hstate : (confirmationOf answer).state with
  | succeeded | pending =>
      rw [hstate] at hreason
      contradiction
  | failed =>
      rw [hstate] at hreason hallows
      left
      exact ⟨(Option.some.inj hreason).symm, by simpa [RelayConfirmationState.truthful] using hallows⟩
  | notFound =>
      rw [hstate] at hreason htime
      have hnotFound : reason = .notFound := (Option.some.inj hreason).symm
      right
      refine ⟨hnotFound, ?_⟩
      have hspent := hpolls hnotFound
      simpa [hspent] using htime

/-- The record of an abandoned job shows that it was given up. -/
theorem givenUp_of_abandoned {key lock hash : String}
    (h : ⟨key, lock, .abandoned hash .notFound⟩ ∈ t.entries) : t.givenUp hash := by
  rcases abandoned_record h with ⟨r, hr, _, hstatus, hhash, hreason⟩
  rw [Tracker.givenUp, List.any_eq_true]
  refine ⟨r, hr, ?_⟩
  have hnotFound : r.terminalReason = some .notFound := by
    cases hr : r.terminalReason with
    | none => simp [hr] at hreason
    | some reason => simpa [hr] using hreason
  simp [hhash, hstatus, hnotFound]

variable {d : List (PersistedSubmission R) × Chain} {past : List (SystemEffect R Landing)} {j j' : Ledger}
  {event : Event R} {now : ℕ} {effects : List (Effect R)} {moves : List Move} {hash : String}
  {fate : Fate}

/-- Only a transaction that was not given up is included. -/
theorem Covers.land (h : Covers cfg d past j) (hmatches : Matches cfg t j)
    (hfloating : d.2.fate hash = .floating) (htime : inTime cfg (.land hash fate) t d) :
    Covers cfg ((system cfg).apply d (.world ⟨hash, fate⟩)) (past ++ [.world ⟨hash, fate⟩]) j where
  sends := by
    rw [relayed_append_world]
    exact h.sends
  stored := h.stored
  disposed := by
    refine ⟨fun {key lock tag reason} hin => ?_, h.disposed.ahead⟩
    have hdoomed := h.disposed.justified hin
    change Doomed (update d.2.fate hash fate) tag reason
    by_cases htag : tag = hash
    · subst htag
      rcases hdoomed with ⟨_, hreverted⟩ | ⟨hreason, _⟩
      · rw [hfloating] at hreverted
        contradiction
      · right
        refine ⟨hreason, ?_⟩
        rw [update_self]
        rintro rfl
        rw [hreason, ← hmatches.entries_eq] at hin
        simp [inTime, givenUp_of_abandoned hin] at htime
    · rw [Doomed, update_of_ne htag]
      exact hdoomed

theorem Covers.trail (h : Covers cfg d past j) (htrail : Trail cfg j effects moves j')
    (hmoves : ∀ key tag reason, .abandon key tag reason ∈ moves → Doomed d.2.fate tag reason) :
    Covers cfg ((system cfg).applyAll d (effects.map .relay)) (past ++ effects.map .relay) j' where
  sends := by
    rw [relayed_append, relayed_map]
    exact h.sends.trail htrail
  stored := by
    rw [(applyAll_relay effects d).1]
    exact htrail.stored_applyAll h.stored
  disposed := by
    rw [(applyAll_relay effects d).2]
    exact h.disposed.run h.sends.invariant htrail.execution hmoves

theorem Covers.crash (h : Covers cfg d past j) :
    Covers cfg d past { j with memory := j.saved.map Journal.Entry.recover, ready := none } :=
  ⟨h.sends.crash, ⟨h.stored.entries_eq, h.stored.coherent⟩, h.disposed.recover⟩

theorem Covers.start : Covers cfg ([], Chain.empty) [] Journal.empty :=
  ⟨⟨[], .refl, rfl⟩, ⟨rfl, by simp⟩, ⟨by simp [Journal.empty], by simp [Journal.empty]⟩⟩

variable (cfg) in
/-- The system in a world where nothing that was given up is included. -/
abbrev timelySystem := (system cfg).guarded (inTime cfg)

/-- What a step of the system in this world can be. -/
theorem timely_cases {event : SystemEvent R} {t' : Tracker R} {effects : List (SystemEffect R Landing)}
    (h : (timelySystem cfg).handle event t d = some (t', effects)) :
    (∃ now e trace, event = .relay now e ∧ d.2.allows t e ∧ inTime cfg event t d ∧
        t.handle cfg now e = some (t', trace) ∧ effects = trace.map .relay) ∨
      ∃ hash fate, event = .land hash fate ∧ inTime cfg event t d ∧
        d.2.fate hash = .floating ∧ t' = t ∧ effects = [.world ⟨hash, fate⟩] := by
  rcases guarded_handle.mp h with ⟨htime, hhandle⟩
  cases event with
  | relay now e =>
      left
      simp only [system] at hhandle
      split_ifs at hhandle with hallows
      rcases Option.map_eq_some_iff.mp hhandle with ⟨⟨t₁, trace⟩, htrace, heq⟩
      simp only [Prod.mk.injEq] at heq
      rw [heq.1] at htrace
      exact ⟨now, e, trace, rfl, hallows, htime, htrace, heq.2.symm⟩
  | land hash fate =>
      right
      simp only [system] at hhandle
      split_ifs at hhandle with hland
      simp only [Option.some.injEq, Prod.mk.injEq] at hhandle
      exact ⟨hash, fate, rfl, htime, hland.2.1, hhandle.1.symm, hhandle.2.symm⟩

theorem system_refines {labels : List (Machine.Label (SystemEvent R) (SystemEffect R Landing))}
    (h : Execution (timelySystem cfg).Step (Tracker.empty, ([], Chain.empty)) labels (t, d)) :
    ∃ j, Covers cfg d (issued labels) j ∧ Matches cfg t j := by
  apply Machine.invariant (fun t d past => ∃ j, Covers cfg d past j ∧ Matches cfg t j)
    (fun d past => ∃ j, Covers cfg d past j) h
  · exact ⟨Journal.empty, Covers.start, ⟨.empty, rfl⟩⟩
  · rintro t d past ⟨j, hcovers, _⟩
    exact ⟨j, hcovers⟩
  · rintro d past ⟨j, hcovers⟩
    exact ⟨_, hcovers.crash, hcovers.stored.restart hcovers.sends.invariant.saved.nodup⟩
  · rintro event t d past t' effects ⟨j, hcovers, hmatches⟩ hhandle
    rcases timely_cases hhandle with ⟨now, e, trace, rfl, hallows, htime, htrace, rfl⟩ |
      ⟨hash, fate, rfl, htime, hfloating, rfl, rfl⟩
    · rcases handle_makes hmatches htrace with ⟨moves, ⟨j', htrail, hmatches'⟩, hjustified⟩
      refine ⟨j', hcovers.trail htrail ?_, hmatches'⟩
      intro key tag reason hmove
      exact doomed_of_justified hallows htime (hjustified _ hmove)
    · exact ⟨j, hcovers.land hmatches hfloating htime, hmatches⟩
  · rintro event t d past t' effects front ⟨j, hcovers, hmatches⟩ hhandle hfront
    rcases timely_cases hhandle with ⟨now, e, trace, rfl, hallows, htime, htrace, rfl⟩ |
      ⟨hash, fate, rfl, htime, hfloating, rfl, rfl⟩
    · rcases handle_makes hmatches htrace with ⟨moves, ⟨j', htrail, _⟩, hjustified⟩
      rcases List.prefix_map_iff.mp hfront with ⟨front', hfront', rfl⟩
      rcases htrail.prefix hfront' with ⟨moves', j₁, hmoves, htrail'⟩
      refine ⟨j₁, hcovers.trail htrail' ?_⟩
      intro key tag reason hmove
      exact doomed_of_justified hallows htime (hjustified _ (hmoves.subset hmove))
    · rcases List.prefix_cons_iff.mp hfront with rfl | ⟨rest, rfl, hrest⟩
      · rw [List.append_nil]
        exact ⟨j, hcovers⟩
      · rw [List.prefix_nil.mp hrest]
        exact ⟨j, hcovers.land hmatches hfloating htime⟩

/-! ## One transaction of each side -/

/-- The actions that were broadcast, with their hashes. -/
def broadcasts (effects : List (Effect R)) : List (RelayAction × String) :=
  effects.filterMap fun effect => match effect with
    | .broadcast _ action _ txHash => some (action, txHash)
    | _ => none

/-- At most one transaction of each side of each order is included. -/
def OneIncluded (effects : List (Effect R)) (chain : Chain) : Prop :=
  ∀ sent ∈ broadcasts effects, ∀ sent' ∈ broadcasts effects,
    sent.1.orderId = sent'.1.orderId → sent.1.side = sent'.1.side →
    chain.fate sent.2 = .included → chain.fate sent'.2 = .included → sent.2 = sent'.2

theorem sent_of_broadcast {effects : List (Effect R)} {sent : RelayAction × String}
    (h : sent ∈ broadcasts effects) (shortDigest : ShortDigest) :
    ∃ job ∈ effects.filterMap (Effect.sent shortDigest), job.tag = sent.2 ∧
      job.lock = computeOrderKey shortDigest sent.1.orderId sent.1.side := by
  rcases List.mem_filterMap.mp h with ⟨effect, heffect, hsent⟩
  cases effect with
  | broadcast id action key txHash =>
      rw [← Option.some.inj hsent]
      exact ⟨_, List.mem_filterMap.mpr ⟨_, heffect, rfl⟩, rfl, rfl⟩
  | save | stage | confirm | sleep | settle | reply | join => contradiction

/-- As long as no transaction that was given up is included, a claim and a refund of one order
are never both included. -/
theorem one_included {labels : List (Machine.Label (SystemEvent R) (SystemEffect R Landing))}
    (h : Execution (timelySystem cfg).Step (Tracker.empty, ([], Chain.empty)) labels (t, d)) :
    OneIncluded (relayed (issued labels)) d.2 := by
  intro sent hsent sent' hsent' horder hside hincluded hincluded'
  rcases system_refines h with ⟨j, hcovers, _⟩
  rcases sent_of_broadcast hsent cfg.shortDigest with ⟨job, hjob, htag, hlock⟩
  rcases sent_of_broadcast hsent' cfg.shortDigest with ⟨job', hjob', htag', hlock'⟩
  rw [← htag] at hincluded
  rw [← htag'] at hincluded'
  have hsame : job.lock = job'.lock := by rw [hlock, hlock', horder, hside]
  have heq := hcovers.sends.invariant.memory.live_unique hjob hjob' hsame
    (fun reason hin => (hcovers.disposed.justified hin).not_included hincluded)
    (fun reason hin => (hcovers.disposed.justified hin).not_included hincluded')
  rw [← htag, ← htag', heq]

/-- The claim fails to broadcast and is polled as `not_found`, the refund takes over, and then
the claim is included after all. -/
def lateClaimScript : List (Machine.Command (SystemEvent String)) :=
  [.run (.relay 0 (.submit (order7 "claim"))),
    .run (.relay 1 (.staged 0 (.resolved (some "0xc") none))),
    .run (.relay 2 (.broadcasted 0 (.error "ECONNRESET"))),
    .run (.relay 3 (.confirmed 0 (.ok ⟨.notFound, none, none⟩))),
    .run (.relay 4 (.slept 0)),
    .run (.relay 5 (.confirmed 0 (.ok ⟨.notFound, none, none⟩))),
    .run (.relay 6 (.submit (order7 "refund"))),
    .run (.relay 7 (.staged 1 (.resolved (some "0xf") none))),
    .run (.land "0xf" .included),
    .run (.relay 8 (.broadcasted 1 (.ok "receipt")))]

/-- In the world where nothing late is included, the refund alone is. -/
theorem one_included_order7 :
    let run := (timelySystem order7Config).play
      (lateClaimScript ++ [.run (.land "0xc" .included)]) (Tracker.empty, ([], Chain.empty))
    run.2.2.2.fate "0xf" = .included ∧ OneIncluded (relayed (issued run.1)) run.2.2.2 :=
  ⟨by decide, one_included (play_execution _ _)⟩

/-- The claim and the refund of order 7 are both included. -/
theorem late_claim_and_refund :
    ¬ ∀ labels t d, Execution (system order7Config).Step (Tracker.empty, ([], Chain.empty)) labels
      (t, d) → OneIncluded (relayed (issued labels)) d.2 := by
  intro h
  have hrun := h _ _ _ (play_execution (lateClaimScript ++ [.run (.land "0xc" .included)]) _)
  have hclaim := hrun (order7 "claim", "0xc") (by decide) (order7 "refund", "0xf") (by decide)
    rfl rfl (by decide) (by decide)
  contradiction

end OverSync.RelaySubmissionTracker
