import OverSync.Verification.RelaySubmissionTracker.Refinement

/-! # Broadcasts across restarts -/

namespace OverSync.RelaySubmissionTracker

open Library Machine

variable {R : Type} {cfg : RelayTrackerConfig R} {t : Tracker R}
  {stored : List (PersistedSubmission R)} {labels : List (Machine.Label (ℕ × Event R) (Effect R))}

/-- The keys under which broadcasts were invoked. -/
def broadcastKeys (effects : List (Effect R)) : List String :=
  effects.filterMap fun effect => match effect with
    | .broadcast _ _ key _ => some key
    | _ => none

theorem broadcastKeys_eq (shortDigest : ShortDigest) (effects : List (Effect R)) :
    broadcastKeys effects = (effects.filterMap (Effect.sent shortDigest)).map Journal.Sent.key := by
  rw [broadcastKeys, List.map_filterMap]
  apply List.filterMap_congr
  intro effect _
  cases effect <;> rfl

@[simp] theorem relayed_append {World : Type} (front back : List (SystemEffect R World)) :
    relayed (front ++ back) = relayed front ++ relayed back :=
  List.filterMap_append

@[simp] theorem relayed_map {World : Type} (effects : List (Effect R)) :
    relayed (effects.map (@SystemEffect.relay R World)) = effects := by
  rw [relayed, List.filterMap_map]
  exact List.filterMap_some

@[simp] theorem relayed_append_world {World : Type} (past : List (SystemEffect R World))
    (effect : World) : relayed (past ++ [.world effect]) = relayed past := by
  simp [relayed]

/-- A run of the journal that sends what the effects broadcast. -/
def Sends (cfg : RelayTrackerConfig R) (past : List (Effect R)) (j : Ledger) : Prop :=
  ∃ moves, Execution Journal.Step Journal.empty moves j ∧
    Journal.sentBy moves = past.filterMap (Effect.sent cfg.shortDigest)

theorem Sends.trail {past effects : List (Effect R)} {j j' : Ledger} {moves : List Move}
    (h : Sends cfg past j) (htrail : Trail cfg j effects moves j') :
    Sends cfg (past ++ effects) j' := by
  rcases h with ⟨before, hbefore, hsent⟩
  refine ⟨before ++ moves, hbefore.trans htrail.execution, ?_⟩
  rw [Journal.sentBy_append, hsent, htrail.sentBy, List.filterMap_append]

theorem Sends.invariant {past : List (Effect R)} {j : Ledger} (h : Sends cfg past j) :
    Journal.Invariant j (past.filterMap (Effect.sent cfg.shortDigest)) := by
  rcases h with ⟨moves, hmoves, hsent⟩
  rw [← hsent]
  exact Journal.Invariant.empty.run hmoves

theorem Sends.crash {past : List (Effect R)} {j : Ledger} (h : Sends cfg past j) :
    Sends cfg past { j with memory := j.saved.map Journal.Entry.recover, ready := none } := by
  rcases h with ⟨moves, hmoves, hsent⟩
  refine ⟨moves ++ [.crash], .snoc hmoves .crash, ?_⟩
  rw [Journal.sentBy_append, hsent]
  exact List.append_nil _

/-- The process is running, and the journal has its records and its store. -/
def Live (cfg : RelayTrackerConfig R) (t : Tracker R) (stored : List (PersistedSubmission R))
    (past : List (Effect R)) : Prop :=
  ∃ j, Sends cfg past j ∧ Matches cfg t j ∧ Stored cfg stored j

/-- The process may have crashed, and the journal has its store. -/
def Saved (cfg : RelayTrackerConfig R) (stored : List (PersistedSubmission R))
    (past : List (Effect R)) : Prop :=
  ∃ j, Sends cfg past j ∧ Stored cfg stored j

theorem Live.start : Live cfg Tracker.empty [] [] := by
  have hempty : (Tracker.empty : Tracker R).entries = (Journal.empty : Ledger).memory := rfl
  have hstored : Stored cfg [] Journal.empty := ⟨rfl, by simp⟩
  exact ⟨Journal.empty, ⟨[], .refl, rfl⟩, ⟨.empty, hempty⟩, hstored⟩

theorem Live.wellFormed {past : List (Effect R)} (h : Live cfg t stored past) :
    t.WellFormed cfg := by
  rcases h with ⟨_, _, hmatches, _⟩
  exact hmatches.wellFormed

theorem Live.saved {past : List (Effect R)} (h : Live cfg t stored past) :
    Saved cfg stored past := by
  rcases h with ⟨j, hsends, _, hstored⟩
  exact ⟨j, hsends, hstored⟩

theorem Saved.recover {past : List (Effect R)} (h : Saved cfg stored past) :
    Live cfg (Tracker.empty.restore cfg stored) stored past := by
  rcases h with ⟨j, hsends, hstored⟩
  exact ⟨_, hsends.crash, hstored.restart hsends.invariant.saved.nodup, hstored.entries_eq,
    hstored.coherent⟩

variable {past effects : List (Effect R)} {t' : Tracker R} {now : ℕ} {event : Event R}

theorem Live.handle (h : Live cfg t stored past)
    (hhandle : t.handle cfg now event = some (t', effects)) :
    Live cfg t' ((process cfg).applyAll stored effects) (past ++ effects) := by
  rcases h with ⟨j, hsends, hmatches, hstored⟩
  rcases handle_makes hmatches hhandle with ⟨moves, ⟨j', htrail, hmatches'⟩, _⟩
  exact ⟨j', hsends.trail htrail, hmatches', htrail.stored_applyAll hstored⟩

theorem Live.cut {front : List (Effect R)} (h : Live cfg t stored past)
    (hhandle : t.handle cfg now event = some (t', effects)) (hfront : front <+: effects) :
    Saved cfg ((process cfg).applyAll stored front) (past ++ front) := by
  rcases h with ⟨j, hsends, hmatches, hstored⟩
  rcases handle_makes hmatches hhandle with ⟨moves, ⟨j', htrail, _⟩, _⟩
  rcases htrail.prefix hfront with ⟨moves', j₁, _, htrail'⟩
  exact ⟨j₁, hsends.trail htrail', htrail'.stored_applyAll hstored⟩

/-- Refinement: the process, with its crashes, runs the journal. -/
theorem process_refines (h : Execution (process cfg).Step (Tracker.empty, []) labels (t, stored)) :
    Live cfg t stored (issued labels) := by
  apply Machine.invariant (Live cfg) (Saved cfg) h
  · exact Live.start
  · exact Live.saved
  · exact Saved.recover
  · exact Live.handle
  · exact Live.cut

theorem Matches.lock_once {j : Ledger} (h : Matches cfg t j)
    {sent : List (Journal.Sent String String String)} (hsound : Journal.Sound sent j.memory)
    (orderKey : String) :
    (t.list.filter fun r => r.orderKey = orderKey ∧ r.status ≠ .failed).length ≤ 1 := by
  have honce := hsound.lock_once orderKey
  rw [← h.entries_eq, Tracker.entries, List.filter_map, List.length_map] at honce
  apply le_of_eq_of_le _ honce
  congr 1
  apply List.filter_congr
  intro r _
  apply decide_eq_decide.mpr
  simp [SubmissionRecord.entry]

/-- At most one broadcast under each submission key, and at most one submission of each order
that has not failed, across all restarts. -/
theorem broadcast_once
    (h : Execution (process cfg).Step (Tracker.empty, []) labels (t, stored)) :
    (broadcastKeys (issued labels)).Nodup ∧ ∀ orderKey,
      (t.list.filter fun r => r.orderKey = orderKey ∧ r.status ≠ .failed).length ≤ 1 := by
  rcases process_refines h with ⟨j, hsends, hmatches, _⟩
  have hinvariant := hsends.invariant
  refine ⟨?_, fun orderKey => hmatches.lock_once hinvariant.memory orderKey⟩
  rw [broadcastKeys_eq cfg.shortDigest]
  exact hinvariant.once

/-! ## Order 7 -/

/-- A configuration with the digests of order 7. -/
def order7Config : RelayTrackerConfig String where
  shortDigest input := if input = "7" then "7902699b" else if input = "\"7\"" then "266aa588" else ""
  maxAttempts := 2
  maxAttempts_pos := by decide
  timeoutMs := 1000
  hasConfirm := true
  isRetryable _ := true
  serializableResult := some

def order7 (action : String) : RelayAction := ⟨"7", "xlm_to_eth", action, "ethereum", none⟩

/-- The process is killed between the save and the broadcast of a claim, a second claim polls the
stored hash, and after its failure a refund is broadcast. -/
def order7Script : List (Machine.Command (ℕ × Event String)) :=
  [.run (0, .submit (order7 "claim")), .cut (1, .staged 0 (.resolved (some "0xc") none)) 1,
    .run (2, .submit (order7 "claim")), .run (3, .confirmed 0 (.ok ⟨.failed, none, none⟩)),
    .run (4, .submit (order7 "refund")), .run (5, .staged 1 (.resolved (some "0xf") none)),
    .run (6, .broadcasted 1 (.ok "receipt")), .run (7, .submit (order7 "refund"))]

theorem broadcast_once_order7 :
    let run := (process order7Config).play order7Script (Tracker.empty, [])
    broadcastKeys (issued run.1) = ["xlm_to_eth:refund:7#266aa588"] ∧
      (broadcastKeys (issued run.1)).Nodup ∧ ∀ orderKey,
        (run.2.1.list.filter fun r => r.orderKey = orderKey ∧ r.status ≠ .failed).length ≤ 1 :=
  ⟨by decide, broadcast_once (play_execution order7Script _)⟩

end OverSync.RelaySubmissionTracker
