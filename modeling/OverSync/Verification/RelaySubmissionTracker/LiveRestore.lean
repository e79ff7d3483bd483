import OverSync.Verification.RelaySubmissionTracker.Broadcast
import OverSync.Verification.RelaySubmissionTracker.Detached
import OverSync.Verification.RelaySubmissionTracker.Saves

/-! # Restoring a running tracker

A record that waits for its stager comes back as a failed one. While there is none, restoring
leaves all running operations detached, and changes nothing else. -/

namespace OverSync.RelaySubmissionTracker

open Function Library Machine

variable {R : Type} {cfg : RelayTrackerConfig R} {t t' : Tracker R} {j : Ledger}
  {stored : List (PersistedSubmission R)} {F : ℕ → Option Task} {now : ℕ}
  {effects : List (Effect R)}

/-! ## Restoring -/

/-- `set` under a key of the map puts a new object in the place of the old one. -/
theorem Tracker.set_of_mem {r : SubmissionRecord R} {front back : List (String × ℕ)} {old : ℕ}
    (hrecords : t.records = front ++ (r.key, old) :: back)
    (hnodup : (t.records.map Prod.fst).Nodup) :
    t.set r = { t with
      heap := update t.heap t.nextObj r
      nextObj := t.nextObj + 1
      records := front ++ (r.key, t.nextObj) :: back } := by
  rw [hrecords, List.map_append, List.map_cons, List.nodup_append] at hnodup
  obtain ⟨-, hback, hdisjoint⟩ := hnodup
  have hfront : ∀ ref ∈ front, ref.1 ≠ r.key := fun ref href =>
    hdisjoint _ (List.mem_map_of_mem href) _ List.mem_cons_self
  have hrest : ∀ ref ∈ back, ref.1 ≠ r.key := by
    intro ref href heq
    exact (List.nodup_cons.mp hback).1 (List.mem_map.mpr ⟨ref, href, heq⟩)
  have hget : (t.get r.key).isSome := by
    simp [Tracker.get, hrecords]
  have hkeep : ∀ {refs : List (String × ℕ)}, (∀ ref ∈ refs, ref.1 ≠ r.key) →
      refs.map (fun ref => if ref.1 = r.key then (ref.1, t.nextObj) else ref) = refs := by
    intro refs hrefs
    conv_rhs => rw [← List.map_id refs]
    exact List.map_congr_left fun ref href => if_neg (hrefs ref href)
  rw [Tracker.set, if_pos hget, hrecords, List.map_append, List.map_cons, hkeep hfront,
    hkeep hrest, if_pos rfl]

variable (cfg) in
/-- `fresh` refers to new objects with the loaded records, and the old objects stay as they are. -/
structure Reloaded (t t' : Tracker R) (loaded : List (PersistedSubmission R))
    (fresh : List (String × ℕ)) : Prop where
  keys : fresh.map Prod.fst = loaded.map PersistedSubmission.key
  records : fresh.map (fun ref => t'.heap ref.2) = loaded.map (restoredRecord cfg)
  bounds : ∀ ref ∈ fresh, t.nextObj ≤ ref.2 ∧ ref.2 < t'.nextObj
  nextObj : t.nextObj ≤ t'.nextObj
  heap : ∀ o < t.nextObj, t'.heap o = t.heap o
  tasks : t'.tasks = t.tasks

/-- One more entry is loaded before the others. -/
theorem Reloaded.cons {t₁ : Tracker R} {loaded : List (PersistedSubmission R)}
    {fresh : List (String × ℕ)} {p : PersistedSubmission R} (h : Reloaded cfg t₁ t' loaded fresh)
    (hheap : t₁.heap = update t.heap t.nextObj (restoredRecord cfg p))
    (hnext : t₁.nextObj = t.nextObj + 1) (htasks : t₁.tasks = t.tasks) :
    Reloaded cfg t t' (p :: loaded) ((p.key, t.nextObj) :: fresh) := by
  obtain ⟨hkeys, hrecords, hbounds, hle, hold, hsame⟩ := h
  rw [hnext] at hbounds hle hold
  refine ⟨by simp [hkeys], ?_, fun ref href => ?_, by omega, fun o ho => ?_, hsame.trans htasks⟩
  · rw [List.map_cons, hrecords, List.map_cons, hold _ (Nat.lt_succ_self _), hheap]
    simp
  · rcases List.mem_cons.mp href with rfl | hin
    · exact ⟨Nat.le_refl _, hle⟩
    · have hbound := hbounds ref hin
      omega
  · rw [hold o (Nat.lt_succ_of_lt ho), hheap]
    exact update_of_ne (Nat.ne_of_lt ho) ..

variable (cfg) in
/-- Restoring entries under the last keys of the map. -/
theorem restore_over (loaded : List (PersistedSubmission R)) {front back : List (String × ℕ)}
    (hrecords : t.records = front ++ back) (hnodup : (t.records.map Prod.fst).Nodup)
    (hkeys : back.map Prod.fst = loaded.map PersistedSubmission.key)
    (hne : ∀ p ∈ loaded, p.key ≠ "") :
    ∃ fresh, (t.restore cfg loaded).records = front ++ fresh ∧
      Reloaded cfg t (t.restore cfg loaded) loaded fresh := by
  induction loaded generalizing t front back with
  | nil =>
      obtain rfl := List.map_eq_nil_iff.mp hkeys
      exact ⟨[], hrecords, rfl, rfl, by simp, Nat.le_refl _, fun _ _ => rfl, rfl⟩
  | cons p loaded ih =>
      cases back with
      | nil => simp at hkeys
      | cons ref back =>
          obtain ⟨key, old⟩ := ref
          simp only [List.map_cons, List.cons.injEq] at hkeys
          obtain ⟨rfl, hkeys⟩ := hkeys
          have hset := Tracker.set_of_mem (r := restoredRecord cfg p) hrecords hnodup
          have hstep : t.restore cfg (p :: loaded) =
              (t.set (restoredRecord cfg p)).restore cfg loaded := by
            simp only [Tracker.restore, List.foldl_cons, if_neg (hne p List.mem_cons_self)]
          have hrecords' : (t.set (restoredRecord cfg p)).records =
              (front ++ [(p.key, t.nextObj)]) ++ back := by
            rw [hset]
            simp [restoredRecord]
          have hnodup' : ((t.set (restoredRecord cfg p)).records.map Prod.fst).Nodup := by
            rw [hrecords']
            rw [hrecords] at hnodup
            simpa using hnodup
          obtain ⟨fresh, hfresh, hreloaded⟩ :=
            ih hrecords' hnodup' hkeys fun q hq => hne q (List.mem_cons_of_mem _ hq)
          rw [hstep]
          exact ⟨(p.key, t.nextObj) :: fresh, by simpa using hfresh,
            hreloaded.cons (by rw [hset]) (by rw [hset]) (by rw [hset])⟩

/-- The store has the records of the tracker, up to what a restart makes of them. -/
def InSync (t : Tracker R) (stored : List (PersistedSubmission R)) : Prop :=
  (stored.map PersistedSubmission.entry).map Journal.Entry.recover =
    t.entries.map Journal.Entry.recover

theorem InSync.handle (h : InSync t stored) {event : Event R}
    (hhandle : t.handle cfg now event = some (t', effects)) :
    InSync t' (((lastSave effects).map id).getD stored) := by
  have hsaves := handle_saves hhandle
  rw [Saves] at hsaves
  rw [InSync]
  cases hlast : lastSave effects with
  | none =>
      have hsame : t.entries = t'.entries := by simpa [hlast] using hsaves
      rw [← hsame]
      exact h
  | some list =>
      have hlist : list.map PersistedSubmission.entry = t'.entries := by
        simpa [hlast] using hsaves
      exact congrArg (List.map Journal.Entry.recover) hlist

theorem InSync.keys (h : InSync t stored) (hwf : t.WellFormed cfg) :
    t.records.map Prod.fst = stored.map PersistedSubmission.key := by
  have hkeys := congrArg (List.map Journal.Entry.key) h
  simp only [List.map_map] at hkeys
  rw [← hwf.entries_keys]
  exact hkeys.symm

/-- Objects of the tracker leave the map. -/
theorem Reloaded.drives {loaded : List (PersistedSubmission R)}
    (h : Reloaded cfg t t' loaded t'.records)
    (hpast : ∀ id task, t.tasks id = some task → task.Expects .pending ∧ task.obj < t.nextObj) :
    t'.Drives fun _ => none := by
  refine ⟨nofun, fun id task htask _ => ?_⟩
  rw [h.tasks] at htask
  obtain ⟨hexpects, hobj⟩ := hpast id task htask
  refine ⟨hexpects, Nat.lt_of_lt_of_le hobj h.nextObj, fun ref href => ?_⟩
  have hbound := h.bounds ref href
  omega

/-- Without operations, the restored tracker is well formed. -/
theorem Reloaded.wellFormed {loaded : List (PersistedSubmission R)}
    (h : Reloaded cfg t t' loaded t'.records)
    (hnodup : (loaded.map PersistedSubmission.key).Nodup)
    (hcoherent : ∀ p ∈ loaded, p.Coherent cfg) :
    (t'.withTasks fun _ => none).WellFormed cfg where
  nodup := by
    change (t'.records.map Prod.fst).Nodup
    rw [h.keys]
    exact hnodup
  refs := by
    intro ref href
    have hsame : t'.records.map (fun ref => (t'.heap ref.2).key) = t'.records.map Prod.fst := by
      rw [h.keys]
      have hrecordKeys := congrArg (List.map SubmissionRecord.key) h.records
      rw [List.map_map, List.map_map] at hrecordKeys
      exact hrecordKeys
    exact ⟨(h.bounds ref href).2, List.map_inj_left.mp hsame ref href⟩
  coherent := by
    intro r hr
    rw [show (t'.withTasks fun _ => none).list = _ from h.records] at hr
    obtain ⟨p, hp, rfl⟩ := List.mem_map.mp hr
    exact restoredRecord_coherent (hcoherent p hp)
  fresh := nofun
  running := nofun
  expected := nofun

/-- The operations of a calm tracker are past staging, attached or detached. -/
theorem Tracker.Drives.past_staging (hdrives : t.Drives F)
    (hwf : (t.withTasks F).WellFormed cfg) (hcalm : ∀ r ∈ t.list, r.status ≠ .inFlight) :
    ∀ id task, t.tasks id = some task → task.Expects .pending ∧ task.obj < t.nextObj := by
  intro id task htask
  cases hF : F id with
  | none =>
      obtain ⟨hexpects, hdropped⟩ := hdrives.detached id task htask hF
      exact ⟨hexpects, hdropped.1⟩
  | some attached =>
      have heq := hdrives.attached id attached hF
      rw [htask, Option.some.injEq] at heq
      subst heq
      have hholds := (hwf.running id task hF).1
      refine ⟨?_, (hwf.refs _ hholds).1⟩
      have hexpected := hwf.expected id task hF
      cases task with
      | staging obj => exact absurd hexpected (hcalm _ (List.mem_map.mpr ⟨_, hholds, rfl⟩))
      | broadcasting | polling | sleeping => rfl

/-- While nothing stages, restoring is a crash of the journal that leaves all operations
detached. -/
theorem restore_continues (hdrives : t.Drives F) (h : Matches cfg (t.withTasks F) j)
    (hstored : Stored cfg stored j) (hsync : InSync t stored)
    (hcalm : ∀ r ∈ t.list, r.status ≠ .inFlight) :
    (t.restore cfg stored).Drives (fun _ => none) ∧
      Matches cfg ((t.restore cfg stored).withTasks fun _ => none)
        { j with memory := j.saved.map Journal.Entry.recover, ready := none } := by
  have hwf := h.wellFormed
  have hattached : InSync (t.withTasks F) stored := hsync
  have hkeys : t.records.map Prod.fst = stored.map PersistedSubmission.key := hattached.keys hwf
  have hnodup : (stored.map PersistedSubmission.key).Nodup := hkeys ▸ hwf.nodup
  obtain ⟨fresh, hrecords, hreloaded⟩ :=
    restore_over cfg stored (List.nil_append t.records).symm hwf.nodup hkeys
      fun p hp => (hstored.coherent p hp).key_ne
  rw [List.nil_append] at hrecords
  rw [← hrecords] at hreloaded
  refine ⟨hreloaded.drives (hdrives.past_staging hwf hcalm),
    hreloaded.wellFormed hnodup hstored.coherent, ?_⟩
  have hlist : (t.restore cfg stored).list = stored.map (restoredRecord cfg) := hreloaded.records
  change (t.restore cfg stored).entries = j.saved.map Journal.Entry.recover
  rw [Tracker.entries, hlist, ← hstored.entries_eq, List.map_map, List.map_map]
  exact List.map_congr_left fun p hp => restoredRecord_entry (hstored.coherent p hp)

/-! ## Runs -/

variable {past front : List (Effect R)} {labels : List (Label (LiveEvent R) (Effect R))}

variable (cfg) in
/-- The journal has the records of the tracker and its store, whatever is detached. -/
structure RunsOver (F : ℕ → Option Task) (j : Ledger) (t : Tracker R)
    (stored : List (PersistedSubmission R)) (past : List (Effect R)) : Prop where
  drives : t.Drives F
  sends : Sends cfg past j
  matched : Matches cfg (t.withTasks F) j
  kept : Stored cfg stored j
  inSync : InSync t stored

variable (cfg) in
/-- The tracker runs, with some operations attached. -/
def Running (t : Tracker R) (stored : List (PersistedSubmission R)) (past : List (Effect R)) :
    Prop :=
  ∃ F j, RunsOver cfg F j t stored past

theorem Running.saved (h : Running cfg t stored past) : Saved cfg stored past := by
  obtain ⟨F, j, h⟩ := h
  exact ⟨j, h.sends, h.kept⟩

theorem Saved.running (h : Saved cfg stored past) :
    Running cfg (Tracker.empty.restore cfg stored) stored past := by
  obtain ⟨j, hsends, hstored⟩ := h
  have hrestarted := hstored.restart hsends.invariant.saved.nodup
  refine ⟨(Tracker.empty.restore cfg stored).tasks, _, ⟨fun _ _ => id, fun id task htask hnone => ?_⟩,
    hsends.crash, hrestarted, ⟨hstored.entries_eq, hstored.coherent⟩, ?_⟩
  · rw [hnone] at htask
    contradiction
  · rw [InSync, hrestarted.entries_eq, hstored.entries_eq, Journal.map_recover_recover]

/-- Restoring is safe while no record waits for its stager. -/
def calm : LiveEvent R → Tracker R → List (PersistedSubmission R) → Bool
  | .restore, t, _ => t.list.all fun r => r.status ≠ .inFlight
  | .relay .., _, _ => true

theorem Running.restore (h : Running cfg t stored past)
    (hcalm : ∀ r ∈ t.list, r.status ≠ .inFlight) :
    Running cfg (t.restore cfg stored) stored past := by
  obtain ⟨F, j, h⟩ := h
  obtain ⟨hdrives, hmatched⟩ := restore_continues h.drives h.matched h.kept h.inSync hcalm
  refine ⟨_, _, hdrives, h.sends.crash, hmatched, ⟨h.kept.entries_eq, h.kept.coherent⟩, ?_⟩
  have hentries : (t.restore cfg stored).entries = j.saved.map Journal.Entry.recover :=
    hmatched.entries_eq
  rw [InSync, hentries, h.kept.entries_eq, Journal.map_recover_recover]

theorem Running.handle (h : Running cfg t stored past)
    (hhandle : t.handle cfg now event = some (t', effects)) :
    Running cfg t' ((liveProcess cfg).applyAll stored effects) (past ++ effects) := by
  obtain ⟨F, j, h⟩ := h
  obtain ⟨F', hdrives, moves, j', htrail, hmatched⟩ := handle_continues h.drives h.matched hhandle
  refine ⟨F', j', hdrives, h.sends.trail htrail, hmatched, htrail.stored_applyAll h.kept, ?_⟩
  have hstore : (liveProcess cfg).applyAll stored effects =
      ((lastSave effects).map id).getD stored :=
    applyAll_lastSave (fun _ effect => by cases effect <;> rfl) stored
  rw [hstore]
  exact h.inSync.handle hhandle

theorem Running.cut (h : Running cfg t stored past)
    (hhandle : t.handle cfg now event = some (t', effects)) (hfront : front <+: effects) :
    Saved cfg ((liveProcess cfg).applyAll stored front) (past ++ front) := by
  obtain ⟨F, j, h⟩ := h
  obtain ⟨F', -, moves, j', htrail, -⟩ := handle_continues h.drives h.matched hhandle
  obtain ⟨moves', j₁, -, htrail'⟩ := htrail.prefix hfront
  exact ⟨j₁, h.sends.trail htrail', htrail'.stored_applyAll h.kept⟩

theorem calm_restore {t' : Tracker R} {effects : List (Effect R)}
    (h : ((liveProcess cfg).guarded calm).handle .restore t stored = some (t', effects)) :
    (∀ r ∈ t.list, r.status ≠ .inFlight) ∧ t' = t.restore cfg stored ∧ effects = [] := by
  obtain ⟨hcalm, hhandle⟩ := guarded_handle.mp h
  cases Option.some.inj hhandle
  exact ⟨by simpa [calm] using hcalm, rfl, rfl⟩

theorem calm_runs (h : Execution ((liveProcess cfg).guarded calm).Step (Tracker.empty, []) labels
    (t, stored)) : Running cfg t stored (issued labels) := by
  apply Machine.invariant (Running cfg) (Saved cfg) h
  · exact Live.start.saved.running
  · exact Running.saved
  · exact Saved.running
  · intro event t stored past t' effects hrunning hhandle
    cases event with
    | relay now event =>
        exact hrunning.handle (guarded_handle.mp hhandle).2
    | restore =>
        obtain ⟨hcalm, rfl, rfl⟩ := calm_restore hhandle
        rw [List.append_nil]
        exact hrunning.restore hcalm
  · intro event t stored past t' effects front hrunning hhandle hfront
    cases event with
    | relay now event =>
        exact hrunning.cut (guarded_handle.mp hhandle).2 hfront
    | restore =>
        obtain ⟨-, -, rfl⟩ := calm_restore hhandle
        rw [List.prefix_nil.mp hfront, List.append_nil]
        exact hrunning.saved

/-- However often the tracker reads its store again while no record waits for its stager, each
key is broadcast at most once and each order has at most one submission that has not failed. -/
theorem live_restore_broadcast_once
    (h : Execution ((liveProcess cfg).guarded calm).Step (Tracker.empty, []) labels (t, stored)) :
    (broadcastKeys (issued labels)).Nodup ∧ ∀ orderKey,
      (t.list.filter fun r => r.orderKey = orderKey ∧ r.status ≠ .failed).length ≤ 1 := by
  obtain ⟨F, j, hover⟩ := calm_runs h
  have hinvariant := hover.sends.invariant
  refine ⟨?_, hover.matched.lock_once hinvariant.memory⟩
  rw [broadcastKeys_eq cfg.shortDigest]
  exact hinvariant.once

/-! ## Order 7 -/

/-- The tracker reads its store again while the claim is broadcast: the broadcast settles the old
object, and the next claim polls the hash of the new one. -/
def calmScript : List (Command (LiveEvent String)) :=
  [.run (.relay 0 (.submit (order7 "claim"))),
    .run (.relay 1 (.staged 0 (.resolved (some "0xc") none))), .run .restore,
    .run (.relay 2 (.broadcasted 0 (.ok "receipt"))), .run (.relay 3 (.submit (order7 "claim"))),
    .run (.relay 4 (.confirmed 1 (.ok ⟨.succeeded, none, none⟩)))]

theorem live_restore_broadcast_once_order7 :
    let run := ((liveProcess order7Config).guarded calm).play calmScript (Tracker.empty, [])
    broadcastKeys (issued run.1) = ["xlm_to_eth:claim:7#266aa588"] ∧
      (broadcastKeys (issued run.1)).Nodup ∧ ∀ orderKey,
        (run.2.1.list.filter fun r => r.orderKey = orderKey ∧ r.status ≠ .failed).length ≤ 1 :=
  ⟨by decide, live_restore_broadcast_once (play_execution calmScript _)⟩

/-- The tracker reads its store again while the claim is staged. -/
def stagingScript : List (Command (LiveEvent String)) :=
  [.run (.relay 0 (.submit (order7 "claim"))), .run .restore,
    .run (.relay 1 (.submit (order7 "claim"))),
    .run (.relay 2 (.staged 0 (.resolved (some "0xc") none))),
    .run (.relay 3 (.staged 1 (.resolved (some "0xd") none)))]

/-- The record that still stages comes back as a staging failure, so the claim is staged and
broadcast a second time. -/
theorem live_restore_rebroadcast :
    ¬ ∀ labels t stored,
      Execution (liveProcess order7Config).Step (Tracker.empty, []) labels (t, stored) →
      (broadcastKeys (issued labels)).Nodup ∧ ∀ orderKey,
        (t.list.filter fun r => r.orderKey = orderKey ∧ r.status ≠ .failed).length ≤ 1 := by
  intro h
  have hrun := play_execution (M := liveProcess order7Config) stagingScript (Tracker.empty, [])
  have honce := (h _ _ _ hrun).1
  revert honce
  decide

end OverSync.RelaySubmissionTracker
