import OverSync.Verification.RelaySubmissionTracker.Frames
import OverSync.Verification.RelaySubmissionTracker.LiveRestore
import OverSync.Verification.RelaySubmissionTracker.Stagers

/-! # Refused submissions

A stager that rejects leaves a failed record without a hash. Whether the next `submit` calls a
stager again depends on `isRetryable` and on restarts, and not on whether it was a refusal. -/

namespace OverSync.RelaySubmissionTracker

open Function Library Machine

variable {R : Type} {cfg : RelayTrackerConfig R} {t t' : Tracker R} {now id obj : ℕ}
  {effects past : List (Effect R)} {stored stored' : List (PersistedSubmission R)}
  {key code : String} {action : RelayAction} {lapsed : Prop}
  {label refusal : Label (ℕ × Event R) (Effect R)}

/-! ## The process -/

theorem Live.step (h : Live cfg t stored past)
    (hstep : (process cfg).Step (t, stored) label (t', stored')) :
    Live cfg t' stored' (past ++ label.effects) := by
  cases hstep with
  | ran hhandle => exact h.handle hhandle
  | cut hhandle hfront => exact (h.cut hhandle hfront).recover
  | restarted =>
      rw [Label.effects, List.append_nil]
      exact h.saved.recover

theorem Saved.inSync (h : Saved cfg stored past) :
    InSync (Tracker.empty.restore cfg stored) stored := by
  obtain ⟨j, hsends, hstored⟩ := h
  have hrestarted := hstored.restart hsends.invariant.saved.nodup
  rw [InSync, hrestarted.entries_eq, hstored.entries_eq, Journal.map_recover_recover]

theorem process_inSync {labels : List (Label (ℕ × Event R) (Effect R))}
    (h : Execution (process cfg).Step (Tracker.empty, []) labels (t, stored)) :
    Live cfg t stored (issued labels) ∧ InSync t stored := by
  apply Machine.invariant (fun t stored past => Live cfg t stored past ∧ InSync t stored)
    (Saved cfg) h
  · exact ⟨Live.start, rfl⟩
  · exact fun hlive => hlive.1.saved
  · exact fun hsaved => ⟨hsaved.recover, hsaved.inSync⟩
  · intro event t stored past t' effects hlive hhandle
    have hstore : (process cfg).applyAll stored effects =
        ((lastSave effects).map id).getD stored :=
      applyAll_lastSave (fun _ effect => by cases effect <;> rfl) stored
    refine ⟨hlive.1.handle hhandle, ?_⟩
    rw [hstore]
    exact hlive.2.handle hhandle
  · exact fun hlive hhandle hfront => hlive.1.cut hhandle hfront

/-! ## Void submissions -/

/-- The store has a submission under the key that a restart makes stageable. -/
def VoidIn (stored : List (PersistedSubmission R)) (key : String) : Prop :=
  ∃ p ∈ stored, p.key = key ∧ p.entry.phase.recover = .void

/-- The submission under a key is over, without a transaction. It has `lapsed` if it may be staged
again in this process. -/
structure Refused (key : String) (lapsed : Prop) (t : Tracker R)
    (stored : List (PersistedSubmission R)) : Prop where
  memory : ∃ r, t.lookup key = some r ∧ r.entry.phase = .void ∧
    (r.terminalReason = some .stagingFailed ↔ lapsed)
  store : VoidIn stored key

theorem SubmissionRecord.failed_of_void {r : SubmissionRecord R} (h : r.entry.phase = .void) :
    r.status = .failed := by
  have hactive : (phaseOf r.status r.txHash r.terminalReason).active = false :=
    congrArg Journal.Phase.active h
  simpa using hactive

theorem Tracker.lookup_key {r : SubmissionRecord R} (h : t.lookup key = some r) : r.key = key := by
  simpa using List.find?_some h

theorem Tracker.WellFormed.lookup_of_mem (h : t.WellFormed cfg) {r : SubmissionRecord R}
    (hr : r ∈ t.list) : t.lookup r.key = some r := by
  cases hlookup : t.lookup r.key with
  | none =>
      have hnone := List.find?_eq_none.mp hlookup r hr
      simp at hnone
  | some r' =>
      have hmem : r' ∈ t.list := List.mem_of_find?_eq_some hlookup
      rw [h.record_unique hr hmem (Tracker.lookup_key hlookup)]

/-- No operation is left on a void submission. -/
theorem Tracker.WellFormed.idle_of_void (h : t.WellFormed cfg) {r : SubmissionRecord R}
    (hlookup : t.lookup key = some r) (hvoid : r.entry.phase = .void) :
    ∀ id task, t.tasks id = some task → (t.heap task.obj).key ≠ key := by
  rw [h.lookup_eq] at hlookup
  obtain ⟨obj, hget, rfl⟩ := Option.map_eq_some_iff.mp hlookup
  have href := Tracker.get_eq_some hget
  have hidle := h.idle_of_failed (h.holds href) (SubmissionRecord.failed_of_void hvoid)
  rw [(h.refs _ href).2] at hidle
  exact hidle

/-- A restart makes every void submission stageable. -/
theorem VoidIn.restart (h : VoidIn stored key) (hsaved : Saved cfg stored past)
    (hlapsed : lapsed) : Refused key lapsed (Tracker.empty.restore cfg stored) stored := by
  obtain ⟨p, hp, rfl, hvoid⟩ := h
  refine ⟨?_, p, hp, rfl, hvoid⟩
  obtain ⟨j, hsends, hstored⟩ := hsaved
  have hkeys := hsends.invariant.saved.nodup
  rw [← hstored.keys] at hkeys
  obtain ⟨hwf, hlist⟩ := restore_spec stored Tracker.WellFormed.empty hstored.coherent hkeys
    (by simp [Tracker.empty])
  have hmem : restoredRecord cfg p ∈ (Tracker.empty.restore cfg stored).list := by
    rw [hlist]
    exact List.mem_append_right _ (List.mem_map_of_mem hp)
  have hphase : (restoredRecord cfg p).entry.phase = .void := by
    rw [restoredRecord_entry (hstored.coherent p hp)]
    exact hvoid
  refine ⟨_, hwf.lookup_of_mem hmem, hphase, iff_of_true ?_ hlapsed⟩
  have hstatus : (normalizePersistedStatus p.status p.txHash p.lastError).1 = .failed :=
    SubmissionRecord.failed_of_void hphase
  simp only [SubmissionRecord.entry, phaseOf, SubmissionRecord.failed_of_void hphase] at hphase
  split_ifs at hphase with hreason
  rcases hreason with hstaging | hhash
  · exact hstaging
  · exact if_pos ⟨hstatus, .inr hhash⟩

/-- Other submissions leave a void one as it is, wherever their effects are cut. -/
theorem Spares.void {result : Tracker R × List (Effect R)} {front : List (Effect R)}
    (h : Spares cfg key t result) (hrefused : Refused key lapsed t stored)
    (hfront : front <+: result.2) :
    Refused key lapsed result.1 ((process cfg).applyAll stored front) := by
  obtain ⟨⟨r, hlookup, hvoid, hlapsed⟩, hstore⟩ := hrefused
  refine ⟨⟨r, h.memory.trans hlookup, hvoid, hlapsed⟩, ?_⟩
  refine applyAll_of_saves (P := fun list => VoidIn list key) hstore ?_
  intro list hsave
  have hfind := h.saves list (hfront.subset hsave)
  rw [hlookup, Option.map_some] at hfind
  refine ⟨_, List.mem_of_find?_eq_some hfind, Tracker.lookup_key hlookup, ?_⟩
  exact congrArg Journal.Phase.recover hvoid

/-! ## Later submits -/

variable (cfg) in
/-- A `submit` call under the key, unless the process crashes before the call does anything. -/
def Resubmits (key : String) (label : Label (ℕ × Event R) (Effect R)) : Prop :=
  ∃ now action, label.event = some (now, .submit action) ∧
    computeSubmissionKey cfg.shortDigest action = key ∧ label.effects ≠ []

/-- The call throws `RelayTerminalError` and does nothing else. -/
def ThrowsTerminal (key : String) (label : Label (ℕ × Event R) (Effect R)) : Prop :=
  ∃ attempts lastError reason,
    label.effects = [.reply (.error (.terminal key attempts lastError reason))]

/-- A lapsed submission is released and saved first, any other one is reported. -/
theorem Refused.submit (h : Refused key lapsed t stored) (now : ℕ) (hwf : t.WellFormed cfg)
    (hkey : computeSubmissionKey cfg.shortDigest action = key) :
    (lapsed ∧ ∃ list rest, (t.submit cfg now action).2 = .save list :: rest) ∨
      (¬ lapsed ∧ ∃ attempts lastError reason, t.submit cfg now action =
        (t, [.reply (.error (.terminal key attempts lastError reason))])) := by
  obtain ⟨⟨r, hlookup, hvoid, hlapsed⟩, -⟩ := h
  have hstatus := SubmissionRecord.failed_of_void hvoid
  rw [hwf.lookup_eq] at hlookup
  obtain ⟨obj, hget, rfl⟩ := Option.map_eq_some_iff.mp hlookup
  simp only [Tracker.submit, hkey, hget, hstatus]
  split_ifs with hreason
  · exact .inl ⟨hlapsed.mp hreason, _, _, rfl⟩
  · exact .inr ⟨fun hl => hreason (hlapsed.mpr hl), _, _, _, rfl⟩

/-- The next call under the key throws exactly if the submission has not lapsed. -/
theorem Refused.throws_iff (h : Refused key lapsed t stored) (hwf : t.WellFormed cfg)
    (hstep : (process cfg).Step (t, stored) label (t', stored'))
    (hresubmits : Resubmits cfg key label) : ThrowsTerminal key label ↔ ¬ lapsed := by
  obtain ⟨now, action, hevent, hkey, hnonempty⟩ := hresubmits
  obtain ⟨result, hhandle, hfront⟩ := hstep.handled hevent
  obtain rfl := Option.some.inj hhandle
  rcases h.submit now hwf hkey with ⟨hlapsed, list, rest, heffects⟩ |
    ⟨hlapsed, attempts, lastError, reason, hsubmit⟩
  · refine iff_of_false ?_ (not_not_intro hlapsed)
    rintro ⟨attempts, lastError, reason, hthrows⟩
    rw [hthrows, heffects, List.cons_prefix_cons] at hfront
    exact absurd hfront.1 nofun
  · refine iff_of_true ⟨attempts, lastError, reason, ?_⟩ hlapsed
    rw [hsubmit] at hfront
    obtain ⟨rest, heq, hrest⟩ := (List.prefix_cons_iff.mp hfront).resolve_left hnonempty
    rw [heq, List.prefix_nil.mp hrest]

/-- A stretch leaves a void submission as it is, unless it is cut before it stages it again. -/
theorem Refused.spared (h : Refused key lapsed t stored) (hwf : t.WellFormed cfg)
    {event : Event R} {result : Tracker R × List (Effect R)}
    (hhandle : t.handle cfg now event = some result) {front : List (Effect R)}
    (hother : ∀ action, event = .submit action →
      computeSubmissionKey cfg.shortDigest action = key → front ≠ [] → ¬ lapsed) :
    Spares cfg key t result ∨ front = [] ∧ result.2 ≠ [] := by
  by_cases hsame : ∃ action, event = .submit action ∧
      computeSubmissionKey cfg.shortDigest action = key
  · obtain ⟨action, rfl, hkey⟩ := hsame
    obtain rfl := Option.some.inj hhandle
    rcases h.submit now hwf hkey with ⟨hlapsed, list, rest, heffects⟩ |
      ⟨-, attempts, lastError, reason, hsubmit⟩
    · right
      refine ⟨?_, by simp [heffects]⟩
      by_contra hfront
      exact hother action rfl hkey hfront hlapsed
    · left
      rw [hsubmit]
      exact .unsaved rfl (by simp [Effect.saved])
  · left
    obtain ⟨r, hlookup, hvoid, -⟩ := h.memory
    apply handle_spares hwf hhandle (hwf.idle_of_void hlookup hvoid)
    intro action hevent hkey
    exact hsame ⟨action, hevent, hkey⟩

/-- Until it is staged again, a void submission stays void, and a crash makes it stageable. -/
theorem Refused.step (h : Refused key lapsed t stored) (hlive : Live cfg t stored past)
    (hstep : (process cfg).Step (t, stored) label (t', stored'))
    (hother : Resubmits cfg key label → ¬ lapsed) :
    Refused key (lapsed ∨ label.crashed) t' stored' := by
  have hcall : ∀ {event : ℕ × Event R}, label.event = some event → ∀ action,
      event.2 = .submit action → computeSubmissionKey cfg.shortDigest action = key →
        label.effects ≠ [] → ¬ lapsed := by
    intro event hevent action haction hkey hnonempty
    exact hother ⟨event.1, action, hevent.trans (congrArg some (Prod.ext rfl haction)), hkey,
      hnonempty⟩
  cases hstep with
  | @ran event _ _ _ effects hhandle =>
      have hspared : Spares cfg key t (t', effects) :=
        (h.spared hlive.wellFormed hhandle (hcall rfl)).resolve_right fun hcut => hcut.2 hcut.1
      obtain ⟨⟨r, hlookup, hvoid, hlapsed⟩, hstore⟩ := hspared.void h (List.prefix_refl _)
      exact ⟨⟨r, hlookup, hvoid, by simpa [Label.crashed] using hlapsed⟩, hstore⟩
  | cut hhandle hfront =>
      refine VoidIn.restart ?_ (hlive.cut hhandle hfront) (.inr rfl)
      rcases h.spared hlive.wellFormed hhandle (hcall rfl) with hspared | ⟨hnone, -⟩
      · exact (hspared.void h hfront).store
      · rw [Label.effects] at hnone
        rw [hnone]
        exact h.store
  | restarted => exact h.store.restart hlive.saved (.inr rfl)

/-! ## The refusal -/

/-- What the store has of a submission that waits for its stager. -/
theorem InSync.void (h : InSync t stored) (hwf : t.WellFormed cfg)
    (htask : t.tasks id = some (.staging obj)) : VoidIn stored (t.heap obj).key := by
  have hmem := List.mem_map_of_mem (f := Journal.Entry.recover) (hwf.task_holds htask).mem_entries
  rw [← h, List.map_map] at hmem
  obtain ⟨p, hp, hentry⟩ := List.mem_map.mp hmem
  have hstatus : (t.heap obj).status = .inFlight := hwf.expected id _ htask
  have hphase : (t.heap obj).entry.phase = .reserved := by
    rw [SubmissionRecord.entry, hstatus]
    rfl
  refine ⟨p, hp, congrArg Journal.Entry.key hentry, ?_⟩
  calc
    p.entry.phase.recover = (t.heap obj).entry.phase.recover :=
      congrArg Journal.Entry.phase hentry
    _ = .void := by
      rw [hphase]
      rfl

/-- The record of a stager that rejects is void, in memory as in what is saved. -/
theorem stagingFailed_refused {e : StageError} (hwf : t.WellFormed cfg)
    (htask : t.tasks id = some (.staging obj))
    (hwf' : (t.stagingFailed cfg now id obj e).1.WellFormed cfg) :
    (∃ r, (t.stagingFailed cfg now id obj e).1.lookup (t.heap obj).key = some r ∧
      r.entry.phase = .void ∧ (r.terminalReason = some .stagingFailed ↔ cfg.isRetryable e)) ∧
    ∀ list, .save list ∈ (t.stagingFailed cfg now id obj e).2 → VoidIn list (t.heap obj).key := by
  obtain ⟨r, hr, hkey, hvoid, hreason⟩ : ∃ r ∈ (t.stagingFailed cfg now id obj e).1.list,
      r.key = (t.heap obj).key ∧ r.entry.phase = .void ∧
        (r.terminalReason = some .stagingFailed ↔ cfg.isRetryable e) := by
    have hbare : (t.heap obj).txHash = none :=
      (hwf.coherent _ (hwf.task_holds htask).mem_list).bare (hwf.expected id _ htask)
    refine ⟨_, List.mem_map.mpr ⟨_, hwf.task_holds htask, rfl⟩, ?_⟩
    simp only [Tracker.stagingFailed, Tracker.failTask, Tracker.finish, Task.obj,
      Tracker.assign_heap_self]
    refine ⟨rfl, ?_, ?_⟩
    · simp [SubmissionRecord.entry, SubmissionRecord.failedWith, SubmissionRecord.noted, phaseOf,
        hbare, truthy]
    · cases cfg.isRetryable e <;> simp [SubmissionRecord.failedWith]
  refine ⟨⟨r, ?_, hvoid, hreason⟩, ?_⟩
  · rw [← hkey]
    exact hwf'.lookup_of_mem hr
  · intro list hsave
    have hlist : list = (t.stagingFailed cfg now id obj e).1.snapshot cfg := by
      rcases List.mem_cons.mp hsave with heq | hrest
      · exact Effect.save.inj heq
      · simp at hrest
    rw [hlist]
    exact ⟨_, List.mem_map_of_mem hr, hkey, congrArg Journal.Phase.recover hvoid⟩

/-- The submission that waits for a stager is void once the stager rejects, and lapses if the
error is taken for retryable or the process crashes. -/
theorem refused_of_rejected {e : StageError} (hlive : Live cfg t stored past)
    (hsync : InSync t stored) (hstager : t.stager id = some action)
    (hstep : (process cfg).Step (t, stored) refusal (t', stored'))
    (hevent : refusal.event = some (now, .staged id (.rejected e))) :
    Refused (computeSubmissionKey cfg.shortDigest action)
      (cfg.isRetryable e ∨ refusal.crashed) t' stored' := by
  obtain ⟨obj, htask, rfl⟩ := Tracker.stager_task hstager
  have hwf := hlive.wellFormed
  have hkey : (t.heap obj).key = computeSubmissionKey cfg.shortDigest (t.heap obj).action :=
    (hwf.coherent _ (hwf.task_holds htask).mem_list).key_eq
  have hhandle : t.handle cfg now (.staged id (.rejected e)) =
      some (t.stagingFailed cfg now id obj e) := by
    rw [Tracker.handle, htask]
  have hwf' := (hlive.handle hhandle).wellFormed
  obtain ⟨hmemory, hsaves⟩ := stagingFailed_refused hwf htask hwf'
  rw [← hkey]
  generalize t.stagingFailed cfg now id obj e = result at hhandle hmemory hsaves
  have hstore : ∀ front, front <+: result.2 →
      VoidIn ((process cfg).applyAll stored front) (t.heap obj).key := fun front hfront =>
    applyAll_of_saves (P := fun list => VoidIn list (t.heap obj).key) (hsync.void hwf htask)
      fun list hsave => hsaves list (hfront.subset hsave)
  cases hstep with
  | ran hran =>
      cases hevent
      obtain rfl := Option.some.inj (hhandle.symm.trans hran)
      exact ⟨by simpa [Label.crashed] using hmemory, hstore _ (List.prefix_refl _)⟩
  | cut hcut hfront =>
      cases hevent
      obtain rfl := Option.some.inj (hhandle.symm.trans hcut)
      exact (hstore _ hfront).restart (hlive.cut hhandle hfront) (.inr rfl)
  | restarted => contradiction

/-! ## Runs -/

/-- What holds of every split of a list, by its first element. -/
theorem forall_split_cons {α : Type} {x : α} {xs : List α} {P : List α → α → Prop} :
    (∀ mid y rest, x :: xs = mid ++ y :: rest → P mid y) ↔
      P [] x ∧ ∀ mid y rest, xs = mid ++ y :: rest → P (x :: mid) y := by
  constructor
  · intro h
    exact ⟨h [] x xs rfl, fun mid y rest heq => h (x :: mid) y rest (by rw [heq, List.cons_append])⟩
  · rintro ⟨hfirst, hrest⟩ mid y rest heq
    cases mid with
    | nil =>
        obtain ⟨rfl, rfl⟩ := List.cons.inj heq
        exact hfirst
    | cons z mid =>
        obtain ⟨rfl, rfl⟩ := List.cons.inj heq
        exact hrest mid y rest rfl

/-- All later calls throw exactly if the submission has not lapsed by the time of any of them. -/
theorem Refused.run {back : List (Label (ℕ × Event R) (Effect R))}
    {w : Tracker R × List (PersistedSubmission R)} (h : Refused key lapsed t stored)
    (hlive : Live cfg t stored past) (hback : Execution (process cfg).Step (t, stored) back w) :
    (∀ label ∈ back, Resubmits cfg key label → ThrowsTerminal key label) ↔
      ∀ mid label rest, back = mid ++ label :: rest → Resubmits cfg key label →
        ¬ lapsed ∧ ∀ earlier ∈ mid, earlier.crashed = false := by
  induction back generalizing t stored past lapsed with
  | nil => simp
  | cons label back ih =>
      obtain ⟨⟨t', stored'⟩, hstep, hrest⟩ := hback.first_step
      have hfirst : Resubmits cfg key label → (ThrowsTerminal key label ↔ ¬ lapsed) :=
        h.throws_iff hlive.wellFormed hstep
      rw [List.forall_mem_cons, forall_split_cons]
      by_cases hagain : Resubmits cfg key label ∧ lapsed
      · -- the call stages again, and nothing more can make up for it
        refine iff_of_false (fun hall => ?_) (fun hall => ?_)
        · exact (hfirst hagain.1).mp (hall.1 hagain.1) hagain.2
        · exact (hall.1 hagain.1).1 hagain.2
      · have hother : Resubmits cfg key label → ¬ lapsed := fun hcall hlapsed =>
          hagain ⟨hcall, hlapsed⟩
        rw [ih (h.step hlive hstep hother) (hlive.step hstep) hrest]
        apply and_congr
        · exact ⟨fun _ hcall => ⟨hother hcall, by simp⟩, fun _ hcall =>
            (hfirst hcall).mpr (hother hcall)⟩
        · simp only [List.forall_mem_cons, not_or, Bool.not_eq_true, and_assoc]

/-- After a refusal, all later calls for the action throw exactly if the configured predicate does
not take the refusal for retryable, and the process does not crash between the two. -/
theorem refusal_final_iff {front back : List (Label (ℕ × Event R) (Effect R))}
    {w w' : Tracker R × List (PersistedSubmission R)}
    (hfront : Execution (process cfg).Step (Tracker.empty, []) front (t, stored))
    (hstager : t.stager id = some action)
    (hrefused : (process cfg).Step (t, stored) refusal w)
    (hevent : refusal.event = some (now, .staged id (.rejected (.refusal code))))
    (hback : Execution (process cfg).Step w back w') :
    (∀ label ∈ back, Resubmits cfg (computeSubmissionKey cfg.shortDigest action) label →
        ThrowsTerminal (computeSubmissionKey cfg.shortDigest action) label) ↔
      ∀ mid label rest, back = mid ++ label :: rest →
        Resubmits cfg (computeSubmissionKey cfg.shortDigest action) label →
          cfg.isRetryable (.refusal code) = false ∧
            ∀ earlier ∈ refusal :: mid, earlier.crashed = false := by
  obtain ⟨hlive, hsync⟩ := process_inSync hfront
  have hrun := (refused_of_rejected hlive hsync hstager hrefused hevent).run
    (hlive.step hrefused) hback
  simpa only [List.forall_mem_cons, not_or, Bool.not_eq_true, and_assoc] using hrun

/-! ## Order 7 -/

section Order7

variable (cfg : RelayTrackerConfig String)

/-- The claim is submitted. -/
def claimRun (now : ℕ) (w : Tracker String × List (PersistedSubmission String)) :=
  (process cfg).play [.run (now, .submit (order7 "claim"))] w

/-- The quote has expired when the stager of the claim asks for it. -/
def expiredRun :=
  (process cfg).play [.run (1, .staged 0 (.rejected (.refusal "COORDINATOR_QUOTE_EXPIRED")))]
    (claimRun cfg 0 (Tracker.empty, [])).2

/-- The process is started again. -/
def restartedRun : Tracker String × List (PersistedSubmission String) :=
  ((process cfg).recover (expiredRun cfg).2.2, (expiredRun cfg).2.2)

/-- Refusals are final in every run. -/
def RefusalsFinal : Prop :=
  ∀ {front back t stored w w' now id code action refusal},
    Execution (process cfg).Step (Tracker.empty, []) front (t, stored) →
    t.stager id = some action → (process cfg).Step (t, stored) refusal w →
    refusal.event = some (now, .staged id (.rejected (.refusal code))) →
    Execution (process cfg).Step w back w' →
    ∀ label ∈ back, Resubmits cfg (computeSubmissionKey cfg.shortDigest action) label →
      ThrowsTerminal (computeSubmissionKey cfg.shortDigest action) label

theorem claimRun_execution : Execution (process cfg).Step (Tracker.empty, [])
    (claimRun cfg 0 (Tracker.empty, [])).1 (claimRun cfg 0 (Tracker.empty, [])).2 :=
  play_execution _ _

theorem expiredRun_step : ∃ effects, (process cfg).Step (claimRun cfg 0 (Tracker.empty, [])).2
    (.ran (1, .staged 0 (.rejected (.refusal "COORDINATOR_QUOTE_EXPIRED"))) effects)
    (expiredRun cfg).2 :=
  ⟨_, .ran rfl⟩

end Order7

theorem refusal_final_order7 :
    (∃ label ∈ (claimRun strictConfig 2 (expiredRun strictConfig).2).1,
      Resubmits strictConfig (computeSubmissionKey strictConfig.shortDigest (order7 "claim")) label) ∧
    ∀ label ∈ (claimRun strictConfig 2 (expiredRun strictConfig).2).1,
      Resubmits strictConfig (computeSubmissionKey strictConfig.shortDigest (order7 "claim")) label →
        ThrowsTerminal (computeSubmissionKey strictConfig.shortDigest (order7 "claim")) label := by
  obtain ⟨effects, hexpired⟩ := expiredRun_step strictConfig
  have hreclaimed : Execution (process strictConfig).Step (expiredRun strictConfig).2
      (claimRun strictConfig 2 (expiredRun strictConfig).2).1 _ := play_execution _ _
  constructor
  · exact ⟨_, List.mem_cons_self, 2, order7 "claim", rfl, rfl, List.cons_ne_nil _ _⟩
  · refine (refusal_final_iff (claimRun_execution strictConfig) rfl hexpired rfl hreclaimed).mpr ?_
    intro mid label rest hsplit _
    have hone : (claimRun strictConfig 2 (expiredRun strictConfig).2).1.length = 1 := rfl
    rw [hsplit, List.length_append, List.length_cons] at hone
    have hnone : mid = [] := List.eq_nil_of_length_eq_zero (by omega)
    exact ⟨rfl, by simp [hnone, Label.crashed]⟩

/-- The claim is staged again in the same process by default, and after a restart whatever the
predicate. -/
theorem refused_restaged : ¬ RefusalsFinal order7Config ∧ ¬ RefusalsFinal strictConfig := by
  constructor
  · intro h
    obtain ⟨effects, hexpired⟩ := expiredRun_step order7Config
    have hreclaimed : Execution (process order7Config).Step (expiredRun order7Config).2
        (claimRun order7Config 2 (expiredRun order7Config).2).1 _ := play_execution _ _
    obtain ⟨attempts, lastError, reason, hthrows⟩ := h (claimRun_execution order7Config) rfl
      hexpired rfl hreclaimed _ List.mem_cons_self ⟨2, order7 "claim", rfl, rfl, List.cons_ne_nil _ _⟩
    simp [Label.effects] at hthrows
  · intro h
    obtain ⟨effects, hexpired⟩ := expiredRun_step strictConfig
    have hrestarted : (process strictConfig).Step (expiredRun strictConfig).2 .restarted
        (restartedRun strictConfig) := .restarted
    have hreclaimed : Execution (process strictConfig).Step (restartedRun strictConfig)
        (claimRun strictConfig 2 (restartedRun strictConfig)).1 _ := play_execution _ _
    obtain ⟨attempts, lastError, reason, hthrows⟩ := h (claimRun_execution strictConfig) rfl
      hexpired rfl (hreclaimed.cons hrestarted) _ (List.mem_cons_of_mem _ List.mem_cons_self)
      ⟨2, order7 "claim", rfl, rfl, List.cons_ne_nil _ _⟩
    simp [Label.effects] at hthrows

end OverSync.RelaySubmissionTracker
