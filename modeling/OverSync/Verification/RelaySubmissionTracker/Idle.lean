import OverSync.Verification.RelaySubmissionTracker.Broadcast

/-! # Operations leave nothing behind

Once no operation runs, nothing is reconciled and no record waits for its stager. -/

namespace OverSync.RelaySubmissionTracker

open Function Library Machine

variable {R : Type} {cfg : RelayTrackerConfig R} {t t' : Tracker R} {now id obj : ℕ} {task : Task}
  {effects : List (Effect R)} {stored : List (PersistedSubmission R)}

/-! ## Driven keys -/

/-- Operations between the first poll and the end of `reconcile`. -/
def Task.polls : Task → Bool
  | .polling .. | .sleeping .. => true
  | .staging _ | .broadcasting _ => false

/-- An operation is running under every key that is reconciled or waits for its stager. -/
structure Tracker.Driven (t : Tracker R) : Prop where
  reconciling : ∀ key, t.reconciling key = true → ∃ id task, t.tasks id = some task ∧
    task.polls ∧ (t.heap task.obj).key = key
  staging : ∀ r ∈ t.list, r.status = .inFlight → ∃ id, t.inflight r.key = some id

/-- An operation changes its own object and what belongs to its key. -/
structure Tracker.Moves (t t' : Tracker R) (id obj : ℕ) : Prop where
  records : t'.records = t.records
  heap : ∀ o, o ≠ obj → t'.heap o = t.heap o
  key : (t'.heap obj).key = (t.heap obj).key
  tasks : ∀ id', id' ≠ id → t'.tasks id' = t.tasks id'
  inflight : ∀ key, key ≠ (t.heap obj).key → t'.inflight key = t.inflight key
  reconciling : ∀ key, key ≠ (t.heap obj).key → t'.reconciling key = t.reconciling key

theorem Tracker.Moves.heap_key (h : t.Moves t' id obj) (o : ℕ) :
    (t'.heap o).key = (t.heap o).key := by
  by_cases ho : o = obj
  · rw [ho, h.key]
  · rw [h.heap o ho]

/-- The other keys are driven as before. -/
theorem Tracker.Driven.moves (h : t.Driven) (hwf : t.WellFormed cfg)
    (htask : t.tasks id = some task) (hmoves : t.Moves t' id task.obj)
    (hpolls : t'.reconciling (t.heap task.obj).key = true →
      ∃ task', t'.tasks id = some task' ∧ task'.polls ∧ task'.obj = task.obj)
    (hstatus : (t'.heap task.obj).status ≠ .inFlight) : t'.Driven where
  reconciling := by
    intro key hkey
    by_cases hown : key = (t.heap task.obj).key
    · subst hown
      obtain ⟨task', htask', hpolls', hobj⟩ := hpolls hkey
      exact ⟨id, task', htask', hpolls', by rw [hobj, hmoves.key]⟩
    · rw [hmoves.reconciling key hown] at hkey
      obtain ⟨id', task', htask', hpolls', hkey'⟩ := h.reconciling key hkey
      have hid : id' ≠ id := by
        rintro rfl
        rw [htask, Option.some.injEq] at htask'
        subst htask'
        exact hown hkey'.symm
      exact ⟨id', task', by rw [hmoves.tasks id' hid, htask'], hpolls',
        by rw [hmoves.heap_key, hkey']⟩
  staging := by
    intro r hr hinFlight
    obtain ⟨ref, href, rfl⟩ := List.mem_map.mp hr
    rw [hmoves.records] at href
    have hobj : ref.2 ≠ task.obj := by
      intro heq
      rw [heq] at hinFlight
      exact hstatus hinFlight
    have hkey : (t.heap ref.2).key ≠ (t.heap task.obj).key := by
      intro heq
      have hholds := hwf.holds href
      have hrefs := hwf.ref_unique hholds (hwf.task_holds htask) heq
      exact hobj (congrArg Prod.snd hrefs)
    rw [hmoves.heap _ hobj] at hinFlight ⊢
    rw [hmoves.inflight _ hkey]
    exact h.staging _ (hwf.holds href).mem_list hinFlight

/-- A key is reconciled by the operation that runs under it, which polls. -/
theorem Tracker.Driven.unreconciled (h : t.Driven) (hwf : t.WellFormed cfg)
    (htask : t.tasks id = some task) (hpolls : task.polls = false) :
    t.reconciling (t.heap task.obj).key = false := by
  rw [Bool.eq_false_iff]
  intro hreconciling
  obtain ⟨id', task', htask', hpolls', hkey⟩ := h.reconciling _ hreconciling
  obtain rfl := hwf.task_unique htask' htask hkey
  rw [htask, Option.some.injEq] at htask'
  subst htask'
  rw [hpolls] at hpolls'
  contradiction

/-! ## Stretches of an operation -/

theorem Tracker.Moves.refl : t.Moves t id obj :=
  ⟨rfl, fun _ _ => rfl, rfl, fun _ _ => rfl, fun _ _ => rfl, fun _ _ => rfl⟩

theorem Tracker.Moves.assign {f : SubmissionRecord R → SubmissionRecord R} (h : t.Moves t' id obj)
    (hkey : ∀ r, (f r).key = r.key) : t.Moves (t'.assign obj f) id obj where
  records := h.records
  heap := by
    intro o ho
    rw [Tracker.assign_heap_of_ne ho, h.heap o ho]
  key := by rw [Tracker.assign_heap_self, hkey, h.key]
  tasks := h.tasks
  inflight := h.inflight
  reconciling := h.reconciling

theorem Tracker.Moves.await (h : t.Moves t' id obj) (task : Task) :
    t.Moves (t'.await id task) id obj where
  records := h.records
  heap := h.heap
  key := h.key
  tasks := by
    intro id' hid
    rw [← h.tasks id' hid]
    exact update_of_ne hid ..
  inflight := h.inflight
  reconciling := h.reconciling

theorem Tracker.Moves.finish (h : t.Moves t' id obj) :
    t.Moves (t'.finish id (t'.heap obj).key) id obj where
  records := h.records
  heap := h.heap
  key := h.key
  tasks := by
    intro id' hid
    rw [← h.tasks id' hid]
    exact update_of_ne hid ..
  inflight := by
    intro key hkey
    rw [← h.inflight key hkey]
    simp only [Tracker.finish]
    split_ifs
    · rw [← h.key] at hkey
      exact update_of_ne hkey ..
    · rfl
  reconciling := h.reconciling

theorem Tracker.Moves.reconciles (h : t.Moves t' id obj) (value : Bool) :
    t.Moves { t' with reconciling := update t'.reconciling (t'.heap obj).key value } id obj where
  records := h.records
  heap := h.heap
  key := h.key
  tasks := h.tasks
  inflight := h.inflight
  reconciling := by
    intro key hkey
    rw [← h.reconciling key hkey]
    rw [← h.key] at hkey
    exact update_of_ne hkey ..

theorem Tracker.Moves.endReconcile (h : t.Moves t' id obj) :
    t.Moves (t'.endReconcile obj) id obj :=
  h.reconciles false

theorem Tracker.endReconcile_reconciling :
    (t.endReconcile obj).reconciling (t.heap obj).key = false :=
  update_self ..

section Operations

variable (hdriven : t.Driven) (hwf : t.WellFormed cfg) (htask : t.tasks id = some task)
  (hmoves : t.Moves t' id task.obj)

include hdriven hwf htask hmoves

/-- An operation that settles. -/
theorem Tracker.Driven.finish (hreconciling : t'.reconciling (t'.heap task.obj).key = false)
    (hstatus : (t'.heap task.obj).status ≠ .inFlight) :
    (t'.finish id (t'.heap task.obj).key).Driven := by
  refine hdriven.moves hwf htask hmoves.finish (fun hpolls => ?_) hstatus
  rw [← hmoves.key] at hpolls
  rw [show t'.reconciling (t'.heap task.obj).key = true from hpolls] at hreconciling
  contradiction

theorem failTask_driven {reason : RelayTerminalReason}
    (hreconciling : t'.reconciling (t'.heap task.obj).key = false) :
    (t'.failTask cfg now id task.obj reason).1.Driven := by
  have hassigned : t.Moves (t'.assign task.obj (·.failedWith now reason)) id task.obj :=
    hmoves.assign fun _ => rfl
  refine hdriven.finish hwf htask hassigned ?_ ?_
  · rw [Tracker.assign_heap_self]
    exact hreconciling
  · rw [Tracker.assign_heap_self]
    nofun

theorem settleSuccess_driven {result : Option R} {duplicate reconciled : Bool}
    (hreconciling : t'.reconciling (t'.heap task.obj).key = false) :
    (t'.settleSuccess cfg now id task.obj result duplicate reconciled).1.Driven := by
  have hassigned : t.Moves (t'.assign task.obj (·.succeededWith now result)) id task.obj :=
    hmoves.assign fun _ => rfl
  refine hdriven.finish hwf htask hassigned ?_ ?_
  · rw [Tracker.assign_heap_self]
    exact hreconciling
  · rw [Tracker.assign_heap_self]
    nofun

/-- An operation that goes on polling. -/
theorem Tracker.Driven.await {next : Task} (hpolls : next.polls) (hobj : next.obj = task.obj)
    (hstatus : (t'.heap task.obj).status ≠ .inFlight) : (t'.await id next).Driven :=
  hdriven.moves hwf htask (hmoves.await next)
    (fun _ => ⟨next, update_self .., hpolls, hobj⟩) hstatus

theorem poll_driven {polls : ℕ} {duplicate : Bool}
    (hstatus : (t'.heap task.obj).status ≠ .inFlight) :
    (t'.poll now id task.obj polls duplicate).1.Driven := by
  have hassigned : t.Moves (t'.assign task.obj (·.attempted now)) id task.obj :=
    hmoves.assign fun _ => rfl
  refine hdriven.await hwf htask hassigned rfl rfl ?_
  rw [Tracker.assign_heap_self]
  exact hstatus

theorem reconcile_driven {duplicate : Bool}
    (hreconciling : t'.reconciling (t'.heap task.obj).key = false)
    (hstatus : (t'.heap task.obj).status ≠ .inFlight) :
    (t'.reconcile cfg now id task.obj duplicate).1.Driven := by
  simp only [Tracker.reconcile, hreconciling, Bool.false_eq_true, if_false]
  split_ifs
  · exact hdriven.finish hwf htask hmoves hreconciling hstatus
  · exact poll_driven hdriven hwf htask (hmoves.reconciles true) hstatus

theorem unsettled_driven {polls : ℕ} {duplicate : Bool} {state : RelayConfirmationState}
    {error : Option String} (hstatus : (t'.heap task.obj).status ≠ .inFlight) :
    (t'.unsettled cfg now id task.obj polls duplicate state error).1.Driven := by
  have hassigned : t.Moves (t'.assign task.obj
      fun record => record.noted (record.pollError state error)) id task.obj :=
    hmoves.assign fun _ => rfl
  have hkept : ((t'.assign task.obj fun record => record.noted
      (record.pollError state error)).heap task.obj).status ≠ .inFlight := by
    rw [Tracker.assign_heap_self]
    exact hstatus
  simp only [Tracker.unsettled]
  split_ifs
  · exact hdriven.await hwf htask hassigned rfl rfl hkept
  · exact failTask_driven hdriven hwf htask hassigned.endReconcile
      Tracker.endReconcile_reconciling
  · exact hdriven.finish hwf htask hassigned.endReconcile Tracker.endReconcile_reconciling hkept

theorem confirmed_driven {polls : ℕ} {duplicate : Bool}
    {answer : Except String (RelayConfirmation R)}
    (hstatus : (t'.heap task.obj).status ≠ .inFlight) :
    (t'.confirmed cfg now id task.obj polls duplicate answer).1.Driven := by
  simp only [Tracker.confirmed]
  cases (confirmationOf answer).state with
  | succeeded =>
      exact settleSuccess_driven hdriven hwf htask hmoves.endReconcile
        Tracker.endReconcile_reconciling
  | failed =>
      have hassigned : t.Moves (t'.assign task.obj (·.noted
          ((confirmationOf answer).error.getD "transaction failed on chain"))) id task.obj :=
        hmoves.assign fun _ => rfl
      exact failTask_driven hdriven hwf htask hassigned.endReconcile
        Tracker.endReconcile_reconciling
  | pending => exact unsettled_driven hdriven hwf htask hmoves hstatus
  | notFound => exact unsettled_driven hdriven hwf htask hmoves hstatus

end Operations

/-! ## Stretches of code -/

theorem Tracker.Driven.unreconciled_assign (h : t.Driven) (hwf : t.WellFormed cfg)
    (htask : t.tasks id = some task) (hpolls : task.polls = false)
    {f : SubmissionRecord R → SubmissionRecord R} (hkey : ∀ r, (f r).key = r.key) :
    (t.assign task.obj f).reconciling ((t.assign task.obj f).heap task.obj).key = false := by
  rw [Tracker.assign_key (hkey _)]
  exact h.unreconciled hwf htask hpolls

theorem stagingFailed_driven (h : t.Driven) (hwf : t.WellFormed cfg)
    (htask : t.tasks id = some (.staging obj)) (e : StageError) :
    (t.stagingFailed cfg now id obj e).1.Driven := by
  have hassigned : t.Moves (t.assign obj (·.noted e.message)) id obj :=
    Tracker.Moves.refl.assign fun _ => rfl
  exact failTask_driven h hwf htask hassigned
    (h.unreconciled_assign hwf htask rfl fun _ => rfl)

theorem missingHash_driven (h : t.Driven) (hwf : t.WellFormed cfg)
    (htask : t.tasks id = some (.staging obj)) : (t.missingHash cfg now id obj).1.Driven := by
  have hassigned : t.Moves (t.assign obj
      (·.noted "stager did not provide a transaction hash before broadcast")) id obj :=
    Tracker.Moves.refl.assign fun _ => rfl
  exact failTask_driven h hwf htask hassigned
    (h.unreconciled_assign hwf htask rfl fun _ => rfl)

theorem staged_driven (h : t.Driven) (hwf : t.WellFormed cfg)
    (htask : t.tasks id = some (.staging obj)) (txHash network : Option String) :
    (t.staged cfg now id obj txHash network).1.Driven := by
  cases txHash with
  | none => exact missingHash_driven h hwf htask
  | some hash =>
      simp only [Tracker.staged]
      split_ifs
      · exact missingHash_driven h hwf htask
      · have hassigned : t.Moves (t.assign obj (·.stagedWith hash network)) id obj :=
          Tracker.Moves.refl.assign fun _ => rfl
        refine h.moves hwf htask (hassigned.await (.broadcasting obj)) (fun hreconciling => ?_) ?_
        · have hfalse := h.unreconciled hwf htask rfl
          rw [show t.reconciling _ = true from hreconciling] at hfalse
          contradiction
        · simp [Tracker.await, Tracker.assign, Task.obj, SubmissionRecord.stagedWith]

theorem broadcastFailed_driven (h : t.Driven) (hwf : t.WellFormed cfg)
    (htask : t.tasks id = some (.broadcasting obj)) (message : String) :
    (t.broadcastFailed cfg now id obj message).1.Driven := by
  have hassigned : t.Moves (t.assign obj (·.noted message)) id obj :=
    Tracker.Moves.refl.assign fun _ => rfl
  have hpending : (t.heap obj).status = .pending := hwf.pending htask rfl
  exact reconcile_driven h hwf htask hassigned
    (h.unreconciled_assign hwf htask rfl fun _ => rfl)
    (by simp [Task.obj, SubmissionRecord.noted, hpending])

theorem delete_driven {key : String} (h : t.Driven) : (t.delete key).Driven where
  reconciling := h.reconciling
  staging := by
    intro r hr
    obtain ⟨ref, href, rfl⟩ := List.mem_map.mp hr
    exact h.staging _ (List.mem_map_of_mem (List.mem_of_mem_filter href))

theorem track_driven {key : String} (h : t.Driven) (hwf : t.WellFormed cfg) :
    (t.track key task).Driven where
  reconciling := by
    intro key' hkey
    obtain ⟨id, task', htask, hpolls, hkey'⟩ := h.reconciling key' hkey
    refine ⟨id, task', ?_, hpolls, hkey'⟩
    rw [← htask]
    exact update_of_ne (Nat.ne_of_lt (hwf.fresh id task' htask)) ..
  staging := by
    intro r hr hstatus
    obtain ⟨id, hid⟩ := h.staging r hr hstatus
    by_cases hkey : r.key = key
    · exact ⟨t.nextTask, by rw [hkey]; exact update_self ..⟩
    · exact ⟨id, (update_of_ne hkey ..).trans hid⟩

/-- A new submission: its own record is staged by the new operation. -/
theorem submitNew_driven (h : t.Driven) (hwf : t.WellFormed cfg) (action : RelayAction) :
    (t.submitNew cfg now action).1.Driven := by
  simp only [Tracker.submitNew]
  cases t.getBlockingRecord cfg action with
  | some blocking => exact h
  | none =>
      let record := newRecord cfg now action
      let t₁ := (t.insert record).assign t.nextObj (·.attempted now)
      have hheap : ∀ ref ∈ t.records, t₁.heap ref.2 = t.heap ref.2 := by
        intro ref href
        have hlt := (hwf.refs ref href).1
        rw [Tracker.assign_heap_of_ne (Nat.ne_of_lt hlt), hwf.heap_of_insert href]
      have hlist : t₁.list = t.list ++ [record.attempted now] := by
        have hold : t.records.map (fun ref => t₁.heap ref.2) = t.list :=
          List.map_congr_left hheap
        simp [Tracker.list, t₁, Tracker.assign, Tracker.insert] at hold ⊢
        exact hold
      constructor
      · intro key hkey
        obtain ⟨id, task, htask, hpolls, hkey⟩ := h.reconciling key hkey
        refine ⟨id, task, ?_, hpolls, ?_⟩
        · rw [← htask]
          exact update_of_ne (Nat.ne_of_lt (hwf.fresh id task htask)) ..
        · rw [← hkey]
          exact congrArg SubmissionRecord.key (hheap _ (hwf.task_holds htask))
      · intro r hr hstatus
        by_cases hkey : r.key = record.key
        · exact ⟨t.nextTask, by rw [hkey]; exact update_self ..⟩
        · rw [show (t₁.track record.key (.staging t.nextObj)).list = _ from hlist] at hr
          rcases List.mem_append.mp hr with hold | hnew
          · obtain ⟨id, hid⟩ := h.staging r hold hstatus
            exact ⟨id, (update_of_ne hkey ..).trans hid⟩
          · rw [List.mem_singleton.mp hnew] at hkey
            exact absurd rfl hkey

theorem submit_driven (h : t.Driven) (hwf : t.WellFormed cfg) (action : RelayAction) :
    (t.submit cfg now action).1.Driven := by
  have hsubmission := t.submit_submission cfg now action
  generalize t.submit cfg now action = result at hsubmission ⊢
  cases hsubmission with
  | fresh => exact submitNew_driven h hwf action
  | @restaged obj hget hstatus =>
      have hmem := Tracker.get_eq_some hget
      have hidle := hwf.idle_of_failed (hwf.holds hmem) hstatus
      rw [(hwf.refs _ hmem).2] at hidle
      exact submitNew_driven (delete_driven h) (hwf.delete hidle) action
  | answered outcome => exact h
  | joined running => exact h
  | @attached obj hget hstatus hinflight =>
      have hmem := Tracker.get_eq_some hget
      have hkey : (t.heap obj).key = computeSubmissionKey cfg.shortDigest action :=
        (hwf.refs _ hmem).2
      have hreconciling : t.reconciling (t.heap obj).key = false := by
        rw [Bool.eq_false_iff]
        intro htrue
        obtain ⟨id, task, htask, -, hsame⟩ := h.reconciling _ htrue
        have hrunning := (hwf.running id task htask).2
        rw [hsame, hkey, hinflight] at hrunning
        contradiction
      have htracked := hwf.attach hkey (hwf.holds hmem) hstatus hinflight
      exact reconcile_driven (track_driven h hwf) htracked (update_self ..) .refl
        hreconciling (by simp [Tracker.track, Task.obj, hstatus])

theorem handle_driven {event : Event R} {result : Tracker R × List (Effect R)} (h : t.Driven)
    (hwf : t.WellFormed cfg) (hhandle : t.handle cfg now event = some result) :
    result.1.Driven := by
  have hpending : ∀ {id task}, t.tasks id = some task → task.Expects .pending →
      (t.heap task.obj).status ≠ .inFlight := by
    intro id task htask hexpects
    rw [hwf.pending htask hexpects]
    nofun
  cases Tracker.handle_stretch hhandle with
  | submit action => exact submit_driven h hwf action
  | staged txHash network htask => exact staged_driven h hwf htask txHash network
  | rejected e htask => exact stagingFailed_driven h hwf htask e
  | stagingTimeout e htask => exact stagingFailed_driven h hwf htask e
  | broadcasted settled htask =>
      exact settleSuccess_driven h hwf htask .refl (h.unreconciled hwf htask rfl)
  | broadcastFailed message htask => exact broadcastFailed_driven h hwf htask message
  | broadcastTimeout message htask => exact broadcastFailed_driven h hwf htask message
  | confirmed answer htask => exact confirmed_driven h hwf htask .refl (hpending htask rfl)
  | slept htask => exact poll_driven h hwf htask .refl (hpending htask rfl)

/-! ## Runs -/

theorem Tracker.set_operations {r : SubmissionRecord R} :
    (t.set r).inflight = t.inflight ∧ (t.set r).reconciling = t.reconciling := by
  simp only [Tracker.set]
  split_ifs
  · exact ⟨rfl, rfl⟩
  · exact ⟨rfl, rfl⟩

/-- Restoring starts no operation. -/
theorem restore_operations (loaded : List (PersistedSubmission R)) :
    (t.restore cfg loaded).inflight = t.inflight ∧
      (t.restore cfg loaded).reconciling = t.reconciling := by
  induction loaded generalizing t with
  | nil => exact ⟨rfl, rfl⟩
  | cons p loaded ih =>
      simp only [Tracker.restore, List.foldl_cons] at ih ⊢
      split_ifs
      · exact ih
      · have hset := t.set_operations (r := restoredRecord cfg p)
        have hrest := ih (t := t.set (restoredRecord cfg p))
        exact ⟨hrest.1.trans hset.1, hrest.2.trans hset.2⟩

theorem restoredRecord_status_ne {p : PersistedSubmission R} :
    (restoredRecord cfg p).status ≠ .inFlight := by
  simp only [restoredRecord, normalizePersistedStatus]
  cases p.status with
  | pending =>
      simp only
      split_ifs <;> simp
  | inFlight | succeeded | failed => simp

theorem restore_driven {loaded : List (PersistedSubmission R)}
    (hlist : (Tracker.empty.restore cfg loaded).list = loaded.map (restoredRecord cfg)) :
    (Tracker.empty.restore cfg loaded).Driven where
  reconciling := by
    intro key hkey
    rw [(restore_operations loaded).2] at hkey
    contradiction
  staging := by
    intro r hr hstatus
    rw [hlist] at hr
    obtain ⟨p, -, rfl⟩ := List.mem_map.mp hr
    exact absurd hstatus restoredRecord_status_ne

theorem Saved.driven {past : List (Effect R)} (h : Saved cfg stored past) :
    (Tracker.empty.restore cfg stored).Driven := by
  obtain ⟨j, hsends, hstored⟩ := h
  have hrestored := restore_spec stored Tracker.WellFormed.empty hstored.coherent
    (hstored.keys ▸ hsends.invariant.saved.nodup) (by simp [Tracker.empty])
  exact restore_driven hrestored.2

/-- Whatever is reconciled or waits for its stager has an operation, over all runs. -/
theorem process_driven {labels : List (Machine.Label (ℕ × Event R) (Effect R))}
    (h : Execution (process cfg).Step (Tracker.empty, []) labels (t, stored)) :
    Live cfg t stored (issued labels) ∧ t.Driven := by
  apply Machine.invariant (fun t stored past => Live cfg t stored past ∧ t.Driven) (Saved cfg) h
  · exact ⟨Live.start, ⟨nofun, by simp [Tracker.empty, Tracker.list]⟩⟩
  · exact fun hlive => hlive.1.saved
  · exact fun hsaved => ⟨hsaved.recover, hsaved.driven⟩
  · intro event t stored past t' effects hlive hhandle
    exact ⟨hlive.1.handle hhandle, handle_driven hlive.2 hlive.1.wellFormed hhandle⟩
  · exact fun hlive hhandle hfront => hlive.1.cut hhandle hfront

/-! ## Idle trackers -/

/-- No submission is running. -/
def Tracker.Idle (t : Tracker R) : Prop := ∀ key, t.inflight key = none

theorem Tracker.Driven.unreconciled_of_idle (h : t.Driven) (hwf : t.WellFormed cfg)
    (hidle : t.Idle) (key : String) : t.reconciling key = false := by
  rw [Bool.eq_false_iff]
  intro htrue
  obtain ⟨id, task, htask, -, -⟩ := h.reconciling key htrue
  have hrunning := (hwf.running id task htask).2
  rw [hidle] at hrunning
  contradiction

theorem Tracker.Driven.status_ne_of_idle (h : t.Driven) (hidle : t.Idle) :
    ∀ r ∈ t.list, r.status ≠ .inFlight := by
  intro r hr hstatus
  obtain ⟨id, hid⟩ := h.staging r hr hstatus
  rw [hidle] at hid
  contradiction

end OverSync.RelaySubmissionTracker
