import OverSync.Verification.RelaySubmissionTracker.Semantics

/-! # Stagers and broadcasts

An operation broadcasts the transaction of the stager that it called when it was submitted. -/

namespace OverSync.RelaySubmissionTracker

open Function

variable {R : Type} {cfg : RelayTrackerConfig R} {t t' : Tracker R} {effects : List (Effect R)}
  {now id obj : ℕ} {action : RelayAction} {f : SubmissionRecord R → SubmissionRecord R}

/-- The action whose stager an operation waits for. -/
def Tracker.stager (t : Tracker R) (id : ℕ) : Option RelayAction :=
  match t.tasks id with
  | some (.staging obj) => some (t.heap obj).action
  | _ => none

theorem Tracker.stager_eq (htask : t.tasks id = some (.staging obj)) :
    t.stager id = some (t.heap obj).action := by
  rw [Tracker.stager, htask]

theorem Tracker.stager_task (hstager : t.stager id = some action) :
    ∃ obj, t.tasks id = some (.staging obj) ∧ (t.heap obj).action = action := by
  unfold Tracker.stager at hstager
  split at hstager
  · exact ⟨_, ‹_›, Option.some.inj hstager⟩
  · contradiction

theorem Tracker.stager_lt (h : t.WellFormed cfg) (hstager : t.stager id = some action) :
    id < t.nextTask := by
  obtain ⟨obj, htask, -⟩ := Tracker.stager_task hstager
  exact h.fresh id _ htask

/-! ## Stretches without a new stager -/

/-- No operation calls a stager, and nothing is broadcast. -/
structure Calm (t : Tracker R) (result : Tracker R × List (Effect R)) : Prop where
  stager : ∀ {id action}, result.1.stager id = some action → t.stager id = some action
  silent : ∀ {id action key txHash}, .broadcast id action key txHash ∉ result.2

theorem Tracker.stager_assign (hf : ∀ r, (f r).action = r.action) :
    (t.assign obj f).stager = t.stager := by
  have haction : ∀ obj', ((t.assign obj f).heap obj').action = (t.heap obj').action := by
    intro obj'
    by_cases hobj : obj' = obj
    · rw [hobj, Tracker.assign_heap_self, hf]
    · rw [Tracker.assign_heap_of_ne hobj]
  funext id
  simp only [Tracker.stager, haction]
  rfl

theorem Tracker.stager_of_assign (h : (t.assign obj f).stager id = some action)
    (hf : ∀ r, (f r).action = r.action) : t.stager id = some action := by
  rwa [Tracker.stager_assign hf] at h

theorem Tracker.stager_finish {key : String} {id' : ℕ}
    (h : (t.finish id key).stager id' = some action) : t.stager id' = some action := by
  by_cases hid : id' = id
  · simp [Tracker.stager, Tracker.finish, hid] at h
  · simpa [Tracker.stager, Tracker.finish, hid] using h

def Task.isStaging : Task → Bool
  | .staging _ => true
  | _ => false

/-- An operation goes on to an `await` that is not for a stager. -/
theorem Tracker.stager_await {task : Task} {id' : ℕ}
    (h : (t.await id task).stager id' = some action) (htask : task.isStaging = false) :
    t.stager id' = some action := by
  by_cases hid : id' = id
  · cases task with
    | staging obj => contradiction
    | broadcasting | polling | sleeping => simp [Tracker.stager, Tracker.await, hid] at h
  · simpa [Tracker.stager, Tracker.await, hid] using h

theorem Tracker.stager_track {key : String} {task : Task} {id' : ℕ}
    (h : (t.track key task).stager id' = some action) :
    t.stager id' = some action ∨
      ∃ obj, task = .staging obj ∧ id' = t.nextTask ∧ action = (t.heap obj).action := by
  by_cases hid : id' = t.nextTask
  · cases task with
    | staging obj =>
        right
        exact ⟨obj, rfl, hid, by simpa [Tracker.stager, Tracker.track, hid] using h.symm⟩
    | broadcasting | polling | sleeping => simp [Tracker.stager, Tracker.track, hid] at h
  · left
    simpa [Tracker.stager, Tracker.track, hid] using h

theorem Calm.after {result : Tracker R × List (Effect R)} (h : Calm t' result)
    (hstager : ∀ {id action}, t'.stager id = some action → t.stager id = some action) :
    Calm t result :=
  ⟨fun hresult => hstager (h.stager hresult), h.silent⟩

theorem Calm.endReconcile {result : Tracker R × List (Effect R)}
    (h : Calm (t.endReconcile obj) result) : Calm t result :=
  h.after fun hstager => hstager

/-- A stretch that notes an error first. -/
theorem Calm.noted {result : Tracker R × List (Effect R)} {message : SubmissionRecord R → String}
    (h : Calm (t.assign obj fun r => r.noted (message r)) result) : Calm t result :=
  h.after fun hstager => Tracker.stager_of_assign hstager fun _ => rfl

theorem failTask_calm (reason : RelayTerminalReason) :
    Calm t (t.failTask cfg now id obj reason) where
  stager := by
    intro id' action h
    have hassigned := Tracker.stager_finish h
    exact Tracker.stager_of_assign hassigned fun _ => rfl
  silent := by simp [Tracker.failTask, Tracker.persist]

theorem settleSuccess_calm {result : Option R} {duplicate reconciled : Bool} :
    Calm t (t.settleSuccess cfg now id obj result duplicate reconciled) where
  stager := by
    intro id' action h
    have hassigned := Tracker.stager_finish h
    exact Tracker.stager_of_assign hassigned fun _ => rfl
  silent := by simp [Tracker.settleSuccess, Tracker.persist]

theorem poll_calm {polls : ℕ} {duplicate : Bool} : Calm t (t.poll now id obj polls duplicate) where
  stager := by
    intro id' action h
    have hassigned := Tracker.stager_await h rfl
    exact Tracker.stager_of_assign hassigned fun _ => rfl
  silent := by simp [Tracker.poll]

theorem finish_calm {key : String}
    (heffects : ∀ {id action key txHash}, .broadcast id action key txHash ∉ effects) :
    Calm t (t.finish id key, effects) :=
  ⟨Tracker.stager_finish, heffects⟩

theorem reconcile_calm {duplicate : Bool} : Calm t (t.reconcile cfg now id obj duplicate) := by
  simp only [Tracker.reconcile]
  split_ifs
  · exact finish_calm (by simp)
  · exact finish_calm (by simp)
  · exact poll_calm.after fun hstager => hstager

theorem stagingFailed_calm {e : StageError} : Calm t (t.stagingFailed cfg now id obj e) := by
  simp only [Tracker.stagingFailed]
  exact (failTask_calm _).noted

theorem missingHash_calm : Calm t (t.missingHash cfg now id obj) := by
  simp only [Tracker.missingHash]
  exact (failTask_calm _).noted

/-- A stretch that saves first. -/
theorem Calm.persist (h : Calm t (t', effects)) : Calm t (t', t.persist cfg :: effects) where
  stager := h.stager
  silent := by
    intro id action key txHash hmem
    rcases List.mem_cons.mp hmem with hsave | hrest
    · contradiction
    · exact h.silent hrest

theorem broadcastFailed_calm {message : String} :
    Calm t (t.broadcastFailed cfg now id obj message) := by
  simp only [Tracker.broadcastFailed]
  exact (Calm.persist reconcile_calm).noted

theorem unsettled_calm {polls : ℕ} {duplicate : Bool} {state : RelayConfirmationState}
    {error : Option String} :
    Calm t (t.unsettled cfg now id obj polls duplicate state error) := by
  simp only [Tracker.unsettled]
  split_ifs
  · apply Calm.noted
    exact ⟨fun hstager => Tracker.stager_await hstager rfl, by simp [Tracker.persist]⟩
  · exact (failTask_calm _).endReconcile.persist.noted
  · exact (finish_calm (by simp [Tracker.persist])).endReconcile.noted

theorem confirmed_calm {polls : ℕ} {duplicate : Bool}
    {answer : Except String (RelayConfirmation R)} :
    Calm t (t.confirmed cfg now id obj polls duplicate answer) := by
  simp only [Tracker.confirmed]
  split
  · exact settleSuccess_calm.endReconcile
  · exact (failTask_calm _).endReconcile.noted
  · exact unsettled_calm
  · exact unsettled_calm

/-! ## Stretches with a stager or a broadcast -/

variable (cfg now) in
theorem staged_stager {txHash network : Option String} {id' : ℕ}
    (h : (t.staged cfg now id obj txHash network).1.stager id' = some action) :
    t.stager id' = some action := by
  simp only [Tracker.staged] at h
  split at h
  · split_ifs at h
    · exact missingHash_calm.stager h
    · have hassigned := Tracker.stager_await h rfl
      exact Tracker.stager_of_assign hassigned fun _ => rfl
  · exact missingHash_calm.stager h

theorem staged_broadcast {txHash network : Option String} {id' : ℕ} {key hash : String}
    (h : .broadcast id' action key hash ∈ (t.staged cfg now id obj txHash network).2) :
    id' = id ∧ action = (t.heap obj).action ∧ key = (t.heap obj).key := by
  simp only [Tracker.staged] at h
  split at h
  · split_ifs at h
    · exact absurd h missingHash_calm.silent
    · simp only [Tracker.persist, List.mem_cons, reduceCtorEq, false_or, List.not_mem_nil,
        or_false, Effect.broadcast.injEq] at h
      rw [h.1, h.2.1, h.2.2.1, Tracker.assign_heap_self]
      exact ⟨rfl, rfl, rfl⟩
  · exact absurd h missingHash_calm.silent

/-- A submission may call its own stager, and broadcasts nothing. -/
structure Submits (t : Tracker R) (action : RelayAction) (result : Tracker R × List (Effect R)) :
    Prop where
  stager : ∀ {id action'}, result.1.stager id = some action' →
    t.stager id = some action' ∨ id = t.nextTask ∧ action' = action
  silent : ∀ {id action' key txHash}, .broadcast id action' key txHash ∉ result.2

theorem Calm.submits {result : Tracker R × List (Effect R)} (h : Calm t result) :
    Submits t action result :=
  ⟨fun hstager => .inl (h.stager hstager), h.silent⟩

theorem Tracker.WellFormed.stager_insert (h : t.WellFormed cfg) {r : SubmissionRecord R} :
    (t.insert r).stager = t.stager := by
  funext id
  have htasks : (t.insert r).tasks = t.tasks := rfl
  simp only [Tracker.stager, htasks]
  split
  · rename_i obj htask
    have hheap : (t.insert r).heap obj = t.heap obj := h.heap_of_insert (h.task_holds htask)
    rw [hheap]
  · rfl

variable (now) in
theorem submitNew_submits (h : t.WellFormed cfg) :
    Submits t action (t.submitNew cfg now action) := by
  simp only [Tracker.submitNew]
  split
  · exact ⟨.inl, by simp⟩
  · refine ⟨?_, by simp [Tracker.persist]⟩
    intro id action' hstager
    rcases Tracker.stager_track hstager with hbefore | ⟨obj, heq, rfl, rfl⟩
    · left
      rw [← h.stager_insert]
      exact Tracker.stager_of_assign hbefore fun _ => rfl
    · right
      cases heq
      refine ⟨rfl, ?_⟩
      rw [Tracker.assign_heap_self]
      simp [SubmissionRecord.attempted, Tracker.insert, newRecord]

variable (now) in
theorem submit_submits (h : t.WellFormed cfg) : Submits t action (t.submit cfg now action) := by
  have hsubmission := t.submit_submission cfg now action
  generalize t.submit cfg now action = result at hsubmission ⊢
  cases hsubmission with
  | fresh => exact submitNew_submits now h
  | @restaged obj hget hstatus =>
      have href := Tracker.get_eq_some hget
      have hidle := h.idle_of_failed (h.holds href) hstatus
      rw [(h.refs _ href).2] at hidle
      have hnew : Submits _ action _ := submitNew_submits now (h.delete hidle)
      refine ⟨hnew.stager, ?_⟩
      intro id action' key txHash hmem
      rcases List.mem_cons.mp hmem with hsave | hrest
      · contradiction
      · exact hnew.silent hrest
  | answered outcome => exact ⟨.inl, by simp⟩
  | joined running => exact ⟨.inl, by simp⟩
  | attached =>
      apply Calm.submits
      apply reconcile_calm.after
      intro id action' hstager
      rcases Tracker.stager_track hstager with hbefore | ⟨obj', hstaging, _⟩
      · exact hbefore
      · contradiction

/-- Only a submission calls a stager, and only the answer of a stager leads to a broadcast. -/
theorem handle_calm {event : Event R} {result : Tracker R × List (Effect R)}
    (hhandle : t.handle cfg now event = some result) :
    Calm t result ∨ (∃ action, event = .submit action ∧ t.submit cfg now action = result) ∨
      ∃ id obj txHash network, t.tasks id = some (.staging obj) ∧
        t.staged cfg now id obj txHash network = result := by
  cases Tracker.handle_stretch hhandle with
  | submit action => exact .inr (.inl ⟨action, rfl, rfl⟩)
  | staged txHash network htask => exact .inr (.inr ⟨_, _, txHash, network, htask, rfl⟩)
  | rejected e => exact .inl stagingFailed_calm
  | stagingTimeout e => exact .inl stagingFailed_calm
  | broadcasted settled => exact .inl settleSuccess_calm
  | broadcastFailed message => exact .inl broadcastFailed_calm
  | broadcastTimeout message => exact .inl broadcastFailed_calm
  | confirmed answer => exact .inl confirmed_calm
  | slept => exact .inl poll_calm

/-- Every stager was called for the action of a submission. -/
theorem handle_stager {event : Event R} (h : t.WellFormed cfg)
    (hhandle : t.handle cfg now event = some (t', effects)) (hstager : t'.stager id = some action) :
    t.stager id = some action ∨ id = t.nextTask ∧ event = .submit action := by
  rcases handle_calm hhandle with hcalm | ⟨action', rfl, hsubmit⟩ |
    ⟨id', obj, txHash, network, _, hstaged⟩
  · exact .inl (hcalm.stager hstager)
  · have hsubmits : Submits t action' (t.submit cfg now action') := submit_submits now h
    rw [hsubmit] at hsubmits
    rcases hsubmits.stager hstager with hbefore | ⟨hid, rfl⟩
    · exact .inl hbefore
    · exact .inr ⟨hid, rfl⟩
  · left
    apply staged_stager cfg now
    rw [hstaged]
    exact hstager

/-- Every broadcast is that of a stager. -/
theorem handle_broadcast {event : Event R} {key txHash : String} (h : t.WellFormed cfg)
    (hhandle : t.handle cfg now event = some (t', effects))
    (hbroadcast : .broadcast id action key txHash ∈ effects) :
    t.stager id = some action ∧ key = computeSubmissionKey cfg.shortDigest action := by
  rcases handle_calm hhandle with hcalm | ⟨action', rfl, hsubmit⟩ |
    ⟨id', obj, txHash', network, htask, hstaged⟩
  · exact absurd hbroadcast hcalm.silent
  · have hsubmits : Submits t action' (t.submit cfg now action') := submit_submits now h
    rw [hsubmit] at hsubmits
    exact absurd hbroadcast hsubmits.silent
  · have hmem : .broadcast id action key txHash ∈ (t.staged cfg now id' obj txHash' network).2 := by
      rw [hstaged]
      exact hbroadcast
    rcases staged_broadcast hmem with ⟨rfl, rfl, rfl⟩
    exact ⟨Tracker.stager_eq htask, (h.coherent _ (h.task_holds htask).mem_list).key_eq⟩

/-! ## Calls of stagers -/

/-- No stager is called, and operations keep their numbers. -/
structure Uncalled (t : Tracker R) (result : Tracker R × List (Effect R)) : Prop where
  nextTask : t.nextTask ≤ result.1.nextTask
  silent : ∀ {id action}, .stage id action ∉ result.2

theorem Uncalled.persist {saved : Tracker R} (h : Uncalled t (t', effects)) :
    Uncalled t (t', saved.persist cfg :: effects) where
  nextTask := h.nextTask
  silent := by
    intro id action hmem
    rcases List.mem_cons.mp hmem with hsave | hrest
    · contradiction
    · exact h.silent hrest

/-- A stretch that changes records first. -/
theorem Uncalled.after {result : Tracker R × List (Effect R)} (h : Uncalled t' result)
    (htasks : t'.nextTask = t.nextTask) : Uncalled t result :=
  ⟨htasks ▸ h.nextTask, h.silent⟩

theorem failTask_uncalled {reason : RelayTerminalReason} :
    Uncalled t (t.failTask cfg now id obj reason) :=
  ⟨Nat.le_refl _, by simp [Tracker.failTask, Tracker.persist]⟩

theorem settleSuccess_uncalled {result : Option R} {duplicate reconciled : Bool} :
    Uncalled t (t.settleSuccess cfg now id obj result duplicate reconciled) :=
  ⟨Nat.le_refl _, by simp [Tracker.settleSuccess, Tracker.persist]⟩

theorem poll_uncalled {polls : ℕ} {duplicate : Bool} :
    Uncalled t (t.poll now id obj polls duplicate) :=
  ⟨Nat.le_refl _, by simp [Tracker.poll]⟩

theorem reconcile_uncalled {duplicate : Bool} : Uncalled t (t.reconcile cfg now id obj duplicate) := by
  simp only [Tracker.reconcile]
  split_ifs
  · exact ⟨Nat.le_refl _, by simp⟩
  · exact ⟨Nat.le_refl _, by simp⟩
  · exact poll_uncalled.after rfl

theorem staged_uncalled {txHash network : Option String} :
    Uncalled t (t.staged cfg now id obj txHash network) := by
  have hmissing : Uncalled t (t.missingHash cfg now id obj) := failTask_uncalled.after rfl
  simp only [Tracker.staged]
  split
  · split_ifs
    · exact hmissing
    · exact ⟨Nat.le_refl _, by simp [Tracker.persist]⟩
  · exact hmissing

theorem broadcastFailed_uncalled {message : String} :
    Uncalled t (t.broadcastFailed cfg now id obj message) := by
  have hreconcile : Uncalled t
      ((t.assign obj (·.noted message)).reconcile cfg now id obj false) :=
    reconcile_uncalled.after rfl
  exact hreconcile.persist

theorem unsettled_uncalled {polls : ℕ} {duplicate : Bool} {state : RelayConfirmationState}
    {error : Option String} :
    Uncalled t (t.unsettled cfg now id obj polls duplicate state error) := by
  simp only [Tracker.unsettled]
  split_ifs
  · exact ⟨Nat.le_refl _, by simp [Tracker.persist]⟩
  · exact Uncalled.persist (failTask_uncalled.after rfl)
  · exact ⟨Nat.le_refl _, by simp [Tracker.persist]⟩

theorem confirmed_uncalled {polls : ℕ} {duplicate : Bool}
    {answer : Except String (RelayConfirmation R)} :
    Uncalled t (t.confirmed cfg now id obj polls duplicate answer) := by
  simp only [Tracker.confirmed]
  split
  · exact settleSuccess_uncalled.after rfl
  · exact failTask_uncalled.after rfl
  · exact unsettled_uncalled
  · exact unsettled_uncalled

/-- A submission calls its own stager if any. -/
structure Calls (t : Tracker R) (action : RelayAction) (result : Tracker R × List (Effect R)) :
    Prop where
  nextTask : t.nextTask ≤ result.1.nextTask
  called : ∀ {id action'}, .stage id action' ∈ result.2 →
    id = t.nextTask ∧ action' = action ∧ t.nextTask < result.1.nextTask

theorem Uncalled.calls {result : Tracker R × List (Effect R)} (h : Uncalled t result) :
    Calls t action result :=
  ⟨h.nextTask, fun hmem => absurd hmem h.silent⟩

variable (cfg t now action) in
theorem submitNew_calls : Calls t action (t.submitNew cfg now action) := by
  simp only [Tracker.submitNew]
  split
  · exact ⟨Nat.le_refl _, by simp⟩
  · refine ⟨Nat.le_succ _, ?_⟩
    intro id action' hmem
    simp only [Tracker.persist, List.mem_cons, reduceCtorEq, Effect.stage.injEq, List.not_mem_nil,
      or_false, false_or] at hmem
    exact ⟨hmem.1, hmem.2, Nat.lt_succ_self _⟩

variable (cfg t now action) in
theorem submit_calls : Calls t action (t.submit cfg now action) := by
  have hsubmission := t.submit_submission cfg now action
  generalize t.submit cfg now action = result at hsubmission ⊢
  cases hsubmission with
  | fresh => exact submitNew_calls cfg t now action
  | restaged =>
      have hnew := submitNew_calls cfg (t.delete (computeSubmissionKey cfg.shortDigest action)) now
        action
      refine ⟨hnew.nextTask, ?_⟩
      intro id action' hmem
      rcases List.mem_cons.mp hmem with hsave | hrest
      · contradiction
      · exact hnew.called hrest
  | answered outcome => exact Uncalled.calls ⟨Nat.le_refl _, by simp⟩
  | joined running => exact Uncalled.calls ⟨Nat.le_refl _, by simp⟩
  | @attached obj =>
      have hrest : Uncalled (t.track (computeSubmissionKey cfg.shortDigest action)
          (.polling obj 0 true)) ((t.track (computeSubmissionKey cfg.shortDigest action)
            (.polling obj 0 true)).reconcile cfg now t.nextTask obj true) := reconcile_uncalled
      exact Uncalled.calls ⟨Nat.le_of_succ_le hrest.nextTask, hrest.silent⟩

/-- Only a submission calls a stager. -/
theorem handle_calls {event : Event R} {result : Tracker R × List (Effect R)}
    (hhandle : t.handle cfg now event = some result) :
    Uncalled t result ∨ ∃ action, event = .submit action ∧ Calls t action result := by
  cases Tracker.handle_stretch hhandle with
  | submit action => exact .inr ⟨action, rfl, submit_calls cfg t now action⟩
  | staged txHash network => exact .inl staged_uncalled
  | rejected e => exact .inl (failTask_uncalled.after rfl)
  | stagingTimeout e => exact .inl (failTask_uncalled.after rfl)
  | broadcasted settled => exact .inl settleSuccess_uncalled
  | broadcastFailed message => exact .inl broadcastFailed_uncalled
  | broadcastTimeout message => exact .inl broadcastFailed_uncalled
  | confirmed answer => exact .inl confirmed_uncalled
  | slept => exact .inl poll_uncalled

end OverSync.RelaySubmissionTracker
