import OverSync.Verification.RelaySubmissionTracker.Broadcast
import OverSync.Verification.RelaySubmissionTracker.Saves

/-! # Results

A record has a result only once it has succeeded, in memory as in the store. -/

namespace OverSync.RelaySubmissionTracker

open Function Library Machine

variable {R : Type} {cfg : RelayTrackerConfig R} {t t' : Tracker R} {now id obj : ℕ} {task : Task}
  {effects : List (Effect R)} {stored : List (PersistedSubmission R)}
  {f : SubmissionRecord R → SubmissionRecord R}

/-! ## Records without a result -/

def SubmissionRecord.ResultSound (r : SubmissionRecord R) : Prop :=
  r.status ≠ .succeeded → r.result = none

def PersistedSubmission.ResultSound (p : PersistedSubmission R) : Prop :=
  p.status ≠ .succeeded → p.result = none

def Tracker.ResultsSound (t : Tracker R) : Prop := ∀ o, (t.heap o).ResultSound

theorem SubmissionRecord.ResultSound.persisted {r : SubmissionRecord R} (h : r.ResultSound) :
    (toPersistedSubmission cfg r).ResultSound := by
  intro hstatus
  simp [toPersistedSubmission, h hstatus]

theorem PersistedSubmission.ResultSound.restored {p : PersistedSubmission R}
    (h : p.ResultSound) : (restoredRecord cfg p).ResultSound := by
  intro hstatus
  apply h
  intro hsucceeded
  simp [restoredRecord, normalizePersistedStatus, hsucceeded] at hstatus

theorem Tracker.ResultsSound.assign (h : t.ResultsSound) (hf : (f (t.heap obj)).ResultSound) :
    (t.assign obj f).ResultsSound := by
  intro o
  by_cases ho : o = obj
  · rw [ho, Tracker.assign_heap_self]
    exact hf
  · rw [Tracker.assign_heap_of_ne ho]
    exact h o

theorem Tracker.ResultsSound.insert (h : t.ResultsSound) {r : SubmissionRecord R}
    (hr : r.ResultSound) : (t.insert r).ResultsSound := by
  intro o
  by_cases ho : o = t.nextObj
  · rw [ho, show (t.insert r).heap t.nextObj = r from update_self ..]
    exact hr
  · rw [show (t.insert r).heap o = t.heap o from update_of_ne ho ..]
    exact h o

theorem Tracker.ResultsSound.restore (h : t.ResultsSound) {loaded : List (PersistedSubmission R)}
    (hloaded : ∀ p ∈ loaded, p.ResultSound) : (t.restore cfg loaded).ResultsSound := by
  induction loaded generalizing t with
  | nil => exact h
  | cons p loaded ih =>
      have hrest : ∀ q ∈ loaded, q.ResultSound := fun q hq => hloaded q (List.mem_cons_of_mem _ hq)
      have hp : (restoredRecord cfg p).ResultSound := (hloaded p List.mem_cons_self).restored
      simp only [Tracker.restore, List.foldl_cons] at ih ⊢
      split_ifs
      · exact ih h hrest
      · refine ih ?_ hrest
        simp only [Tracker.set]
        split_ifs
        · exact h.insert hp
        · exact h.insert hp

/-! ## Stretches of code -/

/-- The records and whatever is saved have results on success only. -/
def Keeps (result : Tracker R × List (Effect R)) : Prop :=
  result.1.ResultsSound ∧ ∀ effect ∈ result.2, ∀ list, effect.saved = some list →
    ∀ p ∈ list, p.ResultSound

theorem Keeps.unsaved {effect : Effect R} (h : t.ResultsSound) (hnone : effect.saved = none) :
    Keeps (t, [effect]) := by
  refine ⟨h, fun other hother list hlist => ?_⟩
  rw [List.mem_singleton.mp hother, hnone] at hlist
  contradiction

theorem Keeps.persist (h : t.ResultsSound) (hrest : Keeps (t', effects)) :
    Keeps (t', t.persist cfg :: effects) := by
  refine ⟨hrest.1, fun effect heffect list hlist => ?_⟩
  rcases List.mem_cons.mp heffect with rfl | hin
  · obtain rfl := Option.some.inj hlist
    intro p hp
    obtain ⟨r, hr, rfl⟩ := List.mem_map.mp hp
    obtain ⟨ref, -, rfl⟩ := List.mem_map.mp hr
    exact (h ref.2).persisted
  · exact hrest.2 effect hin list hlist

theorem failTask_keeps {reason : RelayTerminalReason} (h : t.ResultsSound)
    (hobj : (t.heap obj).result = none) : Keeps (t.failTask cfg now id obj reason) := by
  have hassigned : (t.assign obj (·.failedWith now reason)).ResultsSound :=
    h.assign fun _ => hobj
  exact .persist hassigned (.unsaved hassigned rfl)

theorem settleSuccess_keeps {result : Option R} {duplicate reconciled : Bool}
    (h : t.ResultsSound) : Keeps (t.settleSuccess cfg now id obj result duplicate reconciled) := by
  have hassigned : (t.assign obj (·.succeededWith now result)).ResultsSound :=
    h.assign fun hstatus => absurd rfl hstatus
  exact .persist hassigned (.unsaved hassigned rfl)

theorem poll_keeps {polls : ℕ} {duplicate : Bool} (h : t.ResultsSound) :
    Keeps (t.poll now id obj polls duplicate) :=
  .unsaved (h.assign (f := (·.attempted now)) (h obj)) rfl

theorem reconcile_keeps {duplicate : Bool} (h : t.ResultsSound) :
    Keeps (t.reconcile cfg now id obj duplicate) := by
  simp only [Tracker.reconcile]
  split_ifs
  · exact .unsaved h rfl
  · exact .unsaved h rfl
  · exact poll_keeps h

theorem submitNew_keeps {action : RelayAction} (h : t.ResultsSound) :
    Keeps (t.submitNew cfg now action) := by
  simp only [Tracker.submitNew]
  cases t.getBlockingRecord cfg action with
  | some blocking => exact .unsaved h rfl
  | none =>
      have hinserted : (t.insert (newRecord cfg now action)).ResultsSound :=
        h.insert fun _ => rfl
      have hattempted : ((t.insert (newRecord cfg now action)).assign t.nextObj
          (·.attempted now)).ResultsSound := hinserted.assign (hinserted t.nextObj)
      exact .persist hinserted (.unsaved hattempted rfl)

theorem submit_keeps {action : RelayAction} (h : t.ResultsSound) :
    Keeps (t.submit cfg now action) := by
  have hsubmission := t.submit_submission cfg now action
  generalize t.submit cfg now action = result at hsubmission ⊢
  cases hsubmission with
  | fresh => exact submitNew_keeps h
  | restaged =>
      have hdeleted : (t.delete (computeSubmissionKey cfg.shortDigest action)).ResultsSound := h
      exact .persist hdeleted (submitNew_keeps hdeleted)
  | answered outcome => exact .unsaved h rfl
  | joined running => exact .unsaved h rfl
  | attached => exact reconcile_keeps h

theorem stagingFailed_keeps {e : StageError} (h : t.ResultsSound)
    (hobj : (t.heap obj).result = none) : Keeps (t.stagingFailed cfg now id obj e) := by
  have hassigned : (t.assign obj (·.noted e.message)).ResultsSound := h.assign (h obj)
  refine failTask_keeps hassigned ?_
  rw [Tracker.assign_heap_self]
  exact hobj

theorem missingHash_keeps (h : t.ResultsSound) (hobj : (t.heap obj).result = none) :
    Keeps (t.missingHash cfg now id obj) := by
  have hassigned : (t.assign obj
      (·.noted "stager did not provide a transaction hash before broadcast")).ResultsSound :=
    h.assign (h obj)
  refine failTask_keeps hassigned ?_
  rw [Tracker.assign_heap_self]
  exact hobj

theorem staged_keeps {txHash network : Option String} (h : t.ResultsSound)
    (hobj : (t.heap obj).result = none) : Keeps (t.staged cfg now id obj txHash network) := by
  cases txHash with
  | none => exact missingHash_keeps h hobj
  | some hash =>
      simp only [Tracker.staged]
      split_ifs
      · exact missingHash_keeps h hobj
      · have hassigned : (t.assign obj (·.stagedWith hash network)).ResultsSound :=
          h.assign fun _ => hobj
        exact .persist hassigned (.unsaved hassigned rfl)

theorem broadcastFailed_keeps {message : String} (h : t.ResultsSound) :
    Keeps (t.broadcastFailed cfg now id obj message) := by
  have hassigned : (t.assign obj (·.noted message)).ResultsSound := h.assign (h obj)
  exact .persist hassigned (reconcile_keeps hassigned)

theorem unsettled_keeps {polls : ℕ} {duplicate : Bool} {state : RelayConfirmationState}
    {error : Option String} (h : t.ResultsSound) (hobj : (t.heap obj).result = none) :
    Keeps (t.unsettled cfg now id obj polls duplicate state error) := by
  have hassigned : (t.assign obj fun record => record.noted
      (record.pollError state error)).ResultsSound := h.assign (h obj)
  have hkept : ((t.assign obj fun record => record.noted
      (record.pollError state error)).heap obj).result = none := by
    rw [Tracker.assign_heap_self]
    exact hobj
  simp only [Tracker.unsettled]
  split_ifs
  · exact .persist hassigned (.unsaved hassigned rfl)
  · exact .persist hassigned (failTask_keeps hassigned hkept)
  · exact .persist hassigned (.persist hassigned (.unsaved hassigned rfl))

theorem confirmed_keeps {polls : ℕ} {duplicate : Bool}
    {answer : Except String (RelayConfirmation R)} (h : t.ResultsSound)
    (hobj : (t.heap obj).result = none) :
    Keeps (t.confirmed cfg now id obj polls duplicate answer) := by
  simp only [Tracker.confirmed]
  cases (confirmationOf answer).state with
  | succeeded => exact settleSuccess_keeps h
  | failed =>
      have hassigned : (t.assign obj (·.noted
          ((confirmationOf answer).error.getD "transaction failed on chain"))).ResultsSound :=
        h.assign (h obj)
      refine failTask_keeps hassigned ?_
      simp only [Tracker.endReconcile, Tracker.assign_heap_self]
      exact hobj
  | pending => exact unsettled_keeps h hobj
  | notFound => exact unsettled_keeps h hobj

/-- The record of a running operation has no result yet. -/
theorem Tracker.ResultsSound.running (h : t.ResultsSound) (hwf : t.WellFormed cfg)
    (htask : t.tasks id = some task) : (t.heap task.obj).result = none := by
  apply h
  have hexpected := hwf.expected id task htask
  intro hsucceeded
  rw [hsucceeded] at hexpected
  cases task <;> contradiction

theorem handle_keeps {event : Event R} {result : Tracker R × List (Effect R)}
    (h : t.ResultsSound) (hwf : t.WellFormed cfg)
    (hhandle : t.handle cfg now event = some result) : Keeps result := by
  cases Tracker.handle_stretch hhandle with
  | submit action => exact submit_keeps h
  | staged txHash network htask => exact staged_keeps h (h.running hwf htask)
  | rejected e htask => exact stagingFailed_keeps h (h.running hwf htask)
  | stagingTimeout e htask => exact stagingFailed_keeps h (h.running hwf htask)
  | broadcasted settled => exact settleSuccess_keeps h
  | broadcastFailed message => exact broadcastFailed_keeps h
  | broadcastTimeout message => exact broadcastFailed_keeps h
  | confirmed answer htask => exact confirmed_keeps h (h.running hwf htask)
  | slept => exact poll_keeps h

/-! ## The store -/

/-- Cutting the effects of a stretch anywhere leaves results on success only in the store. -/
theorem Keeps.cut {result : Tracker R × List (Effect R)} (h : Keeps result)
    {front : List (Effect R)} (hfront : front <+: result.2)
    (hstored : ∀ p ∈ stored, p.ResultSound) :
    ∀ p ∈ (process cfg).applyAll stored front, p.ResultSound := by
  have hsaves : ∀ effect ∈ front, ∀ list, effect.saved = some list → ∀ p ∈ list, p.ResultSound :=
    fun effect heffect => h.2 effect (hfront.subset heffect)
  clear h hfront
  induction front generalizing stored with
  | nil => exact hstored
  | cons effect front ih =>
      rw [applyAll_cons]
      refine ih ?_ fun other hother => hsaves other (List.mem_cons_of_mem _ hother)
      have heffect := hsaves effect List.mem_cons_self
      cases effect with
      | save entries => exact heffect entries rfl
      | _ => exact hstored

end OverSync.RelaySubmissionTracker
