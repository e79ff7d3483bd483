import OverSync.Verification.RelaySubmissionTracker.Refinement

/-! # What a stretch leaves in the store

Counters and notes aside, a stretch that changes the records saves them before it ends. -/

namespace OverSync.RelaySubmissionTracker

open Function Library

variable {R : Type} {cfg : RelayTrackerConfig R} {t t' : Tracker R} {effects : List (Effect R)}
  {entries : List Entry} {now id obj : ℕ}

def Effect.saved : Effect R → Option (List (PersistedSubmission R))
  | .save list => some list
  | _ => none

/-- The list that was saved last. -/
def lastSave : List (Effect R) → Option (List (PersistedSubmission R))
  | [] => none
  | effect :: effects => (lastSave effects).or effect.saved

/-- The tracker holds what was saved last; if nothing was saved, it holds `entries`. -/
def Saves (entries : List Entry) (result : Tracker R × List (Effect R)) : Prop :=
  ((lastSave result.2).map (List.map PersistedSubmission.entry)).getD entries = result.1.entries

theorem snapshot_entries : (t.snapshot cfg).map PersistedSubmission.entry = t.entries := by
  rw [Tracker.snapshot, List.map_map]
  rfl

theorem Tracker.WellFormed.entries_keys (h : t.WellFormed cfg) :
    t.entries.map Journal.Entry.key = t.records.map Prod.fst := by
  simp only [Tracker.entries, Tracker.list, List.map_map]
  exact List.map_congr_left fun ref href => (h.refs ref href).2

theorem Tracker.WellFormed.nodup_keys (h : t.WellFormed cfg) :
    (t.entries.map Journal.Entry.key).Nodup := by
  rw [h.entries_keys]
  exact h.nodup

theorem Saves.unsaved {effect : Effect R} (h : t.entries = entries) (hnone : effect.saved = none) :
    Saves entries (t, [effect]) := by
  simp [Saves, lastSave, hnone, h]

theorem Saves.persist (h : Saves t.entries (t', effects)) :
    Saves entries (t', t.persist cfg :: effects) := by
  unfold Saves at h ⊢
  simp only [lastSave, Tracker.persist, Effect.saved]
  cases hlast : lastSave effects with
  | none => simpa [hlast, snapshot_entries] using h
  | some list => simpa [hlast] using h

/-- The durable part depends on the list saved last. -/
theorem applyAll_lastSave {Volatile Event : Type*}
    {M : Machine Volatile (List (PersistedSubmission R)) Event (Effect R)}
    {g : List (PersistedSubmission R) → List (PersistedSubmission R)}
    (happly : ∀ stored effect, M.apply stored effect = (effect.saved.map g).getD stored)
    (stored : List (PersistedSubmission R)) :
    M.applyAll stored effects = ((lastSave effects).map g).getD stored := by
  induction effects generalizing stored with
  | nil => rfl
  | cons effect effects ih =>
      rw [Machine.applyAll_cons, ih, lastSave, happly]
      cases lastSave effects with
      | some list => rfl
      | none => rfl

theorem lastSave_mem {list : List (PersistedSubmission R)} (h : lastSave effects = some list) :
    .save list ∈ effects := by
  induction effects with
  | nil => contradiction
  | cons effect effects ih =>
      simp only [lastSave] at h
      cases hlast : lastSave effects with
      | none =>
          rw [hlast, Option.none_or] at h
          cases effect with
          | save entries => exact Option.some.inj h ▸ List.mem_cons_self
          | _ => contradiction
      | some last =>
          rw [hlast, Option.some_or] at h
          exact List.mem_cons_of_mem _ (ih (hlast.trans h))

/-- The store has what it had, or what some effect saved. -/
theorem applyAll_of_saves {P : List (PersistedSubmission R) → Prop}
    {stored : List (PersistedSubmission R)} (hstored : P stored)
    (hsaves : ∀ list, .save list ∈ effects → P list) :
    P ((process cfg).applyAll stored effects) := by
  have hstore : (process cfg).applyAll stored effects =
      ((lastSave effects).map id).getD stored :=
    applyAll_lastSave (fun _ effect => by cases effect <;> rfl) stored
  rw [hstore]
  cases hlast : lastSave effects with
  | none => exact hstored
  | some list => exact hsaves list (lastSave_mem hlast)

/-! ## Stretches of code -/

theorem failTask_saves {reason : RelayTerminalReason} :
    Saves entries (t.failTask cfg now id obj reason) :=
  .persist (.unsaved rfl rfl)

theorem settleSuccess_saves {result : Option R} {duplicate reconciled : Bool} :
    Saves entries (t.settleSuccess cfg now id obj result duplicate reconciled) :=
  .persist (.unsaved rfl rfl)

theorem poll_saves {polls : ℕ} {duplicate : Bool} (h : t.entries = entries) :
    Saves entries (t.poll now id obj polls duplicate) :=
  .unsaved (touches_attempted.entries_assign.trans h) rfl

theorem reconcile_saves {duplicate : Bool} (h : t.entries = entries) :
    Saves entries (t.reconcile cfg now id obj duplicate) := by
  simp only [Tracker.reconcile]
  split_ifs
  · exact .unsaved h rfl
  · exact .unsaved h rfl
  · exact poll_saves h

theorem submitNew_saves {action : RelayAction} (h : t.entries = entries) :
    Saves entries (t.submitNew cfg now action) := by
  simp only [Tracker.submitNew]
  cases t.getBlockingRecord cfg action with
  | some blocking => exact .unsaved h rfl
  | none =>
      have hattempted : ((t.insert (newRecord cfg now action)).assign t.nextObj
          (·.attempted now)).entries = (t.insert (newRecord cfg now action)).entries :=
        touches_attempted.entries_assign
      exact .persist (.unsaved hattempted rfl)

theorem submit_saves {action : RelayAction} : Saves t.entries (t.submit cfg now action) := by
  have hsubmission := t.submit_submission cfg now action
  generalize t.submit cfg now action = result at hsubmission ⊢
  cases hsubmission with
  | fresh => exact submitNew_saves rfl
  | restaged => exact .persist (submitNew_saves rfl)
  | answered outcome => exact .unsaved rfl rfl
  | joined running => exact .unsaved rfl rfl
  | attached => exact reconcile_saves rfl

theorem staged_saves {txHash network : Option String} :
    Saves entries (t.staged cfg now id obj txHash network) := by
  cases txHash with
  | none => exact failTask_saves
  | some hash =>
      simp only [Tracker.staged]
      split_ifs
      · exact failTask_saves
      · exact .persist (.unsaved rfl rfl)

theorem broadcastFailed_saves {message : String} :
    Saves entries (t.broadcastFailed cfg now id obj message) :=
  .persist (reconcile_saves rfl)

theorem unsettled_saves {polls : ℕ} {duplicate : Bool} {state : RelayConfirmationState}
    {error : Option String} :
    Saves entries (t.unsettled cfg now id obj polls duplicate state error) := by
  simp only [Tracker.unsettled]
  split_ifs
  · exact .persist (.unsaved rfl rfl)
  · exact .persist failTask_saves
  · exact .persist (.persist (.unsaved rfl rfl))

theorem confirmed_saves {polls : ℕ} {duplicate : Bool}
    {answer : Except String (RelayConfirmation R)} :
    Saves entries (t.confirmed cfg now id obj polls duplicate answer) := by
  simp only [Tracker.confirmed]
  cases (confirmationOf answer).state with
  | succeeded => exact settleSuccess_saves
  | failed => exact failTask_saves
  | pending => exact unsettled_saves
  | notFound => exact unsettled_saves

/-- Every stretch of code saves what it leaves in the records. -/
theorem handle_saves {event : Event R} {result : Tracker R × List (Effect R)}
    (h : t.handle cfg now event = some result) : Saves t.entries result := by
  cases Tracker.handle_stretch h with
  | submit action => exact submit_saves
  | staged txHash network => exact staged_saves
  | rejected e => exact failTask_saves
  | stagingTimeout e => exact failTask_saves
  | broadcasted settled => exact settleSuccess_saves
  | broadcastFailed message => exact broadcastFailed_saves
  | broadcastTimeout message => exact broadcastFailed_saves
  | confirmed answer => exact confirmed_saves
  | slept => exact poll_saves rfl

end OverSync.RelaySubmissionTracker
