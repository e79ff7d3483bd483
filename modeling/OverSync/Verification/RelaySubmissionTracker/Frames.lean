import OverSync.Verification.RelaySubmissionTracker.Decisions
import OverSync.Verification.RelaySubmissionTracker.Saves

/-! # What a stretch leaves alone

The operation of one submission neither changes nor saves anything new about the others. -/

namespace OverSync.RelaySubmissionTracker

open Function Library Machine

variable {R : Type} {cfg : RelayTrackerConfig R} {t t' : Tracker R} {now id obj : ℕ}
  {effects : List (Effect R)} {key : String} {action : RelayAction}

/-! ## The object of an operation -/

variable (cfg) in
/-- The stretch of an operation changes its own object only, in memory and in what it saves. -/
structure Confined (t : Tracker R) (id obj : ℕ) (result : Tracker R × List (Effect R)) :
    Prop where
  moves : t.Moves result.1 id obj
  saves : ∀ list, .save list ∈ result.2 → ∃ t', t.Moves t' id obj ∧ list = t'.snapshot cfg

theorem Confined.unsaved (h : t.Moves t' id obj) (hnone : ∀ effect ∈ effects, effect.saved = none) :
    Confined cfg t id obj (t', effects) where
  moves := h
  saves := by
    intro list hsave
    exact absurd (hnone _ hsave) (by simp [Effect.saved])

theorem Confined.persist {saved : Tracker R} (hsaved : t.Moves saved id obj)
    (h : Confined cfg t id obj (t', effects)) :
    Confined cfg t id obj (t', saved.persist cfg :: effects) where
  moves := h.moves
  saves := by
    intro list hsave
    rcases List.mem_cons.mp hsave with heq | hrest
    · cases heq
      exact ⟨saved, hsaved, rfl⟩
    · exact h.saves list hrest

section Operations

variable (hmoves : t.Moves t' id obj)

include hmoves

theorem failTask_confined {reason : RelayTerminalReason} :
    Confined cfg t id obj (t'.failTask cfg now id obj reason) := by
  have hassigned : t.Moves (t'.assign obj (·.failedWith now reason)) id obj :=
    hmoves.assign fun _ => rfl
  exact .persist hassigned (.unsaved hassigned.finish (by simp [Effect.saved]))

theorem settleSuccess_confined {result : Option R} {duplicate reconciled : Bool} :
    Confined cfg t id obj (t'.settleSuccess cfg now id obj result duplicate reconciled) := by
  have hassigned : t.Moves (t'.assign obj (·.succeededWith now result)) id obj :=
    hmoves.assign fun _ => rfl
  exact .persist hassigned (.unsaved hassigned.finish (by simp [Effect.saved]))

theorem poll_confined {polls : ℕ} {duplicate : Bool} :
    Confined cfg t id obj (t'.poll now id obj polls duplicate) := by
  have hassigned : t.Moves (t'.assign obj (·.attempted now)) id obj := hmoves.assign fun _ => rfl
  exact .unsaved (hassigned.await _) (by simp [Effect.saved])

theorem reconcile_confined {duplicate : Bool} :
    Confined cfg t id obj (t'.reconcile cfg now id obj duplicate) := by
  simp only [Tracker.reconcile]
  split_ifs
  · exact .unsaved hmoves.finish (by simp [Effect.saved])
  · exact .unsaved hmoves.finish (by simp [Effect.saved])
  · exact poll_confined (hmoves.reconciles true)

theorem stagingFailed_confined {e : StageError} :
    Confined cfg t id obj (t'.stagingFailed cfg now id obj e) := by
  have hassigned : t.Moves (t'.assign obj (·.noted e.message)) id obj :=
    hmoves.assign fun _ => rfl
  exact failTask_confined hassigned

theorem missingHash_confined : Confined cfg t id obj (t'.missingHash cfg now id obj) := by
  have hassigned : t.Moves (t'.assign obj
      (·.noted "stager did not provide a transaction hash before broadcast")) id obj :=
    hmoves.assign fun _ => rfl
  exact failTask_confined hassigned

theorem staged_confined {txHash network : Option String} :
    Confined cfg t id obj (t'.staged cfg now id obj txHash network) := by
  cases txHash with
  | none => exact missingHash_confined hmoves
  | some hash =>
      have hassigned : t.Moves (t'.assign obj (·.stagedWith hash network)) id obj :=
        hmoves.assign fun _ => rfl
      simp only [Tracker.staged]
      split_ifs
      · exact missingHash_confined hmoves
      · exact .persist hassigned (.unsaved (hassigned.await _) (by simp [Effect.saved]))

theorem broadcastFailed_confined {message : String} :
    Confined cfg t id obj (t'.broadcastFailed cfg now id obj message) := by
  have hassigned : t.Moves (t'.assign obj (·.noted message)) id obj := hmoves.assign fun _ => rfl
  exact .persist hassigned (reconcile_confined hassigned)

theorem unsettled_confined {polls : ℕ} {duplicate : Bool} {state : RelayConfirmationState}
    {error : Option String} :
    Confined cfg t id obj (t'.unsettled cfg now id obj polls duplicate state error) := by
  have hassigned : t.Moves (t'.assign obj
      fun record => record.noted (record.pollError state error)) id obj :=
    hmoves.assign fun _ => rfl
  simp only [Tracker.unsettled]
  split_ifs
  · exact .persist hassigned (.unsaved (hassigned.await _) (by simp [Effect.saved]))
  · exact .persist hassigned (failTask_confined hassigned.endReconcile)
  · have hfinished := hassigned.endReconcile.finish
    exact .persist hassigned (.persist hassigned (.unsaved hfinished (by simp [Effect.saved])))

theorem confirmed_confined {polls : ℕ} {duplicate : Bool}
    {answer : Except String (RelayConfirmation R)} :
    Confined cfg t id obj (t'.confirmed cfg now id obj polls duplicate answer) := by
  simp only [Tracker.confirmed]
  cases (confirmationOf answer).state with
  | succeeded => exact settleSuccess_confined hmoves.endReconcile
  | failed =>
      have hassigned : t.Moves (t'.assign obj (·.noted
          ((confirmationOf answer).error.getD "transaction failed on chain"))) id obj :=
        hmoves.assign fun _ => rfl
      exact failTask_confined hassigned.endReconcile
  | pending => exact unsettled_confined hmoves
  | notFound => exact unsettled_confined hmoves

end Operations

/-- Every event but a `submit` call goes to one operation. -/
theorem handle_confined {event : Event R} {result : Tracker R × List (Effect R)}
    (hhandle : t.handle cfg now event = some result) (hevent : ∀ action, event ≠ .submit action) :
    ∃ id task, t.tasks id = some task ∧ Confined cfg t id task.obj result := by
  cases Tracker.handle_stretch hhandle with
  | submit action => exact absurd rfl (hevent action)
  | staged txHash network htask => exact ⟨_, _, htask, staged_confined .refl⟩
  | rejected e htask => exact ⟨_, _, htask, stagingFailed_confined .refl⟩
  | stagingTimeout e htask => exact ⟨_, _, htask, stagingFailed_confined .refl⟩
  | broadcasted settled htask => exact ⟨_, _, htask, settleSuccess_confined .refl⟩
  | broadcastFailed message htask => exact ⟨_, _, htask, broadcastFailed_confined .refl⟩
  | broadcastTimeout message htask => exact ⟨_, _, htask, broadcastFailed_confined .refl⟩
  | confirmed answer htask => exact ⟨_, _, htask, confirmed_confined .refl⟩
  | slept htask => exact ⟨_, _, htask, poll_confined .refl⟩

/-! ## The record under a key -/

variable (cfg) in
/-- The stretch leaves the record under a key as it is, in memory and in what it saves. -/
structure Spares (key : String) (t : Tracker R) (result : Tracker R × List (Effect R)) : Prop where
  memory : result.1.lookup key = t.lookup key
  saves : ∀ list, .save list ∈ result.2 →
    list.find? (fun p => p.key = key) = (t.lookup key).map (toPersistedSubmission cfg)

theorem snapshot_find (key : String) :
    (t.snapshot cfg).find? (fun p => p.key = key) =
      (t.lookup key).map (toPersistedSubmission cfg) := by
  rw [Tracker.snapshot, List.find?_map]
  rfl

theorem Spares.after {result : Tracker R × List (Effect R)} (h : Spares cfg key t' result)
    (hlookup : t'.lookup key = t.lookup key) : Spares cfg key t result where
  memory := h.memory.trans hlookup
  saves := by
    rw [← hlookup]
    exact h.saves

theorem Spares.unsaved (hlookup : t'.lookup key = t.lookup key)
    (hnone : ∀ effect ∈ effects, effect.saved = none) : Spares cfg key t (t', effects) where
  memory := hlookup
  saves := by
    intro list hsave
    exact absurd (hnone _ hsave) (by simp [Effect.saved])

theorem Spares.persist (h : Spares cfg key t (t', effects)) :
    Spares cfg key t (t', t.persist cfg :: effects) where
  memory := h.memory
  saves := by
    intro list hsave
    rcases List.mem_cons.mp hsave with heq | hrest
    · cases heq
      exact snapshot_find key
    · exact h.saves list hrest

/-- An operation under another key keeps the record. -/
theorem Tracker.Moves.lookup (h : t.Moves t' id obj) (hkey : (t.heap obj).key ≠ key) :
    t'.lookup key = t.lookup key := by
  have hsame : ((fun r : SubmissionRecord R => decide (r.key = key)) ∘
      fun ref : String × ℕ => t'.heap ref.2) =
      (fun r => decide (r.key = key)) ∘ fun ref => t.heap ref.2 := by
    funext ref
    simp only [comp_apply, h.heap_key]
  rw [Tracker.lookup, Tracker.lookup, Tracker.list, Tracker.list, h.records, List.find?_map,
    List.find?_map, hsame]
  apply Option.map_congr
  intro ref href
  apply h.heap
  rintro heq
  have hfound := List.find?_some href
  rw [comp_apply, decide_eq_true_eq, heq] at hfound
  exact hkey hfound

theorem Confined.spares {result : Tracker R × List (Effect R)} (h : Confined cfg t id obj result)
    (hkey : (t.heap obj).key ≠ key) : Spares cfg key t result where
  memory := h.moves.lookup hkey
  saves := by
    intro list hsave
    obtain ⟨saved, hmoves, rfl⟩ := h.saves list hsave
    rw [snapshot_find, hmoves.lookup hkey]

theorem Tracker.WellFormed.lookup_insert (h : t.WellFormed cfg) {r : SubmissionRecord R}
    (hkey : r.key ≠ key) : (t.insert r).lookup key = t.lookup key := by
  rw [Tracker.lookup, h.list_insert, List.find?_append, List.find?_singleton, if_neg (by simpa),
    Option.or_none]
  rfl

theorem Tracker.WellFormed.lookup_delete (h : t.WellFormed cfg) {key' : String}
    (hkey : key' ≠ key) : (t.delete key').lookup key = t.lookup key := by
  rw [Tracker.lookup, Tracker.lookup, Tracker.list, Tracker.list, Tracker.delete, List.find?_map,
    List.find?_map, List.find?_filter]
  congr 1
  apply List.find?_congr
  intro ref href
  simp only [comp_apply, (h.refs ref href).2, ne_eq, decide_not]
  by_cases hown : ref.1 = key
  · simp [hown, hkey.symm]
  · simp [hown]

theorem submitNew_spares (h : t.WellFormed cfg)
    (hkey : computeSubmissionKey cfg.shortDigest action ≠ key) :
    Spares cfg key t (t.submitNew cfg now action) := by
  simp only [Tracker.submitNew]
  cases t.getBlockingRecord cfg action with
  | some blocking => exact .unsaved rfl (by simp [Effect.saved])
  | none =>
      have hinserted : (t.insert (newRecord cfg now action)).lookup key = t.lookup key :=
        h.lookup_insert hkey
      have hattempted : (t.insert (newRecord cfg now action)).Moves
          ((t.insert (newRecord cfg now action)).assign t.nextObj (·.attempted now))
          t.nextTask t.nextObj :=
        Tracker.Moves.refl.assign fun _ => rfl
      refine Spares.after (.persist (.unsaved (hattempted.lookup ?_) ?_)) hinserted
      · rw [show (t.insert (newRecord cfg now action)).heap t.nextObj = _ from update_self ..]
        exact hkey
      · simp [Effect.saved]

theorem submit_spares (h : t.WellFormed cfg)
    (hkey : computeSubmissionKey cfg.shortDigest action ≠ key) :
    Spares cfg key t (t.submit cfg now action) := by
  have hsubmission := t.submit_submission cfg now action
  generalize t.submit cfg now action = result at hsubmission ⊢
  cases hsubmission with
  | fresh => exact submitNew_spares h hkey
  | @restaged obj hget hstatus hreason =>
      have href := Tracker.get_eq_some hget
      have hidle := h.idle_of_failed (h.holds href) hstatus
      rw [(h.refs _ href).2] at hidle
      exact (Spares.persist (submitNew_spares (h.delete hidle) hkey)).after (h.lookup_delete hkey)
  | answered outcome => exact .unsaved rfl (by simp [Effect.saved])
  | joined running => exact .unsaved rfl (by simp [Effect.saved])
  | @attached obj hget hstatus hinflight =>
      have hobj : ((t.track (computeSubmissionKey cfg.shortDigest action)
          (.polling obj 0 true)).heap obj).key ≠ key :=
        (h.refs _ (Tracker.get_eq_some hget)).2.trans_ne hkey
      exact Spares.after (Confined.spares (reconcile_confined .refl) hobj) rfl

/-- A record stays as it is in every stretch of another submission. -/
theorem handle_spares {event : Event R} {result : Tracker R × List (Effect R)}
    (h : t.WellFormed cfg) (hhandle : t.handle cfg now event = some result)
    (hidle : ∀ id task, t.tasks id = some task → (t.heap task.obj).key ≠ key)
    (hevent : ∀ action, event = .submit action →
      computeSubmissionKey cfg.shortDigest action ≠ key) : Spares cfg key t result := by
  by_cases hsubmit : ∃ action, event = .submit action
  · obtain ⟨action, rfl⟩ := hsubmit
    obtain rfl := Option.some.inj hhandle
    exact submit_spares h (hevent action rfl)
  · obtain ⟨id, task, htask, hconfined⟩ :=
      handle_confined hhandle fun action heq => hsubmit ⟨action, heq⟩
    exact hconfined.spares (hidle id task htask)

end OverSync.RelaySubmissionTracker
