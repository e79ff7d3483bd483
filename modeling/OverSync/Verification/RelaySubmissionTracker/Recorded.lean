import OverSync.Verification.RelaySubmissionTracker.Broadcast
import OverSync.Verification.RelaySubmissionTracker.Saves
import OverSync.Verification.RelaySubmissionTracker.Stagers

/-! # Records of broadcast transactions

Once a transaction is broadcast, its record stays, in memory as in the store, with its hash and the
network that it is confirmed on. -/

namespace OverSync.RelaySubmissionTracker

open Function Library Machine

variable {R : Type} {cfg : RelayTrackerConfig R} {t t' : Tracker R} {now id obj : ℕ} {task : Task}
  {effects : List (Effect R)} {stored : List (PersistedSubmission R)} {key hash : String}
  {network : Option String} {f : SubmissionRecord R → SubmissionRecord R}

/-! ## Recorded transactions -/

/-- A broadcast transaction by the fields of its record. -/
structure Kept (status : RelayStatus) (txHash : Option String)
    (terminalReason : Option RelayTerminalReason) (hash : String) : Prop where
  txHash : txHash = some hash
  hash_ne : hash ≠ ""
  staged : status ≠ .inFlight
  final : status = .failed → terminalReason ≠ some .stagingFailed

def SubmissionRecord.Records (r : SubmissionRecord R) (key hash : String)
    (network : Option String) : Prop :=
  r.key = key ∧ r.network.or r.action.network = network ∧
    Kept r.status r.txHash r.terminalReason hash

def PersistedSubmission.Records (p : PersistedSubmission R) (key hash : String)
    (network : Option String) : Prop :=
  p.key = key ∧ p.network = network ∧ Kept p.status p.txHash p.terminalReason hash

/-- The tracker has the submission of a broadcast transaction. -/
def Tracker.Records (t : Tracker R) (key hash : String) (network : Option String) : Prop :=
  ∃ r ∈ t.list, r.Records key hash network

def RecordedIn (stored : List (PersistedSubmission R)) (key hash : String)
    (network : Option String) : Prop :=
  ∃ p ∈ stored, p.Records key hash network

theorem SubmissionRecord.Records.persisted {r : SubmissionRecord R}
    (h : r.Records key hash network) : (toPersistedSubmission cfg r).Records key hash network :=
  h

theorem PersistedSubmission.Records.restored {p : PersistedSubmission R}
    (h : p.Records key hash network) : (restoredRecord cfg p).Records key hash network := by
  obtain ⟨hkey, hnetwork, hkept⟩ := h
  have htruthy : truthy p.txHash := truthy_iff.mpr ⟨hash, hkept.txHash, hkept.hash_ne⟩
  have hstatus : (normalizePersistedStatus p.status p.txHash p.lastError).1 = p.status := by
    cases hp : p.status with
    | inFlight => exact absurd hp hkept.staged
    | pending => simp [normalizePersistedStatus, htruthy]
    | succeeded | failed => rfl
  refine ⟨hkey, ?_, hkept.txHash, hkept.hash_ne, ?_, ?_⟩
  · rw [← hnetwork]
    exact Option.or_self
  · rw [show (restoredRecord cfg p).status = _ from hstatus]
    exact hkept.staged
  · intro hfailed
    have hp : p.status = .failed := hstatus.symm.trans hfailed
    simp [restoredRecord, htruthy, hkept.final hp]

theorem Tracker.Records.persisted (h : t.Records key hash network) :
    RecordedIn (t.snapshot cfg) key hash network := by
  obtain ⟨r, hr, hrecords⟩ := h
  exact ⟨_, List.mem_map_of_mem hr, hrecords.persisted⟩

/-- There is one such submission under a key. -/
theorem Tracker.Records.unique {hash' : String} {network' : Option String}
    (h : t.Records key hash network) (hwf : t.WellFormed cfg) (h' : t.Records key hash' network') :
    hash' = hash ∧ network' = network := by
  obtain ⟨r, hr, hkey, hnetwork, hkept⟩ := h
  obtain ⟨r', hr', hkey', hnetwork', hkept'⟩ := h'
  obtain rfl := hwf.record_unique hr hr' (hkey'.trans hkey.symm)
  refine ⟨?_, hnetwork'.symm.trans hnetwork⟩
  exact Option.some.inj (hkept'.txHash.symm.trans hkept.txHash)

/-! ## Stretches of code -/

/-- The submissions stay, in memory and in whatever is saved. -/
structure Retains (t : Tracker R) (result : Tracker R × List (Effect R)) : Prop where
  memory : ∀ {key hash network}, t.Records key hash network → result.1.Records key hash network
  saves : ∀ {key hash network list}, t.Records key hash network → .save list ∈ result.2 →
    RecordedIn list key hash network

/-- The stretch starts with a change that keeps the submissions. -/
theorem Retains.after {result : Tracker R × List (Effect R)} (h : Retains t' result)
    (hkept : ∀ {key hash network}, t.Records key hash network → t'.Records key hash network) :
    Retains t result :=
  ⟨fun hrecords => h.memory (hkept hrecords), fun hrecords => h.saves (hkept hrecords)⟩

theorem Retains.unsaved {effects : List (Effect R)} (hlist : t'.list = t.list)
    (hnone : ∀ effect ∈ effects, effect.saved = none) : Retains t (t', effects) where
  memory := by
    intro key hash network hrecords
    simpa only [Tracker.Records, hlist] using hrecords
  saves := by
    intro key hash network list _ hsave
    exact absurd (hnone _ hsave) (by simp [Effect.saved])

theorem Retains.persist (h : Retains t (t', effects)) :
    Retains t (t', t.persist cfg :: effects) where
  memory := h.memory
  saves := by
    intro key hash network list hrecords hsave
    rcases List.mem_cons.mp hsave with heq | hrest
    · cases heq
      exact hrecords.persisted
    · exact h.saves hrecords hrest

/-- An assignment that keeps a submission of the record. -/
theorem Tracker.Records.assign (h : t.Records key hash network)
    (hf : (t.heap obj).Records key hash network → (f (t.heap obj)).Records key hash network) :
    (t.assign obj f).Records key hash network := by
  obtain ⟨r, hr, hrecords⟩ := h
  obtain ⟨ref, href, rfl⟩ := List.mem_map.mp hr
  refine ⟨_, List.mem_map.mpr ⟨ref, href, rfl⟩, ?_⟩
  by_cases hobj : ref.2 = obj
  · rw [hobj, Tracker.assign_heap_self]
    exact hf (hobj ▸ hrecords)
  · rw [Tracker.assign_heap_of_ne hobj]
    exact hrecords

/-- Nothing is broadcast yet for the record of a waiting stager. -/
theorem Tracker.WellFormed.not_records (h : t.WellFormed cfg)
    (htask : t.tasks id = some (.staging obj)) : ¬ (t.heap obj).Records key hash network := by
  intro hrecords
  exact hrecords.2.2.staged (h.expected id _ htask)

theorem SubmissionRecord.Records.noted {r : SubmissionRecord R} (h : r.Records key hash network)
    (message : String) : (r.noted message).Records key hash network :=
  h

theorem SubmissionRecord.Records.failedWith {r : SubmissionRecord R}
    (h : r.Records key hash network) {reason : RelayTerminalReason}
    (hreason : reason ≠ .stagingFailed) : (r.failedWith now reason).Records key hash network :=
  ⟨h.1, h.2.1, h.2.2.txHash, h.2.2.hash_ne, nofun, fun _ heq => hreason (Option.some.inj heq)⟩

theorem SubmissionRecord.Records.succeededWith {r : SubmissionRecord R}
    (h : r.Records key hash network) (result : Option R) :
    (r.succeededWith now result).Records key hash network :=
  ⟨h.1, h.2.1, h.2.2.txHash, h.2.2.hash_ne, nofun, nofun⟩

theorem failTask_retains {reason : RelayTerminalReason}
    (hreason : ∀ {key hash network}, (t.heap obj).Records key hash network →
      reason ≠ .stagingFailed) : Retains t (t.failTask cfg now id obj reason) := by
  have hrest : Retains (t.assign obj (·.failedWith now reason))
      (t.failTask cfg now id obj reason) := .persist (.unsaved rfl (by simp [Effect.saved]))
  apply hrest.after
  intro key hash network hrecords
  exact hrecords.assign fun hrecord => hrecord.failedWith (hreason hrecord)

theorem settleSuccess_retains {result : Option R} {duplicate reconciled : Bool} :
    Retains t (t.settleSuccess cfg now id obj result duplicate reconciled) := by
  have hrest : Retains (t.assign obj (·.succeededWith now result))
      (t.settleSuccess cfg now id obj result duplicate reconciled) :=
    .persist (.unsaved rfl (by simp [Effect.saved]))
  apply hrest.after
  intro key hash network hrecords
  exact hrecords.assign fun hrecord => hrecord.succeededWith result

/-- A stretch that notes an error first. -/
theorem Retains.noted {result : Tracker R × List (Effect R)} {message : SubmissionRecord R → String}
    (h : Retains (t.assign obj fun r => r.noted (message r)) result) : Retains t result :=
  h.after fun hrecords => hrecords.assign fun hrecord => hrecord.noted _

theorem Retains.endReconcile {result : Tracker R × List (Effect R)}
    (h : Retains (t.endReconcile obj) result) : Retains t result :=
  h.after fun hrecords => hrecords

theorem poll_retains {polls : ℕ} {duplicate : Bool} :
    Retains t (t.poll now id obj polls duplicate) := by
  have hrest : Retains (t.assign obj (·.attempted now)) (t.poll now id obj polls duplicate) :=
    .unsaved rfl (by simp [Effect.saved])
  apply hrest.after
  intro key hash network hrecords
  exact hrecords.assign fun hrecord => hrecord

theorem reconcile_retains {duplicate : Bool} : Retains t (t.reconcile cfg now id obj duplicate) := by
  simp only [Tracker.reconcile]
  split_ifs
  · exact .unsaved rfl (by simp [Effect.saved])
  · exact .unsaved rfl (by simp [Effect.saved])
  · exact poll_retains.after fun hrecords => hrecords

theorem stagingFailed_retains {e : StageError} (hwf : t.WellFormed cfg)
    (htask : t.tasks id = some (.staging obj)) : Retains t (t.stagingFailed cfg now id obj e) := by
  simp only [Tracker.stagingFailed]
  apply Retains.noted
  apply failTask_retains
  intro key hash network hrecord
  rw [Tracker.assign_heap_self] at hrecord
  exact absurd hrecord (hwf.not_records htask)

theorem missingHash_retains (hwf : t.WellFormed cfg) (htask : t.tasks id = some (.staging obj)) :
    Retains t (t.missingHash cfg now id obj) := by
  simp only [Tracker.missingHash]
  apply Retains.noted
  apply failTask_retains
  intro key hash network hrecord
  rw [Tracker.assign_heap_self] at hrecord
  exact absurd hrecord (hwf.not_records htask)

theorem staged_retains {txHash network : Option String} (hwf : t.WellFormed cfg)
    (htask : t.tasks id = some (.staging obj)) :
    Retains t (t.staged cfg now id obj txHash network) := by
  cases txHash with
  | none => exact missingHash_retains hwf htask
  | some hash =>
      simp only [Tracker.staged]
      split_ifs
      · exact missingHash_retains hwf htask
      · have hrest : Retains (t.assign obj (·.stagedWith hash network))
            (t.staged cfg now id obj (some hash) network) := by
          simp only [Tracker.staged, if_neg ‹hash ≠ ""›]
          exact .persist (.unsaved rfl (by simp [Effect.saved]))
        simp only [Tracker.staged, if_neg ‹hash ≠ ""›] at hrest
        apply hrest.after
        intro key hash network hrecords
        exact hrecords.assign fun hrecord => absurd hrecord (hwf.not_records htask)

theorem broadcastFailed_retains {message : String} :
    Retains t (t.broadcastFailed cfg now id obj message) := by
  simp only [Tracker.broadcastFailed]
  exact Retains.noted (.persist reconcile_retains)

theorem unsettled_retains {polls : ℕ} {duplicate : Bool} {state : RelayConfirmationState}
    {error : Option String} :
    Retains t (t.unsettled cfg now id obj polls duplicate state error) := by
  simp only [Tracker.unsettled]
  split_ifs
  · exact Retains.noted (.persist (.unsaved rfl (by simp [Effect.saved])))
  · apply Retains.noted
    exact .persist (Retains.endReconcile (failTask_retains fun _ h => by cases h))
  · exact Retains.noted (.persist (.persist (.unsaved rfl (by simp [Effect.saved]))))

theorem confirmed_retains {polls : ℕ} {duplicate : Bool}
    {answer : Except String (RelayConfirmation R)} :
    Retains t (t.confirmed cfg now id obj polls duplicate answer) := by
  simp only [Tracker.confirmed]
  cases (confirmationOf answer).state with
  | succeeded => exact settleSuccess_retains.endReconcile
  | failed =>
      apply Retains.noted
      exact Retains.endReconcile (failTask_retains fun _ h => by cases h)
  | pending => exact unsettled_retains
  | notFound => exact unsettled_retains

theorem submitNew_retains {action : RelayAction} (hwf : t.WellFormed cfg) :
    Retains t (t.submitNew cfg now action) := by
  simp only [Tracker.submitNew]
  cases t.getBlockingRecord cfg action with
  | some blocking => exact .unsaved rfl (by simp [Effect.saved])
  | none =>
      have hrest : Retains (t.insert (newRecord cfg now action))
          (((t.insert (newRecord cfg now action)).assign t.nextObj (·.attempted now)).track
            (newRecord cfg now action).key (.staging t.nextObj),
            [(t.insert (newRecord cfg now action)).persist cfg, .stage t.nextTask action]) := by
        apply Retains.persist
        refine ⟨?_, by simp⟩
        intro key hash network hrecords
        exact Tracker.Records.assign (f := (·.attempted now)) hrecords fun hrecord => hrecord
      apply hrest.after
      rintro key hash network ⟨r, hr, hrecord⟩
      refine ⟨r, ?_, hrecord⟩
      rw [hwf.list_insert]
      exact List.mem_append_left _ hr

/-- Only a record without a broadcast is deleted. -/
theorem delete_retains (hwf : t.WellFormed cfg) {key' : String} (hget : t.get key' = some obj)
    (hreason : (t.heap obj).terminalReason = some .stagingFailed)
    (hstatus : (t.heap obj).status = .failed) (h : t.Records key hash network) :
    (t.delete key').Records key hash network := by
  obtain ⟨r, hr, hrecord⟩ := h
  obtain ⟨ref, href, rfl⟩ := List.mem_map.mp hr
  refine ⟨_, List.mem_map.mpr ⟨ref, ?_, rfl⟩, hrecord⟩
  refine List.mem_filter.mpr ⟨href, decide_eq_true ?_⟩
  intro hkey
  obtain rfl := hwf.ref_unique href (Tracker.get_eq_some hget) hkey
  exact hrecord.2.2.final hstatus hreason

theorem submit_retains {action : RelayAction} (hwf : t.WellFormed cfg) :
    Retains t (t.submit cfg now action) := by
  have hsubmission := t.submit_submission cfg now action
  generalize t.submit cfg now action = result at hsubmission ⊢
  cases hsubmission with
  | fresh => exact submitNew_retains hwf
  | @restaged obj hget hstatus hreason =>
      have href := Tracker.get_eq_some hget
      have hidle := hwf.idle_of_failed (hwf.holds href) hstatus
      rw [(hwf.refs _ href).2] at hidle
      apply Retains.after (Retains.persist (submitNew_retains (hwf.delete hidle)))
      exact delete_retains hwf hget hreason hstatus
  | answered outcome => exact .unsaved rfl (by simp [Effect.saved])
  | joined running => exact .unsaved rfl (by simp [Effect.saved])
  | attached => exact reconcile_retains.after fun hrecords => hrecords

theorem handle_retains {event : Event R} {result : Tracker R × List (Effect R)}
    (hwf : t.WellFormed cfg) (hhandle : t.handle cfg now event = some result) :
    Retains t result := by
  cases Tracker.handle_stretch hhandle with
  | submit action => exact submit_retains hwf
  | staged txHash network htask => exact staged_retains hwf htask
  | rejected e htask => exact stagingFailed_retains hwf htask
  | stagingTimeout e htask => exact stagingFailed_retains hwf htask
  | broadcasted settled => exact settleSuccess_retains
  | broadcastFailed message => exact broadcastFailed_retains
  | broadcastTimeout message => exact broadcastFailed_retains
  | confirmed answer => exact confirmed_retains
  | slept => exact poll_retains

/-! ## New records -/

theorem Tracker.Records.of_assign (h : (t.assign obj f).Records key hash network)
    (hf : (f (t.heap obj)).Records key hash network → (t.heap obj).Records key hash network) :
    t.Records key hash network := by
  obtain ⟨r, hr, hrecords⟩ := h
  obtain ⟨ref, href, rfl⟩ := List.mem_map.mp hr
  refine ⟨_, List.mem_map.mpr ⟨ref, href, rfl⟩, ?_⟩
  by_cases hobj : ref.2 = obj
  · rw [hobj, Tracker.assign_heap_self] at hrecords
    rw [hobj]
    exact hf hrecords
  · rw [Tracker.assign_heap_of_ne hobj] at hrecords
    exact hrecords

/-- A stretch after which no other transactions are on record. -/
structure Reflects (t : Tracker R) (result : Tracker R × List (Effect R)) : Prop where
  records : ∀ {key hash network}, result.1.Records key hash network → t.Records key hash network

theorem Reflects.after {result : Tracker R × List (Effect R)} (h : Reflects t' result)
    (hkept : ∀ {key hash network}, t'.Records key hash network → t.Records key hash network) :
    Reflects t result :=
  ⟨fun hrecords => hkept (h.records hrecords)⟩

theorem Reflects.unsaved (hlist : t'.list = t.list) : Reflects t (t', effects) where
  records := by
    intro key hash network hrecords
    simpa only [Tracker.Records, hlist] using hrecords

theorem Reflects.noted {result : Tracker R × List (Effect R)}
    {message : SubmissionRecord R → String}
    (h : Reflects (t.assign obj fun r => r.noted (message r)) result) : Reflects t result :=
  h.after fun hrecords => hrecords.of_assign fun hrecord => hrecord

theorem Reflects.endReconcile {result : Tracker R × List (Effect R)}
    (h : Reflects (t.endReconcile obj) result) : Reflects t result :=
  h.after fun hrecords => hrecords

theorem Reflects.persist (h : Reflects t (t', effects)) :
    Reflects t (t', t.persist cfg :: effects) :=
  ⟨h.records⟩

/-- An operation fails whose record is pending, or has no hash. -/
theorem failTask_reflects {reason : RelayTerminalReason}
    (hlive : (t.heap obj).status = .pending ∨ (t.heap obj).txHash = none) :
    Reflects t (t.failTask cfg now id obj reason) := by
  have hrest : Reflects (t.assign obj (·.failedWith now reason))
      (t.failTask cfg now id obj reason) := .unsaved rfl
  apply hrest.after
  intro key hash network hrecords
  apply hrecords.of_assign
  rintro ⟨hkey, hnetwork, hhash, hne, _, _⟩
  rcases hlive with hpending | hnone
  · exact ⟨hkey, hnetwork, hhash, hne, by simp [hpending], by simp [hpending]⟩
  · simp [SubmissionRecord.failedWith, hnone] at hhash

theorem settleSuccess_reflects {result : Option R} {duplicate reconciled : Bool}
    (hpending : (t.heap obj).status = .pending) :
    Reflects t (t.settleSuccess cfg now id obj result duplicate reconciled) := by
  have hrest : Reflects (t.assign obj (·.succeededWith now result))
      (t.settleSuccess cfg now id obj result duplicate reconciled) := .unsaved rfl
  apply hrest.after
  intro key hash network hrecords
  apply hrecords.of_assign
  rintro ⟨hkey, hnetwork, hhash, hne, _, _⟩
  exact ⟨hkey, hnetwork, hhash, hne, by simp [hpending], by simp [hpending]⟩

theorem poll_reflects {polls : ℕ} {duplicate : Bool} :
    Reflects t (t.poll now id obj polls duplicate) := by
  have hrest : Reflects (t.assign obj (·.attempted now)) (t.poll now id obj polls duplicate) :=
    .unsaved rfl
  apply hrest.after
  intro key hash network hrecords
  exact hrecords.of_assign fun hrecord => hrecord

theorem reconcile_reflects {duplicate : Bool} :
    Reflects t (t.reconcile cfg now id obj duplicate) := by
  simp only [Tracker.reconcile]
  split_ifs
  · exact .unsaved rfl
  · exact .unsaved rfl
  · exact poll_reflects.after fun hrecords => hrecords

theorem stagingFailed_reflects {e : StageError} (hnone : (t.heap obj).txHash = none) :
    Reflects t (t.stagingFailed cfg now id obj e) := by
  simp only [Tracker.stagingFailed]
  apply Reflects.noted
  apply failTask_reflects
  rw [Tracker.assign_heap_self]
  exact .inr hnone

theorem missingHash_reflects (hnone : (t.heap obj).txHash = none) :
    Reflects t (t.missingHash cfg now id obj) := by
  simp only [Tracker.missingHash]
  apply Reflects.noted
  apply failTask_reflects
  rw [Tracker.assign_heap_self]
  exact .inr hnone

theorem broadcastFailed_reflects {message : String} :
    Reflects t (t.broadcastFailed cfg now id obj message) := by
  simp only [Tracker.broadcastFailed]
  exact Reflects.noted (.persist reconcile_reflects)

theorem unsettled_reflects {polls : ℕ} {duplicate : Bool} {state : RelayConfirmationState}
    {error : Option String} (hpending : (t.heap obj).status = .pending) :
    Reflects t (t.unsettled cfg now id obj polls duplicate state error) := by
  simp only [Tracker.unsettled]
  split_ifs
  · exact Reflects.noted (.persist (.unsaved rfl))
  · apply Reflects.noted
    apply Reflects.persist
    apply Reflects.endReconcile
    apply failTask_reflects
    simp only [Tracker.endReconcile, Tracker.assign_heap_self]
    exact .inl hpending
  · exact Reflects.noted (.persist (.unsaved rfl))

theorem confirmed_reflects {polls : ℕ} {duplicate : Bool}
    {answer : Except String (RelayConfirmation R)} (hpending : (t.heap obj).status = .pending) :
    Reflects t (t.confirmed cfg now id obj polls duplicate answer) := by
  simp only [Tracker.confirmed]
  cases (confirmationOf answer).state with
  | succeeded =>
      apply Reflects.endReconcile
      exact settleSuccess_reflects hpending
  | failed =>
      apply Reflects.noted
      apply Reflects.endReconcile
      apply failTask_reflects
      simp only [Tracker.endReconcile, Tracker.assign_heap_self]
      exact .inl hpending
  | pending => exact unsettled_reflects hpending
  | notFound => exact unsettled_reflects hpending

theorem submitNew_reflects {action : RelayAction} (hwf : t.WellFormed cfg) :
    Reflects t (t.submitNew cfg now action) := by
  simp only [Tracker.submitNew]
  cases t.getBlockingRecord cfg action with
  | some blocking => exact .unsaved rfl
  | none =>
      have hrest : Reflects ((t.insert (newRecord cfg now action)).assign t.nextObj
          (·.attempted now)) (((t.insert (newRecord cfg now action)).assign t.nextObj
            (·.attempted now)).track (newRecord cfg now action).key (.staging t.nextObj),
            [(t.insert (newRecord cfg now action)).persist cfg, .stage t.nextTask action]) :=
        .unsaved rfl
      apply hrest.after
      intro key hash network hrecords
      obtain ⟨r, hr, hrecord⟩ := hrecords.of_assign fun hrecord => hrecord
      rw [hwf.list_insert] at hr
      rcases List.mem_append.mp hr with hold | hnew
      · exact ⟨r, hold, hrecord⟩
      · rw [List.mem_singleton.mp hnew] at hrecord
        exact absurd rfl hrecord.2.2.staged

theorem submit_reflects {action : RelayAction} (hwf : t.WellFormed cfg) :
    Reflects t (t.submit cfg now action) := by
  have hsubmission := t.submit_submission cfg now action
  generalize t.submit cfg now action = result at hsubmission ⊢
  cases hsubmission with
  | fresh => exact submitNew_reflects hwf
  | @restaged obj hget hstatus =>
      have href := Tracker.get_eq_some hget
      have hidle := hwf.idle_of_failed (hwf.holds href) hstatus
      rw [(hwf.refs _ href).2] at hidle
      apply Reflects.after (Reflects.persist (submitNew_reflects (hwf.delete hidle)))
      rintro key hash network ⟨r, hr, hrecord⟩
      obtain ⟨ref, hmem, rfl⟩ := List.mem_map.mp hr
      exact ⟨_, List.mem_map.mpr ⟨ref, List.mem_of_mem_filter hmem, rfl⟩, hrecord⟩
  | answered outcome => exact .unsaved rfl
  | joined running => exact .unsaved rfl
  | attached => exact reconcile_reflects.after fun hrecords => hrecords

/-- A new transaction is on record after a save, before it is broadcast. -/
theorem handle_reflects {event : Event R} {result : Tracker R × List (Effect R)}
    (hwf : t.WellFormed cfg) (hhandle : t.handle cfg now event = some result) :
    Reflects t result ∨ ∃ id action key hash,
      result.2 = [result.1.persist cfg, .broadcast id action key hash] := by
  have hbare : ∀ {id obj}, t.tasks id = some (.staging obj) → (t.heap obj).txHash = none := by
    intro id obj htask
    exact (hwf.coherent _ (hwf.task_holds htask).mem_list).bare (hwf.expected id _ htask)
  cases Tracker.handle_stretch hhandle with
  | submit action => exact .inl (submit_reflects hwf)
  | @staged id obj txHash network htask =>
      cases txHash with
      | none => exact .inl (missingHash_reflects (hbare htask))
      | some hash =>
          simp only [Tracker.staged]
          split_ifs
          · exact .inl (missingHash_reflects (hbare htask))
          · exact .inr ⟨_, _, _, _, rfl⟩
  | rejected e htask => exact .inl (stagingFailed_reflects (hbare htask))
  | stagingTimeout e htask => exact .inl (stagingFailed_reflects (hbare htask))
  | broadcasted settled htask => exact .inl (settleSuccess_reflects (hwf.pending htask rfl))
  | broadcastFailed message => exact .inl broadcastFailed_reflects
  | broadcastTimeout message => exact .inl broadcastFailed_reflects
  | confirmed answer htask => exact .inl (confirmed_reflects (hwf.pending htask rfl))
  | slept => exact .inl poll_reflects

/-! ## Confirmations and broadcasts -/

/-- A stretch that asks the confirmer for recorded transactions only. -/
def Confirms (t : Tracker R) (effects : List (Effect R)) : Prop :=
  ∀ id ref, .confirm id ref ∈ effects →
    ∃ hash, ref.txHash = some hash ∧ t.Records ref.key hash ref.network

theorem Confirms.silent (hnone : ∀ id ref, .confirm id ref ∉ effects) : Confirms t effects :=
  fun id ref hmem => absurd hmem (hnone id ref)

theorem Confirms.persist (h : Confirms t effects) : Confirms t (t'.persist cfg :: effects) := by
  intro id ref hmem
  rcases List.mem_cons.mp hmem with heq | hrest
  · contradiction
  · exact h id ref hrest

/-- A pending record that is held. -/
theorem Tracker.WellFormed.pending_records (h : t.WellFormed cfg) (hobj : t.Holds obj)
    (hstatus : (t.heap obj).status = .pending) : ∃ hash, (t.heap obj).txHash = some hash ∧
      t.Records (t.heap obj).key hash ((t.heap obj).network.or (t.heap obj).action.network) := by
  obtain ⟨hash, hhash, hne⟩ := truthy_iff.mp ((h.coherent _ hobj.mem_list).hash hstatus)
  refine ⟨hash, hhash, _, hobj.mem_list, rfl, rfl, hhash, hne, ?_, ?_⟩
  · simp [hstatus]
  · simp [hstatus]

theorem poll_confirms {polls : ℕ} {duplicate : Bool} (h : t.WellFormed cfg) (hobj : t.Holds obj)
    (hstatus : (t.heap obj).status = .pending) :
    Confirms t (t.poll now id obj polls duplicate).2 := by
  intro id' ref hmem
  simp only [Tracker.poll, Tracker.assign_heap_self, List.mem_singleton, Effect.confirm.injEq] at hmem
  rw [hmem.2]
  exact h.pending_records hobj hstatus

theorem reconcile_confirms {duplicate : Bool} (h : t.WellFormed cfg) (hobj : t.Holds obj)
    (hstatus : (t.heap obj).status = .pending) :
    Confirms t (t.reconcile cfg now id obj duplicate).2 := by
  simp only [Tracker.reconcile]
  split_ifs
  · exact .silent (by simp)
  · exact .silent (by simp)
  · have hreconciling : ({ t with
        reconciling := update t.reconciling (t.heap obj).key true } : Tracker R).WellFormed cfg :=
      ⟨h.nodup, h.refs, h.coherent, h.fresh, h.running, h.expected⟩
    intro id' ref hmem
    exact poll_confirms hreconciling hobj hstatus id' ref hmem

theorem broadcastFailed_confirms {message : String} (h : t.WellFormed cfg) (hobj : t.Holds obj)
    (hstatus : (t.heap obj).status = .pending) :
    Confirms t (t.broadcastFailed cfg now id obj message).2 := by
  have hnoted := h.touch hobj (touches_noted message)
  have hreconcile : Confirms (t.assign obj (·.noted message))
      ((t.assign obj (·.noted message)).reconcile cfg now id obj false).2 := by
    apply reconcile_confirms hnoted
    · rw [Tracker.Holds, Tracker.assign_heap_self]
      exact hobj
    · rw [Tracker.assign_heap_self]
      exact hstatus
  simp only [Tracker.broadcastFailed]
  apply Confirms.persist
  intro id' ref hmem
  obtain ⟨hash, hhash, hrecords⟩ := hreconcile id' ref hmem
  exact ⟨hash, hhash, hrecords.of_assign fun hrecord => hrecord⟩

theorem submitNew_confirms {action : RelayAction} :
    Confirms t (t'.submitNew cfg now action).2 := by
  simp only [Tracker.submitNew]
  cases t'.getBlockingRecord cfg action with
  | some blocking => exact .silent (by simp)
  | none => exact .silent (by simp [Tracker.persist])

theorem submit_confirms {action : RelayAction} (h : t.WellFormed cfg) :
    Confirms t (t.submit cfg now action).2 := by
  have hsubmission := t.submit_submission cfg now action
  generalize t.submit cfg now action = result at hsubmission ⊢
  cases hsubmission with
  | fresh => exact submitNew_confirms
  | restaged => exact submitNew_confirms.persist
  | answered outcome => exact .silent (by simp)
  | joined running => exact .silent (by simp)
  | attached hget hstatus hinflight =>
      have href := Tracker.get_eq_some hget
      have htracked := h.attach (h.refs _ href).2 (h.holds href) hstatus hinflight
      intro id ref hmem
      exact reconcile_confirms htracked (h.holds href) hstatus id ref hmem

theorem failTask_confirms {reason : RelayTerminalReason} :
    Confirms t (t'.failTask cfg now id obj reason).2 :=
  .silent (by simp [Tracker.failTask, Tracker.persist])

theorem settleSuccess_confirms {result : Option R} {duplicate reconciled : Bool} :
    Confirms t (t'.settleSuccess cfg now id obj result duplicate reconciled).2 :=
  .silent (by simp [Tracker.settleSuccess, Tracker.persist])

theorem staged_confirms {txHash network : Option String} :
    Confirms t (t'.staged cfg now id obj txHash network).2 := by
  cases txHash with
  | none => exact failTask_confirms
  | some hash =>
      simp only [Tracker.staged]
      split_ifs
      · exact failTask_confirms
      · exact .silent (by simp [Tracker.persist])

theorem unsettled_confirms {polls : ℕ} {duplicate : Bool} {state : RelayConfirmationState}
    {error : Option String} :
    Confirms t (t'.unsettled cfg now id obj polls duplicate state error).2 := by
  simp only [Tracker.unsettled]
  split_ifs
  · exact .silent (by simp [Tracker.persist])
  · exact failTask_confirms.persist
  · exact .silent (by simp [Tracker.persist])

theorem confirmed_confirms {polls : ℕ} {duplicate : Bool}
    {answer : Except String (RelayConfirmation R)} :
    Confirms t (t'.confirmed cfg now id obj polls duplicate answer).2 := by
  simp only [Tracker.confirmed]
  cases (confirmationOf answer).state with
  | succeeded => exact settleSuccess_confirms
  | failed => exact failTask_confirms
  | pending => exact unsettled_confirms
  | notFound => exact unsettled_confirms

/-- The confirmer is asked for recorded transactions only. -/
theorem handle_confirms {event : Event R} {result : Tracker R × List (Effect R)}
    (h : t.WellFormed cfg) (hhandle : t.handle cfg now event = some result) :
    Confirms t result.2 := by
  cases Tracker.handle_stretch hhandle with
  | submit action => exact submit_confirms h
  | staged txHash network => exact staged_confirms
  | rejected e => exact failTask_confirms
  | stagingTimeout e => exact failTask_confirms
  | broadcasted settled => exact settleSuccess_confirms
  | broadcastFailed message htask =>
      exact broadcastFailed_confirms h (h.task_holds htask) (h.pending htask rfl)
  | broadcastTimeout message htask =>
      exact broadcastFailed_confirms h (h.task_holds htask) (h.pending htask rfl)
  | confirmed answer => exact confirmed_confirms
  | slept htask => exact poll_confirms h (h.task_holds htask) (h.pending htask rfl)

/-- What a stager resolves with is recorded, and saved before it is broadcast. -/
theorem staged_records {name : String} {action : RelayAction} {txHash : Option String}
    {result : Tracker R × List (Effect R)} {id' : ℕ} (h : t.WellFormed cfg)
    (hhandle : t.handle cfg now (.staged id (.resolved txHash (some name))) = some result)
    (hbroadcast : .broadcast id' action key hash ∈ result.2) :
    id' = id ∧ txHash = some hash ∧ result.1.Records key hash (some name) ∧
      result.2 = [result.1.persist cfg, .broadcast id' action key hash] := by
  cases Tracker.handle_stretch hhandle with
  | @staged _ obj txHash _ htask =>
      have hsilent : .broadcast id' action key hash ∉ (t.missingHash cfg now id obj).2 :=
        missingHash_calm.silent
      cases txHash with
      | none => exact absurd hbroadcast hsilent
      | some sent =>
          simp only [Tracker.staged] at hbroadcast ⊢
          split_ifs at hbroadcast ⊢ with hempty
          · exact absurd hbroadcast hsilent
          · simp only [Tracker.persist, Tracker.assign_heap_self, List.mem_cons, reduceCtorEq,
              false_or, List.not_mem_nil, or_false, Effect.broadcast.injEq] at hbroadcast
            obtain ⟨rfl, rfl, rfl, rfl⟩ := hbroadcast
            refine ⟨rfl, rfl, ?_, ?_⟩
            · refine ⟨_, List.mem_map.mpr ⟨_, h.task_holds htask, rfl⟩, ?_⟩
              simp only [Tracker.await, Task.obj, Tracker.assign_heap_self]
              refine ⟨rfl, rfl, rfl, hempty, ?_, ?_⟩
              · simp [SubmissionRecord.stagedWith]
              · simp [SubmissionRecord.stagedWith]
            · rw [Tracker.assign_heap_self]
              rfl

/-! ## The store -/

/-- What is recorded is in the store, wherever the effects of a stretch are cut. -/
theorem Retains.cut {result : Tracker R × List (Effect R)} {front : List (Effect R)}
    (h : Retains t result) (hfront : front <+: result.2) (hrecords : t.Records key hash network)
    (hstored : RecordedIn stored key hash network) :
    RecordedIn ((process cfg).applyAll stored front) key hash network := by
  refine applyAll_of_saves (P := fun list => RecordedIn list key hash network) hstored ?_
  intro list hsave
  exact h.saves hrecords (hfront.subset hsave)

/-- Whatever is on record is in the store. -/
theorem handle_durable {event : Event R} (hwf : t.WellFormed cfg)
    (hhandle : t.handle cfg now event = some (t', effects))
    (hdurable : ∀ {key hash network}, t.Records key hash network →
      RecordedIn stored key hash network) (hrecords : t'.Records key hash network) :
    RecordedIn ((process cfg).applyAll stored effects) key hash network := by
  rcases handle_reflects hwf hhandle with hreflects | ⟨id, action, key', hash', heffects⟩
  · have hbefore : t.Records key hash network := hreflects.records hrecords
    have hretains : Retains t (t', effects) := handle_retains hwf hhandle
    exact hretains.cut (List.prefix_refl _) hbefore (hdurable hbefore)
  · dsimp only at heffects
    rw [heffects]
    exact hrecords.persisted

theorem PersistedSubmission.Records.of_restored {p : PersistedSubmission R} (hp : p.Coherent cfg)
    (h : (restoredRecord cfg p).Records key hash network) : p.Records key hash network := by
  obtain ⟨hkey, hnetwork, hhash, hne, hstaged, hfinal⟩ := h
  have htruthy : truthy p.txHash := truthy_iff.mpr ⟨hash, hhash, hne⟩
  refine ⟨hkey, ?_, hhash, hne, ?_, ?_⟩
  · rw [← hnetwork]
    exact Option.or_self.symm
  · intro hflight
    have hbare : p.txHash = none := hp.bare hflight
    simp [hbare, truthy] at htruthy
  · intro hfailed hreason
    have hstatus : (restoredRecord cfg p).status = .failed := by
      simp [restoredRecord, normalizePersistedStatus, hfailed]
    apply hfinal hstatus
    simp [restoredRecord, normalizePersistedStatus, hfailed, hreason]

/-- A restart finds what is in the store. -/
theorem Saved.restore_records {past : List (Effect R)} (h : Saved cfg stored past) :
    (Tracker.empty.restore cfg stored).Records key hash network ↔
      RecordedIn stored key hash network := by
  obtain ⟨j, hsends, hstored⟩ := h
  have hkeys := hsends.invariant.saved.nodup
  rw [← hstored.keys] at hkeys
  have hlist : (Tracker.empty.restore cfg stored).list = stored.map (restoredRecord cfg) :=
    (restore_spec stored Tracker.WellFormed.empty hstored.coherent hkeys
      (by simp [Tracker.empty])).2
  rw [Tracker.Records, hlist]
  constructor
  · rintro ⟨r, hr, hrecords⟩
    obtain ⟨p, hp, rfl⟩ := List.mem_map.mp hr
    exact ⟨p, hp, PersistedSubmission.Records.of_restored (hstored.coherent p hp) hrecords⟩
  · rintro ⟨p, hp, hrecords⟩
    exact ⟨_, List.mem_map_of_mem hp, hrecords.restored⟩

end OverSync.RelaySubmissionTracker
