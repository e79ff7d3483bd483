import OverSync.Verification.RelaySubmissionTracker.Semantics

/-! # The tracker refines a write-ahead journal

Every stretch of code makes moves of the journal, and what it saves and broadcasts is what
these moves save and send. A crash cuts the effects of a stretch, so the moves are given
together with the effects they go with. -/

namespace OverSync.RelaySubmissionTracker

open Library Function

variable {R : Type}

/-- The job an effect sends. -/
def Effect.sent (shortDigest : ShortDigest) :
    Effect R → Option (Journal.Sent String String String)
  | .broadcast _ action key txHash =>
    some ⟨key, computeOrderKey shortDigest action.orderId action.side, txHash⟩
  | _ => none

/-- The job whose preparation an effect starts. -/
def Effect.staged (shortDigest : ShortDigest) : Effect R → Option String
  | .stage _ action => some (computeSubmissionKey shortDigest action)
  | _ => none

/-- The effects that the journal does not see. -/
def Effect.quiet : Effect R → Bool
  | .save _ => false
  | .stage .. => false
  | .broadcast .. => false
  | _ => true

variable (cfg : RelayTrackerConfig R)

/-- `Trail cfg j effects moves j'`: the moves lead from `j` to `j'`, and the effects are issued
on the way. -/
inductive Trail : Ledger → List (Effect R) → List Move → Ledger → Prop where
  | done {j} : Trail j [] [] j
  | inner {j j₁ j' move effects moves} : Journal.Step j move j₁ → move.inner →
      Trail j₁ effects moves j' → Trail j effects (move :: moves) j'
  | saved {j j' entries effects moves} : entries.map PersistedSubmission.entry = j.memory →
      (∀ p ∈ entries, PersistedSubmission.Coherent cfg p) →
      Trail { j with saved := j.memory } effects moves j' →
      Trail j (.save entries :: effects) (.save :: moves) j'
  | staged {j j₁ j' id action effects moves} :
      Journal.Step j (.start (computeSubmissionKey cfg.shortDigest action)) j₁ →
      Trail j₁ effects moves j' →
      Trail j (.stage id action :: effects)
        (.start (computeSubmissionKey cfg.shortDigest action) :: moves) j'
  | sent {j j₁ j' id action key txHash effects moves} :
      Journal.Step j
        (.send ⟨key, computeOrderKey cfg.shortDigest action.orderId action.side, txHash⟩) j₁ →
      Trail j₁ effects moves j' →
      Trail j (.broadcast id action key txHash :: effects)
        (.send ⟨key, computeOrderKey cfg.shortDigest action.orderId action.side, txHash⟩ :: moves)
        j'
  | other {j j' effect effects moves} : Effect.quiet effect → Trail j effects moves j' →
      Trail j (effect :: effects) moves j'

/-- The stored list holds the saved entries. -/
structure Stored (stored : List (PersistedSubmission R)) (j : Ledger) : Prop where
  entries_eq : stored.map PersistedSubmission.entry = j.saved
  coherent : ∀ p ∈ stored, PersistedSubmission.Coherent cfg p

/-- The tracker holds the entries in memory. -/
structure Matches (t : Tracker R) (j : Ledger) : Prop where
  wellFormed : t.WellFormed cfg
  entries_eq : t.entries = j.memory

variable {cfg} {t t' : Tracker R} {j j' : Ledger} {effects : List (Effect R)} {moves : List Move}
  {stored : List (PersistedSubmission R)}

/-- What was issued before a crash belongs to the first moves. -/
theorem Trail.prefix {front : List (Effect R)} (h : Trail cfg j effects moves j')
    (hfront : front <+: effects) :
    ∃ moves' j₁, moves' <+: moves ∧ Trail cfg j front moves' j₁ := by
  induction h generalizing front with
  | done =>
      rw [List.prefix_nil.mp hfront]
      exact ⟨[], _, List.nil_prefix, .done⟩
  | inner hstep hinner _ ih =>
      rcases ih hfront with ⟨moves', j₁, hmoves, htrail⟩
      exact ⟨_, j₁, List.cons_prefix_cons.mpr ⟨rfl, hmoves⟩, .inner hstep hinner htrail⟩
  | saved hentries hcoherent _ ih =>
      cases front with
      | nil => exact ⟨[], _, List.nil_prefix, .done⟩
      | cons effect front =>
          rcases List.cons_prefix_cons.mp hfront with ⟨rfl, hrest⟩
          rcases ih hrest with ⟨moves', j₁, hmoves, htrail⟩
          exact ⟨_, j₁, List.cons_prefix_cons.mpr ⟨rfl, hmoves⟩, .saved hentries hcoherent htrail⟩
  | staged hstep _ ih =>
      cases front with
      | nil => exact ⟨[], _, List.nil_prefix, .done⟩
      | cons effect front =>
          rcases List.cons_prefix_cons.mp hfront with ⟨rfl, hrest⟩
          rcases ih hrest with ⟨moves', j₁, hmoves, htrail⟩
          exact ⟨_, j₁, List.cons_prefix_cons.mpr ⟨rfl, hmoves⟩, .staged hstep htrail⟩
  | sent hstep _ ih =>
      cases front with
      | nil => exact ⟨[], _, List.nil_prefix, .done⟩
      | cons effect front =>
          rcases List.cons_prefix_cons.mp hfront with ⟨rfl, hrest⟩
          rcases ih hrest with ⟨moves', j₁, hmoves, htrail⟩
          exact ⟨_, j₁, List.cons_prefix_cons.mpr ⟨rfl, hmoves⟩, .sent hstep htrail⟩
  | other hquiet _ ih =>
      cases front with
      | nil => exact ⟨[], _, List.nil_prefix, .done⟩
      | cons effect front =>
          rcases List.cons_prefix_cons.mp hfront with ⟨rfl, hrest⟩
          rcases ih hrest with ⟨moves', j₁, hmoves, htrail⟩
          exact ⟨moves', j₁, hmoves, .other hquiet htrail⟩

theorem Trail.execution (h : Trail cfg j effects moves j') :
    Execution Journal.Step j moves j' := by
  induction h with
  | done => exact .refl
  | inner hstep _ _ ih => exact ih.cons hstep
  | saved _ _ _ ih => exact ih.cons .save
  | staged hstep _ ih => exact ih.cons hstep
  | sent hstep _ ih => exact ih.cons hstep
  | other _ _ ih => exact ih

theorem Trail.sentBy (h : Trail cfg j effects moves j') :
    Journal.sentBy moves = effects.filterMap (Effect.sent cfg.shortDigest) := by
  induction h with
  | done => rfl
  | @inner _ _ _ move _ _ hstep hinner _ ih =>
      have hnone : move.sent = none := by cases move <;> first | rfl | contradiction
      rw [← ih, Journal.sentBy, List.filterMap_cons_none hnone]
      rfl
  | saved _ _ _ ih => exact ih
  | staged _ _ ih => exact ih
  | sent _ _ ih => exact congrArg (List.cons _) ih
  | @other _ _ effect _ _ hquiet _ ih =>
      have hnone : effect.sent cfg.shortDigest = none := by
        cases effect <;> first | rfl | contradiction
      rw [ih, List.filterMap_cons_none hnone]

theorem Trail.started (h : Trail cfg j effects moves j') :
    moves.filterMap Journal.Move.started = effects.filterMap (Effect.staged cfg.shortDigest) := by
  induction h with
  | done => rfl
  | @inner _ _ _ move _ _ _ hinner _ ih =>
      have hnone : move.started = none := by cases move <;> first | rfl | contradiction
      rw [← ih, List.filterMap_cons_none hnone]
  | saved _ _ _ ih => exact ih
  | staged _ _ ih => exact congrArg (List.cons _) ih
  | sent _ _ ih => exact ih
  | @other _ _ effect _ _ hquiet _ ih =>
      have hnone : effect.staged cfg.shortDigest = none := by
        cases effect <;> first | rfl | contradiction
      rw [ih, List.filterMap_cons_none hnone]

theorem saved_of_inner {move : Move} (hstep : Journal.Step j move j') (hinner : move.inner) :
    j'.saved = j.saved := by
  cases hstep with
  | start | send | save | crash => contradiction
  | reserve | commit | settle | abandon | cancel | release => rfl

theorem Trail.stored_applyAll (h : Trail cfg j effects moves j') (hstored : Stored cfg stored j) :
    Stored cfg ((process cfg).applyAll stored effects) j' := by
  induction h generalizing stored with
  | done => exact hstored
  | inner hstep hinner _ ih =>
      apply ih
      exact ⟨hstored.entries_eq.trans (saved_of_inner hstep hinner).symm, hstored.coherent⟩
  | saved hentries hcoherent _ ih =>
      rw [Machine.applyAll_cons]
      exact ih ⟨hentries, hcoherent⟩
  | staged hstep _ ih =>
      rw [Machine.applyAll_cons]
      cases hstep with
      | start => exact ih hstored
  | sent hstep _ ih =>
      rw [Machine.applyAll_cons]
      apply ih
      cases hstep with
      | send => exact ⟨hstored.entries_eq, hstored.coherent⟩
  | @other _ _ effect _ _ hquiet _ ih =>
      have hstore : effect.store stored = stored := by
        cases effect <;> first | rfl | contradiction
      rw [Machine.applyAll_cons]
      apply ih
      rw [show (process cfg).apply stored effect = stored from hstore]
      exact hstored

/-! ## Stretches of code -/

variable (cfg) in
/-- The code reached the tracker `result.1` and issued the effects `result.2`. -/
def Makes (j : Ledger) (moves : List Move) (result : Tracker R × List (Effect R)) : Prop :=
  ∃ j', Trail cfg j result.2 moves j' ∧ Matches cfg result.1 j'

variable {obj id now : ℕ} {task : Task} {f : SubmissionRecord R → SubmissionRecord R}

theorem Makes.quiet (h : Matches cfg t j) {effect : Effect R} (hquiet : effect.quiet) :
    Makes cfg j [] (t, [effect]) :=
  ⟨j, .other hquiet .done, h⟩

theorem Makes.inner {move : Move} {result : Tracker R × List (Effect R)}
    (hstep : Journal.Step j move j') (hinner : move.inner) (h : Makes cfg j' moves result) :
    Makes cfg j (move :: moves) result := by
  rcases h with ⟨j₁, htrail, hmatches⟩
  exact ⟨j₁, .inner hstep hinner htrail, hmatches⟩

/-- `persist` saves what the tracker holds. -/
theorem Makes.persist (hentries : t.entries = j.memory) (hcoherent : ∀ r ∈ t.list, r.Coherent cfg)
    (h : Makes cfg { j with saved := j.memory } moves (t', effects)) :
    Makes cfg j (.save :: moves) (t', t.persist cfg :: effects) := by
  rcases h with ⟨j₁, htrail, hmatches⟩
  refine ⟨j₁, .saved ?_ ?_ htrail, hmatches⟩
  · rw [← hentries, Tracker.snapshot, List.map_map]
    rfl
  · intro p hp
    rcases List.mem_map.mp hp with ⟨r, hr, rfl⟩
    exact (hcoherent r hr).persisted

theorem Matches.mem (h : Matches cfg t j) (hobj : t.Holds obj) :
    (t.heap obj).entry ∈ j.memory := by
  rw [← h.entries_eq]
  exact hobj.mem_entries

theorem Matches.touch (h : Matches cfg t j) (hobj : t.Holds obj) (hf : Touches f) :
    Matches cfg (t.assign obj f) j :=
  ⟨h.wellFormed.touch hobj hf, hf.entries_assign.trans h.entries_eq⟩

theorem Matches.finish (h : Matches cfg t j) (htask : t.tasks id = some task) :
    Matches cfg (t.finish id (t.heap task.obj).key) j :=
  ⟨h.wellFormed.finish htask, h.entries_eq⟩

theorem Matches.save (h : Matches cfg t j) : Matches cfg t { j with saved := j.memory } :=
  ⟨h.wellFormed, h.entries_eq⟩

theorem Matches.reconciling (h : Matches cfg t j) (reconciling : String → Bool) :
    Matches cfg { t with reconciling := reconciling } j :=
  ⟨⟨h.wellFormed.nodup, h.wellFormed.refs, h.wellFormed.coherent, h.wellFormed.fresh,
    h.wellFormed.running, h.wellFormed.expected⟩, h.entries_eq⟩

theorem Matches.endReconcile (h : Matches cfg t j) (obj : ℕ) :
    Matches cfg (t.endReconcile obj) j :=
  h.reconciling _

/-- An operation past staging goes on to its next `await`. -/
theorem Matches.advance (h : Matches cfg t j) (task' : Task) (htask : t.tasks id = some task)
    (hexpects : task.Expects .pending) (hobj : task'.obj = task.obj)
    (hexpects' : task'.Expects .pending) (hf : Touches f) :
    Matches cfg ((t.assign task.obj f).await id task') j where
  wellFormed := by
    have hholds := h.wellFormed.task_holds htask
    have hstatus := h.wellFormed.pending htask hexpects
    apply h.wellFormed.advance task' htask hobj (hf.key _)
    · exact hf.coherent (h.wellFormed.coherent _ hholds.mem_list)
    · rw [hf.status, hstatus]
      exact hexpects'
  entries_eq := hf.entries_assign.trans h.entries_eq

/-- The record of an operation that waits for the stager. -/
theorem Matches.reserved (h : Matches cfg t j) (htask : t.tasks id = some (.staging obj)) :
    (t.heap obj).txHash = none ∧
      ⟨(t.heap obj).key, (t.heap obj).orderKey, .reserved⟩ ∈ j.memory := by
  have hholds : t.Holds obj := h.wellFormed.task_holds htask
  have hstatus : (t.heap obj).status = .inFlight := h.wellFormed.expected id _ htask
  have hmem := h.mem hholds
  rw [SubmissionRecord.entry, hstatus] at hmem
  exact ⟨(h.wellFormed.coherent _ hholds.mem_list).bare hstatus, hmem⟩

/-- The record of an operation past staging. -/
theorem Matches.committed (h : Matches cfg t j) (htask : t.tasks id = some task)
    (hexpects : task.Expects .pending) :
    ∃ hash, (t.heap task.obj).txHash = some hash ∧ hash ≠ "" ∧
      ⟨(t.heap task.obj).key, (t.heap task.obj).orderKey, .committed hash⟩ ∈ j.memory := by
  have hholds : t.Holds task.obj := h.wellFormed.task_holds htask
  have hstatus := h.wellFormed.pending htask hexpects
  have htruthy := (h.wellFormed.coherent _ hholds.mem_list).hash hstatus
  rcases truthy_iff.mp htruthy with ⟨hash, hhash, hne⟩
  have hmem := h.mem hholds
  rw [SubmissionRecord.entry, hstatus, hhash] at hmem
  exact ⟨hash, hhash, hne, hmem⟩

/-- An operation settles, and its record changes its phase. -/
theorem Matches.settle (h : Matches cfg t j) (htask : t.tasks id = some task)
    (hkey : (f (t.heap task.obj)).key = (t.heap task.obj).key)
    (horderKey : (f (t.heap task.obj)).orderKey = (t.heap task.obj).orderKey)
    (hcoherent : (f (t.heap task.obj)).Coherent cfg)
    (hmemory : j'.memory = Journal.setPhase (t.heap task.obj).key
      (phaseOf (f (t.heap task.obj)).status (f (t.heap task.obj)).txHash
        (f (t.heap task.obj)).terminalReason) j.memory) :
    Matches cfg ((t.assign task.obj f).finish id (t.heap task.obj).key) j' where
  wellFormed := h.wellFormed.settle htask hkey hcoherent
  entries_eq := by
    rw [hmemory, ← h.entries_eq]
    exact h.wellFormed.entries_assign (h.wellFormed.task_holds htask) hkey horderKey

/-- The same with `persist` and the settlement of the promise. -/
theorem Makes.settle {effect : Effect R} (h : Matches cfg t j)
    (htask : t.tasks id = some task)
    (hkey : (f (t.heap task.obj)).key = (t.heap task.obj).key)
    (horderKey : (f (t.heap task.obj)).orderKey = (t.heap task.obj).orderKey)
    (hcoherent : (f (t.heap task.obj)).Coherent cfg) (hquiet : effect.quiet)
    (hmemory : j'.memory = Journal.setPhase (t.heap task.obj).key
      (phaseOf (f (t.heap task.obj)).status (f (t.heap task.obj)).txHash
        (f (t.heap task.obj)).terminalReason) j.memory) :
    Makes cfg j' [.save] ((t.assign task.obj f).finish id ((t.assign task.obj f).heap task.obj).key,
      [(t.assign task.obj f).persist cfg, effect]) := by
  have hmatches := h.settle htask hkey horderKey hcoherent hmemory
  rw [Tracker.assign_heap_self, hkey]
  exact .persist hmatches.entries_eq hmatches.wellFormed.coherent (.quiet hmatches.save hquiet)

theorem failedWith_coherent {r : SubmissionRecord R} (h : r.Coherent cfg)
    (reason : RelayTerminalReason) : (r.failedWith now reason).Coherent cfg :=
  ⟨h.key_eq, h.orderKey_eq, nofun, nofun⟩

variable (now) in
theorem failTask_staging (h : Matches cfg t j) (htask : t.tasks id = some (.staging obj))
    (reason : RelayTerminalReason) :
    Makes cfg j [.cancel (t.heap obj).key, .save] (t.failTask cfg now id obj reason) := by
  have hreserved := h.reserved htask
  apply Makes.inner (.cancel hreserved.2) rfl
  apply Makes.settle h htask rfl rfl
  · exact failedWith_coherent (h.wellFormed.coherent _ (h.wellFormed.task_holds htask).mem_list) _
  · rfl
  · simp [SubmissionRecord.failedWith, phaseOf, Task.obj, hreserved.1, truthy]

variable (now) in
theorem failTask_pending {hash : String} (h : Matches cfg t j) (htask : t.tasks id = some task)
    (hexpects : task.Expects .pending) (hhash : (t.heap task.obj).txHash = some hash)
    {reason : RelayTerminalReason} (hreason : reason ≠ .stagingFailed) :
    Makes cfg j [.abandon (t.heap task.obj).key hash reason, .save]
      (t.failTask cfg now id task.obj reason) := by
  rcases h.committed htask hexpects with ⟨hash', hhash', hne, hmem⟩
  rw [hhash, Option.some.injEq] at hhash'
  subst hhash'
  apply Makes.inner (.abandon hmem) rfl
  apply Makes.settle h htask rfl rfl
  · exact failedWith_coherent (h.wellFormed.coherent _ (h.wellFormed.task_holds htask).mem_list) _
  · rfl
  · simp [SubmissionRecord.failedWith, phaseOf, hhash, truthy, hne, hreason]

/-- The polling loop ends in a terminal failure. -/
theorem failTask_polling {hash : String} {polls : ℕ} {duplicate : Bool} (h : Matches cfg t j)
    (htask : t.tasks id = some (.polling obj polls duplicate)) (hf : Touches f)
    (hhash : (t.heap obj).txHash = some hash) {reason : RelayTerminalReason}
    (hreason : reason ≠ .stagingFailed) :
    Makes cfg j [.abandon (t.heap obj).key hash reason, .save]
      (((t.assign obj f).endReconcile obj).failTask cfg now id obj reason) := by
  have htouched := (h.touch (h.wellFormed.task_holds htask) hf).endReconcile obj
  have hhash' : ((t.assign obj f).heap obj).txHash = some hash :=
    (hf.assign_txHash obj).trans hhash
  have hmakes := failTask_pending now htouched htask rfl hhash' hreason
  have hkey : ((t.assign obj f).heap obj).key = (t.heap obj).key :=
    Tracker.assign_key (hf.key _) obj
  rw [← hkey]
  exact hmakes

theorem settleSuccess_makes {hash : String} {result : Option R} {duplicate reconciled : Bool}
    (h : Matches cfg t j) (htask : t.tasks id = some task) (hexpects : task.Expects .pending)
    (hhash : (t.heap task.obj).txHash = some hash) :
    Makes cfg j [.settle (t.heap task.obj).key hash, .save]
      (t.settleSuccess cfg now id task.obj result duplicate reconciled) := by
  rcases h.committed htask hexpects with ⟨hash', hhash', hne, hmem⟩
  rw [hhash, Option.some.injEq] at hhash'
  subst hhash'
  have hcoherent := h.wellFormed.coherent _ (h.wellFormed.task_holds htask).mem_list
  apply Makes.inner (.settle hmem) rfl
  apply Makes.settle h htask rfl rfl
  · exact ⟨hcoherent.key_eq, hcoherent.orderKey_eq, nofun, nofun⟩
  · rfl
  · simp [SubmissionRecord.succeededWith, phaseOf, hhash]

theorem touches_noted (message : String) :
    Touches fun r : SubmissionRecord R => r.noted message :=
  ⟨fun _ => rfl, fun _ => rfl, fun _ => rfl, fun _ => rfl, fun _ => rfl, fun _ => rfl⟩

theorem touches_attempted : Touches fun r : SubmissionRecord R => r.attempted now :=
  ⟨fun _ => rfl, fun _ => rfl, fun _ => rfl, fun _ => rfl, fun _ => rfl, fun _ => rfl⟩

theorem poll_makes {polls : ℕ} {duplicate : Bool} (h : Matches cfg t j)
    (htask : t.tasks id = some task) (hexpects : task.Expects .pending) :
    Makes cfg j [] (t.poll now id task.obj polls duplicate) :=
  .quiet (h.advance (.polling task.obj (polls + 1) duplicate) htask hexpects rfl rfl
    touches_attempted) rfl

theorem reconcile_makes {duplicate : Bool} (h : Matches cfg t j)
    (htask : t.tasks id = some task) (hexpects : task.Expects .pending) :
    Makes cfg j [] (t.reconcile cfg now id task.obj duplicate) := by
  simp only [Tracker.reconcile]
  split_ifs
  · exact .quiet (h.finish htask) rfl
  · exact .quiet (h.finish htask) rfl
  · exact poll_makes (h.reconciling _) htask hexpects

theorem stagingFailed_makes {e : StageError} (h : Matches cfg t j)
    (htask : t.tasks id = some (.staging obj)) :
    Makes cfg j [.cancel (t.heap obj).key, .save] (t.stagingFailed cfg now id obj e) := by
  have htouched := h.touch (h.wellFormed.task_holds htask) (touches_noted e.message)
  have hmakes := failTask_staging now htouched htask
  rw [Task.obj, Tracker.assign_heap_self] at hmakes
  exact hmakes _

theorem missingHash_makes (h : Matches cfg t j) (htask : t.tasks id = some (.staging obj)) :
    Makes cfg j [.cancel (t.heap obj).key, .save] (t.missingHash cfg now id obj) := by
  have htouched := h.touch (h.wellFormed.task_holds htask)
    (touches_noted "stager did not provide a transaction hash before broadcast")
  have hmakes := failTask_staging now htouched htask
  rw [Task.obj, Tracker.assign_heap_self] at hmakes
  exact hmakes _

/-- The moves of an operation that was staged under a hash. -/
def launch (record : SubmissionRecord R) (hash : String) : List Move :=
  [.commit record.key hash, .save, .send ⟨record.key, record.orderKey, hash⟩]

theorem staged_makes {hash : String} {network : Option String} (h : Matches cfg t j)
    (htask : t.tasks id = some (.staging obj)) (hne : hash ≠ "") :
    Makes cfg j (launch (t.heap obj) hash) (t.staged cfg now id obj (some hash) network) := by
  have hholds : t.Holds obj := h.wellFormed.task_holds htask
  have hcoherent := h.wellFormed.coherent _ hholds.mem_list
  have hmem := (h.reserved htask).2
  let t' := (t.assign obj (·.stagedWith hash network)).await id (.broadcasting obj)
  let committed := Journal.setPhase (t.heap obj).key (.committed hash) j.memory
  have hwf : t'.WellFormed cfg := by
    apply h.wellFormed.advance (f := (·.stagedWith hash network)) (.broadcasting obj) htask rfl rfl
      _ rfl
    have htruthy : truthy (some hash) := truthy_iff.mpr ⟨hash, rfl, hne⟩
    exact ⟨hcoherent.key_eq, hcoherent.orderKey_eq, nofun, fun _ => htruthy⟩
  have hentries : t'.entries = committed := by
    rw [show committed = Journal.setPhase _ _ j.memory from rfl, ← h.entries_eq]
    exact h.wellFormed.entries_assign (f := (·.stagedWith hash network)) hholds rfl rfl
  simp only [Tracker.staged, hne, if_false, launch]
  apply Makes.inner (.commit hmem) rfl
  apply Makes.persist hentries hwf.coherent
  refine ⟨⟨committed, committed, none⟩, ?_, hwf, hentries⟩
  have hsend : ⟨(t.heap obj).key, (t.heap obj).orderKey, .committed hash⟩ ∈ committed :=
    Journal.mem_setPhase_self hmem
  rw [hcoherent.orderKey_eq] at hsend ⊢
  rw [Tracker.assign_heap_self]
  exact .sent (.send rfl hsend hsend) .done

theorem broadcastFailed_makes {message : String} (h : Matches cfg t j)
    (htask : t.tasks id = some (.broadcasting obj)) :
    Makes cfg j [.save] (t.broadcastFailed cfg now id obj message) := by
  have htouched := h.touch (h.wellFormed.task_holds htask) (touches_noted message)
  apply Makes.persist htouched.entries_eq htouched.wellFormed.coherent
  exact reconcile_makes htouched.save htask rfl

/-! ## What an event leads to -/

/-- The reason an answer gives for a terminal failure. -/
def RelayConfirmationState.reason : RelayConfirmationState → Option RelayTerminalReason
  | .failed => some .failed
  | .notFound => some .notFound
  | _ => none

variable (cfg) in
/-- Why a stretch that starts with the event makes the move. -/
def Justified (t : Tracker R) (event : Event R) : Move → Prop
  | .reserve key lock => ∃ action, event = .submit action ∧
      key = computeSubmissionKey cfg.shortDigest action ∧
      lock = computeOrderKey cfg.shortDigest action.orderId action.side
  | .start key => ∃ action, event = .submit action ∧
      key = computeSubmissionKey cfg.shortDigest action ∧
      (t.get key = none ∨ t.restageable key)
  | .release key => ∃ action, event = .submit action ∧
      key = computeSubmissionKey cfg.shortDigest action ∧ t.restageable key
  | .commit key hash => ∃ id network obj, event = .staged id (.resolved (some hash) network) ∧
      t.tasks id = some (.staging obj) ∧ (t.heap obj).key = key
  | .abandon key hash reason => ∃ id answer obj polls duplicate, event = .confirmed id answer ∧
      t.tasks id = some (.polling obj polls duplicate) ∧ (t.heap obj).key = key ∧
      (t.heap obj).txHash = some hash ∧ (confirmationOf answer).state.reason = some reason ∧
      (reason = .notFound → cfg.maxAttempts ≤ polls)
  | _ => True

theorem unsettled_makes {polls : ℕ} {duplicate : Bool} {state : RelayConfirmationState}
    {error : Option String} {hash : String} (h : Matches cfg t j)
    (htask : t.tasks id = some (.polling obj polls duplicate))
    (hhash : (t.heap obj).txHash = some hash) :
    ∃ moves, Makes cfg j moves (t.unsettled cfg now id obj polls duplicate state error) ∧
      ∀ move ∈ moves, move = .save ∨
        move = .abandon (t.heap obj).key hash .notFound ∧ state = .notFound ∧
          cfg.maxAttempts ≤ polls := by
  have hholds : t.Holds obj := h.wellFormed.task_holds htask
  have hf : Touches fun r : SubmissionRecord R => r.noted (r.pollError state error) :=
    ⟨fun _ => rfl, fun _ => rfl, fun _ => rfl, fun _ => rfl, fun _ => rfl, fun _ => rfl⟩
  have htouched := h.touch hholds hf
  simp only [Tracker.unsettled]
  split_ifs with hpolls hstate
  · refine ⟨[.save], ?_, by simp⟩
    apply Makes.persist htouched.entries_eq htouched.wellFormed.coherent
    exact .quiet (h.save.advance (.sleeping obj polls duplicate) htask rfl rfl rfl hf) rfl
  · have hspent : cfg.maxAttempts ≤ polls := by omega
    refine ⟨[.save, .abandon (t.heap obj).key hash .notFound, .save], ?_, by simp [hstate, hspent]⟩
    apply Makes.persist htouched.entries_eq htouched.wellFormed.coherent
    exact failTask_polling h.save htask hf hhash nofun
  · refine ⟨[.save, .save], ?_, by simp⟩
    apply Makes.persist htouched.entries_eq htouched.wellFormed.coherent
    apply Makes.persist htouched.save.entries_eq htouched.wellFormed.coherent
    exact .quiet ((htouched.save.save.endReconcile obj).finish htask) rfl

theorem confirmed_makes {polls : ℕ} {duplicate : Bool}
    {answer : Except String (RelayConfirmation R)} (h : Matches cfg t j)
    (htask : t.tasks id = some (.polling obj polls duplicate)) :
    ∃ moves, Makes cfg j moves (t.confirmed cfg now id obj polls duplicate answer) ∧
      ∀ move ∈ moves, Justified cfg t (.confirmed id answer) move := by
  have hholds : t.Holds obj := h.wellFormed.task_holds htask
  rcases h.committed htask rfl with ⟨hash, hhash, hne, hmem⟩
  have hjustified : ∀ reason, (confirmationOf answer).state.reason = some reason →
      (reason = .notFound → cfg.maxAttempts ≤ polls) →
      Justified cfg t (.confirmed id answer) (.abandon (t.heap obj).key hash reason) :=
    fun reason hreason hpolls =>
      ⟨id, answer, obj, polls, duplicate, rfl, htask, rfl, hhash, hreason, hpolls⟩
  cases hstate : (confirmationOf answer).state with
  | succeeded =>
      simp only [Tracker.confirmed, hstate]
      refine ⟨[.settle (t.heap obj).key hash, .save], ?_, by simp [Justified]⟩
      exact settleSuccess_makes (h.endReconcile obj) htask rfl hhash
  | failed =>
      simp only [Tracker.confirmed, hstate]
      have habandon := hjustified .failed (by rw [hstate]; rfl) nofun
      refine ⟨[.abandon (t.heap obj).key hash .failed, .save], ?_, ?_⟩
      · exact failTask_polling h htask (touches_noted _) hhash nofun
      · intro move hmove
        rcases List.mem_pair.mp hmove with rfl | rfl
        · exact habandon
        · trivial
  | pending | notFound =>
      simp only [Tracker.confirmed, hstate]
      rcases unsettled_makes h htask hhash with ⟨moves, hmakes, hmoves⟩
      refine ⟨moves, hmakes, ?_⟩
      intro move hmove
      rcases hmoves move hmove with rfl | ⟨rfl, hnotFound, hpolls⟩
      · trivial
      · apply hjustified _ _ fun _ => hpolls
        rw [hstate, hnotFound]
        rfl

variable (cfg) in
/-- The moves of a submission that starts. -/
def reservation (action : RelayAction) : List Move :=
  [.reserve (computeSubmissionKey cfg.shortDigest action)
    (computeOrderKey cfg.shortDigest action.orderId action.side), .save,
    .start (computeSubmissionKey cfg.shortDigest action)]

variable {action : RelayAction}

theorem Matches.entry_key_ne (h : Matches cfg t j) {key : String} (hget : t.get key = none) :
    ∀ e ∈ j.memory, e.key ≠ key := by
  intro e he
  rw [← h.entries_eq] at he
  rcases List.mem_map.mp he with ⟨r, hr, rfl⟩
  rcases List.mem_map.mp hr with ⟨ref, href, rfl⟩
  have hkey := (h.wellFormed.refs ref href).2
  intro heq
  exact Tracker.get_eq_none hget ref href (hkey.symm.trans heq)

theorem Matches.lock_free (h : Matches cfg t j)
    (hget : t.get (computeSubmissionKey cfg.shortDigest action) = none)
    (hfree : t.getBlockingRecord cfg action = none) :
    ∀ e ∈ j.memory, e.lock = computeOrderKey cfg.shortDigest action.orderId action.side →
      e.phase.active = false := by
  intro e he hlock
  have hkey := h.entry_key_ne hget e he
  rw [← h.entries_eq] at he
  rcases List.mem_map.mp he with ⟨r, hr, rfl⟩
  have hnot := List.find?_eq_none.mp hfree r hr
  simp only [decide_eq_true_eq, not_and, not_not] at hnot
  rw [SubmissionRecord.entry, phaseOf_active, hnot hlock hkey]
  rfl

variable (cfg) in
/-- The job of a new record. -/
def reservedEntry (action : RelayAction) : Entry :=
  ⟨computeSubmissionKey cfg.shortDigest action,
    computeOrderKey cfg.shortDigest action.orderId action.side, .reserved⟩

variable (j' now) in
/-- The new record, once its operation has started. -/
theorem Matches.reserve (h : Matches cfg t j)
    (hget : t.get (computeSubmissionKey cfg.shortDigest action) = none)
    (hmemory : j'.memory = j.memory ++ [reservedEntry cfg action]) :
    Matches cfg (t.insert (newRecord cfg now action)) j' ∧
    Matches cfg (((t.insert (newRecord cfg now action)).assign t.nextObj (·.attempted now)).track
      (computeSubmissionKey cfg.shortDigest action) (.staging t.nextObj)) j' := by
  have hkeys := Tracker.get_eq_none hget
  have hinserted : Matches cfg (t.insert (newRecord cfg now action)) j' := by
    refine ⟨h.wellFormed.insert hkeys (newRecord_coherent now action), ?_⟩
    rw [h.wellFormed.entries_insert, h.entries_eq, hmemory]
    rfl
  have hheap : (t.insert (newRecord cfg now action)).heap t.nextObj = newRecord cfg now action :=
    update_self ..
  have hholds : (t.insert (newRecord cfg now action)).Holds t.nextObj := by
    rw [Tracker.Holds, hheap]
    exact List.mem_append_right _ (List.mem_singleton_self _)
  have hattempted := hinserted.touch hholds touches_attempted (f := (·.attempted now))
  refine ⟨hinserted, ?_, hattempted.entries_eq⟩
  have hnew : ((t.insert (newRecord cfg now action)).assign t.nextObj
      (·.attempted now)).heap t.nextObj = (newRecord cfg now action).attempted now := by
    rw [Tracker.assign_heap_self, hheap]
  apply hattempted.wellFormed.track t.nextObj rfl
  · rw [hnew]
    rfl
  · rw [Tracker.Holds, hnew]
    exact List.mem_append_right _ (List.mem_singleton_self _)
  · rw [hnew]
    rfl
  · intro id task htask heq
    have hrunning := (h.wellFormed.running id task htask).1
    rw [Tracker.assign_key (by rw [hheap]; rfl), h.wellFormed.heap_of_insert hrunning] at heq
    exact hkeys _ hrunning heq

variable (now) in
theorem submitNew_makes (h : Matches cfg t j)
    (hget : t.get (computeSubmissionKey cfg.shortDigest action) = none) :
    ∃ moves, Makes cfg j moves (t.submitNew cfg now action) ∧
      (moves = [] ∨ moves = reservation cfg action) := by
  simp only [Tracker.submitNew]
  cases hfree : t.getBlockingRecord cfg action with
  | some blocking => exact ⟨[], .quiet h rfl, .inl rfl⟩
  | none =>
      refine ⟨reservation cfg action, ?_, .inr rfl⟩
      apply Makes.inner (.reserve (h.entry_key_ne hget) (h.lock_free hget hfree)) rfl
      have hreserve := h.reserve ⟨j.memory ++ [_], j.saved, j.ready⟩ now hget rfl
      apply Makes.persist hreserve.1.entries_eq hreserve.1.wellFormed.coherent
      have hmem : (reservedEntry cfg action).key ∈
          (j.memory ++ [reservedEntry cfg action]).map Journal.Entry.key :=
        List.mem_map_of_mem (List.mem_append_right _ (List.mem_singleton_self _))
      exact ⟨_, .staged (.start hmem hmem) .done, hreserve.2.save⟩

theorem reservation_startsLast : Journal.StartsLast (reservation cfg action) :=
  ⟨[.reserve _ _, .save], rfl, .inr ⟨_, rfl⟩⟩

theorem reservation_justified
    (hfree : t.get (computeSubmissionKey cfg.shortDigest action) = none ∨
      t.restageable (computeSubmissionKey cfg.shortDigest action)) :
    ∀ move ∈ reservation cfg action, Justified cfg t (.submit action) move := by
  simp only [reservation, List.forall_mem_cons]
  exact ⟨⟨action, rfl, rfl, rfl⟩, trivial, ⟨action, rfl, rfl, hfree⟩, nofun⟩

variable (now) in
/-- The slot of a submission that can be staged again is released and reserved anew. -/
theorem restage_makes (h : Matches cfg t j) {key : String}
    (hkey : key = computeSubmissionKey cfg.shortDigest action)
    (hmem : ⟨key, (t.heap obj).orderKey, .void⟩ ∈ j.memory)
    (hidle : ∀ id task, t.tasks id = some task → (t.heap task.obj).key ≠ key) :
    ∃ moves, Makes cfg j (.release key :: .save :: moves)
        (((t.delete key).submitNew cfg now action).1,
          (t.delete key).persist cfg :: ((t.delete key).submitNew cfg now action).2) ∧
      (moves = [] ∨ moves = reservation cfg action) := by
  have hdeleted : Matches cfg (t.delete key) { j with memory := Journal.erase key j.memory } := by
    refine ⟨h.wellFormed.delete hidle, ?_⟩
    rw [h.wellFormed.entries_delete, h.entries_eq]
  have hget : (t.delete key).get (computeSubmissionKey cfg.shortDigest action) = none := by
    rw [← hkey]
    exact Tracker.delete_get
  rcases submitNew_makes now hdeleted.save hget with ⟨moves, hmakes, hmoves⟩
  refine ⟨moves, ?_, hmoves⟩
  apply Makes.inner (.release hmem) rfl
  exact .persist hdeleted.entries_eq hdeleted.wellFormed.coherent hmakes

/-- An operation starts on a submission that nobody drives. -/
theorem Tracker.WellFormed.attach (h : t.WellFormed cfg) {key : String}
    (hkey : (t.heap obj).key = key) (hholds : t.Holds obj)
    (hstatus : (t.heap obj).status = .pending) (hinflight : t.inflight key = none) :
    (t.track key (.polling obj 0 true)).WellFormed cfg := by
  refine h.track obj rfl hkey hholds hstatus ?_
  intro id task htask heq
  have hrunning := (h.running id task htask).2
  rw [heq, hinflight] at hrunning
  contradiction

/-- `submit` attaches to the stored hash of a submission that nobody drives. -/
theorem attach_makes (h : Matches cfg t j) {key : String} (hkey : (t.heap obj).key = key)
    (hholds : t.Holds obj) (hstatus : (t.heap obj).status = .pending)
    (hinflight : t.inflight key = none) :
    Makes cfg j []
      ((t.track key (.polling obj 0 true)).reconcile cfg now t.nextTask obj true) := by
  have htracked : Matches cfg (t.track key (.polling obj 0 true)) j :=
    ⟨h.wellFormed.attach hkey hholds hstatus hinflight, h.entries_eq⟩
  have htask : (t.track key (.polling obj 0 true)).tasks t.nextTask =
      some (.polling obj 0 true) := update_self ..
  exact reconcile_makes htracked htask rfl

variable (now action) in
theorem submit_makes (h : Matches cfg t j) :
    ∃ moves, Makes cfg j moves (t.submit cfg now action) ∧ Journal.StartsLast moves ∧
      ∀ move ∈ moves, Justified cfg t (.submit action) move := by
  have hsubmission := t.submit_submission cfg now action
  generalize t.submit cfg now action = result at hsubmission ⊢
  cases hsubmission with
  | fresh hget =>
      rcases submitNew_makes now h hget with ⟨moves, hmakes, rfl | rfl⟩
      · exact ⟨[], hmakes, .nil, nofun⟩
      · exact ⟨_, hmakes, reservation_startsLast, reservation_justified (.inl hget)⟩
  | @restaged obj hget hstatus hreason =>
      have hmem := Tracker.get_eq_some hget
      have hholds : t.Holds obj := h.wellFormed.holds hmem
      have hkey : (t.heap obj).key = computeSubmissionKey cfg.shortDigest action :=
        (h.wellFormed.refs _ hmem).2
      have hentry := h.mem hholds
      have hvoid : phaseOf (t.heap obj).status (t.heap obj).txHash
          (t.heap obj).terminalReason = .void := by simp [phaseOf, hstatus, hreason]
      rw [SubmissionRecord.entry, hvoid] at hentry
      have hrestageable : t.restageable (computeSubmissionKey cfg.shortDigest action) := by
        simp [Tracker.restageable, hget, hstatus, hreason]
      rw [← hkey] at hrestageable ⊢
      have hidle := h.wellFormed.idle_of_failed hholds hstatus
      rcases restage_makes now h hkey hentry hidle with ⟨moves, hmakes, hmoves⟩
      have hstarts : Journal.StartsLast moves := by
        rcases hmoves with rfl | rfl
        · exact .nil
        · exact reservation_startsLast
      refine ⟨_, hmakes, (hstarts.cons rfl).cons rfl, ?_⟩
      simp only [List.forall_mem_cons]
      refine ⟨⟨action, rfl, hkey, hrestageable⟩, trivial, ?_⟩
      rcases hmoves with rfl | rfl
      · exact nofun
      · exact reservation_justified (.inr (hkey ▸ hrestageable))
  | answered outcome => exact ⟨[], .quiet h rfl, .nil, nofun⟩
  | joined running => exact ⟨[], .quiet h rfl, .nil, nofun⟩
  | @attached obj hget hstatus hinflight =>
      have hmem := Tracker.get_eq_some hget
      exact ⟨[], attach_makes h (h.wellFormed.refs _ hmem).2 (h.wellFormed.holds hmem) hstatus
        hinflight, .nil, nofun⟩

theorem staged_settled_makes {txHash network : Option String} (h : Matches cfg t j)
    (htask : t.tasks id = some (.staging obj)) :
    ∃ moves, Makes cfg j moves (t.staged cfg now id obj txHash network) ∧
      ∀ move ∈ moves, Justified cfg t (.staged id (.resolved txHash network)) move := by
  cases txHash with
  | none => exact ⟨_, missingHash_makes h htask, by simp [Justified]⟩
  | some hash =>
      by_cases hne : hash = ""
      · simp only [Tracker.staged, hne, if_true]
        exact ⟨_, missingHash_makes h htask, by simp [Justified]⟩
      · refine ⟨_, staged_makes h htask hne, ?_⟩
        simp only [launch, List.forall_mem_cons]
        exact ⟨⟨id, network, obj, rfl, htask, rfl⟩, trivial, trivial, nofun⟩

/-- Every stretch of code makes moves of the journal, for a reason. -/
theorem handle_makes {event : Event R} {result : Tracker R × List (Effect R)}
    (h : Matches cfg t j) (hhandle : t.handle cfg now event = some result) :
    ∃ moves, Makes cfg j moves result ∧ ∀ move ∈ moves, Justified cfg t event move := by
  cases Tracker.handle_stretch hhandle with
  | submit action =>
      rcases submit_makes now action h with ⟨moves, hmakes, _, hjustified⟩
      exact ⟨moves, hmakes, hjustified⟩
  | staged txHash network htask => exact staged_settled_makes h htask
  | rejected e htask => exact ⟨_, stagingFailed_makes h htask, by simp [Justified]⟩
  | stagingTimeout e htask => exact ⟨_, stagingFailed_makes h htask, by simp [Justified]⟩
  | broadcasted settled htask =>
      rcases h.committed htask rfl with ⟨hash, hhash, hne, hmem⟩
      exact ⟨_, settleSuccess_makes h htask rfl hhash, by simp [Justified]⟩
  | broadcastFailed message htask =>
      exact ⟨_, broadcastFailed_makes h htask, by simp [Justified]⟩
  | broadcastTimeout message htask =>
      exact ⟨_, broadcastFailed_makes h htask, by simp [Justified]⟩
  | confirmed answer htask => exact confirmed_makes h htask
  | slept htask => exact ⟨[], poll_makes h htask rfl, nofun⟩

/-! ## Restart -/

theorem Tracker.WellFormed.empty : (Tracker.empty : Tracker R).WellFormed cfg where
  nodup := List.nodup_nil
  refs := by simp [Tracker.empty]
  coherent := by simp [Tracker.empty, Tracker.list]
  fresh := by simp [Tracker.empty]
  running := by simp [Tracker.empty]
  expected := by simp [Tracker.empty]

theorem Tracker.get_of_new {key : String} (h : ∀ ref ∈ t.records, ref.1 ≠ key) :
    t.get key = none := by
  rw [Tracker.get, Option.map_eq_none_iff, List.find?_eq_none]
  intro ref href
  simpa using h ref href

/-- Restoring entries under new keys appends their records. -/
theorem restore_spec (loaded : List (PersistedSubmission R)) (h : t.WellFormed cfg)
    (hcoherent : ∀ p ∈ loaded, p.Coherent cfg)
    (hkeys : (loaded.map PersistedSubmission.key).Nodup)
    (hnew : ∀ p ∈ loaded, ∀ ref ∈ t.records, ref.1 ≠ p.key) :
    (t.restore cfg loaded).WellFormed cfg ∧
      (t.restore cfg loaded).list = t.list ++ loaded.map (restoredRecord cfg) := by
  induction loaded generalizing t with
  | nil => exact ⟨h, by simp [Tracker.restore]⟩
  | cons p loaded ih =>
      have hp := hcoherent p List.mem_cons_self
      have hrecord := restoredRecord_coherent hp
      have hget := Tracker.get_of_new (hnew p List.mem_cons_self)
      have hstep : t.restore cfg (p :: loaded) =
          (t.insert (restoredRecord cfg p)).restore cfg loaded := by
        have hset : t.set (restoredRecord cfg p) = t.insert (restoredRecord cfg p) :=
          if_neg (by rw [show (restoredRecord cfg p).key = p.key from rfl, hget]; nofun)
        simp only [Tracker.restore, List.foldl_cons, if_neg hp.key_ne, hset]
      have hinserted := h.insert (hnew p List.mem_cons_self) hrecord
      rcases List.nodup_cons.mp hkeys with ⟨hfresh, hrest⟩
      have hnew' : ∀ q ∈ loaded, ∀ ref ∈ (t.insert (restoredRecord cfg p)).records,
          ref.1 ≠ q.key := by
        intro q hq ref href
        rcases List.mem_append.mp href with hold | hadded
        · exact hnew q (List.mem_cons_of_mem _ hq) ref hold
        · rw [List.mem_singleton.mp hadded]
          intro heq
          exact hfresh (List.mem_map.mpr ⟨q, hq, heq.symm⟩)
      have hloaded := ih hinserted (fun q hq => hcoherent q (List.mem_cons_of_mem _ hq)) hrest hnew'
      rw [hstep]
      refine ⟨hloaded.1, ?_⟩
      rw [hloaded.2, h.list_insert, List.map_cons, List.append_assoc]
      rfl

theorem Stored.keys (h : Stored cfg stored j) :
    stored.map PersistedSubmission.key = j.saved.map Journal.Entry.key := by
  rw [← h.entries_eq, List.map_map]
  rfl

/-- A restart is a crash of the journal. -/
theorem Stored.restart (h : Stored cfg stored j)
    (hkeys : (j.saved.map Journal.Entry.key).Nodup) :
    Matches cfg (Tracker.empty.restore cfg stored)
      { j with memory := j.saved.map Journal.Entry.recover, ready := none } := by
  have hrestored := restore_spec stored Tracker.WellFormed.empty h.coherent (h.keys ▸ hkeys)
    (by simp [Tracker.empty])
  refine ⟨hrestored.1, ?_⟩
  rw [Tracker.entries, hrestored.2, ← h.entries_eq, List.map_map, List.map_append, List.map_map]
  apply List.map_congr_left
  intro p hp
  exact restoredRecord_entry (h.coherent p hp)

end OverSync.RelaySubmissionTracker
