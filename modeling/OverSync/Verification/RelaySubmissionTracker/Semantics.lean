import OverSync.Model.RelaySubmissionTracker
import OverSync.Library.Journal

/-! # The records of a tracker as a journal

A record is a job of a write-ahead journal: its key is the submission key, its lock the
order key and its tag the transaction hash. -/

namespace OverSync.RelaySubmissionTracker

open Library Function

variable {R : Type}

abbrev Phase := Journal.Phase String RelayTerminalReason
abbrev Entry := Journal.Entry String String String RelayTerminalReason
abbrev Move := Journal.Move String String String RelayTerminalReason
abbrev Ledger := Journal String String String RelayTerminalReason

/-- A failed record is void if it may be staged again, in this process or after a restart. -/
def phaseOf (status : RelayStatus) (txHash : Option String)
    (reason : Option RelayTerminalReason) : Phase :=
  match status with
  | .inFlight => .reserved
  | .pending => .committed (txHash.getD "")
  | .succeeded => .settled (txHash.getD "")
  | .failed =>
    if reason = some .stagingFailed ∨ truthy txHash = false then .void
    else .abandoned (txHash.getD "") (reason.getD .failed)

def SubmissionRecord.entry (r : SubmissionRecord R) : Entry :=
  ⟨r.key, r.orderKey, phaseOf r.status r.txHash r.terminalReason⟩

def PersistedSubmission.entry (p : PersistedSubmission R) : Entry :=
  ⟨p.key, p.orderKey, phaseOf p.status p.txHash p.terminalReason⟩

def Tracker.entries (t : Tracker R) : List Entry := t.list.map SubmissionRecord.entry

@[simp] theorem phaseOf_active {status : RelayStatus} {txHash : Option String}
    {reason : Option RelayTerminalReason} :
    (phaseOf status txHash reason).active = decide (status ≠ .failed) := by
  cases status with
  | inFlight | pending | succeeded => rfl
  | failed =>
      unfold phaseOf
      split_ifs <;> rfl

/-! ## Coherent records -/

/-- The keys are those of the action, a reserved submission has no hash yet and a pending one
has one. -/
structure Coherent (shortDigest : ShortDigest) (key orderKey : String) (action : RelayAction)
    (status : RelayStatus) (txHash : Option String) : Prop where
  key_eq : key = computeSubmissionKey shortDigest action
  orderKey_eq : orderKey = computeOrderKey shortDigest action.orderId action.side
  bare : status = .inFlight → txHash = none
  hash : status = .pending → truthy txHash

variable (cfg : RelayTrackerConfig R)

def SubmissionRecord.Coherent (r : SubmissionRecord R) : Prop :=
  RelaySubmissionTracker.Coherent cfg.shortDigest r.key r.orderKey r.action r.status r.txHash

def PersistedSubmission.Coherent (p : PersistedSubmission R) : Prop :=
  RelaySubmissionTracker.Coherent cfg.shortDigest p.key p.orderKey
    ⟨p.orderId, p.side, p.action, p.chain, p.network⟩ p.status p.txHash

theorem computeSubmissionKey_ne_empty (shortDigest : ShortDigest) (action : RelayAction) :
    computeSubmissionKey shortDigest action ≠ "" := by
  intro h
  have hlength := congrArg String.length h
  simp only [computeSubmissionKey, String.length_append] at hlength
  have hcolon : (":" : String).length = 1 := rfl
  have hempty : ("" : String).length = 0 := rfl
  omega

theorem computeOrderKey_ne_empty (shortDigest : ShortDigest) (orderId side : String) :
    computeOrderKey shortDigest orderId side ≠ "" := by
  intro h
  have hlength := congrArg String.length h
  simp only [computeOrderKey, String.length_append] at hlength
  have hbar : ("|" : String).length = 1 := rfl
  have hempty : ("" : String).length = 0 := rfl
  omega

variable {cfg}

theorem SubmissionRecord.Coherent.persisted {r : SubmissionRecord R} (h : r.Coherent cfg) :
    (toPersistedSubmission cfg r).Coherent cfg :=
  ⟨h.key_eq, h.orderKey_eq, h.bare, h.hash⟩

theorem newRecord_coherent (now : ℕ) (action : RelayAction) :
    (newRecord cfg now action).Coherent cfg :=
  ⟨rfl, rfl, fun _ => rfl, nofun⟩

theorem PersistedSubmission.Coherent.key_ne {p : PersistedSubmission R} (h : p.Coherent cfg) :
    p.key ≠ "" := by
  rw [h.key_eq]
  exact computeSubmissionKey_ne_empty _ _

theorem PersistedSubmission.Coherent.orderKey_ne {p : PersistedSubmission R}
    (h : p.Coherent cfg) : p.orderKey ≠ "" := by
  rw [h.orderKey_eq]
  exact computeOrderKey_ne_empty _ _ _

theorem truthy_iff {s : Option String} : truthy s ↔ ∃ text, s = some text ∧ text ≠ "" := by
  cases s with
  | none => simp [truthy]
  | some text => simp [truthy]

/-- The record of an abandoned job. -/
theorem abandoned_record {t : Tracker R} {key lock hash : String} {reason : RelayTerminalReason}
    (h : ⟨key, lock, .abandoned hash reason⟩ ∈ t.entries) :
    ∃ r ∈ t.list, r.key = key ∧ r.status = .failed ∧ r.txHash = some hash ∧
      r.terminalReason.getD .failed = reason := by
  rcases List.mem_map.mp h with ⟨r, hr, hentry⟩
  simp only [SubmissionRecord.entry, Journal.Entry.mk.injEq] at hentry
  cases hstatus : r.status with
  | failed =>
      rw [hstatus, phaseOf] at hentry
      split_ifs at hentry with hvoid
      · simp at hentry
      · rcases hentry with ⟨hkey, _, hphase⟩
        simp only [Journal.Phase.abandoned.injEq] at hphase
        rw [not_or, Bool.not_eq_false, truthy_iff] at hvoid
        rcases hvoid.2 with ⟨text, htext, _⟩
        rw [htext, Option.getD_some] at hphase
        exact ⟨r, hr, hkey, hstatus, htext.trans (congrArg some hphase.1), hphase.2⟩
  | inFlight | pending | succeeded => simp [hstatus, phaseOf] at hentry

/-- A restart makes of a stored job what the journal makes of it after a crash. -/
theorem restoredRecord_entry {p : PersistedSubmission R} (h : p.Coherent cfg) :
    (restoredRecord cfg p).entry = p.entry.recover := by
  have horder := h.orderKey_ne
  have hbare := h.bare
  have hhash := h.hash
  cases hstatus : p.status with
  | inFlight =>
      have hnone : p.txHash = none := hbare hstatus
      simp [restoredRecord, SubmissionRecord.entry, PersistedSubmission.entry, phaseOf,
        Journal.Entry.recover, Journal.Phase.recover, normalizePersistedStatus, hstatus, horder,
        hnone, truthy]
  | pending =>
      have htruthy : truthy p.txHash := hhash hstatus
      simp [restoredRecord, SubmissionRecord.entry, PersistedSubmission.entry, phaseOf,
        Journal.Entry.recover, Journal.Phase.recover, normalizePersistedStatus, hstatus, horder,
        htruthy]
  | succeeded =>
      simp [restoredRecord, SubmissionRecord.entry, PersistedSubmission.entry, phaseOf,
        Journal.Entry.recover, Journal.Phase.recover, normalizePersistedStatus, hstatus, horder]
  | failed =>
      by_cases hvoid : p.terminalReason = some .stagingFailed ∨ truthy p.txHash = false
      · simp [restoredRecord, SubmissionRecord.entry, PersistedSubmission.entry, phaseOf,
          Journal.Entry.recover, Journal.Phase.recover, normalizePersistedStatus, hstatus, horder,
          hvoid]
      · simp [restoredRecord, SubmissionRecord.entry, PersistedSubmission.entry, phaseOf,
          Journal.Entry.recover, Journal.Phase.recover, normalizePersistedStatus, hstatus, horder,
          hvoid]

theorem restoredRecord_coherent {p : PersistedSubmission R} (h : p.Coherent cfg) :
    (restoredRecord cfg p).Coherent cfg := by
  have horder := h.orderKey_ne
  have hkey := h.key_eq
  have horderKey := h.orderKey_eq
  have hhash := h.hash
  refine ⟨hkey, ?_, ?_, ?_⟩
  · simpa [restoredRecord, horder] using horderKey
  · intro hstatus
    cases hp : p.status with
    | pending =>
        have htruthy : truthy p.txHash := hhash hp
        simp [restoredRecord, normalizePersistedStatus, hp, htruthy] at hstatus
    | inFlight | succeeded | failed =>
        simp [restoredRecord, normalizePersistedStatus, hp] at hstatus
  · intro hstatus
    cases hp : p.status with
    | pending => exact hhash hp
    | inFlight | succeeded | failed =>
        simp [restoredRecord, normalizePersistedStatus, hp] at hstatus

/-! ## Well-formed trackers -/

/-- What the record of a running operation is like. -/
def Task.Expects (status : RelayStatus) : Task → Prop
  | .staging _ => status = .inFlight
  | _ => status = .pending

variable (cfg) in
/-- References point to records with their key, and an operation in progress is the only one
under the key of its record. -/
structure Tracker.WellFormed (t : Tracker R) : Prop where
  nodup : (t.records.map Prod.fst).Nodup
  refs : ∀ ref ∈ t.records, ref.2 < t.nextObj ∧ (t.heap ref.2).key = ref.1
  coherent : ∀ r ∈ t.list, r.Coherent cfg
  fresh : ∀ id task, t.tasks id = some task → id < t.nextTask
  running : ∀ id task, t.tasks id = some task →
    ((t.heap task.obj).key, task.obj) ∈ t.records ∧ t.inflight (t.heap task.obj).key = some id
  expected : ∀ id task, t.tasks id = some task → task.Expects (t.heap task.obj).status

/-- `obj` is the record stored under its key. -/
def Tracker.Holds (t : Tracker R) (obj : ℕ) : Prop :=
  ((t.heap obj).key, obj) ∈ t.records

variable {t : Tracker R} {obj id : ℕ} {key : String} {task : Task}
  {f : SubmissionRecord R → SubmissionRecord R}

theorem Tracker.WellFormed.ref_unique (h : t.WellFormed cfg) {ref ref' : String × ℕ}
    (href : ref ∈ t.records) (href' : ref' ∈ t.records) (hkey : ref.1 = ref'.1) : ref = ref' :=
  List.inj_on_of_nodup_map h.nodup href href' hkey

theorem Tracker.WellFormed.record_unique (h : t.WellFormed cfg) {r r' : SubmissionRecord R}
    (hr : r ∈ t.list) (hr' : r' ∈ t.list) (hkey : r'.key = r.key) : r' = r := by
  obtain ⟨ref, href, rfl⟩ := List.mem_map.mp hr
  obtain ⟨ref', href', rfl⟩ := List.mem_map.mp hr'
  have hfst : ref'.1 = ref.1 := by
    rw [← (h.refs ref' href').2, ← (h.refs ref href).2, hkey]
  rw [h.ref_unique href' href hfst]

theorem Tracker.WellFormed.holds (h : t.WellFormed cfg) {ref : String × ℕ}
    (href : ref ∈ t.records) : t.Holds ref.2 := by
  have hkey := (h.refs ref href).2
  rw [Tracker.Holds, hkey]
  exact href

theorem Tracker.Holds.mem_list (h : t.Holds obj) : t.heap obj ∈ t.list :=
  List.mem_map.mpr ⟨_, h, rfl⟩

theorem Tracker.Holds.mem_entries (h : t.Holds obj) : (t.heap obj).entry ∈ t.entries :=
  List.mem_map_of_mem h.mem_list

/-- Two operations never share a record. -/
theorem Tracker.WellFormed.task_unique (h : t.WellFormed cfg) {id' : ℕ} {task' : Task}
    (htask : t.tasks id = some task) (htask' : t.tasks id' = some task')
    (hkey : (t.heap task.obj).key = (t.heap task'.obj).key) : id = id' := by
  have hrunning := (h.running id task htask).2
  have hrunning' := (h.running id' task' htask').2
  rw [hkey, hrunning'] at hrunning
  exact (Option.some.inj hrunning).symm

/-! ### Assignments -/

/-- The change of an operation that only counts and notes. -/
structure Touches (f : SubmissionRecord R → SubmissionRecord R) : Prop where
  key : ∀ r, (f r).key = r.key
  orderKey : ∀ r, (f r).orderKey = r.orderKey
  action : ∀ r, (f r).action = r.action
  status : ∀ r, (f r).status = r.status
  txHash : ∀ r, (f r).txHash = r.txHash
  terminalReason : ∀ r, (f r).terminalReason = r.terminalReason

@[simp] theorem Tracker.assign_heap_self : (t.assign obj f).heap obj = f (t.heap obj) :=
  update_self ..

theorem Tracker.assign_heap_of_ne {obj' : ℕ} (h : obj' ≠ obj) :
    (t.assign obj f).heap obj' = t.heap obj' :=
  update_of_ne h ..

/-- An assignment that keeps the key of a record keeps all keys. -/
theorem Tracker.assign_key (hkey : (f (t.heap obj)).key = (t.heap obj).key) (obj' : ℕ) :
    ((t.assign obj f).heap obj').key = (t.heap obj').key := by
  by_cases hobj : obj' = obj
  · rw [hobj, Tracker.assign_heap_self, hkey]
  · rw [Tracker.assign_heap_of_ne hobj]

theorem Touches.coherent (hf : Touches f) {r : SubmissionRecord R} (h : r.Coherent cfg) :
    (f r).Coherent cfg := by
  constructor
  · rw [hf.key, hf.action, h.key_eq]
  · rw [hf.orderKey, hf.action, h.orderKey_eq]
  · rw [hf.status, hf.txHash]
    exact h.bare
  · rw [hf.status, hf.txHash]
    exact h.hash

theorem Tracker.WellFormed.assign (h : t.WellFormed cfg)
    (hkey : (f (t.heap obj)).key = (t.heap obj).key) (hcoherent : (f (t.heap obj)).Coherent cfg)
    (hexpected : ∀ id task, t.tasks id = some task → task.obj = obj →
      task.Expects (f (t.heap obj)).status) : (t.assign obj f).WellFormed cfg where
  nodup := h.nodup
  refs := by
    intro ref href
    rw [Tracker.assign_key hkey]
    exact h.refs ref href
  coherent := by
    intro r hr
    rcases List.mem_map.mp hr with ⟨ref, href, rfl⟩
    by_cases hobj : ref.2 = obj
    · rw [hobj, Tracker.assign_heap_self]
      exact hcoherent
    · rw [Tracker.assign_heap_of_ne hobj]
      exact h.coherent _ (h.holds href).mem_list
  fresh := h.fresh
  running := by
    intro id task htask
    rw [Tracker.assign_key hkey]
    exact h.running id task htask
  expected := by
    intro id task htask
    by_cases hobj : task.obj = obj
    · rw [hobj, Tracker.assign_heap_self]
      exact hexpected id task htask hobj
    · rw [Tracker.assign_heap_of_ne hobj]
      exact h.expected id task htask

theorem Tracker.WellFormed.touch (h : t.WellFormed cfg) (hobj : t.Holds obj) (hf : Touches f) :
    (t.assign obj f).WellFormed cfg := by
  apply h.assign (hf.key _) (hf.coherent (h.coherent _ hobj.mem_list))
  intro id task htask heq
  rw [hf.status, ← heq]
  exact h.expected id task htask

/-- The entry of the record changes its phase, all others stay. -/
theorem Tracker.WellFormed.entries_assign (h : t.WellFormed cfg) (hobj : t.Holds obj)
    (hkey : (f (t.heap obj)).key = (t.heap obj).key)
    (horderKey : (f (t.heap obj)).orderKey = (t.heap obj).orderKey) :
    (t.assign obj f).entries = Journal.setPhase (t.heap obj).key
      (phaseOf (f (t.heap obj)).status (f (t.heap obj)).txHash (f (t.heap obj)).terminalReason)
      t.entries := by
  simp only [Tracker.entries, Tracker.list, Journal.setPhase, List.map_map]
  apply List.map_congr_left
  intro ref href
  simp only [comp_apply]
  by_cases heq : ref.2 = obj
  · rw [heq, Tracker.assign_heap_self]
    simp [SubmissionRecord.entry, hkey, horderKey]
  · rw [Tracker.assign_heap_of_ne heq, if_neg]
    intro hsame
    have hrefs := h.ref_unique href hobj ((h.refs ref href).2.symm.trans hsame)
    exact heq (congrArg Prod.snd hrefs)

theorem Touches.assign_txHash (hf : Touches f) (obj' : ℕ) :
    ((t.assign obj f).heap obj').txHash = (t.heap obj').txHash := by
  by_cases hobj : obj' = obj
  · rw [hobj, Tracker.assign_heap_self, hf.txHash]
  · rw [Tracker.assign_heap_of_ne hobj]

theorem Touches.entries_assign (hf : Touches f) : (t.assign obj f).entries = t.entries := by
  simp only [Tracker.entries, Tracker.list, List.map_map]
  apply List.map_congr_left
  intro ref _
  simp only [comp_apply]
  by_cases heq : ref.2 = obj
  · rw [heq, Tracker.assign_heap_self]
    simp [SubmissionRecord.entry, hf.key, hf.orderKey, hf.status, hf.txHash, hf.terminalReason]
  · rw [Tracker.assign_heap_of_ne heq]

/-! ### Operations -/

theorem Tracker.WellFormed.task_holds (h : t.WellFormed cfg) (htask : t.tasks id = some task) :
    t.Holds task.obj :=
  (h.running id task htask).1

theorem Tracker.WellFormed.finish (h : t.WellFormed cfg) (htask : t.tasks id = some task) :
    (t.finish id (t.heap task.obj).key).WellFormed cfg where
  nodup := h.nodup
  refs := h.refs
  coherent := h.coherent
  fresh := by
    intro id' task' htask'
    by_cases hid : id' = id
    · simp [Tracker.finish, hid] at htask'
    · exact h.fresh id' task' (by simpa [Tracker.finish, hid] using htask')
  running := by
    intro id' task' htask'
    by_cases hid : id' = id
    · simp [Tracker.finish, hid] at htask'
    · have hbefore : t.tasks id' = some task' := by simpa [Tracker.finish, hid] using htask'
      have hrunning := h.running id' task' hbefore
      have hne : (t.heap task'.obj).key ≠ (t.heap task.obj).key := fun heq =>
        hid (h.task_unique hbefore htask heq)
      refine ⟨hrunning.1, ?_⟩
      simp only [Tracker.finish]
      split_ifs
      · rw [update_of_ne hne]
        exact hrunning.2
      · exact hrunning.2
  expected := by
    intro id' task' htask'
    by_cases hid : id' = id
    · simp [Tracker.finish, hid] at htask'
    · exact h.expected id' task' (by simpa [Tracker.finish, hid] using htask')

theorem Tracker.WellFormed.pending (h : t.WellFormed cfg) (htask : t.tasks id = some task)
    (hexpects : task.Expects .pending) : (t.heap task.obj).status = .pending := by
  have hexpected := h.expected id task htask
  cases task with
  | staging => contradiction
  | broadcasting | polling | sleeping => exact hexpected

/-- No operation is left on the record of one that has settled. -/
theorem Tracker.WellFormed.finish_idle (h : t.WellFormed cfg) (htask : t.tasks id = some task)
    {id' : ℕ} {task' : Task}
    (htask' : (t.finish id (t.heap task.obj).key).tasks id' = some task') :
    (t.heap task'.obj).key ≠ (t.heap task.obj).key := by
  by_cases hid : id' = id
  · simp [Tracker.finish, hid] at htask'
  · have hbefore : t.tasks id' = some task' := by simpa [Tracker.finish, hid] using htask'
    exact fun heq => hid (h.task_unique hbefore htask heq)

/-- No operation is left on a failed record. -/
theorem Tracker.WellFormed.idle_of_failed (h : t.WellFormed cfg) (hholds : t.Holds obj)
    (hstatus : (t.heap obj).status = .failed) :
    ∀ id task, t.tasks id = some task → (t.heap task.obj).key ≠ (t.heap obj).key := by
  intro id task htask heq
  have hrefs := h.ref_unique (h.task_holds htask) hholds heq
  have hobj : task.obj = obj := congrArg Prod.snd hrefs
  have hexpected := h.expected id task htask
  rw [hobj, hstatus] at hexpected
  cases task <;> contradiction

/-- An operation settles and leaves its record in a new state. -/
theorem Tracker.WellFormed.settle (h : t.WellFormed cfg) (htask : t.tasks id = some task)
    (hkey : (f (t.heap task.obj)).key = (t.heap task.obj).key)
    (hcoherent : (f (t.heap task.obj)).Coherent cfg) :
    ((t.assign task.obj f).finish id (t.heap task.obj).key).WellFormed cfg := by
  apply (h.finish htask).assign hkey hcoherent
  intro id' task' htask' hobj
  exact absurd (by rw [hobj]) (h.finish_idle htask htask')

/-- An operation goes on to its next `await`. -/
theorem Tracker.WellFormed.advance (h : t.WellFormed cfg) (task' : Task)
    (htask : t.tasks id = some task) (hobj : task'.obj = task.obj)
    (hkey : (f (t.heap task.obj)).key = (t.heap task.obj).key)
    (hcoherent : (f (t.heap task.obj)).Coherent cfg)
    (hexpects : task'.Expects (f (t.heap task.obj)).status) :
    ((t.assign task.obj f).await id task').WellFormed cfg := by
  have hassigned : ((t.finish id (t.heap task.obj).key).assign task.obj f).WellFormed cfg :=
    h.settle htask hkey hcoherent
  constructor
  · exact h.nodup
  · exact hassigned.refs
  · exact hassigned.coherent
  · intro id' task'' htask''
    by_cases hid : id' = id
    · rw [hid]
      exact h.fresh id task htask
    · exact h.fresh id' task'' (by simpa [Tracker.await, Tracker.assign, hid] using htask'')
  · intro id' task'' htask''
    have hheap : ∀ o, (((t.assign task.obj f).await id task').heap o).key = (t.heap o).key :=
      Tracker.assign_key hkey
    rw [hheap]
    by_cases hid : id' = id
    · have heq : task'' = task' := by simpa [Tracker.await, hid] using htask''.symm
      rw [heq, hobj, hid]
      exact h.running id task htask
    · exact h.running id' task'' (by simpa [Tracker.await, Tracker.assign, hid] using htask'')
  · intro id' task'' htask''
    by_cases hid : id' = id
    · have heq : task'' = task' := by simpa [Tracker.await, hid] using htask''.symm
      rw [heq, hobj]
      simpa [Tracker.await] using hexpects
    · have hbefore : t.tasks id' = some task'' := by
        simpa [Tracker.await, Tracker.assign, hid] using htask''
      have hne : task''.obj ≠ task.obj := by
        intro heq
        exact hid (h.task_unique hbefore htask (by rw [heq]))
      simpa [Tracker.await, Tracker.assign_heap_of_ne hne] using h.expected id' task'' hbefore

/-- A new operation starts on a record that no other works on. -/
theorem Tracker.WellFormed.track (h : t.WellFormed cfg) (obj : ℕ) (hobj : task.obj = obj)
    (hkey : (t.heap obj).key = key) (hholds : t.Holds obj)
    (hexpects : task.Expects (t.heap obj).status)
    (hidle : ∀ id' task', t.tasks id' = some task' → (t.heap task'.obj).key ≠ key) :
    (t.track key task).WellFormed cfg where
  nodup := h.nodup
  refs := h.refs
  coherent := h.coherent
  fresh := by
    intro id' task' htask'
    simp only [Tracker.track] at htask' ⊢
    by_cases hid : id' = t.nextTask
    · omega
    · rw [update_of_ne hid] at htask'
      have hlt := h.fresh id' task' htask'
      omega
  running := by
    intro id' task' htask'
    simp only [Tracker.track] at htask' ⊢
    by_cases hid : id' = t.nextTask
    · rw [hid, update_self] at htask'
      rw [← Option.some.inj htask', hobj, hkey, update_self, hid, ← hkey]
      exact ⟨hholds, rfl⟩
    · rw [update_of_ne hid] at htask'
      rw [update_of_ne (hidle id' task' htask')]
      exact h.running id' task' htask'
  expected := by
    intro id' task' htask'
    simp only [Tracker.track] at htask' ⊢
    by_cases hid : id' = t.nextTask
    · rw [hid, update_self] at htask'
      rw [← Option.some.inj htask', hobj]
      exact hexpects
    · rw [update_of_ne hid] at htask'
      exact h.expected id' task' htask'

/-! ### The map of records -/

theorem Tracker.get_eq_none (h : t.get key = none) : ∀ ref ∈ t.records, ref.1 ≠ key := by
  intro ref href
  have hfind := Option.map_eq_none_iff.mp h
  simpa using List.find?_eq_none.mp hfind ref href

theorem Tracker.get_eq_some (h : t.get key = some obj) : (key, obj) ∈ t.records := by
  rcases Option.map_eq_some_iff.mp h with ⟨ref, hfind, rfl⟩
  have hkey : ref.1 = key := by simpa using List.find?_some hfind
  rw [← hkey]
  exact List.mem_of_find?_eq_some hfind

/-- The record under the key may be staged again. -/
def Tracker.restageable (t : Tracker R) (key : String) : Bool :=
  match t.get key with
  | some obj => (t.heap obj).status = .failed ∧ (t.heap obj).terminalReason = some .stagingFailed
  | none => false

theorem Tracker.WellFormed.heap_of_insert (h : t.WellFormed cfg) {r : SubmissionRecord R}
    {ref : String × ℕ} (href : ref ∈ t.records) : (t.insert r).heap ref.2 = t.heap ref.2 :=
  update_of_ne (Nat.ne_of_lt (h.refs ref href).1) ..

theorem Tracker.WellFormed.list_insert (h : t.WellFormed cfg) (r : SubmissionRecord R) :
    (t.insert r).list = t.list ++ [r] := by
  have hold : t.records.map (fun ref => (t.insert r).heap ref.2) = t.list :=
    List.map_congr_left fun ref href => h.heap_of_insert href
  simp only [Tracker.list] at hold ⊢
  simp only [Tracker.insert, List.map_append, List.map_cons, List.map_nil, update_self] at hold ⊢
  rw [hold]

theorem Tracker.WellFormed.insert (h : t.WellFormed cfg) {r : SubmissionRecord R}
    (hkey : ∀ ref ∈ t.records, ref.1 ≠ r.key) (hr : r.Coherent cfg) :
    (t.insert r).WellFormed cfg where
  nodup := by
    simp only [Tracker.insert, List.map_append, List.map_cons, List.map_nil]
    rw [List.nodup_append]
    refine ⟨h.nodup, List.nodup_singleton _, ?_⟩
    intro k hk k' hk'
    rcases List.mem_map.mp hk with ⟨ref, href, rfl⟩
    rw [List.mem_singleton.mp hk']
    exact hkey ref href
  refs := by
    intro ref href
    rcases List.mem_append.mp href with hold | hnew
    · rw [h.heap_of_insert hold]
      have hbefore := h.refs ref hold
      exact ⟨Nat.lt_succ_of_lt hbefore.1, hbefore.2⟩
    · rw [List.mem_singleton.mp hnew]
      exact ⟨Nat.lt_succ_self _, by simp [Tracker.insert]⟩
  coherent := by
    intro r' hr'
    rw [h.list_insert] at hr'
    rcases List.mem_append.mp hr' with hold | hnew
    · exact h.coherent r' hold
    · rw [List.mem_singleton.mp hnew]
      exact hr
  fresh := h.fresh
  running := by
    intro id task htask
    have hrunning := h.running id task htask
    rw [h.heap_of_insert hrunning.1]
    exact ⟨List.mem_append_left _ hrunning.1, hrunning.2⟩
  expected := by
    intro id task htask
    rw [h.heap_of_insert (h.running id task htask).1]
    exact h.expected id task htask

theorem Tracker.WellFormed.entries_insert (h : t.WellFormed cfg) (r : SubmissionRecord R) :
    (t.insert r).entries = t.entries ++ [r.entry] := by
  rw [Tracker.entries, h.list_insert, List.map_append]
  rfl

theorem Tracker.WellFormed.delete (h : t.WellFormed cfg)
    (hidle : ∀ id task, t.tasks id = some task → (t.heap task.obj).key ≠ key) :
    (t.delete key).WellFormed cfg where
  nodup := (List.filter_sublist.map Prod.fst).nodup h.nodup
  refs := fun ref href => h.refs ref (List.mem_of_mem_filter href)
  coherent := by
    intro r hr
    rcases List.mem_map.mp hr with ⟨ref, href, rfl⟩
    exact h.coherent _ (h.holds (List.mem_of_mem_filter href)).mem_list
  fresh := h.fresh
  running := by
    intro id task htask
    have hrunning := h.running id task htask
    refine ⟨List.mem_filter.mpr ⟨hrunning.1, ?_⟩, hrunning.2⟩
    exact decide_eq_true (hidle id task htask)
  expected := h.expected

theorem Tracker.WellFormed.entries_delete (h : t.WellFormed cfg) :
    (t.delete key).entries = Journal.erase key t.entries := by
  simp only [Tracker.entries, Tracker.list, Tracker.delete, Journal.erase, List.map_map,
    List.filter_map]
  congr 1
  apply List.filter_congr
  intro ref href
  simp [SubmissionRecord.entry, (h.refs ref href).2]

theorem Tracker.delete_get : (t.delete key).get key = none := by
  simp [Tracker.get, Tracker.delete, List.find?_eq_none]

/-! ## Stretches of code -/

variable (cfg) in
/-- What a `submit` call does, by the record under its key and the operation on it. -/
inductive Tracker.Submission (t : Tracker R) (now : ℕ) (action : RelayAction) :
    Tracker R × List (Effect R) → Prop where
  | fresh : t.get (computeSubmissionKey cfg.shortDigest action) = none →
      Submission t now action (t.submitNew cfg now action)
  | restaged {obj : ℕ} : t.get (computeSubmissionKey cfg.shortDigest action) = some obj →
      (t.heap obj).status = .failed → (t.heap obj).terminalReason = some .stagingFailed →
      Submission t now action
        (((t.delete (computeSubmissionKey cfg.shortDigest action)).submitNew cfg now action).1,
          (t.delete (computeSubmissionKey cfg.shortDigest action)).persist cfg ::
            ((t.delete (computeSubmissionKey cfg.shortDigest action)).submitNew cfg now action).2)
  | answered (outcome : Except SubmitError (RelayOutcome R)) :
      Submission t now action (t, [.reply outcome])
  | joined (running : ℕ) : Submission t now action (t, [.join running])
  | attached {obj : ℕ} : t.get (computeSubmissionKey cfg.shortDigest action) = some obj →
      (t.heap obj).status = .pending →
      t.inflight (computeSubmissionKey cfg.shortDigest action) = none →
      Submission t now action ((t.track (computeSubmissionKey cfg.shortDigest action)
        (.polling obj 0 true)).reconcile cfg now t.nextTask obj true)

variable (cfg t) in
theorem Tracker.submit_submission (now : ℕ) (action : RelayAction) :
    t.Submission cfg now action (t.submit cfg now action) := by
  simp only [Tracker.submit]
  cases hget : t.get (computeSubmissionKey cfg.shortDigest action) with
  | none => exact .fresh hget
  | some obj =>
      simp only
      cases hstatus : (t.heap obj).status with
      | succeeded => exact .answered _
      | failed =>
          simp only
          split_ifs with hreason
          · exact .restaged hget hstatus hreason
          · exact .answered _
      | inFlight =>
          simp only
          cases t.inflight (computeSubmissionKey cfg.shortDigest action) with
          | some running => exact .joined running
          | none => exact .answered _
      | pending =>
          simp only
          cases hinflight : t.inflight (computeSubmissionKey cfg.shortDigest action) with
          | some running => exact .joined running
          | none => exact .attached hget hstatus hinflight

variable (cfg) in
/-- Which code an event runs, by where its operation waited. -/
inductive Tracker.Stretch (t : Tracker R) (now : ℕ) :
    Event R → Tracker R × List (Effect R) → Prop where
  | submit (action : RelayAction) : Stretch t now (.submit action) (t.submit cfg now action)
  | staged {id obj : ℕ} (txHash network : Option String) : t.tasks id = some (.staging obj) →
      Stretch t now (.staged id (.resolved txHash network)) (t.staged cfg now id obj txHash network)
  | rejected {id obj : ℕ} (e : StageError) : t.tasks id = some (.staging obj) →
      Stretch t now (.staged id (.rejected e)) (t.stagingFailed cfg now id obj e)
  | stagingTimeout {id obj : ℕ} (e : StageError) : t.tasks id = some (.staging obj) →
      Stretch t now (.stagingTimeout id) (t.stagingFailed cfg now id obj e)
  | broadcasted {id obj : ℕ} (result : R) : t.tasks id = some (.broadcasting obj) →
      Stretch t now (.broadcasted id (.ok result))
        (t.settleSuccess cfg now id obj (some result) false false)
  | broadcastFailed {id obj : ℕ} (message : String) : t.tasks id = some (.broadcasting obj) →
      Stretch t now (.broadcasted id (.error message)) (t.broadcastFailed cfg now id obj message)
  | broadcastTimeout {id obj : ℕ} (message : String) : t.tasks id = some (.broadcasting obj) →
      Stretch t now (.broadcastTimeout id) (t.broadcastFailed cfg now id obj message)
  | confirmed {id obj polls : ℕ} {duplicate : Bool} (answer : Except String (RelayConfirmation R)) :
      t.tasks id = some (.polling obj polls duplicate) →
      Stretch t now (.confirmed id answer) (t.confirmed cfg now id obj polls duplicate answer)
  | slept {id obj polls : ℕ} {duplicate : Bool} :
      t.tasks id = some (.sleeping obj polls duplicate) →
      Stretch t now (.slept id) (t.poll now id obj polls duplicate)

theorem Tracker.handle_stretch {now : ℕ} {event : Event R} {result : Tracker R × List (Effect R)}
    (h : t.handle cfg now event = some result) : t.Stretch cfg now event result := by
  cases event with
  | submit action =>
      rw [← Option.some.inj h]
      exact .submit action
  | staged id settled =>
      simp only [Tracker.handle] at h
      split at h
      · rename_i obj htask
        rw [← Option.some.inj h]
        cases settled with
        | resolved txHash network => exact .staged txHash network htask
        | rejected e => exact .rejected e htask
      · contradiction
  | stagingTimeout id =>
      simp only [Tracker.handle] at h
      split at h
      · rename_i obj htask
        split_ifs at h
        rw [← Option.some.inj h]
        exact .stagingTimeout _ htask
      · contradiction
  | broadcasted id settled =>
      simp only [Tracker.handle] at h
      split at h
      · rename_i obj htask
        rw [← Option.some.inj h]
        cases settled with
        | ok settled => exact .broadcasted settled htask
        | error message => exact .broadcastFailed message htask
      · contradiction
  | broadcastTimeout id =>
      simp only [Tracker.handle] at h
      split at h
      · rename_i obj htask
        split_ifs at h
        rw [← Option.some.inj h]
        exact .broadcastTimeout _ htask
      · contradiction
  | confirmed id answer =>
      simp only [Tracker.handle] at h
      split at h
      · rename_i obj polls duplicate htask
        rw [← Option.some.inj h]
        exact .confirmed answer htask
      · contradiction
  | slept id =>
      simp only [Tracker.handle] at h
      split at h
      · rename_i obj polls duplicate htask
        rw [← Option.some.inj h]
        exact .slept htask
      · contradiction

end OverSync.RelaySubmissionTracker
