import OverSync.Verification.Coordinator.CrashSafety
import OverSync.Verification.Coordinator.LegRouting

/-! # Catching up after failures

A catch-up that fails is run again with the same logs. Settlements survive every failure. Locks
do so once the first run has handled them: an error met there is dropped. -/

namespace OverSync.Coordinator

open Library Library.Procedure

variable {D : Deployment} {cond : Conditions} {clock : ℕ → ℕ} {nowSec : ℤ} {networkId : String}
  {db u v : Database} {orders orders' : List StoredOrder} {log : CreatedLog}
  {logs : List CreatedLog} {α : Type}

/-! ## Locks that are left to be recorded -/

/-- Handling the log would record its lock. -/
def Recordable (D : Deployment) (orders : List StoredOrder) (log : CreatedLog) : Prop :=
  ∃ order row, findHashlock orders log.hashlock = some order ∧
    findId orders order.publicId = some row ∧ row.status = .announced ∧
    OrderService.srcLockGuard D (createdLock log order) row = .ok ()

def AllRecorded (D : Deployment) (logs : List CreatedLog) (orders : List StoredOrder) : Prop :=
  ∀ log ∈ logs, ¬ Recordable D orders log

theorem Edit.set_announced {edit : Edit} (h : edit.target ≠ .announced) (row : OrderRow) :
    (edit.set row).status ≠ .announced := by
  cases edit with
  | srcLock lock =>
      simp only [Edit.set, SrcLock.set]
      split
      · decide
      · assumption
  | dstLock lock =>
      simp only [Edit.set, DstLock.set]
      split
      · decide
      · rename_i hlater
        exact fun hstatus => hlater (.inl hstatus)
  | secret publicId preimage txHash =>
      simp only [Edit.set, OrderRow.withSecret]
      decide
  | status publicId value => exact h

theorem Edit.onRow_publicId (edit : Edit) (row : OrderRow) :
    (edit.onRow row).publicId = row.publicId := by
  unfold Edit.onRow
  split
  · exact edit.set_publicId row
  · rfl

/-- No edit makes a lock recordable. -/
theorem Recordable.of_edit {edit : Edit} {now : ℕ} (htarget : edit.target ≠ .announced)
    (h : Recordable D (edit.apply now orders) log) : Recordable D orders log := by
  obtain ⟨order, row, hhashlock, hid, hstatus, hguard⟩ := h
  rw [findHashlock, findRow_apply (fun row => by cases edit <;> rfl), Option.map_eq_some_iff]
    at hhashlock
  obtain ⟨order, hhashlock, rfl⟩ := hhashlock
  rw [findId_apply, Option.map_eq_some_iff, Edit.onRow_publicId] at hid
  obtain ⟨row, hid, rfl⟩ := hid
  have hother : edit.onRow row = row := by
    by_cases hself : row.publicId = edit.publicId
    · have hset : edit.onRow row = edit.set row := if_pos hself
      rw [hset] at hstatus
      exact absurd hstatus (edit.set_announced htarget row)
    · exact if_neg hself
  rw [hother] at hstatus hguard
  refine ⟨order, row, hhashlock, hid, hstatus, ?_⟩
  rwa [show createdLock log (edit.onRow order) = createdLock log order by
    rw [createdLock, createdLock, Edit.onRow_publicId]] at hguard

theorem AllRecorded.edit {edit : Edit} (h : AllRecorded D logs orders)
    (htarget : edit.target ≠ .announced) (now : ℕ) : AllRecorded D logs (edit.apply now orders) :=
  fun log hmem hleft => h log hmem (hleft.of_edit htarget)

/-- Statements that make no lock recordable. -/
def Statement.KeepsLocks (stmt : Statement) : Prop :=
  stmt.ReadsOrders ∨ ∃ edit : Edit, stmt = edit.stmt ∧ edit.target ≠ .announced

theorem AllRecorded.statement {stmt : Statement} (h : AllRecorded D logs u.orders)
    (hstmt : stmt.KeepsLocks) : AllRecorded D logs (exec cond stmt u).2.orders := by
  rcases hstmt with hreads | ⟨edit, rfl, htarget⟩
  · rwa [exec_orders hreads]
  · rcases exec_edit edit cond u with hsame | ⟨now, hedit⟩
    · rwa [hsame]
    · rw [hedit]
      exact h.edit htarget now

theorem AllRecorded.task {p : Task α} (h : AllRecorded D logs u.orders) (cond : Conditions)
    (hissues : Issues Statement.KeepsLocks p) :
    AllRecorded D logs (run (exec cond) p u).2.orders :=
  (hissues.along (I := fun v : Database => AllRecorded D logs v.orders)
    (fun _ _ hstmt hv => hv.statement hstmt) h).stop

theorem Statement.Quiet.keepsLocks {stmt : Statement} (h : stmt.Quiet) : stmt.KeepsLocks :=
  .inl h.readsOrders

/-! ## Handling creation logs -/

theorem handleCreated_issues {P : Statement → Prop} (hquiet : ∀ stmt : Statement, stmt.Quiet → P stmt)
    (hedit : ∀ lock, P (.updateSrcLock lock)) (log : CreatedLog) :
    Issues P (EthereumListener.handleCreated D log) := by
  refine issues_tryCatch (issues_bind (issues_statement (hquiet (.byHashlock log.hashlock) trivial))
    fun found => ?_) fun _ => issues_pure _
  cases found with
  | none => exact issues_pure _
  | some order => exact (srcLock_plain hquiet _ (hedit _)).issues

theorem handleAllCreated_issues {P : Statement → Prop}
    (hquiet : ∀ stmt : Statement, stmt.Quiet → P stmt) (hedit : ∀ lock, P (.updateSrcLock lock))
    (logs : List CreatedLog) : Issues P (EthereumListener.handleAllCreated D logs) := by
  induction logs with
  | nil => exact issues_pure _
  | cons log logs ih => exact issues_bind (handleCreated_issues hquiet hedit log) fun _ => ih

theorem handleCreated_ok (exec : Handler Statement Statement.Response Database) (log : CreatedLog)
    (db : Database) : ∃ u, run exec (EthereumListener.handleCreated D log) db = (.ok (), u) := by
  rw [EthereumListener.handleCreated, run_tryCatch]
  split
  · exact ⟨_, rfl⟩
  · exact ⟨_, rfl⟩

theorem handleAllCreated_ok (exec : Handler Statement Statement.Response Database)
    (logs : List CreatedLog) (db : Database) :
    ∃ u, run exec (EthereumListener.handleAllCreated D logs) db = (.ok (), u) := by
  induction logs generalizing db with
  | nil => exact ⟨db, rfl⟩
  | cons log logs ih =>
      obtain ⟨u, hrun⟩ := handleCreated_ok (D := D) exec log db
      rw [EthereumListener.handleAllCreated, run_bind, hrun]
      exact ih u

/-- A log whose lock is not recordable leaves the orders alone, whatever fails. -/
theorem handleCreated_recorded (cond : Conditions) (h : ¬ Recordable D db.orders log) :
    (run (exec cond) (EthereumListener.handleCreated D log) db).2.orders = db.orders := by
  have hchange : CreatedChange D log db.orders
      (run (exec cond) (EthereumListener.handleCreated D log) db).2.orders :=
    handleCreated_change cond db log
  generalize (run (exec cond) (EthereumListener.handleCreated D log) db).2.orders = orders' at hchange
  cases hchange with
  | same => rfl
  | srcLock hfind hedit =>
      cases hedit with
      | same => rfl
      | edited now hid hedge hguard =>
          exact absurd ⟨_, _, hfind, hid, escrow_source hedge, srcLockGuard_ok.mpr hguard⟩ h

/-- While no statement fails, a log is recorded once it has been handled. -/
theorem handleCreated_records (clock : ℕ → ℕ) (log : CreatedLog) (db : Database) :
    ¬ Recordable D (run (exec (.calm clock)) (EthereumListener.handleCreated D log) db).2.orders
      log := by
  by_cases h : Recordable D db.orders log
  · obtain ⟨order, row, hhashlock, hid, hstatus, hguard⟩ := h
    rw [run_handleCreated clock hhashlock hid hstatus hguard]
    rintro ⟨order', row', hhashlock', hid', hstatus', _⟩
    rw [findHashlock, findRow_apply (fun _ => rfl),
      show findRow db.orders (fun row => row.hashlock = log.hashlock) = some order from hhashlock,
      Option.map_some] at hhashlock'
    obtain rfl := Option.some.inj hhashlock'
    rw [findId_apply, Edit.onRow_publicId, hid, Option.map_some] at hid'
    obtain rfl := Option.some.inj hid'
    have hself : (Edit.srcLock (createdLock log order)).onRow row =
        (createdLock log order).set row := if_pos (findId_publicId hid)
    rw [hself] at hstatus'
    have hset := Edit.set_announced (show (Edit.srcLock (createdLock log order)).target ≠ .announced from
      fun h => by cases h) row
    exact hset hstatus'
  · rwa [handleCreated_recorded _ h]

theorem srcLock_keepsLocks (lock : SrcLock) : Statement.KeepsLocks (.updateSrcLock lock) := by
  refine .inr ⟨.srcLock lock, rfl, ?_⟩
  rw [Edit.target]
  decide

theorem handleAllCreated_records (clock : ℕ → ℕ) (logs : List CreatedLog) (db : Database) :
    AllRecorded D logs
      (run (exec (.calm clock)) (EthereumListener.handleAllCreated D logs) db).2.orders := by
  induction logs generalizing db with
  | nil => simp [AllRecorded]
  | cons log logs ih =>
      have hrecords := handleCreated_records (D := D) clock log db
      obtain ⟨u, hrun⟩ := handleCreated_ok (D := D) (exec (.calm clock)) log db
      rw [hrun] at hrecords
      have hone : AllRecorded D [log] u.orders := by simpa [AllRecorded] using hrecords
      have hkept := hone.task (.calm clock) (handleAllCreated_issues (D := D)
        (fun _ h => h.keepsLocks) srcLock_keepsLocks logs)
      rw [EthereumListener.handleAllCreated, run_bind, hrun]
      intro other hmem
      rcases List.mem_cons.mp hmem with rfl | hlater
      · exact hkept _ List.mem_cons_self
      · exact ih u other hlater

/-- A second time the logs change nothing, whatever fails. -/
theorem handleAllCreated_again (cond : Conditions) (h : AllRecorded D logs u.orders) :
    Alike u (run (exec cond) (EthereumListener.handleAllCreated D logs) u).2 := by
  have hissues : Issues (fun stmt : Statement => stmt.Quiet ∨ ∃ edit : Edit, stmt = edit.stmt)
      (EthereumListener.handleAllCreated D logs) :=
    handleAllCreated_issues (fun _ h => .inl h) (fun lock => .inr ⟨.srcLock lock, rfl⟩) logs
  have hmarks : SameMarks u (run (exec cond) (EthereumListener.handleAllCreated D logs) u).2 := by
    refine (hissues.along (I := SameMarks u) ?_ ⟨rfl, rfl, rfl⟩).stop
    rintro stmt v (hquiet | ⟨edit, rfl⟩) hv
    · exact hv.trans (exec_quiet hquiet cond v).marks
    · exact hv.edit edit cond
  have horders : (run (exec cond) (EthereumListener.handleAllCreated D logs) u).2.orders =
      u.orders := by
    clear hissues hmarks
    induction logs generalizing u with
    | nil => rfl
    | cons log logs ih =>
        have hsame := handleCreated_recorded (D := D) cond (h log List.mem_cons_self)
        obtain ⟨v, hrun⟩ := handleCreated_ok (D := D) (exec cond) log u
        rw [hrun] at hsame
        rw [EthereumListener.handleAllCreated, run_bind, hrun]
        have hsame : v.orders = u.orders := hsame
        rw [← hsame]
        refine ih fun other hmem => ?_
        rw [hsame]
        exact h other (List.mem_cons_of_mem _ hmem)
  exact ⟨by rw [horders], hmarks.processed.symm, hmarks.cursors.symm, hmarks.lastOrderId.symm⟩

/-! ## Later runs

The clock decides only whether the window for a secret is open. It closes and does not open
again, and an event that meets it closed is kept for another run. -/

/-- Errors that keep an event for another run. -/
abbrev Retryable (e : CoordinatorError) : Prop :=
  ChainEventProcessor.isPermanent e = false

variable {later : ℤ}

theorem expired_later {timelock : Option ℤ} (h : nowSec ≤ later)
    (hexpired : (timelock.any fun t => t > 0 && nowSec > t) = true) :
    (timelock.any fun t => t > 0 && later > t) = true := by
  cases timelock with
  | none => cases hexpired
  | some t =>
      simp only [Option.any_some, Bool.and_eq_true, decide_eq_true_eq] at hexpired ⊢
      omega

theorem window_earlier {srcTimelock dstTimelock : Option ℤ} (h : nowSec ≤ later)
    (hopen : evaluateSecretWindow srcTimelock dstTimelock later = none) :
    evaluateSecretWindow srcTimelock dstTimelock nowSec = none := by
  unfold evaluateSecretWindow at hopen ⊢
  by_cases hsrc : (srcTimelock.any fun t => t > 0 && nowSec > t) = true
  · rw [if_pos (expired_later h hsrc)] at hopen
    cases hopen
  · by_cases hdst : (dstTimelock.any fun t => t > 0 && nowSec > t) = true
    · rw [if_pos (expired_later h hdst)] at hopen
      split at hopen <;> cases hopen
    · rw [if_neg hsrc, if_neg hdst]

theorem window_curtailed (srcTimelock dstTimelock : Option ℤ) (h : nowSec ≤ later) :
    Curtailed Retryable
      (Task.ofExcept (SecretService.assertInsideTimelockWindow srcTimelock dstTimelock later))
      (Task.ofExcept (SecretService.assertInsideTimelockWindow srcTimelock dstTimelock nowSec)) := by
  cases hwindow : SecretService.assertInsideTimelockWindow srcTimelock dstTimelock later with
  | error e => exact .gaveUp (window_stuck hwindow)
  | ok _ =>
      rw [window_open.mpr (window_earlier h (window_open.mp hwindow))]
      exact curtailed_refl _

theorem reveal_curtailed (h : nowSec ≤ later) (publicId preimage txHash : String) :
    Curtailed Retryable (SecretService.reveal D later publicId preimage txHash)
      (SecretService.reveal D nowSec publicId preimage txHash) := by
  refine curtailed_bind (curtailed_refl _) fun _ => ?_
  refine curtailed_bind (curtailed_refl _) fun found => ?_
  cases found with
  | none => exact curtailed_refl _
  | some order =>
      refine curtailed_bind (curtailed_refl _) fun known => ?_
      cases known with
      | false => exact curtailed_refl _
      | true =>
          rw [if_pos rfl, if_pos rfl]
          cases order.preimage with
          | some stored => exact curtailed_refl _
          | none =>
              refine curtailed_bind (curtailed_refl _) fun existing => ?_
              split
              · exact curtailed_refl _
              · exact curtailed_bind (window_curtailed _ _ h) fun _ => curtailed_refl _

theorem settle_curtailed (h : nowSec ≤ later) (ev : SettlementEvent) (order : OrderRow) :
    Curtailed Retryable (ChainEventProcessor.settle D later ev order)
      (ChainEventProcessor.settle D nowSec ev order) := by
  unfold ChainEventProcessor.settle
  cases ev.kind with
  | refunded => exact curtailed_refl _
  | claimed =>
      dsimp only
      cases truthy ev.preimage with
      | none => exact curtailed_refl _
      | some preimage =>
          dsimp only
          split
          · exact curtailed_refl _
          · exact curtailed_bind (reveal_curtailed h _ _ _) fun _ => curtailed_refl _

theorem process_curtailed (h : nowSec ≤ later) (networkId : String) (ev : SettlementEvent) :
    Curtailed Retryable (ChainEventProcessor.process D later networkId ev)
      (ChainEventProcessor.process D nowSec networkId ev) := by
  refine curtailed_bind (curtailed_refl _) fun seen => ?_
  cases seen with
  | true =>
      rw [if_pos rfl, if_pos rfl]
      exact curtailed_refl _
  | false =>
      rw [if_neg Bool.false_ne_true, if_neg Bool.false_ne_true]
      refine curtailed_bind ?_ fun _ => curtailed_refl _
      refine curtailed_bind (curtailed_refl _) fun found => ?_
      cases found with
      | none => exact curtailed_refl _
      | some order =>
          refine curtailed_tryCatch (settle_curtailed h ev order) fun e he => ?_
          exact if_neg (by rw [he]; decide)

theorem processAll_curtailed (h : nowSec ≤ later) (networkId : String)
    (events : List SettlementEvent) (counts : BatchCounts) :
    Curtailed Retryable (ChainEventProcessor.processAll D later networkId events counts)
      (ChainEventProcessor.processAll D nowSec networkId events counts) := by
  induction events generalizing counts with
  | nil => exact curtailed_refl _
  | cons ev events ih => exact curtailed_bind (process_curtailed h networkId ev) fun _ => ih _

theorem processBatch_curtailed (h : nowSec ≤ later) (networkId : String) (chain : ChainName)
    (events : List SettlementEvent) (upTo : ℕ) (cursor : Option String) :
    Curtailed Retryable
      (ChainEventProcessor.processBatch D later networkId chain events upTo cursor)
      (ChainEventProcessor.processBatch D nowSec networkId chain events upTo cursor) :=
  curtailed_bind (processAll_curtailed h networkId _ _) fun _ => curtailed_refl _

/-- A later batch under failures ends as the batch would, or breaks off at some statement of
it. -/
theorem processBatch_later (cond : Conditions) (h : nowSec ≤ later) (networkId : String)
    (chain : ChainName) (events : List SettlementEvent) (upTo : ℕ) (cursor : Option String)
    (u : Database) :
    let batch := ChainEventProcessor.processBatch D nowSec networkId chain events upTo cursor
    let outcome := run (exec cond)
      (ChainEventProcessor.processBatch D later networkId chain events upTo cursor) u
    outcome = run (exec (.calm cond.clock)) batch u ∨
      ∃ e n, outcome.1 = .error e ∧ Alike (after (exec (.calm cond.clock)) n batch u) outcome.2 := by
  dsimp only
  have hplain : Plain .database (fun _ => True)
      (ChainEventProcessor.processBatch D later networkId chain events upTo cursor) :=
    processBatch_plain (fun _ _ => trivial) (fun _ => trivial) later networkId chain events upTo
      cursor (fun _ _ => trivial) trivial
  have hcurtailed := processBatch_curtailed (D := D) h networkId chain events upTo cursor
  rcases hplain.run_failing (exec_or_fails cond) u with hrun | ⟨n, hrun⟩
  · rw [hrun]
    rcases hcurtailed.run u with hsame | ⟨e, n, _, hbroken⟩
    · exact .inl hsame
    · refine .inr ⟨e, n, ?_⟩
      rw [hbroken]
      exact ⟨rfl, .refl _⟩
  · obtain ⟨m, hm⟩ := hcurtailed.after n u
    refine .inr ⟨.database, m, ?_⟩
    rw [hrun, ← hm]
    exact ⟨rfl, rfl, rfl, rfl, rfl⟩

/-! ## Runs until one completes -/

/-- The logs of a range of blocks. -/
structure Backlog where
  created : List CreatedLog
  claimed : List SettlementLog
  refunded : List SettlementLog
  upTo : ℕ

structure Attempt where
  cond : Conditions
  nowSec : ℤ

def Backlog.settlements (backlog : Backlog) : List SettlementEvent :=
  backlog.claimed.map (EthereumListener.toSettlement .claimed) ++
    backlog.refunded.map (EthereumListener.toSettlement .refunded)

def Backlog.catchUp (D : Deployment) (networkId : String) (backlog : Backlog) (attempt : Attempt)
    (db : Database) : Except CoordinatorError BatchCounts × Database :=
  run (exec attempt.cond) (EthereumListener.catchUp D attempt.nowSec networkId backlog.created
    backlog.claimed backlog.refunded backlog.upTo) db

/-- The last of the attempts completes, each before it fails. -/
inductive Retried (D : Deployment) (networkId : String) (backlog : Backlog) :
    List Attempt → Database → Database → Prop where
  | completes {attempt : Attempt} {db db' : Database} {counts : BatchCounts} :
      backlog.catchUp D networkId attempt db = (.ok counts, db') →
      Retried D networkId backlog [attempt] db db'
  | again {attempt : Attempt} {attempts : List Attempt} {db mid db' : Database}
      {e : CoordinatorError} : backlog.catchUp D networkId attempt db = (.error e, mid) →
      Retried D networkId backlog attempts mid db' →
      Retried D networkId backlog (attempt :: attempts) db db'

variable {backlog : Backlog} {E : Except CoordinatorError Unit × Database}

/-- The settlements of a backlog, and then the cursor. -/
def Backlog.settle (D : Deployment) (networkId : String) (backlog : Backlog) (nowSec : ℤ) :
    Task BatchCounts :=
  ChainEventProcessor.processBatch D nowSec networkId .ethereum backlog.settlements backlog.upTo none

theorem run_catchUp (D : Deployment) (networkId : String) (backlog : Backlog) (attempt : Attempt)
    (db : Database) :
    backlog.catchUp D networkId attempt db = run (exec attempt.cond)
      (backlog.settle D networkId attempt.nowSec)
      (run (exec attempt.cond) (EthereumListener.handleAllCreated D backlog.created) db).2 := by
  obtain ⟨u, hrun⟩ := handleAllCreated_ok (D := D) (exec attempt.cond) backlog.created db
  rw [Backlog.catchUp, EthereumListener.catchUp, run_bind, hrun]
  rfl

/-- From here the settlements end as `E`, and no lock is left to be recorded. -/
structure OnTrack (D : Deployment) (networkId : String) (backlog : Backlog) (nowSec : ℤ)
    (E : Except CoordinatorError Unit × Database) (u : Database) : Prop where
  recorded : AllRecorded D backlog.created u.orders
  ends : ∀ clock, let outcome := run (exec (.calm clock)) (backlog.settle D networkId nowSec) u
    SameEnd E (ending outcome.1, outcome.2)

theorem OnTrack.of_alike (h : OnTrack D networkId backlog nowSec E u) (halike : Alike u v)
    (hrecorded : AllRecorded D backlog.created v.orders) :
    OnTrack D networkId backlog nowSec E v where
  recorded := hrecorded
  ends clock := by
    obtain ⟨hresult, hworld⟩ :=
      (alike_respects clock clock).run (backlog.settle D networkId nowSec) halike
    exact (h.ends clock).trans ⟨congrArg ending hresult, hworld⟩

theorem settle_keepsLocks (D : Deployment) (networkId : String) (backlog : Backlog) (nowSec : ℤ) :
    Issues Statement.KeepsLocks (backlog.settle D networkId nowSec) := by
  refine (processBatch_plain (fun _ h => h.keepsLocks) (fun _ => .inl trivial) nowSec networkId
    .ethereum _ _ none (fun ev order => .inr ⟨_, rfl, ?_⟩) (.inl trivial)).issues
  unfold settleEdit
  cases ev.kind with
  | claimed => exact fun h => by cases h
  | refunded => exact fun h => by cases h

/-- Where the settlements of a later attempt are processed to their end, they end as `E`. -/
theorem OnTrack.completed (h : OnTrack D networkId backlog nowSec E u) (hlater : nowSec ≤ later)
    {cond : Conditions} {counts : BatchCounts}
    (hrun : run (exec cond) (backlog.settle D networkId later) u = (.ok counts, v)) :
    SameEnd E (.ok (), v) := by
  have hends := h.ends cond.clock
  rcases processBatch_later (D := D) cond hlater networkId .ethereum backlog.settlements backlog.upTo
    none u with hsame | ⟨e, _, hfailed, _⟩
  · have hclean : run (exec (.calm cond.clock)) (backlog.settle D networkId nowSec) u =
        (.ok counts, v) := hsame.symm.trans hrun
    rw [hclean] at hends
    exact hends
  · have hok := congrArg Prod.fst hrun
    rw [show (run (exec cond) (backlog.settle D networkId later) u).1 = .error e from hfailed] at hok
    cases hok

/-- Wherever they break off, they stay on track. -/
theorem OnTrack.attempt (h : OnTrack D networkId backlog nowSec E u) (hlater : nowSec ≤ later)
    (cond : Conditions) :
    OnTrack D networkId backlog nowSec E
      (run (exec cond) (backlog.settle D networkId later) u).2 := by
  have hcut : ∃ n, Alike (after (exec (.calm cond.clock)) n (backlog.settle D networkId nowSec) u)
      (run (exec cond) (backlog.settle D networkId later) u).2 := by
    rcases processBatch_later (D := D) cond hlater networkId .ethereum backlog.settlements
      backlog.upTo none u with hsame | ⟨_, n, _, halike⟩
    · obtain ⟨n, hn⟩ : ∃ n, (run (exec (.calm cond.clock)) (backlog.settle D networkId nowSec) u).2 =
          after (exec (.calm cond.clock)) n (backlog.settle D networkId nowSec) u := run_after _ u
      refine ⟨n, ?_⟩
      rw [← hn, Backlog.settle, Backlog.settle, hsame]
      exact .refl _
    · exact ⟨n, halike⟩
  obtain ⟨n, halike⟩ := hcut
  refine ⟨h.recorded.task cond (settle_keepsLocks D networkId backlog later), fun clock => ?_⟩
  have hagain := processBatch_recovers D nowSec networkId .ethereum backlog.settlements backlog.upTo
    none u cond.clock clock n
  obtain ⟨hresult, hworld⟩ := (alike_respects clock clock).run
    (backlog.settle D networkId nowSec) halike
  exact ((h.ends cond.clock).trans hagain).trans ⟨congrArg ending hresult, hworld⟩

/-- The logs are handled again before the settlements. -/
theorem OnTrack.again (h : OnTrack D networkId backlog nowSec E u) (cond : Conditions) :
    OnTrack D networkId backlog nowSec E
      (run (exec cond) (EthereumListener.handleAllCreated D backlog.created) u).2 :=
  h.of_alike (handleAllCreated_again cond h.recorded)
    (h.recorded.task cond (handleAllCreated_issues (fun _ h => h.keepsLocks) srcLock_keepsLocks _))

/-- Attempts end as `E` once they are on track. -/
theorem OnTrack.retried {attempts : List Attempt} (h : OnTrack D networkId backlog nowSec E db)
    (hlater : ∀ attempt ∈ attempts, nowSec ≤ attempt.nowSec)
    (hretried : Retried D networkId backlog attempts db v) : SameEnd E (.ok (), v) := by
  induction hretried with
  | @completes attempt db v counts hrun =>
      rw [run_catchUp] at hrun
      exact (h.again attempt.cond).completed (hlater attempt List.mem_cons_self) hrun
  | @again attempt attempts db mid v e hrun _ ih =>
      rw [run_catchUp] at hrun
      have htrack := (h.again attempt.cond).attempt (hlater attempt List.mem_cons_self) attempt.cond
      rw [hrun] at htrack
      exact ih htrack fun other hmem => hlater other (List.mem_cons_of_mem _ hmem)

/-! ## The cursor of a failed run -/

/-- Saving the cursor fails without effect. -/
theorem cursor_advance_error {chain : ChainName} {upTo : ℕ} {cursor : Option String}
    {e : CoordinatorError}
    (h : run (exec cond) (ChainEventProcessor.advance chain networkId upTo cursor) u = (.error e, v)) :
    v.cursors = u.cursors := by
  have hresume : Issues Statement.KeepsCursors (ChainEventProcessor.resume chain networkId) := by
    apply issues_bind (issues_statement (by trivial))
    intro found
    cases found with
    | none => exact issues_pure _
    | some saved =>
        dsimp only
        split
        · exact issues_throw _
        · exact issues_pure _
  have hkept := run_cursors hresume cond u
  rw [ChainEventProcessor.advance, run_bind] at h
  cases hrun : run (exec cond) (ChainEventProcessor.resume chain networkId) u with
  | mk r w =>
      rw [hrun] at h hkept
      cases r with
      | error e' =>
          obtain ⟨_, rfl⟩ := Prod.mk.inj h
          exact hkept
      | ok saved =>
          simp only [OrdersRepository.saveChainCursor, query, run_statement] at h
          rcases exec_or_fails cond (.upsertCursor chain ⟨networkId, upTo, cursor⟩) w with
            hsaved | hfails
          · rw [hsaved, exec_calm] at h
            cases (Prod.mk.inj h).1
          · rw [hfails] at h
            obtain ⟨_, rfl⟩ := Prod.mk.inj h
            exact hkept

/-- A run that fails leaves the cursors where they are: the next one fetches the same blocks. -/
theorem failed_cursors {attempt : Attempt} {e : CoordinatorError}
    (h : backlog.catchUp D networkId attempt db = (.error e, v)) : v.cursors = db.cursors := by
  have hcreated : Issues Statement.KeepsCursors
      (EthereumListener.handleAllCreated D backlog.created) :=
    handleAllCreated_issues (fun _ h => h.keepsCursors) (fun _ => trivial) _
  have hevents : Issues Statement.KeepsCursors (ChainEventProcessor.processAll D attempt.nowSec
      networkId (backlog.settlements.insertionSort ChainEventProcessor.NotAfter) ⟨0, 0, 0⟩) := by
    refine (processAll_plain (fun _ h => h.keepsCursors) (fun _ => trivial) _ _ _ _ ?_).issues
    intro ev order
    unfold settleEdit
    cases ev.kind <;> trivial
  rw [run_catchUp, Backlog.settle, ChainEventProcessor.processBatch, run_bind] at h
  have hkept := run_cursors hcreated attempt.cond db
  generalize (run (exec attempt.cond) (EthereumListener.handleAllCreated D backlog.created) db).2 =
    u at h hkept
  have hkept' := run_cursors hevents attempt.cond u
  cases hrun : run (exec attempt.cond) (ChainEventProcessor.processAll D attempt.nowSec networkId
      (backlog.settlements.insertionSort ChainEventProcessor.NotAfter) ⟨0, 0, 0⟩) u with
  | mk r w =>
      rw [hrun] at h hkept'
      cases r with
      | error e' =>
          obtain ⟨_, rfl⟩ := Prod.mk.inj h
          exact hkept'.trans hkept
      | ok counts =>
          dsimp only at h
          rw [run_bind] at h
          cases hadvance : run (exec attempt.cond)
              (ChainEventProcessor.advance .ethereum networkId backlog.upTo none) w with
          | mk r' w' =>
              rw [hadvance] at h
              cases r' with
              | error e' =>
                  obtain ⟨_, rfl⟩ := Prod.mk.inj h
                  exact (cursor_advance_error hadvance).trans (hkept'.trans hkept)
              | ok _ => cases (Prod.mk.inj h).1

/-! ## The result -/

/-- Where no statement of the first attempt fails while it handles the creation logs, the
attempts end with the orders that one run without failures leaves, made no later than they. -/
theorem catchUp_loses_nothing (D : Deployment) (networkId : String) (backlog : Backlog)
    (first : Attempt) (others : List Attempt) (nowSec : ℤ) (db db' : Database) (clock : ℕ → ℕ)
    (htimes : ∀ attempt ∈ first :: others, nowSec ≤ attempt.nowSec)
    (hanswered : answered (exec first.cond)
      (EthereumListener.handleAllCreated D backlog.created) db = true)
    (hretried : Retried D networkId backlog (first :: others) db db') :
    let clean := backlog.catchUp D networkId ⟨.calm clock, nowSec⟩ db
    (∃ counts, clean.1 = .ok counts) ∧ rowsOf clean.2.orders = rowsOf db'.orders := by
  dsimp only
  have hcalm : run (exec first.cond) (EthereumListener.handleAllCreated D backlog.created) db =
      run (exec (.calm first.cond.clock)) (EthereumListener.handleAllCreated D backlog.created) db :=
    run_answered hanswered fun stmt u =>
      (exec_or_fails first.cond stmt u).imp_right fun hfails => by rw [hfails]
  have hrecorded := handleAllCreated_records (D := D) first.cond.clock backlog.created db
  obtain ⟨_, halike⟩ := (alike_respects clock first.cond.clock).run
    (EthereumListener.handleAllCreated D backlog.created) (Alike.refl db)
  rw [← hcalm] at hrecorded halike
  rw [run_catchUp]
  dsimp only
  generalize (run (exec (.calm clock)) (EthereumListener.handleAllCreated D backlog.created) db).2 =
    start at halike
  generalize hclean : run (exec (.calm clock)) (backlog.settle D networkId nowSec) start = clean
  generalize hfirst : (run (exec first.cond)
    (EthereumListener.handleAllCreated D backlog.created) db).2 = u at hrecorded halike
  have htrack : OnTrack D networkId backlog nowSec (ending clean.1, clean.2) u := by
    refine ⟨hrecorded, fun clock' => ?_⟩
    obtain ⟨hresult, hworld⟩ := (alike_respects clock clock').run
      (backlog.settle D networkId nowSec) halike
    rw [hclean] at hresult hworld
    exact ⟨congrArg ending hresult, hworld⟩
  have hlater := htimes first List.mem_cons_self
  have hend : SameEnd (ending clean.1, clean.2) (.ok (), db') := by
    cases hretried with
    | completes hrun =>
        rw [run_catchUp, hfirst] at hrun
        exact htrack.completed hlater hrun
    | again hrun hothers =>
        rw [run_catchUp, hfirst] at hrun
        have hnext := htrack.attempt hlater first.cond
        rw [hrun] at hnext
        exact hnext.retried (fun other hmem => htimes other (List.mem_cons_of_mem _ hmem)) hothers
  obtain ⟨hok, hrows⟩ := hend
  refine ⟨?_, hrows.rows⟩
  cases hresult : clean.1 with
  | ok counts => exact ⟨counts, rfl⟩
  | error e =>
      rw [hresult] at hok
      cases hok

/-! ## The lock and the claim of order 7 -/

theorem eq_mk_of_fst {α β : Type} {p : α × β} {a : α} (h : p.1 = a) : p = (a, p.2) := by
  rw [← h]

def backlog7 : Backlog where
  created := [createdLog7]
  claimed := [⟨7, some preimage7, "0xbb", 3, 101⟩]
  refunded := []
  upTo := 120

/-- An attempt whose statement with this number fails. -/
def failingAt (n : ℕ) : Attempt where
  cond := ⟨fun _ => 1700000000, fun i => i = n⟩
  nowSec := 1700000000

/-- The claim is applied, but it cannot be marked. -/
def interrupted7 : Database :=
  (backlog7.catchUp deployment7 "11155111" (failingAt 17) (announced7 input7)).2

def repeated7 : Attempt where
  cond := calm7
  nowSec := 1700000060

theorem catchUp_loses_nothing_order7 :
    let caughtUp := (backlog7.catchUp deployment7 "11155111" repeated7 interrupted7).2
    let clean := (backlog7.catchUp deployment7 "11155111" ⟨calm7, 1700000000⟩ (announced7 input7)).2
    (failingAt 17).cond.fails 17 = true ∧
      Retried deployment7 "11155111" backlog7 [failingAt 17, repeated7] (announced7 input7) caughtUp ∧
      (rowsOf caughtUp.orders).map (·.status) = [.secretRevealed] ∧
      rowsOf clean.orders = rowsOf caughtUp.orders := by
  dsimp only
  have hfailed : (backlog7.catchUp deployment7 "11155111" (failingAt 17) (announced7 input7)).1 =
      .error .database := by decide
  have hcompleted : (backlog7.catchUp deployment7 "11155111" repeated7 interrupted7).1 =
        .ok ⟨0, 1, 0⟩ ∧
      (rowsOf (backlog7.catchUp deployment7 "11155111" repeated7 interrupted7).2.orders).map
        (·.status) = [.secretRevealed] := by decide
  have hinterrupted : backlog7.catchUp deployment7 "11155111" (failingAt 17) (announced7 input7) =
      (.error .database, interrupted7) := by
    rw [interrupted7]
    exact eq_mk_of_fst hfailed
  have hretried : Retried deployment7 "11155111" backlog7 [failingAt 17, repeated7]
      (announced7 input7) (backlog7.catchUp deployment7 "11155111" repeated7 interrupted7).2 :=
    .again hinterrupted (.completes (eq_mk_of_fst hcompleted.1))
  have hanswered : answered (exec (failingAt 17).cond)
      (EthereumListener.handleAllCreated deployment7 backlog7.created) (announced7 input7) =
        true := by decide
  have hend := catchUp_loses_nothing deployment7 "11155111" backlog7 (failingAt 17) [repeated7]
    1700000000 (announced7 input7)
    (backlog7.catchUp deployment7 "11155111" repeated7 interrupted7).2 (fun _ => 1700000000)
    (by decide) hanswered hretried
  have hcalm : Conditions.calm (fun _ => 1700000000) = calm7 := rfl
  rw [hcalm] at hend
  exact ⟨rfl, hretried, hcompleted.2, hend.2⟩

/-- A lock that cannot be recorded is dropped, and its claim is then marked as that of an unknown
order. -/
theorem dropped_lock_loses_claim :
    ¬ ∀ (D : Deployment) (networkId : String) (backlog : Backlog) (first : Attempt)
        (others : List Attempt) (nowSec : ℤ) (db db' : Database) (clock : ℕ → ℕ),
      (∀ attempt ∈ first :: others, nowSec ≤ attempt.nowSec) →
      Retried D networkId backlog (first :: others) db db' →
      rowsOf (backlog.catchUp D networkId ⟨.calm clock, nowSec⟩ db).2.orders =
        rowsOf db'.orders := by
  intro h
  have hfailed : (backlog7.catchUp deployment7 "11155111" (failingAt 4) (announced7 input7)).1 =
        .ok ⟨0, 0, 1⟩ ∧
      rowsOf (backlog7.catchUp deployment7 "11155111" ⟨.calm fun _ => 1700000000, 1700000000⟩
          (announced7 input7)).2.orders ≠
        rowsOf (backlog7.catchUp deployment7 "11155111" (failingAt 4)
          (announced7 input7)).2.orders := by decide
  exact hfailed.2 (h deployment7 "11155111" backlog7 (failingAt 4) [] 1700000000
    (announced7 input7)
    (backlog7.catchUp deployment7 "11155111" (failingAt 4) (announced7 input7)).2
    (fun _ => 1700000000) (by decide) (.completes (eq_mk_of_fst hfailed.1)))

end OverSync.Coordinator
