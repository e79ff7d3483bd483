import OverSync.Verification.Coordinator.Semantics

/-! # The coordinator's writers while no statement fails

Every writer ends in one of four ways: the order is unknown, the request is refused or
recognised as a repeat, a guard turns it down, or its edit is applied. -/

namespace OverSync.Coordinator

open Library Library.Procedure

variable {D : Deployment} {clock : ℕ → ℕ} {db : Database} {α : Type}

/-! ## Statements -/

theorem exec_calm (stmt : Statement) (db : Database) :
    exec (.calm clock) stmt db =
      ((perform (clock db.executed) stmt db).1, (perform (clock db.executed) stmt db).2.tick) := by
  simp [exec, Conditions.calm]

@[simp] theorem run_findByPublicId (publicId : String) (db : Database) :
    run (exec (.calm clock)) (OrdersRepository.findByPublicId publicId) db =
      (.ok (findId db.orders publicId), db.tick) := by
  rw [OrdersRepository.findByPublicId, query, run_statement, exec_calm]
  rfl

@[simp] theorem run_findByHashlock (hashlock : String) (db : Database) :
    run (exec (.calm clock)) (OrdersRepository.findByHashlock hashlock) db =
      (.ok (db.byHashlock hashlock), db.tick) := by
  rw [OrdersRepository.findByHashlock, query, run_statement, exec_calm]
  rfl

@[simp] theorem run_findBySrcOrderId (chain : Chain) (orderId : String) (db : Database) :
    run (exec (.calm clock)) (OrdersRepository.findBySrcOrderId chain orderId) db =
      (.ok (db.bySrcOrderId chain orderId), db.tick) := by
  rw [OrdersRepository.findBySrcOrderId, query, run_statement, exec_calm]
  rfl

@[simp] theorem run_findByDstOrderId (chain : Chain) (orderId : String) (db : Database) :
    run (exec (.calm clock)) (OrdersRepository.findByDstOrderId chain orderId) db =
      (.ok (db.byDstOrderId chain orderId), db.tick) := by
  rw [OrdersRepository.findByDstOrderId, query, run_statement, exec_calm]
  rfl

@[simp] theorem run_findByPreimage (preimage : String) (db : Database) :
    run (exec (.calm clock)) (OrdersRepository.findByPreimage preimage) db =
      (.ok (db.byPreimage preimage), db.tick) := by
  rw [OrdersRepository.findByPreimage, query, run_statement, exec_calm]
  rfl

@[simp] theorem run_getChainCursor (chain : ChainName) (db : Database) :
    run (exec (.calm clock)) (OrdersRepository.getChainCursor chain) db =
      (.ok (db.cursors chain), db.tick) := by
  rw [OrdersRepository.getChainCursor, query, run_statement, exec_calm]
  rfl

@[simp] theorem run_hasProcessedEvent (eventKey : String) (db : Database) :
    run (exec (.calm clock)) (OrdersRepository.hasProcessedEvent eventKey) db =
      (.ok (db.processed.any (·.eventKey = eventKey)), db.tick) := by
  rw [OrdersRepository.hasProcessedEvent, query, run_statement, exec_calm]
  rfl

@[simp] theorem run_saveChainCursor (chain : ChainName) (cursor : ChainCursor) (db : Database) :
    run (exec (.calm clock)) (OrdersRepository.saveChainCursor chain cursor) db =
      (.ok (), { db with
        cursors := fun name =>
          if name = chain then some (cursor.upsert (db.cursors chain)) else db.cursors name
        executed := db.executed + 1 }) := by
  rw [OrdersRepository.saveChainCursor, query, run_statement, exec_calm]
  rfl

/-- The database after one more order event. -/
def Database.log (db : Database) (clock : ℕ → ℕ) (orderId : ℕ) (payload : EventPayload) :
    Database :=
  { db with
    orderEvents := db.orderEvents ++ [⟨orderId, payload, clock db.executed⟩]
    executed := db.executed + 1 }

@[simp] theorem run_insertOrderEvent (orderId : ℕ) (payload : EventPayload) (db : Database) :
    run (exec (.calm clock)) (query (.insertOrderEvent orderId payload)) db =
      (.ok (), db.log clock orderId payload) := by
  rw [query, run_statement, exec_calm]
  rfl

@[simp] theorem run_edit (edit : Edit) (db : Database) :
    run (exec (.calm clock)) (query edit.stmt >>= fun _ => pure ()) db =
      (.ok (), { db with
        orders := edit.apply (clock db.executed) db.orders
        executed := db.executed + 1 }) := by
  rw [run_bind, query, run_statement, exec_calm]
  cases edit <;> rfl

@[simp] theorem run_ofExcept (x : Except CoordinatorError α) (db : Database) :
    run (exec (.calm clock)) (Task.ofExcept x) db = (x, db) := by
  cases x <;> rfl

/-! ## Writers -/

/-- The database after a refused or repeated request: the order is read twice and one event is
added. -/
def Database.refused (db : Database) (clock : ℕ → ℕ) (order : OrderRow)
    (info : TransitionRejectionInfo) : Database :=
  db.tick.tick.log clock order.id (.transitionRejected info.toRejectedTransition)

/-- The database after an edit: the order is read, updated, and one event is added. -/
def Database.written (db : Database) (clock : ℕ → ℕ) (order : OrderRow) (edit : Edit)
    (txHash : Option String) : Database :=
  { db with
    orders := edit.apply (clock (db.executed + 1)) db.orders
    executed := db.executed + 2 }.log clock order.id
      (.transitionSummary ⟨some order.status, edit.target, txHash, edit.target.text⟩)

/-- What a request comes to whose write is `edit`, made under `guard`. -/
def advanced (clock : ℕ → ℕ) (db : Database) (request : OrderService.AdvanceRequest) (edit : Edit)
    (guard : OrderRow → Except CoordinatorError Unit) : Except CoordinatorError Unit × Database :=
  match findId db.orders request.publicId with
  | none => (.error (.validation ("unknown order " ++ request.publicId) none), db.tick)
  | some order =>
    let target := actionTargetStatus request.action
    if order.status = target then
      if request.isSameStep order then
        (.ok (), db.refused clock order (request.refusal order .repeatedStep
          (describeTransitionFailure .repeatedStep order.status target)))
      else
        let info := request.refusal order .conflictingStep
          (describeTransitionFailure .conflictingStep order.status target)
        (.error (.rejected info), db.refused clock order info)
    else
      match evaluateTransition order.status target request.action with
      | some (code, reason) =>
        let info := request.refusal order code reason
        (.error (.rejected info), db.refused clock order info)
      | none =>
        match guard order with
        | .error e => (.error e, db.tick)
        | .ok () => (.ok (), db.tick.written clock order edit request.txHash)

theorem run_write (edit : Edit) (txHash : Option String) {order : OrderRow}
    (hfind : findId db.orders edit.publicId = some order) :
    run (exec (.calm clock))
      (OrdersRepository.write edit.publicId edit.stmt edit.target txHash) db =
      (.ok (), db.written clock order edit txHash) := by
  rw [OrdersRepository.write, run_bind, run_findByPublicId, hfind]
  simp only [run_bind, OrdersRepository.recordTransition, query, run_statement, exec_calm]
  cases edit <;> rfl

theorem run_persistRejection (info : TransitionRejectionInfo) {order : OrderRow}
    (hfind : findId db.orders info.publicId = some order) :
    run (exec (.calm clock)) (OrderService.persistRejection info) db.tick =
      (.ok (), db.refused clock order info) := by
  rw [OrderService.persistRejection, OrdersRepository.recordRejectedTransition, run_bind,
    run_findByPublicId, tick_orders, hfind]
  exact run_insertOrderEvent _ _ _

theorem run_rejectTransition (info : TransitionRejectionInfo) {order : OrderRow}
    (hfind : findId db.orders info.publicId = some order) :
    run (exec (.calm clock)) (OrderService.rejectTransition info) db.tick =
      (.error (.rejected info), db.refused clock order info) := by
  rw [OrderService.rejectTransition, run_bind, run_persistRejection info hfind]
  rfl

/-- A request whose write is an edit under a guard. -/
theorem run_advance (request : OrderService.AdvanceRequest) (edit : Edit)
    (guard : OrderRow → Except CoordinatorError Unit)
    (happly : ∀ order, findId db.orders request.publicId = some order →
      run (exec (.calm clock)) (request.apply order) db.tick =
        match guard order with
        | .error e => (.error e, db.tick)
        | .ok () => (.ok (), db.tick.written clock order edit request.txHash)) :
    run (exec (.calm clock)) (OrderService.advance request) db =
      advanced clock db request edit guard := by
  rw [OrderService.advance, run_bind, run_findByPublicId]
  unfold advanced
  cases hfind : findId db.orders request.publicId with
  | none => rfl
  | some order =>
      dsimp only
      split
      · split
        · exact run_persistRejection _ hfind
        · exact run_rejectTransition _ hfind
      · cases evaluateTransition order.status (actionTargetStatus request.action)
            request.action with
        | some refusal => exact run_rejectTransition _ hfind
        | none => exact happly order hfind

/-! ## The writers of the order service -/

theorem run_guarded {p : Task Unit} (x : Except CoordinatorError Unit) {db' : Database}
    (hp : run (exec (.calm clock)) p db = (.ok (), db')) :
    run (exec (.calm clock)) (Task.ofExcept x >>= fun _ => p) db =
      match x with
      | .error e => (.error e, db)
      | .ok () => (.ok (), db') := by
  rw [run_bind, run_ofExcept]
  cases x with
  | error e => rfl
  | ok a => exact hp

variable (clock) (db)

theorem run_recordSrcLock (lock : SrcLock) (writer : String) :
    run (exec (.calm clock)) (OrderService.recordSrcLock D lock writer) db =
      advanced clock db (OrderService.srcLockRequest D lock writer) (.srcLock lock)
        (OrderService.srcLockGuard D lock) :=
  run_advance _ _ _ fun _ hfind => run_guarded _ (run_write (.srcLock lock) _ hfind)

theorem run_recordDstLock (lock : DstLock) (writer : String) :
    run (exec (.calm clock)) (OrderService.recordDstLock D lock writer) db =
      advanced clock db (OrderService.dstLockRequest D lock writer) (.dstLock lock)
        (OrderService.dstLockGuard D lock) :=
  run_advance _ _ _ fun _ hfind => run_guarded _ (run_write (.dstLock lock) _ hfind)

theorem run_recordSecret (publicId preimage txHash writer : String) :
    run (exec (.calm clock)) (OrderService.recordSecret D publicId preimage txHash writer) db =
      advanced clock db
        (OrderService.secretRequest publicId (D.toLowerCase preimage) txHash writer)
        (.secret publicId (D.toLowerCase preimage) txHash) fun _ => .ok () :=
  run_advance _ _ _ fun _ hfind => run_write (.secret publicId _ txHash) _ hfind

theorem run_statusRequest (publicId : String) (action : OrderTransitionAction)
    (value : OrderStatus) (txHash : Option String) (writer : String) :
    run (exec (.calm clock)) (OrderService.advance
        (OrderService.statusRequest publicId action value txHash writer)) db =
      advanced clock db (OrderService.statusRequest publicId action value txHash writer)
        (.status publicId value) fun _ => .ok () :=
  run_advance _ _ _ fun _ hfind => run_write (.status publicId value) _ hfind

theorem run_recordClaim (publicId txHash writer : String) :
    run (exec (.calm clock)) (OrderService.recordClaim publicId txHash writer) db =
      advanced clock db (OrderService.statusRequest publicId .claim .completed (some txHash) writer)
        (.status publicId .completed) fun _ => .ok () :=
  run_statusRequest clock db publicId .claim .completed _ writer

theorem run_recordRefund (publicId txHash writer : String) :
    run (exec (.calm clock)) (OrderService.recordRefund publicId txHash writer) db =
      advanced clock db (OrderService.statusRequest publicId .refund .refunded (some txHash) writer)
        (.status publicId .refunded) fun _ => .ok () :=
  run_statusRequest clock db publicId .refund .refunded _ writer

/-! ## Announcements -/

/-- The row of an announcement, with the hashlock in lower case. -/
def announcedRow (D : Deployment) (db : Database) (publicId : String) (input : AnnounceOrderInput) :
    OrderRow :=
  AnnounceOrderInput.row { input with hashlock := D.toLowerCase input.hashlock }
    (db.lastOrderId + 1) publicId

/-- A row as it is first stored. -/
def OrderRow.stored (row : OrderRow) (now : ℕ) : StoredOrder where
  toOrderRow := row
  createdAt := now
  updatedAt := now

/-- The database after an accepted announcement: the hashlock is looked up, the order inserted
and read back, and one event added. -/
def Database.inserted (db : Database) (clock : ℕ → ℕ) (row : OrderRow) : Database :=
  { db with
    orders := db.orders ++ [row.stored (clock (db.executed + 1))]
    lastOrderId := db.lastOrderId + 1
    executed := db.executed + 3 }.log clock row.id
      (.transitionSummary ⟨none, .announced, none, "created"⟩)

theorem findId_append {orders : List StoredOrder} {stored : StoredOrder} {publicId : String}
    (hid : stored.publicId = publicId) (h : findId orders publicId = none) :
    findId (orders ++ [stored]) publicId = some stored.toOrderRow := by
  unfold findId findRow at h ⊢
  rw [Option.map_eq_none_iff] at h
  simp [List.find?_append, h, hid]

theorem run_repo_announce (publicId : String) (input : AnnounceOrderInput) :
    run (exec (.calm clock)) (OrdersRepository.announce publicId input) db.tick =
      match findId db.orders publicId with
      | some _ => (.error .database, db.tick.tick)
      | none => (.ok (input.row (db.lastOrderId + 1) publicId),
          db.inserted clock (input.row (db.lastOrderId + 1) publicId)) := by
  rw [OrdersRepository.announce, run_bind, query, run_statement, exec_calm]
  cases hid : findId db.orders publicId with
  | some order =>
      have hperform : perform (clock db.tick.executed) (.insertOrder publicId input) db.tick =
          (none, db.tick) := by
        simp [perform, byPublicId_eq, hid]
      rw [hperform]
  | none =>
      have hperform : perform (clock db.tick.executed) (.insertOrder publicId input) db.tick =
          (some (), { db.tick with
            orders := db.orders ++
              [(input.row (db.lastOrderId + 1) publicId).stored (clock (db.executed + 1))]
            lastOrderId := db.lastOrderId + 1 }) := by
        simp only [perform, byPublicId_eq, tick_orders, hid, Option.isSome_none, Bool.false_eq_true,
          if_false]
        rfl
      rw [hperform]
      dsimp only
      rw [run_bind, run_findByPublicId]
      dsimp only [tick_orders]
      rw [findId_append (by rfl) hid]
      dsimp only
      rw [run_bind, OrdersRepository.recordTransition, run_insertOrderEvent]
      rfl

variable (D)

theorem run_announce (quoteGate : Except CoordinatorError Unit) (publicId : String)
    (input : AnnounceOrderInput) :
    run (exec (.calm clock)) (OrderService.announce D quoteGate publicId input) db =
      match OrderService.validateAnnouncement input with
      | .error e => (.error e, db)
      | .ok () =>
        match quoteGate with
        | .error e => (.error e, db)
        | .ok () =>
          match db.byHashlock (D.toLowerCase input.hashlock) with
          | some existing => (.error (.validation ("An order with hashlock " ++
              D.toLowerCase input.hashlock ++ " already exists (publicId=" ++ existing.publicId ++
              ")") none), db.tick)
          | none =>
            match findId db.orders publicId with
            | some _ => (.error .database, db.tick.tick)
            | none => (.ok (announcedRow D db publicId input),
                db.inserted clock (announcedRow D db publicId input)) := by
  rw [OrderService.announce, run_bind, run_ofExcept]
  cases OrderService.validateAnnouncement input with
  | error e => rfl
  | ok _ =>
      dsimp only
      rw [run_bind, run_ofExcept]
      cases quoteGate with
      | error e => rfl
      | ok _ =>
          dsimp only
          rw [run_bind, run_findByHashlock]
          cases db.byHashlock (D.toLowerCase input.hashlock) with
          | some existing => rfl
          | none => exact run_repo_announce clock db publicId _

end OverSync.Coordinator
