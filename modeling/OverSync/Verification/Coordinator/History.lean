import OverSync.Verification.Coordinator.Equations
import OverSync.Verification.Coordinator.Timelocks

/-! # The recorded history of an order

While no statement fails, the transitions recorded for an order are a path of the lifecycle
that ends in its stored status. -/

namespace OverSync.Coordinator

open Library Library.Procedure OrdersRepository

variable {D : Deployment} {clock : ℕ → ℕ} {db db' : Database}

/-! ## What a call comes to -/

/-- The order a call speaks about and the status it asks for. -/
def OrderCall.asks : OrderCall → Option (String × OrderStatus)
  | announce _ _ _ => none
  | recordSrcLock lock _ => some (lock.publicId, .srcLocked)
  | recordDstLock lock _ => some (lock.publicId, .dstLocked)
  | recordSecret publicId _ _ _ => some (publicId, .secretRevealed)
  | recordClaim publicId _ _ => some (publicId, .completed)
  | recordRefund publicId _ _ => some (publicId, .refunded)
  | markStatus publicId status _ => (actionForStatus status).map fun _ => (publicId, status)

/-- A validation error, as the timelock guard raises it. -/
def CoordinatorError.IsValidation (e : CoordinatorError) : Prop :=
  ∃ message code, e = .validation message code

/-- The ways a call can end. -/
inductive Effect (clock : ℕ → ℕ) (asks : Option (String × OrderStatus)) (db : Database) :
    Except CoordinatorError Unit → Database → Prop where
  /-- Nothing is written: no such order, or a guard turned the edge down. -/
  | quiet (result : Except CoordinatorError Unit) (reads : ℕ) :
      (∀ publicId target order, asks = some (publicId, target) →
        findId db.orders publicId = some order →
        IsEdge order.status target ∧ ∃ e, e.IsValidation ∧ result = .error e) →
      Effect clock asks db result { db with executed := db.executed + reads }
  | refused (result : Except CoordinatorError Unit) {order : OrderRow}
      {info : TransitionRejectionInfo} : asks = some (order.publicId, info.to) →
      findId db.orders order.publicId = some order → ¬ IsEdge order.status info.to →
      info.from = order.status →
      result = .error (.rejected info) ∨ result = .ok () ∧ info.to = order.status →
      Effect clock asks db result (db.refused clock order info)
  | written {order : OrderRow} (edit : Edit) (txHash : Option String) :
      asks = some (edit.publicId, edit.target) → findId db.orders edit.publicId = some order →
      IsEdge order.status edit.target →
      Effect clock asks db (.ok ()) (db.tick.written clock order edit txHash)
  | inserted {row : OrderRow} : asks = none → findId db.orders row.publicId = none →
      row.id = db.lastOrderId + 1 → row.status = .announced →
      Effect clock asks db (.ok ()) (db.inserted clock row)

theorem not_isEdge_self (status : OrderStatus) : ¬ IsEdge status status := by
  cases status <;> decide

theorem evaluateTransition_some {«from» «to» : OrderStatus} {action : OrderTransitionAction}
    {refusal : OrderFailureCode × String}
    (h : evaluateTransition «from» «to» action = some refusal) : ¬ IsEdge «from» «to» := by
  intro hedge
  rw [evaluateTransition_eq_none.mpr hedge] at h
  cases h

theorem advanced_effect (request : OrderService.AdvanceRequest) (edit : Edit)
    (guard : OrderRow → Except CoordinatorError Unit) (hid : edit.publicId = request.publicId)
    (htarget : edit.target = actionTargetStatus request.action)
    (hguard : ∀ order e, guard order = .error e → e.IsValidation) :
    Effect clock (some (request.publicId, edit.target)) db
      (advanced clock db request edit guard).1 (advanced clock db request edit guard).2 := by
  unfold advanced
  cases hfind : findId db.orders request.publicId with
  | none =>
      refine .quiet _ 1 ?_
      intro publicId target order hasks hfound
      cases hasks
      rw [hfind] at hfound
      cases hfound
  | some order =>
      have hpublicId := findId_publicId hfind
      have hself : findId db.orders order.publicId = some order := by rwa [hpublicId]
      have hasks (code : OrderFailureCode) (reason : String) :
          some (request.publicId, edit.target) =
            some (order.publicId, (request.refusal order code reason).to) := by
        rw [hpublicId, htarget]
        rfl
      dsimp only
      split
      · rename_i hsame
        have hedge : ¬ IsEdge order.status (actionTargetStatus request.action) := by
          rw [← hsame]
          exact not_isEdge_self _
        split
        · exact .refused _ (hasks _ _) hself hedge rfl (.inr ⟨rfl, hsame.symm⟩)
        · exact .refused _ (hasks _ _) hself hedge rfl (.inl rfl)
      · cases heval : evaluateTransition order.status (actionTargetStatus request.action)
            request.action with
        | some refusal =>
            exact .refused _ (hasks _ _) hself (evaluateTransition_some heval) rfl (.inl rfl)
        | none =>
            have hedge := evaluateTransition_eq_none.mp heval
            rw [← htarget] at hedge
            cases hresult : guard order with
            | error e =>
                refine .quiet _ 1 ?_
                intro publicId target found hasks' hfound
                cases hasks'
                rw [hfind] at hfound
                cases hfound
                exact ⟨hedge, e, hguard order e hresult, rfl⟩
            | ok _ =>
                rw [← hid] at hfind ⊢
                exact .written edit _ rfl hfind hedge

theorem assertTimelocks_validation {srcTimelock dstTimelock : ℤ} {e : CoordinatorError}
    (h : assertTimelocksAtCreation srcTimelock dstTimelock D.minGapSeconds = .error e) :
    e.IsValidation := by
  unfold assertTimelocksAtCreation at h
  split at h
  · cases h
  · cases h
    exact ⟨_, _, rfl⟩
  · cases h
    exact ⟨_, _, rfl⟩

theorem srcLockGuard_validation {lock : SrcLock} (order : OrderRow) (e : CoordinatorError)
    (h : OrderService.srcLockGuard D lock order = .error e) : e.IsValidation := by
  unfold OrderService.srcLockGuard at h
  split at h
  · cases h
  · exact assertTimelocks_validation h

theorem dstLockGuard_validation {lock : DstLock} (order : OrderRow) (e : CoordinatorError)
    (h : OrderService.dstLockGuard D lock order = .error e) : e.IsValidation := by
  unfold OrderService.dstLockGuard at h
  split at h
  · cases h
  · exact assertTimelocks_validation h

theorem announce_effect (quoteGate : Except CoordinatorError Unit) (publicId : String)
    (input : AnnounceOrderInput) :
    Effect clock none db
      (run (exec (.calm clock)) ((OrderCall.announce quoteGate publicId input).task D) db).1
      (run (exec (.calm clock)) ((OrderCall.announce quoteGate publicId input).task D) db).2 := by
  have hnone {result : Except CoordinatorError Unit} (reads : ℕ) :
      Effect clock none db result { db with executed := db.executed + reads } :=
    .quiet result reads fun _ _ _ hasks => by cases hasks
  rw [OrderCall.task, run_bind, run_announce]
  cases OrderService.validateAnnouncement input with
  | error e => exact hnone 0
  | ok _ =>
      cases quoteGate with
      | error e => exact hnone 0
      | ok _ =>
          cases db.byHashlock (D.toLowerCase input.hashlock) with
          | some existing => exact hnone 1
          | none =>
              cases hfind : findId db.orders publicId with
              | some order => exact hnone 2
              | none => exact .inserted rfl hfind rfl rfl

theorem call_effect (clock : ℕ → ℕ) (db : Database) (call : OrderCall) :
    Effect clock call.asks db (run (exec (.calm clock)) (call.task D) db).1
      (call.run D (.calm clock) db) := by
  unfold OrderCall.run
  have hfree (order : OrderRow) (e : CoordinatorError)
      (h : (.ok () : Except CoordinatorError Unit) = .error e) : e.IsValidation := by
    cases h
  cases call with
  | announce quoteGate publicId input => exact announce_effect quoteGate publicId input
  | recordSrcLock lock writer =>
      rw [OrderCall.task, run_recordSrcLock]
      exact advanced_effect (OrderService.srcLockRequest D lock writer) (.srcLock lock) _ rfl rfl
        srcLockGuard_validation
  | recordDstLock lock writer =>
      rw [OrderCall.task, run_recordDstLock]
      exact advanced_effect (OrderService.dstLockRequest D lock writer) (.dstLock lock) _ rfl rfl
        dstLockGuard_validation
  | recordSecret publicId preimage txHash writer =>
      rw [OrderCall.task, run_recordSecret]
      exact advanced_effect (OrderService.secretRequest publicId _ txHash writer)
        (.secret publicId _ txHash) _ rfl rfl hfree
  | recordClaim publicId txHash writer =>
      rw [OrderCall.task, run_recordClaim]
      exact advanced_effect (OrderService.statusRequest publicId .claim .completed _ writer)
        (.status publicId .completed) _ rfl rfl hfree
  | recordRefund publicId txHash writer =>
      rw [OrderCall.task, run_recordRefund]
      exact advanced_effect (OrderService.statusRequest publicId .refund .refunded _ writer)
        (.status publicId .refunded) _ rfl rfl hfree
  | markStatus publicId status writer =>
      simp only [OrderCall.task, OrderService.markStatus, OrderCall.asks]
      cases haction : actionForStatus status with
      | none => exact .quiet _ 0 fun _ _ _ hasks => by cases hasks
      | some action =>
          dsimp only
          rw [run_statusRequest]
          exact advanced_effect (OrderService.statusRequest publicId action status none writer)
            (.status publicId status) _ rfl (actionTargetStatus_of_actionForStatus haction).symm
            hfree

/-! ## Events of an order -/

/-- Rows keep their ids apart, and an event belongs to an order whose id has been given out. -/
structure Books (db : Database) : Prop where
  unique : UniqueIds db.orders
  ids : (db.orders.map (·.id)).Nodup
  idsBelow : ∀ stored ∈ db.orders, stored.id ≤ db.lastOrderId
  eventsBelow : ∀ event ∈ db.orderEvents, event.orderId ≤ db.lastOrderId

theorem Books.empty : Books .empty where
  unique := List.nodup_nil
  ids := List.nodup_nil
  idsBelow := by simp [Database.empty]
  eventsBelow := by simp [Database.empty]

/-- Statements that change no row and no event. -/
theorem Books.later (h : Books db) (reads : ℕ) :
    Books { db with executed := db.executed + reads } where
  unique := h.unique
  ids := h.ids
  idsBelow := h.idsBelow
  eventsBelow := h.eventsBelow

theorem Books.log (h : Books db) {orderId : ℕ} (hid : orderId ≤ db.lastOrderId)
    (payload : EventPayload) : Books (db.log clock orderId payload) where
  unique := h.unique
  ids := h.ids
  idsBelow := h.idsBelow
  eventsBelow event hmem := by
    rcases List.mem_append.mp hmem with hold | hnew
    · exact h.eventsBelow event hold
    · obtain rfl := List.mem_singleton.mp hnew
      exact hid

theorem Books.edit (h : Books db) (edit : Edit) (now reads : ℕ) :
    Books { db with
      orders := edit.apply now db.orders
      executed := db.executed + reads } where
  unique := by
    unfold UniqueIds
    rw [Edit.apply_publicIds]
    exact h.unique
  ids := by
    rw [Edit.apply_ids]
    exact h.ids
  idsBelow stored hmem := by
    obtain ⟨old, hold, rfl⟩ := List.mem_map.mp hmem
    rw [Edit.row_id]
    exact h.idsBelow old hold
  eventsBelow := h.eventsBelow

theorem Books.insert (h : Books db) {row : OrderRow} (now reads : ℕ)
    (hfresh : findId db.orders row.publicId = none) (hid : row.id = db.lastOrderId + 1) :
    Books { db with
      orders := db.orders ++ [row.stored now]
      lastOrderId := db.lastOrderId + 1
      executed := db.executed + reads } where
  unique := by
    have hnotin : row.publicId ∉ db.orders.map (·.publicId) := by
      simpa using findId_eq_none.mp hfresh
    unfold UniqueIds
    rw [List.map_append, List.map_singleton, ← List.concat_eq_append]
    exact List.Nodup.concat hnotin h.unique
  ids := by
    have hnotin : row.id ∉ db.orders.map (·.id) := by
      intro hmem
      obtain ⟨stored, hstored, heq⟩ := List.mem_map.mp hmem
      have hbelow := h.idsBelow stored hstored
      omega
    rw [List.map_append, List.map_singleton, ← List.concat_eq_append]
    exact List.Nodup.concat hnotin h.ids
  idsBelow stored hmem := by
    rcases List.mem_append.mp hmem with hold | hnew
    · exact (h.idsBelow stored hold).trans (Nat.le_succ _)
    · obtain rfl := List.mem_singleton.mp hnew
      exact hid.le
  eventsBelow event hmem := (h.eventsBelow event hmem).trans (Nat.le_succ _)

theorem Books.id_ne (h : Books db) {stored other : StoredOrder} (hmem : stored ∈ db.orders)
    (hother : other ∈ db.orders) (hne : stored.publicId ≠ other.publicId) :
    other.id ≠ stored.id := by
  intro hid
  rw [List.inj_on_of_nodup_map h.ids hother hmem hid] at hne
  exact hne rfl

theorem Effect.books {asks : Option (String × OrderStatus)} {result : Except CoordinatorError Unit}
    (heffect : Effect clock asks db result db') (h : Books db) : Books db' := by
  cases heffect with
  | quiet _ reads _ => exact h.later reads
  | @refused _ order _ _ hfind _ _ _ =>
      obtain ⟨stored, hmem, rfl, _⟩ := findRow_mem hfind
      exact (h.later 2).log (h.idsBelow stored hmem) _
  | @written order edit txHash _ hfind _ =>
      obtain ⟨stored, hmem, rfl, _⟩ := findRow_mem hfind
      exact ((h.later 1).edit edit _ 2).log (h.idsBelow stored hmem) _
  | @inserted row _ hfresh hid _ => exact (h.insert _ 3 hfresh hid).log hid.le _

/-- While no statement fails and the clock does not go back, events stand in the order of their
times. -/
structure Tidy (clock : ℕ → ℕ) (db : Database) : Prop where
  unique : UniqueIds db.orders
  ids : (db.orders.map (·.id)).Nodup
  idsBelow : ∀ stored ∈ db.orders, stored.id ≤ db.lastOrderId
  eventsBelow : ∀ event ∈ db.orderEvents, event.orderId ≤ db.lastOrderId
  sorted : db.orderEvents.Pairwise fun a b => a.createdAt ≤ b.createdAt
  past : ∀ event ∈ db.orderEvents, event.createdAt ≤ clock db.executed

theorem Tidy.books (h : Tidy clock db) : Books db :=
  ⟨h.unique, h.ids, h.idsBelow, h.eventsBelow⟩

theorem Books.tidy (h : Books db)
    (hsorted : db.orderEvents.Pairwise fun a b => a.createdAt ≤ b.createdAt)
    (hpast : ∀ event ∈ db.orderEvents, event.createdAt ≤ clock db.executed) : Tidy clock db :=
  ⟨h.unique, h.ids, h.idsBelow, h.eventsBelow, hsorted, hpast⟩

theorem Tidy.empty : Tidy clock .empty :=
  Books.empty.tidy List.Pairwise.nil (by simp [Database.empty])

theorem Tidy.past_later (h : Tidy clock db) (hclock : Monotone clock) (reads : ℕ) :
    ∀ event ∈ db.orderEvents, event.createdAt ≤ clock (db.executed + reads) :=
  fun event hmem => (h.past event hmem).trans (hclock (Nat.le_add_right _ _))

/-- Statements that change no row and no event. -/
theorem Tidy.later (h : Tidy clock db) (hclock : Monotone clock) (reads : ℕ) :
    Tidy clock { db with executed := db.executed + reads } :=
  (h.books.later reads).tidy h.sorted (h.past_later hclock reads)

theorem Tidy.log (h : Tidy clock db) (hclock : Monotone clock) {orderId : ℕ}
    (hid : orderId ≤ db.lastOrderId) (payload : EventPayload) :
    Tidy clock (db.log clock orderId payload) := by
  refine (h.books.log hid payload).tidy ?_ ?_
  · refine List.pairwise_append.mpr ⟨h.sorted, List.pairwise_singleton _ _, ?_⟩
    intro event hold added hnew
    obtain rfl := List.mem_singleton.mp hnew
    exact h.past event hold
  · intro event hmem
    rcases List.mem_append.mp hmem with hold | hnew
    · exact h.past_later hclock 1 event hold
    · obtain rfl := List.mem_singleton.mp hnew
      exact hclock (Nat.le_succ _)

theorem Tidy.edit (h : Tidy clock db) (hclock : Monotone clock) (edit : Edit) (now reads : ℕ) :
    Tidy clock { db with
      orders := edit.apply now db.orders
      executed := db.executed + reads } :=
  (h.books.edit edit now reads).tidy h.sorted (h.past_later hclock reads)

theorem Tidy.insert (h : Tidy clock db) (hclock : Monotone clock) {row : OrderRow} (now reads : ℕ)
    (hfresh : findId db.orders row.publicId = none) (hid : row.id = db.lastOrderId + 1) :
    Tidy clock { db with
      orders := db.orders ++ [row.stored now]
      lastOrderId := db.lastOrderId + 1
      executed := db.executed + reads } :=
  (h.books.insert now reads hfresh hid).tidy h.sorted (h.past_later hclock reads)

theorem Effect.tidy {asks : Option (String × OrderStatus)} {result : Except CoordinatorError Unit}
    (heffect : Effect clock asks db result db') (hclock : Monotone clock) (h : Tidy clock db) :
    Tidy clock db' := by
  cases heffect with
  | quiet _ reads _ => exact h.later hclock reads
  | @refused _ order _ _ hfind _ _ _ =>
      obtain ⟨stored, hmem, rfl, _⟩ := findRow_mem hfind
      exact (h.later hclock 2).log hclock (h.idsBelow stored hmem) _
  | @written order edit txHash _ hfind _ =>
      obtain ⟨stored, hmem, rfl, _⟩ := findRow_mem hfind
      exact ((h.later hclock 1).edit hclock edit _ 2).log hclock (h.idsBelow stored hmem) _
  | @inserted row _ hfresh hid _ =>
      exact (h.insert hclock _ 3 hfresh hid).log hclock hid.le _

section Events

variable {α : Type} (kind : EventPayload → Option α)

theorem Tidy.eventsOf_eq (h : Tidy clock db) (orderId : ℕ) :
    eventsOf db orderId kind =
      (db.orderEvents.filter fun event => event.orderId = orderId).filterMap fun event =>
        kind event.payload := by
  have hsorted := h.sorted.filter fun event => event.orderId = orderId
  rw [eventsOf, hsorted.insertionSort_eq]

theorem Tidy.eventsOf_log (h : Tidy clock db) (hclock : Monotone clock) {orderId : ℕ}
    (hid : orderId ≤ db.lastOrderId) (payload : EventPayload) (other : ℕ) :
    eventsOf (db.log clock orderId payload) other kind =
      eventsOf db other kind ++
        if orderId = other then (kind payload).toList else [] := by
  rw [h.eventsOf_eq, (h.log hclock hid payload).eventsOf_eq, Database.log]
  dsimp only
  rw [List.filter_append, List.filterMap_append]
  by_cases hsame : orderId = other
  · cases hkind : kind payload <;> simp [hsame, hkind]
  · simp [hsame]

theorem Tidy.eventsOf_fresh (h : Tidy clock db) {orderId : ℕ} (hfresh : db.lastOrderId < orderId) :
    eventsOf db orderId kind = [] := by
  have hnone : (db.orderEvents.filter fun event => event.orderId = orderId) = [] := by
    rw [List.filter_eq_nil_iff]
    intro event hmem
    have hbelow := h.eventsBelow event hmem
    rw [decide_eq_true_iff]
    omega
  rw [h.eventsOf_eq, hnone, List.filterMap_nil]

end Events

theorem Tidy.getTransitions_eq (h : Tidy clock db) {stored : StoredOrder} (hmem : stored ∈ db.orders) :
    getTransitions db stored.publicId = eventsOf db stored.id EventPayload.asSummary := by
  rw [OrdersRepository.getTransitions, byPublicId_eq, findId_mem h.unique hmem]

theorem Tidy.getRejectedTransitions_eq (h : Tidy clock db) {stored : StoredOrder}
    (hmem : stored ∈ db.orders) :
    getRejectedTransitions db stored.publicId =
      eventsOf db stored.id EventPayload.asRejection := by
  rw [OrdersRepository.getRejectedTransitions, byPublicId_eq, findId_mem h.unique hmem]

/-! ## Histories -/

/-- A path of the lifecycle from the announcement to a status. -/
inductive LegalHistory : List TransitionSummary → OrderStatus → Prop where
  | announced (txHash : Option String) (category : String) :
      LegalHistory [⟨none, .announced, txHash, category⟩] .announced
  | step {history : List TransitionSummary} {«from» «to» : OrderStatus} (txHash : Option String)
      (category : String) : LegalHistory history «from» → IsEdge «from» «to» →
      LegalHistory (history ++ [⟨some «from», «to», txHash, category⟩]) «to»

/-- What a call does to a stored order and to its two logs. -/
inductive CallOutcome (asks : Option (String × OrderStatus)) (result : Except CoordinatorError Unit)
    (db db' : Database) (stored : StoredOrder) : Prop where
  /-- The edge asked for is applied and recorded. -/
  | applied (stored' : StoredOrder) (txHash : Option String) (category : String) :
      asks = some (stored.publicId, stored'.status) → IsEdge stored.status stored'.status →
      stored' ∈ db'.orders → stored'.publicId = stored.publicId →
      getTransitions db' stored.publicId = getTransitions db stored.publicId ++
        [⟨some stored.status, stored'.status, txHash, category⟩] →
      getRejectedTransitions db' stored.publicId = getRejectedTransitions db stored.publicId →
      CallOutcome asks result db db' stored
  /-- The request is refused, or recognised as a repeat. -/
  | refused {rejection : RejectedTransition} :
      asks = some (stored.publicId, rejection.to) → ¬ IsEdge stored.status rejection.to →
      rejection.from = stored.status →
      (∃ info, result = .error (.rejected info)) ∨ result = .ok () ∧ rejection.to = stored.status →
      stored ∈ db'.orders →
      getTransitions db' stored.publicId = getTransitions db stored.publicId →
      getRejectedTransitions db' stored.publicId =
        getRejectedTransitions db stored.publicId ++ [rejection] →
      CallOutcome asks result db db' stored
  /-- The call asks nothing of this order, or a timelock turned the edge down. -/
  | untouched : (∀ target, asks = some (stored.publicId, target) →
        IsEdge stored.status target ∧ ∃ e, e.IsValidation ∧ result = .error e) →
      stored ∈ db'.orders →
      getTransitions db' stored.publicId = getTransitions db stored.publicId →
      getRejectedTransitions db' stored.publicId = getRejectedTransitions db stored.publicId →
      CallOutcome asks result db db' stored

theorem Edit.set_status {edit : Edit} {order : OrderRow} (h : IsEdge order.status edit.target) :
    (edit.set order).status = edit.target := by
  cases edit with
  | srcLock lock =>
      have hstatus : order.status = .announced := escrow_source h
      simp [Edit.set, SrcLock.set, Edit.target, hstatus]
  | dstLock lock =>
      have hstatus : order.status = .srcLocked := relay_source h
      simp [Edit.set, DstLock.set, Edit.target, hstatus]
  | secret publicId preimage txHash => rfl
  | status publicId value => rfl

/-- Logging an event of another order. -/
theorem Tidy.logs_other (h : Tidy clock db) (hclock : Monotone clock) {orderId : ℕ}
    (hid : orderId ≤ db.lastOrderId) (payload : EventPayload) {stored : StoredOrder}
    (hmem : stored ∈ db.orders) (hother : orderId ≠ stored.id) :
    getTransitions (db.log clock orderId payload) stored.publicId =
        eventsOf db stored.id EventPayload.asSummary ∧
      getRejectedTransitions (db.log clock orderId payload) stored.publicId =
        eventsOf db stored.id EventPayload.asRejection := by
  have hlog := h.log hclock hid payload
  rw [hlog.getTransitions_eq hmem, hlog.getRejectedTransitions_eq hmem, h.eventsOf_log _ hclock hid,
    h.eventsOf_log _ hclock hid, if_neg hother, if_neg hother, List.append_nil, List.append_nil]
  exact ⟨rfl, rfl⟩

/-- Logging an event of the order itself. -/
theorem Tidy.logs_self (h : Tidy clock db) (hclock : Monotone clock) (payload : EventPayload)
    {stored : StoredOrder} (hmem : stored ∈ db.orders) :
    getTransitions (db.log clock stored.id payload) stored.publicId =
        eventsOf db stored.id EventPayload.asSummary ++
          payload.asSummary.toList ∧
      getRejectedTransitions (db.log clock stored.id payload) stored.publicId =
        eventsOf db stored.id EventPayload.asRejection ++
          payload.asRejection.toList := by
  have hid := h.idsBelow stored hmem
  have hlog := h.log hclock hid payload
  rw [hlog.getTransitions_eq hmem, hlog.getRejectedTransitions_eq hmem, h.eventsOf_log _ hclock hid,
    h.eventsOf_log _ hclock hid, if_pos rfl, if_pos rfl]
  exact ⟨rfl, rfl⟩

variable {asks : Option (String × OrderStatus)} {result : Except CoordinatorError Unit}
  {stored : StoredOrder}

theorem Tidy.written_outcome (h : Tidy clock db) (hclock : Monotone clock)
    (hmem : stored ∈ db.orders) {edit : Edit} {order : OrderRow} (txHash : Option String)
    (hasks : asks = some (edit.publicId, edit.target))
    (hfind : findId db.orders edit.publicId = some order)
    (hedge : IsEdge order.status edit.target) :
    CallOutcome asks (.ok ()) db (db.tick.written clock order edit txHash) stored := by
  obtain ⟨found, hfound, rfl, _⟩ := findRow_mem hfind
  have hpublicId := findId_publicId hfind
  have hedited : Tidy clock { db with
      orders := edit.apply (clock (db.tick.executed + 1)) db.orders
      executed := db.executed + 1 + 2 } :=
    (h.later hclock 1).edit hclock edit _ 2
  have hmem' : edit.row (clock (db.tick.executed + 1)) stored ∈
      edit.apply (clock (db.tick.executed + 1)) db.orders := Edit.mem_apply hmem
  by_cases hsame : stored.publicId = found.publicId
  · obtain rfl : stored = found := List.inj_on_of_nodup_map h.unique hmem hfound hsame
    have hstatus : (edit.row (clock (db.tick.executed + 1)) stored).status = edit.target := by
      rw [Edit.row_self hpublicId, Edit.set_status hedge]
    obtain ⟨htransitions, hrejected⟩ := hedited.logs_self hclock
      (.transitionSummary ⟨some stored.status, edit.target, txHash, edit.target.text⟩) hmem'
    rw [Edit.row_publicId, Edit.row_id] at htransitions hrejected
    refine .applied _ txHash edit.target.text ?_ ?_ hmem' (Edit.row_publicId _ _ _) ?_ ?_
    · rw [hstatus, hasks, hpublicId]
    · rwa [hstatus]
    · rw [h.getTransitions_eq hmem, hstatus]
      exact htransitions
    · rw [h.getRejectedTransitions_eq hmem]
      exact hrejected.trans (List.append_nil _)
  · have hother : edit.row (clock (db.tick.executed + 1)) stored = stored :=
      Edit.row_other fun heq => hsame (heq.trans hpublicId.symm)
    rw [hother] at hmem'
    obtain ⟨htransitions, hrejected⟩ := hedited.logs_other hclock (h.idsBelow found hfound)
      (.transitionSummary ⟨some found.status, edit.target, txHash, edit.target.text⟩) hmem'
      (h.books.id_ne hmem hfound hsame)
    refine .untouched ?_ hmem' ?_ ?_
    · intro target hasks'
      rw [hasks] at hasks'
      exact absurd (hpublicId.trans (congrArg Prod.fst (Option.some.inj hasks'))).symm hsame
    · rw [h.getTransitions_eq hmem]
      exact htransitions
    · rw [h.getRejectedTransitions_eq hmem]
      exact hrejected

theorem Effect.outcome (heffect : Effect clock asks db result db') (hclock : Monotone clock)
    (h : Tidy clock db) (hmem : stored ∈ db.orders) :
    CallOutcome asks result db db' stored := by
  have hfound := findId_mem h.unique hmem
  have hold := h.getTransitions_eq hmem
  have holdRejected := h.getRejectedTransitions_eq hmem
  cases heffect with
  | quiet _ reads hquiet =>
      have hlater := h.later hclock reads
      refine .untouched ?_ hmem ?_ ?_
      · intro target hasks
        exact hquiet _ target _ hasks hfound
      · rw [hlater.getTransitions_eq hmem, hold]
        rfl
      · rw [hlater.getRejectedTransitions_eq hmem, holdRejected]
        rfl
  | @refused _ order info hasks hfind hedge hfrom hresult =>
      have hlater := h.later hclock 2
      obtain ⟨found, hfoundmem, rfl, _⟩ := findRow_mem hfind
      by_cases hsame : stored.publicId = found.publicId
      · have heq : stored = found := List.inj_on_of_nodup_map h.unique hmem hfoundmem hsame
        subst heq
        obtain ⟨htransitions, hrejected⟩ := hlater.logs_self hclock
          (.transitionRejected info.toRejectedTransition) hmem
        refine .refused hasks hedge hfrom ?_ hmem ?_ ?_
        · rcases hresult with hrejects | hrepeats
          · exact .inl ⟨info, hrejects⟩
          · exact .inr hrepeats
        · rw [hold]
          exact htransitions.trans (List.append_nil _)
        · rw [holdRejected]
          exact hrejected
      · obtain ⟨htransitions, hrejected⟩ := hlater.logs_other hclock (h.idsBelow found hfoundmem)
          (.transitionRejected info.toRejectedTransition) hmem (h.books.id_ne hmem hfoundmem hsame)
        refine .untouched ?_ hmem ?_ ?_
        · intro target hasks'
          rw [hasks'] at hasks
          exact absurd (congrArg Prod.fst (Option.some.inj hasks)) hsame
        · rw [hold]
          exact htransitions
        · rw [holdRejected]
          exact hrejected
  | @written order edit txHash hasks hfind hedge =>
      exact h.written_outcome hclock hmem txHash hasks hfind hedge
  | @inserted row hasks hfresh hid _ =>
      have hinsert := h.insert hclock (clock (db.executed + 1)) 3 hfresh hid
      have hmem' : stored ∈ db.orders ++ [row.stored (clock (db.executed + 1))] :=
        List.mem_append_left _ hmem
      have hne : row.id ≠ stored.id := by
        have hbelow := h.idsBelow stored hmem
        omega
      obtain ⟨htransitions, hrejected⟩ := hinsert.logs_other hclock hid.le
        (.transitionSummary ⟨none, .announced, none, "created"⟩) hmem' hne
      refine .untouched ?_ hmem' ?_ ?_
      · intro target hasks'
        rw [hasks] at hasks'
        cases hasks'
      · rw [hold]
        exact htransitions
      · rw [holdRejected]
        exact hrejected

/-! ## Runs -/

/-- Every order has a legal history. -/
structure Recorded (clock : ℕ → ℕ) (db : Database) : Prop where
  tidy : Tidy clock db
  legal : ∀ stored ∈ db.orders, LegalHistory (getTransitions db stored.publicId) stored.status

theorem CallOutcome.legal (houtcome : CallOutcome asks result db db' stored)
    (h : LegalHistory (getTransitions db stored.publicId) stored.status) :
    ∃ stored' ∈ db'.orders, stored'.publicId = stored.publicId ∧
      LegalHistory (getTransitions db' stored.publicId) stored'.status := by
  cases houtcome with
  | applied stored' txHash category _ hedge hmem hpublicId htransitions _ =>
      refine ⟨stored', hmem, hpublicId, ?_⟩
      rw [htransitions]
      exact .step txHash category h hedge
  | refused _ _ _ _ hmem htransitions _ =>
      refine ⟨stored, hmem, rfl, ?_⟩
      rwa [htransitions]
  | untouched _ hmem htransitions _ =>
      refine ⟨stored, hmem, rfl, ?_⟩
      rwa [htransitions]

/-- A row after a call has a row before it, or has just been announced. -/
theorem Effect.mem (heffect : Effect clock asks db result db') (hclock : Monotone clock)
    (h : Tidy clock db) {stored' : StoredOrder} (hmem : stored' ∈ db'.orders) :
    (∃ stored ∈ db.orders, stored.publicId = stored'.publicId) ∨
      LegalHistory (getTransitions db' stored'.publicId) stored'.status := by
  cases heffect with
  | quiet _ _ _ => exact .inl ⟨stored', hmem, rfl⟩
  | refused _ _ _ _ _ _ => exact .inl ⟨stored', hmem, rfl⟩
  | @written order edit txHash _ _ _ =>
      obtain ⟨stored, hstored, rfl⟩ := List.mem_map.mp hmem
      exact .inl ⟨stored, hstored, (Edit.row_publicId _ _ _).symm⟩
  | @inserted row _ hfresh hid hstatus =>
      rcases List.mem_append.mp hmem with hold | hnew
      · exact .inl ⟨stored', hold, rfl⟩
      · right
        have hinsert := h.insert hclock (clock (db.executed + 1)) 3 hfresh hid
        obtain ⟨htransitions, -⟩ := hinsert.logs_self hclock
          (.transitionSummary ⟨none, .announced, none, "created"⟩) hmem
        obtain rfl := List.mem_singleton.mp hnew
        have hnone : eventsOf db row.id EventPayload.asSummary = [] := by
          refine h.eventsOf_fresh _ ?_
          omega
        have hall : getTransitions (db.inserted clock row) row.publicId =
            eventsOf db row.id EventPayload.asSummary ++
              [⟨none, .announced, none, "created"⟩] := htransitions
        rw [show (row.stored (clock (db.executed + 1))).publicId = row.publicId from rfl, hall,
          hnone, show (row.stored (clock (db.executed + 1))).status = row.status from rfl, hstatus]
        exact .announced none "created"

theorem Effect.recorded (heffect : Effect clock asks db result db') (hclock : Monotone clock)
    (h : Recorded clock db) : Recorded clock db' where
  tidy := heffect.tidy hclock h.tidy
  legal stored' hmem' := by
    rcases heffect.mem hclock h.tidy hmem' with ⟨stored, hmem, hsame⟩ | hnew
    · have houtcome := heffect.outcome hclock h.tidy hmem
      obtain ⟨found, hfound, hpublicId, hlegal⟩ := houtcome.legal (h.legal stored hmem)
      obtain rfl : found = stored' := List.inj_on_of_nodup_map
        (heffect.tidy hclock h.tidy).unique hfound hmem' (hpublicId.trans hsame)
      rwa [hsame] at hlegal
    · exact hnew

end OverSync.Coordinator
