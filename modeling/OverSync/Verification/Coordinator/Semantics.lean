import OverSync.Model.Coordinator.Services

/-! # What the coordinator's writers do to the order book

Whatever statements fail, a writer changes the `orders` table by at most one `UPDATE`, and only
along an edge of the lifecycle that it checked on the stored row. -/

namespace OverSync.Coordinator

open Library Library.Procedure

variable {D : Deployment} {cond : Conditions} {db db' : Database} {α : Type}

/-! ## Rows -/

/-- The first row a `SELECT` finds in a list of rows. -/
def findRow (orders : List StoredOrder) (p : OrderRow → Bool) : Option OrderRow :=
  (orders.find? fun row => p row.toOrderRow).map (·.toOrderRow)

def findId (orders : List StoredOrder) (publicId : String) : Option OrderRow :=
  findRow orders fun row => row.publicId = publicId

theorem byPublicId_eq (db : Database) (publicId : String) :
    db.byPublicId publicId = findId db.orders publicId := rfl

theorem findRow_mem {orders : List StoredOrder} {p : OrderRow → Bool} {order : OrderRow}
    (h : findRow orders p = some order) : ∃ row ∈ orders, row.toOrderRow = order ∧ p order := by
  obtain ⟨row, hrow, rfl⟩ := Option.map_eq_some_iff.mp h
  have hp := List.find?_some hrow
  exact ⟨row, List.mem_of_find?_eq_some hrow, rfl, hp⟩

theorem findId_publicId {orders : List StoredOrder} {publicId : String} {order : OrderRow}
    (h : findId orders publicId = some order) : order.publicId = publicId := by
  obtain ⟨_, _, _, hp⟩ := findRow_mem h
  simpa using hp

@[simp] theorem tick_orders : db.tick.orders = db.orders := rfl
@[simp] theorem tick_orderEvents : db.tick.orderEvents = db.orderEvents := rfl
@[simp] theorem tick_cursors : db.tick.cursors = db.cursors := rfl
@[simp] theorem tick_processed : db.tick.processed = db.processed := rfl
@[simp] theorem tick_lastOrderId : db.tick.lastOrderId = db.lastOrderId := rfl
@[simp] theorem tick_find (p : OrderRow → Bool) : db.tick.find p = db.find p := rfl
@[simp] theorem tick_byPublicId (publicId : String) :
    db.tick.byPublicId publicId = db.byPublicId publicId := rfl

/-- The timelocks keep their order and their gap. -/
def GapOk (D : Deployment) (srcTimelock dstTimelock : ℤ) : Prop :=
  dstTimelock < srcTimelock ∧ D.minGapSeconds ≤ srcTimelock - dstTimelock

theorem assertTimelocksAtCreation_ok {srcTimelock dstTimelock : ℤ} :
    assertTimelocksAtCreation srcTimelock dstTimelock D.minGapSeconds = .ok () ↔
      GapOk D srcTimelock dstTimelock := by
  simp only [assertTimelocksAtCreation, validateTimelocksAtCreation, GapOk]
  by_cases hreversed : dstTimelock ≥ srcTimelock
  · simp only [hreversed, if_true, reduceCtorEq, false_iff]
    omega
  · by_cases hsmall : srcTimelock - dstTimelock < D.minGapSeconds
    · simp only [hreversed, hsmall, if_true, if_false, reduceCtorEq, false_iff]
      omega
    · simp only [hreversed, hsmall, if_false, true_iff]
      omega

/-! ## Edits -/

/-- An `UPDATE` of the `orders` table. -/
inductive Edit where
  | srcLock (lock : SrcLock)
  | dstLock (lock : DstLock)
  | secret (publicId preimage txHash : String)
  | status (publicId : String) (value : OrderStatus)

namespace Edit

def publicId : Edit → String
  | srcLock lock => lock.publicId
  | dstLock lock => lock.publicId
  | secret publicId _ _ => publicId
  | status publicId _ => publicId

def stmt : Edit → Statement
  | srcLock lock => .updateSrcLock lock
  | dstLock lock => .updateDstLock lock
  | secret publicId preimage txHash => .updateSecret publicId preimage txHash
  | status publicId value => .updateStatus publicId value

def set : Edit → OrderRow → OrderRow
  | srcLock lock => lock.set
  | dstLock lock => lock.set
  | secret _ preimage txHash => (·.withSecret preimage txHash)
  | status _ value => (·.withStatus value)

/-- The status the edit is made for. -/
def target : Edit → OrderStatus
  | srcLock _ => .srcLocked
  | dstLock _ => .dstLocked
  | secret _ _ _ => .secretRevealed
  | status _ value => value

/-- One row after the edit. -/
def row (edit : Edit) (now : ℕ) (stored : StoredOrder) : StoredOrder :=
  if stored.publicId = edit.publicId then
    { toOrderRow := edit.set stored.toOrderRow, createdAt := stored.createdAt, updatedAt := now }
  else stored

def apply (edit : Edit) (now : ℕ) (orders : List StoredOrder) : List StoredOrder :=
  orders.map (edit.row now)

end Edit

theorem perform_edit (edit : Edit) (now : ℕ) (db : Database) :
    (perform now edit.stmt db).2 = { db with orders := edit.apply now db.orders } := by
  cases edit <;> rfl

/-- The orders are as before, or one edit has been made along an edge of the lifecycle, to an
order that satisfies `Ok`. -/
inductive Edited (edit : Edit) (Ok : OrderRow → Prop) (orders : List StoredOrder) :
    List StoredOrder → Prop where
  | same : Edited edit Ok orders orders
  | edited (now : ℕ) {order : OrderRow} : findId orders edit.publicId = some order →
      IsEdge order.status edit.target → Ok order →
      Edited edit Ok orders (edit.apply now orders)

theorem Edited.mono {edit : Edit} {Ok Ok' : OrderRow → Prop} {orders orders' : List StoredOrder}
    (h : Edited edit Ok orders orders')
    (hsub : ∀ order, findId orders edit.publicId = some order → Ok order → Ok' order) :
    Edited edit Ok' orders orders' := by
  cases h with
  | same => exact .same
  | edited now hfind hedge hok => exact .edited now hfind hedge (hsub _ hfind hok)

/-! ## Statements -/

/-- Statements that leave the `orders` table alone. -/
def Statement.ReadsOrders : Statement → Prop
  | .insertOrder _ _ | .updateStatus _ _ | .updateSrcLock _ | .updateDstLock _
  | .updateSecret _ _ _ => False
  | _ => True

theorem perform_orders {stmt : Statement} (h : stmt.ReadsOrders) (now : ℕ) (db : Database) :
    (perform now stmt db).2.orders = db.orders := by
  cases stmt with
  | insertProcessedEvent event =>
      simp only [perform]
      split <;> rfl
  | insertOrder publicId input => exact h.elim
  | updateStatus publicId status => exact h.elim
  | updateSrcLock lock => exact h.elim
  | updateDstLock lock => exact h.elim
  | updateSecret publicId preimage txHash => exact h.elim
  | _ => rfl

theorem exec_orders {stmt : Statement} (h : stmt.ReadsOrders) (cond : Conditions)
    (db : Database) : (exec cond stmt db).2.orders = db.orders := by
  unfold exec
  split
  · rfl
  · exact perform_orders h _ _

theorem exec_edit (edit : Edit) (cond : Conditions) (db : Database) :
    (exec cond edit.stmt db).2.orders = db.orders ∨
      ∃ now, (exec cond edit.stmt db).2.orders = edit.apply now db.orders := by
  unfold exec
  split
  · exact .inl rfl
  · refine .inr ⟨cond.clock db.executed, ?_⟩
    simp only [perform_edit, tick_orders]

theorem run_query_snd (cond : Conditions) (stmt : Statement) (db : Database) :
    (run (exec cond) (query stmt) db).2 = (exec cond stmt db).2 := by
  rw [query, run_statement]
  split
  · rename_i hexec
    rw [hexec]
  · rename_i hexec
    rw [hexec]

theorem run_query_fst {stmt : Statement} {r : stmt.Response}
    (h : (run (exec cond) (query stmt) db).1 = .ok r) :
    (perform (cond.clock db.executed) stmt db).1 = some r := by
  rw [query, run_statement] at h
  unfold exec at h
  by_cases hfails : cond.fails db.executed = true
  · simp [hfails] at h
  · simp only [hfails] at h
    split at h
    · rename_i hperform
      cases h
      exact congrArg Prod.fst hperform
    · cases h

/-! ## Runs of the repository

A run is followed up to the orders it leaves; each failure ends it. -/

/-- The orders a run leaves satisfy `Q`. -/
def Leaves (cond : Conditions) (p : Task α) (db : Database) (Q : List StoredOrder → Prop) : Prop :=
  Q (run (exec cond) p db).2.orders

theorem leaves_pure {Q : List StoredOrder → Prop} {a : α} (h : Q db.orders) :
    Leaves cond (pure a : Task α) db Q := h

theorem leaves_throw {Q : List StoredOrder → Prop} {e : CoordinatorError} (h : Q db.orders) :
    Leaves cond (throw e : Task α) db Q := h

theorem leaves_bind {β : Type} {Q : List StoredOrder → Prop} {p : Task α} {f : α → Task β}
    (h : ∀ r db', run (exec cond) p db = (r, db') →
      match r with
      | .ok a => Leaves cond (f a) db' Q
      | .error _ => Q db'.orders) : Leaves cond (p >>= f) db Q := by
  unfold Leaves
  rw [run_bind]
  cases hrun : run (exec cond) p db with
  | mk r db' =>
      have hr := h r db' hrun
      cases r with
      | ok a => exact hr
      | error e => exact hr

/-- A statement that only reads orders answers what it answers at any time, or fails. -/
theorem leaves_query {β : Type} {Q : List StoredOrder → Prop} (stmt : Statement)
    {f : stmt.Response → Task β} (hstmt : stmt.ReadsOrders) (hfail : Q db.orders)
    (hnext : ∀ r db', db'.orders = db.orders →
      (∃ now, (perform now stmt db).1 = some r) → Leaves cond (f r) db' Q) :
    Leaves cond (query stmt >>= f) db Q := by
  apply leaves_bind
  intro r db' hrun
  have horders := congrArg (fun result => result.2.orders) hrun
  simp only [run_query_snd, exec_orders hstmt] at horders
  cases r with
  | error e =>
      change Q db'.orders
      rw [← horders]
      exact hfail
  | ok r =>
      exact hnext r db' horders.symm ⟨_, run_query_fst (congrArg Prod.fst hrun)⟩

/-- Where only the orders matter, any answer of a `SELECT` may be assumed. -/
theorem leaves_select {β : Type} {Q : List StoredOrder → Prop} {stmt : Statement}
    {f : stmt.Response → Task β} (hstmt : stmt.ReadsOrders) (hfail : Q db.orders)
    (hnext : ∀ r db', db'.orders = db.orders → Leaves cond (f r) db' Q) :
    Leaves cond (query stmt >>= f) db Q :=
  leaves_query stmt hstmt hfail fun r db' horders _ => hnext r db' horders

theorem leaves_findByPublicId {β : Type} {Q : List StoredOrder → Prop} {publicId : String}
    {f : Option OrderRow → Task β} (hfail : Q db.orders)
    (hnext : ∀ db', db'.orders = db.orders →
      Leaves cond (f (findId db.orders publicId)) db' Q) :
    Leaves cond (OrdersRepository.findByPublicId publicId >>= f) db Q := by
  apply leaves_query (.byPublicId publicId) trivial hfail
  rintro r db' horders ⟨now, hr⟩
  obtain rfl := Option.some.inj hr
  exact hnext db' horders

theorem recordTransition_orders (cond : Conditions) (db : Database) (orderId : ℕ)
    («from» : Option OrderStatus) («to» : OrderStatus) (txHash : Option String)
    (category : String) :
    (run (exec cond) (OrdersRepository.recordTransition orderId «from» «to» txHash category)
      db).2.orders = db.orders := by
  rw [OrdersRepository.recordTransition, run_query_snd]
  exact exec_orders (by trivial) cond db

/-- The writers of the repository make their edit, or nothing. -/
theorem write_leaves (edit : Edit) («to» : OrderStatus) (txHash : Option String)
    {Q : List StoredOrder → Prop} (hsame : Q db.orders)
    (hedit : ∀ now, Q (edit.apply now db.orders)) :
    Leaves cond (OrdersRepository.write edit.publicId edit.stmt «to» txHash) db Q := by
  apply leaves_findByPublicId hsame
  intro db₁ h₁
  split
  · apply leaves_throw
    rwa [h₁]
  · apply leaves_bind
    intro r db₂ hrun
    have h₂ : Q db₂.orders := by
      have hdb₂ : (run (exec cond) (query edit.stmt) db₁).2 = db₂ := congrArg Prod.snd hrun
      rw [← hdb₂, run_query_snd]
      rcases exec_edit edit cond db₁ with hexec | ⟨now, hexec⟩
      · rwa [hexec, h₁]
      · rw [hexec, h₁]
        exact hedit now
    cases r with
    | ok a =>
        change Q (run _ _ db₂).2.orders
        rw [recordTransition_orders]
        exact h₂
    | error e => exact h₂

theorem write_edited (edit : Edit) («to» : OrderStatus) (txHash : Option String)
    {Ok : OrderRow → Prop} {order : OrderRow} (hfind : findId db.orders edit.publicId = some order)
    (hedge : IsEdge order.status edit.target) (hok : Ok order) :
    Leaves cond (OrdersRepository.write edit.publicId edit.stmt «to» txHash) db
      (Edited edit Ok db.orders) :=
  write_leaves edit «to» txHash .same fun now => .edited now hfind hedge hok

theorem leaves_ofExcept {β : Type} {Q : List StoredOrder → Prop}
    {x : Except CoordinatorError α} {f : α → Task β} (hfail : Q db.orders)
    (hnext : ∀ a, x = .ok a → Leaves cond (f a) db Q) :
    Leaves cond (Task.ofExcept x >>= f) db Q := by
  cases x with
  | ok a => exact hnext a rfl
  | error e => exact hfail

/-! ## The order service -/

theorem persistRejection_leaves {Q : List StoredOrder → Prop} (info : TransitionRejectionInfo)
    (h : Q db.orders) : Leaves cond (OrderService.persistRejection info) db Q := by
  apply leaves_findByPublicId h
  intro db₁ h₁
  split
  · apply leaves_throw
    rwa [h₁]
  · unfold Leaves
    rw [run_query_snd, exec_orders (by trivial) cond db₁, h₁]
    exact h

theorem rejectTransition_leaves {Q : List StoredOrder → Prop} (info : TransitionRejectionInfo)
    (h : Q db.orders) : Leaves cond (OrderService.rejectTransition info) db Q := by
  apply leaves_bind
  intro r db₁ hrun
  have h₁ : Q db₁.orders := by
    have hleaves : Q (run (exec cond) (OrderService.persistRejection info) db).2.orders :=
      persistRejection_leaves info h
    rwa [hrun] at hleaves
  cases r with
  | ok _ => exact leaves_throw h₁
  | error _ => exact h₁

/-- Only an edge of the lifecycle reaches the write of a request. -/
theorem advance_leaves {Q : List StoredOrder → Prop} (request : OrderService.AdvanceRequest)
    (hsame : Q db.orders)
    (happly : ∀ order db', db'.orders = db.orders →
      findId db.orders request.publicId = some order →
      IsEdge order.status (actionTargetStatus request.action) →
      Leaves cond (request.apply order) db' Q) :
    Leaves cond (OrderService.advance request) db Q := by
  apply leaves_findByPublicId hsame
  intro db₁ h₁
  have hsame₁ : Q db₁.orders := by rwa [h₁]
  split
  · exact leaves_throw hsame₁
  · rename_i order hfind
    dsimp only
    split
    · split
      · exact persistRejection_leaves _ hsame₁
      · exact rejectTransition_leaves _ hsame₁
    · split
      · exact rejectTransition_leaves _ hsame₁
      · rename_i hnone
        exact happly order db₁ h₁ hfind (evaluateTransition_eq_none.mp hnone)

variable (cond) (db)

/-- What a source lock must satisfy beside the edge. -/
def SrcLock.Guarded (D : Deployment) (lock : SrcLock) (order : OrderRow) : Prop :=
  ∀ d, order.dstTimelock = some d → GapOk D lock.timelock d

/-- What a destination lock must satisfy beside the edge. -/
def DstLock.Guarded (D : Deployment) (lock : DstLock) (order : OrderRow) : Prop :=
  ∀ s, order.srcTimelock = some s → GapOk D s lock.timelock

omit cond db in
theorem srcLockGuard_ok {lock : SrcLock} {order : OrderRow} :
    OrderService.srcLockGuard D lock order = .ok () ↔ lock.Guarded D order := by
  unfold OrderService.srcLockGuard SrcLock.Guarded
  split
  · rename_i hnone
    simp [hnone]
  · rename_i d hsome
    simp [hsome, assertTimelocksAtCreation_ok]

omit cond db in
theorem dstLockGuard_ok {lock : DstLock} {order : OrderRow} :
    OrderService.dstLockGuard D lock order = .ok () ↔ lock.Guarded D order := by
  unfold OrderService.dstLockGuard DstLock.Guarded
  split
  · rename_i hnone
    simp [hnone]
  · rename_i s hsome
    simp [hsome, assertTimelocksAtCreation_ok]

theorem recordSrcLock_edited (lock : SrcLock) (writer : String) :
    Leaves cond (OrderService.recordSrcLock D lock writer) db
      (Edited (.srcLock lock) (lock.Guarded D) db.orders) := by
  apply advance_leaves _ .same
  intro order db₁ h₁ hfind hedge
  rw [← h₁] at hfind ⊢
  apply leaves_ofExcept .same
  intro _ hguard
  exact write_edited (.srcLock lock) _ _ hfind hedge (srcLockGuard_ok.mp hguard)

theorem recordDstLock_edited (lock : DstLock) (writer : String) :
    Leaves cond (OrderService.recordDstLock D lock writer) db
      (Edited (.dstLock lock) (lock.Guarded D) db.orders) := by
  apply advance_leaves _ .same
  intro order db₁ h₁ hfind hedge
  rw [← h₁] at hfind ⊢
  apply leaves_ofExcept .same
  intro _ hguard
  exact write_edited (.dstLock lock) _ _ hfind hedge (dstLockGuard_ok.mp hguard)

theorem recordSecret_edited (publicId preimage txHash writer : String) :
    Leaves cond (OrderService.recordSecret D publicId preimage txHash writer) db
      (Edited (.secret publicId (D.toLowerCase preimage) txHash)
        (fun order => findId db.orders publicId = some order) db.orders) := by
  apply advance_leaves _ .same
  intro order db₁ h₁ hfind hedge
  have hok : findId db.orders publicId = some order := hfind
  rw [← h₁] at hfind hok ⊢
  exact write_edited (.secret publicId (D.toLowerCase preimage) txHash) _ _ hfind hedge hok

theorem statusRequest_edited (publicId : String) (action : OrderTransitionAction)
    (value : OrderStatus) (txHash : Option String) (writer : String)
    (hvalue : actionTargetStatus action = value) :
    Leaves cond (OrderService.advance
        (OrderService.statusRequest publicId action value txHash writer)) db
      (Edited (.status publicId value) (fun _ => True) db.orders) := by
  apply advance_leaves _ .same
  intro order db₁ h₁ hfind hedge
  rw [← h₁] at hfind ⊢
  refine write_edited (.status publicId value) _ _ hfind ?_ trivial
  change IsEdge order.status (actionTargetStatus action) at hedge
  rwa [hvalue] at hedge

theorem recordClaim_edited (publicId txHash writer : String) :
    Leaves cond (OrderService.recordClaim publicId txHash writer) db
      (Edited (.status publicId .completed) (fun _ => True) db.orders) :=
  statusRequest_edited cond db publicId .claim .completed _ writer rfl

theorem recordRefund_edited (publicId txHash writer : String) :
    Leaves cond (OrderService.recordRefund publicId txHash writer) db
      (Edited (.status publicId .refunded) (fun _ => True) db.orders) :=
  statusRequest_edited cond db publicId .refund .refunded _ writer rfl

theorem markStatus_edited (publicId : String) (value : OrderStatus) (writer : String) :
    Leaves cond (OrderService.markStatus publicId value writer) db
      (Edited (.status publicId value) (fun _ => True) db.orders) := by
  unfold OrderService.markStatus
  split
  · exact leaves_throw .same
  · rename_i action haction
    exact statusRequest_edited cond db publicId action value _ writer
      (actionTargetStatus_of_actionForStatus haction)

/-! ## Invariants of rows -/

/-- The schema's constraint: `public_id` is unique. -/
def UniqueIds (orders : List StoredOrder) : Prop :=
  (orders.map (·.publicId)).Nodup

instance (orders : List StoredOrder) : Decidable (UniqueIds orders) :=
  inferInstanceAs (Decidable (List.Nodup _))

theorem findId_unique {orders : List StoredOrder} {publicId : String} {order : OrderRow}
    (hunique : UniqueIds orders) (hfind : findId orders publicId = some order)
    {stored : StoredOrder} (hmem : stored ∈ orders) (hid : stored.publicId = publicId) :
    stored.toOrderRow = order := by
  obtain ⟨row, hrow, rfl, hp⟩ := findRow_mem hfind
  rw [List.inj_on_of_nodup_map hunique hmem hrow]
  simp_all

@[simp] theorem Edit.set_publicId (edit : Edit) (row : OrderRow) :
    (edit.set row).publicId = row.publicId := by
  cases edit <;> rfl

@[simp] theorem Edit.row_publicId (edit : Edit) (now : ℕ) (stored : StoredOrder) :
    (edit.row now stored).publicId = stored.publicId := by
  unfold Edit.row
  split <;> simp

@[simp] theorem Edit.row_id (edit : Edit) (now : ℕ) (stored : StoredOrder) :
    (edit.row now stored).id = stored.id := by
  unfold Edit.row
  split
  · cases edit <;> rfl
  · rfl

theorem Edit.apply_ids (edit : Edit) (now : ℕ) (orders : List StoredOrder) :
    (edit.apply now orders).map (·.id) = orders.map (·.id) := by
  simp [Edit.apply]

theorem Edit.apply_publicIds (edit : Edit) (now : ℕ) (orders : List StoredOrder) :
    (edit.apply now orders).map (·.publicId) = orders.map (·.publicId) := by
  simp [Edit.apply]

/-- The rows of an edit: the one it is made to, and the others. -/
theorem Edit.mem_apply {edit : Edit} {now : ℕ} {orders : List StoredOrder} {stored : StoredOrder}
    (hmem : stored ∈ orders) : edit.row now stored ∈ edit.apply now orders :=
  List.mem_map_of_mem hmem

theorem Edit.row_self {edit : Edit} {now : ℕ} {stored : StoredOrder}
    (h : stored.publicId = edit.publicId) :
    (edit.row now stored).toOrderRow = edit.set stored.toOrderRow := by
  rw [Edit.row, if_pos h]

theorem Edit.row_other {edit : Edit} {now : ℕ} {stored : StoredOrder}
    (h : stored.publicId ≠ edit.publicId) : edit.row now stored = stored := by
  rw [Edit.row, if_neg h]

theorem Edited.uniqueIds {edit : Edit} {Ok : OrderRow → Prop} {orders orders' : List StoredOrder}
    (h : Edited edit Ok orders orders') (hunique : UniqueIds orders) : UniqueIds orders' := by
  cases h with
  | same => exact hunique
  | edited now _ _ _ =>
      unfold UniqueIds
      rwa [Edit.apply_publicIds]

/-- An edit keeps a property of rows that it keeps of the order it is allowed for. -/
theorem Edited.rows {edit : Edit} {Ok : OrderRow → Prop} {orders orders' : List StoredOrder}
    {P : OrderRow → Prop} (h : Edited edit Ok orders orders') (hunique : UniqueIds orders)
    (hP : ∀ stored ∈ orders, P stored.toOrderRow)
    (hset : ∀ order, findId orders edit.publicId = some order → IsEdge order.status edit.target →
      Ok order → P order → P (edit.set order)) :
    ∀ stored ∈ orders', P stored.toOrderRow := by
  cases h with
  | same => exact hP
  | edited now hfind hedge hok =>
      intro stored' hmem
      obtain ⟨stored, hstored, rfl⟩ := List.mem_map.mp hmem
      have hrow := hP stored hstored
      unfold Edit.row
      split
      · rename_i hid
        rw [findId_unique hunique hfind hstored hid] at hrow ⊢
        exact hset _ hfind hedge hok hrow
      · exact hrow

/-- Where a row after an edit comes from. -/
theorem Edited.origin {edit : Edit} {Ok : OrderRow → Prop} {orders orders' : List StoredOrder}
    (h : Edited edit Ok orders orders') (hunique : UniqueIds orders) {stored' : StoredOrder}
    (hmem' : stored' ∈ orders') :
    ∃ stored ∈ orders, stored'.publicId = stored.publicId ∧
      (stored'.toOrderRow = stored.toOrderRow ∨
        stored.publicId = edit.publicId ∧ stored'.toOrderRow = edit.set stored.toOrderRow ∧
          IsEdge stored.status edit.target ∧ Ok stored.toOrderRow) := by
  cases h with
  | same => exact ⟨stored', hmem', rfl, .inl rfl⟩
  | edited now hfind hedge hok =>
      obtain ⟨stored, hmem, rfl⟩ := List.mem_map.mp hmem'
      refine ⟨stored, hmem, edit.row_publicId now stored, ?_⟩
      by_cases hself : stored.publicId = edit.publicId
      · have hrow := findId_unique hunique hfind hmem hself
        rw [← hrow] at hedge hok
        exact .inr ⟨hself, Edit.row_self hself, hedge, hok⟩
      · rw [Edit.row_other hself]
        exact .inl rfl

/-! ## Rows after an edit -/

def rowsOf (orders : List StoredOrder) : List OrderRow :=
  orders.map (·.toOrderRow)

theorem findRow_rows (orders : List StoredOrder) (p : OrderRow → Bool) :
    findRow orders p = (rowsOf orders).find? p := by
  rw [rowsOf, List.find?_map]
  rfl

/-- One row after an edit. -/
def Edit.onRow (edit : Edit) (row : OrderRow) : OrderRow :=
  if row.publicId = edit.publicId then edit.set row else row

theorem Edit.rowsOf_apply (edit : Edit) (now : ℕ) (orders : List StoredOrder) :
    rowsOf (edit.apply now orders) = (rowsOf orders).map edit.onRow := by
  rw [rowsOf, rowsOf, Edit.apply, List.map_map, List.map_map]
  refine List.map_congr_left fun stored _ => ?_
  rw [Function.comp_apply, Function.comp_apply, Edit.row, Edit.onRow]
  split <;> rfl

theorem findRow_apply {edit : Edit} {p : OrderRow → Bool} (hp : ∀ row, p (edit.set row) = p row)
    (now : ℕ) (orders : List StoredOrder) :
    findRow (edit.apply now orders) p = (findRow orders p).map edit.onRow := by
  have hrow (row : OrderRow) : p (edit.onRow row) = p row := by
    unfold Edit.onRow
    split
    · exact hp row
    · rfl
  rw [findRow_rows, findRow_rows, Edit.rowsOf_apply, List.find?_map]
  exact congrArg (Option.map edit.onRow) (congrArg (fun q => List.find? q (rowsOf orders)) (funext hrow))

theorem findId_apply (edit : Edit) (now : ℕ) (orders : List StoredOrder) (publicId : String) :
    findId (edit.apply now orders) publicId = (findId orders publicId).map edit.onRow :=
  findRow_apply (fun row => by rw [Edit.set_publicId]) now orders

end OverSync.Coordinator
