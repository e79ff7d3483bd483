import OverSync.Library.Pool
import OverSync.Verification.Coordinator.History
import OverSync.Verification.Coordinator.Statements

/-! # Status writes of calls that run at the same time

`advance` reads the order, decides, and writes through further statements. No `UPDATE` looks at
the status that is stored when it is executed. -/

namespace OverSync.Coordinator

open Library Library.Procedure

variable {D : Deployment} {cond : Conditions} {db : Database}

/-! ## One call -/

/-- What a call may execute once its first statement was executed in `db`: an `UPDATE` only
along an edge from the status stored there. -/
def StatusMay (db : Database) (stmt : Statement) : Prop :=
  ∀ edit : Edit, stmt = edit.stmt →
    ∃ order, findId db.orders edit.publicId = some order ∧ IsEdge order.status edit.target

theorem StatusMay.reads {stmt : Statement} (h : stmt.ReadsOrders) : StatusMay db stmt := by
  rintro edit rfl
  cases edit <;> exact h.elim

theorem StatusMay.insert {publicId : String} {input : AnnounceOrderInput} :
    StatusMay db (.insertOrder publicId input) := by
  intro edit hedit
  cases edit <;> cases hedit

theorem StatusMay.edit {edit : Edit} {order : OrderRow}
    (hfind : findId db.orders edit.publicId = some order)
    (hedge : IsEdge order.status edit.target) : StatusMay db edit.stmt := by
  intro other hother
  obtain rfl := Edit.stmt_injective hother
  exact ⟨order, hfind, hedge⟩

theorem write_may (edit : Edit) {order : OrderRow} («to» : OrderStatus)
    (txHash : Option String) (hfind : findId db.orders edit.publicId = some order)
    (hedge : IsEdge order.status edit.target) :
    Issues (StatusMay db) (OrdersRepository.write edit.publicId edit.stmt «to» txHash) :=
  (write_plain (fun _ h => .reads h.readsOrders) _ _ _ (.edit hfind hedge)).issues

theorem advance_opens (request : OrderService.AdvanceRequest)
    (happly : ∀ db order, findId db.orders request.publicId = some order →
      IsEdge order.status (actionTargetStatus request.action) →
      Issues (StatusMay db) (request.apply order)) :
    Opens (exec cond) StatusMay (OrderService.advance request) := by
  refine opens_statement_bind (fun _ => .reads trivial) ?_
  intro w found hfound
  cases found with
  | none => exact issues_throw _
  | some order =>
      have hfind : findId w.orders request.publicId = some order := by
        unfold exec at hfound
        split at hfound
        · cases hfound
        · exact Option.some.inj hfound
      dsimp only
      split
      · split
        · exact (persistRejection_plain (fun _ h => .reads h.readsOrders) _).issues
        · exact (rejectTransition_plain (fun _ h => .reads h.readsOrders) _).issues
      · cases heval : evaluateTransition order.status (actionTargetStatus request.action)
            request.action with
        | some refusal => exact (rejectTransition_plain (fun _ h => .reads h.readsOrders) _).issues
        | none => exact happly w order hfind (evaluateTransition_eq_none.mp heval)

theorem statusRequest_opens {publicId writer : String} {action : OrderTransitionAction}
    {value : OrderStatus} {txHash : Option String} (hvalue : actionTargetStatus action = value) :
    Opens (exec cond) StatusMay (OrderService.advance
      (OrderService.statusRequest publicId action value txHash writer)) := by
  apply advance_opens
  intro db order hfind hedge
  rw [← hvalue]
  exact write_may (.status publicId (actionTargetStatus action)) _ _ hfind hedge

theorem announce_never_updates (quoteGate : Except CoordinatorError Unit) (publicId : String)
    (input : AnnounceOrderInput) :
    Issues (StatusMay db) (OrderService.announce D quoteGate publicId input) := by
  apply issues_bind ((plain_ofExcept _).issues)
  intro _
  apply issues_bind ((plain_ofExcept _).issues)
  intro _
  apply issues_bind (issues_statement (StatusMay.reads (by trivial)))
  intro found
  cases found with
  | some existing => exact issues_throw _
  | none =>
      apply issues_bind (issues_statement .insert)
      intro _
      apply issues_bind (issues_statement (.reads trivial))
      intro inserted
      cases inserted with
      | none => exact issues_throw _
      | some order =>
          apply issues_bind (issues_statement (StatusMay.reads (by trivial)))
          intro _
          exact issues_pure _

theorem orderCall_opens (call : OrderCall) : Opens (exec cond) StatusMay (call.task D) := by
  cases call with
  | announce quoteGate publicId input =>
      exact opens_of_issues fun db =>
        issues_bind (announce_never_updates quoteGate publicId input) fun _ => issues_pure _
  | recordSrcLock lock writer =>
      apply advance_opens
      intro db order hfind hedge
      exact issues_bind ((plain_ofExcept _).issues) fun _ => write_may (.srcLock lock) _ _ hfind hedge
  | recordDstLock lock writer =>
      apply advance_opens
      intro db order hfind hedge
      exact issues_bind ((plain_ofExcept _).issues) fun _ => write_may (.dstLock lock) _ _ hfind hedge
  | recordSecret publicId preimage txHash writer =>
      apply advance_opens
      intro db order hfind hedge
      exact write_may (.secret publicId (D.toLowerCase preimage) txHash) _ _ hfind hedge
  | recordClaim publicId txHash writer => exact statusRequest_opens rfl
  | recordRefund publicId txHash writer => exact statusRequest_opens rfl
  | markStatus publicId status writer =>
      simp only [OrderCall.task, OrderService.markStatus]
      cases haction : actionForStatus status with
      | none => trivial
      | some action =>
          exact statusRequest_opens (actionTargetStatus_of_actionForStatus haction)

/-! ## Many calls -/

abbrev CallPool (ι : Type) := Pool ι Statement Statement.Response CoordinatorError Unit Database

/-- The calls are made on a database. -/
def calling {ι : Type} (D : Deployment) (db : Database) (calls : ι → OrderCall) : CallPool ι :=
  .start db fun i => (calls i).task D

def statusOf (orders : List StoredOrder) (publicId : String) : Option OrderStatus :=
  (findId orders publicId).map (·.status)

variable {ι : Type}

/-- Where the next statement of a call is an `UPDATE`, the stored status is still the one that
the call read when it began. -/
def StatusFresh (pool : CallPool ι) (i : ι) : Prop :=
  ∀ (edit : Edit) (began : Database), (pool.threads i).next = some edit.stmt →
    (pool.threads i).began = some began →
    statusOf pool.world.orders edit.publicId = statusOf began.orders edit.publicId

/-- Stored statuses move along edges of the lifecycle only, and the final ones do not move. -/
structure StatusesLegal (orders orders' : List StoredOrder) : Prop where
  edge : ∀ stored ∈ orders, ∀ stored' ∈ orders', stored'.publicId = stored.publicId →
    stored'.status = stored.status ∨ IsEdge stored.status stored'.status
  final : ∀ stored ∈ orders, ∀ stored' ∈ orders', stored'.publicId = stored.publicId →
    stored.status = .completed ∨ stored.status = .refunded ∨ stored.status = .failed →
    stored'.status = stored.status

theorem not_isEdge_final {«from» «to» : OrderStatus}
    (h : «from» = .completed ∨ «from» = .refunded ∨ «from» = .failed) : ¬ IsEdge «from» «to» := by
  rcases h with rfl | rfl | rfl <;> cases «to» <;> decide

theorem StatusesLegal.of_edge {orders orders' : List StoredOrder}
    (h : ∀ stored ∈ orders, ∀ stored' ∈ orders', stored'.publicId = stored.publicId →
      stored'.status = stored.status ∨ IsEdge stored.status stored'.status) :
    StatusesLegal orders orders' where
  edge := h
  final stored hmem stored' hmem' hid hfinal := by
    rcases h stored hmem stored' hmem' hid with hsame | hedge
    · exact hsame
    · exact absurd hedge (not_isEdge_final hfinal)

theorem StatusesLegal.refl {orders : List StoredOrder} (hunique : UniqueIds orders) :
    StatusesLegal orders orders := by
  apply StatusesLegal.of_edge
  intro stored hmem stored' hmem' hid
  rw [List.inj_on_of_nodup_map hunique hmem' hmem hid]
  exact .inl rfl

theorem StatusesLegal.append {orders : List StoredOrder} {added : StoredOrder}
    (hunique : UniqueIds orders) (hfresh : findId orders added.publicId = none) :
    StatusesLegal orders (orders ++ [added]) := by
  apply StatusesLegal.of_edge
  intro stored hmem stored' hmem' hid
  rcases List.mem_append.mp hmem' with hold | hnew
  · rw [List.inj_on_of_nodup_map hunique hold hmem hid]
    exact .inl rfl
  · obtain rfl := List.mem_singleton.mp hnew
    exact absurd hid.symm (findId_eq_none.mp hfresh stored hmem)

/-- An edit along an edge from the stored status. -/
theorem StatusesLegal.edit {orders : List StoredOrder} {edit : Edit} {order : OrderRow} (now : ℕ)
    (hunique : UniqueIds orders) (hfind : findId orders edit.publicId = some order)
    (hedge : IsEdge order.status edit.target) : StatusesLegal orders (edit.apply now orders) := by
  apply StatusesLegal.of_edge
  intro stored hmem stored' hmem' hid
  obtain ⟨old, hold, rfl⟩ := List.mem_map.mp hmem'
  rw [Edit.row_publicId] at hid
  obtain rfl := List.inj_on_of_nodup_map hunique hold hmem hid
  by_cases hself : old.publicId = edit.publicId
  · have hrow := findId_unique hunique hfind hmem hself
    rw [Edit.row_self hself, hrow, Edit.set_status hedge]
    exact .inr hedge
  · rw [Edit.row_other hself]
    exact .inl rfl

/-! ## Runs -/

/-- No statement makes two orders share a public id. -/
theorem exec_uniqueIds (stmt : Statement) (hunique : UniqueIds db.orders) :
    UniqueIds (exec cond stmt db).2.orders := by
  rcases statement_cases stmt with hreads | ⟨publicId, input, rfl⟩ | ⟨edit, rfl⟩
  · rwa [exec_orders hreads]
  · rcases exec_insertOrder publicId input with hsame | ⟨hfresh, id, now, hadded⟩
    · rwa [hsame]
    · have hnotin : publicId ∉ db.orders.map (·.publicId) := by
        simpa using findId_eq_none.mp hfresh
      rw [hadded, UniqueIds, List.map_append, List.map_singleton, ← List.concat_eq_append]
      exact List.Nodup.concat hnotin hunique
  · rcases exec_edit edit cond db with hsame | ⟨now, happly⟩
    · rwa [hsame]
    · rwa [happly, UniqueIds, Edit.apply_publicIds]

theorem exec_statusesLegal {stmt : Statement} (hunique : UniqueIds db.orders)
    (hmay : StatusMay db stmt) : StatusesLegal db.orders (exec cond stmt db).2.orders := by
  rcases statement_cases stmt with hreads | ⟨publicId, input, rfl⟩ | ⟨edit, rfl⟩
  · rw [exec_orders hreads]
    exact .refl hunique
  · rcases exec_insertOrder publicId input with hsame | ⟨hfresh, id, now, hadded⟩
    · rw [hsame]
      exact .refl hunique
    · rw [hadded]
      exact .append hunique hfresh
  · obtain ⟨order, hfind, hedge⟩ := hmay edit rfl
    rcases exec_edit edit cond db with hsame | ⟨now, happly⟩
    · rw [hsame]
      exact .refl hunique
    · rw [happly]
      exact .edit now hunique hfind hedge

/-- The status is as it was, so the edge still starts from it. -/
theorem StatusMay.fresh {db db' : Database} {stmt : Statement} (h : StatusMay db stmt)
    (hsame : ∀ edit : Edit, stmt = edit.stmt →
      statusOf db'.orders edit.publicId = statusOf db.orders edit.publicId) :
    StatusMay db' stmt := by
  intro edit hedit
  obtain ⟨order, hfind, hedge⟩ := h edit hedit
  have hstatus := hsame edit hedit
  rw [statusOf, statusOf, hfind, Option.map_some] at hstatus
  obtain ⟨order', hfind', heq⟩ := Option.map_eq_some_iff.mp hstatus
  refine ⟨order', hfind', ?_⟩
  rwa [heq]

variable [DecidableEq ι] {pool pool' : CallPool ι}

/-- The invariant of the pool: public ids are unique and every call keeps to what it read. -/
structure PoolSound (cond : Conditions) (pool : CallPool ι) : Prop where
  unique : UniqueIds pool.world.orders
  justified : ∀ i, (pool.threads i).Justified (exec cond) StatusMay

theorem PoolSound.step (h : PoolSound cond pool) (i : ι) :
    PoolSound cond (pool.step (exec cond) i) where
  unique := by
    cases hnext : (pool.threads i).next with
    | none =>
        rw [Pool.step_of_next_none hnext]
        exact h.unique
    | some stmt =>
        rw [Pool.step_world_of_next hnext]
        exact exec_uniqueIds stmt h.unique
  justified := Pool.step_justified h.justified

theorem PoolSound.statusesLegal (h : PoolSound cond pool) {i : ι} (hfresh : StatusFresh pool i) :
    StatusesLegal pool.world.orders (pool.step (exec cond) i).world.orders := by
  cases hnext : (pool.threads i).next with
  | none =>
      rw [Pool.step_of_next_none hnext]
      exact .refl h.unique
  | some stmt =>
      rw [Pool.step_world_of_next hnext]
      have hmay := (h.justified i).next hnext pool.world
      refine exec_statusesLegal h.unique (hmay.fresh ?_)
      rintro edit rfl
      cases hbegan : (pool.threads i).began with
      | none => rfl
      | some began => exact hfresh edit began hnext hbegan

/-- However the statements of the calls interleave, in every run in which each `UPDATE` finds
the status that its call read, stored statuses move along edges of the lifecycle only. -/
theorem status_writes_legal {calls : ι → OrderCall} {schedule : List ι} {i : ι}
    (hunique : UniqueIds db.orders)
    (h : Execution (CallStep (Pool.step (exec cond)) StatusFresh) (calling D db calls) schedule pool)
    (hstep : CallStep (Pool.step (exec cond)) StatusFresh pool i pool') :
    StatusesLegal pool.world.orders pool'.world.orders := by
  have hstart : PoolSound cond (calling D db calls) := ⟨hunique, fun j => orderCall_opens (calls j)⟩
  have hsound : PoolSound cond pool := h.invariant hstart fun hu hs => by
    rw [hs.2]
    exact hu.step _
  obtain ⟨hfresh, rfl⟩ := hstep
  exact hsound.statusesLegal hfresh

/-! ## A secret and a refund of one order -/

instance (orders orders' : List StoredOrder) : Decidable (StatusesLegal orders orders') :=
  decidable_of_iff
    (∀ stored ∈ orders, ∀ stored' ∈ orders', stored'.publicId = stored.publicId →
      stored'.status = stored.status ∨ IsEdge stored.status stored'.status)
    ⟨.of_edge, fun h => h.edge⟩

instance (pool : CallPool ι) (i : ι) : Decidable (StatusFresh pool i) :=
  decidable_of_iff
    (∀ edit ∈ (pool.threads i).next.bind Statement.asEdit, ∀ began ∈ (pool.threads i).began,
      statusOf pool.world.orders edit.publicId = statusOf began.orders edit.publicId) <| by
    constructor
    · intro h edit began hnext hbegan
      exact h edit (Option.mem_bind_iff.mpr ⟨_, hnext, asEdit_stmt edit⟩) began hbegan
    · intro h edit hedit began hbegan
      obtain ⟨stmt, hnext, hstmt⟩ := Option.mem_bind_iff.mp hedit
      obtain rfl := stmt_of_asEdit hstmt
      exact h edit began hnext hbegan

/-- Order 7, announced and locked on Ethereum. -/
def escrowed7 : Database :=
  runAll (OrderCall.run deployment7 calm7)
    [.announce (.ok ()) "a1" input7,
      .recordSrcLock ⟨"a1", "7", "0xaa", 100, 1700010000⟩ "order-service"] .empty

def settling7 (i : Fin 2) : OrderCall :=
  if i.val = 0 then .recordSecret "a1" preimage7 "0xbb" "order-service"
  else .recordRefund "a1" "0xdd" "ethereum-listener"

theorem status_writes_legal_sequential :
    let before := runAll (Pool.step (exec calm7)) [0, 0] (calling deployment7 escrowed7 settling7)
    let after := before.step (exec calm7) 0
    statusOf before.world.orders "a1" = some .srcLocked ∧
      statusOf after.world.orders "a1" = some .secretRevealed ∧
      StatusesLegal before.world.orders after.world.orders :=
  ⟨by decide, by decide +kernel,
    status_writes_legal (by decide) (AllOk.execution (by decide +kernel))
      ⟨by decide, rfl⟩⟩

/-- The secret was allowed while the order was locked, and is written after its refund. -/
theorem refunded_order_rewritten :
    ¬ ∀ (D : Deployment) (cond : Conditions) (db : Database) (calls : Fin 2 → OrderCall)
        (schedule : List (Fin 2)) (i : Fin 2), UniqueIds db.orders →
      StatusesLegal (runAll (Pool.step (exec cond)) schedule (calling D db calls)).world.orders
        (runAll (Pool.step (exec cond)) (schedule ++ [i]) (calling D db calls)).world.orders := by
  intro h
  have hrun := h deployment7 calm7 escrowed7 settling7 [0, 1, 1, 1, 0] 0 (by decide)
  revert hrun
  decide

end OverSync.Coordinator
