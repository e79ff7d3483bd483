import OverSync.Model.Coordinator.Listeners
import OverSync.Verification.Coordinator.Semantics

/-! # The statements of the services

Every service reads rows and logs order events as it likes. What else it may execute is fixed by
its arguments. -/

namespace OverSync.Coordinator

open Library Library.Procedure

variable {D : Deployment} {cond : Conditions} {db : Database} {α : Type}

/-! ## Kinds of statements -/

/-- Statements that change no table but the order events. -/
def Statement.Quiet : Statement → Prop
  | .byPublicId _ | .byHashlock _ | .bySrcOrderId _ _ | .byDstOrderId _ _ | .byPreimage _
  | .insertOrderEvent _ _ | .getCursor _ | .hasProcessedEvent _ => True
  | _ => False

theorem Statement.Quiet.readsOrders {stmt : Statement} (h : stmt.Quiet) : stmt.ReadsOrders := by
  cases stmt <;> trivial

/-- The edit a statement makes. -/
def Statement.asEdit : Statement → Option Edit
  | .updateStatus publicId value => some (.status publicId value)
  | .updateSrcLock lock => some (.srcLock lock)
  | .updateDstLock lock => some (.dstLock lock)
  | .updateSecret publicId preimage txHash => some (.secret publicId preimage txHash)
  | _ => none

theorem asEdit_stmt (edit : Edit) : edit.stmt.asEdit = some edit := by
  cases edit <;> rfl

theorem stmt_of_asEdit {stmt : Statement} {edit : Edit} (h : stmt.asEdit = some edit) :
    stmt = edit.stmt := by
  cases stmt <;> cases h <;> rfl

theorem Edit.stmt_injective {edit edit' : Edit} (h : edit.stmt = edit'.stmt) : edit = edit' := by
  have hsame := congrArg Statement.asEdit h
  rw [asEdit_stmt, asEdit_stmt] at hsame
  exact Option.some.inj hsame

theorem statement_cases (stmt : Statement) :
    stmt.ReadsOrders ∨ (∃ publicId input, stmt = .insertOrder publicId input) ∨
      ∃ edit : Edit, stmt = edit.stmt := by
  cases stmt with
  | insertOrder publicId input => exact .inr (.inl ⟨publicId, input, rfl⟩)
  | updateStatus publicId value => exact .inr (.inr ⟨.status publicId value, rfl⟩)
  | updateSrcLock lock => exact .inr (.inr ⟨.srcLock lock, rfl⟩)
  | updateDstLock lock => exact .inr (.inr ⟨.dstLock lock, rfl⟩)
  | updateSecret publicId preimage txHash =>
      exact .inr (.inr ⟨.secret publicId preimage txHash, rfl⟩)
  | _ => exact .inl trivial

theorem exec_or_fails (cond : Conditions) (stmt : Statement) (db : Database) :
    exec cond stmt db = exec (.calm cond.clock) stmt db ∨ exec cond stmt db = (none, db.tick) := by
  unfold exec
  split
  · exact .inr rfl
  · exact .inl rfl

/-- Statements other than the one that saves a cursor. -/
def Statement.KeepsCursors : Statement → Prop
  | .upsertCursor _ _ => False
  | _ => True

theorem exec_cursors {stmt : Statement} (h : stmt.KeepsCursors) (cond : Conditions) (db : Database) :
    (exec cond stmt db).2.cursors = db.cursors := by
  unfold exec
  split
  · rfl
  · cases stmt with
    | upsertCursor chain cursor => exact h.elim
    | insertOrder publicId input =>
        simp only [perform]
        split <;> rfl
    | insertProcessedEvent event =>
        simp only [perform]
        split <;> rfl
    | _ => rfl

theorem run_cursors {p : Task α} (h : Issues Statement.KeepsCursors p) (cond : Conditions)
    (db : Database) : (run (exec cond) p db).2.cursors = db.cursors :=
  (h.along (I := fun u : Database => u.cursors = db.cursors)
    (fun _ u hstmt hu => (exec_cursors hstmt cond u).trans hu) rfl).stop

theorem Statement.Quiet.keepsCursors {stmt : Statement} (h : stmt.Quiet) : stmt.KeepsCursors := by
  cases stmt <;> trivial

/-! ## Statements of a call -/

section Plain

variable {P : Statement → Prop}

theorem plain_ofExcept (x : Except CoordinatorError α) : Plain .database P (Task.ofExcept x) := by
  cases x with
  | error e => exact plain_throw e
  | ok a => exact plain_pure a

variable (hquiet : ∀ stmt : Statement, stmt.Quiet → P stmt)

include hquiet

theorem write_plain {stmt : Statement} (publicId : String) («to» : OrderStatus)
    (txHash : Option String) (hstmt : P stmt) :
    Plain .database P (OrdersRepository.write publicId stmt «to» txHash) := by
  apply plain_bind (plain_statement (hquiet (.byPublicId publicId) trivial))
  intro found
  cases found with
  | none => exact plain_throw _
  | some found =>
      apply plain_bind (plain_statement hstmt)
      intro _
      exact plain_statement (hquiet _ trivial)

theorem persistRejection_plain (info : TransitionRejectionInfo) :
    Plain .database P (OrderService.persistRejection info) := by
  apply plain_bind (plain_statement (hquiet (.byPublicId info.publicId) trivial))
  intro found
  cases found with
  | none => exact plain_throw _
  | some order => exact plain_statement (hquiet _ trivial)

theorem rejectTransition_plain (info : TransitionRejectionInfo) :
    Plain .database P (OrderService.rejectTransition info) :=
  plain_bind (persistRejection_plain hquiet info) fun _ => plain_throw _

theorem advance_plain (request : OrderService.AdvanceRequest)
    (happly : ∀ order, Plain .database P (request.apply order)) :
    Plain .database P (OrderService.advance request) := by
  apply plain_bind (plain_statement (hquiet (.byPublicId request.publicId) trivial))
  intro found
  cases found with
  | none => exact plain_throw _
  | some order =>
      dsimp only
      split
      · split
        · exact persistRejection_plain hquiet _
        · exact rejectTransition_plain hquiet _
      · split
        · exact rejectTransition_plain hquiet _
        · exact happly order

theorem recordSecret_plain {publicId preimage txHash : String} (writer : String)
    (hstmt : P (.updateSecret publicId (D.toLowerCase preimage) txHash)) :
    Plain .database P (OrderService.recordSecret D publicId preimage txHash writer) :=
  advance_plain hquiet _ fun _ => write_plain hquiet _ _ _ hstmt

theorem statusRequest_plain {publicId : String} (action : OrderTransitionAction)
    {value : OrderStatus} (txHash : Option String) (writer : String)
    (hstmt : P (.updateStatus publicId value)) :
    Plain .database P (OrderService.advance
      (OrderService.statusRequest publicId action value txHash writer)) :=
  advance_plain hquiet _ fun _ => write_plain hquiet _ _ _ hstmt

theorem srcLock_plain {lock : SrcLock} (writer : String) (hstmt : P (.updateSrcLock lock)) :
    Plain .database P (OrderService.recordSrcLock D lock writer) :=
  advance_plain hquiet _ fun _ =>
    plain_bind (plain_ofExcept _) fun _ => write_plain hquiet _ _ _ hstmt

theorem dstLock_plain {lock : DstLock} (writer : String) (hstmt : P (.updateDstLock lock)) :
    Plain .database P (OrderService.recordDstLock D lock writer) :=
  advance_plain hquiet _ fun _ =>
    plain_bind (plain_ofExcept _) fun _ => write_plain hquiet _ _ _ hstmt

theorem reveal_plain {publicId preimage txHash : String} (nowSec : ℤ)
    (hstmt : P (.updateSecret publicId (D.toLowerCase preimage) txHash)) :
    Plain .database P (SecretService.reveal D nowSec publicId preimage txHash) := by
  apply plain_bind (plain_ofExcept _)
  intro _
  apply plain_bind (plain_statement (hquiet (.byPublicId publicId) trivial))
  intro found
  cases found with
  | none => exact plain_throw _
  | some order =>
      apply plain_bind (plain_ofExcept _)
      intro known
      cases known with
      | false => exact plain_throw _
      | true =>
          rw [if_pos rfl]
          split
          · split
            · exact plain_pure _
            · exact plain_throw _
          · apply plain_bind
              (plain_statement (hquiet (.byPreimage (D.toLowerCase preimage)) trivial))
            intro existing
            split
            · exact plain_throw _
            · apply plain_bind (plain_ofExcept _)
              intro _
              apply recordSecret_plain hquiet
              rwa [D.toLowerCase_idem]

/-- The edit that settling an event may make to an order. -/
def settleEdit (D : Deployment) (ev : SettlementEvent) (order : OrderRow) : Edit :=
  match ev.kind with
  | .refunded => .status order.publicId .refunded
  | .claimed => .secret order.publicId (D.toLowerCase (ev.preimage.getD "")) ev.txHash

theorem settle_plain (nowSec : ℤ) (ev : SettlementEvent) (order : OrderRow)
    (hstmt : P (settleEdit D ev order).stmt) :
    Plain .database P (ChainEventProcessor.settle D nowSec ev order) := by
  unfold ChainEventProcessor.settle
  unfold settleEdit at hstmt
  cases hkind : ev.kind with
  | refunded =>
      rw [hkind] at hstmt
      dsimp only
      split
      · exact plain_pure _
      · exact plain_bind (statusRequest_plain hquiet _ _ _ hstmt) fun _ => plain_pure _
  | claimed =>
      rw [hkind] at hstmt
      dsimp only
      split
      · exact plain_pure _
      · rename_i preimage hpreimage
        have hgiven : ev.preimage = some preimage := (Option.filter_eq_some_iff.mp hpreimage).1
        rw [hgiven] at hstmt
        split
        · exact plain_pure _
        · exact plain_bind (reveal_plain hquiet nowSec hstmt) fun _ => plain_pure _

theorem findOrder_plain (ev : SettlementEvent) :
    Plain .database P (ChainEventProcessor.findOrder ev) := by
  apply plain_bind (plain_statement
    (hquiet (.bySrcOrderId (orderChain ev.chain) ev.onchainOrderId) trivial))
  intro found
  cases found with
  | some order => exact plain_pure _
  | none => exact plain_statement (hquiet _ trivial)

theorem processor_apply_plain (nowSec : ℤ) {ev : SettlementEvent}
    (hstmt : ∀ order, P (settleEdit D ev order).stmt) :
    Plain .database P (ChainEventProcessor.apply D nowSec ev) := by
  apply plain_bind (findOrder_plain hquiet ev)
  intro found
  cases found with
  | none => exact plain_pure _
  | some order =>
      refine plain_tryCatch (settle_plain hquiet nowSec ev order (hstmt order)) (fun e => ?_)
        (if_neg (by decide))
      split
      · exact plain_pure _
      · exact plain_throw _

theorem cursor_advance_plain {chain : ChainName} {networkId : String} {upTo : ℕ}
    {cursor : Option String} (hcursor : P (.upsertCursor chain ⟨networkId, upTo, cursor⟩)) :
    Plain .database P (ChainEventProcessor.advance chain networkId upTo cursor) := by
  refine plain_bind ?_ fun _ => plain_statement hcursor
  apply plain_bind (plain_statement (hquiet (.getCursor chain) trivial))
  intro found
  cases found with
  | none => exact plain_pure _
  | some saved =>
      dsimp only
      split
      · exact plain_throw _
      · exact plain_pure _

section Live

variable (hedit : ∀ edit : Edit, P edit.stmt)

include hedit

theorem applyLock_plain (writer : String) (event : BridgeOrderEvent) :
    Plain .database P (OrderEventApplier.applyLock D writer event) := by
  unfold OrderEventApplier.applyLock
  split
  · exact plain_pure _
  · rename_i hashlock _
    apply plain_bind (plain_statement (hquiet (.byHashlock hashlock) trivial))
    intro found
    cases found with
    | none => exact plain_pure _
    | some order =>
        dsimp only
        split
        · exact plain_pure _
        · exact plain_pure _
        · split
          · exact plain_bind (srcLock_plain hquiet writer (hedit (.srcLock _))) fun _ => plain_pure _
          · exact plain_bind (dstLock_plain hquiet writer (hedit (.dstLock _))) fun _ => plain_pure _

omit hedit in
theorem resolveOrder_plain (event : BridgeOrderEvent) :
    Plain .database P (OrderEventApplier.resolveOrder D event) := by
  have hfallback : Plain .database P (OrderEventApplier.resolveByHashlock D event) := by
    unfold OrderEventApplier.resolveByHashlock
    split
    · exact plain_pure _
    · exact plain_statement (hquiet _ trivial)
  unfold OrderEventApplier.resolveOrder
  split
  · exact hfallback
  · rename_i orderId _
    apply plain_bind (plain_statement (hquiet (.bySrcOrderId event.chain orderId) trivial))
    intro found
    cases found with
    | some order => exact plain_pure _
    | none =>
        apply plain_bind (plain_statement (hquiet (.byDstOrderId event.chain orderId) trivial))
        intro found
        cases found with
        | some order => exact plain_pure _
        | none => exact hfallback

theorem applyClaim_plain (writer : String) (event : BridgeOrderEvent) :
    Plain .database P (OrderEventApplier.applyClaim D writer event) := by
  apply plain_bind (resolveOrder_plain hquiet event)
  intro found
  cases found with
  | none => exact plain_pure _
  | some order =>
      have hclaim : Plain .database P
          (OrderService.recordClaim order.publicId event.txHash writer >>=
            fun _ => pure (BridgeEventOutcome.applied order.publicId)) :=
        plain_bind (statusRequest_plain hquiet _ _ _ (hedit (.status _ _))) fun _ => plain_pure _
      dsimp only
      split
      · exact hclaim
      · split
        · exact plain_bind (recordSecret_plain hquiet writer (hedit (.secret _ _ _))) fun _ => hclaim
        · exact hclaim

theorem applyRefund_plain (writer : String) (event : BridgeOrderEvent) :
    Plain .database P (OrderEventApplier.applyRefund D writer event) := by
  apply plain_bind (resolveOrder_plain hquiet event)
  intro found
  cases found with
  | none => exact plain_pure _
  | some order =>
      exact plain_bind (statusRequest_plain hquiet _ _ _ (hedit (.status _ _))) fun _ => plain_pure _

end Live

variable (hmark : ∀ event : ProcessedEvent, P (.insertProcessedEvent event))

include hmark

theorem process_plain (nowSec : ℤ) (networkId : String) {ev : SettlementEvent}
    (hstmt : ∀ order, P (settleEdit D ev order).stmt) :
    Plain .database P (ChainEventProcessor.process D nowSec networkId ev) := by
  apply plain_bind (plain_statement
    (hquiet (.hasProcessedEvent (ChainEventProcessor.eventKey D networkId ev)) trivial))
  intro seen
  cases seen with
  | true =>
      rw [if_pos rfl]
      exact plain_pure _
  | false =>
      rw [if_neg Bool.false_ne_true]
      apply plain_bind (processor_apply_plain hquiet nowSec hstmt)
      intro outcome
      exact plain_bind (plain_statement (hmark _)) fun _ => plain_pure _

theorem processAll_plain (nowSec : ℤ) (networkId : String) (events : List SettlementEvent)
    (counts : BatchCounts) (hstmt : ∀ ev order, P (settleEdit D ev order).stmt) :
    Plain .database P (ChainEventProcessor.processAll D nowSec networkId events counts) := by
  induction events generalizing counts with
  | nil => exact plain_pure _
  | cons ev events ih =>
      apply plain_bind (process_plain hquiet hmark nowSec networkId (hstmt ev))
      intro outcome
      exact ih _

theorem processBatch_plain (nowSec : ℤ) (networkId : String) (chain : ChainName)
    (events : List SettlementEvent) (upTo : ℕ) (cursor : Option String)
    (hstmt : ∀ ev order, P (settleEdit D ev order).stmt)
    (hcursor : P (.upsertCursor chain ⟨networkId, upTo, cursor⟩)) :
    Plain .database P
      (ChainEventProcessor.processBatch D nowSec networkId chain events upTo cursor) := by
  apply plain_bind (processAll_plain hquiet hmark nowSec networkId _ _ hstmt)
  intro counts
  exact plain_bind (cursor_advance_plain hquiet hcursor) fun _ => plain_pure _

end Plain

end OverSync.Coordinator
