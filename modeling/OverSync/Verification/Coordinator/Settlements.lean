import OverSync.Verification.Coordinator.History

/-! # How a settlement event is processed

While no statement fails, what the processor makes of an event is decided by the orders it finds:
nothing is written, or one `UPDATE` is made, or an error is raised. -/

namespace OverSync.Coordinator

open Library Library.Procedure

variable {D : Deployment} {clock : ℕ → ℕ} {db db' : Database} {orders : List StoredOrder}
  {α : Type}

/-! ## Verdicts -/

/-- What the processor makes of an event that it has not processed yet. -/
inductive Verdict where
  | skip
  | edit (edit : Edit)
  | stuck (e : CoordinatorError)

def findPreimage (orders : List StoredOrder) (preimage : String) : Option OrderRow :=
  findRow orders fun row => row.preimage = some preimage

def editVerdict (orders : List StoredOrder) (edit : Edit) : Verdict :=
  match findId orders edit.publicId with
  | none => .skip
  | some row => if IsEdge row.status edit.target then .edit edit else .skip

/-- A reveal of a preimage in canonical form. -/
def rowVerdict (D : Deployment) (nowSec : ℤ) (orders : List StoredOrder) (row : OrderRow)
    (publicId canonical txHash : String) : Verdict :=
  match matchesKnownOrders D row canonical with
  | .error e => if ChainEventProcessor.isPermanent e then .skip else .stuck e
  | .ok false => .skip
  | .ok true =>
    match row.preimage with
    | some stored => if stored = canonical then .skip else .stuck .secretConflict
    | none =>
      if (findPreimage orders canonical).any (·.publicId ≠ publicId) then .skip
      else
        match SecretService.assertInsideTimelockWindow row.srcTimelock row.dstTimelock nowSec with
        | .error e => .stuck e
        | .ok () => editVerdict orders (.secret publicId canonical txHash)

def revealVerdict (D : Deployment) (nowSec : ℤ) (orders : List StoredOrder)
    (publicId preimage txHash : String) : Verdict :=
  match assertValidSecretFormat preimage "preimage" with
  | .error _ => .skip
  | .ok () =>
    match findId orders publicId with
    | none => .stuck (.error ("unknown order " ++ publicId))
    | some row => rowVerdict D nowSec orders row publicId (D.toLowerCase preimage) txHash

def settleVerdict (D : Deployment) (nowSec : ℤ) (orders : List StoredOrder) (ev : SettlementEvent)
    (order : OrderRow) : Verdict :=
  match ev.kind with
  | .refunded =>
    if order.status = .refunded then .skip else editVerdict orders (.status order.publicId .refunded)
  | .claimed =>
    match truthy ev.preimage with
    | none => .skip
    | some preimage =>
      if order.secretRevealedTx = some ev.txHash ∧ truthy order.preimage ≠ none then .skip
      else revealVerdict D nowSec orders order.publicId preimage ev.txHash

def verdict (D : Deployment) (nowSec : ℤ) (orders : List StoredOrder) (ev : SettlementEvent) :
    Verdict :=
  match findSettled orders ev with
  | none => .skip
  | some order => settleVerdict D nowSec orders ev order

/-! ## What follows a verdict -/

/-- Everything but the order events and the count of statements is as before. -/
structure Kept (db db' : Database) : Prop where
  orders : db'.orders = db.orders
  processed : db'.processed = db.processed
  cursors : db'.cursors = db.cursors
  lastOrderId : db'.lastOrderId = db.lastOrderId

/-- As before but for one edit of the orders. -/
structure Changed (edit : Edit) (db db' : Database) : Prop where
  orders : ∃ now, db'.orders = edit.apply now db.orders
  processed : db'.processed = db.processed
  cursors : db'.cursors = db.cursors
  lastOrderId : db'.lastOrderId = db.lastOrderId

inductive Settled (db : Database) : Verdict → Except CoordinatorError α → Database → Prop where
  | skip {r : Except CoordinatorError α} {db' : Database} :
      (∀ e, r = .error e → ChainEventProcessor.isPermanent e = true) → Kept db db' →
      Settled db .skip r db'
  | edit {edit : Edit} {a : α} {db' : Database} : Changed edit db db' →
      Settled db (.edit edit) (.ok a) db'
  | stuck {e : CoordinatorError} {db' : Database} : ChainEventProcessor.isPermanent e = false →
      Kept db db' → Settled db (.stuck e) (.error e) db'

theorem Settled.permanent {e : CoordinatorError} (h : ChainEventProcessor.isPermanent e = true)
    (hkept : Kept db db') : Settled db .skip (.error e : Except CoordinatorError α) db' :=
  .skip (fun _ heq => by cases heq; exact h) hkept

theorem Settled.quiet (a : α) (hkept : Kept db db') :
    Settled db .skip (.ok a : Except CoordinatorError α) db' :=
  .skip (fun _ heq => by cases heq) hkept

theorem Settled.map {β : Type} {v : Verdict} {r : Except CoordinatorError α} (f : α → β)
    (h : Settled db v r db') : Settled db v (r.map f) db' := by
  cases h with
  | skip hpermanent hkept =>
      cases r with
      | ok a => exact .quiet _ hkept
      | error e => exact .permanent (hpermanent e rfl) hkept
  | edit hchanged => exact .edit hchanged
  | stuck hpermanent hkept => exact .stuck hpermanent hkept

theorem Settled.of_reads {v : Verdict} {r : Except CoordinatorError α} (reads : ℕ)
    (h : Settled { db with executed := db.executed + reads } v r db') : Settled db v r db' := by
  cases h with
  | skip hpermanent hkept =>
      exact .skip hpermanent ⟨hkept.orders, hkept.processed, hkept.cursors, hkept.lastOrderId⟩
  | edit hchanged =>
      exact .edit ⟨hchanged.orders, hchanged.processed, hchanged.cursors, hchanged.lastOrderId⟩
  | stuck hpermanent hkept =>
      exact .stuck hpermanent ⟨hkept.orders, hkept.processed, hkept.cursors, hkept.lastOrderId⟩

theorem run_map {β : Type} {p : Task α} (f : α → β) :
    run (exec (.calm clock)) (p >>= fun a => pure (f a)) db =
      ((run (exec (.calm clock)) p db).1.map f, (run (exec (.calm clock)) p db).2) := by
  rw [run_bind]
  cases run (exec (.calm clock)) p db with
  | mk r u => cases r <;> rfl

/-! ## Runs -/

theorem advanced_settled (request : OrderService.AdvanceRequest) (edit : Edit)
    (hid : edit.publicId = request.publicId)
    (htarget : edit.target = actionTargetStatus request.action) :
    Settled db (editVerdict db.orders edit)
      (advanced clock db request edit fun _ => .ok ()).1
      (advanced clock db request edit fun _ => .ok ()).2 := by
  unfold advanced editVerdict
  rw [hid, htarget]
  cases findId db.orders request.publicId with
  | none => exact .permanent rfl ⟨rfl, rfl, rfl, rfl⟩
  | some order =>
      dsimp only
      by_cases hsame : order.status = actionTargetStatus request.action
      · have hedge : ¬ IsEdge order.status (actionTargetStatus request.action) := by
          rw [hsame]
          exact not_isEdge_self _
        rw [if_pos hsame, if_neg hedge]
        split
        · exact .quiet _ ⟨rfl, rfl, rfl, rfl⟩
        · exact .permanent rfl ⟨rfl, rfl, rfl, rfl⟩
      · rw [if_neg hsame]
        cases heval : evaluateTransition order.status (actionTargetStatus request.action)
            request.action with
        | some refusal =>
            rw [if_neg (evaluateTransition_some heval)]
            exact .permanent rfl ⟨rfl, rfl, rfl, rfl⟩
        | none =>
            rw [if_pos (evaluateTransition_eq_none.mp heval)]
            exact .edit ⟨⟨_, rfl⟩, rfl, rfl, rfl⟩

theorem recordSecret_settled (clock : ℕ → ℕ) (db : Database)
    (publicId canonical txHash writer : String)
    (hcanonical : D.toLowerCase canonical = canonical) :
    Settled db (editVerdict db.orders (.secret publicId canonical txHash))
      (run (exec (.calm clock)) (OrderService.recordSecret D publicId canonical txHash writer) db).1
      (run (exec (.calm clock)) (OrderService.recordSecret D publicId canonical txHash writer) db).2 := by
  rw [run_recordSecret, hcanonical]
  exact advanced_settled (OrderService.secretRequest publicId canonical txHash writer) _ rfl rfl

theorem recordRefund_settled (publicId txHash writer : String) :
    Settled db (editVerdict db.orders (.status publicId .refunded))
      (run (exec (.calm clock)) (OrderService.recordRefund publicId txHash writer) db).1
      (run (exec (.calm clock)) (OrderService.recordRefund publicId txHash writer) db).2 := by
  rw [run_recordRefund]
  exact advanced_settled (OrderService.statusRequest publicId .refund .refunded _ writer) _ rfl rfl

theorem assertValidSecretFormat_permanent {value : String} {e : CoordinatorError}
    (h : assertValidSecretFormat value "preimage" = .error e) :
    ChainEventProcessor.isPermanent e = true := by
  unfold assertValidSecretFormat at h
  split at h
  · split at h
    · cases h
      decide
    · split at h
      · cases h
        decide
      · split at h
        · cases h
          decide
        · cases h
  · cases h
    decide

theorem window_stuck {srcTimelock dstTimelock : Option ℤ} {nowSec : ℤ} {e : CoordinatorError}
    (h : SecretService.assertInsideTimelockWindow srcTimelock dstTimelock nowSec = .error e) :
    ChainEventProcessor.isPermanent e = false := by
  unfold SecretService.assertInsideTimelockWindow at h
  split at h
  · cases h
  · cases h
    decide
  · cases h
    decide

theorem unknown_stuck (publicId : String) :
    ChainEventProcessor.isPermanent (.error ("unknown order " ++ publicId)) = false := by
  have hmessage : ChainEventProcessor.isPreimageMessage ("unknown order " ++ publicId) = false := by
    rw [ChainEventProcessor.isPreimageMessage, String.toList_append]
    rfl
  exact hmessage

/-- A reveal past the hash check. -/
theorem known_settled (nowSec : ℤ) (row : OrderRow) (publicId preimage txHash : String) :
    let task : Task Unit :=
      match row.preimage with
      | some stored =>
        if stored = D.toLowerCase preimage then pure () else throw .secretConflict
      | none => do
        let existing ← OrdersRepository.findByPreimage (D.toLowerCase preimage)
        if existing.any (·.publicId ≠ publicId) then
          throw (.error "preimage already used in another order")
        else do
          Task.ofExcept
            (SecretService.assertInsideTimelockWindow row.srcTimelock row.dstTimelock nowSec)
          OrderService.recordSecret D publicId (D.toLowerCase preimage) txHash orderServiceWriter
    let v : Verdict :=
      match row.preimage with
      | some stored => if stored = D.toLowerCase preimage then .skip else .stuck .secretConflict
      | none =>
        if (findPreimage db.orders (D.toLowerCase preimage)).any (·.publicId ≠ publicId) then .skip
        else
          match SecretService.assertInsideTimelockWindow row.srcTimelock row.dstTimelock nowSec with
          | .error e => .stuck e
          | .ok () => editVerdict db.orders (.secret publicId (D.toLowerCase preimage) txHash)
    Settled db v (run (exec (.calm clock)) task db.tick).1 (run (exec (.calm clock)) task db.tick).2 := by
  cases row.preimage with
  | some stored =>
      dsimp only
      split
      · exact .quiet _ ⟨rfl, rfl, rfl, rfl⟩
      · exact .stuck (by decide) ⟨rfl, rfl, rfl, rfl⟩
  | none =>
      dsimp only
      rw [run_bind, run_findByPreimage]
      dsimp only
      rw [show db.tick.byPreimage (D.toLowerCase preimage) =
        findPreimage db.orders (D.toLowerCase preimage) from rfl]
      split
      · exact .permanent (by decide) ⟨rfl, rfl, rfl, rfl⟩
      · rw [run_bind, run_ofExcept]
        cases hwindow : SecretService.assertInsideTimelockWindow row.srcTimelock row.dstTimelock
            nowSec with
        | error e => exact .stuck (window_stuck hwindow) ⟨rfl, rfl, rfl, rfl⟩
        | ok _ =>
            have hsecret := recordSecret_settled clock db.tick.tick publicId
              (D.toLowerCase preimage) txHash orderServiceWriter (D.toLowerCase_idem preimage)
            exact Settled.of_reads 2 hsecret

theorem reveal_settled (nowSec : ℤ) (publicId preimage txHash : String) :
    Settled db (revealVerdict D nowSec db.orders publicId preimage txHash)
      (run (exec (.calm clock)) (SecretService.reveal D nowSec publicId preimage txHash) db).1
      (run (exec (.calm clock)) (SecretService.reveal D nowSec publicId preimage txHash) db).2 := by
  rw [SecretService.reveal, run_bind, run_ofExcept]
  unfold revealVerdict
  cases hformat : assertValidSecretFormat preimage "preimage" with
  | error e => exact .permanent (assertValidSecretFormat_permanent hformat) ⟨rfl, rfl, rfl, rfl⟩
  | ok _ =>
      dsimp only
      rw [run_bind, run_findByPublicId]
      cases hfind : findId db.orders publicId with
      | none => exact .stuck (unknown_stuck publicId) ⟨rfl, rfl, rfl, rfl⟩
      | some row =>
          dsimp only
          rw [run_bind, run_ofExcept]
          unfold rowVerdict
          cases hmatch : matchesKnownOrders D row (D.toLowerCase preimage) with
          | error e =>
              dsimp only
              split
              · rename_i hpermanent
                exact .permanent hpermanent ⟨rfl, rfl, rfl, rfl⟩
              · rename_i hstuck
                exact .stuck (by simpa using hstuck) ⟨rfl, rfl, rfl, rfl⟩
          | ok known =>
              cases known with
              | false => exact .permanent (by decide) ⟨rfl, rfl, rfl, rfl⟩
              | true =>
                  dsimp only
                  simp only [if_true]
                  exact known_settled nowSec row publicId preimage txHash

theorem settle_settled (clock : ℕ → ℕ) (db : Database) (nowSec : ℤ) (ev : SettlementEvent)
    (order : OrderRow) :
    Settled db (settleVerdict D nowSec db.orders ev order)
      (run (exec (.calm clock)) (ChainEventProcessor.settle D nowSec ev order) db).1
      (run (exec (.calm clock)) (ChainEventProcessor.settle D nowSec ev order) db).2 := by
  unfold ChainEventProcessor.settle settleVerdict
  cases ev.kind with
  | refunded =>
      dsimp only
      split
      · exact .quiet _ ⟨rfl, rfl, rfl, rfl⟩
      · rw [run_map]
        exact (recordRefund_settled _ _ _).map _
  | claimed =>
      dsimp only
      cases truthy ev.preimage with
      | none => exact .quiet _ ⟨rfl, rfl, rfl, rfl⟩
      | some preimage =>
          dsimp only
          split
          · exact .quiet _ ⟨rfl, rfl, rfl, rfl⟩
          · rw [run_map]
            exact (reveal_settled _ _ _ _).map _

theorem run_findOrder (clock : ℕ → ℕ) (ev : SettlementEvent) (db : Database) :
    ∃ reads, run (exec (.calm clock)) (ChainEventProcessor.findOrder ev) db =
      (.ok (findSettled db.orders ev), { db with executed := db.executed + reads }) := by
  rw [ChainEventProcessor.findOrder, run_bind, run_findBySrcOrderId, findSettled]
  cases hsrc : db.bySrcOrderId (orderChain ev.chain) ev.onchainOrderId with
  | some order =>
      refine ⟨1, ?_⟩
      rw [show findSrc db.orders (orderChain ev.chain) ev.onchainOrderId = some order from hsrc]
      rfl
  | none =>
      refine ⟨2, ?_⟩
      rw [show findSrc db.orders (orderChain ev.chain) ev.onchainOrderId = none from hsrc]
      dsimp only
      rw [run_findByDstOrderId]
      rfl

/-- Where an event is applied, permanent errors are dropped. -/
theorem processor_apply_settled (clock : ℕ → ℕ) (db : Database) (nowSec : ℤ)
    (ev : SettlementEvent) :
    Settled db (verdict D nowSec db.orders ev)
        (run (exec (.calm clock)) (ChainEventProcessor.apply D nowSec ev) db).1
        (run (exec (.calm clock)) (ChainEventProcessor.apply D nowSec ev) db).2 ∧
      ∀ e, (run (exec (.calm clock)) (ChainEventProcessor.apply D nowSec ev) db).1 = .error e →
        ChainEventProcessor.isPermanent e = false := by
  obtain ⟨reads, hfound⟩ := run_findOrder clock ev db
  rw [ChainEventProcessor.apply, run_bind, hfound]
  unfold verdict
  cases findSettled db.orders ev with
  | none => exact ⟨.quiet _ ⟨rfl, rfl, rfl, rfl⟩, fun _ h => by cases h⟩
  | some order =>
      dsimp only
      rw [run_tryCatch]
      have hsettle := settle_settled (D := D) clock
        { db with executed := db.executed + reads } nowSec ev order
      have hsettled : Settled db (settleVerdict D nowSec db.orders ev order) _ _ :=
        hsettle.of_reads reads
      cases hrun : run (exec (.calm clock)) (ChainEventProcessor.settle D nowSec ev order)
          { db with executed := db.executed + reads } with
      | mk r u =>
          rw [hrun] at hsettled
          cases r with
          | ok outcome => exact ⟨hsettled, fun _ h => by cases h⟩
          | error e =>
              dsimp only
              generalize settleVerdict D nowSec db.orders ev order = v at hsettled
              cases hsettled with
              | skip hpermanent hkept =>
                  rw [if_pos (hpermanent e rfl)]
                  exact ⟨.quiet _ hkept, fun _ h => by cases h⟩
              | stuck hstuck hkept =>
                  rw [if_neg (by rw [hstuck]; decide)]
                  refine ⟨.stuck hstuck hkept, fun _ h => ?_⟩
                  cases h
                  exact hstuck

/-! ## The processor -/

def Database.seen (db : Database) (eventKey : String) : Bool :=
  db.processed.any (·.eventKey = eventKey)

/-- The row that marks an event processed. -/
def processedRow (D : Deployment) (networkId : String) (ev : SettlementEvent) : ProcessedEvent where
  eventKey := ChainEventProcessor.eventKey D networkId ev
  chain := ev.chain
  kind := ev.kind.text
  position := ev.position

/-- The verdict has been carried out. -/
inductive Carried (db : Database) : Verdict → List StoredOrder → Prop where
  | skip : Carried db .skip db.orders
  | edit (edit : Edit) (now : ℕ) : Carried db (.edit edit) (edit.apply now db.orders)

/-- What processing an event comes to. -/
inductive Processed (D : Deployment) (nowSec : ℤ) (networkId : String) (ev : SettlementEvent)
    (db : Database) : Except CoordinatorError ProcessOutcome → Database → Prop where
  | duplicate {db' : Database} :
      db.seen (ChainEventProcessor.eventKey D networkId ev) = true → Kept db db' →
      Processed D nowSec networkId ev db (.ok .duplicate) db'
  | done {outcome : ProcessOutcome} {db' : Database} :
      db.seen (ChainEventProcessor.eventKey D networkId ev) = false →
      Carried db (verdict D nowSec db.orders ev) db'.orders →
      db'.processed = db.processed ++ [processedRow D networkId ev] → db'.cursors = db.cursors →
      db'.lastOrderId = db.lastOrderId → Processed D nowSec networkId ev db (.ok outcome) db'
  | stuck {e : CoordinatorError} {db' : Database} :
      db.seen (ChainEventProcessor.eventKey D networkId ev) = false →
      verdict D nowSec db.orders ev = .stuck e → ChainEventProcessor.isPermanent e = false →
      Kept db db' → Processed D nowSec networkId ev db (.error e) db'

/-- Marking an event that is not marked yet. -/
theorem run_markEventProcessed {event : ProcessedEvent} {α : Type} (a : α)
    (hfresh : db.seen event.eventKey = false) :
    run (exec (.calm clock)) (do
        OrdersRepository.markEventProcessed event
        pure a) db =
      (.ok a, { db with processed := db.processed ++ [event], executed := db.executed + 1 }) := by
  have hfresh' : ¬ db.processed.any (·.eventKey = event.eventKey) = true := by
    rw [show db.processed.any (·.eventKey = event.eventKey) = false from hfresh]
    decide
  rw [run_bind, OrdersRepository.markEventProcessed, query, run_statement, exec_calm, perform,
    if_neg hfresh']
  rfl

theorem process_processed (clock : ℕ → ℕ) (nowSec : ℤ) (networkId : String) (ev : SettlementEvent)
    (db : Database) :
    Processed D nowSec networkId ev db
      (run (exec (.calm clock)) (ChainEventProcessor.process D nowSec networkId ev) db).1
      (run (exec (.calm clock)) (ChainEventProcessor.process D nowSec networkId ev) db).2 := by
  rw [ChainEventProcessor.process, run_bind, run_hasProcessedEvent]
  dsimp only
  rw [show (db.processed.any fun event =>
    event.eventKey = ChainEventProcessor.eventKey D networkId ev) = db.seen _ from rfl]
  cases hseen : db.seen (ChainEventProcessor.eventKey D networkId ev) with
  | true =>
      rw [if_pos rfl]
      exact .duplicate hseen ⟨rfl, rfl, rfl, rfl⟩
  | false =>
      rw [if_neg Bool.false_ne_true, run_bind]
      obtain ⟨hsettled, hcaught⟩ := processor_apply_settled (D := D) clock db.tick
        nowSec ev
      rw [tick_orders] at hsettled
      cases hrun : run (exec (.calm clock)) (ChainEventProcessor.apply D nowSec ev) db.tick with
      | mk r u =>
          rw [hrun] at hsettled hcaught
          generalize hverdict : verdict D nowSec db.orders ev = v at hsettled
          cases hsettled with
          | skip hpermanent hkept =>
              cases r with
              | error e =>
                  have hnot := hcaught e rfl
                  rw [hpermanent e rfl] at hnot
                  cases hnot
              | ok outcome =>
                  dsimp only
                  have hfresh : u.seen (ChainEventProcessor.eventKey D networkId ev) = false := by
                    rw [Database.seen, hkept.processed]
                    exact hseen
                  rw [run_markEventProcessed outcome hfresh]
                  refine .done hseen ?_ ?_ hkept.cursors hkept.lastOrderId
                  · rw [hverdict, show _ = db.orders from hkept.orders]
                    exact .skip
                  · rw [hkept.processed]
                    rfl
          | @edit edit outcome _ hchanged =>
              dsimp only
              have hfresh : u.seen (ChainEventProcessor.eventKey D networkId ev) = false := by
                rw [Database.seen, hchanged.processed]
                exact hseen
              rw [run_markEventProcessed outcome hfresh]
              obtain ⟨now, horders⟩ := hchanged.orders
              refine .done hseen ?_ ?_ hchanged.cursors hchanged.lastOrderId
              · rw [hverdict, show _ = edit.apply now db.orders from horders]
                exact .edit edit now
              · rw [hchanged.processed]
                rfl
          | stuck hstuck hkept =>
              exact .stuck hseen hverdict hstuck
                ⟨hkept.orders, hkept.processed, hkept.cursors, hkept.lastOrderId⟩

end OverSync.Coordinator
