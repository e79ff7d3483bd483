import OverSync.Verification.Coordinator.Batches
import OverSync.Verification.Coordinator.Statements

/-! # Crashes while settlement events are processed

An event is applied, then marked, then the cursor moves. Wherever the processor is cut off, a
second delivery of the batch ends where one undisturbed delivery ends. -/

namespace OverSync.Coordinator

open Library Library.Procedure

variable {D : Deployment} {clock clock' : ℕ → ℕ} {nowSec : ℤ} {networkId : String}
  {db u v w : Database} {orders orders' : List StoredOrder} {ev : SettlementEvent} {α : Type}

/-! ## Databases that differ in times and order events -/

/-- The rows of the orders, the processed events and the cursors are the same. -/
structure Alike (u v : Database) : Prop where
  rows : rowsOf u.orders = rowsOf v.orders
  processed : u.processed = v.processed
  cursors : u.cursors = v.cursors
  lastOrderId : u.lastOrderId = v.lastOrderId

theorem Alike.refl (u : Database) : Alike u u := ⟨rfl, rfl, rfl, rfl⟩

theorem Alike.symm (h : Alike u v) : Alike v u :=
  ⟨h.rows.symm, h.processed.symm, h.cursors.symm, h.lastOrderId.symm⟩

theorem Alike.trans (h : Alike u v) (h' : Alike v w) : Alike u w :=
  ⟨h.rows.trans h'.rows, h.processed.trans h'.processed, h.cursors.trans h'.cursors,
    h.lastOrderId.trans h'.lastOrderId⟩

theorem Kept.alike (h : Kept u v) : Alike u v :=
  ⟨by rw [h.orders], h.processed.symm, h.cursors.symm, h.lastOrderId.symm⟩

/-- Tables but the orders and their events are as before. -/
structure SameMarks (u v : Database) : Prop where
  processed : v.processed = u.processed
  cursors : v.cursors = u.cursors
  lastOrderId : v.lastOrderId = u.lastOrderId

theorem SameMarks.trans (h : SameMarks u v) (h' : SameMarks v w) : SameMarks u w :=
  ⟨h'.processed.trans h.processed, h'.cursors.trans h.cursors, h'.lastOrderId.trans h.lastOrderId⟩

theorem Kept.marks (h : Kept u v) : SameMarks u v :=
  ⟨h.processed, h.cursors, h.lastOrderId⟩

theorem Changed.marks {edit : Edit} (h : Changed edit u v) : SameMarks u v :=
  ⟨h.processed, h.cursors, h.lastOrderId⟩

theorem SameMarks.edit (h : SameMarks u v) (edit : Edit) (cond : Conditions) :
    SameMarks u (exec cond edit.stmt v).2 := by
  unfold exec
  split
  · exact ⟨h.processed, h.cursors, h.lastOrderId⟩
  · simp only [perform_edit]
    exact ⟨h.processed, h.cursors, h.lastOrderId⟩

theorem findRow_congr (h : rowsOf orders = rowsOf orders') (p : OrderRow → Bool) :
    findRow orders p = findRow orders' p := by
  rw [findRow_rows, findRow_rows, h]

/-- The statements answer alike whatever the clocks read. -/
theorem alike_respects (clock clock' : ℕ → ℕ) :
    Respects (exec (.calm clock)) (exec (.calm clock')) Alike := by
  intro stmt u v h
  rw [exec_calm, exec_calm]
  have hfind (p : OrderRow → Bool) : u.find p = v.find p := findRow_congr h.rows p
  have hedit (edit : Edit) (now now' : ℕ) :
      Alike { u with orders := edit.apply now u.orders } { v with orders := edit.apply now' v.orders } :=
    ⟨by rw [Edit.rowsOf_apply, Edit.rowsOf_apply, h.rows], h.processed, h.cursors, h.lastOrderId⟩
  have hkept : Alike u.tick v.tick := ⟨h.rows, h.processed, h.cursors, h.lastOrderId⟩
  cases stmt with
  | insertOrder publicId input =>
      have hid : u.byPublicId publicId = v.byPublicId publicId := hfind _
      simp only [perform, hid]
      split
      · exact ⟨rfl, hkept⟩
      · refine ⟨rfl, ?_, h.processed, h.cursors, by simp [h.lastOrderId]⟩
        have hrows := h.rows
        simp only [rowsOf, tick_orders, List.map_append, List.map_singleton] at hrows ⊢
        rw [hrows, h.lastOrderId]
  | byPublicId publicId => exact ⟨congrArg some (hfind _), hkept⟩
  | byHashlock hashlock => exact ⟨congrArg some (hfind _), hkept⟩
  | bySrcOrderId chain orderId => exact ⟨congrArg some (hfind _), hkept⟩
  | byDstOrderId chain orderId => exact ⟨congrArg some (hfind _), hkept⟩
  | byPreimage preimage => exact ⟨congrArg some (hfind _), hkept⟩
  | insertOrderEvent orderId payload =>
      exact ⟨rfl, h.rows, h.processed, h.cursors, h.lastOrderId⟩
  | updateStatus publicId value =>
      obtain ⟨hrows, hp, hc, hl⟩ := hedit (.status publicId value) (clock u.executed) (clock' v.executed)
      exact ⟨rfl, hrows, hp, hc, hl⟩
  | updateSrcLock lock =>
      obtain ⟨hrows, hp, hc, hl⟩ := hedit (.srcLock lock) (clock u.executed) (clock' v.executed)
      exact ⟨rfl, hrows, hp, hc, hl⟩
  | updateDstLock lock =>
      obtain ⟨hrows, hp, hc, hl⟩ := hedit (.dstLock lock) (clock u.executed) (clock' v.executed)
      exact ⟨rfl, hrows, hp, hc, hl⟩
  | updateSecret publicId preimage txHash =>
      obtain ⟨hrows, hp, hc, hl⟩ :=
        hedit (.secret publicId preimage txHash) (clock u.executed) (clock' v.executed)
      exact ⟨rfl, hrows, hp, hc, hl⟩
  | getCursor chain => exact ⟨by simp only [perform, h.cursors], hkept⟩
  | upsertCursor chain cursor =>
      refine ⟨rfl, h.rows, h.processed, ?_, h.lastOrderId⟩
      simp only [perform, tick_cursors, h.cursors]
  | insertProcessedEvent event =>
      simp only [perform, h.processed]
      split
      · exact ⟨trivial, hkept⟩
      · exact ⟨trivial, h.rows, rfl, h.cursors, h.lastOrderId⟩
  | hasProcessedEvent eventKey => exact ⟨by simp only [perform, h.processed], hkept⟩

/-! ## Verdicts -/

theorem verdict_congr (h : rowsOf orders = rowsOf orders') :
    verdict D nowSec orders ev = verdict D nowSec orders' ev := by
  have hid (publicId : String) : findId orders publicId = findId orders' publicId :=
    findRow_congr h _
  have hpreimage (preimage : String) : findPreimage orders preimage = findPreimage orders' preimage :=
    findRow_congr h _
  have hsettled : findSettled orders ev = findSettled orders' ev := by
    rw [findSettled, findSettled, findSrc, findSrc, findDst, findDst, findRow_congr h,
      findRow_congr h]
  have hedit (edit : Edit) : editVerdict orders edit = editVerdict orders' edit := by
    rw [editVerdict, editVerdict, hid]
  simp only [verdict, settleVerdict, revealVerdict, rowVerdict, hsettled, hid, hpreimage, hedit]

theorem editVerdict_edit {edit edit' : Edit} (h : editVerdict orders edit = .edit edit') :
    edit' = edit ∧ ∃ row, findId orders edit.publicId = some row ∧ IsEdge row.status edit.target := by
  unfold editVerdict at h
  cases hfind : findId orders edit.publicId with
  | none =>
      rw [hfind] at h
      cases h
  | some row =>
      rw [hfind] at h
      dsimp only at h
      split at h
      · rename_i hedge
        cases h
        exact ⟨rfl, row, rfl, hedge⟩
      · cases h

/-- What a reveal that is written has been checked against. -/
theorem revealVerdict_edit {publicId preimage txHash : String} {edit : Edit}
    (h : revealVerdict D nowSec orders publicId preimage txHash = .edit edit) :
    edit = .secret publicId (D.toLowerCase preimage) txHash ∧
      assertValidSecretFormat preimage "preimage" = .ok () ∧
      ∃ row, findId orders publicId = some row ∧ IsEdge row.status .secretRevealed ∧
        matchesKnownOrders D row (D.toLowerCase preimage) = .ok true ∧ row.preimage = none := by
  unfold revealVerdict at h
  split at h
  · cases h
  · rename_i hformat
    split at h
    · cases h
    · rename_i row hfind
      unfold rowVerdict at h
      split at h
      · split at h <;> cases h
      · cases h
      · rename_i hmatch
        split at h
        · split at h <;> cases h
        · rename_i hnone
          split at h
          · cases h
          · split at h
            · cases h
            · obtain ⟨rfl, row', hfind', hedge⟩ := editVerdict_edit h
              rw [show findId orders publicId = some row' from hfind'] at hfind
              obtain rfl := Option.some.inj hfind
              exact ⟨rfl, hformat, row', hfind', hedge, hmatch, hnone⟩

/-- An edit of a secret or a status leaves the on-chain ids alone. -/
theorem findSettled_apply {edit : Edit}
    (hedit : (∃ publicId preimage txHash, edit = .secret publicId preimage txHash) ∨
      ∃ publicId value, edit = .status publicId value) (now : ℕ) :
    findSettled (edit.apply now orders) ev = (findSettled orders ev).map edit.onRow := by
  have hsrc : findSrc (edit.apply now orders) (orderChain ev.chain) ev.onchainOrderId =
      (findSrc orders (orderChain ev.chain) ev.onchainOrderId).map edit.onRow := by
    refine findRow_apply (fun row => ?_) now orders
    rcases hedit with ⟨_, _, _, rfl⟩ | ⟨_, _, rfl⟩ <;> rfl
  have hdst : findDst (edit.apply now orders) (orderChain ev.chain) ev.onchainOrderId =
      (findDst orders (orderChain ev.chain) ev.onchainOrderId).map edit.onRow := by
    refine findRow_apply (fun row => ?_) now orders
    rcases hedit with ⟨_, _, _, rfl⟩ | ⟨_, _, rfl⟩ <;> rfl
  rw [findSettled, findSettled, hsrc, hdst]
  simp only [Option.orElse_eq_orElse, Option.orElse_eq_or, Option.map_or]

/-- Once the edit of an event has been made, nothing is left to do. -/
theorem verdict_again {edit : Edit} (h : verdict D nowSec orders ev = .edit edit) (now : ℕ) :
    verdict D nowSec (edit.apply now orders) ev = .skip := by
  unfold verdict at h
  cases hfind : findSettled orders ev with
  | none =>
      rw [hfind] at h
      cases h
  | some order =>
      rw [hfind] at h
      dsimp only at h
      unfold settleVerdict at h
      cases hkind : ev.kind with
      | refunded =>
          simp only [hkind] at h
          split at h
          · cases h
          · obtain ⟨rfl, _⟩ := editVerdict_edit h
            have hself : (Edit.status order.publicId .refunded).onRow order =
                order.withStatus .refunded := if_pos rfl
            rw [verdict, findSettled_apply (.inr ⟨_, _, rfl⟩), hfind, Option.map_some, hself]
            simp only [settleVerdict, hkind]
            exact if_pos rfl
      | claimed =>
          simp only [hkind] at h
          cases hpreimage : truthy ev.preimage with
          | none =>
              rw [hpreimage] at h
              cases h
          | some preimage =>
              rw [hpreimage] at h
              dsimp only at h
              split at h
              · cases h
              · obtain ⟨rfl, hformat, row, hrow, _, hmatch, _⟩ := revealVerdict_edit h
                have hself (row : OrderRow) (hid : row.publicId = order.publicId) :
                    (Edit.secret order.publicId (D.toLowerCase preimage) ev.txHash).onRow row =
                      row.withSecret (D.toLowerCase preimage) ev.txHash := if_pos hid
                rw [verdict, findSettled_apply (.inl ⟨_, _, _, rfl⟩), hfind, Option.map_some,
                  hself order rfl]
                simp only [settleVerdict, hkind, hpreimage]
                split
                · rfl
                · rw [revealVerdict, hformat]
                  dsimp only
                  rw [show (order.withSecret (D.toLowerCase preimage) ev.txHash).publicId =
                    order.publicId from rfl, findId_apply, hrow, Option.map_some,
                    hself row (findId_publicId hrow)]
                  dsimp only
                  rw [rowVerdict, show matchesKnownOrders D
                    (row.withSecret (D.toLowerCase preimage) ev.txHash) (D.toLowerCase preimage) =
                      .ok true from hmatch]
                  exact if_pos rfl

/-! ## Cuts -/

/-- As before but for the rows, which are as after one edit. -/
structure Applied (edit : Edit) (db u : Database) : Prop where
  rows : rowsOf u.orders = (rowsOf db.orders).map edit.onRow
  processed : u.processed = db.processed
  cursors : u.cursors = db.cursors
  lastOrderId : u.lastOrderId = db.lastOrderId

theorem Changed.applied {edit : Edit} (h : Changed edit db u) : Applied edit db u := by
  obtain ⟨now, horders⟩ := h.orders
  refine ⟨?_, h.processed, h.cursors, h.lastOrderId⟩
  rw [horders, Edit.rowsOf_apply]

theorem Applied.alike {edit : Edit} (h : Applied edit db u) (h' : Applied edit db v) : Alike u v :=
  ⟨h.rows.trans h'.rows.symm, h.processed.trans h'.processed.symm,
    h.cursors.trans h'.cursors.symm, h.lastOrderId.trans h'.lastOrderId.symm⟩

theorem Applied.of_alike {edit : Edit} (h : Applied edit db u) (h' : Alike u v) :
    Applied edit db v :=
  ⟨h'.rows.symm.trans h.rows, h'.processed.symm.trans h.processed,
    h'.cursors.symm.trans h.cursors, h'.lastOrderId.symm.trans h.lastOrderId⟩

theorem Alike.applied {edit : Edit} (h : Alike db u) (h' : Applied edit u v) : Applied edit db v :=
  ⟨by rw [h'.rows, h.rows], h'.processed.trans h.processed.symm, h'.cursors.trans h.cursors.symm,
    h'.lastOrderId.trans h.lastOrderId.symm⟩

theorem exec_quiet {stmt : Statement} (h : stmt.Quiet) (cond : Conditions) (db : Database) :
    Kept db (exec cond stmt db).2 := by
  unfold exec
  split
  · exact ⟨rfl, rfl, rfl, rfl⟩
  · cases stmt <;> first | exact ⟨rfl, rfl, rfl, rfl⟩ | exact h.elim

theorem exec_edit_changed (clock : ℕ → ℕ) (edit : Edit) (db : Database) :
    Changed edit db (exec (.calm clock) edit.stmt db).2 := by
  rw [exec_calm]
  dsimp only
  rw [perform_edit]
  exact ⟨⟨_, rfl⟩, rfl, rfl, rfl⟩

/-- The edit of a settlement makes no difference the second time. -/
theorem settleEdit_onRow (order row : OrderRow) :
    (settleEdit D ev order).onRow ((settleEdit D ev order).onRow row) =
      (settleEdit D ev order).onRow row := by
  have hset : ∀ row, (settleEdit D ev order).set ((settleEdit D ev order).set row) =
      (settleEdit D ev order).set row := by
    intro row
    unfold settleEdit
    cases ev.kind <;> rfl
  by_cases hid : row.publicId = (settleEdit D ev order).publicId
  · have hself : (settleEdit D ev order).onRow row = (settleEdit D ev order).set row := if_pos hid
    rw [hself, Edit.onRow, if_pos (by rw [Edit.set_publicId, hid]), hset]
  · have hother : (settleEdit D ev order).onRow row = row := if_neg hid
    rw [hother, hother]

theorem Applied.again {order : OrderRow} (h : Applied (settleEdit D ev order) db u)
    (h' : Applied (settleEdit D ev order) u v) : Applied (settleEdit D ev order) db v := by
  refine ⟨?_, h'.processed.trans h.processed, h'.cursors.trans h.cursors,
    h'.lastOrderId.trans h.lastOrderId⟩
  rw [h'.rows, h.rows, List.map_map]
  exact List.map_congr_left fun row _ => settleEdit_onRow order row

/-- The worlds an application passes through: nothing has been done to the orders, or the edit
of the verdict. -/
def Underway (D : Deployment) (nowSec : ℤ) (ev : SettlementEvent) (db u : Database) : Prop :=
  Alike db u ∨ ∃ edit, verdict D nowSec db.orders ev = .edit edit ∧ Applied edit db u

/-- Whatever the edit that was made, it is the one of the verdict, or made no difference. -/
theorem Settled.underway {edit : Edit} {r : Except CoordinatorError α}
    (h : Settled db (verdict D nowSec db.orders ev) r v) (hfinal : Applied edit db v)
    (hu : Applied edit db u) : Underway D nowSec ev db u := by
  have hkept (hv : Kept db v) : Underway D nowSec ev db u :=
    .inl (hv.alike.trans (hfinal.alike hu))
  generalize hverdict : verdict D nowSec db.orders ev = verdict' at h
  cases h with
  | skip _ hv => exact hkept hv
  | stuck _ hv => exact hkept hv
  | edit hv => exact .inr ⟨_, hverdict, hv.applied.of_alike (hfinal.alike hu)⟩

theorem processor_apply_along (clock : ℕ → ℕ) (nowSec : ℤ) (ev : SettlementEvent) (db : Database) :
    Along (exec (.calm clock)) (Underway D nowSec ev db) (ChainEventProcessor.apply D nowSec ev)
      db := by
  have hquiet (stmt : Statement) (u : Database) (h : stmt.Quiet) (hu : Alike db u) :
      Alike db (exec (.calm clock) stmt u).2 := hu.trans (exec_quiet h _ u).alike
  have hsettled := (processor_apply_settled (D := D) clock db nowSec ev).1
  obtain ⟨reads, hfound⟩ := run_findOrder clock ev db
  rw [ChainEventProcessor.apply, run_bind, hfound] at hsettled
  refine along_bind ?_ ?_
  · have hissues : Issues Statement.Quiet (ChainEventProcessor.findOrder ev) :=
      (findOrder_plain (fun _ h => h) ev).issues
    exact (hissues.along hquiet (Alike.refl db)).mono fun u hu => .inl hu
  · intro found w hrun
    rw [hfound] at hrun
    cases hrun
    cases hfind : findSettled db.orders ev with
    | none => exact .inl ⟨rfl, rfl, rfl, rfl⟩
    | some order =>
        rw [hfind] at hsettled
        have hissues : Issues
            (fun stmt : Statement => stmt.Quiet ∨ stmt = (settleEdit D ev order).stmt)
            (tryCatch (ChainEventProcessor.settle D nowSec ev order) fun e =>
              if ChainEventProcessor.isPermanent e then pure .ignored else throw e) := by
          apply issues_tryCatch (settle_plain (fun _ h => .inl h) nowSec ev order (.inr rfl)).issues
          intro e
          split
          · exact issues_pure _
          · exact issues_throw _
        have hstart : Alike db { db with executed := db.executed + reads } := ⟨rfl, rfl, rfl, rfl⟩
        refine (hissues.along_until (I := Alike db) (J := Applied (settleEdit D ev order) db)
          ?_ ?_ hstart).mono ?_
        · rintro stmt u (hstmt | rfl) hu
          · exact .inl (hquiet stmt u hstmt hu)
          · exact .inr (hu.applied (exec_edit_changed clock _ u).applied)
        · rintro stmt u (hstmt | rfl) hu
          · exact hu.of_alike (exec_quiet hstmt _ u).alike
          · exact hu.again (exec_edit_changed clock _ u).applied
        · rintro u (hu | ⟨hu, hfinal⟩)
          · exact .inl hu
          · exact hsettled.underway hfinal hu

/-- Where the processing of an event can be cut off: before its edit, between the edit and the
mark, or at its end. -/
inductive Cut (D : Deployment) (clock : ℕ → ℕ) (nowSec : ℤ) (networkId : String)
    (ev : SettlementEvent) (db u : Database) : Prop where
  | before : Alike db u → Cut D clock nowSec networkId ev db u
  | unmarked {edit : Edit} : db.seen (ChainEventProcessor.eventKey D networkId ev) = false →
      verdict D nowSec db.orders ev = .edit edit → Applied edit db u →
      Cut D clock nowSec networkId ev db u
  | after (outcome : ProcessOutcome) {v : Database} :
      run (exec (.calm clock)) (ChainEventProcessor.process D nowSec networkId ev) db =
        (.ok outcome, v) → Alike v u → Cut D clock nowSec networkId ev db u

theorem after_statement (n : ℕ) (stmt : Statement) (db : Database) :
    after (exec (.calm clock)) n (query stmt) db = db ∨
      after (exec (.calm clock)) n (query stmt) db = (exec (.calm clock) stmt db).2 := by
  cases n with
  | zero => exact .inl rfl
  | succ n =>
      right
      simp only [query, Procedure.statement, Procedure.after]
      split
      · rename_i hexec
        cases n <;> simp [Procedure.after, hexec]
      · rename_i hexec
        cases n <;> simp [Procedure.after, hexec]

theorem after_pure (n : ℕ) (a : α) (db : Database) :
    after (exec (.calm clock)) n (pure a : Task α) db = db := by
  cases n <;> rfl

theorem run_mark (event : ProcessedEvent) (db : Database) :
    run (exec (.calm clock)) (OrdersRepository.markEventProcessed event) db =
      (.ok (), (exec (.calm clock) (.insertProcessedEvent event) db).2) := by
  rw [OrdersRepository.markEventProcessed, query, run_statement, exec_calm]
  rfl

/-- The mark is set, or not yet. -/
theorem after_mark (n : ℕ) (event : ProcessedEvent) (a : α) (db : Database) :
    after (exec (.calm clock)) n (do
        OrdersRepository.markEventProcessed event
        pure a) db = db ∨
      after (exec (.calm clock)) n (do
        OrdersRepository.markEventProcessed event
        pure a) db = (exec (.calm clock) (.insertProcessedEvent event) db).2 := by
  rcases after_bind n (OrdersRepository.markEventProcessed event) (fun _ => pure a) db with
    hcut | ⟨_, w, m, hrun, hcut⟩
  · rw [hcut]
    exact after_statement n _ db
  · right
    rw [run_mark] at hrun
    rw [hcut, after_pure, congrArg Prod.snd hrun]

theorem process_cut (clock : ℕ → ℕ) (nowSec : ℤ) (networkId : String) (ev : SettlementEvent)
    (db : Database) (n : ℕ) :
    Cut D clock nowSec networkId ev db
      (after (exec (.calm clock)) n (ChainEventProcessor.process D nowSec networkId ev) db) := by
  have htick : Alike db db.tick := ⟨rfl, rfl, rfl, rfl⟩
  rcases after_bind n (OrdersRepository.hasProcessedEvent
      (ChainEventProcessor.eventKey D networkId ev)) _ db with hcut | ⟨seen, w, m, hrun, hcut⟩
  · rw [ChainEventProcessor.process, hcut]
    rcases after_statement n (.hasProcessedEvent (ChainEventProcessor.eventKey D networkId ev)) db with
      hsame | hread
    · exact .before (by rw [OrdersRepository.hasProcessedEvent, hsame]; exact .refl db)
    · refine .before ?_
      rw [OrdersRepository.hasProcessedEvent, hread]
      exact (exec_quiet (by trivial) _ db).alike
  · rw [ChainEventProcessor.process, hcut]
    rw [run_hasProcessedEvent] at hrun
    obtain ⟨hok, rfl⟩ := Prod.mk.inj hrun
    have hseen : db.seen (ChainEventProcessor.eventKey D networkId ev) = seen := Except.ok.inj hok
    cases seen with
    | true =>
        rw [if_pos rfl, after_pure]
        exact .before htick
    | false =>
        rw [if_neg Bool.false_ne_true]
        have hunderway {u : Database} (hu : Underway D nowSec ev db.tick u) :
            Cut D clock nowSec networkId ev db u := by
          rcases hu with halike | ⟨edit, hverdict, happlied⟩
          · exact .before (htick.trans halike)
          · exact .unmarked hseen hverdict (htick.applied happlied)
        have halong := processor_apply_along (D := D) clock nowSec ev db.tick
        rcases after_bind m (ChainEventProcessor.apply D nowSec ev) _ db.tick with
          hcut' | ⟨outcome, w, m', happly, hcut'⟩
        · rw [hcut']
          exact hunderway (halong.after m)
        · have hstop := halong.stop
          rw [happly] at hstop
          rw [hcut']
          rcases after_mark m' ⟨ChainEventProcessor.eventKey D networkId ev, ev.chain, ev.kind.text,
            ev.position⟩ outcome w with hbefore | hafter
          · rw [hbefore]
            exact hunderway hstop
          · rw [hafter]
            refine .after outcome ?_ (.refl _)
            rw [ChainEventProcessor.process, run_bind, run_hasProcessedEvent]
            dsimp only
            rw [show (db.processed.any fun event =>
              event.eventKey = ChainEventProcessor.eventKey D networkId ev) = false from hseen,
              if_neg Bool.false_ne_true, run_bind, happly]
            dsimp only
            rw [run_bind, run_mark]
            rfl

/-! ## Redelivery of one event -/

theorem process_alike (clock clock' : ℕ → ℕ) (nowSec : ℤ) (networkId : String)
    (ev : SettlementEvent) (h : Alike u v) :
    (run (exec (.calm clock)) (ChainEventProcessor.process D nowSec networkId ev) u).1 =
        (run (exec (.calm clock')) (ChainEventProcessor.process D nowSec networkId ev) v).1 ∧
      Alike (run (exec (.calm clock)) (ChainEventProcessor.process D nowSec networkId ev) u).2
        (run (exec (.calm clock')) (ChainEventProcessor.process D nowSec networkId ev) v).2 :=
  (alike_respects clock clock').run _ h

theorem Processed.seen {r : ProcessOutcome} (h : Processed D nowSec networkId ev db (.ok r) u) :
    u.seen (ChainEventProcessor.eventKey D networkId ev) = true := by
  cases h with
  | duplicate hseen hkept =>
      rw [Database.seen, hkept.processed]
      exact hseen
  | done _ _ hprocessed _ _ =>
      rw [Database.seen, hprocessed]
      simp [processedRow]

/-- Marks are never taken back. -/
theorem Processed.keeps {r : Except CoordinatorError ProcessOutcome}
    (h : Processed D nowSec networkId ev db r u) {eventKey : String}
    (hseen : db.seen eventKey = true) : u.seen eventKey = true := by
  cases h with
  | duplicate _ hkept =>
      rw [Database.seen, hkept.processed]
      exact hseen
  | stuck _ _ _ hkept =>
      rw [Database.seen, hkept.processed]
      exact hseen
  | done _ _ hprocessed _ _ =>
      rw [Database.seen, hprocessed, List.any_append]
      rw [Database.seen] at hseen
      rw [hseen, Bool.true_or]

theorem Alike.seen (h : Alike u v) (eventKey : String) : u.seen eventKey = v.seen eventKey := by
  rw [Database.seen, Database.seen, h.processed]

/-- The edit was made but not marked: the event is recognised and only marked. -/
theorem redeliver_unmarked {edit : Edit} (clock clock' : ℕ → ℕ)
    (hfresh : db.seen (ChainEventProcessor.eventKey D networkId ev) = false)
    (hverdict : verdict D nowSec db.orders ev = .edit edit) (happlied : Applied edit db u) :
    ∃ a b v w, run (exec (.calm clock)) (ChainEventProcessor.process D nowSec networkId ev) db =
        (.ok a, v) ∧
      run (exec (.calm clock')) (ChainEventProcessor.process D nowSec networkId ev) u = (.ok b, w) ∧
      Alike v w := by
  have hfirst := process_processed (D := D) clock nowSec networkId ev db
  have hagain := process_processed (D := D) clock' nowSec networkId ev u
  have hfresh' : u.seen (ChainEventProcessor.eventKey D networkId ev) = false := by
    rw [Database.seen, happlied.processed]
    exact hfresh
  have hrows : rowsOf u.orders = rowsOf (edit.apply 0 db.orders) := by
    rw [happlied.rows, Edit.rowsOf_apply]
  have hskip : verdict D nowSec u.orders ev = .skip := by
    rw [verdict_congr hrows]
    exact verdict_again hverdict 0
  cases hrun : run (exec (.calm clock)) (ChainEventProcessor.process D nowSec networkId ev) db with
  | mk r v =>
      cases hrun' : run (exec (.calm clock')) (ChainEventProcessor.process D nowSec networkId ev) u with
      | mk r' w =>
          rw [hrun] at hfirst
          rw [hrun'] at hagain
          cases hfirst with
          | duplicate hseen _ =>
              rw [hfresh] at hseen
              cases hseen
          | stuck _ hstuck _ _ =>
              rw [hverdict] at hstuck
              cases hstuck
          | done _ hcarried hprocessed hcursors hlast =>
              cases hagain with
              | duplicate hseen _ =>
                  rw [hfresh'] at hseen
                  cases hseen
              | stuck _ hstuck _ _ =>
                  rw [hskip] at hstuck
                  cases hstuck
              | done _ hcarried' hprocessed' hcursors' hlast' =>
                  refine ⟨_, _, v, w, rfl, rfl, ?_, ?_, ?_, ?_⟩
                  · rw [hverdict] at hcarried
                    rw [hskip] at hcarried'
                    generalize v.orders = after at hcarried
                    generalize w.orders = after' at hcarried'
                    cases hcarried
                    cases hcarried'
                    rw [Edit.rowsOf_apply, happlied.rows]
                  · rw [hprocessed, hprocessed', happlied.processed]
                  · rw [hcursors, hcursors', happlied.cursors]
                  · rw [hlast, hlast', happlied.lastOrderId]

/-! ## Redelivery of a batch -/

/-- Processing events one after another, up to the first error. -/
def processEvents (D : Deployment) (clock : ℕ → ℕ) (nowSec : ℤ) (networkId : String) :
    List SettlementEvent → Database → Except CoordinatorError Unit × Database
  | [], db => (.ok (), db)
  | ev :: events, db =>
    match run (exec (.calm clock)) (ChainEventProcessor.process D nowSec networkId ev) db with
    | (.ok _, u) => processEvents D clock nowSec networkId events u
    | (.error e, u) => (.error e, u)

/-- A result without the counts. -/
def ending (r : Except CoordinatorError α) : Except CoordinatorError Unit :=
  r.map fun _ => ()

theorem run_processAll (D : Deployment) (clock : ℕ → ℕ) (nowSec : ℤ) (networkId : String)
    (events : List SettlementEvent) (counts : BatchCounts) (db : Database) :
    (ending (run (exec (.calm clock))
        (ChainEventProcessor.processAll D nowSec networkId events counts) db).1,
      (run (exec (.calm clock))
        (ChainEventProcessor.processAll D nowSec networkId events counts) db).2) =
      processEvents D clock nowSec networkId events db := by
  induction events generalizing counts db with
  | nil => rfl
  | cons ev events ih =>
      rw [ChainEventProcessor.processAll, run_bind, processEvents]
      cases run (exec (.calm clock)) (ChainEventProcessor.process D nowSec networkId ev) db with
      | mk r u =>
          cases r with
          | ok outcome => exact ih _ u
          | error e => rfl

theorem processEvents_append (front back : List SettlementEvent) (db : Database) :
    processEvents D clock nowSec networkId (front ++ back) db =
      match processEvents D clock nowSec networkId front db with
      | (.ok _, u) => processEvents D clock nowSec networkId back u
      | (.error e, u) => (.error e, u) := by
  induction front generalizing db with
  | nil => rfl
  | cons ev front ih =>
      rw [List.cons_append, processEvents, processEvents]
      cases run (exec (.calm clock)) (ChainEventProcessor.process D nowSec networkId ev) db with
      | mk r u =>
          cases r with
          | ok outcome => exact ih u
          | error e => rfl

/-- Two ends that agree but for times and order events. -/
def SameEnd (a b : Except CoordinatorError Unit × Database) : Prop :=
  a.1 = b.1 ∧ Alike a.2 b.2

theorem processEvents_alike (clock clock' : ℕ → ℕ) (events : List SettlementEvent)
    (h : Alike u v) :
    SameEnd (processEvents D clock nowSec networkId events u)
      (processEvents D clock' nowSec networkId events v) := by
  induction events generalizing u v with
  | nil => exact ⟨rfl, h⟩
  | cons ev events ih =>
      obtain ⟨hresult, halike⟩ := process_alike (D := D) clock clock' nowSec networkId ev h
      rw [processEvents, processEvents]
      cases hrun : run (exec (.calm clock)) (ChainEventProcessor.process D nowSec networkId ev) u with
      | mk r u' =>
          cases hrun' : run (exec (.calm clock'))
              (ChainEventProcessor.process D nowSec networkId ev) v with
          | mk r' v' =>
              rw [hrun, hrun'] at hresult halike
              obtain rfl : r = r' := hresult
              cases r with
              | ok outcome => exact ih halike
              | error e => exact ⟨rfl, halike⟩

/-- Events that are marked already change nothing. -/
theorem processEvents_seen (clock : ℕ → ℕ) (nowSec : ℤ) {events : List SettlementEvent}
    (h : ∀ ev ∈ events, u.seen (ChainEventProcessor.eventKey D networkId ev) = true) :
    (processEvents D clock nowSec networkId events u).1 = .ok () ∧
      Alike u (processEvents D clock nowSec networkId events u).2 := by
  induction events generalizing u with
  | nil => exact ⟨rfl, .refl u⟩
  | cons ev events ih =>
      have hprocessed := process_processed (D := D) clock nowSec networkId ev u
      have hev := h ev List.mem_cons_self
      rw [processEvents]
      cases hrun : run (exec (.calm clock)) (ChainEventProcessor.process D nowSec networkId ev) u with
      | mk r u' =>
          rw [hrun] at hprocessed
          cases hprocessed with
          | done hfresh _ _ _ _ =>
              rw [hev] at hfresh
              cases hfresh
          | stuck hfresh _ _ _ =>
              rw [hev] at hfresh
              cases hfresh
          | duplicate _ hkept =>
              have hlater : ∀ ev ∈ events,
                  u'.seen (ChainEventProcessor.eventKey D networkId ev) = true := by
                intro later hmem
                rw [← hkept.alike.seen]
                exact h later (List.mem_cons_of_mem _ hmem)
              obtain ⟨hok, halike⟩ := ih hlater
              exact ⟨hok, hkept.alike.trans halike⟩

theorem SameEnd.symm {a b : Except CoordinatorError Unit × Database} (h : SameEnd a b) :
    SameEnd b a :=
  ⟨h.1.symm, h.2.symm⟩

theorem SameEnd.trans {a b c : Except CoordinatorError Unit × Database} (h : SameEnd a b)
    (h' : SameEnd b c) : SameEnd a c :=
  ⟨h.1.trans h'.1, h.2.trans h'.2⟩

/-- Marked events in front of a batch make no difference. -/
theorem processEvents_skip {front : List SettlementEvent} (back : List SettlementEvent)
    (clock clock' : ℕ → ℕ) (h : Alike u v)
    (hseen : ∀ ev ∈ front, v.seen (ChainEventProcessor.eventKey D networkId ev) = true) :
    SameEnd (processEvents D clock nowSec networkId back u)
      (processEvents D clock' nowSec networkId (front ++ back) v) := by
  obtain ⟨hok, halike⟩ := processEvents_seen clock' nowSec hseen
  rw [processEvents_append]
  cases hrun : processEvents D clock' nowSec networkId front v with
  | mk r v' =>
      rw [hrun] at hok halike
      obtain rfl : r = .ok () := hok
      exact processEvents_alike clock clock' back (h.trans halike)

/-- Wherever the processing of a batch is cut off, the batch delivered again ends as it would
have ended. `front` are the events that were marked before. -/
theorem processAll_recovers (clock clock' : ℕ → ℕ) (events front : List SettlementEvent)
    (counts : BatchCounts) (n : ℕ)
    (hfront : ∀ ev ∈ front, db.seen (ChainEventProcessor.eventKey D networkId ev) = true) :
    SameEnd (processEvents D clock nowSec networkId events db)
      (processEvents D clock' nowSec networkId (front ++ events)
        (after (exec (.calm clock)) n
          (ChainEventProcessor.processAll D nowSec networkId events counts) db)) := by
  induction events generalizing front counts n db with
  | nil =>
      rw [ChainEventProcessor.processAll, after_pure]
      exact processEvents_skip [] clock clock' (.refl db) hfront
  | cons ev events ih =>
      have hprocessed := process_processed (D := D) clock nowSec networkId ev db
      have hlater {outcome : ProcessOutcome} {v : Database}
          (hrun : run (exec (.calm clock)) (ChainEventProcessor.process D nowSec networkId ev) db =
            (.ok outcome, v)) :
          ∀ other ∈ front ++ [ev], v.seen (ChainEventProcessor.eventKey D networkId other) = true := by
        rw [hrun] at hprocessed
        intro other hmem
        rcases List.mem_append.mp hmem with hold | hnew
        · exact hprocessed.keeps (hfront other hold)
        · obtain rfl := List.mem_singleton.mp hnew
          exact hprocessed.seen
      rw [ChainEventProcessor.processAll]
      rcases after_bind n (ChainEventProcessor.process D nowSec networkId ev) _ db with
        hcut | ⟨outcome, w, m, hrun, hcut⟩
      · rw [hcut]
        cases process_cut (D := D) clock nowSec networkId ev db n with
        | before halike =>
            refine processEvents_skip (ev :: events) clock clock' halike ?_
            intro other hmem
            rw [← halike.seen]
            exact hfront other hmem
        | unmarked hfresh hverdict happlied =>
            obtain ⟨a, b, v, w, hrun, hrun', halike⟩ :=
              redeliver_unmarked clock clock' hfresh hverdict happlied
            have hfirst : SameEnd (processEvents D clock nowSec networkId (ev :: events) db)
                (processEvents D clock' nowSec networkId (ev :: events)
                  (after (exec (.calm clock)) n
                    (ChainEventProcessor.process D nowSec networkId ev) db)) := by
              rw [processEvents, processEvents, hrun, hrun']
              exact processEvents_alike clock clock' events halike
            refine hfirst.trans (processEvents_skip (ev :: events) clock' clock' (.refl _) ?_)
            intro other hmem
            rw [Database.seen, happlied.processed]
            exact hfront other hmem
        | after outcome hrun halike =>
            rw [processEvents, hrun, List.append_cons]
            refine processEvents_skip events clock clock' halike ?_
            intro other hmem
            rw [← halike.seen]
            exact hlater hrun other hmem
      · rw [hcut, processEvents, hrun, List.append_cons]
        exact ih _ (counts.count outcome) m (hlater hrun)

/-- The events of a batch that was processed to its end are marked. -/
theorem processEvents_marks {events : List SettlementEvent}
    (h : processEvents D clock nowSec networkId events db = (.ok (), u)) :
    (∀ eventKey, db.seen eventKey = true → u.seen eventKey = true) ∧
      ∀ ev ∈ events, u.seen (ChainEventProcessor.eventKey D networkId ev) = true := by
  induction events generalizing db with
  | nil =>
      obtain ⟨-, rfl⟩ := Prod.mk.inj h
      exact ⟨fun _ hseen => hseen, by simp⟩
  | cons ev events ih =>
      have hprocessed := process_processed (D := D) clock nowSec networkId ev db
      rw [processEvents] at h
      cases hrun : run (exec (.calm clock)) (ChainEventProcessor.process D nowSec networkId ev) db with
      | mk r v =>
          rw [hrun] at h hprocessed
          cases r with
          | error e => cases (Prod.mk.inj h).1
          | ok outcome =>
              obtain ⟨hkeeps, hmarks⟩ := ih h
              refine ⟨fun eventKey hseen => hkeeps _ (hprocessed.keeps hseen), ?_⟩
              intro other hmem
              rcases List.mem_cons.mp hmem with rfl | hrest
              · exact hkeeps _ hprocessed.seen
              · exact hmarks other hrest

/-! ## The cursor -/

theorem upsert_again (saved : Option ChainCursor) (cursor : ChainCursor) :
    ChainCursor.upsert (some (ChainCursor.upsert saved cursor)) cursor =
      ChainCursor.upsert saved cursor := by
  cases saved with
  | none => simp [ChainCursor.upsert]
  | some old =>
      by_cases hforward : old.networkId = cursor.networkId ∧ old.position ≤ cursor.position
      · simp [ChainCursor.upsert, hforward]
      · simp [ChainCursor.upsert, hforward]

theorem Alike.advancedTo {chain : ChainName} {cursor : ChainCursor} (h : Alike u v) :
    Alike (u.advancedTo chain cursor) (v.advancedTo chain cursor) :=
  ⟨h.rows, h.processed, by simp only [Database.advancedTo, h.cursors], h.lastOrderId⟩

theorem advancedTo_again {chain : ChainName} {cursor : ChainCursor} :
    Alike (u.advancedTo chain cursor) ((u.advancedTo chain cursor).advancedTo chain cursor) := by
  refine ⟨rfl, rfl, ?_, rfl⟩
  funext name
  by_cases hname : name = chain
  · simp only [Database.advancedTo, hname, if_true]
    rw [upsert_again]
  · simp only [Database.advancedTo, hname, if_false]

theorem exec_upsertCursor (clock : ℕ → ℕ) (chain : ChainName) (cursor : ChainCursor)
    (h : Alike u v) :
    Alike (u.advancedTo chain cursor) (exec (.calm clock) (.upsertCursor chain cursor) v).2 := by
  rw [exec_calm]
  exact ⟨h.rows, h.processed, by simp [Database.advancedTo, perform, h.cursors], h.lastOrderId⟩

/-- The last step is cut off before the cursor is saved, or after. -/
theorem advance_cut (clock : ℕ → ℕ) (chain : ChainName) (networkId : String) (upTo : ℕ)
    (cursor : Option String) (w : Database) :
    Along (exec (.calm clock))
      (fun u => Alike w u ∨ SameNetwork (w.cursors chain) networkId ∧
        Alike (w.advancedTo chain ⟨networkId, upTo, cursor⟩) u)
      (ChainEventProcessor.advance chain networkId upTo cursor) w := by
  have hissues : Issues
      (fun stmt : Statement => stmt.Quiet ∨ stmt = .upsertCursor chain ⟨networkId, upTo, cursor⟩)
      (ChainEventProcessor.advance chain networkId upTo cursor) :=
    (cursor_advance_plain (fun _ h => .inl h) (.inr rfl)).issues
  refine (hissues.along_until (I := Alike w)
    (J := Alike (w.advancedTo chain ⟨networkId, upTo, cursor⟩)) ?_ ?_ (.refl w)).mono ?_
  · rintro stmt u (hstmt | rfl) hu
    · exact .inl (hu.trans (exec_quiet hstmt _ u).alike)
    · exact .inr (exec_upsertCursor clock chain _ hu)
  · rintro stmt u (hstmt | rfl) hu
    · exact hu.trans (exec_quiet hstmt _ u).alike
    · exact advancedTo_again.trans (exec_upsertCursor clock chain _ hu)
  · rintro u (hu | ⟨hu, hfinal⟩)
    · exact .inl hu
    · rcases run_cursor_advance clock chain networkId upTo cursor w with
        ⟨hsame, _⟩ | ⟨_, _, hrun⟩
      · exact .inr ⟨hsame, hu⟩
      · rw [hrun] at hfinal
        have hw : Alike w w.tick := ⟨rfl, rfl, rfl, rfl⟩
        exact .inl (hw.trans (hfinal.symm.trans hu))

/-! ## Batches -/

/-- The last step of a batch, where the events were processed to their end. -/
def thenAdvance (clock : ℕ → ℕ) (chain : ChainName) (networkId : String) (upTo : ℕ)
    (cursor : Option String) :
    Except CoordinatorError Unit × Database → Except CoordinatorError Unit × Database
  | (.ok _, u) => run (exec (.calm clock)) (ChainEventProcessor.advance chain networkId upTo cursor) u
  | (.error e, u) => (.error e, u)

theorem SameEnd.advance {a b : Except CoordinatorError Unit × Database} (h : SameEnd a b)
    (clock clock' : ℕ → ℕ) (chain : ChainName) (networkId : String) (upTo : ℕ)
    (cursor : Option String) :
    SameEnd (thenAdvance clock chain networkId upTo cursor a)
      (thenAdvance clock' chain networkId upTo cursor b) := by
  obtain ⟨r, u⟩ := a
  obtain ⟨r', u'⟩ := b
  obtain ⟨hr, hu⟩ := h
  obtain rfl : r = r' := hr
  cases r with
  | error e => exact ⟨rfl, hu⟩
  | ok _ => exact (alike_respects clock clock').run _ hu

/-- How a batch ends. -/
theorem run_processBatch (D : Deployment) (clock : ℕ → ℕ) (nowSec : ℤ) (networkId : String)
    (chain : ChainName) (events : List SettlementEvent) (upTo : ℕ) (cursor : Option String)
    (db : Database) :
    (ending (run (exec (.calm clock))
        (ChainEventProcessor.processBatch D nowSec networkId chain events upTo cursor) db).1,
      (run (exec (.calm clock))
        (ChainEventProcessor.processBatch D nowSec networkId chain events upTo cursor) db).2) =
      thenAdvance clock chain networkId upTo cursor (processEvents D clock nowSec networkId
        (events.insertionSort ChainEventProcessor.NotAfter) db) := by
  have hall := run_processAll D clock nowSec networkId
    (events.insertionSort ChainEventProcessor.NotAfter) ⟨0, 0, 0⟩ db
  rw [← hall, ChainEventProcessor.processBatch, run_bind]
  cases run (exec (.calm clock)) (ChainEventProcessor.processAll D nowSec networkId
      (events.insertionSort ChainEventProcessor.NotAfter) ⟨0, 0, 0⟩) db with
  | mk r u =>
      cases r with
      | error e => rfl
      | ok counts =>
          dsimp only
          rw [run_map]
          dsimp only [ending, Except.map, thenAdvance]
          cases run (exec (.calm clock)) (ChainEventProcessor.advance chain networkId upTo cursor) u with
          | mk r' v => cases r' <;> rfl

/-- Where a batch can be cut off: while its events are processed, or once all are marked. -/
theorem processBatch_cut (D : Deployment) (clock : ℕ → ℕ) (nowSec : ℤ) (networkId : String)
    (chain : ChainName) (events : List SettlementEvent) (upTo : ℕ) (cursor : Option String)
    (db : Database) (n : ℕ) :
    let sorted := events.insertionSort ChainEventProcessor.NotAfter
    let u := after (exec (.calm clock)) n
      (ChainEventProcessor.processBatch D nowSec networkId chain events upTo cursor) db
    u = after (exec (.calm clock)) n
        (ChainEventProcessor.processAll D nowSec networkId sorted ⟨0, 0, 0⟩) db ∨
      ∃ w, processEvents D clock nowSec networkId sorted db = (.ok (), w) ∧
        (Alike w u ∨ SameNetwork (w.cursors chain) networkId ∧
          Alike (w.advancedTo chain ⟨networkId, upTo, cursor⟩) u) := by
  dsimp only
  rw [ChainEventProcessor.processBatch]
  rcases after_bind n (ChainEventProcessor.processAll D nowSec networkId
      (events.insertionSort ChainEventProcessor.NotAfter) ⟨0, 0, 0⟩) _ db with
    hcut | ⟨counts, w, m, hrun, hcut⟩
  · exact .inl hcut
  · right
    have hall := run_processAll D clock nowSec networkId
      (events.insertionSort ChainEventProcessor.NotAfter) ⟨0, 0, 0⟩ db
    rw [hrun] at hall
    refine ⟨w, hall.symm, ?_⟩
    have halong := advance_cut clock chain networkId upTo cursor w
    rw [hcut]
    rcases after_bind m (ChainEventProcessor.advance chain networkId upTo cursor) _ w with
      hcut' | ⟨_, v, k, hadvance, hcut'⟩
    · rw [hcut']
      exact halong.after m
    · rw [hcut', after_pure]
      have hstop := halong.stop
      rwa [hadvance] at hstop

/-- The cursor is saved already: the check passes again and saving it makes no difference. -/
theorem advance_again {chain : ChainName} {upTo : ℕ} {cursor : Option String}
    (clock clock' : ℕ → ℕ) (hsame : SameNetwork (w.cursors chain) networkId)
    (h : Alike (w.advancedTo chain ⟨networkId, upTo, cursor⟩) u) :
    SameEnd (run (exec (.calm clock)) (ChainEventProcessor.advance chain networkId upTo cursor) w)
      (run (exec (.calm clock')) (ChainEventProcessor.advance chain networkId upTo cursor) u) := by
  have hsaved : u.cursors chain =
      some (ChainCursor.upsert (w.cursors chain) ⟨networkId, upTo, cursor⟩) := by
    rw [← h.cursors]
    exact if_pos rfl
  have hsame' : SameNetwork (u.cursors chain) networkId := by
    obtain ⟨saved, hupsert, hnetwork, _⟩ := upsert_cursorAt upTo cursor hsame
    intro found hfound
    rw [hsaved, hupsert] at hfound
    obtain rfl := Option.some.inj hfound
    exact hnetwork
  rcases run_cursor_advance clock chain networkId upTo cursor w with
    ⟨_, hrun⟩ | ⟨hnot, _⟩
  · rcases run_cursor_advance clock' chain networkId upTo cursor u with
      ⟨_, hrun'⟩ | ⟨hnot, _⟩
    · rw [hrun, hrun']
      exact ⟨rfl, advancedTo_again.trans h.advancedTo⟩
    · exact absurd hsame' hnot
  · exact absurd hsame hnot

/-- A cursor never moves backwards or to another network. -/
def NotBehind (before after : Option ChainCursor) : Prop :=
  ∀ old, before = some old → ∃ new, after = some new ∧ new.networkId = old.networkId ∧
    old.position ≤ new.position

theorem NotBehind.refl (saved : Option ChainCursor) : NotBehind saved saved :=
  fun old h => ⟨old, h, rfl, le_refl _⟩

theorem NotBehind.trans {a b c : Option ChainCursor} (h : NotBehind a b) (h' : NotBehind b c) :
    NotBehind a c := by
  intro old hold
  obtain ⟨mid, hmid, hnetwork, hposition⟩ := h old hold
  obtain ⟨new, hnew, hnetwork', hposition'⟩ := h' mid hmid
  exact ⟨new, hnew, hnetwork'.trans hnetwork, hposition.trans hposition'⟩

theorem notBehind_upsert (saved : Option ChainCursor) (cursor : ChainCursor) :
    NotBehind saved (some (ChainCursor.upsert saved cursor)) := by
  rintro old rfl
  refine ⟨_, rfl, ?_⟩
  by_cases hforward : old.networkId = cursor.networkId ∧ old.position ≤ cursor.position
  · simp [ChainCursor.upsert, hforward]
  · simp [ChainCursor.upsert, hforward]

theorem perform_cursors (now : ℕ) (stmt : Statement) (db : Database) (chain : ChainName) :
    NotBehind (db.cursors chain) ((perform now stmt db).2.cursors chain) := by
  cases stmt with
  | upsertCursor name cursor =>
      by_cases hname : chain = name
      · subst hname
        simp only [perform, if_true]
        exact notBehind_upsert _ _
      · simp only [perform, hname, if_false]
        exact .refl _
  | insertOrder publicId input =>
      simp only [perform]
      split <;> exact .refl _
  | insertProcessedEvent event =>
      simp only [perform]
      split <;> exact .refl _
  | _ => exact .refl _

/-- Whatever a task does and whatever fails, no cursor moves backwards. -/
theorem cursors_notBehind (cond : Conditions) (p : Task α) (db : Database) (chain : ChainName) :
    Along (exec cond) (fun u => NotBehind (db.cursors chain) (u.cursors chain)) p db := by
  refine (issues_true p).along ?_ (.refl _)
  intro stmt u _ hu
  refine hu.trans ?_
  unfold exec
  split
  · exact .refl _
  · exact perform_cursors _ _ _ _

/-- A batch that is cut off at any statement and delivered again ends as one delivery would. -/
theorem processBatch_recovers (D : Deployment) (nowSec : ℤ) (networkId : String)
    (chain : ChainName) (events : List SettlementEvent) (upTo : ℕ) (cursor : Option String)
    (db : Database) (clock clock' : ℕ → ℕ) (n : ℕ) :
    let batch := ChainEventProcessor.processBatch D nowSec networkId chain events upTo cursor
    let clean := run (exec (.calm clock)) batch db
    let redelivered := run (exec (.calm clock')) batch (after (exec (.calm clock)) n batch db)
    SameEnd (ending clean.1, clean.2) (ending redelivered.1, redelivered.2) := by
  dsimp only
  have hclean := run_processBatch D clock nowSec networkId chain events upTo cursor db
  have hagain := run_processBatch D clock' nowSec networkId chain events upTo cursor
    (after (exec (.calm clock)) n
      (ChainEventProcessor.processBatch D nowSec networkId chain events upTo cursor) db)
  have hcut := processBatch_cut D clock nowSec networkId chain events upTo cursor db n
  dsimp only at hcut
  generalize after (exec (.calm clock)) n
    (ChainEventProcessor.processBatch D nowSec networkId chain events upTo cursor) db = u at *
  generalize events.insertionSort ChainEventProcessor.NotAfter = sorted at *
  rw [hclean, hagain]
  rcases hcut with rfl | ⟨w, hw, hu⟩
  · exact (processAll_recovers clock clock' sorted [] ⟨0, 0, 0⟩ n (by simp)).advance
      clock clock' chain networkId upTo cursor
  · have hmarks := (processEvents_marks hw).2
    have hprocessed : w.processed = u.processed := by
      rcases hu with halike | ⟨_, halike⟩
      · exact halike.processed
      · exact halike.processed
    have hseen : ∀ ev ∈ sorted, u.seen (ChainEventProcessor.eventKey D networkId ev) = true := by
      intro ev hmem
      rw [Database.seen, ← hprocessed]
      exact hmarks ev hmem
    obtain ⟨hok, halike'⟩ := processEvents_seen clock' nowSec hseen
    rw [hw]
    cases hrun : processEvents D clock' nowSec networkId sorted u with
    | mk r v =>
        rw [hrun] at hok halike'
        obtain rfl : r = .ok () := hok
        rcases hu with halike | ⟨hsame, halike⟩
        · exact (alike_respects clock clock').run _ (halike.trans halike')
        · exact advance_again clock clock' hsame (halike.trans halike')

/-- A crash at any statement of a batch and a second delivery end as one delivery without a
crash, and at no time does a call move a cursor backwards. -/
theorem processBatch_crash_safe (D : Deployment) (nowSec : ℤ) (networkId : String)
    (chain : ChainName) (events : List SettlementEvent) (upTo : ℕ) (cursor : Option String)
    (db : Database) (clock clock' : ℕ → ℕ) (n : ℕ) :
    let batch := ChainEventProcessor.processBatch D nowSec networkId chain events upTo cursor
    let crashed := after (exec (.calm clock)) n batch db
    let clean := run (exec (.calm clock)) batch db
    let redelivered := run (exec (.calm clock')) batch crashed
    ending clean.1 = ending redelivered.1 ∧ Alike clean.2 redelivered.2 ∧
      ∀ (cond : Conditions) (α : Type) (call : Task α) (m : ℕ) (name : ChainName),
        NotBehind (db.cursors name) ((after (exec cond) m call db).cursors name) := by
  obtain ⟨hending, halike⟩ :=
    processBatch_recovers D nowSec networkId chain events upTo cursor db clock clock' n
  exact ⟨hending, halike, fun cond α call m name => (cursors_notBehind cond call db name).after m⟩

end OverSync.Coordinator
