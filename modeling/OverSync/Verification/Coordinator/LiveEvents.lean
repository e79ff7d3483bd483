import OverSync.Verification.Coordinator.CrashSafety

/-! # How a live event is applied

While no statement fails, a live event makes a function of its order's row, and its outcome is
not an error. -/

namespace OverSync.Coordinator

open Library Library.Procedure

variable {D : Deployment} {clock : ℕ → ℕ} {db u v : Database} {orders : List StoredOrder}
  {event : BridgeOrderEvent} {α : Type}

/-! ## Requests -/

/-- Errors with which the services refuse a step. -/
def CoordinatorError.IsRefusal : CoordinatorError → Prop
  | .validation _ _ | .rejected _ => True
  | _ => False

/-- What a request comes to, by the row of its order. -/
inductive Requested (edit : Edit) (guard : OrderRow → Except CoordinatorError Unit)
    (isSameStep : OrderRow → Bool) (row : OrderRow) (db : Database) :
    Except CoordinatorError Unit → Database → Prop where
  | written {db' : Database} : IsEdge row.status edit.target → guard row = .ok () →
      Changed edit db db' → Requested edit guard isSameStep row db (.ok ()) db'
  | repeated {db' : Database} : row.status = edit.target → isSameStep row = true → Kept db db' →
      Requested edit guard isSameStep row db (.ok ()) db'
  | refused {e : CoordinatorError} {db' : Database} : e.IsRefusal →
      (IsEdge row.status edit.target → guard row ≠ .ok ()) →
      (row.status = edit.target → isSameStep row = false) → Kept db db' →
      Requested edit guard isSameStep row db (.error e) db'

theorem advanced_requested (request : OrderService.AdvanceRequest) {edit : Edit}
    {guard : OrderRow → Except CoordinatorError Unit} {row : OrderRow}
    (hfind : findId db.orders request.publicId = some row)
    (htarget : edit.target = actionTargetStatus request.action)
    (hguard : ∀ e, guard row = .error e → e.IsRefusal) :
    Requested edit guard request.isSameStep row db (advanced clock db request edit guard).1
      (advanced clock db request edit guard).2 := by
  unfold advanced
  rw [hfind, ← htarget]
  dsimp only
  by_cases hsame : row.status = edit.target
  · have hedge : ¬ IsEdge row.status edit.target := by
      rw [hsame]
      exact not_isEdge_self _
    rw [if_pos hsame]
    cases hstep : request.isSameStep row with
    | true => exact .repeated hsame hstep ⟨rfl, rfl, rfl, rfl⟩
    | false =>
        exact .refused trivial (fun h => absurd h hedge) (fun _ => hstep) ⟨rfl, rfl, rfl, rfl⟩
  · rw [if_neg hsame]
    cases heval : evaluateTransition row.status edit.target request.action with
    | some refusal =>
        have hedge := evaluateTransition_some heval
        exact .refused trivial (fun h => absurd h hedge) (fun h => absurd h hsame)
          ⟨rfl, rfl, rfl, rfl⟩
    | none =>
        cases hresult : guard row with
        | ok _ => exact .written (evaluateTransition_eq_none.mp heval) hresult ⟨⟨_, rfl⟩, rfl, rfl, rfl⟩
        | error e =>
            exact .refused (hguard e hresult) (fun _ h => by rw [hresult] at h; cases h)
              (fun h => absurd h hsame) ⟨rfl, rfl, rfl, rfl⟩

theorem assertTimelocksAtCreation_refusal {srcTimelock dstTimelock minGap : ℤ}
    {e : CoordinatorError}
    (h : assertTimelocksAtCreation srcTimelock dstTimelock minGap = .error e) : e.IsRefusal := by
  unfold assertTimelocksAtCreation at h
  split at h <;> cases h <;> trivial

theorem srcLockGuard_refusal {lock : SrcLock} {row : OrderRow} {e : CoordinatorError}
    (h : OrderService.srcLockGuard D lock row = .error e) : e.IsRefusal := by
  unfold OrderService.srcLockGuard at h
  split at h
  · cases h
  · exact assertTimelocksAtCreation_refusal h

theorem dstLockGuard_refusal {lock : DstLock} {row : OrderRow} {e : CoordinatorError}
    (h : OrderService.dstLockGuard D lock row = .error e) : e.IsRefusal := by
  unfold OrderService.dstLockGuard at h
  split at h
  · cases h
  · exact assertTimelocksAtCreation_refusal h

/-! ## Rows -/

/-- An order that a lookup finds is found by its public id too. -/
theorem findRow_findId {p : OrderRow → Bool} {order : OrderRow}
    (h : findRow orders p = some order) : ∃ row, findId orders order.publicId = some row := by
  obtain ⟨stored, hmem, rfl, _⟩ := findRow_mem h
  cases hfind : findId orders stored.publicId with
  | none => exact absurd rfl (findId_eq_none.mp hfind stored hmem)
  | some row => exact ⟨row, rfl⟩

/-- A row after a request whose write is `edit`, made under `guard`. -/
def Edit.under (edit : Edit) (guard : OrderRow → Except CoordinatorError Unit) (row : OrderRow) :
    OrderRow :=
  if IsEdge row.status edit.target ∧ guard row = .ok () then edit.set row else row

/-- The rows after the row of an order has been changed. -/
def setRow (rows : List OrderRow) (order : Option OrderRow) (f : OrderRow → OrderRow) :
    List OrderRow :=
  match order with
  | none => rows
  | some order => rows.map fun row => if row.publicId = order.publicId then f row else row

theorem rows_unique (hunique : UniqueIds orders) {row : OrderRow} {publicId : String}
    (hfind : findId orders publicId = some row) {other : OrderRow} (hmem : other ∈ rowsOf orders)
    (hid : other.publicId = row.publicId) : other = row := by
  obtain ⟨stored, hstored, rfl⟩ := List.mem_map.mp hmem
  exact findId_unique hunique hfind hstored (hid.trans (findId_publicId hfind))

theorem setRow_congr (hunique : UniqueIds orders) {row : OrderRow} {publicId : String}
    (hfind : findId orders publicId = some row) {f g : OrderRow → OrderRow} (h : f row = g row) :
    setRow (rowsOf orders) (some row) f = setRow (rowsOf orders) (some row) g := by
  refine List.map_congr_left fun other hmem => ?_
  by_cases hid : other.publicId = row.publicId
  · rw [rows_unique hunique hfind hmem hid, if_pos rfl, if_pos rfl, h]
  · rw [if_neg hid, if_neg hid]

theorem setRow_same (hunique : UniqueIds orders) {row : OrderRow} {publicId : String}
    (hfind : findId orders publicId = some row) {f : OrderRow → OrderRow} (h : f row = row) :
    setRow (rowsOf orders) (some row) f = rowsOf orders := by
  rw [setRow_congr hunique hfind (show f row = id row from h)]
  have hid (other : OrderRow) :
      (if other.publicId = row.publicId then id other else other) = other := by
    split <;> rfl
  simp only [setRow, hid, List.map_id']

theorem setRow_edit {edit : Edit} {row : OrderRow} (hid : row.publicId = edit.publicId) :
    setRow (rowsOf orders) (some row) edit.set = (rowsOf orders).map edit.onRow := by
  rw [setRow, hid]
  rfl

theorem uniqueIds_rows : UniqueIds orders ↔ ((rowsOf orders).map (·.publicId)).Nodup := by
  rw [rowsOf, List.map_map]
  rfl

theorem setRow_publicIds (rows : List OrderRow) (row : OrderRow) {f : OrderRow → OrderRow}
    (hf : ∀ row, (f row).publicId = row.publicId) :
    (setRow rows (some row) f).map (·.publicId) = rows.map (·.publicId) := by
  rw [setRow, List.map_map]
  refine List.map_congr_left fun other _ => ?_
  rw [Function.comp_apply]
  split
  · exact hf other
  · rfl

theorem setRow_setRow (rows : List OrderRow) {row row' : OrderRow} {f g : OrderRow → OrderRow}
    (hf : ∀ row, (f row).publicId = row.publicId) (hid : row'.publicId = row.publicId) :
    setRow (setRow rows (some row) f) (some row') g = setRow rows (some row) fun row => g (f row) := by
  simp only [setRow, List.map_map]
  refine List.map_congr_left fun other _ => ?_
  rw [Function.comp_apply, hid]
  by_cases hother : other.publicId = row.publicId
  · rw [if_pos hother, if_pos hother, hf, if_pos hother]
  · rw [if_neg hother, if_neg hother, if_neg hother]

theorem Edit.under_publicId (edit : Edit) (guard : OrderRow → Except CoordinatorError Unit)
    (row : OrderRow) : (edit.under guard row).publicId = row.publicId := by
  unfold Edit.under
  split
  · exact edit.set_publicId row
  · rfl

section Requested

variable {edit : Edit} {guard : OrderRow → Except CoordinatorError Unit}
  {isSameStep : OrderRow → Bool} {row : OrderRow} {r : Except CoordinatorError Unit}

theorem Requested.marks (h : Requested edit guard isSameStep row db r u) : SameMarks db u := by
  cases h with
  | written _ _ hchanged => exact hchanged.marks
  | repeated _ _ hkept => exact hkept.marks
  | refused _ _ _ hkept => exact hkept.marks

theorem Requested.refusal {e : CoordinatorError}
    (h : Requested edit guard isSameStep row db (.error e) u) : e.IsRefusal := by
  cases h with
  | refused hrefusal _ _ _ => exact hrefusal

/-- Reads before a request make no difference. -/
theorem Requested.of_kept (h : Requested edit guard isSameStep row v r u) (hkept : Kept db v) :
    Requested edit guard isSameStep row db r u := by
  have hkeep (hu : Kept v u) : Kept db u :=
    ⟨hu.orders.trans hkept.orders, hu.processed.trans hkept.processed,
      hu.cursors.trans hkept.cursors, hu.lastOrderId.trans hkept.lastOrderId⟩
  cases h with
  | written hedge hguard hchanged =>
      refine .written hedge hguard ⟨?_, hchanged.processed.trans hkept.processed,
        hchanged.cursors.trans hkept.cursors, hchanged.lastOrderId.trans hkept.lastOrderId⟩
      rw [← hkept.orders]
      exact hchanged.orders
  | repeated hsame hstep hu => exact .repeated hsame hstep (hkeep hu)
  | refused hrefusal hguard hstep hu => exact .refused hrefusal hguard hstep (hkeep hu)

theorem Requested.stays (h : Requested edit guard isSameStep row db r u)
    (hfind : findId db.orders edit.publicId = some row) :
    ∃ row', findId u.orders edit.publicId = some row' := by
  cases h with
  | written _ _ hchanged =>
      obtain ⟨now, horders⟩ := hchanged.orders
      rw [horders, findId_apply, hfind]
      exact ⟨_, rfl⟩
  | repeated _ _ hkept => exact ⟨row, by rw [hkept.orders]; exact hfind⟩
  | refused _ _ _ hkept => exact ⟨row, by rw [hkept.orders]; exact hfind⟩

theorem Requested.rows (h : Requested edit guard isSameStep row db r u)
    (hunique : UniqueIds db.orders) (hfind : findId db.orders edit.publicId = some row) :
    rowsOf u.orders = setRow (rowsOf db.orders) (some row) (edit.under guard) := by
  cases h with
  | written hedge hguard hchanged =>
      have hset : edit.under guard row = edit.set row := if_pos ⟨hedge, hguard⟩
      rw [setRow_congr hunique hfind hset, setRow_edit (findId_publicId hfind)]
      exact hchanged.applied.rows
  | repeated hsame _ hkept =>
      have hedge : ¬ IsEdge row.status edit.target := by
        rw [hsame]
        exact not_isEdge_self _
      have hunder : edit.under guard row = row := if_neg fun h => hedge h.1
      rw [setRow_same hunique hfind hunder, hkept.orders]
  | refused _ hguard _ hkept =>
      have hunder : edit.under guard row = row := if_neg fun h => hguard h.1 h.2
      rw [setRow_same hunique hfind hunder, hkept.orders]

end Requested

/-! ## What an event makes of a row -/

/-- The lock of an event on the source leg. -/
def BridgeOrderEvent.srcLock (event : BridgeOrderEvent) (row : OrderRow) (orderId : String)
    (timelock : ℤ) : SrcLock where
  publicId := row.publicId
  orderId := orderId
  txHash := event.txHash
  blockNumber := event.blockNumber
  timelock := timelock

def BridgeOrderEvent.dstLock (event : BridgeOrderEvent) (row : OrderRow) (orderId : String)
    (timelock : ℤ) : DstLock where
  publicId := row.publicId
  orderId := orderId
  txHash := event.txHash
  blockNumber := event.blockNumber
  timelock := timelock
  resolver := none

def lockRow (D : Deployment) (event : BridgeOrderEvent) (row : OrderRow) : OrderRow :=
  match event.timelock, truthy event.orderId with
  | some timelock, some orderId =>
    if event.chain = row.srcChain then
      let lock := event.srcLock row orderId timelock
      (Edit.srcLock lock).under (OrderService.srcLockGuard D lock) row
    else
      let lock := event.dstLock row orderId timelock
      (Edit.dstLock lock).under (OrderService.dstLockGuard D lock) row
  | _, _ => row

def statusRow (value : OrderStatus) (row : OrderRow) : OrderRow :=
  (Edit.status row.publicId value).under (fun _ => .ok ()) row

/-- The secret first, where it is not known yet; then the settlement, unless the secret was
refused. -/
def claimRow (D : Deployment) (event : BridgeOrderEvent) (row : OrderRow) : OrderRow :=
  match truthy (event.preimage.map D.toLowerCase) with
  | none => statusRow .completed row
  | some preimage =>
    if row.preimage ≠ some preimage then
      if IsEdge row.status .secretRevealed then
        statusRow .completed (row.withSecret preimage event.txHash)
      else row
    else statusRow .completed row

def liveRow (D : Deployment) (event : BridgeOrderEvent) (row : OrderRow) : OrderRow :=
  match event.kind with
  | .lock => lockRow D event row
  | .claim => claimRow D event row
  | .refund => statusRow .refunded row

/-- The order a live event is about. -/
def liveTarget (D : Deployment) (orders : List StoredOrder) (event : BridgeOrderEvent) :
    Option OrderRow :=
  match event.kind with
  | .lock => (truthy (event.hashlock.map D.toLowerCase)).bind (findHashlock orders)
  | .claim | .refund => resolve D orders event

theorem liveTarget_found {order : OrderRow} (h : liveTarget D orders event = some order) :
    ∃ p, findRow orders p = some order := by
  have hhashlock {hashlock : Option String}
      (h : hashlock.bind (fun hashlock => findHashlock orders hashlock) = some order) :
      ∃ p, findRow orders p = some order := by
    obtain ⟨hashlock, _, hfind⟩ := Option.bind_eq_some_iff.mp h
    exact ⟨_, hfind⟩
  have hresolve (h : resolve D orders event = some order) : ∃ p, findRow orders p = some order := by
    rcases orElse_eq_some.mp h with hid | ⟨_, hfallback⟩
    · obtain ⟨orderId, _, hfind⟩ := Option.bind_eq_some_iff.mp hid
      rcases orElse_eq_some.mp hfind with hsrc | ⟨_, hdst⟩
      · exact ⟨_, hsrc⟩
      · exact ⟨_, hdst⟩
    · obtain ⟨hashlock, _, hfind⟩ := Option.bind_eq_some_iff.mp hfallback
      exact ⟨_, hfind⟩
  unfold liveTarget at h
  cases hkind : event.kind with
  | lock =>
      rw [hkind] at h
      exact hhashlock h
  | claim =>
      rw [hkind] at h
      exact hresolve h
  | refund =>
      rw [hkind] at h
      exact hresolve h

theorem findRow_unique (hunique : UniqueIds orders) {p : OrderRow → Bool} {order : OrderRow}
    (h : findRow orders p = some order) : findId orders order.publicId = some order := by
  obtain ⟨stored, hmem, rfl, _⟩ := findRow_mem h
  exact findId_mem hunique hmem

/-! ## Runs -/

/-- How a handler of live events ends. -/
structure Handled (D : Deployment) (event : BridgeOrderEvent) (db : Database)
    (r : Except CoordinatorError BridgeEventOutcome) (u : Database) : Prop where
  outcome : ∀ o, r = .ok o → ∀ message, o ≠ .error message
  refusal : ∀ e, r = .error e → e.IsRefusal
  marks : SameMarks db u
  rows : UniqueIds db.orders → rowsOf u.orders =
    setRow (rowsOf db.orders) (liveTarget D db.orders event) (liveRow D event)

/-- An event that is not about any order, or is left alone. -/
theorem Handled.ignored {reason : String} (hkept : Kept db u)
    (hrow : ∀ order, liveTarget D db.orders event = some order → liveRow D event order = order) :
    Handled D event db (.ok (.ignored reason)) u where
  outcome o h message hmessage := by
    cases h
    cases hmessage
  refusal e h := by cases h
  marks := hkept.marks
  rows hunique := by
    rw [hkept.orders]
    cases htarget : liveTarget D db.orders event with
    | none => rfl
    | some order =>
        obtain ⟨p, hfind⟩ := liveTarget_found htarget
        exact (setRow_same hunique (findRow_unique hunique hfind) (hrow order htarget)).symm

/-- An event whose handling is one request. -/
theorem Handled.requested {edit : Edit} {guard : OrderRow → Except CoordinatorError Unit}
    {isSameStep : OrderRow → Bool} {order row : OrderRow} {r : Except CoordinatorError Unit}
    (htarget : liveTarget D db.orders event = some order)
    (hedit : edit.publicId = order.publicId)
    (hrow : ∀ row, row = order → liveRow D event row = edit.under guard row)
    (hfind : findId db.orders order.publicId = some row)
    (h : Requested edit guard isSameStep row db r u) :
    Handled D event db (r.map fun _ => .applied order.publicId) u where
  outcome o ho message hmessage := by
    cases r with
    | ok _ =>
        cases ho
        cases hmessage
    | error e => cases ho
  refusal e he := by
    cases r with
    | ok _ => cases he
    | error e' =>
        cases he
        exact h.refusal
  marks := h.marks
  rows hunique := by
    obtain ⟨p, hfound⟩ := liveTarget_found htarget
    have hself := findRow_unique hunique hfound
    rw [hself] at hfind
    obtain rfl := Option.some.inj hfind
    rw [htarget, setRow_congr hunique hself (hrow _ rfl)]
    exact h.rows hunique (by rw [hedit]; exact hself)

theorem run_resolveByHashlock (clock : ℕ → ℕ) (event : BridgeOrderEvent) (db : Database) :
    ∃ reads, run (exec (.calm clock)) (OrderEventApplier.resolveByHashlock D event) db =
      (.ok ((truthy event.hashlock).bind fun hashlock => findHashlock db.orders (D.toLowerCase hashlock)),
        { db with executed := db.executed + reads }) := by
  unfold OrderEventApplier.resolveByHashlock
  cases truthy event.hashlock with
  | none => exact ⟨0, rfl⟩
  | some hashlock => exact ⟨1, run_findByHashlock _ _⟩

theorem run_resolveOrder (clock : ℕ → ℕ) (event : BridgeOrderEvent) (db : Database) :
    ∃ reads, run (exec (.calm clock)) (OrderEventApplier.resolveOrder D event) db =
      (.ok (resolve D db.orders event), { db with executed := db.executed + reads }) := by
  unfold OrderEventApplier.resolveOrder resolve
  cases truthy event.orderId with
  | none => exact run_resolveByHashlock clock event db
  | some orderId =>
      dsimp only
      rw [run_bind, run_findBySrcOrderId, Option.bind_some]
      cases hsrc : db.bySrcOrderId event.chain orderId with
      | some order =>
          rw [show findSrc db.orders event.chain orderId = some order from hsrc]
          exact ⟨1, rfl⟩
      | none =>
          rw [show findSrc db.orders event.chain orderId = none from hsrc]
          dsimp only
          rw [run_bind, run_findByDstOrderId]
          cases hdst : db.byDstOrderId event.chain orderId with
          | some order =>
              rw [show db.tick.byDstOrderId event.chain orderId = some order from hdst,
                show findDst db.orders event.chain orderId = some order from hdst]
              exact ⟨2, rfl⟩
          | none =>
              rw [show db.tick.byDstOrderId event.chain orderId = none from hdst,
                show findDst db.orders event.chain orderId = none from hdst]
              obtain ⟨reads, hrun⟩ := run_resolveByHashlock (D := D) clock event db.tick.tick
              refine ⟨1 + (1 + reads), ?_⟩
              dsimp only
              rw [hrun]
              simp only [Database.tick, Nat.add_assoc]
              rfl

theorem recordSrcLock_requested (clock : ℕ → ℕ) (db : Database) (lock : SrcLock) (writer : String)
    {row : OrderRow}
    (hfind : findId db.orders lock.publicId = some row) :
    Requested (.srcLock lock) (OrderService.srcLockGuard D lock)
      (OrderService.srcLockRequest D lock writer).isSameStep row db
      (run (exec (.calm clock)) (OrderService.recordSrcLock D lock writer) db).1
      (run (exec (.calm clock)) (OrderService.recordSrcLock D lock writer) db).2 := by
  rw [run_recordSrcLock]
  exact advanced_requested (OrderService.srcLockRequest D lock writer) hfind rfl
    fun _ h => srcLockGuard_refusal h

theorem recordDstLock_requested (clock : ℕ → ℕ) (db : Database) (lock : DstLock) (writer : String)
    {row : OrderRow}
    (hfind : findId db.orders lock.publicId = some row) :
    Requested (.dstLock lock) (OrderService.dstLockGuard D lock)
      (OrderService.dstLockRequest D lock writer).isSameStep row db
      (run (exec (.calm clock)) (OrderService.recordDstLock D lock writer) db).1
      (run (exec (.calm clock)) (OrderService.recordDstLock D lock writer) db).2 := by
  rw [run_recordDstLock]
  exact advanced_requested (OrderService.dstLockRequest D lock writer) hfind rfl
    fun _ h => dstLockGuard_refusal h

theorem recordClaim_requested (clock : ℕ → ℕ) (db : Database) (publicId txHash writer : String)
    {row : OrderRow}
    (hfind : findId db.orders publicId = some row) :
    Requested (.status publicId .completed) (fun _ => .ok ()) (fun _ => true) row db
      (run (exec (.calm clock)) (OrderService.recordClaim publicId txHash writer) db).1
      (run (exec (.calm clock)) (OrderService.recordClaim publicId txHash writer) db).2 := by
  rw [run_recordClaim]
  exact advanced_requested (OrderService.statusRequest publicId .claim .completed _ writer)
    hfind rfl fun _ h => by cases h

theorem recordRefund_requested (clock : ℕ → ℕ) (db : Database) (publicId txHash writer : String)
    {row : OrderRow}
    (hfind : findId db.orders publicId = some row) :
    Requested (.status publicId .refunded) (fun _ => .ok ()) (fun _ => true) row db
      (run (exec (.calm clock)) (OrderService.recordRefund publicId txHash writer) db).1
      (run (exec (.calm clock)) (OrderService.recordRefund publicId txHash writer) db).2 := by
  rw [run_recordRefund]
  exact advanced_requested (OrderService.statusRequest publicId .refund .refunded _ writer)
    hfind rfl fun _ h => by cases h

theorem recordSecret_requested (clock : ℕ → ℕ) (db : Database)
    (publicId preimage txHash writer : String) {row : OrderRow}
    (hfind : findId db.orders publicId = some row) :
    Requested (.secret publicId (D.toLowerCase preimage) txHash) (fun _ => .ok ())
      (fun row => row.preimage = some (D.toLowerCase preimage)) row db
      (run (exec (.calm clock)) (OrderService.recordSecret D publicId preimage txHash writer) db).1
      (run (exec (.calm clock)) (OrderService.recordSecret D publicId preimage txHash writer) db).2 := by
  rw [run_recordSecret]
  exact advanced_requested (OrderService.secretRequest publicId (D.toLowerCase preimage) txHash writer)
    hfind rfl fun _ h => by cases h

theorem applyLock_handled (clock : ℕ → ℕ) (writer : String) (db : Database)
    (hkind : event.kind = .lock) :
    Handled D event db (run (exec (.calm clock)) (OrderEventApplier.applyLock D writer event) db).1
      (run (exec (.calm clock)) (OrderEventApplier.applyLock D writer event) db).2 := by
  have htarget : liveTarget D db.orders event =
      (truthy (event.hashlock.map D.toLowerCase)).bind (findHashlock db.orders) := by
    rw [liveTarget, hkind]
  have hrow (order : OrderRow) : liveRow D event order = lockRow D event order := by
    rw [liveRow, hkind]
  unfold OrderEventApplier.applyLock
  cases hhashlock : truthy (event.hashlock.map D.toLowerCase) with
  | none =>
      refine .ignored ⟨rfl, rfl, rfl, rfl⟩ fun order h => ?_
      rw [htarget, hhashlock] at h
      cases h
  | some hashlock =>
      rw [hhashlock, Option.bind_some] at htarget
      dsimp only
      rw [run_bind, run_findByHashlock]
      rw [show db.byHashlock hashlock = findHashlock db.orders hashlock from rfl]
      cases hfound : findHashlock db.orders hashlock with
      | none =>
          rw [hfound] at htarget
          refine .ignored ⟨rfl, rfl, rfl, rfl⟩ fun order h => ?_
          rw [htarget] at h
          cases h
      | some order =>
          rw [hfound] at htarget
          dsimp only
          obtain ⟨row, hfind⟩ := findRow_findId hfound
          cases htimelock : event.timelock with
          | none =>
              refine .ignored ⟨rfl, rfl, rfl, rfl⟩ fun order _ => ?_
              rw [hrow, lockRow, htimelock]
          | some timelock =>
              cases horderId : truthy event.orderId with
              | none =>
                  refine .ignored ⟨rfl, rfl, rfl, rfl⟩ fun order _ => ?_
                  rw [hrow, lockRow, htimelock, horderId]
              | some orderId =>
                  dsimp only
                  by_cases hchain : event.chain = order.srcChain
                  · rw [if_pos hchain, run_map]
                    have hrequested := recordSrcLock_requested (D := D) clock db.tick
                      (event.srcLock order orderId timelock) writer hfind
                    refine .requested htarget rfl ?_ hfind
                      (hrequested.of_kept ⟨rfl, rfl, rfl, rfl⟩)
                    rintro row rfl
                    rw [hrow, lockRow, htimelock, horderId]
                    exact if_pos hchain
                  · rw [if_neg hchain, run_map]
                    have hrequested := recordDstLock_requested (D := D) clock db.tick
                      (event.dstLock order orderId timelock) writer hfind
                    refine .requested htarget rfl ?_ hfind
                      (hrequested.of_kept ⟨rfl, rfl, rfl, rfl⟩)
                    rintro row rfl
                    rw [hrow, lockRow, htimelock, horderId]
                    exact if_neg hchain

theorem applyRefund_handled (clock : ℕ → ℕ) (writer : String) (db : Database)
    (hkind : event.kind = .refund) :
    Handled D event db (run (exec (.calm clock)) (OrderEventApplier.applyRefund D writer event) db).1
      (run (exec (.calm clock)) (OrderEventApplier.applyRefund D writer event) db).2 := by
  have htarget : liveTarget D db.orders event = resolve D db.orders event := by
    rw [liveTarget, hkind]
  obtain ⟨reads, hresolved⟩ := run_resolveOrder (D := D) clock event db
  rw [OrderEventApplier.applyRefund, run_bind, hresolved]
  cases hresolve : resolve D db.orders event with
  | none =>
      refine .ignored ⟨rfl, rfl, rfl, rfl⟩ fun order h => ?_
      rw [htarget, hresolve] at h
      cases h
  | some order =>
      rw [hresolve] at htarget
      obtain ⟨p, hfound⟩ := liveTarget_found htarget
      obtain ⟨row, hfind⟩ := findRow_findId hfound
      dsimp only
      rw [run_map]
      have hrequested := recordRefund_requested clock
        { db with executed := db.executed + reads } order.publicId event.txHash writer hfind
      refine .requested htarget rfl ?_ hfind (hrequested.of_kept ⟨rfl, rfl, rfl, rfl⟩)
      rintro row rfl
      rw [liveRow, hkind]
      rfl

theorem canonical_preimage {preimage : String}
    (h : truthy (event.preimage.map D.toLowerCase) = some preimage) :
    D.toLowerCase preimage = preimage := by
  obtain ⟨hgiven, -⟩ := Option.filter_eq_some_iff.mp h
  obtain ⟨given, _, rfl⟩ := Option.map_eq_some_iff.mp hgiven
  exact D.toLowerCase_idem given

/-- A secret that is refused ends the claim. -/
theorem handled_refused {order row : OrderRow} {preimage : String} {e : CoordinatorError}
    (htarget : liveTarget D db.orders event = some order) (hkind : event.kind = .claim)
    (hpreimage : truthy (event.preimage.map D.toLowerCase) = some preimage)
    (hunknown : order.preimage ≠ some preimage) (hfind : findId db.orders order.publicId = some row)
    (hsecret : Requested (.secret order.publicId preimage event.txHash) (fun _ => .ok ())
      (fun row => row.preimage = some preimage) row db (.error e) u) :
    Handled D event db (.error e) u where
  outcome o ho := by cases ho
  refusal e he := by
    cases he
    exact hsecret.refusal
  marks := hsecret.marks
  rows hunique := by
    obtain ⟨p, hfound⟩ := liveTarget_found htarget
    have hself := findRow_unique hunique hfound
    rw [hself] at hfind
    obtain rfl := Option.some.inj hfind
    cases hsecret with
    | refused _ hguard _ hkept =>
        have hedge : ¬ IsEdge order.status .secretRevealed := fun h => hguard h rfl
        have hlive : liveRow D event order = order := by
          rw [liveRow, hkind]
          dsimp only
          rw [claimRow, hpreimage]
          dsimp only
          rw [if_pos hunknown, if_neg hedge]
        rw [htarget, setRow_same hunique hself hlive, hkept.orders]

/-- The row of a claim that reveals a new preimage. -/
theorem liveRow_newSecret {order : OrderRow} {preimage : String} (hkind : event.kind = .claim)
    (hpreimage : truthy (event.preimage.map D.toLowerCase) = some preimage)
    (hunknown : order.preimage ≠ some preimage) (hedge : IsEdge order.status .secretRevealed) :
    liveRow D event order = statusRow .completed (order.withSecret preimage event.txHash) := by
  rw [liveRow, hkind]
  dsimp only
  rw [claimRow, hpreimage]
  dsimp only
  rw [if_pos hunknown, if_pos hedge]

/-- A secret that was recorded, and then the settlement. -/
theorem handled_claim {order row row' : OrderRow} {preimage : String}
    {r : Except CoordinatorError Unit}
    (htarget : liveTarget D db.orders event = some order) (hkind : event.kind = .claim)
    (hpreimage : truthy (event.preimage.map D.toLowerCase) = some preimage)
    (hunknown : order.preimage ≠ some preimage) (hfind : findId db.orders order.publicId = some row)
    (hsecret : Requested (.secret order.publicId preimage event.txHash) (fun _ => .ok ())
      (fun row => row.preimage = some preimage) row db (.ok ()) v)
    (hfind' : findId v.orders order.publicId = some row')
    (hclaim : Requested (.status order.publicId .completed) (fun _ => .ok ()) (fun _ => true) row' v
      r u) :
    Handled D event db (r.map fun _ => .applied order.publicId) u where
  outcome o ho message hmessage := by
    cases r with
    | ok _ =>
        cases ho
        cases hmessage
    | error e => cases ho
  refusal e he := by
    cases r with
    | ok _ => cases he
    | error e' =>
        cases he
        exact hclaim.refusal
  marks := hsecret.marks.trans hclaim.marks
  rows hunique := by
    obtain ⟨p, hfound⟩ := liveTarget_found htarget
    have hself := findRow_unique hunique hfound
    rw [hself] at hfind
    obtain rfl := Option.some.inj hfind
    have hfirst := hsecret.rows hunique hself
    have hids (row : OrderRow) :
        ((Edit.secret order.publicId preimage event.txHash).under (fun _ => .ok ()) row).publicId =
          row.publicId := Edit.under_publicId _ _ _
    have hunique' : UniqueIds v.orders := by
      rw [uniqueIds_rows, hfirst, setRow_publicIds _ _ hids]
      exact uniqueIds_rows.mp hunique
    have hedge : IsEdge order.status .secretRevealed := by
      cases hsecret with
      | written hedge _ _ => exact hedge
      | repeated _ hstep _ => exact absurd (of_decide_eq_true hstep) hunknown
    rw [hclaim.rows hunique' hfind', hfirst, setRow_setRow _ hids (findId_publicId hfind'), htarget]
    refine setRow_congr hunique hself ?_
    have hset : (Edit.secret order.publicId preimage event.txHash).under (fun _ => .ok ()) order =
        order.withSecret preimage event.txHash := if_pos ⟨hedge, rfl⟩
    have hlive := liveRow_newSecret hkind hpreimage hunknown hedge
    rw [hset, hlive]
    rfl

theorem applyClaim_handled (clock : ℕ → ℕ) (writer : String) (db : Database)
    (hkind : event.kind = .claim) :
    Handled D event db (run (exec (.calm clock)) (OrderEventApplier.applyClaim D writer event) db).1
      (run (exec (.calm clock)) (OrderEventApplier.applyClaim D writer event) db).2 := by
  have htarget : liveTarget D db.orders event = resolve D db.orders event := by
    rw [liveTarget, hkind]
  have hrow (order : OrderRow) : liveRow D event order = claimRow D event order := by
    rw [liveRow, hkind]
  obtain ⟨reads, hresolved⟩ := run_resolveOrder (D := D) clock event db
  rw [OrderEventApplier.applyClaim, run_bind, hresolved]
  cases hresolve : resolve D db.orders event with
  | none =>
      refine .ignored ⟨rfl, rfl, rfl, rfl⟩ fun order h => ?_
      rw [htarget, hresolve] at h
      cases h
  | some order =>
      rw [hresolve] at htarget
      obtain ⟨p, hfound⟩ := liveTarget_found htarget
      obtain ⟨row, hfind⟩ := findRow_findId hfound
      have hkept : Kept db { db with executed := db.executed + reads } := ⟨rfl, rfl, rfl, rfl⟩
      have hsettled (hknown : ∀ preimage,
          truthy (event.preimage.map D.toLowerCase) = some preimage → order.preimage = some preimage) :
          Handled D event db
            (run (exec (.calm clock)) (OrderService.recordClaim order.publicId event.txHash writer >>=
              fun _ => pure (BridgeEventOutcome.applied order.publicId))
              { db with executed := db.executed + reads }).1
            (run (exec (.calm clock)) (OrderService.recordClaim order.publicId event.txHash writer >>=
              fun _ => pure (BridgeEventOutcome.applied order.publicId))
              { db with executed := db.executed + reads }).2 := by
        rw [run_map]
        have hrequested := recordClaim_requested clock { db with executed := db.executed + reads }
          order.publicId event.txHash writer hfind
        refine .requested htarget rfl ?_ hfind (hrequested.of_kept hkept)
        rintro row rfl
        rw [hrow, claimRow]
        cases hpreimage : truthy (event.preimage.map D.toLowerCase) with
        | none => rfl
        | some preimage =>
            dsimp only
            rw [if_neg (not_not_intro (hknown preimage hpreimage))]
            rfl
      dsimp only
      cases hpreimage : truthy (event.preimage.map D.toLowerCase) with
      | none =>
          refine hsettled fun preimage h => ?_
          rw [hpreimage] at h
          cases h
      | some preimage =>
          dsimp only
          by_cases hunknown : order.preimage ≠ some preimage
          · rw [if_pos hunknown, run_bind]
            have hsecret := recordSecret_requested (D := D) clock
              { db with executed := db.executed + reads } order.publicId preimage event.txHash writer
              hfind
            rw [canonical_preimage hpreimage] at hsecret
            cases hrun : run (exec (.calm clock))
                (OrderService.recordSecret D order.publicId preimage event.txHash writer)
                { db with executed := db.executed + reads } with
            | mk r v =>
                rw [hrun] at hsecret
                have hsecret := hsecret.of_kept hkept
                cases r with
                | error e => exact handled_refused htarget hkind hpreimage hunknown hfind hsecret
                | ok _ =>
                    obtain ⟨row', hfind'⟩ := hsecret.stays hfind
                    dsimp only
                    rw [run_map]
                    exact handled_claim htarget hkind hpreimage hunknown hfind hsecret hfind'
                      (recordClaim_requested clock v order.publicId event.txHash writer hfind')
          · rw [if_neg hunknown]
            refine hsettled fun given h => ?_
            rw [hpreimage] at h
            obtain rfl := Option.some.inj h
            exact not_not.mp hunknown

theorem outcomeOf_refusal {e : CoordinatorError} (h : e.IsRefusal) (message : String) :
    OrderEventApplier.outcomeOf e ≠ .error message := by
  cases e with
  | validation => nofun
  | rejected => nofun
  | _ => exact h.elim

/-- While no statement fails, a live event changes the row of its order and no other, and its
outcome is not an error. -/
theorem apply_live (D : Deployment) (clock : ℕ → ℕ) (writer : String) (event : BridgeOrderEvent)
    (db : Database) :
    ∃ outcome u, run (exec (.calm clock)) (OrderEventApplier.apply D writer event) db =
        (.ok outcome, u) ∧ (∀ message, outcome ≠ .error message) ∧ SameMarks db u ∧
      (UniqueIds db.orders → rowsOf u.orders =
        setRow (rowsOf db.orders) (liveTarget D db.orders event) (liveRow D event)) := by
  have hhandled (p : Task BridgeEventOutcome)
      (h : Handled D event db (run (exec (.calm clock)) p db).1 (run (exec (.calm clock)) p db).2) :
      ∃ outcome u, run (exec (.calm clock))
          (tryCatch p fun e => pure (OrderEventApplier.outcomeOf e)) db = (.ok outcome, u) ∧
        (∀ message, outcome ≠ .error message) ∧ SameMarks db u ∧
        (UniqueIds db.orders → rowsOf u.orders =
          setRow (rowsOf db.orders) (liveTarget D db.orders event) (liveRow D event)) := by
    rw [run_tryCatch]
    cases hrun : run (exec (.calm clock)) p db with
    | mk r u =>
        rw [hrun] at h
        cases r with
        | ok outcome => exact ⟨outcome, u, rfl, h.outcome outcome rfl, h.marks, h.rows⟩
        | error e => exact ⟨_, u, rfl, outcomeOf_refusal (h.refusal e rfl), h.marks, h.rows⟩
  rw [OrderEventApplier.apply]
  cases hkind : event.kind with
  | lock => exact hhandled _ (applyLock_handled clock writer db hkind)
  | claim => exact hhandled _ (applyClaim_handled clock writer db hkind)
  | refund => exact hhandled _ (applyRefund_handled clock writer db hkind)

end OverSync.Coordinator
