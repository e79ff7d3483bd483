import OverSync.Verification.Coordinator.LiveEvents
import Mathlib.Data.List.Find

/-! # Live delivery and one order

Events are delivered to the live applier one by one. Where they are about one order, the book is
the first one with the row of that order replaced. -/

namespace OverSync.Coordinator

open Library Library.Procedure

variable {D : Deployment} {clock : ℕ → ℕ} {db u : Database} {orders orders' : List StoredOrder}
  {order row : OrderRow} {event : BridgeOrderEvent}

/-! ## Delivery -/

/-- The listener of a chain. -/
def listenerOf : Chain → String
  | .ethereum => EthereumListener.writer
  | .stellar => SorobanListener.writer

/-- The database after an event has been applied live, while no statement fails. -/
def deliver (D : Deployment) (clock : ℕ → ℕ) (event : BridgeOrderEvent) (db : Database) : Database :=
  (run (exec (.calm clock)) (OrderEventApplier.apply D (listenerOf event.chain) event) db).2

/-! ## One order among others -/

/-- A later state of the row of an order. -/
structure SameOrder (order row : OrderRow) : Prop where
  publicId : row.publicId = order.publicId
  hashlock : row.hashlock = order.hashlock
  srcChain : row.srcChain = order.srcChain
  dstChain : row.dstChain = order.dstChain

theorem SameOrder.refl (order : OrderRow) : SameOrder order order := ⟨rfl, rfl, rfl, rfl⟩

theorem SameOrder.edit (h : SameOrder order row) (edit : Edit) : SameOrder order (edit.set row) := by
  cases edit <;> exact ⟨h.publicId, h.hashlock, h.srcChain, h.dstChain⟩

theorem SameOrder.under (h : SameOrder order row) (edit : Edit)
    (guard : OrderRow → Except CoordinatorError Unit) : SameOrder order (edit.under guard row) := by
  unfold Edit.under
  split
  · exact h.edit edit
  · exact h

theorem SameOrder.live (h : SameOrder order row) (D : Deployment) (event : BridgeOrderEvent) :
    SameOrder order (liveRow D event row) := by
  have hsettled (value : OrderStatus) {row : OrderRow} (h : SameOrder order row) :
      SameOrder order (statusRow value row) := h.under _ _
  unfold liveRow
  cases event.kind with
  | refund => exact hsettled _ h
  | lock =>
      dsimp only
      unfold lockRow
      split
      · split
        · exact h.under _ _
        · exact h.under _ _
      · exact h
  | claim =>
      dsimp only
      unfold claimRow
      split
      · exact hsettled _ h
      · rename_i preimage _
        split
        · split
          · exact hsettled _ (h.edit (.secret row.publicId preimage event.txHash))
          · exact h
        · exact hsettled _ h

/-- The order book with the row of an order replaced. -/
def Replaced (orders : List StoredOrder) (order row : OrderRow) (orders' : List StoredOrder) : Prop :=
  rowsOf orders' = setRow (rowsOf orders) (some order) fun _ => row

theorem Replaced.refl (hunique : UniqueIds orders)
    (horder : findId orders order.publicId = some order) : Replaced orders order order orders :=
  (setRow_same hunique horder rfl).symm

section Replaced

variable (hunique : UniqueIds orders) (hbook : Replaced orders order row orders')

include hunique hbook

theorem replaced_uniqueIds (hid : row.publicId = order.publicId) : UniqueIds orders' := by
  have hids : (rowsOf orders').map (·.publicId) = (rowsOf orders).map (·.publicId) := by
    rw [hbook, setRow, List.map_map]
    refine List.map_congr_left fun other _ => ?_
    rw [Function.comp_apply]
    split
    · rename_i hother
      rw [hid, hother]
    · rfl
  rw [uniqueIds_rows, hids]
  exact uniqueIds_rows.mp hunique

variable (horder : findId orders order.publicId = some order)

include horder

/-- A lookup that does not tell the new row from the old one. -/
theorem replaced_find {p : OrderRow → Bool} (hp : p row = p order) :
    findRow orders' p =
      (findRow orders p).map fun other => if other.publicId = order.publicId then row else other := by
  have hrows (other : OrderRow) (hother : other ∈ rowsOf orders) :
      p (if other.publicId = order.publicId then row else other) = p other := by
    split
    · rename_i hid
      rw [rows_unique hunique horder hother hid, hp]
    · rfl
  have hcongr : (rowsOf orders).find? (p ∘ fun other =>
      if other.publicId = order.publicId then row else other) = (rowsOf orders).find? p :=
    List.find?_congr hrows
  rw [findRow_rows, findRow_rows, hbook, setRow, List.find?_map, hcongr]

theorem replaced_shared {p : OrderRow → Bool} (hp : p row = p order)
    (hfind : findRow orders p = some order) : findRow orders' p = some row := by
  rw [replaced_find hunique hbook horder hp, hfind, Option.map_some, if_pos rfl]

theorem replaced_findId (hid : row.publicId = order.publicId) :
    findId orders' order.publicId = some row :=
  replaced_shared hunique hbook horder (by simp [hid]) horder

/-- A lookup that finds nothing in the old book finds the new row or nothing. -/
theorem replaced_fresh {p : OrderRow → Bool} (hfresh : findRow orders p = none) :
    findRow orders' p = if p row then some row else none := by
  have hnone : ∀ other ∈ rowsOf orders, p other = false := by
    rw [findRow_rows, List.find?_eq_none] at hfresh
    simpa using hfresh
  obtain ⟨stored, hmem, hstored, _⟩ := findRow_mem horder
  have hrow : order ∈ rowsOf orders := List.mem_map.mpr ⟨stored, hmem, hstored⟩
  cases hp : p row with
  | false =>
      have hsame : p row = p order := by rw [hp, hnone order hrow]
      rw [replaced_find hunique hbook horder hsame, hfresh, Option.map_none,
        if_neg Bool.false_ne_true]
  | true =>
      rw [if_pos rfl, findRow_rows, hbook]
      have hmem' : row ∈ setRow (rowsOf orders) (some order) fun _ => row :=
        List.mem_map.mpr ⟨order, hrow, if_pos rfl⟩
      cases hresult : (setRow (rowsOf orders) (some order) fun _ => row).find? p with
      | none =>
          rw [List.find?_eq_none] at hresult
          exact absurd hp (hresult row hmem')
      | some found =>
          have hfound := List.mem_of_find?_eq_some hresult
          have hpfound := List.find?_some hresult
          obtain ⟨old, hold, rfl⟩ := List.mem_map.mp hfound
          split at hpfound
          · rename_i hid
            rw [if_pos hid]
          · rw [hnone old hold] at hpfound
            cases hpfound

end Replaced

/-- An event that is about the order changes its row, and no other. -/
theorem deliver_found (clock : ℕ → ℕ) (hunique : UniqueIds orders)
    (hid : row.publicId = order.publicId) (hbook : Replaced orders order row db.orders)
    (htarget : liveTarget D db.orders event = some row) :
    Replaced orders order (liveRow D event row) (deliver D clock event db).orders := by
  obtain ⟨outcome, u, hrun, _, _, hrows⟩ := apply_live D clock (listenerOf event.chain) event db
  rw [htarget] at hrows
  rw [deliver, hrun, Replaced, hrows (replaced_uniqueIds hunique hbook hid), hbook, setRow, setRow,
    setRow, List.map_map]
  refine List.map_congr_left fun other _ => ?_
  rw [Function.comp_apply]
  by_cases hother : other.publicId = order.publicId
  · rw [if_pos hother, if_pos rfl, if_pos hother]
  · rw [if_neg hother, hid, if_neg hother, if_neg hother]

/-- An event that is about no order changes nothing. -/
theorem deliver_missed (clock : ℕ → ℕ) (hunique : UniqueIds db.orders)
    (htarget : liveTarget D db.orders event = none) :
    rowsOf (deliver D clock event db).orders = rowsOf db.orders := by
  obtain ⟨outcome, u, hrun, _, _, hrows⟩ := apply_live D clock (listenerOf event.chain) event db
  rw [htarget] at hrows
  rw [deliver, hrun, hrows hunique]
  rfl

end OverSync.Coordinator
