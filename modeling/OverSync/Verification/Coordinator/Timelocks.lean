import OverSync.Verification.Coordinator.Preimages

/-! # The timelock gap of the order book -/

namespace OverSync.Coordinator

open Library

variable {D : Deployment} {cond : Conditions} {db : Database} {orders orders' : List StoredOrder}

/-- Timelocks that are both recorded keep their order and their gap. -/
def RowGap (D : Deployment) (row : OrderRow) : Prop :=
  ∀ s d, row.srcTimelock = some s → row.dstTimelock = some d → GapOk D s d

structure BookGap (D : Deployment) (orders : List StoredOrder) : Prop where
  unique : UniqueIds orders
  rows : ∀ stored ∈ orders, RowGap D stored.toOrderRow

/-- A lock is compared with the timelock of the other leg before it is written; nothing else
writes a timelock. -/
theorem OrderChange.bookGap (h : OrderChange D orders orders') (hgap : BookGap D orders) :
    BookGap D orders' := by
  refine ⟨h.uniqueIds hgap.unique, ?_⟩
  cases h with
  | announced hadded => exact hadded.rows hgap.rows fun _ _ s _ hs _ => by cases hs
  | srcLock hedit =>
      refine hedit.rows hgap.unique hgap.rows ?_
      intro order _ _ hguard _ s d hs hd
      obtain rfl := Option.some.inj hs
      exact hguard d hd
  | dstLock hedit =>
      refine hedit.rows hgap.unique hgap.rows ?_
      intro order _ _ hguard _ s d hs hd
      obtain rfl := Option.some.inj hd
      exact hguard s hs
  | secret hedit => exact hedit.rows hgap.unique hgap.rows fun _ _ _ _ hrow => hrow
  | status hedit => exact hedit.rows hgap.unique hgap.rows fun _ _ _ _ hrow => hrow

/-- However the calls of the order service follow one another and whatever timelocks they
carry, two recorded timelocks keep their order and the configured gap. -/
theorem timelock_gap {calls : List OrderCall}
    (h : Execution (CallStep (OrderCall.run D cond) fun _ _ => True) .empty calls db) :
    ∀ stored ∈ db.orders, ∀ s d, stored.srcTimelock = some s → stored.dstTimelock = some d →
      d < s ∧ D.minGapSeconds ≤ s - d := by
  have hempty : BookGap D Database.empty.orders := ⟨List.nodup_nil, by simp [Database.empty]⟩
  have hgap : BookGap D db.orders := h.invariant hempty fun {u call v} hu hstep => by
    rw [hstep.2]
    exact (orderCall_change cond u call).bookGap hu
  exact hgap.rows

theorem timelock_gap_order7 :
    let calls : List OrderCall :=
      [.announce (.ok ()) "a1" input7,
        .markStatus "a1" .srcLocked "order-service",
        .recordDstLock ⟨"a1", "9", "0xcc", 50, 1700000600, none⟩ "order-service",
        .recordSrcLock ⟨"a1", "7", "0xaa", 100, 1700000601⟩ "order-service",
        .announce (.ok ()) "a2" { input7 with hashlock := "0x1" },
        .recordSrcLock ⟨"a2", "8", "0xaa", 100, 1700001200⟩ "order-service",
        .recordDstLock ⟨"a2", "10", "0xcc", 50, 1700000601, none⟩ "order-service",
        .recordDstLock ⟨"a2", "10", "0xcc", 50, 1700000600, none⟩ "order-service"]
    let db := runAll (OrderCall.run deployment7 calm7) calls .empty
    (db.orders.map fun stored => (stored.srcTimelock, stored.dstTimelock)) =
        [(none, some 1700000600), (some 1700001200, some 1700000600)] ∧
      ∀ stored ∈ db.orders, ∀ s d, stored.srcTimelock = some s → stored.dstTimelock = some d →
        d < s ∧ deployment7.minGapSeconds ≤ s - d :=
  ⟨by decide, timelock_gap (runAll_execution _ _)⟩

end OverSync.Coordinator
