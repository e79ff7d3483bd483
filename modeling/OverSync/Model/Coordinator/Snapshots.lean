import OverSync.Model.Coordinator.Services

/-! # Public snapshots of finished orders -/

namespace OverSync.Coordinator

/-- The public fields of an order; `timestamps` is the pair of the two times. -/
structure OrderSnapshot where
  orderId : String
  currentState : OrderStatus
  transitions : List String
  publicTxHashes : List String
  timestamps : ℕ × ℕ
  direction : Direction
  outcomeSummary : String
  deriving DecidableEq, Repr

def deriveTransitions : OrderStatus → List String
  | .completed => ["announced", "src_locked", "dst_locked", "secret_revealed", "completed"]
  | .refunded => ["announced", "src_locked", "dst_locked", "secret_revealed", "refunded"]
  | .failed => ["announced", "failed"]
  | .expired => ["announced", "expired"]
  | status => [status.text]

def buildSnapshot (order : StoredOrder) : OrderSnapshot where
  orderId := order.publicId
  currentState := order.status
  transitions := deriveTransitions order.status
  publicTxHashes := [order.srcLockTx, order.dstLockTx, order.secretRevealedTx].filterMap id
  timestamps := (order.createdAt, order.updatedAt)
  direction := order.direction
  outcomeSummary :=
    match order.status with
    | .completed => "Order completed successfully"
    | .refunded => "Order refunded"
    | .failed => "Order failed"
    | _ => "Order expired"

/-- `status IN ('completed', 'refunded', 'failed', 'expired')` -/
def OrderStatus.isFinished : OrderStatus → Bool
  | .completed | .refunded | .failed | .expired => true
  | _ => false

/-- `ORDER BY updated_at DESC`, with rows of one time in the order of their ids. -/
def OrdersRepository.getCompletedOrderSnapshots (db : Database) : List OrderSnapshot :=
  let rows := db.orders.filter fun stored => stored.status.isFinished
  (rows.insertionSort fun a b => b.updatedAt ≤ a.updatedAt).map buildSnapshot

end OverSync.Coordinator
