import OverSync.Model.Coordinator.Database
import Mathlib.Data.Int.Notation

/-! # Refund eligibility

`evaluateRefundEligibility` and `GET /api/orders/:id/refund-eligibility`. -/

namespace OverSync.Coordinator

/-- The recorded timelock of each chain. -/
structure ChainTimelocks where
  ethereum : Option ℤ
  stellar : Option ℤ
  deriving DecidableEq, Repr

def ChainTimelocks.entries (timelocks : ChainTimelocks) : List (Chain × Option ℤ) :=
  [(.ethereum, timelocks.ethereum), (.stellar, timelocks.stellar)]

structure LockedSide where
  chain : Chain
  earliestRefundAt : Option ℤ
  deriving DecidableEq, Repr

structure RefundEligibility where
  eligible : Bool
  lockedSides : List LockedSide
  deriving DecidableEq, Repr

def evaluateRefundEligibility (timelocks : ChainTimelocks) (nowUnixSeconds : ℤ) :
    RefundEligibility :=
  let lockedSides := (timelocks.entries.filter fun entry =>
      entry.2.all fun timelock => nowUnixSeconds ≤ timelock).map fun entry =>
    LockedSide.mk entry.1 (entry.2.map (· + 1))
  { eligible := lockedSides.length = 0, lockedSides := lockedSides }

inductive EligibilityAnswer where
  /-- Status 404. -/
  | notFound
  | answered (eligibility : RefundEligibility)
  deriving DecidableEq, Repr

def OrderRow.chainTimelocks (order : OrderRow) : ChainTimelocks where
  ethereum := if order.srcChain = .ethereum then order.srcTimelock else order.dstTimelock
  stellar := if order.srcChain = .stellar then order.srcTimelock else order.dstTimelock

/-- The route; `clockMs` is the answer of `Date.now()`. -/
def refundEligibilityRoute (db : Database) (id : String) (clockMs : ℤ) : EligibilityAnswer :=
  match db.byPublicId id with
  | none => .notFound
  | some order =>
    .answered (evaluateRefundEligibility order.chainTimelocks (clockMs / 1000))

end OverSync.Coordinator
