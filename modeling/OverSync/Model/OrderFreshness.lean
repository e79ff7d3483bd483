import Mathlib.Data.Int.Notation

/-! # The refund hint of the frontend

`classifyOrderFreshness`. Times are integers; a clock of JavaScript ends before the doubles that
are not exact. -/

namespace OverSync.OrderFreshness

inductive FreshnessLabel where
  | fresh
  | pending
  | stale
  | refundSoon
  | refundEligible
  deriving DecidableEq, Repr

structure FreshnessResult where
  label : FreshnessLabel
  hint : String
  deriving DecidableEq, Repr

def freshThresholdMs : ℤ := 3 * 60 * 1000
def pendingThresholdMs : ℤ := 8 * 60 * 1000
def staleThresholdMs : ℤ := 20 * 60 * 1000
def refundSoonWindowMs : ℤ := 15 * 60 * 1000

def terminalStatuses : List String := ["completed", "refunded", "failed", "cancelled"]

structure OrderFreshnessInput where
  status : String
  updatedAt : ℤ
  nowMs : ℤ
  timelockUnixSeconds : Option ℤ
  deriving DecidableEq, Repr

def fresh : FreshnessResult := ⟨.fresh, ""⟩

/-- The classification by age, for orders whose timelock is not near. -/
def classifyAge (ageMs : ℤ) : FreshnessResult :=
  if ageMs < freshThresholdMs then fresh
  else if ageMs < pendingThresholdMs then
    ⟨.pending, "Still processing — cross-chain swaps can take a few minutes."⟩
  else if ageMs < staleThresholdMs then
    ⟨.stale, "Taking longer than expected. Check back soon or refresh to get the latest status."⟩
  else
    ⟨.stale, "This order has been pending for a while. " ++
      "Try refreshing, or contact support if you need help."⟩

/-- `Math.ceil(ms / 60_000)` -/
def ceilMinutes (ms : ℤ) : ℤ := -(-ms / 60000)

def refundSoonHint (minutesLeft : ℤ) : String :=
  "Timelock expires in ~" ++ toString minutesLeft ++
    " min. If the swap doesn't complete, you'll be able to refund."

def classifyOrderFreshness (input : OrderFreshnessInput) : FreshnessResult :=
  if input.status ∈ terminalStatuses then fresh
  else
    match input.timelockUnixSeconds with
    | some timelockUnixSeconds =>
      let timelockMs := timelockUnixSeconds * 1000
      if input.nowMs ≥ timelockMs then
        ⟨.refundEligible, "Timelock expired. You can request a refund now."⟩
      else if timelockMs - input.nowMs ≤ refundSoonWindowMs then
        ⟨.refundSoon, refundSoonHint (ceilMinutes (timelockMs - input.nowMs))⟩
      else classifyAge (input.nowMs - input.updatedAt)
    | none => classifyAge (input.nowMs - input.updatedAt)

end OverSync.OrderFreshness
