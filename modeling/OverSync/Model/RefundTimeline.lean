import Mathlib.Data.Int.Notation

/-! # The refund timeline of the SDK

`simulateRefundTimeline`: what a user of a swap can do, told from the two timelocks and a
clock. Times are whole seconds. -/

namespace OverSync.RefundTimeline

inductive SimulatorDirection where
  | ethToXlm
  | xlmToEth
  deriving DecidableEq, Repr

inductive SimulatedState where
  | waiting
  | claimable
  | refundable
  deriving DecidableEq, Repr

structure RefundTimelineInput where
  direction : SimulatorDirection
  sourceTimelockUnixSeconds : ℤ
  destinationTimelockUnixSeconds : ℤ
  sourceLockObserved : Bool
  destinationLockObserved : Bool
  nowUnixSeconds : Option ℤ
  deriving DecidableEq, Repr

structure RefundTimelineResult where
  state : SimulatedState
  stateLabel : String
  stateDescription : String
  /-- Milliseconds; `none` is an invalid date. -/
  sourceTimelockExpiry : Option ℤ
  destinationTimelockExpiry : Option ℤ
  claimableBy : String
  refundableBy : String
  isReadonly : Bool
  deriving DecidableEq, Repr

structure Labels where
  source : String
  destination : String
  deriving DecidableEq, Repr

def directionLabels : SimulatorDirection → Labels
  | .ethToXlm => ⟨"Ethereum", "Stellar"⟩
  | .xlmToEth => ⟨"Stellar", "Ethereum"⟩

/-- The label of a state and its description. -/
def describeState (state : SimulatedState) (labels : Labels) : String × String :=
  match state with
  | .waiting =>
    ("Waiting", "The " ++ labels.destination ++ " lock has not been observed yet, or timelocks " ++
      "are still active. No action is available yet.")
  | .claimable =>
    ("Claimable", "Funds are locked on " ++ labels.destination ++ ". You can claim them before " ++
      "the destination timelock expires by providing the correct hashlock preimage.")
  | .refundable =>
    ("Refundable", "Both chain timelocks have expired. You can refund your original deposit " ++
      "from the " ++ labels.source ++ " HTLC contract.")

/-- `new Date(seconds * 1000)` -/
def dateOfSeconds (seconds : ℤ) : Option ℤ :=
  if (seconds * 1000).natAbs ≤ 8640000000000000 then some (seconds * 1000) else none

def simulatedState (input : RefundTimelineInput) (now : ℤ) : SimulatedState :=
  let srcExpired := now > input.sourceTimelockUnixSeconds
  let dstExpired := now > input.destinationTimelockUnixSeconds
  if !input.sourceLockObserved || !input.destinationLockObserved then .waiting
  else if srcExpired ∧ dstExpired then .refundable
  else if ¬dstExpired then .claimable
  else .waiting

def claimDesc : SimulatorDirection → String
  | .ethToXlm => "You can claim XLM on Stellar (destination) before the destination timelock expires."
  | .xlmToEth => "You can claim ETH on Ethereum (destination) before the destination timelock expires."

def refundDesc : SimulatorDirection → String
  | .ethToXlm => "You can refund ETH on Ethereum (source) after both chain timelocks expire."
  | .xlmToEth => "You can refund XLM on Stellar (source) after both chain timelocks expire."

/-- `clockMs` is the answer of `Date.now()`. -/
def simulateRefundTimeline (input : RefundTimelineInput) (clockMs : ℤ) : RefundTimelineResult :=
  let now := input.nowUnixSeconds.getD (clockMs / 1000)
  let state := simulatedState input now
  let described := describeState state (directionLabels input.direction)
  { state := state
    stateLabel := described.1
    stateDescription := described.2
    sourceTimelockExpiry := dateOfSeconds input.sourceTimelockUnixSeconds
    destinationTimelockExpiry := dateOfSeconds input.destinationTimelockUnixSeconds
    claimableBy := claimDesc input.direction
    refundableBy := refundDesc input.direction
    isReadonly := true }

end OverSync.RefundTimeline
