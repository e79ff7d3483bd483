import Mathlib.Data.List.Basic

/-! # The coordinator's order machine

The order lifecycle is a list of named edges. The tables of the source are derived from it
here as there. -/

namespace OverSync.Coordinator

inductive OrderStatus where
  | announced
  | srcLocked
  | dstLocked
  | secretRevealed
  | completed
  | refunded
  | failed
  | expired
  deriving DecidableEq, Repr

def OrderStatus.text : OrderStatus → String
  | .announced => "announced"
  | .srcLocked => "src_locked"
  | .dstLocked => "dst_locked"
  | .secretRevealed => "secret_revealed"
  | .completed => "completed"
  | .refunded => "refunded"
  | .failed => "failed"
  | .expired => "expired"

inductive OrderTransitionAction where
  | escrow
  | secretRelay
  | secret
  | claim
  | refund
  | fail
  | expire
  deriving DecidableEq, Repr

structure OrderEdge where
  action : OrderTransitionAction
  «to» : OrderStatus
  «from» : List OrderStatus

/-- `ORDER_EDGES` -/
def orderEdges : List OrderEdge :=
  [⟨.escrow, .srcLocked, [.announced]⟩,
    ⟨.secretRelay, .dstLocked, [.srcLocked]⟩,
    ⟨.secret, .secretRevealed, [.srcLocked, .dstLocked]⟩,
    ⟨.claim, .completed, [.secretRevealed]⟩,
    ⟨.refund, .refunded, [.srcLocked, .dstLocked, .secretRevealed, .expired]⟩,
    ⟨.fail, .failed, [.announced, .srcLocked, .dstLocked, .secretRevealed, .expired]⟩,
    ⟨.expire, .expired, [.announced, .srcLocked, .dstLocked]⟩]

/-- `ACTION_TARGET_STATUS` -/
def actionTargetStatus : OrderTransitionAction → OrderStatus
  | .escrow => .srcLocked
  | .secretRelay => .dstLocked
  | .secret => .secretRevealed
  | .claim => .completed
  | .refund => .refunded
  | .fail => .failed
  | .expire => .expired

theorem actionTargetStatus_edge : ∀ edge ∈ orderEdges,
    actionTargetStatus edge.action = edge.to := by
  decide

/-- The action that writes a status, `none` for `announced`. -/
def actionForStatus (status : OrderStatus) : Option OrderTransitionAction :=
  (orderEdges.reverse.find? fun edge => edge.to = status).map (·.action)

theorem actionForStatus_target (action : OrderTransitionAction) :
    actionForStatus (actionTargetStatus action) = some action := by
  cases action <;> rfl

theorem actionTargetStatus_of_actionForStatus {status : OrderStatus}
    {action : OrderTransitionAction} (h : actionForStatus status = some action) :
    actionTargetStatus action = status := by
  cases status <;> cases h <;> rfl

/-- `TRANSITIONS` -/
def transitions (status : OrderStatus) : List OrderStatus :=
  orderEdges.flatMap fun edge => (edge.from.filter (· = status)).map fun _ => edge.to

def canTransition («from» «to» : OrderStatus) : Bool :=
  «to» ∈ transitions «from»

def isTerminal (status : OrderStatus) : Bool :=
  transitions status = []

/-- `STATUS_RANK` -/
def statusRank : OrderStatus → ℕ
  | .announced => 0
  | .srcLocked => 1
  | .dstLocked => 2
  | .secretRevealed => 3
  | .completed | .refunded | .failed | .expired => 4

def isStaleTransition («from» «to» : OrderStatus) : Bool :=
  statusRank «to» < statusRank «from»

/-- A pair of statuses is an edge of the lifecycle. -/
def IsEdge («from» «to» : OrderStatus) : Prop :=
  ∃ edge ∈ orderEdges, edge.to = «to» ∧ «from» ∈ edge.from

theorem canTransition_iff {«from» «to» : OrderStatus} :
    canTransition «from» «to» = true ↔ IsEdge «from» «to» := by
  rw [canTransition, decide_eq_true_iff]
  simp only [transitions, IsEdge, List.mem_flatMap, List.mem_map, List.mem_filter,
    decide_eq_true_eq]
  constructor
  · rintro ⟨edge, hedge, status, ⟨hstatus, rfl⟩, hto⟩
    exact ⟨edge, hedge, hto, hstatus⟩
  · rintro ⟨edge, hedge, hto, hfrom⟩
    exact ⟨edge, hedge, «from», ⟨hfrom, rfl⟩, hto⟩

instance («from» «to» : OrderStatus) : Decidable (IsEdge «from» «to») :=
  decidable_of_iff _ canTransition_iff

/-! ## Refused transitions -/

/-- `ORDER_FAILURE_CODES` -/
inductive OrderFailureCode where
  | secretBeforeEscrow
  | secretRelayBeforeEscrow
  | claimBeforeSecret
  | refundAfterClaim
  | lateStep
  | repeatedStep
  | conflictingStep
  | alreadySettled
  | notAllowed
  deriving DecidableEq, Repr

def OrderFailureCode.text : OrderFailureCode → String
  | .secretBeforeEscrow => "illegal_transition_secret_before_escrow"
  | .secretRelayBeforeEscrow => "illegal_transition_secret_relay_before_escrow"
  | .claimBeforeSecret => "illegal_transition_claim_before_secret"
  | .refundAfterClaim => "illegal_transition_refund_after_claim"
  | .lateStep => "illegal_transition_late_step"
  | .repeatedStep => "illegal_transition_repeated_step"
  | .conflictingStep => "illegal_transition_conflicting_step"
  | .alreadySettled => "illegal_transition_already_settled"
  | .notAllowed => "illegal_transition_not_allowed"

def classifyIllegalTransition («from» «to» : OrderStatus) (action : OrderTransitionAction) :
    OrderFailureCode :=
  if action = .refund ∧ «from» = .completed then .refundAfterClaim
  else if action = .claim ∧ «from» ≠ .secretRevealed then .claimBeforeSecret
  else if action = .secret ∧ «from» = .announced then .secretBeforeEscrow
  else if action = .secretRelay ∧ «from» = .announced then .secretRelayBeforeEscrow
  else if isStaleTransition «from» «to» then .lateStep
  else if isTerminal «from» then .alreadySettled
  else if «from» = «to» then .repeatedStep
  else .notAllowed

def describeTransitionFailure (code : OrderFailureCode) («from» «to» : OrderStatus) : String :=
  let move := " (" ++ «from».text ++ " -> " ++ «to».text ++ ")"
  let stored := " (" ++ «from».text ++ ")"
  match code with
  | .secretBeforeEscrow =>
    "Refused to reveal a preimage for an order that is not escrowed yet" ++ move
  | .secretRelayBeforeEscrow =>
    "Refused a destination lock for an order that is not escrowed yet" ++ move
  | .claimBeforeSecret =>
    "Refused a claim for an order whose preimage has not been recorded" ++ move
  | .refundAfterClaim =>
    "Refused a refund for an order that has already been claimed" ++ move
  | .lateStep => "Refused a chain event that is older than the stored order status" ++ move
  | .repeatedStep => "Step already applied to this order, keeping the stored status" ++ stored
  | .conflictingStep => "Step already applied to this order with a different payload" ++ stored
  | .alreadySettled =>
    "Order is already settled as " ++ «from».text ++ " and cannot be advanced to " ++ «to».text
  | .notAllowed => "Illegal order transition: " ++ «from».text ++ " -> " ++ «to».text

/-- `none` where the edge may be applied, else the code and the reason. -/
def evaluateTransition («from» «to» : OrderStatus) (action : OrderTransitionAction) :
    Option (OrderFailureCode × String) :=
  if canTransition «from» «to» then none
  else
    let code := classifyIllegalTransition «from» «to» action
    some (code, describeTransitionFailure code «from» «to»)

theorem evaluateTransition_eq_none {«from» «to» : OrderStatus} {action : OrderTransitionAction} :
    evaluateTransition «from» «to» action = none ↔ IsEdge «from» «to» := by
  rw [← canTransition_iff]
  simp [evaluateTransition]

end OverSync.Coordinator
