import OverSync.Model.RelaySubmissionTracker
import Mathlib.Algebra.Order.Ring.Rat

/-! # The ETH to XLM payout

`QuoterService.submitIfCoordinatorQuoteMatches` hands the tracker a stager that asks the
coordinator about the quote and then calls the executor, which submits the Stellar payment. A
stager that the tracker no longer waits for runs on. -/

namespace OverSync.QuoterService

open Library RelaySubmissionTracker

/-! ## Quotes -/

/-- A number as `JSON.parse` returns it: literals out of range become infinite. -/
inductive JsNumber where
  | finite (value : ℚ)
  | infinite (negative : Bool)
  deriving DecidableEq

structure QuoteResponse where
  fromToken : String
  toToken : String
  fromChain : String
  toChain : String
  fromAmount : String
  validUntil : ℚ

structure CoordinatorQuote where
  fresh : Bool
  fromAsset : String
  toAsset : String
  amount : String
  fromNetwork : String
  toNetwork : String
  expiresAt : JsNumber

/-- The body of an answer; a field that is missing or of another type is `none`. -/
structure QuoteBody where
  fresh : Option Bool
  fromAsset : Option String
  toAsset : Option String
  amount : Option String
  fromNetwork : Option String
  toNetwork : Option String
  expiresAt : Option JsNumber

/-- What asking the coordinator came to; a body that is not a JSON object is `none`. -/
inductive StatusAnswer where
  | unreachable
  | answered (status : ℕ) (body : Option QuoteBody)

/-- The `typeof` checks. -/
def QuoteBody.check (body : QuoteBody) : Option CoordinatorQuote := do
  let fresh ← body.fresh
  let fromAsset ← body.fromAsset
  let toAsset ← body.toAsset
  let amount ← body.amount
  let fromNetwork ← body.fromNetwork
  let toNetwork ← body.toNetwork
  let expiresAt ← body.expiresAt
  return ⟨fresh, fromAsset, toAsset, amount, fromNetwork, toNetwork, expiresAt⟩

/-- Timestamps below 10¹² are in seconds. -/
def expiryMs (timestamp : ℚ) : ℚ :=
  if timestamp < 1000000000000 then timestamp * 1000 else timestamp

/-- `toLowerCase` is JavaScript's; `now` is read once the answer is there. -/
def checkQuote (toLowerCase : String → String) (now : ℕ) (quote : QuoteResponse) :
    StatusAnswer → Except String Unit
  | .unreachable => .error "COORDINATOR_QUOTE_UNAVAILABLE"
  | .answered status body =>
    if status = 410 then .error "COORDINATOR_QUOTE_EXPIRED"
    else if ¬(200 ≤ status ∧ status < 300) then .error "COORDINATOR_QUOTE_UNAVAILABLE"
    else match body.bind QuoteBody.check with
      | none => .error "COORDINATOR_QUOTE_INVALID"
      | some coordinatorQuote =>
        match coordinatorQuote.expiresAt with
        | .infinite _ => .error "COORDINATOR_QUOTE_EXPIRED"
        | .finite expiresAt =>
          if coordinatorQuote.fresh = false ∨ (now : ℚ) > expiryMs expiresAt then
            .error "COORDINATOR_QUOTE_EXPIRED"
          else if toLowerCase coordinatorQuote.fromAsset = toLowerCase quote.fromToken ∧
              toLowerCase coordinatorQuote.toAsset = toLowerCase quote.toToken ∧
              coordinatorQuote.amount = quote.fromAmount ∧
              toLowerCase coordinatorQuote.fromNetwork = toLowerCase quote.fromChain ∧
              toLowerCase coordinatorQuote.toNetwork = toLowerCase quote.toChain ∧
              expiryMs expiresAt = expiryMs quote.validUntil then
            .ok ()
          else .error "COORDINATOR_QUOTE_MISMATCH"

/-! ## Stagers -/

/-- Where a stager is: it waits for the coordinator, for the executor, or its promise has
settled. -/
inductive Gate where
  | asking (quote : QuoteResponse)
  | paying
  | settled (result : StageResult)

/-- The stager up to its first `await`. -/
def Gate.start (quote : Option QuoteResponse) (coordinatorQuoteId : Option String) : Gate :=
  match quote with
  | some quote =>
    if truthy coordinatorQuoteId then .asking quote
    else .settled (.rejected (.refusal "COORDINATOR_QUOTE_REQUIRED"))
  | none => .settled (.rejected (.refusal "COORDINATOR_QUOTE_REQUIRED"))

/-- The executor submits the payment and resolves with Horizon's response, which has a `hash` and
no `txHash`. -/
def stageResult : Except String String → StageResult
  | .ok _hash => .resolved none none
  | .error message => .rejected (.other message)

variable {R : Type}

/-- The tracker with the stagers that run. -/
structure Payout (R : Type) where
  tracker : Tracker R
  gates : List (ℕ × Gate)

/-- The outside world: the store, and the number of payments submitted for the order. -/
structure World (R : Type) where
  stored : List (PersistedSubmission R)
  payments : ℕ

def World.empty : World R := ⟨[], 0⟩

inductive PayoutEvent (R : Type) where
  | quoted (now : ℕ) (quote : Option QuoteResponse) (coordinatorQuoteId : Option String)
  | fetched (task now : ℕ) (answer : StatusAnswer)
  | executed (task : ℕ) (result : Except String String)
  | resumed (task now : ℕ)
  | relay (now : ℕ) (event : Event R)

/-- A stager calls the executor. -/
structure Execute where
  task : ℕ

def Payout.gate (p : Payout R) (task : ℕ) : Option Gate :=
  (p.gates.find? fun entry => entry.1 = task).map Prod.snd

def Payout.setGate (p : Payout R) (task : ℕ) (gate : Gate) : Payout R :=
  { p with gates := p.gates.map fun entry => if entry.1 = task then (task, gate) else entry }

def Payout.dropGate (p : Payout R) (task : ℕ) : Payout R :=
  { p with gates := p.gates.filter fun entry => entry.1 ≠ task }

/-- The stagers that the tracker calls. -/
def startGates (gate : Gate) (effects : List (Effect R)) : List (ℕ × Gate) :=
  effects.filterMap fun effect => match effect with
    | .stage task _ => some (task, gate)
    | _ => none

variable (cfg : RelayTrackerConfig R) (toLowerCase : String → String) (claim : RelayAction)

/-- `submitIfCoordinatorQuoteMatches` for the claim of the order. -/
def Payout.submitIfCoordinatorQuoteMatches (p : Payout R) (now : ℕ)
    (quote : Option QuoteResponse) (coordinatorQuoteId : Option String) :
    Payout R × List (SystemEffect R Execute) :=
  let (tracker, effects) := p.tracker.submit cfg now claim
  (⟨tracker, p.gates ++ startGates (Gate.start quote coordinatorQuoteId) effects⟩,
    effects.map .relay)

/-- Other events of the tracker: all other submissions go their own ways, and the stagers of the
claim are those of the quoter service. -/
def Payout.foreign (p : Payout R) : Event R → Bool
  | .submit action =>
    computeSubmissionKey cfg.shortDigest action ≠ computeSubmissionKey cfg.shortDigest claim
  | .staged task _ => (p.gate task).isNone
  | _ => true

def Payout.handle (p : Payout R) : PayoutEvent R → Option (Payout R × List (SystemEffect R Execute))
  | .quoted now quote coordinatorQuoteId =>
    some (p.submitIfCoordinatorQuoteMatches cfg claim now quote coordinatorQuoteId)
  | .fetched task now answer =>
    match p.gate task with
    | some (.asking quote) =>
      match checkQuote toLowerCase now quote answer with
      | .error code => some (p.setGate task (.settled (.rejected (.refusal code))), [])
      | .ok () => some (p.setGate task .paying, [.world ⟨task⟩])
    | _ => none
  | .executed task result =>
    match p.gate task with
    | some .paying => some (p.setGate task (.settled (stageResult result)), [])
    | _ => none
  | .resumed task now =>
    match p.gate task with
    | some (.settled result) =>
      -- the tracker may have timed out and no longer wait
      match p.tracker.handle cfg now (.staged task result) with
      | some (tracker, effects) =>
        some ({ p.dropGate task with tracker := tracker }, effects.map .relay)
      | none => some (p.dropGate task, [])
    | _ => none
  | .relay now event =>
    if p.foreign cfg claim event then
      (p.tracker.handle cfg now event).map fun result =>
        ({ p with tracker := result.1 }, result.2.map .relay)
    else none

/-- The process of the relayer; a crash loses the tracker and the stagers. -/
def payout : Machine (Payout R) (World R) (PayoutEvent R) (SystemEffect R Execute) where
  handle event p _ := p.handle cfg toLowerCase claim event
  apply world effect := match effect with
    | .relay effect => { world with stored := effect.store world.stored }
    | .world _ => { world with payments := world.payments + 1 }
  recover world := ⟨Tracker.empty.restore cfg world.stored, []⟩

end OverSync.QuoterService
