import OverSync.Model.RelaySubmissionTracker

/-! # The tracker and a chain

A transaction handed to a broadcast stays in a pool, and may be included or revert at any later
moment or never. The confirmer looks at the chain at some moment between the question and the
answer. -/

namespace OverSync.RelaySubmissionTracker

open Function Library

variable {R : Type}

inductive Fate where
  | floating
  | included
  | reverted
  deriving DecidableEq, Repr

/-- `asked` is the fate that the transaction of an operation had when the operation asked. -/
structure Chain where
  pool : List String
  fate : String → Fate
  asked : ℕ → Fate

def Chain.empty : Chain := ⟨[], fun _ => .floating, fun _ => .floating⟩

inductive SystemEvent (R : Type) where
  | relay (now : ℕ) (event : Event R)
  | land (txHash : String) (fate : Fate)

/-- A transaction is settled on chain. -/
structure Landing where
  txHash : String
  fate : Fate

def Chain.observe (chain : Chain) : SystemEffect R Landing → Chain
  | .relay (.broadcast _ _ _ txHash) => { chain with pool := txHash :: chain.pool }
  | .relay (.confirm task ref) =>
    { chain with asked := update chain.asked task (chain.fate (ref.txHash.getD "")) }
  | .world landing => { chain with fate := update chain.fate landing.txHash landing.fate }
  | _ => chain

/-- An answer that was true at some moment after the question, about a transaction with the two
fates at its ends. -/
def RelayConfirmationState.truthful (asked answered : Fate) : RelayConfirmationState → Bool
  | .succeeded => answered = .included
  | .failed => answered = .reverted
  | .notFound => asked ≠ .included
  | .pending => true

/-- Only the confirmer speaks about the chain. -/
def Chain.allows (chain : Chain) (t : Tracker R) : Event R → Bool
  | .confirmed id answer =>
    match t.tasks id with
    | some task => (confirmationOf answer).state.truthful (chain.asked id)
        (chain.fate ((t.heap task.obj).txHash.getD ""))
    | none => true
  | _ => true

variable (cfg : RelayTrackerConfig R)

/-- The relayer process, its store and the chain. -/
def system : Machine (Tracker R) (List (PersistedSubmission R) × Chain) (SystemEvent R)
    (SystemEffect R Landing) where
  handle event t d := match event with
    | .relay now event =>
      if d.2.allows t event then
        (t.handle cfg now event).map fun result => (result.1, result.2.map .relay)
      else none
    | .land txHash fate =>
      if txHash ∈ d.2.pool ∧ d.2.fate txHash = .floating ∧ fate ≠ .floating then
        some (t, [.world ⟨txHash, fate⟩])
      else none
  apply d effect := (match effect with
    | .relay effect => effect.store d.1
    | .world _ => d.1, d.2.observe effect)
  recover d := Tracker.empty.restore cfg d.1

end OverSync.RelaySubmissionTracker
