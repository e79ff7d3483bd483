import OverSync.Library.Execution
import Mathlib.Data.Int.Notation
import Mathlib.Data.List.Sort

/-! # The contract event poller

`startContractEventPoller` of the relayer: one cursor for all bindings of a contract. A tick
awaits the head, one query for each binding and one handler for each event; other ticks may
fire in between. -/

namespace OverSync.ContractEventPoller

open Library

/-- A log as `queryFilter` returns it; `args` is `none` for a raw log that did not decode. -/
structure Log where
  blockNumber : ℤ
  index : ℕ
  eventName : String
  args : Option (List String)
  deriving DecidableEq, Repr

/-- The order of the logs on the chain. -/
def Log.Before (log log' : Log) : Prop :=
  log.blockNumber < log'.blockNumber ∨
    log.blockNumber = log'.blockNumber ∧ log.index < log'.index

/-- A contract with all the logs it ever emits. `filters` says which events have a filter
factory; only an event of the interface decodes. -/
structure Contract where
  filters : String → Bool
  logs : List Log
  ordered : logs.Pairwise Log.Before
  decodes : ∀ log ∈ logs, log.args.isSome → filters log.eventName = true

/-- The handler of a binding is known by the position of the binding. -/
structure ContractEventBinding where
  eventName : String
  deriving DecidableEq, Repr

structure ContractEventPollerOptions where
  maxBlockWindow : Option ℤ
  startBlock : Option ℤ

def DEFAULT_MAX_WINDOW : ℤ := 500

def ContractEventPollerOptions.maxWindow (options : ContractEventPollerOptions) : ℤ :=
  options.maxBlockWindow.getD DEFAULT_MAX_WINDOW

/-- `contract.queryFilter(filter, fromBlock, toBlock)` -/
def Contract.queryFilter (contract : Contract) (eventName : String) (fromBlock toBlock : ℤ) :
    List Log :=
  contract.logs.filter fun log =>
    log.eventName = eventName ∧ fromBlock ≤ log.blockNumber ∧ log.blockNumber ≤ toBlock

/-- One call of a handler: `binding.handler(...args, ev)`. -/
structure Delivery where
  binding : ℕ
  args : List String
  event : Log
  deriving DecidableEq, Repr

/-- The call that hands a log over, if the log decoded. -/
def Log.delivery (i : ℕ) (log : Log) : Option Delivery :=
  log.args.map fun args => ⟨i, args, log⟩

/-! ## State -/

inductive Outcome where
  | underWay
  | failed
  | complete
  deriving DecidableEq, Repr

/-- One walk over the bindings, kept for the record. -/
structure Pass where
  fromBlock : ℤ
  toBlock : ℤ
  handed : List Delivery
  outcome : Outcome
  deriving DecidableEq, Repr

def Pass.close (outcome : Outcome) (pass : Pass) : Pass :=
  { pass with outcome := outcome }

def Pass.hand (delivery : Delivery) (pass : Pass) : Pass :=
  { pass with handed := pass.handed ++ [delivery] }

/-- What the tick under way awaits: the head, the logs of a binding, or a handler with the
events after it. `rest` are the bindings whose turn is still to come. -/
inductive Phase where
  | idle
  | head
  | query (fromBlock toBlock : ℤ) (binding : ContractEventBinding) (i : ℕ)
      (rest : List (ContractEventBinding × ℕ))
  | handler (fromBlock toBlock : ℤ) (i : ℕ) (events : List Log)
      (rest : List (ContractEventBinding × ℕ))

/-- `head` is the head of the chain, `passes` the walks so far with the newest first. -/
structure State where
  head : ℤ
  lastProcessed : ℤ
  phase : Phase
  passes : List Pass

/-- `isPolling` -/
def State.isPolling (s : State) : Bool :=
  match s.phase with
  | .idle => false
  | _ => true

/-- `cursor()` -/
def State.cursor (s : State) : ℤ :=
  s.lastProcessed

def State.handed (s : State) : List Delivery :=
  s.passes.flatMap Pass.handed

/-- An edit of the record of the newest walk. -/
def State.record (s : State) (edit : Pass → Pass) : State :=
  { s with passes := s.passes.modifyHead edit }

/-! ## One tick -/

section Tick

variable (contract : Contract) (bindings : List ContractEventBinding) (maxWindow : ℤ)

/-- The loop over the bindings from the next one on: a binding without a filter factory is
skipped, and after the last one the cursor moves. -/
def State.nextBinding (fromBlock toBlock : ℤ) : List (ContractEventBinding × ℕ) → State → State
  | [], s =>
    { s.record (Pass.close .complete) with
      lastProcessed := toBlock
      phase := .idle }
  | (binding, i) :: rest, s =>
    if contract.filters binding.eventName then
      { s with phase := .query fromBlock toBlock binding i rest }
    else State.nextBinding fromBlock toBlock rest s

/-- The loop over the events of a binding up to the next call of its handler. -/
def State.nextEvent (fromBlock toBlock : ℤ) (i : ℕ)
    (rest : List (ContractEventBinding × ℕ)) : List Log → State → State
  | [], s => s.nextBinding contract fromBlock toBlock rest
  | ev :: events, s =>
    match ev.delivery i with
    | none => State.nextEvent fromBlock toBlock i rest events s
    | some delivery =>
        { s.record (Pass.hand delivery) with
          phase := .handler fromBlock toBlock i events rest }

/-- The window of the tick is set by the head. -/
def State.onHead (s : State) : State :=
  if s.head ≤ s.lastProcessed then { s with phase := .idle }
  else
    let fromBlock := s.lastProcessed + 1
    let toBlock := min s.head (fromBlock + maxWindow - 1)
    State.nextBinding contract fromBlock toBlock bindings.zipIdx
      { s with passes := ⟨fromBlock, toBlock, [], .underWay⟩ :: s.passes }

/-- What the tick does once the call it awaits has returned. -/
def State.onReturn (s : State) : State :=
  match s.phase with
  | .idle => s
  | .head => s.onHead contract bindings maxWindow
  | .query fromBlock toBlock binding i rest =>
      s.nextEvent contract fromBlock toBlock i rest
        (contract.queryFilter binding.eventName fromBlock toBlock)
  | .handler fromBlock toBlock i events rest =>
      s.nextEvent contract fromBlock toBlock i rest events

/-- What the tick does once the call it awaits has thrown. The error of a handler is logged and
the loop goes on; any other error ends the tick. -/
def State.onThrow (s : State) : State :=
  match s.phase with
  | .idle => s
  | .head => { s with phase := .idle }
  | .query .. => { s.record (Pass.close .failed) with phase := .idle }
  | .handler fromBlock toBlock i events rest =>
      s.nextEvent contract fromBlock toBlock i rest events

/-- What can happen: the chain grows, a tick fires, the awaited call returns or throws. -/
inductive Event where
  | mined (blocks : ℕ)
  | tick
  | returned
  | threw
  deriving DecidableEq, Repr

def run (event : Event) (s : State) : State :=
  match event with
  | .mined blocks => { s with head := s.head + blocks }
  | .tick => if s.isPolling then s else { s with phase := .head }
  | .returned => s.onReturn contract bindings maxWindow
  | .threw => s.onThrow contract

end Tick

/-- `startContractEventPoller`; `answer` is what `getBlockNumber` answers, where it is asked. -/
def startContractEventPoller (options : ContractEventPollerOptions) (head : ℤ)
    (answer : Option ℤ) : Option State :=
  (options.startBlock <|> answer).map fun startBlock => ⟨head, startBlock, .idle, []⟩

end OverSync.ContractEventPoller
