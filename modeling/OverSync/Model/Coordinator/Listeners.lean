import OverSync.Model.Coordinator.Services

/-! # The coordinator's listeners

`OrderEventApplier`, `ChainEventProcessor` and the two listeners that feed them. -/

namespace OverSync.Coordinator

open Library

/-! ## `OrderEventApplier` -/

inductive BridgeEventKind where
  | lock
  | claim
  | refund
  deriving DecidableEq, Repr

structure BridgeOrderEvent where
  kind : BridgeEventKind
  chain : Chain
  txHash : String
  blockNumber : ℤ
  orderId : Option String
  hashlock : Option String
  timelock : Option ℤ
  preimage : Option String
  deriving DecidableEq, Repr

inductive BridgeEventOutcome where
  | applied (publicId : String)
  | ignored (reason : String)
  | rejected (publicId : String) (code : OrderFailureCode) (message : String)
  | error (message : String)
  deriving DecidableEq, Repr

/-- A string that is neither `null` nor empty. -/
def truthy (value : Option String) : Option String :=
  value.filter (· ≠ "")

namespace OrderEventApplier

variable (D : Deployment) (writer : String)

/-- A creation event on either chain. The chain that emitted it decides the edge. -/
def applyLock (event : BridgeOrderEvent) : Task BridgeEventOutcome :=
  match truthy (event.hashlock.map D.toLowerCase) with
  | none => pure (.ignored "lock event without a hashlock")
  | some hashlock => do
    match ← OrdersRepository.findByHashlock hashlock with
    | none => pure (.ignored "no local order for this hashlock")
    | some order =>
      match event.timelock, truthy event.orderId with
      | none, _ => pure (.ignored "lock event without a timelock")
      | some _, none => pure (.ignored "lock event without an order id")
      | some timelock, some orderId => do
        if event.chain = order.srcChain then
          OrderService.recordSrcLock D
            { publicId := order.publicId
              orderId := orderId
              txHash := event.txHash
              blockNumber := event.blockNumber
              timelock := timelock } writer
        else
          OrderService.recordDstLock D
            { publicId := order.publicId
              orderId := orderId
              txHash := event.txHash
              blockNumber := event.blockNumber
              timelock := timelock
              resolver := none } writer
        pure (.applied order.publicId)

def resolveByHashlock (event : BridgeOrderEvent) : Task (Option OrderRow) :=
  match truthy event.hashlock with
  | none => pure none
  | some hashlock => OrdersRepository.findByHashlock (D.toLowerCase hashlock)

/-- An on-chain id can be the source or the destination leg of an order; the hashlock carried
by the event is the fallback. -/
def resolveOrder (event : BridgeOrderEvent) : Task (Option OrderRow) :=
  match truthy event.orderId with
  | none => resolveByHashlock D event
  | some orderId => do
    match ← OrdersRepository.findBySrcOrderId event.chain orderId with
    | some order => pure (some order)
    | none =>
      match ← OrdersRepository.findByDstOrderId event.chain orderId with
      | some order => pure (some order)
      | none => resolveByHashlock D event

/-- A claim observed on either chain: the relay of the preimage first, the settlement second. -/
def applyClaim (event : BridgeOrderEvent) : Task BridgeEventOutcome := do
  match ← resolveOrder D event with
  | none => pure (.ignored "no local order for this on-chain id")
  | some order =>
    match truthy (event.preimage.map D.toLowerCase) with
    | none => pure ()
    | some preimage =>
      if order.preimage ≠ some preimage then
        OrderService.recordSecret D order.publicId preimage event.txHash writer
      else pure ()
    OrderService.recordClaim order.publicId event.txHash writer
    pure (.applied order.publicId)

def applyRefund (event : BridgeOrderEvent) : Task BridgeEventOutcome := do
  match ← resolveOrder D event with
  | none => pure (.ignored "no local order for this on-chain id")
  | some order =>
    OrderService.recordRefund order.publicId event.txHash writer
    pure (.applied order.publicId)

/-- The outcome an error is turned into. -/
def outcomeOf : CoordinatorError → BridgeEventOutcome
  | .rejected info => .rejected info.publicId info.code info.reason
  | .validation message _ => .ignored message
  | e => .error e.message

def apply (event : BridgeOrderEvent) : Task BridgeEventOutcome :=
  tryCatch
    (match event.kind with
      | .lock => applyLock D writer event
      | .claim => applyClaim D writer event
      | .refund => applyRefund D writer event)
    fun e => pure (outcomeOf e)

end OrderEventApplier

/-! ## `ChainEventProcessor` -/

inductive SettlementKind where
  | claimed
  | refunded
  deriving DecidableEq, Repr

def SettlementKind.text : SettlementKind → String
  | .claimed => "claimed"
  | .refunded => "refunded"

structure SettlementEvent where
  chain : ChainName
  kind : SettlementKind
  onchainOrderId : String
  txHash : String
  logIndex : ℕ
  position : ℕ
  preimage : Option String
  deriving DecidableEq, Repr

inductive ProcessOutcome where
  | applied
  | duplicate
  | ignored
  deriving DecidableEq, Repr

structure BatchCounts where
  applied : ℕ
  duplicates : ℕ
  ignored : ℕ
  deriving DecidableEq, Repr

def BatchCounts.count (counts : BatchCounts) : ProcessOutcome → BatchCounts
  | .applied => { counts with applied := counts.applied + 1 }
  | .duplicate => { counts with duplicates := counts.duplicates + 1 }
  | .ignored => { counts with ignored := counts.ignored + 1 }

/-- `ORDER_CHAIN` -/
def orderChain : ChainName → Chain
  | .ethereum => .ethereum
  | .soroban => .stellar

namespace ChainEventProcessor

/-- The saved cursor, unless it was saved for a different network. -/
def resume (chain : ChainName) (networkId : String) : Task (Option ChainCursor) := do
  match ← OrdersRepository.getChainCursor chain with
  | none => pure none
  | some saved =>
    if saved.networkId ≠ networkId then throw (.cursorMismatch chain saved.networkId networkId)
    else pure (some saved)

def advance (chain : ChainName) (networkId : String) (position : ℕ) (cursor : Option String) :
    Task Unit := do
  let _ ← resume chain networkId
  OrdersRepository.saveChainCursor chain ⟨networkId, position, cursor⟩

def findOrder (ev : SettlementEvent) : Task (Option OrderRow) := do
  match ← OrdersRepository.findBySrcOrderId (orderChain ev.chain) ev.onchainOrderId with
  | some order => pure (some order)
  | none => OrdersRepository.findByDstOrderId (orderChain ev.chain) ev.onchainOrderId

/-- `/^preimage /` -/
def isPreimageMessage (message : String) : Bool :=
  "preimage ".toList.isPrefixOf message.toList

/-- Permanent rejections must not wedge the cursor; anything else propagates so that the event
is retried. -/
def isPermanent : CoordinatorError → Bool
  | .validation _ _ | .rejected _ => true
  | e => isPreimageMessage e.message

variable (D : Deployment) (nowSec : ℤ)

def settle (ev : SettlementEvent) (order : OrderRow) : Task ProcessOutcome :=
  match ev.kind with
  | .refunded =>
    if order.status = .refunded then pure .duplicate
    else do
      OrderService.recordRefund order.publicId ev.txHash orderServiceWriter
      pure .applied
  | .claimed =>
    match truthy ev.preimage with
    | none => pure .ignored
    | some preimage =>
      if order.secretRevealedTx = some ev.txHash ∧ truthy order.preimage ≠ none then
        pure .duplicate
      else do
        SecretService.reveal D nowSec order.publicId preimage ev.txHash
        pure .applied

def apply (ev : SettlementEvent) : Task ProcessOutcome := do
  match ← findOrder ev with
  | none => pure .ignored
  | some order =>
    tryCatch (settle D nowSec ev order) fun e =>
      if isPermanent e then pure .ignored else throw e

def eventKey (networkId : String) (ev : SettlementEvent) : String :=
  ev.chain.text ++ ":" ++ networkId ++ ":" ++ D.toLowerCase ev.txHash ++ ":" ++
    toString ev.logIndex ++ ":" ++ ev.kind.text

def process (networkId : String) (ev : SettlementEvent) : Task ProcessOutcome := do
  if ← OrdersRepository.hasProcessedEvent (eventKey D networkId ev) then pure .duplicate
  else
    let outcome ← apply D nowSec ev
    OrdersRepository.markEventProcessed
      ⟨eventKey D networkId ev, ev.chain, ev.kind.text, ev.position⟩
    pure outcome

/-- Chain order: by position, then by log index. -/
def NotAfter (a b : SettlementEvent) : Prop :=
  a.position < b.position ∨ a.position = b.position ∧ a.logIndex ≤ b.logIndex

instance : DecidableRel NotAfter := fun _ _ =>
  inferInstanceAs (Decidable (_ ∨ _))

def processAll (networkId : String) : List SettlementEvent → BatchCounts → Task BatchCounts
  | [], counts => pure counts
  | ev :: events, counts => do
    let outcome ← process D nowSec networkId ev
    processAll networkId events (counts.count outcome)

/-- Process events in order, then move the cursor to `upTo`. -/
def processBatch (networkId : String) (chain : ChainName) (events : List SettlementEvent)
    (upTo : ℕ) (cursor : Option String) : Task BatchCounts := do
  let counts ← processAll D nowSec networkId (events.insertionSort NotAfter) ⟨0, 0, 0⟩
  advance chain networkId upTo cursor
  pure counts

end ChainEventProcessor

/-! ## `EthereumListener` -/

structure CreatedLog where
  orderId : ℕ
  hashlock : String
  timelock : ℕ
  transactionHash : String
  blockNumber : ℕ
  deriving DecidableEq, Repr

/-- An `OrderClaimed` log, or an `OrderRefunded` log without a preimage. -/
structure SettlementLog where
  orderId : ℕ
  preimage : Option String
  transactionHash : String
  logIndex : ℕ
  blockNumber : ℕ
  deriving DecidableEq, Repr

namespace EthereumListener

def writer : String := "ethereum-listener"

/-- What the live watcher hands on for an `OrderCreated` log. -/
def createdEvent (log : CreatedLog) : BridgeOrderEvent where
  kind := .lock
  chain := .ethereum
  txHash := log.transactionHash
  blockNumber := log.blockNumber
  orderId := some (toString log.orderId)
  hashlock := some log.hashlock
  timelock := some log.timelock
  preimage := none

/-- What the live watchers hand on for an `OrderClaimed` or `OrderRefunded` log. -/
def settlementEvent (kind : SettlementKind) (log : SettlementLog) : BridgeOrderEvent where
  kind :=
    match kind with
    | .claimed => .claim
    | .refunded => .refund
  chain := .ethereum
  txHash := log.transactionHash
  blockNumber := log.blockNumber
  orderId := some (toString log.orderId)
  hashlock := none
  timelock := none
  preimage :=
    match kind with
    | .claimed => log.preimage
    | .refunded => none

def toSettlement (kind : SettlementKind) (log : SettlementLog) : SettlementEvent where
  chain := .ethereum
  kind := kind
  onchainOrderId := toString log.orderId
  txHash := log.transactionHash
  logIndex := log.logIndex
  position := log.blockNumber
  preimage :=
    match kind with
    | .claimed => log.preimage
    | .refunded => none

variable (D : Deployment)

/-- The live path of a log. -/
def handle (event : BridgeOrderEvent) : Task BridgeEventOutcome :=
  OrderEventApplier.apply D writer event

/-- A creation log found while catching up; every error is logged and dropped. -/
def handleCreated (log : CreatedLog) : Task Unit :=
  tryCatch
    (do
      match ← OrdersRepository.findByHashlock log.hashlock with
      | none => pure ()
      | some order =>
        OrderService.recordSrcLock D
          { publicId := order.publicId
            orderId := toString log.orderId
            txHash := log.transactionHash
            blockNumber := log.blockNumber
            timelock := log.timelock } orderServiceWriter)
    fun _ => pure ()

def handleAllCreated : List CreatedLog → Task Unit
  | [] => pure ()
  | log :: logs => do
    handleCreated D log
    handleAllCreated logs

/-- `catchUp` on the logs of the blocks up to `upTo`, once they are fetched. -/
def catchUp (nowSec : ℤ) (networkId : String) (created : List CreatedLog)
    (claimed refunded : List SettlementLog) (upTo : ℕ) : Task BatchCounts := do
  handleAllCreated D created
  ChainEventProcessor.processBatch D nowSec networkId .ethereum
    (claimed.map (toSettlement .claimed) ++ refunded.map (toSettlement .refunded)) upTo none

end EthereumListener

/-! ## `SorobanListener` -/

namespace SorobanListener

def writer : String := "soroban-listener"

/-- The listener's memory of where it stands. `lastLedger` keeps its initial value. -/
structure Position where
  cursor : Option String
  resumeLedger : Option ℕ
  lastLedger : ℕ
  deriving DecidableEq, Repr

/-- What `start` takes over from the saved cursor. -/
def resumed (saved : ChainCursor) : Position where
  cursor := saved.cursor
  resumeLedger := if truthy saved.cursor = none then some saved.position else none
  lastLedger := 0

/-- Where `getEvents` is asked to begin. -/
inductive EventsRequest where
  | startLedger (ledger : ℤ)
  | cursor (cursor : String)
  deriving DecidableEq, Repr

/-- The request of a turn, made once the latest ledger is known. -/
def eventsRequest (latest : ℕ) (position : Position) : EventsRequest :=
  match position.cursor, position.resumeLedger with
  | some cursor, _ => .cursor cursor
  | none, some ledger => .startLedger ledger
  | none, none => .startLedger (latest - 1)

/-- The answers of `getLatestLedger` and `getEvents`; an event that is not a lifecycle event
decodes to `none`. -/
structure Page where
  latest : ℕ
  events : List (Option BridgeOrderEvent)
  cursor : Option String
  deriving DecidableEq, Repr

variable (D : Deployment)

/-- The decoded events of a page with the outcomes of their applications. -/
def applyAll : List (Option BridgeOrderEvent) → Task (List (BridgeOrderEvent × BridgeEventOutcome))
  | [] => pure []
  | none :: events => applyAll events
  | some event :: events => do
    let outcome ← OrderEventApplier.apply D writer event
    let rest ← applyAll events
    pure ((event, outcome) :: rest)

/-- One turn of `loop` whose RPC calls succeed: the new memory, and the outcomes it logs. -/
def poll (networkId : String) (page : Page) (position : Position) :
    Task (Position × List (BridgeOrderEvent × BridgeEventOutcome)) := do
  let outcomes ← applyAll D page.events
  let cursor :=
    match truthy page.cursor with
    | some cursor => some cursor
    | none => position.cursor
  tryCatch
    (ChainEventProcessor.advance .soroban networkId (max position.lastLedger page.latest) cursor)
    fun _ => pure ()
  pure ({ position with cursor := cursor, resumeLedger := none }, outcomes)

end SorobanListener

end OverSync.Coordinator
