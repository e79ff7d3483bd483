import OverSync.Library.Procedure
import OverSync.Model.Coordinator.OrderMachine
import Mathlib.Data.Int.Notation

/-! # The coordinator's database

Tables and statements of the schema. Every statement is atomic; it reads the database clock
and may fail, in which case it has no effect. -/

namespace OverSync.Coordinator

open Library

inductive Chain where
  | ethereum
  | stellar
  deriving DecidableEq, Repr

/-- Listener identity: the Stellar side is observed through Soroban RPC. -/
inductive ChainName where
  | ethereum
  | soroban
  deriving DecidableEq, Repr

def ChainName.text : ChainName → String
  | .ethereum => "ethereum"
  | .soroban => "soroban"

inductive Direction where
  | ethToXlm
  | xlmToEth
  deriving DecidableEq, Repr

def Direction.text : Direction → String
  | .ethToXlm => "eth_to_xlm"
  | .xlmToEth => "xlm_to_eth"

def Chain.text : Chain → String
  | .ethereum => "ethereum"
  | .stellar => "stellar"

/-! ## Tables -/

structure AnnounceOrderInput where
  direction : Direction
  hashlock : String
  srcChain : Chain
  srcAddress : String
  srcAsset : String
  srcAmount : String
  srcSafetyDeposit : String
  dstChain : Chain
  dstAddress : String
  dstAsset : String
  dstAmount : String
  deriving DecidableEq, Repr

/-- A row of `orders` as the services read it: all columns but the two times, on which
nothing the services decide depends. -/
structure OrderRow where
  id : ℕ
  publicId : String
  direction : Direction
  status : OrderStatus
  hashlock : String
  srcChain : Chain
  srcAddress : String
  srcAsset : String
  srcAmount : String
  srcSafetyDeposit : String
  srcOrderId : Option String
  srcLockTx : Option String
  srcLockBlock : Option ℤ
  srcTimelock : Option ℤ
  dstChain : Chain
  dstAddress : String
  dstAsset : String
  dstAmount : String
  dstOrderId : Option String
  dstLockTx : Option String
  dstLockBlock : Option ℤ
  dstTimelock : Option ℤ
  preimage : Option String
  secretRevealedTx : Option String
  resolverAddress : Option String
  fixture : Bool
  deriving DecidableEq, Repr

structure StoredOrder extends OrderRow where
  createdAt : ℕ
  updatedAt : ℕ
  deriving DecidableEq, Repr

structure TransitionSummary where
  «from» : Option OrderStatus
  «to» : OrderStatus
  txHash : Option String
  category : String
  deriving DecidableEq, Repr

structure RejectedTransition where
  «from» : OrderStatus
  «to» : OrderStatus
  action : OrderTransitionAction
  code : OrderFailureCode
  reason : String
  txHash : Option String
  writer : String
  deriving DecidableEq, Repr

/-- `event_type` and `payload_json` of an order event. -/
inductive EventPayload where
  | transitionSummary (summary : TransitionSummary)
  | transitionRejected (rejection : RejectedTransition)
  deriving DecidableEq, Repr

structure OrderEvent where
  orderId : ℕ
  payload : EventPayload
  createdAt : ℕ
  deriving DecidableEq, Repr

structure ChainCursor where
  networkId : String
  position : ℕ
  cursor : Option String
  deriving DecidableEq, Repr

structure ProcessedEvent where
  eventKey : String
  chain : ChainName
  kind : String
  position : ℕ
  deriving DecidableEq, Repr

/-- Rows stand in the order of their ids. `executed` counts the statements so far. -/
structure Database where
  orders : List StoredOrder
  orderEvents : List OrderEvent
  cursors : ChainName → Option ChainCursor
  processed : List ProcessedEvent
  lastOrderId : ℕ
  executed : ℕ

def Database.empty : Database where
  orders := []
  orderEvents := []
  cursors _ := none
  processed := []
  lastOrderId := 0
  executed := 0

/-! ## Statements -/

structure SrcLock where
  publicId : String
  orderId : String
  txHash : String
  blockNumber : ℤ
  timelock : ℤ
  deriving DecidableEq, Repr

structure DstLock where
  publicId : String
  orderId : String
  txHash : String
  blockNumber : ℤ
  timelock : ℤ
  resolver : Option String
  deriving DecidableEq, Repr

inductive Statement where
  | insertOrder (publicId : String) (input : AnnounceOrderInput)
  | byPublicId (publicId : String)
  | byHashlock (hashlock : String)
  | bySrcOrderId (chain : Chain) (orderId : String)
  | byDstOrderId (chain : Chain) (orderId : String)
  | byPreimage (preimage : String)
  | insertOrderEvent (orderId : ℕ) (payload : EventPayload)
  | updateStatus (publicId : String) (status : OrderStatus)
  | updateSrcLock (lock : SrcLock)
  | updateDstLock (lock : DstLock)
  | updateSecret (publicId preimage txHash : String)
  | getCursor (chain : ChainName)
  | upsertCursor (chain : ChainName) (cursor : ChainCursor)
  | insertProcessedEvent (event : ProcessedEvent)
  | hasProcessedEvent (eventKey : String)
  deriving DecidableEq, Repr

@[reducible] def Statement.Response : Statement → Type
  | .byPublicId _ | .byHashlock _ | .bySrcOrderId _ _ | .byDstOrderId _ _ | .byPreimage _ =>
    Option OrderRow
  | .getCursor _ => Option ChainCursor
  | .hasProcessedEvent _ => Bool
  | _ => Unit

/-- The first row a `SELECT` finds. -/
def Database.find (db : Database) (p : OrderRow → Bool) : Option OrderRow :=
  (db.orders.find? fun row => p row.toOrderRow).map (·.toOrderRow)

def Database.byPublicId (db : Database) (publicId : String) : Option OrderRow :=
  db.find fun row => row.publicId = publicId

def Database.byHashlock (db : Database) (hashlock : String) : Option OrderRow :=
  db.find fun row => row.hashlock = hashlock

def Database.bySrcOrderId (db : Database) (chain : Chain) (orderId : String) : Option OrderRow :=
  db.find fun row => row.srcChain = chain && row.srcOrderId = some orderId

def Database.byDstOrderId (db : Database) (chain : Chain) (orderId : String) : Option OrderRow :=
  db.find fun row => row.dstChain = chain && row.dstOrderId = some orderId

def Database.byPreimage (db : Database) (preimage : String) : Option OrderRow :=
  db.find fun row => row.preimage = some preimage

/-- `UPDATE orders SET …, updated_at = now WHERE public_id = publicId` -/
def Database.updateOrder (db : Database) (now : ℕ) (publicId : String)
    (set : OrderRow → OrderRow) : Database :=
  { db with
    orders := db.orders.map fun row =>
      if row.publicId = publicId then
        { toOrderRow := set row.toOrderRow, createdAt := row.createdAt, updatedAt := now }
      else row }

/-- The row `INSERT INTO orders` creates. -/
def AnnounceOrderInput.row (input : AnnounceOrderInput) (id : ℕ) (publicId : String) :
    OrderRow where
  id := id
  publicId := publicId
  direction := input.direction
  status := .announced
  hashlock := input.hashlock
  srcChain := input.srcChain
  srcAddress := input.srcAddress
  srcAsset := input.srcAsset
  srcAmount := input.srcAmount
  srcSafetyDeposit := input.srcSafetyDeposit
  srcOrderId := none
  srcLockTx := none
  srcLockBlock := none
  srcTimelock := none
  dstChain := input.dstChain
  dstAddress := input.dstAddress
  dstAsset := input.dstAsset
  dstAmount := input.dstAmount
  dstOrderId := none
  dstLockTx := none
  dstLockBlock := none
  dstTimelock := none
  preimage := none
  secretRevealedTx := none
  resolverAddress := none
  fixture := false

def SrcLock.set (lock : SrcLock) (row : OrderRow) : OrderRow :=
  { row with
    srcOrderId := some lock.orderId
    srcLockTx := some lock.txHash
    srcLockBlock := some lock.blockNumber
    srcTimelock := some lock.timelock
    status := if row.status = .announced then .srcLocked else row.status }

def DstLock.set (lock : DstLock) (row : OrderRow) : OrderRow :=
  { row with
    dstOrderId := some lock.orderId
    dstLockTx := some lock.txHash
    dstLockBlock := some lock.blockNumber
    dstTimelock := some lock.timelock
    resolverAddress := lock.resolver
    status :=
      if row.status = .announced ∨ row.status = .srcLocked then .dstLocked else row.status }

def OrderRow.withSecret (row : OrderRow) (preimage txHash : String) : OrderRow :=
  { row with
    preimage := some preimage
    secretRevealedTx := some txHash
    status := .secretRevealed }

def OrderRow.withStatus (row : OrderRow) (status : OrderStatus) : OrderRow :=
  { row with status := status }

/-- The cursor only moves forward and never to another network. -/
def ChainCursor.upsert (saved : Option ChainCursor) (new : ChainCursor) : ChainCursor :=
  match saved with
  | none => new
  | some old =>
    if old.networkId = new.networkId ∧ old.position ≤ new.position then new else old

/-- A statement that does not fail, at a reading of the database clock. `none` is a violated
constraint: `public_id` is unique. -/
def perform (now : ℕ) : (stmt : Statement) → Database → Option stmt.Response × Database
  | .insertOrder publicId input, db =>
    if (db.byPublicId publicId).isSome then (none, db)
    else
      let row := input.row (db.lastOrderId + 1) publicId
      (some (), { db with
        orders := db.orders ++ [{ toOrderRow := row, createdAt := now, updatedAt := now }]
        lastOrderId := db.lastOrderId + 1 })
  | .byPublicId publicId, db => (some (db.byPublicId publicId), db)
  | .byHashlock hashlock, db => (some (db.byHashlock hashlock), db)
  | .bySrcOrderId chain orderId, db => (some (db.bySrcOrderId chain orderId), db)
  | .byDstOrderId chain orderId, db => (some (db.byDstOrderId chain orderId), db)
  | .byPreimage preimage, db => (some (db.byPreimage preimage), db)
  | .insertOrderEvent orderId payload, db =>
    (some (), { db with orderEvents := db.orderEvents ++ [⟨orderId, payload, now⟩] })
  | .updateStatus publicId status, db =>
    (some (), db.updateOrder now publicId (·.withStatus status))
  | .updateSrcLock lock, db => (some (), db.updateOrder now lock.publicId lock.set)
  | .updateDstLock lock, db => (some (), db.updateOrder now lock.publicId lock.set)
  | .updateSecret publicId preimage txHash, db =>
    (some (), db.updateOrder now publicId (·.withSecret preimage txHash))
  | .getCursor chain, db => (some (db.cursors chain), db)
  | .upsertCursor chain cursor, db =>
    (some (), { db with
      cursors := fun name =>
        if name = chain then some (cursor.upsert (db.cursors chain)) else db.cursors name })
  | .insertProcessedEvent event, db =>
    (some (),
      if db.processed.any (·.eventKey = event.eventKey) then db
      else { db with processed := db.processed ++ [event] })
  | .hasProcessedEvent eventKey, db => (some (db.processed.any (·.eventKey = eventKey)), db)

/-- What the outside decides about the statements: the reading of the database clock at each
of them and which of them fail. -/
structure Conditions where
  clock : ℕ → ℕ
  fails : ℕ → Bool

/-- Conditions under which no statement fails. -/
def Conditions.calm (clock : ℕ → ℕ) : Conditions where
  clock := clock
  fails _ := false

def Database.tick (db : Database) : Database := { db with executed := db.executed + 1 }

def exec (cond : Conditions) : Procedure.Handler Statement Statement.Response Database :=
  fun stmt db =>
    if cond.fails db.executed then (none, db.tick)
    else
      let outcome := perform (cond.clock db.executed) stmt db
      (outcome.1, outcome.2.tick)

end OverSync.Coordinator
