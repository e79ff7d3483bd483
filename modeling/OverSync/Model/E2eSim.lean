import OverSync.Library.Double
import OverSync.Library.Guard
import OverSync.Library.Hex
import Mathlib.Algebra.Group.Int.Defs
import Mathlib.Logic.Function.Basic

/-! # The end-to-end simulators

`BaseHtlcSim` with `EvmHtlcSim` and `SorobanHtlcSim`, and `hashOrderPreimage` of the SDK, against
which they check claims. A `bigint` is an integer; times are whole seconds in doubles. -/

namespace OverSync.E2eSim

open Function Library

inductive OrderStatus where
  | funded
  | claimed
  | refunded
  deriving DecidableEq, Repr

structure CreateOrderInput where
  hashlock : String
  timelockSeconds : ℕ
  sender : Option String
  amount : Option ℤ
  maker : Option String
  recipient : Option String
  deriving DecidableEq, Repr

structure OrderView where
  id : ℤ
  hashlock : String
  timelockAbsolute : ℕ
  status : OrderStatus
  createdAt : ℕ
  finalisedAt : ℕ
  amount : ℤ
  maker : String
  recipient : String
  deriving DecidableEq, Repr

/-- Used when a caller does not name an amount. -/
def defaultEscrowAmount : ℤ := 1000000

/-- The balance of a party when it is first seen. -/
def partyFaucet : ℤ := 1000000000000

def defaultMaker : String := "maker"

def defaultRecipient : String := "recipient"

inductive SimError where
  | invalidHashlock
  | invalidTimelock
  | orderNotFound
  | orderNotClaimable
  | orderNotRefundable
  | invalidPreimage
  | expired
  | notExpired
  | resolverNotAuthorised
  /-- A plain `Error`. -/
  | error (message : String)
  deriving DecidableEq, Repr

def minTimelock : ℕ := 300

def maxTimelock : ℕ := 24 * 60 * 60

/-! ## Hex strings -/

/-- What follows `0x`, if it is hex. -/
def hexDigits (s : String) : Option (List Char) :=
  match s.toList with
  | '0' :: 'x' :: hex => if hex.all isHexDigit then some hex else none
  | _ => none

/-- `/^0x[0-9a-fA-F]{64}$/` -/
def isHashlock (s : String) : Bool := (hexDigits s).any fun hex => hex.length = 64

/-- `/^0x0+$/` -/
def isZero (s : String) : Bool :=
  (hexDigits s).any fun hex => hex ≠ [] && hex.all fun c => c = '0'

/-- `/^0x(?:[0-9a-fA-F]{2})+$/` -/
def isBytes (s : String) : Bool :=
  (hexDigits s).any fun hex => hex ≠ [] && hex.length % 2 = 0

/-- `hexToUint8` of a string with an even number of digits. -/
def hexToUint8 (hex : String) : Bytes :=
  match hex.toList with
  | '0' :: 'x' :: clean => decodeHex clean
  | clean => decodeHex clean

def hexText (bytes : Bytes) : String := String.ofList ('0' :: 'x' :: encodeHex bytes)

def maxOrderId : ℤ := 2 ^ 256 - 1

/-- Hash the 32-byte big-endian encoding of the order id followed by the preimage. -/
def hashOrderPreimage (sha256 : Bytes → Bytes) (orderId : ℤ) (preimage : String) :
    Except SimError String := do
  require (0 ≤ orderId ∧ orderId ≤ maxOrderId)
    (.error "orderId must fit in an unsigned 256-bit integer")
  require (preimage ≠ "0x") (.error "preimage must not be empty")
  require (isBytes preimage = true) (.error "preimage must be non-empty, even-length hex bytes")
  let bytes := hexToUint8 preimage
  require (bytes ≠ []) (.error "preimage must not be empty")
  return hexText (sha256 (toBigEndian 32 orderId.toNat ++ bytes))

/-! ## `BaseHtlcSim` -/

structure HtlcSim where
  orders : ℤ → Option OrderView
  /-- Escrow still locked per order id. -/
  escrow : ℤ → Option ℤ
  balances : String → Option ℤ
  nextId : ℤ
  now : ℕ
  registryEnabled : Bool
  activeResolvers : List String

namespace HtlcSim

/-- Just constructed, at a time of the clock. -/
def new (now : ℕ) : HtlcSim where
  orders _ := none
  escrow _ := none
  balances _ := none
  nextId := 1
  now := now
  registryEnabled := false
  activeResolvers := []

def advanceTime (seconds : ℕ) (sim : HtlcSim) : HtlcSim :=
  { sim with now := Double.add sim.now seconds }

/-- Seed a party the first time it is seen. -/
def ensureParty (party : String) (sim : HtlcSim) : HtlcSim :=
  if (sim.balances party).isSome then sim
  else { sim with balances := update sim.balances party (some partyFaucet) }

def setBalance (party : String) (balance : ℤ) (sim : HtlcSim) : HtlcSim :=
  { sim with balances := update sim.balances party (some balance) }

/-- The gate; nothing in the module opens or closes it. -/
def checkRegistry (toLowerCase : String → String) (sender : Option String) (sim : HtlcSim) :
    Except SimError Unit :=
  if sim.registryEnabled then
    match sender.map toLowerCase with
    | some sender =>
      require (sender ≠ "" ∧ sim.activeResolvers.contains sender = true) .resolverNotAuthorised
    | none => .error .resolverNotAuthorised
  else .ok ()

def createOrder (toLowerCase : String → String) (input : CreateOrderInput) (sim : HtlcSim) :
    Except SimError (HtlcSim × ℤ) := do
  require (isHashlock input.hashlock = true ∧ isZero input.hashlock = false) .invalidHashlock
  require (minTimelock ≤ input.timelockSeconds ∧ input.timelockSeconds ≤ maxTimelock)
    .invalidTimelock
  checkRegistry toLowerCase input.sender sim
  let id := sim.nextId
  let amount := input.amount.getD defaultEscrowAmount
  let maker := input.maker.getD defaultMaker
  let recipient := input.recipient.getD defaultRecipient
  let order : OrderView :=
    { id, hashlock := input.hashlock
      timelockAbsolute := Double.add sim.now input.timelockSeconds
      status := .funded, createdAt := sim.now, finalisedAt := 0, amount, maker, recipient }
  let sim := ({ sim with nextId := sim.nextId + 1 }.ensureParty maker).ensureParty recipient
  let sim := sim.setBalance maker ((sim.balances maker).getD 0 - amount)
  return ({ sim with
    escrow := update sim.escrow id (some amount)
    orders := update sim.orders id (some order) }, id)

def getMutable (id : ℤ) (sim : HtlcSim) : Except SimError OrderView :=
  match sim.orders id with
  | some order => .ok order
  | none => .error .orderNotFound

/-- Move whatever is locked for an order out of escrow and credit it. -/
def releaseEscrow (id : ℤ) (recipient : String) (sim : HtlcSim) : HtlcSim :=
  let locked := (sim.escrow id).getD 0
  let sim := { sim with escrow := update sim.escrow id (some 0) }.ensureParty recipient
  sim.setBalance recipient ((sim.balances recipient).getD 0 + locked)

/-- The order of an id comes to its end. -/
def finalise (id : ℤ) (order : OrderView) (status : OrderStatus) (sim : HtlcSim) : HtlcSim :=
  { sim with
    orders := update sim.orders id (some { order with status, finalisedAt := sim.now }) }

def refundOrder (id : ℤ) (sim : HtlcSim) : Except SimError HtlcSim := do
  let order ← sim.getMutable id
  require (order.status = .funded) .orderNotRefundable
  require (order.timelockAbsolute < sim.now) .notExpired
  return (sim.finalise id order .refunded).releaseEscrow order.id order.maker

/-- The claim of both simulators. -/
def claim (sha256 : Bytes → Bytes) (id : ℤ) (preimage : String) (sim : HtlcSim) :
    Except SimError HtlcSim := do
  let order ← sim.getMutable id
  require (order.status = .funded) .orderNotClaimable
  require (sim.now ≤ order.timelockAbsolute) .expired
  require (isBytes preimage = true) .invalidPreimage
  let hash ← hashOrderPreimage sha256 id preimage
  require (hash = order.hashlock) .invalidPreimage
  return (sim.finalise id order .claimed).releaseEscrow order.id order.recipient

end HtlcSim

def EvmHtlcSim.claimOrder (sha256 : Bytes → Bytes) (id : ℤ) (preimage : String) (sim : HtlcSim) :
    Except SimError HtlcSim :=
  sim.claim sha256 id preimage

def SorobanHtlcSim.claimOrder (sha256 : Bytes → Bytes) (id : ℤ) (preimage : String)
    (sim : HtlcSim) : Except SimError HtlcSim :=
  sim.claim sha256 id preimage

end OverSync.E2eSim
