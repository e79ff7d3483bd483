import OverSync.Library.Hex
import OverSync.Model.Coordinator.Listeners
import OverSync.Model.SorobanHtlc

/-! # Events between `oversync-htlc` and the coordinator

What the contract publishes for its calls, and `decodeSorobanOrderEvent`, which turns it into an
event of the bridge. -/

namespace OverSync.Coordinator

open Library

/-! ## Published values -/

/-- The values of the contract's events on the ledger. -/
inductive ScVal where
  | symbol (name : String)
  | address (address : SorobanHtlc.Address)
  | bytes (bytes : Bytes)
  | u64 (value : ℕ)
  | i128 (value : ℤ)
  | vec (items : List ScVal)

/-- The first argument of `env.events().publish`. -/
def eventTopics : SorobanHtlc.Event Bytes → List ScVal
  | .created sender beneficiary hashlock _ _ _ _ _ =>
    [.symbol "created", .address sender, .address beneficiary, .bytes hashlock]
  | .claimed beneficiary hashlock _ _ _ _ _ =>
    [.symbol "claimed", .address beneficiary, .bytes hashlock]
  | .refunded refundAddress hashlock _ _ _ _ =>
    [.symbol "refunded", .address refundAddress, .bytes hashlock]

/-- The second argument, a tuple. -/
def eventData : SorobanHtlc.Event Bytes → ScVal
  | .created _ _ _ orderId asset amount safetyDeposit timelock =>
    .vec [.u64 orderId.val, .address asset, .i128 amount, .i128 safetyDeposit, .u64 timelock]
  | .claimed _ _ orderId caller preimage amount safetyDeposit =>
    .vec [.u64 orderId.val, .address caller, .bytes preimage, .i128 amount, .i128 safetyDeposit]
  | .refunded _ _ orderId caller amount safetyDeposit =>
    .vec [.u64 orderId.val, .address caller, .i128 amount, .i128 safetyDeposit]

/-! ## `soroban-events` -/

/-- The values of JavaScript that `scValToNative` makes. Its numbers are 32-bit integers. -/
inductive Native where
  | string (text : String)
  | bigint (value : ℤ)
  | number (value : ℤ)
  | uint8Array (bytes : Bytes)
  | array (items : List Native)
  /-- A boolean, a map, `null` or `undefined`. -/
  | other

/-- What the coordinator uses of the Stellar SDK and of the platform; `none` is an exception. -/
structure SorobanSdk where
  fromXDR : String → Option ScVal
  scValToNative : ScVal → Option Native
  /-- `Number` of a `bigint` -/
  toNumber : ℤ → ℤ

/-- An `ScVal` or its base64 XDR encoding. -/
inductive SorobanScVal where
  | scVal (value : ScVal)
  | xdr (text : String)

structure RawSorobanEvent where
  topic : List SorobanScVal
  value : SorobanScVal
  txHash : String
  ledger : ℤ

variable (S : SorobanSdk)

/-- The first branch of `decodeScVal`. -/
def SorobanScVal.parse : SorobanScVal → Option ScVal
  | .xdr text => S.fromXDR text
  | .scVal value => some value

def decodeScVal (value : SorobanScVal) : Option Native := (value.parse S).bind S.scValToNative

/-- `/^0x[0-9a-fA-F]*$/` -/
def isHexText (s : String) : Bool :=
  match s.toList with
  | '0' :: 'x' :: hex => hex.all isHexDigit
  | _ => false

def toHex : Option Native → Option String
  | some (.uint8Array bytes) => some (String.ofList ('0' :: 'x' :: encodeHex bytes))
  | some (.string text) => if isHexText text then some text else none
  | _ => none

def toDecimalId : Option Native → Option String
  | some (.bigint value) => some (toString value)
  | some (.number value) => some (toString value)
  | some (.string text) =>
    if text ≠ "" ∧ text.toList.all Char.isDigit = true then some text else none
  | _ => none

def toUnixSeconds : Option Native → Option ℤ
  | some (.bigint value) => some (S.toNumber value)
  | some (.number value) => some value
  | _ => none

def decodeArray : Native → List Native
  | .array items => items
  | value => [value]

/-- `none` is `null`. -/
def decodeSorobanOrderEvent (raw : RawSorobanEvent) : Option BridgeOrderEvent := do
  let topics ← raw.topic.mapM (decodeScVal S)
  let value ← decodeScVal S raw.value
  let data := decodeArray value
  match topics.head? with
  | some (.string name) =>
    if name = "created" then
      some
        { kind := .lock
          chain := .stellar
          txHash := raw.txHash
          blockNumber := raw.ledger
          hashlock := toHex topics[3]?
          orderId := toDecimalId data[0]?
          timelock := toUnixSeconds S data[4]?
          preimage := none }
    else if name = "claimed" then
      some
        { kind := .claim
          chain := .stellar
          txHash := raw.txHash
          blockNumber := raw.ledger
          hashlock := toHex topics[2]?
          orderId := toDecimalId data[0]?
          timelock := none
          preimage := toHex data[2]? }
    else if name = "refunded" then
      some
        { kind := .refund
          chain := .stellar
          txHash := raw.txHash
          blockNumber := raw.ledger
          hashlock := toHex topics[2]?
          orderId := toDecimalId data[0]?
          timelock := none
          preimage := none }
    else none
  | _ => none

end OverSync.Coordinator
