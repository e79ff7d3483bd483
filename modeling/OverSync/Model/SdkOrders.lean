import OverSync.Library.Guard
import OverSync.Library.Hex
import OverSync.Model.SorobanHtlc

/-! # The SDK's view of an order on Stellar

`get_order` of `oversync-htlc`, and `parseSorobanOrder`, which types what the Stellar SDK makes
of its return value. -/

namespace OverSync.SdkOrders

open Library

/-- The values of JavaScript that may stand in the payload. A number that is no integer is
`none`; `bytes` is a `Uint8Array` or a `Buffer`. -/
inductive Raw where
  | undefined
  | null
  | boolean (value : Bool)
  | bigint (value : ℤ)
  | number (value : Option ℤ)
  | string (text : String)
  | bytes (bytes : Bytes)
  | array (items : List Raw)
  | object (members : List (String × Raw))

def Raw.typeof : Raw → String
  | .undefined => "undefined"
  | .boolean _ => "boolean"
  | .bigint _ => "bigint"
  | .number _ => "number"
  | .string _ => "string"
  | .null | .bytes _ | .array _ | .object _ => "object"

/-- `raw[name]`, if `name in raw`. -/
def Raw.get (raw : Raw) (name : String) : Option Raw :=
  match raw with
  | .object members => members.lookup name
  | _ => none

/-- `raw[name]` -/
def Raw.field (raw : Raw) (name : String) : Raw := (raw.get name).getD .undefined

/-! ## Errors -/

inductive ParseError where
  | expectedObject (got : String)
  | missingField (name : String)
  | unknownStatus (value : Raw)
  | notNumericText (field text : String)
  | notNumeric (field got : String)
  | notString (field got : String)
  | notHex (got : String)
  /-- `BigInt` of a number that is no integer; no error of the SDK. -/
  | rangeError

/-- The message; `describe` is the conversion of a value to a string in a template. -/
def ParseError.message (describe : Raw → String) : ParseError → String
  | .expectedObject got => "parseSorobanOrder: expected an object, got " ++ got
  | .missingField name => "parseSorobanOrder: missing required field \"" ++ name ++ "\""
  | .unknownStatus value => "parseSorobanOrder: unknown status value \"" ++ describe value ++ "\""
  | .notNumericText field text => "parseSorobanOrder: field \"" ++ field ++
      "\" is not a numeric type (got string \"" ++ text ++ "\")"
  | .notNumeric field got => "parseSorobanOrder: field \"" ++ field ++
      "\" is not a numeric type (got " ++ got ++ ")"
  | .notString field got => "parseSorobanOrder: field \"" ++ field ++
      "\" is not a string (got " ++ got ++ ")"
  | .notHex got => "parseSorobanOrder: cannot convert value to hex: " ++ got
  | .rangeError => "The number cannot be converted to a BigInt because it is not an integer"

/-! ## Fields -/

inductive SorobanOrderStatus where
  | funded
  | claimed
  | refunded
  /-- `in` and `[]` also find what `STATUS_MAP` inherits from `Object.prototype`. -/
  | inherited (name : String)
  deriving DecidableEq, Repr

def inheritedNames : List String :=
  ["constructor", "__defineGetter__", "__defineSetter__", "hasOwnProperty", "__lookupGetter__",
    "__lookupSetter__", "isPrototypeOf", "propertyIsEnumerable", "toString", "valueOf",
    "__proto__", "toLocaleString"]

/-- `STATUS_MAP` -/
def statusMap (name : String) : Option SorobanOrderStatus :=
  if name = "Funded" then some .funded
  else if name = "Claimed" then some .claimed
  else if name = "Refunded" then some .refunded
  else if name ∈ inheritedNames then some (.inherited name)
  else none

def parseStatus (raw : Raw) : Except ParseError SorobanOrderStatus :=
  match raw with
  | .string name =>
    match statusMap name with
    | some status => .ok status
    | none => .error (.unknownStatus raw)
  | _ => .error (.unknownStatus raw)

def bytesToHex : Raw → Except ParseError String
  | .bytes bytes => .ok (String.ofList ('0' :: 'x' :: encodeHex bytes))
  | .string text => .ok (if text.startsWith "0x" then text else "0x" ++ text)
  | value => .error (.notHex value.typeof)

def toBigInt (value : Raw) (field : String) : Except ParseError ℤ :=
  match value with
  | .bigint value => .ok value
  | .number (some value) => .ok value
  | .number none => .error .rangeError
  | .string text =>
    match parseBigInt text with
    | some value => .ok value
    | none => .error (.notNumericText field text)
  | value => .error (.notNumeric field value.typeof)

def toString (value : Raw) (field : String) : Except ParseError String :=
  match value with
  | .string text => .ok text
  | value => .error (.notString field value.typeof)

/-- The preimage is normalised to an empty string while there is none. -/
def parsePreimage : Raw → Except ParseError String
  | .undefined | .null | .bytes [] | .string "" => .ok ""
  | value => bytesToHex value

/-! ## The order -/

structure SorobanOrderData where
  id : ℤ
  sender : String
  beneficiary : String
  refundAddress : String
  asset : String
  amount : ℤ
  safetyDeposit : ℤ
  hashlock : String
  timelock : ℤ
  status : SorobanOrderStatus
  preimage : String
  createdAt : ℤ
  finalisedAt : ℤ
  deriving DecidableEq, Repr

def requiredFields : List String :=
  ["id", "sender", "beneficiary", "refund_address", "asset", "amount", "safety_deposit",
    "hashlock", "timelock", "status", "preimage", "created_at", "finalised_at"]

/-- The conversions in the order of the source: the status and the preimage come first. -/
def parseFields (r : Raw) : Except ParseError SorobanOrderData := do
  let status ← parseStatus (r.field "status")
  let preimage ← parsePreimage (r.field "preimage")
  let id ← toBigInt (r.field "id") "id"
  let sender ← toString (r.field "sender") "sender"
  let beneficiary ← toString (r.field "beneficiary") "beneficiary"
  let refundAddress ← toString (r.field "refund_address") "refund_address"
  let asset ← toString (r.field "asset") "asset"
  let amount ← toBigInt (r.field "amount") "amount"
  let safetyDeposit ← toBigInt (r.field "safety_deposit") "safety_deposit"
  let hashlock ← bytesToHex (r.field "hashlock")
  let timelock ← toBigInt (r.field "timelock") "timelock"
  let createdAt ← toBigInt (r.field "created_at") "created_at"
  let finalisedAt ← toBigInt (r.field "finalised_at") "finalised_at"
  return { id, sender, beneficiary, refundAddress, asset, amount, safetyDeposit, hashlock,
           timelock, status, preimage, createdAt, finalisedAt }

/-- `none` is `null`: there is no such order. -/
def parseSorobanOrder (raw : Raw) : Except ParseError (Option SorobanOrderData) :=
  match raw with
  | .undefined | .null => .ok none
  | .array _ => .error (.expectedObject "array")
  | .boolean _ | .bigint _ | .number _ | .string _ => .error (.expectedObject raw.typeof)
  | .bytes _ | .object _ =>
    match requiredFields.find? fun name => (raw.get name).isNone with
    | some name => .error (.missingField name)
    | none => (parseFields raw).map some

/-! ## What the contract returns -/

/-- The fields of an order on the ledger. -/
inductive FieldVal where
  | u32 (value : ℕ)
  | u64 (value : ℕ)
  | i128 (value : ℤ)
  | address (address : SorobanHtlc.Address)
  | bytes (bytes : Bytes)

/-- `OrderStatus` has numbers for its variants, so the ledger shows the number. -/
def statusNumber : SorobanHtlc.OrderStatus → ℕ
  | .funded => 0
  | .claimed => 1
  | .refunded => 2

/-- An order as the ledger shows it: a map with its fields in the order of their names. -/
def orderFields (order : SorobanHtlc.Order Bytes) : List (String × FieldVal) :=
  [("amount", .i128 order.amount),
    ("asset", .address order.asset),
    ("beneficiary", .address order.beneficiary),
    ("created_at", .u64 order.createdAt),
    ("finalised_at", .u64 order.finalisedAt),
    ("hashlock", .bytes order.hashlock),
    ("id", .u64 order.id.val),
    ("preimage", .bytes order.preimage),
    ("refund_address", .address order.refundAddress),
    ("safety_deposit", .i128 order.safetyDeposit),
    ("sender", .address order.sender),
    ("status", .u32 (statusNumber order.status)),
    ("timelock", .u64 order.timelock)]

/-- `get_order` -/
def getOrder (s : SorobanHtlc.State Bytes) (orderId : SorobanHtlc.OrderId) :
    Option (SorobanHtlc.Order Bytes) := s.orders orderId

/-- `scValToNative` of the return value, for its conversion of the fields. -/
def nativeOrder (toNative : FieldVal → Raw) : Option (SorobanHtlc.Order Bytes) → Raw
  | none => .null
  | some order => .object ((orderFields order).map fun entry => (entry.1, toNative entry.2))

end OverSync.SdkOrders
