import OverSync.Library.Bytes
import OverSync.Model.Coordinator.Database
import Mathlib.Algebra.GroupWithZero.Nat
import Mathlib.Data.List.Sort

/-! # The coordinator's services

`OrdersRepository`, `OrderService` and `SecretService`. Every `await` of a database statement
is a point where other calls may run. -/

namespace OverSync.Coordinator

open Library

/-- What the coordinator gets from its platform and its configuration. -/
structure Deployment where
  /-- SHA-256 of bytes as `0x` and lower-case hex. -/
  sha256 : Bytes → String
  toLowerCase : String → String
  toLowerCase_idem : ∀ s, toLowerCase (toLowerCase s) = toLowerCase s
  minGapSeconds : ℤ

/-! ## Errors -/

/-- Codes of an `OrderValidationError` that is not a refused transition. -/
inductive OrderErrorCode where
  | timelocksReversed
  | gapTooSmall
  | quoteExpired
  | quoteNotFound
  | quoteMismatch
  deriving DecidableEq, Repr

structure TransitionRejectionInfo extends RejectedTransition where
  publicId : String
  deriving DecidableEq, Repr

inductive CoordinatorError where
  /-- `OrderValidationError` -/
  | validation (message : String) (code : Option OrderErrorCode)
  /-- `OrderTransitionRejectedError` -/
  | rejected (info : TransitionRejectionInfo)
  /-- `SecretConflictError` -/
  | secretConflict
  /-- `SecretExpiredError` -/
  | secretExpired (message : String)
  /-- `CursorMismatchError` -/
  | cursorMismatch (chain : ChainName) (stored configured : String)
  /-- A plain `Error`. -/
  | error (message : String)
  /-- A failed statement. -/
  | database
  deriving DecidableEq, Repr

def CoordinatorError.message : CoordinatorError → String
  | .validation message _ => message
  | .rejected info => info.reason
  | .secretConflict => "a secret is already stored for this order"
  | .secretExpired message => message
  | .cursorMismatch chain stored configured =>
    chain.text ++ " cursor was saved for network \"" ++ stored ++
      "\" but the coordinator is configured for \"" ++ configured ++ "\"; " ++
      "refusing to start. Point DATABASE_URL at the matching database or reset the cursor " ++
      "deliberately."
  | .error message => message
  -- Stands for the message of the driver.
  | .database => "database statement failed"

abbrev Task := Procedure Statement Statement.Response CoordinatorError

def query (stmt : Statement) : Task stmt.Response :=
  Procedure.statement .database stmt

/-- Code that awaits nothing. -/
def Task.ofExcept {α : Type} : Except CoordinatorError α → Task α
  | .ok a => pure a
  | .error e => throw e

/-! ## `OrdersRepository` -/

def EventPayload.asSummary : EventPayload → Option TransitionSummary
  | .transitionSummary summary => some summary
  | .transitionRejected _ => none

def EventPayload.asRejection : EventPayload → Option RejectedTransition
  | .transitionSummary _ => none
  | .transitionRejected rejection => some rejection

namespace OrdersRepository

def findByPublicId (publicId : String) : Task (Option OrderRow) :=
  query (.byPublicId publicId)

def findByHashlock (hashlock : String) : Task (Option OrderRow) :=
  query (.byHashlock hashlock)

def findBySrcOrderId (chain : Chain) (orderId : String) : Task (Option OrderRow) :=
  query (.bySrcOrderId chain orderId)

def findByDstOrderId (chain : Chain) (orderId : String) : Task (Option OrderRow) :=
  query (.byDstOrderId chain orderId)

def findByPreimage (preimage : String) : Task (Option OrderRow) :=
  query (.byPreimage preimage)

def recordTransition (orderId : ℕ) («from» : Option OrderStatus) («to» : OrderStatus)
    (txHash : Option String) (category : String) : Task Unit :=
  query (.insertOrderEvent orderId (.transitionSummary ⟨«from», «to», txHash, category⟩))

/-- `publicId` is the random id drawn for the order. -/
def announce (publicId : String) (input : AnnounceOrderInput) : Task OrderRow := do
  let _ ← query (.insertOrder publicId input)
  match ← findByPublicId publicId with
  | none => throw (.error "Failed to insert order")
  | some order =>
    recordTransition order.id none .announced none "created"
    pure order

/-- The frame of the writers: look the order up, write, record the transition. -/
def write (publicId : String) (stmt : Statement) («to» : OrderStatus) (txHash : Option String) :
    Task Unit := do
  match ← findByPublicId publicId with
  | none => throw (.error "Unknown order")
  | some order =>
    let _ ← query stmt
    recordTransition order.id (some order.status) «to» txHash «to».text

def setStatus (publicId : String) (status : OrderStatus) (txHash : Option String) : Task Unit :=
  write publicId (.updateStatus publicId status) status txHash

def recordSrcLock (lock : SrcLock) : Task Unit :=
  write lock.publicId (.updateSrcLock lock) .srcLocked (some lock.txHash)

def recordDstLock (lock : DstLock) : Task Unit :=
  write lock.publicId (.updateDstLock lock) .dstLocked (some lock.txHash)

def recordSecretRevealed (publicId preimage txHash : String) : Task Unit :=
  write publicId (.updateSecret publicId preimage txHash) .secretRevealed (some txHash)

def recordRejectedTransition (info : TransitionRejectionInfo) : Task Unit := do
  match ← findByPublicId info.publicId with
  | none => throw (.error "Unknown order")
  | some order =>
    query (.insertOrderEvent order.id (.transitionRejected info.toRejectedTransition))

def getChainCursor (chain : ChainName) : Task (Option ChainCursor) :=
  query (.getCursor chain)

def saveChainCursor (chain : ChainName) (cursor : ChainCursor) : Task Unit :=
  query (.upsertCursor chain cursor)

def hasProcessedEvent (eventKey : String) : Task Bool :=
  query (.hasProcessedEvent eventKey)

def markEventProcessed (event : ProcessedEvent) : Task Unit :=
  query (.insertProcessedEvent event)

/-- Events of one kind, oldest first: `ORDER BY created_at ASC, id ASC`. -/
def eventsOf {α : Type} (db : Database) (orderId : ℕ) (kind : EventPayload → Option α) : List α :=
  let rows := db.orderEvents.filter fun event => event.orderId = orderId
  (rows.insertionSort fun a b => a.createdAt ≤ b.createdAt).filterMap fun event =>
    kind event.payload

/-- What `getTransitions` answers in a state of the database. -/
def getTransitions (db : Database) (publicId : String) : List TransitionSummary :=
  match db.byPublicId publicId with
  | none => []
  | some order => eventsOf db order.id EventPayload.asSummary

/-- What `getRejectedTransitions` answers in a state of the database. -/
def getRejectedTransitions (db : Database) (publicId : String) : List RejectedTransition :=
  match db.byPublicId publicId with
  | none => []
  | some order => eventsOf db order.id EventPayload.asRejection

end OrdersRepository

/-! ## Timelocks -/

def validateTimelocksAtCreation (srcTimelock dstTimelock minGapSeconds : ℤ) :
    Option OrderErrorCode :=
  if dstTimelock ≥ srcTimelock then some .timelocksReversed
  else if srcTimelock - dstTimelock < minGapSeconds then some .gapTooSmall
  else none

def assertTimelocksAtCreation (srcTimelock dstTimelock minGapSeconds : ℤ) :
    Except CoordinatorError Unit :=
  match validateTimelocksAtCreation srcTimelock dstTimelock minGapSeconds with
  | none => .ok ()
  | some .timelocksReversed =>
    .error (.validation "Destination timelock must be strictly before source timelock"
      (some .timelocksReversed))
  | some code =>
    .error (.validation
      "Timelock gap between source and destination is below the minimum safety gap" (some code))

inductive SecretWindowError where
  | srcTimelockExpired
  | dstTimelockExpired
  deriving DecidableEq, Repr

/-- `none` while the window is open. -/
def evaluateSecretWindow (srcTimelock dstTimelock : Option ℤ) (nowSec : ℤ) :
    Option SecretWindowError :=
  if srcTimelock.any fun t => t > 0 && nowSec > t then some .srcTimelockExpired
  else if dstTimelock.any fun t => t > 0 && nowSec > t then some .dstTimelockExpired
  else none

/-! ## `OrderService` -/

def orderServiceWriter : String := "order-service"

def isHexDigit (c : Char) : Bool :=
  c.isDigit || ('a' ≤ c && c ≤ 'f') || ('A' ≤ c && c ≤ 'F')

namespace OrderService

/-- `HEX_ADDRESS` and `STELLAR_ADDRESS`. -/
def isChainAddress (chain : Chain) (address : String) : Bool :=
  match chain, address.toList with
  | .ethereum, '0' :: 'x' :: hex =>
    hex.length = 40 && hex.all isHexDigit
  | .stellar, 'G' :: rest =>
    rest.length = 55 && rest.all fun c => c.isUpper || ('2' ≤ c && c ≤ '7')
  | _, _ => false

def validateChainAddress (chain : Chain) (address : String) : Except CoordinatorError Unit :=
  if isChainAddress chain address then .ok ()
  else match chain with
    | .ethereum => .error (.validation (address ++ " is not a valid Ethereum address") none)
    | .stellar => .error (.validation (address ++ " is not a valid Stellar account") none)

def validateDirectionAgainstChains (input : AnnounceOrderInput) : Except CoordinatorError Unit :=
  let (src, dst) : Chain × Chain :=
    match input.direction with
    | .ethToXlm => (.ethereum, .stellar)
    | .xlmToEth => (.stellar, .ethereum)
  if src = input.srcChain ∧ dst = input.dstChain then .ok ()
  else .error (.validation ("Direction " ++ input.direction.text ++ " requires src=" ++ src.text ++
    " and dst=" ++ dst.text) none)

def validateAnnouncement (input : AnnounceOrderInput) : Except CoordinatorError Unit := do
  validateDirectionAgainstChains input
  validateChainAddress input.srcChain input.srcAddress
  validateChainAddress input.dstChain input.dstAddress

variable (D : Deployment)

/-- `quoteGate` is what the quote freshness gate ends with, `publicId` the random id drawn for
the order. -/
def announce (quoteGate : Except CoordinatorError Unit) (publicId : String)
    (input : AnnounceOrderInput) : Task OrderRow := do
  let hashlock := D.toLowerCase input.hashlock
  Task.ofExcept (validateAnnouncement input)
  Task.ofExcept quoteGate
  match ← OrdersRepository.findByHashlock hashlock with
  | some existing =>
    throw (.validation ("An order with hashlock " ++ hashlock ++ " already exists (publicId=" ++
      existing.publicId ++ ")") none)
  | none => OrdersRepository.announce publicId { input with hashlock := hashlock }

structure AdvanceRequest where
  publicId : String
  action : OrderTransitionAction
  txHash : Option String
  writer : String
  isSameStep : OrderRow → Bool
  apply : OrderRow → Task Unit

/-- One `transition_rejected` event; the order row is left alone. -/
def persistRejection (info : TransitionRejectionInfo) : Task Unit :=
  OrdersRepository.recordRejectedTransition info

def rejectTransition (info : TransitionRejectionInfo) : Task Unit := do
  persistRejection info
  throw (.rejected info)

/-- The refusal of a request by an order, with its code and reason. -/
def AdvanceRequest.refusal (request : AdvanceRequest) (order : OrderRow)
    (code : OrderFailureCode) (reason : String) : TransitionRejectionInfo where
  «from» := order.status
  «to» := actionTargetStatus request.action
  action := request.action
  code := code
  reason := reason
  txHash := request.txHash
  writer := request.writer
  publicId := request.publicId

/-- Apply one legal edge, refusing (and recording) anything else. -/
def advance (request : AdvanceRequest) : Task Unit := do
  match ← OrdersRepository.findByPublicId request.publicId with
  | none => throw (.validation ("unknown order " ++ request.publicId) none)
  | some order =>
    let target := actionTargetStatus request.action
    if order.status = target then
      if request.isSameStep order then
        persistRejection (request.refusal order .repeatedStep
          (describeTransitionFailure .repeatedStep order.status target))
      else
        rejectTransition (request.refusal order .conflictingStep
          (describeTransitionFailure .conflictingStep order.status target))
    else
      match evaluateTransition order.status target request.action with
      | some (code, reason) => rejectTransition (request.refusal order code reason)
      | none => request.apply order

/-- The order of the timelocks, where the destination leg is already known. -/
def srcLockGuard (lock : SrcLock) (order : OrderRow) : Except CoordinatorError Unit :=
  match order.dstTimelock with
  | none => .ok ()
  | some dstTimelock => assertTimelocksAtCreation lock.timelock dstTimelock D.minGapSeconds

def srcLockRequest (lock : SrcLock) (writer : String) : AdvanceRequest where
  publicId := lock.publicId
  action := .escrow
  txHash := some lock.txHash
  writer := writer
  isSameStep order :=
    order.srcOrderId = some lock.orderId && order.srcLockTx = some lock.txHash &&
      order.srcLockBlock = some lock.blockNumber && order.srcTimelock = some lock.timelock
  apply order := do
    Task.ofExcept (srcLockGuard D lock order)
    OrdersRepository.recordSrcLock lock

/-- Source leg escrowed on chain. -/
def recordSrcLock (lock : SrcLock) (writer : String) : Task Unit :=
  advance (srcLockRequest D lock writer)

/-- The order of the timelocks, where the source leg is already known. -/
def dstLockGuard (lock : DstLock) (order : OrderRow) : Except CoordinatorError Unit :=
  match order.srcTimelock with
  | none => .ok ()
  | some srcTimelock => assertTimelocksAtCreation srcTimelock lock.timelock D.minGapSeconds

def dstLockRequest (lock : DstLock) (writer : String) : AdvanceRequest where
  publicId := lock.publicId
  action := .secretRelay
  txHash := some lock.txHash
  writer := writer
  isSameStep order :=
    order.dstOrderId = some lock.orderId && order.dstLockTx = some lock.txHash &&
      order.dstLockBlock = some lock.blockNumber && order.dstTimelock = some lock.timelock &&
      order.resolverAddress = lock.resolver
  apply order := do
    Task.ofExcept (dstLockGuard D lock order)
    OrdersRepository.recordDstLock lock

/-- Destination leg locked by a resolver. -/
def recordDstLock (lock : DstLock) (writer : String) : Task Unit :=
  advance (dstLockRequest D lock writer)

def secretRequest (publicId canonical txHash writer : String) : AdvanceRequest where
  publicId := publicId
  action := .secret
  txHash := some txHash
  writer := writer
  isSameStep order := order.preimage = some canonical
  apply _ := OrdersRepository.recordSecretRevealed publicId canonical txHash

/-- Preimage relayed for an order. The preimage is the identity of this step. -/
def recordSecret (publicId preimage txHash writer : String) : Task Unit :=
  advance (secretRequest publicId (D.toLowerCase preimage) txHash writer)

/-- A request that only sets the status; a repeat is always the same step. -/
def statusRequest (publicId : String) (action : OrderTransitionAction) (status : OrderStatus)
    (txHash : Option String) (writer : String) : AdvanceRequest where
  publicId := publicId
  action := action
  txHash := txHash
  writer := writer
  isSameStep _ := true
  apply _ := OrdersRepository.setStatus publicId status txHash

/-- The order was claimed on chain. -/
def recordClaim (publicId txHash writer : String) : Task Unit :=
  advance (statusRequest publicId .claim .completed (some txHash) writer)

/-- A refund was observed on chain. -/
def recordRefund (publicId txHash writer : String) : Task Unit :=
  advance (statusRequest publicId .refund .refunded (some txHash) writer)

def markStatus (publicId : String) (status : OrderStatus) (writer : String) : Task Unit :=
  match actionForStatus status with
  | none => throw (.validation (status.text ++ " is not the target of a lifecycle edge") none)
  | some action => advance (statusRequest publicId action status none writer)

end OrderService

/-! ## Secrets -/

def hexValue (c : Char) : ℕ :=
  if c.isDigit then c.toNat - 48
  else if 'a' ≤ c then c.toNat - 87
  else c.toNat - 55

/-- `hexToUint8` on an even number of hex digits. -/
def hexToUint8 : List Char → Bytes
  | a :: b :: rest => UInt8.ofNat (16 * hexValue a + hexValue b) :: hexToUint8 rest
  | _ => []

/-- `length` of a JavaScript string counts UTF-16 units. -/
def utf16Length (chars : List Char) : ℕ :=
  (chars.map fun c => if c.toNat < 65536 then 1 else 2).sum

def assertValidSecretFormat (value fieldName : String) : Except CoordinatorError Unit :=
  match value.toList with
  | '0' :: 'x' :: hexPart =>
    if utf16Length hexPart ≠ 64 then
      .error (.error (fieldName ++ " must be exactly 32 bytes (64 hex characters)"))
    else if !hexPart.all isHexDigit then
      .error (.error (fieldName ++ " contains invalid hex characters"))
    else if hexPart.all (· = '0') then .error (.error (fieldName ++ " must not be all zeros"))
    else .ok ()
  | _ => .error (.error (fieldName ++ " must start with \"0x\""))

/-- `MAX_ORDER_ID` -/
def maxOrderId : ℕ := 2 ^ 256 - 1

/-- Hash the order id's 32-byte big-endian encoding followed by the preimage. -/
def hashOrderPreimage (D : Deployment) (orderId : ℕ) (preimage : String) :
    Except CoordinatorError String :=
  if orderId > maxOrderId then
    .error (.error "orderId must fit in an unsigned 256-bit integer")
  else
    match preimage.toList with
    | ['0', 'x'] => .error (.error "preimage must not be empty")
    | '0' :: 'x' :: hex =>
      if hex.all isHexDigit && hex.length % 2 = 0 then
        .ok (D.sha256 (toBigEndian 32 orderId ++ hexToUint8 hex))
      else .error (.error "preimage must be non-empty, even-length hex bytes")
    | _ => .error (.error "preimage must be non-empty, even-length hex bytes")

/-- `BigInt(orderId)` under the guard `/^\d+$/`. -/
def decimalId (orderId : String) : Option ℕ :=
  let digits := orderId.toList
  if digits ≠ [] ∧ digits.all Char.isDigit then
    some (digits.foldl (fun n c => 10 * n + (c.toNat - 48)) 0)
  else none

/-- `orderIds.some(…)`: the first id that matches or raises an error decides. -/
def someOrderIdMatches (D : Deployment) (hashlock canonical : String) :
    List String → Except CoordinatorError Bool
  | [] => .ok false
  | orderId :: orderIds =>
    match decimalId orderId with
    | none => someOrderIdMatches D hashlock canonical orderIds
    | some id =>
      match hashOrderPreimage D id canonical with
      | .error e => .error e
      | .ok digest =>
        if digest = hashlock then .ok true
        else someOrderIdMatches D hashlock canonical orderIds

/-- The recorded on-chain ids of an order. -/
def OrderRow.orderIds (order : OrderRow) : List String :=
  order.srcOrderId.toList ++ order.dstOrderId.toList

def matchesKnownOrders (D : Deployment) (order : OrderRow) (canonical : String) :
    Except CoordinatorError Bool :=
  someOrderIdMatches D order.hashlock canonical order.orderIds

namespace SecretService

def assertInsideTimelockWindow (srcTimelock dstTimelock : Option ℤ) (nowSec : ℤ) :
    Except CoordinatorError Unit :=
  match evaluateSecretWindow srcTimelock dstTimelock nowSec with
  | none => .ok ()
  | some .dstTimelockExpired =>
    .error (.secretExpired "the destination timelock window has expired")
  | some .srcTimelockExpired =>
    .error (.secretExpired "the source timelock window has expired")

/-- `nowSec` is the reading of the service's clock in seconds. -/
def reveal (D : Deployment) (nowSec : ℤ) (publicId preimage txHash : String) : Task Unit := do
  Task.ofExcept (assertValidSecretFormat preimage "preimage")
  let canonical := D.toLowerCase preimage
  match ← OrdersRepository.findByPublicId publicId with
  | none => throw (.error ("unknown order " ++ publicId))
  | some order =>
    if ← Task.ofExcept (matchesKnownOrders D order canonical) then
      match order.preimage with
      | some stored =>
        -- A duplicate relay changes nothing: the first transaction hash stays.
        if stored = canonical then pure () else throw .secretConflict
      | none =>
        let existing ← OrdersRepository.findByPreimage canonical
        if existing.any (·.publicId ≠ publicId) then
          throw (.error "preimage already used in another order")
        else do
          Task.ofExcept (assertInsideTimelockWindow order.srcTimelock order.dstTimelock nowSec)
          OrderService.recordSecret D publicId canonical txHash orderServiceWriter
    else throw (.error "preimage does not match order hashlock")

end SecretService

end OverSync.Coordinator
