import OverSync.Library.Base64
import OverSync.Library.Json
import OverSync.Library.Utf8
import OverSync.Model.Coordinator.Database
import Mathlib.Data.List.Sort
import Mathlib.Data.String.Basic

/-! # Order history

`GET /api/orders/history`: the pagination codec, the query of `OrdersRepository` and the route. -/

namespace OverSync.Coordinator

open Library

inductive Network where
  | testnet
  | mainnet
  deriving DecidableEq, Repr

def Network.text : Network → String
  | .testnet => "testnet"
  | .mainnet => "mainnet"

/-- A value of `req.query`. -/
inductive QueryValue where
  | text (value : String)
  /-- A list or a record; `String(value)` is kept. -/
  | other (shown : String)
  deriving DecidableEq, Repr

def QueryValue.shown : QueryValue → String
  | .text value => value
  | .other shown => shown

structure HistoryQuery where
  address : Option QueryValue
  eth : Option QueryValue
  stellar : Option QueryValue
  network : Option QueryValue
  limit : Option QueryValue
  cursor : Option QueryValue
  deriving DecidableEq, Repr

/-- Conversions of the language. -/
structure Conversions where
  toLowerCase : String → String
  /-- Digits and lower-case letters stay as they are. -/
  toLowerCase_plain : ∀ s : String, (∀ c ∈ s.toList, c.isDigit ∨ c.isLower) → toLowerCase s = s
  /-- No character is dropped. -/
  toLowerCase_ne_empty : ∀ s, s ≠ "" → toLowerCase s ≠ ""
  /-- `Number(value)`, where it is an integer. -/
  toInteger : QueryValue → Option ℤ

/-- `s.trim()` -/
def trim (s : String) : String := String.ofList (jsTrim s.toList)

/-! ## Cursors -/

def cursorVersion : ℕ := 1

/-- `PUBLIC_ID` -/
def isPublicId (s : String) : Bool := s.toList.length = 32 && s.toList.all isLowerHexDigit

/-- `NETWORK` -/
def isNetwork (s : String) : Bool := s = Network.testnet.text || s = Network.mainnet.text

structure HistoryCursor where
  /-- Unix seconds of the last row on the previous page. -/
  createdAt : ℕ
  publicId : String
  user : Json.Text
  network : String
  deriving DecidableEq

inductive CursorRejection where
  | malformed
  | unsupportedVersion
  | userMismatch
  | networkMismatch
  deriving DecidableEq, Repr

def CursorRejection.text : CursorRejection → String
  | .malformed => "malformed"
  | .unsupportedVersion => "unsupported_version"
  | .userMismatch => "user_mismatch"
  | .networkMismatch => "network_mismatch"

section

variable (C : Conversions)

def normaliseUser (user : String) : String := C.toLowerCase (trim user)

def normaliseNetwork (network : String) : String := C.toLowerCase (trim network)

def encodeHistoryCursor (createdAt : ℕ) (publicId user network : String) : String :=
  let payload : Json.Record :=
    [(['v'], .number cursorVersion),
      (['c'], .number createdAt),
      (['p'], .text (C.toLowerCase publicId).toList),
      (['u'], .text (normaliseUser C user).toList),
      (['n'], .text (normaliseNetwork C network).toList)]
  String.ofList (Base64Url.encode (Utf8.encode (Json.stringify payload)))

/-- A string without unpaired surrogates. -/
def plainText (text : Json.Text) : Option String := (text.mapM id).map String.ofList

def decodeHistoryCursor : QueryValue → Option HistoryCursor
  | .other _ => none
  | .text raw =>
    if raw = "" then none
    else do
      let parsed ← Json.parse (Utf8.decode (Base64Url.decode raw.toList))
      let v ← (← parsed.member [some 'v']).asNat?
      if v ≠ cursorVersion then none
      else do
        let c ← (← parsed.member [some 'c']).asNat?
        let p ← plainText (← (← parsed.member [some 'p']).asText?)
        let u ← (← parsed.member [some 'u']).asText?
        let n ← plainText (← (← parsed.member [some 'n']).asText?)
        if isPublicId p ∧ u ≠ [] ∧ isNetwork n then some ⟨c, p, u, n⟩ else none

def validateHistoryCursor (raw : QueryValue) (user network : String) :
    Except (CursorRejection × String) HistoryCursor :=
  match decodeHistoryCursor raw with
  | none => .error (.malformed, "Cursor is not a valid pagination token")
  | some cursor =>
    if cursor.network ≠ normaliseNetwork C network then
      .error (.networkMismatch, "Cursor was issued for a different network")
    else if cursor.user ≠ (normaliseUser C user).toList.map some then
      .error (.userMismatch, "Cursor was issued for a different user")
    else .ok cursor

end

/-! ## `findByAddressPage` -/

/-- The last row of the previous page. -/
structure Keyset where
  createdAt : ℕ
  publicId : String
  deriving DecidableEq, Repr

/-- `created_at < :cursorCreatedAt OR (created_at = … AND public_id < …)` -/
def StoredOrder.olderThan (row : StoredOrder) (before : Keyset) : Bool :=
  row.createdAt < before.createdAt ||
    (row.createdAt = before.createdAt && row.publicId < before.publicId)

/-- `src_address = :addr OR dst_address = :addr` -/
def StoredOrder.isOf (row : StoredOrder) (address : String) : Bool :=
  row.srcAddress = address || row.dstAddress = address

/-- `ORDER BY created_at DESC, public_id DESC` -/
def StoredOrder.comesBefore (a b : StoredOrder) : Prop :=
  b.createdAt < a.createdAt ∨ (b.createdAt = a.createdAt ∧ b.publicId ≤ a.publicId)

instance (a b : StoredOrder) : Decidable (a.comesBefore b) :=
  inferInstanceAs (Decidable (_ ∨ _))

def OrdersRepository.findByAddressPage (db : Database) (address : String) (limit : ℕ)
    (before : Option Keyset) : List StoredOrder :=
  let rows := db.orders.filter fun row => row.isOf address && before.all row.olderThan
  (rows.insertionSort StoredOrder.comesBefore).take limit

/-! ## The route -/

structure LegView where
  chain : Chain
  address : String
  asset : String
  amount : String
  /-- Only the source leg has one. -/
  safetyDeposit : Option String
  orderId : Option String
  lockTx : Option String
  lockBlock : Option ℤ
  timelock : Option ℤ
  deriving DecidableEq, Repr

structure SecretView where
  revealed : Bool
  preimage : Option String
  revealedTx : Option String
  deriving DecidableEq, Repr

structure OrderView where
  id : String
  direction : Direction
  status : OrderStatus
  hashlock : String
  src : LegView
  dst : LegView
  secret : SecretView
  resolver : Option String
  createdAt : ℕ
  updatedAt : ℕ
  deriving DecidableEq, Repr

def serialiseOrder (order : StoredOrder) : OrderView where
  id := order.publicId
  direction := order.direction
  status := order.status
  hashlock := order.hashlock
  src :=
    { chain := order.srcChain, address := order.srcAddress, asset := order.srcAsset
      amount := order.srcAmount, safetyDeposit := some order.srcSafetyDeposit
      orderId := order.srcOrderId, lockTx := order.srcLockTx, lockBlock := order.srcLockBlock
      timelock := order.srcTimelock }
  dst :=
    { chain := order.dstChain, address := order.dstAddress, asset := order.dstAsset
      amount := order.dstAmount, safetyDeposit := none
      orderId := order.dstOrderId, lockTx := order.dstLockTx, lockBlock := order.dstLockBlock
      timelock := order.dstTimelock }
  secret :=
    { revealed := order.preimage.isSome, preimage := order.preimage
      revealedTx := order.secretRevealedTx }
  resolver := order.resolverAddress
  createdAt := order.createdAt
  updatedAt := order.updatedAt

/-- The bodies of status 400. -/
inductive HistoryRefusal where
  | addressRequired
  | networkMismatch (message : String)
  | invalidLimit (message : String)
  | invalidCursor (reason : CursorRejection) (message : String)
  deriving DecidableEq, Repr

def HistoryRefusal.error : HistoryRefusal → String
  | .addressRequired => "address_required"
  | .networkMismatch _ => "network_mismatch"
  | .invalidLimit _ => "invalid_limit"
  | .invalidCursor _ _ => "invalid_cursor"

structure Pagination where
  limit : ℕ
  count : ℕ
  hasMore : Bool
  nextCursor : Option String
  deriving DecidableEq, Repr

structure HistoryPage where
  transactions : List OrderView
  pagination : Pagination
  deriving DecidableEq, Repr

inductive HistoryAnswer where
  | refused (refusal : HistoryRefusal)
  /-- The query failed. -/
  | failed
  | page (page : HistoryPage)
  deriving DecidableEq, Repr

def defaultLimit : ℕ := 50

def maxLimit : ℕ := 200

def trimmedText : Option QueryValue → String
  | some (.text value) => trim value
  | _ => ""

/-- The first of `address`, `eth` and `stellar` that names one. -/
def readHistoryAddress (query : HistoryQuery) : String :=
  (([query.address, query.eth, query.stellar].map trimmedText).find? (· ≠ "")).getD ""

section

variable (C : Conversions) (network : Network)

def readHistoryLimit (limit : Option QueryValue) : Option ℕ :=
  let rawLimit : Option ℤ :=
    match limit with
    | none => some defaultLimit
    | some value => C.toInteger value
  match rawLimit with
  | some n => if n < 1 ∨ (maxLimit : ℤ) < n then none else some n.toNat
  | none => none

/-- The checks in front of the cursor: the address and the limit of the request. -/
def historyScope (query : HistoryQuery) : Except HistoryRefusal (String × ℕ) :=
  let address := readHistoryAddress query
  if address = "" then .error .addressRequired
  else
    let mismatch : Option QueryValue := query.network.filter (· ≠ .text network.text)
    match mismatch with
    | some declared =>
      .error (.networkMismatch
        ("This coordinator serves " ++ network.text ++ ", not " ++ declared.shown))
    | none =>
      match readHistoryLimit C query.limit with
      | none => .error (.invalidLimit "limit must be an integer between 1 and 200")
      | some limit => .ok (address, limit)

def historyBefore (cursor : Option QueryValue) (address : String) :
    Except HistoryRefusal (Option Keyset) :=
  match cursor with
  | none => .ok none
  | some raw =>
    match validateHistoryCursor C raw address network.text with
    | .error (reason, message) => .error (.invalidCursor reason message)
    | .ok cursor => .ok (some ⟨cursor.createdAt, cursor.publicId⟩)

/-- One row more than the page shows tells whether another page follows. -/
def historyPage (db : Database) (address : String) (limit : ℕ) (before : Option Keyset) :
    HistoryPage :=
  let rows := OrdersRepository.findByAddressPage db address (limit + 1) before
  let hasMore := decide (limit < rows.length)
  let page := if hasMore then rows.take limit else rows
  let nextCursor :=
    match hasMore, page.getLast? with
    | true, some last =>
      some (encodeHistoryCursor C last.createdAt last.publicId address network.text)
    | _, _ => none
  { transactions := page.map serialiseOrder
    pagination := ⟨limit, page.length, hasMore, nextCursor⟩ }

/-- `GET /api/orders/history`; `fails` says that the query fails. -/
def historyRoute (query : HistoryQuery) (fails : Bool) (db : Database) : HistoryAnswer :=
  match historyScope C network query with
  | .error refusal => .refused refusal
  | .ok (address, limit) =>
    match historyBefore C network query.cursor address with
    | .error refusal => .refused refusal
    | .ok before =>
      if fails then .failed else .page (historyPage C network db address limit before)

end

/-! ## Runs -/

/-- 16 random bytes. -/
abbrev RandomId := {bytes : Bytes // bytes.length = 16}

def RandomId.publicId (random : RandomId) : String := String.ofList (encodeHex random.val)

/-- What a client asks for next. -/
inductive NextRequest where
  | page (cursor : Option String)
  | finished
  deriving DecidableEq, Repr

/-- A client that follows `nextCursor`. `existing` are the orders there were when the first page
was served. -/
structure HistorySession where
  answers : List HistoryAnswer
  next : NextRequest
  existing : List StoredOrder

structure HistoryWorld where
  db : Database
  now : ℕ
  session : HistorySession

def HistoryWorld.initial (now : ℕ) : HistoryWorld := ⟨.empty, now, ⟨[], .page none, []⟩⟩

inductive HistoryEvent where
  | elapse (seconds : ℕ)
  | announce (random : RandomId) (input : AnnounceOrderInput)
  /-- Any other statement of the services. -/
  | statement (stmt : Statement) (hinsert : ∀ publicId input, stmt ≠ .insertOrder publicId input)
  | request (fails : Bool)

section

variable (C : Conversions) (network : Network) (query : HistoryQuery)

/-- The client sends its query again, with the cursor of the last page. A refused or failed
request is sent again. -/
def HistorySession.request (session : HistorySession) (fails : Bool) (db : Database) :
    HistorySession :=
  match session.next with
  | .finished => session
  | .page cursor =>
    let answer := historyRoute C network { query with cursor := cursor.map .text } fails db
    match answer with
    | .page page =>
      { answers := session.answers ++ [answer]
        next :=
          match page.pagination.nextCursor with
          | some following => .page (some following)
          | none => .finished
        existing := if cursor = none then db.orders else session.existing }
    | _ => { session with answers := session.answers ++ [answer] }

def HistoryWorld.step (world : HistoryWorld) : HistoryEvent → HistoryWorld
  | .elapse seconds => { world with now := world.now + seconds }
  | .announce random input =>
    { world with db := (perform world.now (.insertOrder random.publicId input) world.db).2 }
  | .statement stmt _ => { world with db := (perform world.now stmt world.db).2 }
  | .request fails =>
    { world with session := world.session.request C network query fails world.db }

def HistoryWorld.run (world : HistoryWorld) (events : List HistoryEvent) : HistoryWorld :=
  events.foldl (HistoryWorld.step C network query) world

end

/-- The orders on a page. -/
def HistoryAnswer.transactions : HistoryAnswer → List OrderView
  | .page served => served.transactions
  | _ => []

/-- The orders on all pages, in the order they came. -/
def HistorySession.transactions (session : HistorySession) : List OrderView :=
  session.answers.flatMap HistoryAnswer.transactions

end OverSync.Coordinator
