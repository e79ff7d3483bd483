import OverSync.Model.RelaySubmissionTracker

/-! # The routes that pay out for XLM payments

`POST /api/orders/xlm-to-eth` releases ETH and refunds the XLM when the release fails,
`POST /api/orders/manual-refund` refunds on request, and the refund watchdog refunds stale
orders. Orders in memory are objects that running requests keep references to, and a running
request waits at one of its `await`s. -/

namespace OverSync.RelayRoutes

open Function Library RelaySubmissionTracker

variable {R : Type}

/-! ## Values -/

/-- A string that JavaScript takes for true. -/
def truthyText (s : Option String) : Option String := s.filter fun text => text ≠ ""

/-- `a || b` on strings. -/
def orText (a : Option String) (b : String) : String := (truthyText a).getD b

/-- A number that JavaScript takes for true. -/
def truthyNumber (n : Option ℕ) : Option ℕ := n.filter fun value => value ≠ 0

/-- `s.substring(0, 20)` -/
def first20 (s : String) : String := String.ofList (s.toList.take 20)

/-! ## Orders -/

/-- A number, or a text with what `Date.parse` makes of it. -/
inductive Timestamp where
  | number (value : ℕ)
  | text (parsed : Option ℕ)
  deriving DecidableEq, Repr

/-- The fields that the routes and the watchdog read or write. -/
structure ActiveOrder where
  orderId : String
  direction : Option String
  status : Option String
  stellarAddress : Option String
  stellarTxHash : Option String
  xlmReceivedAt : Option Timestamp
  created : Option Timestamp
  networkMode : Option String
  ethTxHash : Option String
  refundTxHash : Option String
  refundedAt : Option ℕ
  ethTimelock : Option ℕ
  stellarTimelock : Option ℕ
  watchdogFailedAt : Option ℕ
  watchdogFailureReason : Option String
  deriving DecidableEq, Repr

inductive TimelockValidationError where
  | timelocksReversed
  | gapTooSmall
  deriving DecidableEq, Repr

def validateTimelockOrdering (srcTimelock dstTimelock minGapSeconds : ℕ) :
    Option TimelockValidationError :=
  if srcTimelock ≤ dstTimelock then some .timelocksReversed
  else if srcTimelock - dstTimelock < minGapSeconds then some .gapTooSmall
  else none

/-- The check that `xlm-to-eth` makes of a stored order. -/
def ActiveOrder.validTimelocks (order : ActiveOrder) (minGapSeconds : ℕ) : Bool :=
  match truthyNumber order.stellarTimelock, truthyNumber order.ethTimelock with
  | some stellarTimelock, some ethTimelock =>
    (validateTimelockOrdering ethTimelock stellarTimelock minGapSeconds).isNone
  | _, _ => true

/-! ## Requests -/

/-- `validAddress` tells whether `ethers.getAddress` accepts an address in lower case,
`resultHash` is the `hash` of a result, and the keys are by network. -/
structure RouteConfig (R : Type) where
  relay : RelayTrackerConfig R
  defaultNetworkMode : String
  defaultNetworkMode_ne : defaultNetworkMode ≠ ""
  validAddress : String → Bool
  timelockSafetyGapSeconds : ℕ
  hasPrivateKey : Bool
  rpcConfigured : (testnet : Bool) → Bool
  hasStellarSecret : (mainnet : Bool) → Bool
  relayerPublicKey : (mainnet : Bool) → String
  watchdogNetwork : String
  staleAfterMs : ℕ
  resultHash : R → Option String

structure XlmToEthBody where
  orderId : Option String
  stellarTxHash : Option String
  stellarAddress : Option String
  ethAddress : Option String
  networkMode : Option String
  queryNetwork : Option String
  deriving DecidableEq, Repr

structure ManualRefundBody where
  stellarTxHash : Option String
  stellarAddress : Option String
  networkMode : Option String
  orderId : Option String
  deriving DecidableEq, Repr

/-- A body of `xlm-to-eth` that has its required fields. -/
structure ReleaseRequest where
  orderId : String
  stellarTxHash : String
  stellarAddress : Option String
  network : String
  deriving DecidableEq, Repr

/-- A body of `manual-refund` that has its required fields. -/
structure RefundRequest where
  stellarTxHash : String
  stellarAddress : String
  network : String
  requestedOrderId : Option String
  deriving DecidableEq, Repr

/-- The promise of a `submit` call: it has settled, or settles with an operation. -/
inductive Awaited (R : Type) where
  | settled (outcome : Except SubmitError (RelayOutcome R))
  | task (id : ℕ)

/-- Where a request waits; a scan of the watchdog waits for the refund of an order. -/
inductive Request (R : Type) where
  | storing (body : ReleaseRequest) (order : ℕ)
  | balancing (body : ReleaseRequest) (order : ℕ)
  | releasing (body : ReleaseRequest) (order : ℕ) (promise : Awaited R)
  | refunding (order : ℕ) (promise : Awaited R)
  | importing (body : RefundRequest)
  | verifying (body : RefundRequest) (refundOrderId : String) (matched : Option ℕ)
  | checkingMemos (body : RefundRequest) (refundOrderId : String) (matched : Option ℕ)
  | manualRefunding (matched : Option ℕ) (promise : Awaited R)
  | scanning (scanStart index order : ℕ) (promise : Awaited R)

/-- A response, with the hash of the payout where it has one. -/
structure Response where
  status : ℕ
  error : Option String
  txHash : Option String
  deriving DecidableEq, Repr

structure HorizonOperation where
  type : String
  «from» : String
  «to» : String
  assetType : String
  deriving DecidableEq, Repr

inductive Balance where
  | unavailable
  | insufficient
  | sufficient
  deriving DecidableEq, Repr

/-- An effect of the tracker comes with the payment hash that was named when the operation was
submitted. -/
inductive RouteEffect (R : Type) where
  | relay (naming : Option String) (effect : Effect R)
  | respond (request : ℕ) (response : Response)

inductive RouteEvent (R : Type) where
  | xlmToEth (now : ℕ) (body : XlmToEthBody)
  | stored (request now : ℕ) (ok : Bool)
  | balanced (request now : ℕ) (balance : Balance)
  | manualRefund (body : ManualRefundBody)
  | imported (request : ℕ)
  | verified (request : ℕ) (operations : Option (List HorizonOperation))
  | memosChecked (request now : ℕ) (memos : Option (List (Option String)))
  | scan (now : ℕ)
  | resumed (request now : ℕ)
  /-- another route stores an order under its id -/
  | store (order : ActiveOrder)
  /-- another route changes fields of an order -/
  | change (ref : ℕ) (order : ActiveOrder)
  /-- the tracker goes on, or another route submits -/
  | relay (now : ℕ) (event : Event R)

/-! ## The relayer -/

/-- `names` tells which payment hash was named when an operation was submitted, `outcomes` how
the promises of operations settled. -/
structure Relayer (R : Type) where
  tracker : Tracker R
  names : ℕ → Option String
  outcomes : ℕ → Option (Except SubmitError (RelayOutcome R))
  orders : ℕ → ActiveOrder
  nextOrder : ℕ
  activeOrders : List (String × ℕ)
  requests : ℕ → Option (Request R)
  nextRequest : ℕ

/-- What a reference that was never handed out points to. -/
def ActiveOrder.blank : ActiveOrder :=
  ⟨"", none, none, none, none, none, none, none, none, none, none, none, none, none, none⟩

/-- A relayer with what its tracker restored. -/
def Relayer.start (tracker : Tracker R) : Relayer R where
  tracker := tracker
  names := fun _ => none
  outcomes := fun _ => none
  orders := fun _ => .blank
  nextOrder := 0
  activeOrders := []
  requests := fun _ => none
  nextRequest := 0

def Relayer.wait (r : Relayer R) (request : ℕ) (phase : Request R) : Relayer R :=
  { r with requests := update r.requests request (some phase) }

def Relayer.respond (r : Relayer R) (request : ℕ) (response : Response) :
    Relayer R × List (RouteEffect R) :=
  ({ r with requests := update r.requests request none }, [.respond request response])

/-- `activeOrders.get` -/
def Relayer.getOrder (r : Relayer R) (orderId : String) : Option ℕ :=
  (r.activeOrders.find? fun entry => entry.1 = orderId).map Prod.snd

/-- `activeOrders.set` with a new object. -/
def Relayer.setOrder (r : Relayer R) (order : ActiveOrder) : Relayer R :=
  { r with
    orders := update r.orders r.nextOrder order
    nextOrder := r.nextOrder + 1
    activeOrders :=
      if (r.getOrder order.orderId).isSome then
        r.activeOrders.map fun entry =>
          if entry.1 = order.orderId then (entry.1, r.nextOrder) else entry
      else r.activeOrders ++ [(order.orderId, r.nextOrder)] }

/-- Assignments to the fields of an order. -/
def Relayer.assignOrder (r : Relayer R) (ref : ℕ) (f : ActiveOrder → ActiveOrder) : Relayer R :=
  { r with orders := update r.orders ref (f (r.orders ref)) }

/-- Assignments to an order that may be undefined. -/
def Relayer.assignMatched (r : Relayer R) (matched : Option ℕ) (f : ActiveOrder → ActiveOrder) :
    Relayer R :=
  match matched with
  | some ref => r.assignOrder ref f
  | none => r

/-! ## Submissions -/

/-- The outcomes that a stretch of the tracker adds. -/
def settleOutcomes (outcomes : ℕ → Option (Except SubmitError (RelayOutcome R)))
    (effects : List (Effect R)) : ℕ → Option (Except SubmitError (RelayOutcome R)) :=
  effects.foldl (fun outcomes effect => match effect with
    | .settle task outcome => update outcomes task (some outcome)
    | _ => outcomes) outcomes

def label (names : ℕ → Option String) : Effect R → RouteEffect R
  | .broadcast task action key txHash => .relay (names task) (.broadcast task action key txHash)
  | effect => .relay none effect

/-- What a `submit` call returns a promise of; `task` is the operation it may start. -/
def awaited (task : ℕ) : List (Effect R) → Awaited R
  | [] => .task task
  | .reply outcome :: _ => .settled outcome
  | .join running :: _ => .task running
  | _ :: effects => awaited task effects

/-- A stretch of the tracker, with the payment hash that is named if an operation starts. -/
def Relayer.follow (r : Relayer R) (naming : Option String)
    (result : Tracker R × List (Effect R)) : Relayer R × List (RouteEffect R) :=
  let names := update r.names r.tracker.nextTask naming
  ({ r with
      tracker := result.1
      names := names
      outcomes := settleOutcomes r.outcomes result.2 },
    result.2.map (label names))

/-- How a promise has settled. -/
def Relayer.outcome (r : Relayer R) :
    Awaited R → Option (Except SubmitError (RelayOutcome R))
  | .settled outcome => some outcome
  | .task id => r.outcomes id

variable (cfg : RouteConfig R)

/-- `relaySubmissionTracker.submit` for a request, which then waits for the promise. -/
def Relayer.submit (r : Relayer R) (now request : ℕ) (naming : Option String)
    (action : RelayAction) (phase : Awaited R → Request R) :
    Relayer R × List (RouteEffect R) :=
  let result := r.tracker.submit cfg.relay now action
  let promise := awaited r.tracker.nextTask result.2
  let followed := r.follow naming result
  (followed.1.wait request (phase promise), followed.2)

/-! ## `POST /api/orders/xlm-to-eth` -/

/-- The inline refund. -/
def Relayer.inlineRefund (r : Relayer R) (now request : ℕ) (body : ReleaseRequest)
    (order : ℕ) : Relayer R × List (RouteEffect R) :=
  if cfg.hasStellarSecret (body.network = "mainnet") then
    r.submit cfg now request (some body.stellarTxHash)
      ⟨body.orderId, "xlm_to_eth", "refund", "stellar", some body.network⟩ (.refunding order)
  else r.respond request ⟨500, some "ETH release failed", none⟩

/-- The bookkeeping for the watchdog. -/
def ActiveOrder.received (now : ℕ) (body : ReleaseRequest) (order : ActiveOrder) : ActiveOrder :=
  { order with
    xlmReceivedAt := order.xlmReceivedAt.or (some (.number now))
    stellarTxHash := some body.stellarTxHash
    stellarAddress := (truthyText body.stellarAddress).or order.stellarAddress
    networkMode := order.networkMode.or (some body.network) }

/-- From the bookkeeping to the `await` of the balance. -/
def Relayer.receive (r : Relayer R) (now request : ℕ) (body : ReleaseRequest) (order : ℕ) :
    Relayer R × List (RouteEffect R) :=
  let r := r.assignOrder order (.received now body)
  if cfg.hasPrivateKey = false then r.inlineRefund cfg now request body order
  else if cfg.rpcConfigured (body.network = "testnet") = false then
    r.respond request ⟨500, some "RPC URL not configured", none⟩
  else (r.wait request (.balancing body order), [])

/-- The order that is made up when none is in memory. -/
def synthesizedOrder (now : ℕ) (body : ReleaseRequest) : ActiveOrder where
  orderId := body.orderId
  direction := some "xlm_to_eth"
  status := some "awaiting_eth_release"
  stellarAddress := body.stellarAddress
  stellarTxHash := none
  xlmReceivedAt := none
  created := some (.text (some now))
  networkMode := some body.network
  ethTxHash := none
  refundTxHash := none
  refundedAt := none
  ethTimelock := none
  stellarTimelock := none
  watchdogFailedAt := none
  watchdogFailureReason := none

def processingFailed : Response := ⟨500, some "XLM→ETH processing failed", none⟩

def Relayer.xlmToEth (r : Relayer R) (now : ℕ) (body : XlmToEthBody) :
    Relayer R × List (RouteEffect R) :=
  let request := r.nextRequest
  let r := { r with nextRequest := request + 1 }
  match truthyText body.orderId, truthyText body.stellarTxHash, truthyText body.ethAddress with
  | some orderId, some stellarTxHash, some ethAddress =>
    if cfg.validAddress ethAddress = false then r.respond request processingFailed
    else
      let network := orText body.networkMode (orText body.queryNetwork cfg.defaultNetworkMode)
      let body : ReleaseRequest := ⟨orderId, stellarTxHash, body.stellarAddress, network⟩
      match r.getOrder orderId with
      | some order =>
        if (r.orders order).validTimelocks cfg.timelockSafetyGapSeconds = false then
          r.respond request processingFailed
        else r.receive cfg now request body order
      | none =>
        let order := r.nextOrder
        let r := r.setOrder (synthesizedOrder now body)
        (r.wait request (.storing body order), [])
  | _, _, _ => r.respond request
      ⟨400, some "Missing required fields: orderId, stellarTxHash, ethAddress", none⟩

/-- After `storeActiveOrder`, which fails when chain monitoring does not start. -/
def Relayer.stored (r : Relayer R) (request now : ℕ) (ok : Bool) :
    Option (Relayer R × List (RouteEffect R)) :=
  match r.requests request with
  | some (.storing body order) =>
    if ok then some (r.receive cfg now request body order)
    else some (r.respond request processingFailed)
  | _ => none

/-- After the balance, up to the `await` of the release; `unavailable` also stands for an amount
that cannot be computed. -/
def Relayer.balanced (r : Relayer R) (request now : ℕ) (balance : Balance) :
    Option (Relayer R × List (RouteEffect R)) :=
  match r.requests request with
  | some (.balancing body order) => some (match balance with
      | .unavailable => r.inlineRefund cfg now request body order
      | .insufficient => r.respond request ⟨400, some "Insufficient relayer balance", none⟩
      | .sufficient => r.submit cfg now request (some body.stellarTxHash)
          ⟨body.orderId, "xlm_to_eth", "claim", "ethereum", some body.network⟩
          (.releasing body order))
  | _ => none

/-- After the release. -/
def Relayer.released (r : Relayer R) (request now : ℕ) (body : ReleaseRequest) (order : ℕ) :
    Except SubmitError (RelayOutcome R) → Relayer R × List (RouteEffect R)
  | .ok outcome =>
    (r.assignOrder order fun o =>
      { o with status := some "eth_tx_sent", ethTxHash := outcome.txHash }).respond request
        ⟨200, none, outcome.txHash⟩
  | .error (.inFlight _) | .error (.orderBusy ..) =>
    r.respond request ⟨409, some "ETH release already in progress for this order", none⟩
  | .error (.confirmationTimeout _ txHash _ _) => r.respond request ⟨202, none, txHash⟩
  | .error (.terminal ..) => r.inlineRefund cfg now request body order

/-- After the inline refund. -/
def Relayer.refunded (r : Relayer R) (request order : ℕ) :
    Except SubmitError (RelayOutcome R) → Relayer R × List (RouteEffect R)
  | .ok outcome =>
    (r.assignOrder order fun o =>
      { o with status := some "refunded", refundTxHash := outcome.txHash }).respond request
        ⟨500, some "ETH release failed", outcome.txHash⟩
  | .error _ => r.respond request ⟨500, some "ETH release failed", none⟩

/-! ## `POST /api/orders/manual-refund` -/

def Relayer.manualRefund (r : Relayer R) (body : ManualRefundBody) :
    Relayer R × List (RouteEffect R) :=
  let request := r.nextRequest
  let r := { r with nextRequest := request + 1 }
  match truthyText body.stellarTxHash, truthyText body.stellarAddress with
  | some stellarTxHash, some stellarAddress =>
    (r.wait request (.importing
      { stellarTxHash := stellarTxHash
        stellarAddress := stellarAddress
        network := orText body.networkMode cfg.defaultNetworkMode
        requestedOrderId := truthyText body.orderId }), [])
  | _, _ => r.respond request
      ⟨400, some "Missing required fields: stellarTxHash, stellarAddress", none⟩

/-- The id under which the refund is submitted, and the order that is stamped. Without a
requested id `matchedOrder` is an entry of the map, a pair that has no `orderId` and whose
stamps are lost. -/
def Relayer.refundOrderId (r : Relayer R) (body : RefundRequest) : String × Option ℕ :=
  match body.requestedOrderId with
  | some orderId => (orderId, r.getOrder orderId)
  | none =>
    match r.activeOrders.find? fun entry =>
        (r.orders entry.2).stellarTxHash = some body.stellarTxHash with
    | some entry => (orText (some entry.1) body.stellarTxHash, none)
    | none => (body.stellarTxHash, none)

/-- After the imports, up to the `await` of the operations. -/
def Relayer.imported (r : Relayer R) (request : ℕ) : Option (Relayer R × List (RouteEffect R)) :=
  match r.requests request with
  | some (.importing body) =>
    if cfg.hasStellarSecret (body.network = "mainnet") = false then
      some (r.respond request ⟨500, some "Relayer Stellar secret not configured", none⟩)
    else
      let resolved := r.refundOrderId body
      some (r.wait request (.verifying body resolved.1 resolved.2), [])
  | _ => none

/-- The payment that the operations of the named transaction must contain. -/
def RefundRequest.paidBy (body : RefundRequest) (relayerPublicKey : String)
    (op : HorizonOperation) : Bool :=
  op.type = "payment" ∧ op.«to» = relayerPublicKey ∧ op.assetType = "native" ∧
    op.«from» = body.stellarAddress

/-- After the lookup of the payment, up to the `await` of the memos. -/
def Relayer.verified (r : Relayer R) (request : ℕ) (operations : Option (List HorizonOperation)) :
    Option (Relayer R × List (RouteEffect R)) :=
  match r.requests request with
  | some (.verifying body refundOrderId matched) => some (match operations with
      | none => r.respond request ⟨404, some "Could not verify original transaction", none⟩
      | some operations =>
        if operations.any (body.paidBy (cfg.relayerPublicKey (body.network = "mainnet"))) then
          (r.wait request (.checkingMemos body refundOrderId matched), [])
        else r.respond request
          ⟨400, some ("Original transaction does not match a payment from this stellar " ++
            "address to the relayer"), none⟩)
  | _ => none

/-- The memos that the two kinds of refunds write. -/
def RefundRequest.memos (body : RefundRequest) (refundOrderId : String) : List String :=
  ["Refund:" ++ first20 refundOrderId, "ManualRefund:" ++ first20 body.stellarTxHash]

/-- After the scan of the memos, up to the `await` of the refund; a failed scan stops nothing. -/
def Relayer.memosChecked (r : Relayer R) (request now : ℕ)
    (memos : Option (List (Option String))) : Option (Relayer R × List (RouteEffect R)) :=
  match r.requests request with
  | some (.checkingMemos body refundOrderId matched) =>
    if (memos.getD []).any fun memo => (memo.map (body.memos refundOrderId).contains).getD false then
      some (r.respond request
        ⟨409, some "Refund already processed for this transaction", none⟩)
    else some (r.submit cfg now request (some body.stellarTxHash)
      ⟨refundOrderId, "xlm_to_eth", "refund", "stellar", some body.network⟩
      (.manualRefunding matched))
  | _ => none

/-- After the manual refund. -/
def Relayer.manuallyRefunded (r : Relayer R) (request now : ℕ) (matched : Option ℕ) :
    Except SubmitError (RelayOutcome R) → Relayer R × List (RouteEffect R)
  | .ok outcome =>
    (r.assignMatched matched fun o =>
      { o with
        status := some "refunded"
        refundTxHash := outcome.txHash
        refundedAt := some now }).respond request ⟨200, none, outcome.txHash⟩
  | .error (.orderBusy ..) => r.respond request ⟨409, none, none⟩
  | .error (.confirmationTimeout _ txHash _ _) => r.respond request ⟨202, none, txHash⟩
  | .error (.inFlight _) | .error (.terminal ..) =>
    r.respond request ⟨500, some "Manual refund failed", none⟩

/-! ## The refund watchdog -/

def toMillis : Timestamp → Option ℕ
  | .number value => some (if value > 1000000000000 then value else value * 1000)
  | .text parsed => parsed

def ActiveOrder.isXlmToEthAwaitingEth (order : ActiveOrder) : Bool :=
  order.direction = some "xlm_to_eth" ∧ truthy order.stellarTxHash ∧
    truthy order.refundTxHash = false ∧ (truthyNumber order.refundedAt).isNone ∧
    order.status ≠ some "eth_tx_sent" ∧ order.status ≠ some "completed" ∧
    order.status ≠ some "refunded"

def watchdogRefundAction (orderId : String) (order : ActiveOrder) (networkMode : String) :
    RelayAction where
  orderId := orText (some order.orderId) orderId
  side := "xlm_to_eth"
  action := "refund"
  chain := "stellar"
  network := some (orText order.networkMode networkMode)

/-- A failed attempt is not repeated for ten minutes. -/
def ActiveOrder.backsOff (order : ActiveOrder) (scanStart : ℕ) : Bool :=
  match truthyNumber order.watchdogFailedAt with
  | some failedAt => scanStart < failedAt + 600000
  | none => false

/-- The order has been waiting for too long. -/
def ActiveOrder.isStale (order : ActiveOrder) (scanStart staleAfterMs : ℕ) : Bool :=
  match truthyNumber ((order.xlmReceivedAt.bind toMillis).or (order.created.bind toMillis)) with
  | some startedAt => startedAt + staleAfterMs ≤ scanStart
  | none => false

/-- The scan submits a refund for the order. -/
def Relayer.due (r : Relayer R) (scanStart : ℕ) (orderId : String) (order : ActiveOrder) : Bool :=
  order.isXlmToEthAwaitingEth ∧ order.backsOff scanStart = false ∧
    order.isStale scanStart cfg.staleAfterMs ∧ truthy order.stellarAddress ∧
    (r.tracker.getBlockingRecord cfg.relay
      (watchdogRefundAction orderId order cfg.watchdogNetwork)).isNone

/-- The first of some entries to be refunded, with its index. -/
def Relayer.nextDue (r : Relayer R) (scanStart : ℕ) :
    List (String × ℕ) → ℕ → Option (ℕ × String × ℕ)
  | [], _ => none
  | (orderId, ref) :: entries, index =>
    if r.due cfg scanStart orderId (r.orders ref) then some (index, orderId, ref)
    else r.nextDue scanStart entries (index + 1)

/-- The scan from an index on, up to the `await` of the next refund; it sees the entries that
were added meanwhile. -/
def Relayer.scanFrom (r : Relayer R) (now request scanStart index : ℕ) :
    Relayer R × List (RouteEffect R) :=
  match r.nextDue cfg scanStart (r.activeOrders.drop index) index with
  | none => ({ r with requests := update r.requests request none }, [])
  | some (index, orderId, ref) =>
    r.submit cfg now request (r.orders ref).stellarTxHash
      (watchdogRefundAction orderId (r.orders ref) cfg.watchdogNetwork)
      (.scanning scanStart (index + 1) ref)

def Relayer.scan (r : Relayer R) (now : ℕ) : Relayer R × List (RouteEffect R) :=
  let request := r.nextRequest
  { r with nextRequest := request + 1 }.scanFrom cfg now request now 0

/-- What the watchdog notes after a failed attempt. -/
def ActiveOrder.watchdogFailed (now : ℕ) (reason : String) (order : ActiveOrder) : ActiveOrder :=
  { order with watchdogFailedAt := some now, watchdogFailureReason := some reason }

/-- What the watchdog makes of an order after the refund. -/
def ActiveOrder.watchdogRefunded (now : ℕ) (outcome : Except SubmitError (RelayOutcome R))
    (order : ActiveOrder) : ActiveOrder :=
  match outcome with
  | .ok outcome =>
    match truthyText (outcome.txHash.or (outcome.result.bind cfg.resultHash)) with
    | some refundHash =>
      { order with
        status := some "refunded"
        refundTxHash := some refundHash
        refundedAt := some now
        watchdogFailedAt := none }
    | none => order.watchdogFailed now "refund submission returned no transaction hash"
  | .error (.inFlight key) =>
    order.watchdogFailed now ("Relay submission " ++ key ++ " is already in flight")
  | .error (.orderBusy ..) | .error (.terminal ..) | .error (.confirmationTimeout ..) => order

/-! ## The process -/

/-- A promise that a request waits for has settled. -/
def Relayer.resumed (r : Relayer R) (request now : ℕ) :
    Option (Relayer R × List (RouteEffect R)) :=
  match r.requests request with
  | some (.releasing body order promise) =>
    (r.outcome promise).map (r.released cfg request now body order)
  | some (.refunding order promise) => (r.outcome promise).map (r.refunded request order)
  | some (.manualRefunding matched promise) =>
    (r.outcome promise).map (r.manuallyRefunded request now matched)
  | some (.scanning scanStart index order promise) =>
    (r.outcome promise).map fun outcome =>
      (r.assignOrder order (.watchdogRefunded cfg now outcome)).scanFrom cfg now request scanStart
        index
  | _ => none

def Relayer.handle (r : Relayer R) : RouteEvent R → Option (Relayer R × List (RouteEffect R))
  | .xlmToEth now body => some (r.xlmToEth cfg now body)
  | .stored request now ok => r.stored cfg request now ok
  | .balanced request now balance => r.balanced cfg request now balance
  | .manualRefund body => some (r.manualRefund cfg body)
  | .imported request => r.imported cfg request
  | .verified request operations => r.verified cfg request operations
  | .memosChecked request now memos => r.memosChecked cfg request now memos
  | .scan now => some (r.scan cfg now)
  | .resumed request now => r.resumed cfg request now
  | .store order => some (r.setOrder order, [])
  | .change ref order =>
    if ref < r.nextOrder ∧ order.orderId = (r.orders ref).orderId then
      some (r.assignOrder ref fun _ => order, [])
    else none
  | .relay now event => (r.tracker.handle cfg.relay now event).map (r.follow none)

/-- The process of the relayer; a crash loses everything but the store of the tracker. -/
def routes : Machine (Relayer R) (List (PersistedSubmission R)) (RouteEvent R)
    (RouteEffect R) where
  handle event r _ := r.handle cfg event
  apply stored effect := match effect with
    | .relay _ effect => effect.store stored
    | .respond .. => stored
  recover stored := .start (Tracker.empty.restore cfg.relay stored)

end OverSync.RelayRoutes
