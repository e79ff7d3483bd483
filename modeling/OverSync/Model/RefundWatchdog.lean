import OverSync.Model.RelayRoutes

/-! # What the refund watchdog signs

A scan passes a stager to `relaySubmissionTracker.submit`. The stager builds and signs a payment
with `prepareXlmRefund` and stages it; when the tracker broadcasts, the payment goes to the Horizon
server of the watchdog. -/

namespace OverSync.RefundWatchdog

open Function Library RelaySubmissionTracker RelayRoutes

variable {R : Type}

/-! ## Refund payments -/

inductive RefundNetworkMode where
  | mainnet
  | testnet
  deriving DecidableEq, Repr

def RefundNetworkMode.text : RefundNetworkMode → String
  | .mainnet => "mainnet"
  | .testnet => "testnet"

/-- The passphrases of `Networks`. -/
inductive NetworkPassphrase where
  | PUBLIC
  | TESTNET
  deriving DecidableEq, Repr

def RefundNetworkMode.networkPassphrase (networkMode : RefundNetworkMode) : NetworkPassphrase :=
  if networkMode = .mainnet then .PUBLIC else .TESTNET

structure RefundXlmArgs where
  orderId : String
  stellarAddress : String
  stellarTxHash : Option String
  networkMode : RefundNetworkMode
  horizonUrl : String
  refundSecret : String
  fallbackXlmAmount : Option String
  deriving DecidableEq, Repr

/-- A payment of XLM with a text memo, signed by its source. -/
structure Transaction where
  source : String
  sequence : ℕ
  networkPassphrase : NetworkPassphrase
  destination : String
  amount : String
  memo : String
  deriving DecidableEq, Repr

/-- What `operations().forTransaction` lists. -/
structure PaymentOperation where
  operation : HorizonOperation
  amount : String
  deriving DecidableEq, Repr

/-- The SDK and the arithmetic of decimal texts: `publicKey` of a secret, `isPositive` is
`Number(s) > 0`, `lessMargin` is `Math.max(parseFloat(s) - 0.0001, 0).toFixed(7)`, `hash` in hex. -/
structure StellarSdk where
  publicKey : String → String
  isPositive : String → Bool
  lessMargin : String → String
  hash : Transaction → String

variable (sdk : StellarSdk)

/-- The account has the sequence number, and `operations` is `none` when their lookup fails. -/
def prepareXlmRefund (args : RefundXlmArgs) (sequence : ℕ)
    (operations : Option (List PaymentOperation)) : Transaction :=
  let publicKey := sdk.publicKey args.refundSecret
  let fallback := ((truthyText args.fallbackXlmAmount).filter fun amount =>
    sdk.isPositive amount).getD "0.1"
  let paymentOp := if truthy args.stellarTxHash then
      (operations.getD []).find? fun op => op.operation.type = "payment" ∧
        op.operation.«to» = publicKey ∧ op.operation.assetType = "native"
    else none
  { source := publicKey
    sequence := sequence + 1
    networkPassphrase := args.networkMode.networkPassphrase
    destination := args.stellarAddress
    amount := match paymentOp with
      | some op => sdk.lessMargin op.amount
      | none => fallback
    memo := "Refund:" ++ first20 (orText (some args.orderId) "unknown") }

/-- `stageStellarTransaction`: the hash is computed from the envelope. -/
def stageStellarTransaction (transaction : Transaction) (network : Option String) : StageResult :=
  if sdk.hash transaction = "" then
    .rejected (.other "stellar transaction hash could not be computed locally")
  else .resolved (some (sdk.hash transaction)) network

/-! ## The watchdog -/

structure WatchdogConfig (R : Type) where
  routes : RouteConfig R
  networkMode : RefundNetworkMode
  networkMode_text : routes.watchdogNetwork = networkMode.text
  horizonUrl : String
  refundSecret : String

/-- An order that a scan refunds, under its key in the map. -/
structure DueOrder where
  key : String
  order : ActiveOrder
  deriving DecidableEq, Repr

variable (cfg : WatchdogConfig R)

def DueOrder.action (due : DueOrder) : RelayAction :=
  watchdogRefundAction due.key due.order cfg.networkMode.text

/-- What the stager passes to `prepareRefund`. -/
def DueOrder.args (due : DueOrder) (fallbackXlmAmount : Option String) : RefundXlmArgs where
  orderId := (due.action cfg).orderId
  stellarAddress := due.order.stellarAddress.getD ""
  stellarTxHash := due.order.stellarTxHash
  networkMode := cfg.networkMode
  horizonUrl := cfg.horizonUrl
  refundSecret := cfg.refundSecret
  fallbackXlmAmount := fallbackXlmAmount

/-- The order that a scan refunds next, from an index on. -/
def dueFrom (cfg : RouteConfig R) (r : Relayer R) (scanStart index : ℕ) : Option DueOrder :=
  (r.nextDue cfg scanStart (r.activeOrders.drop index) index).map fun next =>
    ⟨next.2.1, r.orders next.2.2⟩

/-- The order for which a stretch of the watchdog calls `submit`. -/
def submitted (cfg : RouteConfig R) (r : Relayer R) : RouteEvent R → Option DueOrder
  | .scan now => dueFrom cfg r now 0
  | .resumed request now =>
    match r.requests request with
    | some (.scanning scanStart index order promise) => (r.outcome promise).bind fun outcome =>
      dueFrom cfg (r.assignOrder order (.watchdogRefunded cfg now outcome)) scanStart index
    | _ => none
  | _ => none

/-- The operation whose stager is called. -/
def called (effects : List (RouteEffect R)) : Option ℕ :=
  effects.findSome? fun effect => match effect with
    | .relay _ (.stage task _) => some task
    | _ => none

/-- A refund that is on its way to Horizon, with the submission it belongs to. -/
structure Refund where
  due : DueOrder
  action : RelayAction
  key : String
  txHash : String
  horizonUrl : String
  transaction : Transaction
  deriving DecidableEq, Repr

/-- `due` has the orders of the operations that wait for a stager of the watchdog. -/
structure Watchdog (R : Type) where
  relayer : Relayer R
  due : ℕ → Option DueOrder

/-- An effect of the relayer, and the refund that it broadcasts for the watchdog. -/
structure WatchdogEffect (R : Type) where
  route : RouteEffect R
  refund : Option Refund

inductive WatchdogEvent (R : Type) where
  | route (event : RouteEvent R)
  /-- the stager goes on with what Horizon answered and the amount of the order -/
  | prepared (task now sequence : ℕ) (operations : Option (List PaymentOperation))
      (fallbackXlmAmount : Option String)

def Watchdog.start (tracker : Tracker R) : Watchdog R := ⟨.start tracker, fun _ => none⟩

/-- The payment that a broadcast submits. -/
def sign (due : DueOrder) (transaction : Transaction) : RouteEffect R → WatchdogEffect R
  | .relay naming (.broadcast task action key txHash) =>
    ⟨.relay naming (.broadcast task action key txHash),
      some ⟨due, action, key, txHash, cfg.horizonUrl, transaction⟩⟩
  | effect => ⟨effect, none⟩

/-- A stager of the watchdog resolves with the payment that it has prepared only. -/
def Watchdog.resolves (w : Watchdog R) : RouteEvent R → Bool
  | .relay _ (.staged task (.resolved ..)) => (w.due task).isSome
  | _ => false

def Watchdog.handle (w : Watchdog R) :
    WatchdogEvent R → Option (Watchdog R × List (WatchdogEffect R))
  | .route event =>
    if w.resolves event then none
    else (w.relayer.handle cfg.routes event).map fun result =>
      ({ relayer := result.1
         due := match called result.2 with
          | some task => update w.due task (submitted cfg.routes w.relayer event)
          | none => w.due },
        result.2.map fun effect => ⟨effect, none⟩)
  | .prepared task now sequence operations fallbackXlmAmount =>
    (w.due task).bind fun due =>
      let transaction :=
        prepareXlmRefund sdk (due.args cfg fallbackXlmAmount) sequence operations
      let staged := stageStellarTransaction sdk transaction (due.action cfg).network
      (w.relayer.handle cfg.routes (.relay now (.staged task staged))).map fun result =>
        (⟨result.1, w.due⟩, result.2.map (sign cfg due transaction))

/-- The process of the relayer with the payments of its watchdog. -/
def watchdog : Machine (Watchdog R) (List (PersistedSubmission R)) (WatchdogEvent R)
    (WatchdogEffect R) where
  handle event w _ := w.handle sdk cfg event
  apply stored effect := (routes cfg.routes).apply stored effect.route
  recover stored := .start (Tracker.empty.restore cfg.routes.relay stored)

end OverSync.RefundWatchdog
