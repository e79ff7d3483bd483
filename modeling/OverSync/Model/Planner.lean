import OverSync.Library.Guard
import Mathlib.Data.Int.Notation
import Mathlib.Order.Defs.LinearOrder

/-! # The planner of the resolver

`buildPlan` works out the fill of an observed order. `validatePlan` compares a plan with the
canonical order of the coordinator, and `submitValidatedPlan` runs a callback behind it. Times
are unix seconds. -/

namespace OverSync.Planner

open Library

inductive Chain where
  | ethereum
  | stellar
  deriving DecidableEq, Repr

def Chain.text : Chain → String
  | .ethereum => "ethereum"
  | .stellar => "stellar"

inductive Direction where
  | ethToXlm
  | xlmToEth
  deriving DecidableEq, Repr

/-! ## Fill plans -/

structure EthereumConfig where
  rpcUrl : String
  htlcEscrow : Option String
  resolverRegistry : Option String
  resolverPrivateKey : Option String
  deriving DecidableEq, Repr

structure SorobanConfig where
  rpcUrl : String
  htlc : Option String
  resolverRegistry : Option String
  resolverSecret : Option String
  deriving DecidableEq, Repr

structure ResolverConfig where
  network : String
  ethereum : EthereumConfig
  soroban : SorobanConfig
  deriving DecidableEq, Repr

structure ObservedSourceOrder where
  sourceChain : Chain
  orderId : String
  sender : String
  beneficiary : String
  token : String
  amount : ℤ
  safetyDeposit : ℤ
  hashlock : String
  timelock : ℤ
  deriving DecidableEq, Repr

structure DestinationOrderParams where
  destinationChain : Chain
  beneficiary : String
  refundAddress : String
  token : String
  amount : ℤ
  safetyDeposit : ℤ
  hashlock : String
  timelockSeconds : ℤ
  deriving DecidableEq, Repr

structure FillPlan where
  source : ObservedSourceOrder
  destination : DestinationOrderParams
  direction : Direction
  deriving DecidableEq, Repr

structure PlanOptions where
  timelockBufferSeconds : Option ℤ
  feeBasisPoints : Option ℤ
  dryRun : Bool
  deriving DecidableEq, Repr

def defaultTimelockBuffer : ℤ := 600
def defaultFeeBasisPoints : ℤ := 10

def PlanOptions.timelockBuffer (opts : PlanOptions) : ℤ :=
  opts.timelockBufferSeconds.getD defaultTimelockBuffer

def PlanOptions.feeBp (opts : PlanOptions) : ℤ :=
  opts.feeBasisPoints.getD defaultFeeBasisPoints

/-- `!value` on a setting. -/
def missing (value : Option String) : Bool :=
  value.getD "" = ""

def validateResolverConfig (cfg : ResolverConfig) (dryRun : Bool) : List String :=
  noteIf (cfg.network ≠ "testnet" ∧ cfg.network ≠ "mainnet") ("Invalid network: " ++ cfg.network) ++
  noteIf (missing cfg.ethereum.htlcEscrow)
    ("ETH_HTLC_ESCROW contract address is not configured (set ETH_HTLC_ESCROW_TESTNET or " ++
      "ETH_HTLC_ESCROW_MAINNET)") ++
  noteIf (missing cfg.soroban.htlc)
    ("SOROBAN_HTLC contract id is not configured (set SOROBAN_HTLC_TESTNET or " ++
      "SOROBAN_HTLC_MAINNET)") ++
  noteIf (cfg.ethereum.rpcUrl = "") "Ethereum RPC URL is not configured" ++
  noteIf (cfg.soroban.rpcUrl = "") "Soroban RPC URL is not configured" ++
  noteIf (dryRun = false ∧ missing cfg.ethereum.resolverPrivateKey)
    "RESOLVER_ETH_PRIVATE_KEY is required when dry-run is disabled" ++
  noteIf (dryRun = false ∧ missing cfg.soroban.resolverSecret)
    "RESOLVER_STELLAR_SECRET is required when dry-run is disabled"

def resolveDirection : Chain → Direction
  | .ethereum => .ethToXlm
  | .stellar => .xlmToEth

def resolveDestinationChain : Chain → Chain
  | .ethereum => .stellar
  | .stellar => .ethereum

/-- The clamp to what the contracts accept comes last. -/
def computeTimelockSeconds (sourceTimelockAbs nowSeconds bufferSeconds : ℤ) : ℤ :=
  let remaining := sourceTimelockAbs - nowSeconds
  let clamped := remaining - bufferSeconds
  if clamped < 300 then 300
  else if clamped > 86400 then 86400
  else clamped

/-- `BigInt` division truncates. -/
def computeDestinationAmount (sourceAmount feeBasisPoints : ℤ) : ℤ :=
  if feeBasisPoints = 0 then sourceAmount
  else sourceAmount - (sourceAmount * feeBasisPoints).tdiv 10000

def validateDestinationParams (amount safetyDeposit timelockSeconds : ℤ) : List String :=
  noteIf (amount ≤ 0) "Destination amount must be > 0" ++
  noteIf (safetyDeposit < 0) "Safety deposit must be >= 0" ++
  noteIf (timelockSeconds < 300) s!"Timelock ({timelockSeconds}s) is below minimum (300s)" ++
  noteIf (timelockSeconds > 86400) s!"Timelock ({timelockSeconds}s) exceeds maximum (86400s)"

/-- The parameters of the destination leg. -/
def destinationParams (order : ObservedSourceOrder) (cfg : ResolverConfig) (opts : PlanOptions)
    (nowSeconds : ℤ) : DestinationOrderParams where
  destinationChain := resolveDestinationChain order.sourceChain
  beneficiary := order.beneficiary
  refundAddress := match resolveDestinationChain order.sourceChain with
    | .ethereum => cfg.ethereum.resolverRegistry.getD order.sender
    | .stellar => cfg.soroban.resolverRegistry.getD order.sender
  token := order.token
  amount := computeDestinationAmount order.amount opts.feeBp
  safetyDeposit := order.safetyDeposit
  hashlock := order.hashlock
  timelockSeconds := computeTimelockSeconds order.timelock nowSeconds opts.timelockBuffer

/-- The plan, or what is wrong. -/
def buildPlan (order : ObservedSourceOrder) (cfg : ResolverConfig) (opts : PlanOptions)
    (nowSeconds : ℤ) : Except (List String) FillPlan :=
  let configErrors := validateResolverConfig cfg opts.dryRun
  if configErrors ≠ [] then .error configErrors
  else
    let destination := destinationParams order cfg opts nowSeconds
    let paramErrors := validateDestinationParams destination.amount destination.safetyDeposit
      destination.timelockSeconds
    if paramErrors ≠ [] then .error paramErrors
    else .ok ⟨order, destination, resolveDirection order.sourceChain⟩

/-! ## Plans against the canonical order -/

structure PlanLeg where
  chain : Chain
  asset : String
  amount : String
  timelock : ℤ
  deriving DecidableEq, Repr

structure ResolverOrder where
  publicId : String
  direction : Direction
  hashlock : String
  src : PlanLeg
  dst : PlanLeg
  deriving DecidableEq, Repr

inductive PlanAction where
  | fill
  | claim
  deriving DecidableEq, Repr

structure ResolverPlan where
  publicId : String
  action : PlanAction
  hashlock : String
  src : PlanLeg
  dst : PlanLeg
  expiresAt : ℤ
  builtAt : ℤ
  deriving DecidableEq, Repr

inductive PlanErrorCode where
  | orderMismatch
  | hashlockMismatch
  | timelockMismatch
  | amountMismatch
  | assetMismatch
  | planExpired
  deriving DecidableEq, Repr

def PlanErrorCode.text : PlanErrorCode → String
  | .orderMismatch => "ORDER_MISMATCH"
  | .hashlockMismatch => "HASHLOCK_MISMATCH"
  | .timelockMismatch => "TIMELOCK_MISMATCH"
  | .amountMismatch => "AMOUNT_MISMATCH"
  | .assetMismatch => "ASSET_MISMATCH"
  | .planExpired => "PLAN_EXPIRED"

structure PlanIssue where
  code : PlanErrorCode
  field : String
  expected : String
  actual : String
  deriving DecidableEq, Repr

/-- What `PlanValidationError` carries. -/
structure PlanValidationError where
  code : PlanErrorCode
  issues : List PlanIssue
  reason : String
  deriving DecidableEq, Repr

/-- The issues of one leg; `kind` is `src` or `dst`. -/
def compareLegs (kind : String) (planLeg orderLeg : PlanLeg) : List PlanIssue :=
  noteIf (planLeg.chain ≠ orderLeg.chain)
    ⟨.assetMismatch, kind ++ ".chain", orderLeg.chain.text, planLeg.chain.text⟩ ++
  noteIf (planLeg.asset ≠ orderLeg.asset)
    ⟨.assetMismatch, kind ++ ".asset", orderLeg.asset, planLeg.asset⟩ ++
  noteIf (planLeg.amount ≠ orderLeg.amount)
    ⟨.amountMismatch, kind ++ ".amount", orderLeg.amount, planLeg.amount⟩ ++
  noteIf (planLeg.timelock ≠ orderLeg.timelock)
    ⟨.timelockMismatch, kind ++ ".timelock", toString orderLeg.timelock,
      toString planLeg.timelock⟩

variable (toLowerCase : String → String)

/-- The issues in the order in which they are found. -/
def planIssues (plan : ResolverPlan) (order : ResolverOrder) (now : ℤ) : List PlanIssue :=
  noteIf (plan.publicId ≠ order.publicId)
    ⟨.orderMismatch, "publicId", order.publicId, plan.publicId⟩ ++
  noteIf (toLowerCase plan.hashlock ≠ toLowerCase order.hashlock)
    ⟨.hashlockMismatch, "hashlock", order.hashlock, plan.hashlock⟩ ++
  compareLegs "src" plan.src order.src ++
  compareLegs "dst" plan.dst order.dst ++
  noteIf (now > plan.expiresAt)
    ⟨.planExpired, "expiresAt", s!">= now ({now})", toString plan.expiresAt⟩

/-- The first issue names the code and the reason. -/
def validatePlan (plan : ResolverPlan) (order : ResolverOrder) (now : ℤ) :
    Except PlanValidationError Unit :=
  match planIssues toLowerCase plan order now with
  | [] => .ok ()
  | primary :: rest => .error
      { code := primary.code
        issues := primary :: rest
        reason := primary.code.text ++ ": " ++ primary.field ++ " expected " ++ primary.expected ++
          ", got " ++ primary.actual }

def validatePlanForSubmit (plan : ResolverPlan) (order : ResolverOrder) (now : ℤ) :
    Except PlanValidationError ResolverPlan := do
  validatePlan toLowerCase plan order now
  return plan

/-- The error, or what the callback returns. -/
def submitValidatedPlan {τ : Type} (plan : ResolverPlan) (order : ResolverOrder)
    (submit : ResolverPlan → τ) (now : ℤ) : Except PlanValidationError τ := do
  let _ ← validatePlanForSubmit toLowerCase plan order now
  return submit plan

structure BuildOrderPlanOptions where
  action : Option PlanAction
  now : Option ℤ
  expiresAt : Option ℤ
  deriving DecidableEq, Repr

/-- `wallClock` is the time when no time is injected. -/
def buildOrderPlan (order : ResolverOrder) (options : BuildOrderPlanOptions) (wallClock : ℤ) :
    ResolverPlan where
  publicId := order.publicId
  action := options.action.getD .fill
  hashlock := order.hashlock
  src := order.src
  dst := order.dst
  expiresAt := options.expiresAt.getD (min order.src.timelock order.dst.timelock)
  builtAt := options.now.getD wallClock

end OverSync.Planner
