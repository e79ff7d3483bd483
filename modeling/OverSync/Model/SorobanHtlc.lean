import OverSync.Library.Bytes
import OverSync.Library.Guard
import Mathlib.Algebra.GroupWithZero.Nat
import Mathlib.Algebra.Ring.Int.Defs
import Mathlib.Data.Int.Notation
import Mathlib.Logic.Function.Basic

/-! # The Stellar escrow `oversync-htlc`

Instance storage, orders and the token balances of the contract. The host rolls back a
panicking call and forbids re-entry, so a call is a function of the state before it. -/

namespace OverSync.SorobanHtlc

open Function Library

/-- Accounts and contracts; token contracts name the assets. -/
abbrev Address := ℕ

/-- `u64` order ids. -/
abbrev OrderId := Fin (2 ^ 64)

instance orderId_neZero : NeZero (2 ^ 64) := ⟨by decide⟩

def maxTimelockSeconds : ℕ := 86400
def minTimelockSeconds : ℕ := 300

/-- The errors of the contract. -/
inductive Error where
  | alreadyInitialised
  | notInitialised
  | unauthorized
  | orderNotFound
  | orderNotClaimable
  | orderNotRefundable
  | invalidPreimage
  | notExpired
  | expired
  | invalidAmount
  | invalidTimelock
  | safetyDepositTooSmall
  | resolverNotAuthorised
  | overflow
  deriving DecidableEq, Repr

/-- Why a call was rolled back: an error of the contract, a missing authorisation, a checked
arithmetic operation, a panic in a called contract, or a token balance that is too small. -/
inductive Failure where
  | contract (e : Error)
  | auth
  | arithmetic
  | invocation
  | insufficientBalance
  deriving DecidableEq, Repr

inductive OrderStatus where
  | funded
  | claimed
  | refunded
  deriving DecidableEq, Repr

structure Order (Digest : Type) where
  id : OrderId
  sender : Address
  beneficiary : Address
  refundAddress : Address
  asset : Address
  amount : ℤ
  safetyDeposit : ℤ
  hashlock : Digest
  timelock : ℕ
  status : OrderStatus
  preimage : Bytes
  createdAt : ℕ
  finalisedAt : ℕ
  deriving DecidableEq

/-- Instance storage; an absent key is `none`. -/
structure Instance where
  admin : Option Address
  nextOrderId : Option OrderId
  minSafetyDeposit : Option ℤ
  resolverRegistry : Option Address
  deriving DecidableEq, Repr

/-- The storage of the contract and the balance it holds of every asset. -/
structure State (Digest : Type) where
  inst : Instance
  orders : OrderId → Option (Order Digest)
  balance : Address → ℤ

/-- Just after deployment, before `initialize`. -/
def State.deployed {Digest : Type} : State Digest where
  inst := ⟨none, none, none, none⟩
  orders := fun _ => none
  balance := fun _ => 0

/-- What a call can see of the ledger. `auth` tells which addresses authorised it, and
`isActive` is the answer of a registry contract, `none` when it panics. -/
structure Env where
  self : Address
  timestamp : ℕ
  auth : Address → Bool
  isActive : Address → Address → Option Bool

inductive Event (Digest : Type) where
  | created (sender beneficiary : Address) (hashlock : Digest) (orderId : OrderId)
      (asset : Address) (amount safetyDeposit : ℤ) (timelock : ℕ)
  | claimed (beneficiary : Address) (hashlock : Digest) (orderId : OrderId) (caller : Address)
      (preimage : Bytes) (amount safetyDeposit : ℤ)
  | refunded (refundAddress : Address) (hashlock : Digest) (orderId : OrderId)
      (caller : Address) (amount safetyDeposit : ℤ)
  deriving DecidableEq

structure Transfer where
  asset : Address
  source : Address
  recipient : Address
  amount : ℤ
  deriving DecidableEq, Repr

/-- What a successful call publishes and the transfers it makes. -/
structure Receipt (Digest : Type) where
  event : Option (Event Digest)
  transfers : List Transfer
  deriving DecidableEq

structure CreateOrderArgs (Digest : Type) where
  sender : Address
  beneficiary : Address
  refundAddress : Address
  asset : Address
  amount : ℤ
  safetyDeposit : ℤ
  hashlock : Digest
  timelockSeconds : ℕ

/-- A call of the contract. The booleans tell which of its transfers, in order, the token
contract lets through. -/
inductive Call (Digest : Type) where
  | initialise (admin : Address) (minSafetyDeposit : ℤ)
  | setResolverRegistry (registry : Address)
  | clearResolverRegistry
  | setMinSafetyDeposit (newMinimum : ℤ)
  | setAdmin (newAdmin : Address)
  | createOrder (args : CreateOrderArgs Digest) (pull : Bool)
  | claimOrder (orderId : OrderId) (preimage : Bytes) (caller : Address) (pay deposit : Bool)
  | refundOrder (orderId : OrderId) (caller : Address) (pay deposit : Bool)

variable {Digest : Type}

/-- `require_auth`: the contract never authorises itself, since nothing re-enters it. -/
def requireAuth (env : Env) (address : Address) : Except Failure Unit :=
  require (address ≠ env.self ∧ env.auth address = true) .auth

def requireInitialised (s : State Digest) : Except Failure Unit :=
  require (s.inst.admin ≠ none) (.contract .notInitialised)

def requireAdmin (env : Env) (s : State Digest) : Except Failure Unit :=
  match s.inst.admin with
  | none => .error (.contract .notInitialised)
  | some admin => requireAuth env admin

/-- `u64::checked_add` -/
def checkedAddU64 (a b : ℕ) : Except Failure ℕ :=
  if a + b < 2 ^ 64 then .ok (a + b) else .error (.contract .overflow)

/-- `i128::checked_add` -/
def checkedAddI128 (a b : ℤ) : Except Failure ℤ :=
  if -2 ^ 127 ≤ a + b ∧ a + b < 2 ^ 127 then .ok (a + b) else .error (.contract .overflow)

/-- `order_id + 1`, with overflow checks on. -/
def nextId (orderId : OrderId) : Except Failure OrderId :=
  if h : orderId.val + 1 < 2 ^ 64 then .ok ⟨orderId.val + 1, h⟩ else .error .arithmetic

/-- A transfer into the contract. The contract is no token contract, and calling it would be
re-entry. -/
def pullTransfer (env : Env) (t : Transfer) (ok : Bool) (s : State Digest) :
    Except Failure (State Digest) := do
  require (t.asset ≠ env.self ∧ ok = true) .invocation
  return { s with balance := update s.balance t.asset (s.balance t.asset + t.amount) }

/-- A transfer out of the contract; to the contract itself it moves nothing. -/
def payTransfer (env : Env) (t : Transfer) (ok : Bool) (s : State Digest) :
    Except Failure (State Digest) := do
  require (t.asset ≠ env.self) .invocation
  require (t.amount ≤ s.balance t.asset) .insufficientBalance
  require (ok = true) .invocation
  return if t.recipient = env.self then s
    else { s with balance := update s.balance t.asset (s.balance t.asset - t.amount) }

def initialise (env : Env) (admin : Address) (minSafetyDeposit : ℤ) (s : State Digest) :
    Except Failure (State Digest × Receipt Digest) := do
  require (s.inst.admin = none) (.contract .alreadyInitialised)
  require (0 ≤ minSafetyDeposit) (.contract .invalidAmount)
  requireAuth env admin
  return ({ s with inst :=
    { s.inst with admin := some admin
                  nextOrderId := some 1
                  minSafetyDeposit := some minSafetyDeposit } }, ⟨none, []⟩)

def setResolverRegistry (env : Env) (registry : Address) (s : State Digest) :
    Except Failure (State Digest × Receipt Digest) := do
  requireAdmin env s
  return ({ s with inst := { s.inst with resolverRegistry := some registry } }, ⟨none, []⟩)

def clearResolverRegistry (env : Env) (s : State Digest) :
    Except Failure (State Digest × Receipt Digest) := do
  requireAdmin env s
  return ({ s with inst := { s.inst with resolverRegistry := none } }, ⟨none, []⟩)

def setMinSafetyDeposit (env : Env) (newMinimum : ℤ) (s : State Digest) :
    Except Failure (State Digest × Receipt Digest) := do
  requireAdmin env s
  require (0 ≤ newMinimum) (.contract .invalidAmount)
  return ({ s with inst := { s.inst with minSafetyDeposit := some newMinimum } }, ⟨none, []⟩)

def setAdmin (env : Env) (newAdmin : Address) (s : State Digest) :
    Except Failure (State Digest × Receipt Digest) := do
  requireAdmin env s
  return ({ s with inst := { s.inst with admin := some newAdmin } }, ⟨none, []⟩)

/-- The registry gate of `create_order`. -/
def requireResolver (env : Env) (sender : Address) (s : State Digest) : Except Failure Unit :=
  match s.inst.resolverRegistry with
  | none => .ok ()
  | some registry =>
      match env.isActive registry sender with
      | some active => require (active = true) (.contract .resolverNotAuthorised)
      | none => .error .invocation

/-- The order `create_order` stores. -/
def CreateOrderArgs.order (args : CreateOrderArgs Digest) (orderId : OrderId) (now : ℕ) :
    Order Digest where
  id := orderId
  sender := args.sender
  beneficiary := args.beneficiary
  refundAddress := args.refundAddress
  asset := args.asset
  amount := args.amount
  safetyDeposit := args.safetyDeposit
  hashlock := args.hashlock
  timelock := now + args.timelockSeconds
  status := .funded
  preimage := []
  createdAt := now
  finalisedAt := 0

def createOrder (env : Env) (args : CreateOrderArgs Digest) (pull : Bool) (s : State Digest) :
    Except Failure (State Digest × Receipt Digest) := do
  requireInitialised s
  requireAuth env args.sender
  require (0 < args.amount) (.contract .invalidAmount)
  require (0 ≤ args.safetyDeposit) (.contract .invalidAmount)
  require (minTimelockSeconds ≤ args.timelockSeconds ∧
    args.timelockSeconds ≤ maxTimelockSeconds) (.contract .invalidTimelock)
  require (s.inst.minSafetyDeposit.getD 0 ≤ args.safetyDeposit)
    (.contract .safetyDepositTooSmall)
  requireResolver env args.sender s
  let timelock ← checkedAddU64 env.timestamp args.timelockSeconds
  let orderId := s.inst.nextOrderId.getD 1
  let next ← nextId orderId
  let s := { s with inst := { s.inst with nextOrderId := some next } }
  let total ← checkedAddI128 args.amount args.safetyDeposit
  let t : Transfer := ⟨args.asset, args.sender, env.self, total⟩
  let s ← pullTransfer env t pull s
  return ({ s with orders := update s.orders orderId (some (args.order orderId env.timestamp)) },
    { event := some (.created args.sender args.beneficiary args.hashlock orderId args.asset
        args.amount args.safetyDeposit timelock)
      transfers := [t] })

/-- The payments of a settlement: the amount to `recipient`, then the safety deposit to the
caller. -/
def settle (env : Env) (order : Order Digest) (recipient caller : Address)
    (pay deposit : Bool) (s : State Digest) : Except Failure (State Digest × List Transfer) := do
  let amountOut : Transfer := ⟨order.asset, env.self, recipient, order.amount⟩
  let s ← payTransfer env amountOut pay s
  if 0 < order.safetyDeposit then do
    let depositOut : Transfer := ⟨order.asset, env.self, caller, order.safetyDeposit⟩
    let s ← payTransfer env depositOut deposit s
    return (s, [amountOut, depositOut])
  else
    return (s, [amountOut])

/-- `orders.get(id)`, or the panic for an unknown order. -/
def getOrder (s : State Digest) (orderId : OrderId) : Except Failure (Order Digest) :=
  match s.orders orderId with
  | some order => .ok order
  | none => .error (.contract .orderNotFound)

/-- The bytes a claim hashes: the order id as a 32-byte big-endian number, then the
preimage. -/
def hashInput (orderId : OrderId) (preimage : Bytes) : Bytes :=
  List.replicate 24 0 ++ toBigEndian 8 orderId.val ++ preimage

def Order.claimedWith (order : Order Digest) (preimage : Bytes) (now : ℕ) : Order Digest :=
  { order with status := .claimed, preimage := preimage, finalisedAt := now }

def Order.refundedAt (order : Order Digest) (now : ℕ) : Order Digest :=
  { order with status := .refunded, finalisedAt := now }

def claimOrder [DecidableEq Digest] (sha256 : Bytes → Digest) (env : Env) (orderId : OrderId)
    (preimage : Bytes) (caller : Address) (pay deposit : Bool) (s : State Digest) :
    Except Failure (State Digest × Receipt Digest) := do
  requireInitialised s
  requireAuth env caller
  let order ← getOrder s orderId
  require (order.status = .funded) (.contract .orderNotClaimable)
  require (env.timestamp ≤ order.timelock) (.contract .expired)
  require (preimage.length ≠ 0) (.contract .invalidPreimage)
  require (sha256 (hashInput orderId preimage) = order.hashlock) (.contract .invalidPreimage)
  let (s, transfers) ← settle env order order.beneficiary caller pay deposit s
  return ({ s with
      orders := update s.orders orderId (some (order.claimedWith preimage env.timestamp)) },
    { event := some (.claimed order.beneficiary order.hashlock orderId caller preimage
        order.amount order.safetyDeposit)
      transfers })

def refundOrder (env : Env) (orderId : OrderId) (caller : Address) (pay deposit : Bool)
    (s : State Digest) : Except Failure (State Digest × Receipt Digest) := do
  requireInitialised s
  requireAuth env caller
  let order ← getOrder s orderId
  require (order.status = .funded) (.contract .orderNotRefundable)
  require (order.timelock < env.timestamp) (.contract .notExpired)
  let (s, transfers) ← settle env order order.refundAddress caller pay deposit s
  return ({ s with
      orders := update s.orders orderId (some (order.refundedAt env.timestamp)) },
    { event := some (.refunded order.refundAddress order.hashlock orderId caller order.amount
        order.safetyDeposit)
      transfers })

def exec [DecidableEq Digest] (sha256 : Bytes → Digest) (env : Env) (s : State Digest) :
    Call Digest → Except Failure (State Digest × Receipt Digest)
  | .initialise admin minSafetyDeposit => initialise env admin minSafetyDeposit s
  | .setResolverRegistry registry => setResolverRegistry env registry s
  | .clearResolverRegistry => clearResolverRegistry env s
  | .setMinSafetyDeposit newMinimum => setMinSafetyDeposit env newMinimum s
  | .setAdmin newAdmin => setAdmin env newAdmin s
  | .createOrder args pull => createOrder env args pull s
  | .claimOrder orderId preimage caller pay deposit =>
      claimOrder sha256 env orderId preimage caller pay deposit s
  | .refundOrder orderId caller pay deposit => refundOrder env orderId caller pay deposit s

/-- What the ledger records: an invocation with its result, or tokens sent to the contract
from outside. -/
inductive Record (Digest : Type) where
  | invocation (env : Env) (call : Call Digest) (result : Except Failure (Receipt Digest))
  | donation (asset : Address) (amount : ℤ)

/-- One step of the ledger around the contract, which lives at `current`. -/
inductive Step [DecidableEq Digest] (sha256 : Bytes → Digest) (current : Address) :
    State Digest → Record Digest → State Digest → Prop where
  | success {s s' env call receipt} : env.self = current →
      exec sha256 env s call = .ok (s', receipt) →
      Step sha256 current s (.invocation env call (.ok receipt)) s'
  | panic {s env call failure} : env.self = current →
      exec sha256 env s call = .error failure →
      Step sha256 current s (.invocation env call (.error failure)) s
  | donation {s : State Digest} {asset amount} : 0 ≤ amount →
      Step sha256 current s (.donation asset amount)
        { s with balance := update s.balance asset (s.balance asset + amount) }

end OverSync.SorobanHtlc
