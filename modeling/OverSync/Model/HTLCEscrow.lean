import OverSync.Library.Bytes
import OverSync.Library.Guard
import Mathlib.Data.ZMod.Defs
import Mathlib.Logic.Function.Basic

/-! # The Ethereum escrow `HTLCEscrow`

Storage, external calls and payouts of the contract. A recipient of ETH or a token contract
may call back into the escrow before it returns; such a callee is part of the call that
reaches it, so that every reentrant behaviour is an input of the model. -/

namespace OverSync.HTLCEscrow

open Function Library

abbrev Address := ℕ

def zeroAddress : Address := 0

/-- `uint256` keys of the order mapping. -/
abbrev OrderId := Fin (2 ^ 256)

instance orderId_neZero : NeZero (2 ^ 256) := ⟨by decide⟩

/-- `uint64(x)`: the explicit conversion truncates. -/
def uint64 (x : ℕ) : ℕ := x % 2 ^ 64

def minTimelock : ℕ := 300
def maxTimelock : ℕ := 24 * 60 * 60

/-- The digests the contract computes; `Digest` stands for `bytes32`. -/
structure HashFunctions (Digest : Type) where
  sha256 : Bytes → Digest
  keccak256 : Bytes → Digest
  /-- `bytes32(0)` -/
  zero : Digest

inductive OrderStatus where
  | funded
  | claimed
  | refunded
  deriving DecidableEq, Repr

structure Order (Digest : Type) where
  sender : Address
  beneficiary : Address
  refundAddress : Address
  token : Address
  amount : ℕ
  safetyDeposit : ℕ
  hashlock : Digest
  timelock : ℕ
  createdAt : ℕ
  finalisedAt : ℕ
  status : OrderStatus
  preimageKeccak : Digest
  deriving DecidableEq

/-- The value of an unset mapping entry. -/
def Order.unset {Digest : Type} (H : HashFunctions Digest) : Order Digest where
  sender := zeroAddress
  beneficiary := zeroAddress
  refundAddress := zeroAddress
  token := zeroAddress
  amount := 0
  safetyDeposit := 0
  hashlock := H.zero
  timelock := 0
  createdAt := 0
  finalisedAt := 0
  status := .funded
  preimageKeccak := H.zero

/-- The immutable part of a deployment and its own address. -/
structure Deployment where
  self : Address
  resolverRegistry : Address
  minSafetyDeposit : ℕ

/-- Storage of the contract together with the balances it holds. `entered` is the status of
the reentrancy guard. -/
structure State (Digest : Type) where
  nextOrderId : OrderId
  orders : OrderId → Order Digest
  entered : Bool
  ethBalance : ℕ
  tokenBalance : Address → ℕ

/-- Just after construction. -/
def State.deployed {Digest : Type} (H : HashFunctions Digest) : State Digest where
  nextOrderId := 1
  orders := fun _ => Order.unset H
  entered := false
  ethBalance := 0
  tokenBalance := fun _ => 0

inductive Error where
  | invalidAmount
  | invalidTimelock
  | invalidHashlock
  | invalidPreimage
  | invalidValue
  | orderNotFound
  | orderNotClaimable
  | orderNotRefundable
  | notExpired
  | expired
  | safetyDepositTooSmall
  | resolverNotAuthorised
  | claimResolverNotRegistered
  | nativeTransferFailed
  /-- `ReentrancyGuard` -/
  | reentrancyGuardReentrantCall
  /-- `SafeERC20` -/
  | safeERC20FailedOperation
  /-- checked arithmetic -/
  | arithmeticPanic
  /-- a call to the resolver registry -/
  | registryReverted
  deriving DecidableEq, Repr

inductive Event (Digest : Type) where
  | orderCreated (orderId : OrderId) (sender beneficiary token : Address)
      (amount safetyDeposit : ℕ) (hashlock : Digest) (timelock : ℕ)
  | orderClaimed (orderId : OrderId) (claimer : Address) (preimage : Bytes)
      (amount safetyDeposit : ℕ)
  | orderRefunded (orderId : OrderId) (caller : Address) (amount safetyDeposit : ℕ)
  deriving DecidableEq

/-- A payment out of the escrow; the zero token is ETH. -/
structure Transfer where
  token : Address
  recipient : Address
  amount : ℕ
  deriving DecidableEq, Repr

/-- What a successful call leaves behind: its event and the payments it made. -/
structure Receipt (Digest : Type) where
  event : Event Digest
  transfers : List Transfer
  deriving DecidableEq

/-- The block a call runs in. `isActive` is the answer of the resolver registry, `none` when
the registry itself reverts. -/
structure Env where
  timestamp : ℕ
  isActive : Address → Option Bool

structure CreateOrderArgs (Digest : Type) where
  beneficiary : Address
  refundAddress : Address
  token : Address
  amount : ℕ
  safetyDeposit : ℕ
  hashlock : Digest
  timelockSeconds : ℕ

/-- An external call into the contract. Each pair is the behaviour of a contract the call
hands control to: the calls it makes back into the escrow, and whether it returns or
reverts. -/
inductive Call (Digest : Type) where
  | createOrder (sender : Address) (value : ℕ) (args : CreateOrderArgs Digest)
      (pull : List (Call Digest) × Bool)
  | claimOrder (sender : Address) (orderId : OrderId) (preimage : Bytes)
      (payee caller : List (Call Digest) × Bool)
  | refundOrder (sender : Address) (orderId : OrderId)
      (payee caller : List (Call Digest) × Bool)
  | receive (sender : Address) (value : ℕ)

variable {Digest : Type}

/-- `msg.sender` -/
def Call.sender : Call Digest → Address
  | .createOrder sender _ _ _ => sender
  | .claimOrder sender _ _ _ _ => sender
  | .refundOrder sender _ _ _ => sender
  | .receive sender _ => sender

/-- An external contract as seen by the escrow: control is handed over in one state and comes
back in another, with success or failure. -/
abbrev Callee (Digest : Type) := State Digest → State Digest × Bool

/-- Move `amount` of a token out of the escrow; a transfer to the escrow itself moves nothing. -/
def State.debitToken (s : State Digest) (self token recipient : Address) (amount : ℕ) :
    State Digest :=
  if recipient = self then s
  else { s with tokenBalance := update s.tokenBalance token (s.tokenBalance token - amount) }

/-- `_payout`: a low-level call for ETH, `safeTransfer` for a token. ETH sent to the escrow
itself is rejected by `receive`, and the escrow is no token contract. -/
def payout (C : Deployment) (token recipient : Address) (amount : ℕ) (callee : Callee Digest)
    (s : State Digest) : Except Error (State Digest × Transfer) :=
  if token = zeroAddress then do
    require (amount ≤ s.ethBalance ∧ recipient ≠ C.self) .nativeTransferFailed
    let (s, ok) := callee { s with ethBalance := s.ethBalance - amount }
    require (ok = true) .nativeTransferFailed
    return (s, ⟨token, recipient, amount⟩)
  else do
    require (token ≠ C.self ∧ amount ≤ s.tokenBalance token) .safeERC20FailedOperation
    let (s, ok) := callee (s.debitToken C.self token recipient amount)
    require (ok = true) .safeERC20FailedOperation
    return (s, ⟨token, recipient, amount⟩)

/-- The registry gate: with a registry configured the caller must be active in it. -/
def requireActive (C : Deployment) (env : Env) (sender : Address) (e : Error) :
    Except Error Unit :=
  if C.resolverRegistry = zeroAddress then .ok ()
  else match env.isActive sender with
    | some active => require (active = true) e
    | none => .error .registryReverted

/-- The order `createOrder` stores. -/
def CreateOrderArgs.order (H : HashFunctions Digest) (args : CreateOrderArgs Digest)
    (sender : Address) (timestamp : ℕ) : Order Digest where
  sender := sender
  beneficiary := args.beneficiary
  refundAddress := args.refundAddress
  token := args.token
  amount := args.amount
  safetyDeposit := args.safetyDeposit
  hashlock := args.hashlock
  timelock := uint64 timestamp + args.timelockSeconds
  createdAt := uint64 timestamp
  finalisedAt := 0
  status := .funded
  preimageKeccak := H.zero

/-- The funding step of `createOrder`: the exact ETH value, and `safeTransferFrom` for a
token. -/
def pullFunds (C : Deployment) (value : ℕ) (args : CreateOrderArgs Digest)
    (callee : Callee Digest) (s : State Digest) : Except Error (State Digest) :=
  if args.token = zeroAddress then do
    require (args.amount + args.safetyDeposit < 2 ^ 256) .arithmeticPanic
    require (value = args.amount + args.safetyDeposit) .invalidValue
    return s
  else do
    require (value = args.safetyDeposit) .invalidValue
    require (args.token ≠ C.self) .safeERC20FailedOperation
    let (s, ok) := callee { s with
      tokenBalance := update s.tokenBalance args.token (s.tokenBalance args.token + args.amount) }
    require (ok = true) .safeERC20FailedOperation
    return s

def createOrder [DecidableEq Digest] (H : HashFunctions Digest) (C : Deployment) (env : Env)
    (sender : Address) (value : ℕ) (args : CreateOrderArgs Digest) (callee : Callee Digest)
    (s : State Digest) : Except Error (State Digest × Receipt Digest) := do
  require (s.entered = false) .reentrancyGuardReentrantCall
  let s := { s with entered := true, ethBalance := s.ethBalance + value }
  require (args.amount ≠ 0) .invalidAmount
  require (args.beneficiary ≠ zeroAddress ∧ args.refundAddress ≠ zeroAddress) .invalidAmount
  require (args.hashlock ≠ H.zero) .invalidHashlock
  require (minTimelock ≤ args.timelockSeconds ∧ args.timelockSeconds ≤ maxTimelock)
    .invalidTimelock
  require (C.minSafetyDeposit ≤ args.safetyDeposit) .safetyDepositTooSmall
  requireActive C env sender .resolverNotAuthorised
  let s ← pullFunds C value args callee s
  -- unchecked: the counter wraps
  let orderId := s.nextOrderId
  require (uint64 env.timestamp + args.timelockSeconds < 2 ^ 64) .arithmeticPanic
  let order := args.order H sender env.timestamp
  return ({ s with
      nextOrderId := s.nextOrderId + 1
      orders := update s.orders orderId order
      entered := false },
    { event := .orderCreated orderId sender args.beneficiary args.token args.amount
        args.safetyDeposit args.hashlock order.timelock
      transfers := [] })

/-- The payments of a settlement: the locked amount to `recipient`, then the safety deposit
in ETH to the caller. -/
def settle (C : Deployment) (order : Order Digest) (recipient sender : Address)
    (payee caller : Callee Digest) (s : State Digest) :
    Except Error (State Digest × List Transfer) := do
  let (s, paid) ← payout C order.token recipient order.amount payee s
  if 0 < order.safetyDeposit then do
    let (s, deposit) ← payout C zeroAddress sender order.safetyDeposit caller s
    return (s, [paid, deposit])
  else
    return (s, [paid])

/-- `_bytesToBytes32`: the first word of the preimage in memory, zero padded. -/
def bytesToBytes32 (data : Bytes) : Bytes :=
  data.take 32 ++ List.replicate (32 - data.length) 0

/-- The order as a claim leaves it. -/
def Order.claimedBy (order : Order Digest) (timestamp : ℕ) (kek : Digest) : Order Digest :=
  { order with status := .claimed, finalisedAt := uint64 timestamp, preimageKeccak := kek }

/-- The order as a refund leaves it. -/
def Order.refundedAt (order : Order Digest) (timestamp : ℕ) : Order Digest :=
  { order with status := .refunded, finalisedAt := uint64 timestamp }

def claimOrder [DecidableEq Digest] (H : HashFunctions Digest) (C : Deployment) (env : Env)
    (sender : Address) (orderId : OrderId) (preimage : Bytes) (payee caller : Callee Digest)
    (s : State Digest) : Except Error (State Digest × Receipt Digest) := do
  require (s.entered = false) .reentrancyGuardReentrantCall
  let order := s.orders orderId
  require (order.amount ≠ 0) .orderNotFound
  require (order.status = .funded) .orderNotClaimable
  require (env.timestamp ≤ order.timelock) .expired
  requireActive C env sender .claimResolverNotRegistered
  let sha := H.sha256 preimage
  let kek := H.keccak256 preimage
  require (sha = order.hashlock) .invalidPreimage
  let s := { s with
    entered := true
    orders := update s.orders orderId (order.claimedBy env.timestamp kek) }
  let (s, transfers) ← settle C order order.beneficiary sender payee caller s
  return ({ s with entered := false },
    { event := .orderClaimed orderId sender (bytesToBytes32 preimage) order.amount
        order.safetyDeposit
      transfers })

def refundOrder (C : Deployment) (env : Env) (sender : Address) (orderId : OrderId)
    (payee caller : Callee Digest) (s : State Digest) :
    Except Error (State Digest × Receipt Digest) := do
  require (s.entered = false) .reentrancyGuardReentrantCall
  let order := s.orders orderId
  require (order.amount ≠ 0) .orderNotFound
  require (order.status = .funded) .orderNotRefundable
  require (order.timelock < env.timestamp) .notExpired
  let s := { s with
    entered := true
    orders := update s.orders orderId (order.refundedAt env.timestamp) }
  let (s, transfers) ← settle C order order.refundAddress sender payee caller s
  return ({ s with entered := false },
    { event := .orderRefunded orderId sender order.amount order.safetyDeposit
      transfers })

mutual

/-- One external call, with everything the contracts it reaches do before they return. -/
def exec [DecidableEq Digest] (H : HashFunctions Digest) (C : Deployment) (env : Env) :
    Call Digest → State Digest → Except Error (State Digest × Receipt Digest)
  | .createOrder sender value args (calls, ok), s =>
      createOrder H C env sender value args (fun s => (execAll H C env calls s, ok)) s
  | .claimOrder sender orderId preimage (calls₁, ok₁) (calls₂, ok₂), s =>
      claimOrder H C env sender orderId preimage
        (fun s => (execAll H C env calls₁ s, ok₁))
        (fun s => (execAll H C env calls₂ s, ok₂)) s
  | .refundOrder sender orderId (calls₁, ok₁) (calls₂, ok₂), s =>
      refundOrder C env sender orderId
        (fun s => (execAll H C env calls₁ s, ok₁))
        (fun s => (execAll H C env calls₂ s, ok₂)) s
  | .receive _ _, _ => .error .invalidValue

/-- Calls in a row; one that reverts leaves the state as it was. -/
def execAll [DecidableEq Digest] (H : HashFunctions Digest) (C : Deployment) (env : Env) :
    List (Call Digest) → State Digest → State Digest
  | [], s => s
  | call :: calls, s =>
      match exec H C env call s with
      | .ok (s', _) => execAll H C env calls s'
      | .error _ => execAll H C env calls s

end

/-- What the chain records: a transaction with its result, or tokens sent to the escrow from
outside. -/
inductive Record (Digest : Type) where
  | transaction (env : Env) (call : Call Digest) (result : Except Error (Receipt Digest))
  | donation (token : Address) (amount : ℕ)

/-- One step of the chain around the escrow. The escrow never calls itself, so no call comes
from its own address. -/
inductive Step [DecidableEq Digest] (H : HashFunctions Digest) (C : Deployment) :
    State Digest → Record Digest → State Digest → Prop where
  | success {s s' env call receipt} : call.sender ≠ C.self →
      exec H C env call s = .ok (s', receipt) →
      Step H C s (.transaction env call (.ok receipt)) s'
  | revert {s env call e} : exec H C env call s = .error e →
      Step H C s (.transaction env call (.error e)) s
  | donation {s : State Digest} {token amount} : token ≠ zeroAddress →
      Step H C s (.donation token amount)
        { s with tokenBalance := update s.tokenBalance token (s.tokenBalance token + amount) }

end OverSync.HTLCEscrow
