import OverSync.Library.Bytes
import OverSync.Library.Coverage
import OverSync.Library.Execution
import OverSync.Library.Guard
import Mathlib.Logic.Function.Basic

/-! # The bridge contract `MainnetHTLC`

Storage and balances of the contract. Its tokens are any contracts with the ERC20 interface:
how a transfer ends, and what a token calls before that, is part of the call that reaches it. -/

namespace OverSync.MainnetHTLC

open Function Library

abbrev Address := ℕ

def zeroAddress : Address := 0

inductive OrderStatus where
  | created
  | claimed
  | refunded
  deriving DecidableEq, Repr

/-- `Digest` stands for `bytes32`. -/
structure Order (Digest : Type) where
  sender : Address
  token : Address
  amount : ℕ
  hashLock : Digest
  timelock : ℕ
  beneficiary : Address
  refundAddress : Address
  status : OrderStatus
  createdAt : ℕ
  deriving DecidableEq

def minTimelock : ℕ := 5 * 60
def maxTimelock : ℕ := 24 * 60 * 60

/-- The deployment and the hashes it computes. The id of an order is
`keccak256(abi.encodePacked(sender, nextOrderId, timestamp))`; different counters give
different ids. -/
structure Deployment (Digest : Type) where
  self : Address
  resolverRegistry : Address
  /-- `bytes32(0)` -/
  zero : Digest
  sha256 : Bytes → Digest
  keccak256 : Bytes → Digest
  orderId : Address → ℕ → ℕ → Digest
  orderId_ne : ∀ {sender n timestamp sender' n' timestamp'}, n ≠ n' →
    orderId sender n timestamp ≠ orderId sender' n' timestamp'

variable {Digest : Type}

/-- The value of an unset mapping entry. -/
def Order.unset (C : Deployment Digest) : Order Digest where
  sender := zeroAddress
  token := zeroAddress
  amount := 0
  hashLock := C.zero
  timelock := 0
  beneficiary := zeroAddress
  refundAddress := zeroAddress
  status := .created
  createdAt := 0

/-- What the contract paid for an order; the zero token is ETH. -/
structure Payment (Digest : Type) where
  orderId : Digest
  token : Address
  recipient : Address
  amount : ℕ
  deriving DecidableEq

/-- Storage of the contract together with its balance of every token and the payments it has
made. `entered` is the status of the reentrancy guard. -/
structure State (Digest : Type) where
  orders : Digest → Order Digest
  userOrders : Address → List Digest
  nextOrderId : ℕ
  entered : Bool
  balance : Address → ℕ
  payments : List (Payment Digest)

/-- Just after construction. -/
def State.deployed (C : Deployment Digest) : State Digest where
  orders := fun _ => .unset C
  userOrders := fun _ => []
  nextOrderId := 1
  entered := false
  balance := fun _ => 0
  payments := []

inductive Error where
  /-- `require(_, text)` -/
  | message (text : String)
  /-- `ReentrancyGuard` -/
  | reentrancyGuardReentrantCall
  /-- checked arithmetic -/
  | arithmeticPanic
  /-- a call to the resolver registry -/
  | registryReverted
  /-- a token that reverts -/
  | tokenReverted
  /-- `payable(_).transfer(_)` -/
  | transferFailed
  deriving DecidableEq, Repr

inductive Event (Digest : Type) where
  | orderCreated (orderId : Digest) (sender beneficiary token : Address) (amount : ℕ)
      (hashLock : Digest) (timelock : ℕ)
  | orderClaimed (orderId : Digest) (claimer : Address) (secret : Bytes)
  | orderRefunded (orderId : Digest) (refundReceiver : Address)
  /-- `receive` emits nothing. -/
  | received
  deriving DecidableEq

/-- How a transfer of a token ends: everything moved and `true`, nothing moved and `false`, or
a revert. -/
inductive Answer where
  | moved
  | refused
  | reverted
  deriving DecidableEq, Repr

structure CreateOrderArgs (Digest : Type) where
  token : Address
  amount : ℕ
  hashLock : Digest
  timelock : ℕ
  beneficiary : Address
  refundAddress : Address

/-- An external call into the contract. The pair is what the token of the order does when it is
asked to move: the calls it has made back into the contract, and its answer. For an order in
ETH it is the recipient who accepts or reverts. -/
inductive Call (Digest : Type) where
  | createOrder (sender : Address) (value : ℕ) (args : CreateOrderArgs Digest)
      (token : List (Call Digest) × Answer)
  /-- `claimOrder(bytes32,bytes32)` -/
  | claimOrder (sender : Address) (orderId : Digest) (secret : { bytes : Bytes // bytes.length = 32 })
      (token : List (Call Digest) × Answer)
  /-- `claimOrder(bytes32,bytes)` -/
  | claimOrderBytes (sender : Address) (orderId : Digest) (preimage : Bytes)
      (token : List (Call Digest) × Answer)
  | refundOrder (sender : Address) (orderId : Digest) (token : List (Call Digest) × Answer)
  | receive (sender : Address) (value : ℕ)

/-- The block a call runs in. `isActive` is the answer of the resolver registry, `none` when
the registry itself reverts. -/
structure Env where
  timestamp : ℕ
  isActive : Address → Option Bool

/-- What a token has done by its calls back into the contract. -/
abbrev Callee (Digest : Type) := State Digest → State Digest

/-- `a + b` -/
def checkedAdd : ℕ → ℕ → Except Error ℕ :=
  addBelow (2 ^ 256) .arithmeticPanic

/-- `amount` of a token comes in. -/
def State.credit (s : State Digest) (token : Address) (amount : ℕ) : State Digest :=
  { s with balance := update s.balance token (s.balance token + amount) }

/-- `amount` of a token goes out for an order; what goes to the contract itself stays. -/
def State.pay (C : Deployment Digest) (s : State Digest) (payment : Payment Digest) :
    State Digest :=
  { s with
    balance :=
      if payment.recipient = C.self then s.balance
      else update s.balance payment.token (s.balance payment.token - payment.amount)
    payments := s.payments ++ [payment] }

/-- `IERC20(token).transferFrom(msg.sender, address(this), amount)`: what it returns is
dropped. The contract is never the sender itself. -/
def transferFrom (token : Address) (amount : ℕ) (callee : Callee Digest) (answer : Answer)
    (s : State Digest) : Except Error (State Digest) :=
  match answer with
  | .moved => .ok (callee (s.credit token amount))
  | .refused => .ok (callee s)
  | .reverted => .error .tokenReverted

/-- `IERC20(token).transfer(recipient, amount)`: what it returns is dropped. -/
def transfer (C : Deployment Digest) (payment : Payment Digest) (callee : Callee Digest)
    (answer : Answer) (s : State Digest) : Except Error (State Digest) :=
  match answer with
  | .moved => do
      require (payment.amount ≤ s.balance payment.token) .tokenReverted
      return callee (s.pay C payment)
  | .refused => .ok (callee s)
  | .reverted => .error .tokenReverted

/-- `payable(recipient).transfer(amount)`: the stipend is too small to call back. -/
def transferETH (C : Deployment Digest) (payment : Payment Digest) (answer : Answer)
    (s : State Digest) : Except Error (State Digest) := do
  require (payment.amount ≤ s.balance zeroAddress) .transferFailed
  require (answer = .moved) .transferFailed
  return s.pay C payment

/-- The registry gate of `createOrder`. -/
def requireActive (C : Deployment Digest) (env : Env) (sender : Address) : Except Error Unit :=
  if C.resolverRegistry ≠ zeroAddress then
    match env.isActive sender with
    | some active => require (active = true) (.message "Resolver not authorised")
    | none => .error .registryReverted
  else .ok ()

/-- The funding step of `createOrder`. -/
def deposit (value : ℕ) (args : CreateOrderArgs Digest) (callee : Callee Digest)
    (answer : Answer) (s : State Digest) : Except Error (State Digest) :=
  if args.token = zeroAddress then do
    require (value = args.amount) (.message "ETH amount mismatch")
    return s.credit zeroAddress value
  else do
    require (value = 0) (.message "No ETH for ERC20 orders")
    transferFrom args.token args.amount callee answer s

/-- The order `createOrder` stores. -/
def CreateOrderArgs.order (args : CreateOrderArgs Digest) (sender : Address) (timestamp : ℕ) :
    Order Digest where
  sender := sender
  token := args.token
  amount := args.amount
  hashLock := args.hashLock
  timelock := args.timelock
  beneficiary := args.beneficiary
  refundAddress := args.refundAddress
  status := .created
  createdAt := timestamp

def createOrder [DecidableEq Digest] (C : Deployment Digest) (env : Env) (sender : Address)
    (value : ℕ) (args : CreateOrderArgs Digest) (callee : Callee Digest) (answer : Answer)
    (s : State Digest) : Except Error (State Digest × Event Digest) := do
  require (s.entered = false) .reentrancyGuardReentrantCall
  let s := { s with entered := true }
  require (0 < args.amount) (.message "Amount must be > 0")
  require (args.hashLock ≠ C.zero) (.message "Invalid hash lock")
  let earliest ← checkedAdd env.timestamp minTimelock
  require (earliest ≤ args.timelock) (.message "Timelock too early")
  let latest ← checkedAdd env.timestamp maxTimelock
  require (args.timelock ≤ latest) (.message "Timelock too late")
  require (args.beneficiary ≠ zeroAddress) (.message "Invalid beneficiary")
  require (args.refundAddress ≠ zeroAddress) (.message "Invalid refund address")
  requireActive C env sender
  let orderId := C.orderId sender s.nextOrderId env.timestamp
  let next ← checkedAdd s.nextOrderId 1
  let s ← deposit value args callee answer { s with nextOrderId := next }
  return ({ s with
      orders := update s.orders orderId (args.order sender env.timestamp)
      userOrders := update s.userOrders sender (s.userOrders sender ++ [orderId])
      entered := false },
    .orderCreated orderId sender args.beneficiary args.token args.amount args.hashLock
      args.timelock)

/-- The transfer of a settlement: the amount of the order to `recipient`. -/
def settle (C : Deployment Digest) (orderId : Digest) (order : Order Digest)
    (recipient : Address) (callee : Callee Digest) (answer : Answer) (s : State Digest) :
    Except Error (State Digest) :=
  if order.token = zeroAddress then
    transferETH C ⟨orderId, order.token, recipient, order.amount⟩ answer s
  else transfer C ⟨orderId, order.token, recipient, order.amount⟩ callee answer s

/-- `_claimOrder`, with the guard of the two functions that call it. -/
def claimOrder [DecidableEq Digest] (C : Deployment Digest) (env : Env) (sender : Address)
    (orderId : Digest) (preimage eventSecret : Bytes) (callee : Callee Digest)
    (answer : Answer) (s : State Digest) : Except Error (State Digest × Event Digest) := do
  require (s.entered = false) .reentrancyGuardReentrantCall
  let s := { s with entered := true }
  let order := s.orders orderId
  require (order.sender ≠ zeroAddress) (.message "Order not found")
  require (order.status = .created) (.message "Order not claimable")
  require (env.timestamp ≤ order.timelock) (.message "Order expired")
  require (C.sha256 preimage = order.hashLock ∨ C.keccak256 preimage = order.hashLock)
    (.message "Invalid secret")
  let s := { s with orders := update s.orders orderId { order with status := .claimed } }
  let s ← settle C orderId order order.beneficiary callee answer s
  return ({ s with entered := false }, .orderClaimed orderId sender eventSecret)

/-- The word at the start of a preimage in canonical calldata. -/
def eventSecret (preimage : Bytes) : Bytes :=
  preimage.take 32 ++ List.replicate (32 - preimage.length) 0

def refundOrder [DecidableEq Digest] (C : Deployment Digest) (env : Env) (orderId : Digest)
    (callee : Callee Digest) (answer : Answer) (s : State Digest) :
    Except Error (State Digest × Event Digest) := do
  require (s.entered = false) .reentrancyGuardReentrantCall
  let s := { s with entered := true }
  let order := s.orders orderId
  require (order.sender ≠ zeroAddress) (.message "Order not found")
  require (order.status = .created) (.message "Order not refundable")
  require (order.timelock < env.timestamp) (.message "Order not expired")
  let s := { s with orders := update s.orders orderId { order with status := .refunded } }
  let s ← settle C orderId order order.refundAddress callee answer s
  return ({ s with entered := false }, .orderRefunded orderId order.refundAddress)

mutual

/-- One external call, with everything the token calls before it answers. -/
def exec [DecidableEq Digest] (C : Deployment Digest) (env : Env) :
    Call Digest → State Digest → Except Error (State Digest × Event Digest)
  | .createOrder sender value args (calls, answer), s =>
      createOrder C env sender value args (execAll C env calls) answer s
  | .claimOrder sender orderId secret (calls, answer), s =>
      claimOrder C env sender orderId secret.1 secret.1 (execAll C env calls) answer s
  | .claimOrderBytes sender orderId preimage (calls, answer), s =>
      claimOrder C env sender orderId preimage (eventSecret preimage) (execAll C env calls)
        answer s
  | .refundOrder _ orderId (calls, answer), s =>
      refundOrder C env orderId (execAll C env calls) answer s
  | .receive _ value, s => .ok (s.credit zeroAddress value, .received)

/-- Calls in a row; one that reverts leaves the state as it was. -/
def execAll [DecidableEq Digest] (C : Deployment Digest) (env : Env) :
    List (Call Digest) → State Digest → State Digest
  | [], s => s
  | call :: calls, s =>
      match exec C env call s with
      | .ok (s', _) => execAll C env calls s'
      | .error _ => execAll C env calls s

end

/-- What happens around the contract: a call into it, or tokens sent to it from outside. -/
inductive Transaction (Digest : Type) where
  | call (env : Env) (call : Call Digest)
  | donation (token : Address) (amount : ℕ)

/-- The state after a transaction; one that reverts changes nothing. -/
def run [DecidableEq Digest] (C : Deployment Digest) (tx : Transaction Digest)
    (s : State Digest) : State Digest :=
  match tx with
  | .call env call =>
      match exec C env call s with
      | .ok (s', _) => s'
      | .error _ => s
  | .donation token amount => s.credit token amount

/-! ## The backing -/

/-- An order of `token` in status `Created`; an unset entry has no amount. -/
def State.IsOpen (s : State Digest) (token : Address) (orderId : Digest) : Prop :=
  (s.orders orderId).amount ≠ 0 ∧ (s.orders orderId).status = .created ∧
    (s.orders orderId).token = token

/-- Who is paid for the order as it stands. -/
def Order.payee (order : Order Digest) : Address :=
  match order.status with
  | .refunded => order.refundAddress
  | _ => order.beneficiary

/-- The contract holds what its open orders lock, and has paid the settled ones. -/
structure State.Backed (s : State Digest) : Prop where
  covered : ∀ token,
    Covers (s.IsOpen token) (fun orderId => (s.orders orderId).amount) (s.balance token)
  paid : ∀ orderId, (s.orders orderId).status ≠ .created →
    ⟨orderId, (s.orders orderId).token, (s.orders orderId).payee, (s.orders orderId).amount⟩ ∈
      s.payments

end OverSync.MainnetHTLC
