import OverSync.Library.Execution
import OverSync.Library.Guard
import Mathlib.Algebra.GroupWithZero.Nat
import Mathlib.Data.Nat.Notation
import Mathlib.Logic.Function.Basic

/-! # The escrow factory `EscrowFactory`

Storage and ETH of the contract. The token of an escrow is any contract; it may call back into
the factory before it answers, and these calls are part of the call that reaches it. -/

namespace OverSync.EscrowFactory

open Function Library

abbrev Address := ℕ

def zeroAddress : Address := 0

inductive EscrowStatus where
  | created
  | funded
  | claimed
  | refunded
  | expired
  | cancelled
  deriving DecidableEq, Repr

/-- `Digest` stands for `bytes32`. -/
structure EscrowConfig (Digest : Type) where
  token : Address
  amount : ℕ
  hashLock : Digest
  timelock : ℕ
  beneficiary : Address
  refundAddress : Address
  safetyDeposit : ℕ
  chainId : ℕ
  stellarTxHash : Digest
  isPartialFillEnabled : Bool
  deriving DecidableEq

structure EscrowState (Digest : Type) where
  escrowAddress : Address
  config : EscrowConfig Digest
  status : EscrowStatus
  createdAt : ℕ
  filledAmount : ℕ
  safetyDepositPaid : ℕ
  resolver : Address
  isActive : Bool
  deriving DecidableEq

def minSafetyDeposit : ℕ := 10 ^ 16
def maxSafetyDeposit : ℕ := 10 ^ 19
def minTimelock : ℕ := 3600
def maxTimelock : ℕ := 2592000

/-- What lies outside the contract: its address, the hashes of packed words, and where
`Create2` puts a contract, `none` when the deployment fails. -/
structure Environment (Digest : Type) where
  self : Address
  /-- `bytes32(0)` -/
  zero : Digest
  /-- `keccak256(abi.encodePacked(preimage))` -/
  keccakPreimage : Digest → Digest
  /-- `keccak256(abi.encodePacked(escrowId, hashLock))` -/
  keccakSalt : ℕ → Digest → Digest
  create2 : Digest → EscrowConfig Digest → Option Address

variable {Digest : Type}

/-- The value of an unset mapping entry. -/
def EscrowState.unset (E : Environment Digest) : EscrowState Digest where
  escrowAddress := zeroAddress
  config := {
    token := zeroAddress
    amount := 0
    hashLock := E.zero
    timelock := 0
    beneficiary := zeroAddress
    refundAddress := zeroAddress
    safetyDeposit := 0
    chainId := 0
    stellarTxHash := E.zero
    isPartialFillEnabled := false }
  status := .created
  createdAt := 0
  filledAmount := 0
  safetyDepositPaid := 0
  resolver := zeroAddress
  isActive := false

/-- ETH that came in with an escrow or went out for it. -/
inductive Flow where
  | received (escrowId amount : ℕ)
  | paid (escrowId : ℕ) (recipient : Address) (amount : ℕ)
  deriving DecidableEq, Repr

/-- Storage of the contract together with its ETH: the balance, and all flows so far. `owner`
belongs to `Ownable` and `entered` is the status of the reentrancy guard. -/
structure State (Digest : Type) where
  owner : Address
  entered : Bool
  escrowCounter : ℕ
  escrows : ℕ → EscrowState Digest
  escrowAddressToId : Address → ℕ
  hashLockToEscrowId : Digest → ℕ
  resolverEscrows : Address → List ℕ
  chainEscrowCount : ℕ → ℕ
  totalSafetyDeposits : ℕ
  totalEscrows : ℕ
  ethBalance : ℕ
  flows : List Flow

/-- Just after construction by `owner`. -/
def State.deployed (E : Environment Digest) (owner : Address) : State Digest where
  owner := owner
  entered := false
  escrowCounter := 1
  escrows := fun _ => .unset E
  escrowAddressToId := fun _ => 0
  hashLockToEscrowId := fun _ => 0
  resolverEscrows := fun _ => []
  chainEscrowCount := fun _ => 0
  totalSafetyDeposits := 0
  totalEscrows := 0
  ethBalance := 0
  flows := []

inductive Error where
  /-- `require(_, text)` -/
  | message (text : String)
  /-- `ReentrancyGuard` -/
  | reentrancyGuardReentrantCall
  /-- `Ownable` -/
  | ownableUnauthorizedAccount
  /-- `Create2` -/
  | failedDeployment
  /-- checked arithmetic -/
  | arithmeticPanic
  /-- a call to an address without code, or a token that reverts -/
  | tokenReverted
  /-- `payable(_).transfer(_)` -/
  | transferFailed
  deriving DecidableEq, Repr

inductive Event (Digest : Type) where
  | escrowCreated (escrowId : ℕ) (escrowAddress resolver token : Address) (amount : ℕ)
      (hashLock : Digest) (timelock safetyDeposit chainId : ℕ)
  | escrowFunded (escrowId : ℕ) (funder : Address) (amount safetyDeposit : ℕ)
  | escrowClaimed (escrowId : ℕ) (claimer : Address) (amount : ℕ) (preimage : Digest)
  | escrowRefunded (escrowId : ℕ) (refundee : Address) (amount safetyDeposit : ℕ)
  | safetyDepositSlashed (escrowId : ℕ) (resolver : Address) (amount : ℕ) (reason : String)
  deriving DecidableEq

/-- How `transferFrom` of a token ends. -/
inductive TokenAnswer where
  | returned (moved : Bool)
  | reverted
  deriving DecidableEq, Repr

/-- An external call into the contract. `token` is what the token of the escrow does when it is
asked to move: the calls it has made back into the factory, and its answer. -/
inductive Call (Digest : Type) where
  | createEscrow (sender : Address) (value : ℕ) (config : EscrowConfig Digest)
  | fundEscrow (sender : Address) (escrowId : ℕ) (token : List (Call Digest) × TokenAnswer)
  | claimEscrow (sender : Address) (escrowId : ℕ) (preimage : Digest)
      (token : List (Call Digest) × TokenAnswer)
  | refundEscrow (sender : Address) (escrowId : ℕ)
      (token : List (Call Digest) × TokenAnswer)
  | slashSafetyDeposit (sender : Address) (escrowId : ℕ) (reason : String)

/-- A token as seen by the factory: control is handed over in one state and comes back in
another, with an answer. -/
abbrev Callee (Digest : Type) := State Digest → State Digest × TokenAnswer

/-- `a + b` -/
def checkedAdd : ℕ → ℕ → Except Error ℕ :=
  addBelow (2 ^ 256) .arithmeticPanic

/-- The storage reference `escrows[escrowId]` is written through `f`. -/
def State.setEscrow (s : State Digest) (escrowId : ℕ)
    (f : EscrowState Digest → EscrowState Digest) : State Digest :=
  { s with escrows := update s.escrows escrowId (f (s.escrows escrowId)) }

/-- `require(token.transferFrom(..), "Token transfer failed")` -/
def transferFrom (token : Address) (callee : Callee Digest) (s : State Digest) :
    Except Error (State Digest) := do
  require (token ≠ zeroAddress) .tokenReverted
  match callee s with
  | (s, .returned moved) => do
      require (moved = true) (.message "Token transfer failed")
      return s
  | (_, .reverted) => .error .tokenReverted

/-- `payable(recipient).transfer(amount)` for an escrow. The factory itself takes no ETH
without a call, and the stipend is too small for the recipient to call back. -/
def pay (E : Environment Digest) (escrowId : ℕ) (recipient : Address) (amount : ℕ)
    (s : State Digest) : Except Error (State Digest) := do
  require (amount ≤ s.ethBalance ∧ recipient ≠ E.self) .transferFailed
  return { s with
    ethBalance := s.ethBalance - amount
    flows := s.flows ++ [.paid escrowId recipient amount] }

/-- `_deployEscrow` -/
def deployEscrow (E : Environment Digest) (salt : Digest) (config : EscrowConfig Digest) :
    Except Error Address :=
  match E.create2 salt config with
  | some escrowAddress => .ok escrowAddress
  | none => .error .failedDeployment

/-- The escrow `createEscrow` stores. -/
def EscrowConfig.escrow (config : EscrowConfig Digest) (escrowAddress sender : Address)
    (value timestamp : ℕ) : EscrowState Digest where
  escrowAddress := escrowAddress
  config := config
  status := .created
  createdAt := timestamp
  filledAmount := 0
  safetyDepositPaid := value
  resolver := sender
  isActive := true

def createEscrow [DecidableEq Digest] (E : Environment Digest) (timestamp : ℕ)
    (sender : Address) (value : ℕ) (config : EscrowConfig Digest) (s : State Digest) :
    Except Error (State Digest × Event Digest) := do
  require (s.entered = false) .reentrancyGuardReentrantCall
  let s := { s with ethBalance := s.ethBalance + value }
  require (0 < config.amount) (.message "Amount must be > 0")
  require (config.hashLock ≠ E.zero) (.message "Invalid hash lock")
  let earliest ← checkedAdd timestamp minTimelock
  require (earliest < config.timelock) (.message "Timelock too early")
  let latest ← checkedAdd timestamp maxTimelock
  require (config.timelock ≤ latest) (.message "Timelock too late")
  require (config.beneficiary ≠ zeroAddress) (.message "Invalid beneficiary")
  require (config.refundAddress ≠ zeroAddress) (.message "Invalid refund address")
  require (minSafetyDeposit ≤ config.safetyDeposit) (.message "Safety deposit too low")
  require (config.safetyDeposit ≤ maxSafetyDeposit) (.message "Safety deposit too high")
  require (config.safetyDeposit ≤ value) (.message "Insufficient safety deposit")
  require (s.hashLockToEscrowId config.hashLock = 0) (.message "Hash lock already used")
  let escrowId := s.escrowCounter
  let counter ← checkedAdd s.escrowCounter 1
  let escrowAddress ← deployEscrow E (E.keccakSalt escrowId config.hashLock) config
  let count ← checkedAdd (s.chainEscrowCount config.chainId) 1
  let escrows ← checkedAdd s.totalEscrows 1
  let deposits ← checkedAdd s.totalSafetyDeposits value
  return ({ s with
      escrowCounter := counter
      escrows := update s.escrows escrowId (config.escrow escrowAddress sender value timestamp)
      escrowAddressToId := update s.escrowAddressToId escrowAddress escrowId
      hashLockToEscrowId := update s.hashLockToEscrowId config.hashLock escrowId
      resolverEscrows := update s.resolverEscrows sender (s.resolverEscrows sender ++ [escrowId])
      chainEscrowCount := update s.chainEscrowCount config.chainId count
      totalEscrows := escrows
      totalSafetyDeposits := deposits
      flows := s.flows ++ [.received escrowId value] },
    .escrowCreated escrowId escrowAddress sender config.token config.amount config.hashLock
      config.timelock config.safetyDeposit config.chainId)

def fundEscrow (timestamp : ℕ) (sender : Address) (escrowId : ℕ) (callee : Callee Digest)
    (s : State Digest) : Except Error (State Digest × Event Digest) := do
  require (s.entered = false) .reentrancyGuardReentrantCall
  let s := { s with entered := true }
  let escrow := s.escrows escrowId
  require escrow.isActive (.message "Escrow not active")
  require (escrow.status = .created) (.message "Escrow already funded")
  require (timestamp ≤ escrow.config.timelock) (.message "Escrow expired")
  let s ← transferFrom escrow.config.token callee s
  let s := s.setEscrow escrowId fun escrow => { escrow with status := .funded }
  let escrow := s.escrows escrowId
  return ({ s with entered := false },
    .escrowFunded escrowId sender escrow.config.amount escrow.safetyDepositPaid)

def claimEscrow [DecidableEq Digest] (E : Environment Digest) (timestamp : ℕ)
    (sender : Address) (escrowId : ℕ) (preimage : Digest) (callee : Callee Digest)
    (s : State Digest) : Except Error (State Digest × Event Digest) := do
  require (s.entered = false) .reentrancyGuardReentrantCall
  let s := { s with entered := true }
  let escrow := s.escrows escrowId
  require escrow.isActive (.message "Escrow not active")
  require (escrow.status = .funded) (.message "Escrow not funded")
  require (timestamp ≤ escrow.config.timelock) (.message "Escrow expired")
  require (E.keccakPreimage preimage = escrow.config.hashLock) (.message "Invalid preimage")
  require (sender = escrow.config.beneficiary) (.message "Not authorized claimer")
  let s := s.setEscrow escrowId fun escrow =>
    { escrow with status := .claimed, filledAmount := escrow.config.amount }
  let s ← transferFrom escrow.config.token callee s
  -- `escrow` is a storage reference: the deposit is read after the transfer
  let escrow := s.escrows escrowId
  let s ← pay E escrowId escrow.resolver escrow.safetyDepositPaid s
  return ({ s with entered := false },
    .escrowClaimed escrowId sender escrow.config.amount preimage)

def refundEscrow (E : Environment Digest) (timestamp : ℕ) (escrowId : ℕ)
    (callee : Callee Digest) (s : State Digest) :
    Except Error (State Digest × Event Digest) := do
  require (s.entered = false) .reentrancyGuardReentrantCall
  let s := { s with entered := true }
  let escrow := s.escrows escrowId
  require escrow.isActive (.message "Escrow not active")
  require (escrow.status = .funded) (.message "Escrow not funded")
  require (escrow.config.timelock < timestamp) (.message "Escrow not expired")
  let s := s.setEscrow escrowId fun escrow => { escrow with status := .refunded }
  let s ← transferFrom escrow.config.token callee s
  -- as in `claimEscrow`
  let escrow := s.escrows escrowId
  let s ← pay E escrowId escrow.resolver escrow.safetyDepositPaid s
  return ({ s with entered := false },
    .escrowRefunded escrowId escrow.config.refundAddress escrow.config.amount
      escrow.safetyDepositPaid)

/-- `slashSafetyDeposit` has no reentrancy guard. -/
def slashSafetyDeposit (E : Environment Digest) (sender : Address) (escrowId : ℕ)
    (reason : String) (s : State Digest) : Except Error (State Digest × Event Digest) := do
  require (sender = s.owner) .ownableUnauthorizedAccount
  let escrow := s.escrows escrowId
  require escrow.isActive (.message "Escrow not active")
  require (0 < escrow.safetyDepositPaid) (.message "No safety deposit")
  let slashAmount := escrow.safetyDepositPaid
  let s := s.setEscrow escrowId fun escrow => { escrow with safetyDepositPaid := 0 }
  let s ← pay E escrowId s.owner slashAmount s
  return (s, .safetyDepositSlashed escrowId escrow.resolver slashAmount reason)

mutual

/-- One external call, with everything the token does before it answers. -/
def exec [DecidableEq Digest] (E : Environment Digest) (timestamp : ℕ) :
    Call Digest → State Digest → Except Error (State Digest × Event Digest)
  | .createEscrow sender value config, s => createEscrow E timestamp sender value config s
  | .fundEscrow sender escrowId (calls, answer), s =>
      fundEscrow timestamp sender escrowId
        (fun s => (execAll E timestamp calls s, answer)) s
  | .claimEscrow sender escrowId preimage (calls, answer), s =>
      claimEscrow E timestamp sender escrowId preimage
        (fun s => (execAll E timestamp calls s, answer)) s
  | .refundEscrow _ escrowId (calls, answer), s =>
      refundEscrow E timestamp escrowId
        (fun s => (execAll E timestamp calls s, answer)) s
  | .slashSafetyDeposit sender escrowId reason, s =>
      slashSafetyDeposit E sender escrowId reason s

/-- Calls in a row; one that reverts leaves the state as it was. -/
def execAll [DecidableEq Digest] (E : Environment Digest) (timestamp : ℕ) :
    List (Call Digest) → State Digest → State Digest
  | [], s => s
  | call :: calls, s =>
      match exec E timestamp call s with
      | .ok (s', _) => execAll E timestamp calls s'
      | .error _ => execAll E timestamp calls s

end

/-- A call with the time of its block. -/
structure Transaction (Digest : Type) where
  timestamp : ℕ
  call : Call Digest

/-- The state after a transaction; one that reverts changes nothing. -/
def run [DecidableEq Digest] (E : Environment Digest) (tx : Transaction Digest)
    (s : State Digest) : State Digest :=
  match exec E tx.timestamp tx.call s with
  | .ok (s', _) => s'
  | .error _ => s

/-! ## The views -/

def getEscrow (s : State Digest) (escrowId : ℕ) : EscrowState Digest :=
  s.escrows escrowId

def getResolverEscrows (s : State Digest) (resolver : Address) : List ℕ :=
  s.resolverEscrows resolver

def getChainEscrowCount (s : State Digest) (chainId : ℕ) : ℕ :=
  s.chainEscrowCount chainId

/-! ## The deposits -/

/-- The ETH that came in with an escrow. -/
def State.deposit (s : State Digest) (escrowId : ℕ) : ℕ :=
  (s.flows.map fun
    | .received i amount => if i = escrowId then amount else 0
    | .paid _ _ _ => 0).sum

/-- The payments of ETH for an escrow that moved something. -/
def State.payouts (s : State Digest) (escrowId : ℕ) : List ℕ :=
  s.flows.filterMap fun
    | .received _ _ => none
    | .paid i _ amount => if i = escrowId ∧ 0 < amount then some amount else none

/-- The escrows whose deposit has not been paid out. -/
def State.unpaid (s : State Digest) : List ℕ :=
  (List.range' 1 (s.escrowCounter - 1)).filter fun escrowId => s.payouts escrowId = []

/-- Every deposit is paid out at most once, and the balance covers the others. -/
structure State.DepositsBacked (s : State Digest) : Prop where
  once : ∀ escrowId, s.payouts escrowId = [] ∨ s.payouts escrowId = [s.deposit escrowId]
  covered : (s.unpaid.map fun escrowId => (s.escrows escrowId).safetyDepositPaid).sum ≤
    s.ethBalance

end OverSync.EscrowFactory
