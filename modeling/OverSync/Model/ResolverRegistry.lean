import OverSync.Library.Guard
import Mathlib.Algebra.GroupWithZero.Nat
import Mathlib.Data.Nat.Notation
import Mathlib.Logic.Function.Basic

/-! # The Ethereum resolver registry `ResolverRegistry`

Storage and stake balance of the contract. The stake token may call back into the registry
before a transfer returns; what it does is part of the call that reaches it. -/

namespace OverSync.ResolverRegistry

open Function Library

abbrev Address := ℕ

def zeroAddress : Address := 0

/-- `uint64(x)`: the explicit conversion truncates. -/
def uint64 (x : ℕ) : ℕ := x % 2 ^ 64

structure ResolverInfo where
  resolver : Address
  stake : ℕ
  registeredAt : ℕ
  lastSlashAt : ℕ
  totalSlashed : ℕ
  active : Bool
  deriving DecidableEq, Repr

/-- The value of an unset mapping entry. -/
def ResolverInfo.unset : ResolverInfo where
  resolver := zeroAddress
  stake := 0
  registeredAt := 0
  lastSlashAt := 0
  totalSlashed := 0
  active := false

/-- Storage of the contract together with its balance of the stake asset. `owner` belongs to
`Ownable2Step` and `entered` is the status of the reentrancy guard. -/
structure State where
  owner : Address
  minStake : ℕ
  slashBeneficiary : Address
  resolvers : Address → ResolverInfo
  resolverList : List Address
  /-- 1-based -/
  resolverIndex : Address → ℕ
  entered : Bool
  balance : ℕ

inductive Error where
  | invalidAmount
  | invalidAddress
  | alreadyRegistered
  | notRegistered
  | stakeBelowMinimum
  /-- `ReentrancyGuard` -/
  | reentrancyGuardReentrantCall
  /-- `Ownable` -/
  | ownableUnauthorizedAccount
  /-- `SafeERC20` -/
  | safeERC20FailedOperation
  /-- checked arithmetic -/
  | arithmeticPanic
  /-- an array access out of bounds -/
  | indexPanic
  deriving DecidableEq, Repr

inductive Event where
  | registered (resolver : Address) (stake : ℕ)
  | stakeIncreased (resolver : Address) (added newTotal : ℕ)
  | unregistered (resolver : Address) (stakeReturned : ℕ)
  | slashed (resolver : Address) (amount : ℕ) (beneficiary : Address)
  | minStakeUpdated (oldMinStake newMinStake : ℕ)
  | slashBeneficiaryUpdated (oldBeneficiary newBeneficiary : Address)
  deriving DecidableEq, Repr

/-- An external call into the contract. `token` is what the stake token does when it is asked
to move stake: the calls it makes back into the registry, and whether the transfer goes
through. -/
inductive Call where
  | register (sender : Address) (stake : ℕ) (token : List Call × Bool)
  | increaseStake (sender : Address) (additional : ℕ) (token : List Call × Bool)
  | unregister (sender : Address) (token : List Call × Bool)
  | slash (sender resolver : Address) (amount : ℕ) (token : List Call × Bool)
  | setMinStake (sender : Address) (newMinStake : ℕ)
  | setSlashBeneficiary (sender newBeneficiary : Address)

/-- `msg.sender` -/
def Call.sender : Call → Address
  | .register sender _ _ => sender
  | .increaseStake sender _ _ => sender
  | .unregister sender _ => sender
  | .slash sender _ _ _ => sender
  | .setMinStake sender _ => sender
  | .setSlashBeneficiary sender _ => sender

/-- The stake token as seen by the registry: control is handed over in one state and comes
back in another, with success or failure. -/
abbrev Callee := State → State × Bool

/-- The constructor. -/
def construct (stakeAsset : Address) (minStake : ℕ) (slashBeneficiary owner : Address) :
    Except Error State := do
  require (stakeAsset ≠ zeroAddress ∧ slashBeneficiary ≠ zeroAddress ∧ owner ≠ zeroAddress)
    .invalidAddress
  return {
    owner := owner
    minStake := minStake
    slashBeneficiary := slashBeneficiary
    resolvers := fun _ => .unset
    resolverList := []
    resolverIndex := fun _ => 0
    entered := false
    balance := 0 }

/-- `stakeAsset.safeTransferFrom(msg.sender, address(this), amount)` -/
def safeTransferFrom (amount : ℕ) (token : Callee) (s : State) : Except Error State := do
  let (s, ok) := token { s with balance := s.balance + amount }
  require (ok = true) .safeERC20FailedOperation
  return s

/-- `stakeAsset.safeTransfer(recipient, amount)`; to the registry itself it moves nothing. -/
def safeTransfer (self recipient : Address) (amount : ℕ) (token : Callee) (s : State) :
    Except Error State := do
  require (amount ≤ s.balance) .safeERC20FailedOperation
  let (s, ok) := token
    (if recipient = self then s else { s with balance := s.balance - amount })
  require (ok = true) .safeERC20FailedOperation
  return s

/-- The element at `last` is written to position `i`. -/
def moveLast (i last : ℕ) (s : State) : Except Error State :=
  match s.resolverList[last]? with
  | none => .error .indexPanic
  | some swap => do
      require (i < s.resolverList.length) .indexPanic
      return { s with
        resolverList := s.resolverList.set i swap
        resolverIndex := update s.resolverIndex swap (i + 1) }

/-- `_removeFromList`: the last element takes the place of the one removed. -/
def removeFromList (resolver : Address) (idx : ℕ) (s : State) : Except Error State := do
  require (idx ≠ 0) .arithmeticPanic
  let i := idx - 1
  require (s.resolverList.length ≠ 0) .arithmeticPanic
  let last := s.resolverList.length - 1
  let s ← if i ≠ last then moveLast i last s else .ok s
  return { s with
    resolverList := s.resolverList.dropLast
    resolverIndex := update s.resolverIndex resolver 0 }

def register (timestamp : ℕ) (sender : Address) (stake : ℕ) (token : Callee) (s : State) :
    Except Error (State × Event) := do
  require (s.entered = false) .reentrancyGuardReentrantCall
  let s := { s with entered := true }
  require (s.minStake ≤ stake) .stakeBelowMinimum
  require (s.resolverIndex sender = 0) .alreadyRegistered
  let s ← safeTransferFrom stake token s
  let info : ResolverInfo := {
    resolver := sender
    stake := stake
    registeredAt := uint64 timestamp
    lastSlashAt := 0
    totalSlashed := 0
    active := true }
  let list := s.resolverList ++ [sender]
  return ({ s with
      resolvers := update s.resolvers sender info
      resolverList := list
      resolverIndex := update s.resolverIndex sender list.length
      entered := false },
    .registered sender stake)

/-- The record after a top-up, against the minimum of that moment. -/
def ResolverInfo.increased (info : ResolverInfo) (additional minStake : ℕ) : ResolverInfo :=
  { info with
    stake := info.stake + additional
    active := if minStake ≤ info.stake + additional then true else info.active }

def increaseStake (sender : Address) (additional : ℕ) (token : Callee) (s : State) :
    Except Error (State × Event) := do
  require (s.entered = false) .reentrancyGuardReentrantCall
  let s := { s with entered := true }
  require (additional ≠ 0) .invalidAmount
  require (s.resolverIndex sender ≠ 0) .notRegistered
  let s ← safeTransferFrom additional token s
  -- `info` is a storage reference: the record is read after the transfer
  require ((s.resolvers sender).stake + additional < 2 ^ 256) .arithmeticPanic
  let info := (s.resolvers sender).increased additional s.minStake
  return ({ s with
      resolvers := update s.resolvers sender info
      entered := false },
    .stakeIncreased sender additional info.stake)

def unregister (self sender : Address) (token : Callee) (s : State) :
    Except Error (State × Event) := do
  require (s.entered = false) .reentrancyGuardReentrantCall
  let s := { s with entered := true }
  let idx := s.resolverIndex sender
  require (idx ≠ 0) .notRegistered
  let info := s.resolvers sender
  let s := { s with resolvers := update s.resolvers sender .unset }
  let s ← removeFromList sender idx s
  let s ← if 0 < info.stake then safeTransfer self sender info.stake token s else .ok s
  return ({ s with entered := false }, .unregistered sender info.stake)

/-- What a slash takes. -/
def ResolverInfo.take (info : ResolverInfo) (amount : ℕ) : ℕ :=
  if info.stake < amount then info.stake else amount

/-- The record after a slash, against the minimum of that moment. -/
def ResolverInfo.slashed (info : ResolverInfo) (amount minStake timestamp : ℕ) :
    ResolverInfo :=
  let stake := info.stake - info.take amount
  { info with
    stake := stake
    totalSlashed := info.totalSlashed + info.take amount
    lastSlashAt := uint64 timestamp
    active := if stake < minStake then false else info.active }

def slash (timestamp : ℕ) (self sender resolver : Address) (amount : ℕ) (token : Callee)
    (s : State) : Except Error (State × Event) := do
  require (sender = s.owner) .ownableUnauthorizedAccount
  require (s.entered = false) .reentrancyGuardReentrantCall
  let s := { s with entered := true }
  require (amount ≠ 0) .invalidAmount
  require (s.resolverIndex resolver ≠ 0) .notRegistered
  let info := s.resolvers resolver
  let take := info.take amount
  require (info.totalSlashed + take < 2 ^ 256) .arithmeticPanic
  let s := { s with
    resolvers := update s.resolvers resolver (info.slashed amount s.minStake timestamp) }
  let s ← if 0 < take then safeTransfer self s.slashBeneficiary take token s else .ok s
  return ({ s with entered := false }, .slashed resolver take s.slashBeneficiary)

def setMinStake (sender : Address) (newMinStake : ℕ) (s : State) :
    Except Error (State × Event) := do
  require (sender = s.owner) .ownableUnauthorizedAccount
  return ({ s with minStake := newMinStake }, .minStakeUpdated s.minStake newMinStake)

def setSlashBeneficiary (sender newBeneficiary : Address) (s : State) :
    Except Error (State × Event) := do
  require (sender = s.owner) .ownableUnauthorizedAccount
  require (newBeneficiary ≠ zeroAddress) .invalidAddress
  return ({ s with slashBeneficiary := newBeneficiary },
    .slashBeneficiaryUpdated s.slashBeneficiary newBeneficiary)

/-- The view the escrow asks: the flag, and the stake against the minimum of now. -/
def State.isActive (s : State) (resolver : Address) : Bool :=
  (s.resolvers resolver).active && decide (s.minStake ≤ (s.resolvers resolver).stake)

mutual

/-- One external call, with everything the stake token does before it returns. -/
def exec (self : Address) (timestamp : ℕ) : Call → State → Except Error (State × Event)
  | .register sender stake (calls, ok), s =>
      register timestamp sender stake (fun s => (execAll self timestamp calls s, ok)) s
  | .increaseStake sender additional (calls, ok), s =>
      increaseStake sender additional (fun s => (execAll self timestamp calls s, ok)) s
  | .unregister sender (calls, ok), s =>
      unregister self sender (fun s => (execAll self timestamp calls s, ok)) s
  | .slash sender resolver amount (calls, ok), s =>
      slash timestamp self sender resolver amount
        (fun s => (execAll self timestamp calls s, ok)) s
  | .setMinStake sender newMinStake, s => setMinStake sender newMinStake s
  | .setSlashBeneficiary sender newBeneficiary, s =>
      setSlashBeneficiary sender newBeneficiary s

/-- Calls in a row; one that reverts leaves the state as it was. -/
def execAll (self : Address) (timestamp : ℕ) : List Call → State → State
  | [], s => s
  | call :: calls, s =>
      match exec self timestamp call s with
      | .ok (s', _) => execAll self timestamp calls s'
      | .error _ => execAll self timestamp calls s

end

/-- What the chain records: a transaction with its result, stake tokens sent to the registry
from outside, or a new owner. -/
inductive Record where
  | transaction (timestamp : ℕ) (call : Call) (result : Except Error Event)
  | donation (amount : ℕ)
  | ownership (newOwner : Address)

/-- One step of the chain around the registry, which lives at `self`. The registry never calls
itself and nobody calls from the zero address. -/
inductive Step (self : Address) : State → Record → State → Prop where
  | success {s s' timestamp call event} : call.sender ≠ self → call.sender ≠ zeroAddress →
      exec self timestamp call s = .ok (s', event) →
      Step self s (.transaction timestamp call (.ok event)) s'
  | revert {s timestamp call e} : exec self timestamp call s = .error e →
      Step self s (.transaction timestamp call (.error e)) s
  | donation {s : State} {amount} :
      Step self s (.donation amount) { s with balance := s.balance + amount }
  | ownership {s : State} {newOwner} :
      Step self s (.ownership newOwner) { s with owner := newOwner }

end OverSync.ResolverRegistry
