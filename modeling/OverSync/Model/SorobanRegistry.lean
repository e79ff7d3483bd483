import OverSync.Library.Guard
import Mathlib.Algebra.Ring.Int.Defs
import Mathlib.Data.Int.Notation
import Mathlib.Data.Nat.Notation
import Mathlib.Logic.Function.Basic

/-! # The Stellar resolver registry `resolver-registry`

Instance storage, the records of the resolvers and the token balances of the contract. The host
rolls back a panicking call and forbids re-entry. -/

namespace OverSync.SorobanRegistry

open Function Library

/-- Accounts and contracts; token contracts name the assets. -/
abbrev Address := ℕ

/-- The errors of the contract. -/
inductive Error where
  | alreadyInitialised
  | notInitialised
  | unauthorized
  | resolverNotFound
  | stakeBelowMinimum
  | invalidAmount
  | alreadyRegistered
  | overflow
  deriving DecidableEq, Repr

/-- Why a call was rolled back: an error of the contract, a missing authorisation, a checked
arithmetic operation, an `unwrap` of an absent key, a panic in a called contract, or a token
balance that is too small. -/
inductive Failure where
  | contract (e : Error)
  | auth
  | arithmetic
  | unwrap
  | invocation
  | insufficientBalance
  deriving DecidableEq, Repr

structure ResolverInfo where
  address : Address
  stake : ℤ
  registeredAt : ℕ
  lastSlashAt : ℕ
  totalSlashed : ℤ
  active : Bool
  deriving DecidableEq, Repr

/-- Instance storage; an absent key is `none`. -/
structure Instance where
  admin : Option Address
  stakeAsset : Option Address
  minStake : Option ℤ
  slashBeneficiary : Option Address
  resolverList : Option (List Address)
  deriving DecidableEq, Repr

/-- The storage of the contract and the balance it holds of every asset. -/
structure State where
  inst : Instance
  resolvers : Address → Option ResolverInfo
  balance : Address → ℤ

/-- Just after deployment, before `initialize`. -/
def State.deployed : State where
  inst := ⟨none, none, none, none, none⟩
  resolvers := fun _ => none
  balance := fun _ => 0

/-- What a call can see of the ledger. `auth` tells which addresses authorised it. -/
structure Env where
  self : Address
  timestamp : ℕ
  auth : Address → Bool

inductive Event where
  | register (resolver : Address) (stake : ℤ)
  | increase (resolver : Address) (additional : ℤ)
  | unreg (resolver : Address) (stake : ℤ)
  | slashed (resolver : Address) (take : ℤ)
  deriving DecidableEq, Repr

/-- A call of the contract. The booleans tell whether the token contract lets its transfer
through. -/
inductive Call where
  | initialise (admin stakeAsset : Address) (minStake : ℤ) (slashBeneficiary : Address)
  | register (resolver : Address) (stake : ℤ) (pull : Bool)
  | increaseStake (resolver : Address) (additional : ℤ) (pull : Bool)
  | unregister (resolver : Address) (pay : Bool)
  | slash (resolver : Address) (amount : ℤ) (pay : Bool)
  | setMinStake (newMinimum : ℤ)
  | setAdmin (newAdmin : Address)
  | setSlashBeneficiary (newBeneficiary : Address)
  deriving DecidableEq, Repr

/-- `require_auth`: the contract never authorises itself, since nothing re-enters it. -/
def requireAuth (env : Env) (address : Address) : Except Failure Unit :=
  require (address ≠ env.self ∧ env.auth address = true) .auth

def requireInitialised (s : State) : Except Failure Unit :=
  require (s.inst.admin ≠ none) (.contract .notInitialised)

def requireAdmin (env : Env) (s : State) : Except Failure Unit :=
  match s.inst.admin with
  | none => .error (.contract .notInitialised)
  | some admin => requireAuth env admin

/-- `i128::checked_add` -/
def checkedAdd (a b : ℤ) : Except Failure ℤ :=
  if -2 ^ 127 ≤ a + b ∧ a + b < 2 ^ 127 then .ok (a + b) else .error (.contract .overflow)

/-- `a - b` on `i128`, with overflow checks on. -/
def sub (a b : ℤ) : Except Failure ℤ :=
  if -2 ^ 127 ≤ a - b ∧ a - b < 2 ^ 127 then .ok (a - b) else .error .arithmetic

/-- `get(key).unwrap()` -/
def unwrap {α : Type} : Option α → Except Failure α
  | some a => .ok a
  | none => .error .unwrap

/-- The record of a resolver, or the panic for an unknown one. -/
def getResolver (s : State) (resolver : Address) : Except Failure ResolverInfo :=
  match s.resolvers resolver with
  | some info => .ok info
  | none => .error (.contract .resolverNotFound)

/-- The minimum stake; zero when the key is absent. -/
def State.minStake (s : State) : ℤ := s.inst.minStake.getD 0

/-- The listed resolvers; empty when the key is absent. -/
def State.list (s : State) : List Address := s.inst.resolverList.getD []

/-- A transfer into the contract. The contract is no token contract, and calling it would be
re-entry. -/
def pullTransfer (env : Env) (asset : Address) (amount : ℤ) (ok : Bool) (s : State) :
    Except Failure State := do
  require (asset ≠ env.self ∧ ok = true) .invocation
  return { s with balance := update s.balance asset (s.balance asset + amount) }

/-- A transfer out of the contract; to the contract itself it moves nothing. -/
def payTransfer (env : Env) (asset recipient : Address) (amount : ℤ) (ok : Bool) (s : State) :
    Except Failure State := do
  require (asset ≠ env.self) .invocation
  require (amount ≤ s.balance asset) .insufficientBalance
  require (ok = true) .invocation
  return if recipient = env.self then s
    else { s with balance := update s.balance asset (s.balance asset - amount) }

def initialise (env : Env) (admin stakeAsset : Address) (minStake : ℤ)
    (slashBeneficiary : Address) (s : State) : Except Failure (State × Option Event) := do
  require (s.inst.admin = none) (.contract .alreadyInitialised)
  require (0 ≤ minStake) (.contract .invalidAmount)
  requireAuth env admin
  return ({ s with inst :=
    { admin := some admin
      stakeAsset := some stakeAsset
      minStake := some minStake
      slashBeneficiary := some slashBeneficiary
      resolverList := some [] } }, none)

/-- The record `register` stores. -/
def ResolverInfo.registered (resolver : Address) (stake : ℤ) (timestamp : ℕ) :
    ResolverInfo where
  address := resolver
  stake := stake
  registeredAt := timestamp
  lastSlashAt := 0
  totalSlashed := 0
  active := true

def register (env : Env) (resolver : Address) (stake : ℤ) (pull : Bool) (s : State) :
    Except Failure (State × Option Event) := do
  requireInitialised s
  requireAuth env resolver
  require (s.minStake ≤ stake) (.contract .stakeBelowMinimum)
  require (s.resolvers resolver = none) (.contract .alreadyRegistered)
  let asset ← unwrap s.inst.stakeAsset
  let s ← pullTransfer env asset stake pull s
  let info := ResolverInfo.registered resolver stake env.timestamp
  return ({ s with
      resolvers := update s.resolvers resolver (some info)
      inst := { s.inst with resolverList := some (s.list ++ [resolver]) } },
    some (.register resolver stake))

/-- Add more stake; the flag stays as it is. -/
def increaseStake (env : Env) (resolver : Address) (additional : ℤ) (pull : Bool) (s : State) :
    Except Failure (State × Option Event) := do
  requireInitialised s
  requireAuth env resolver
  require (0 < additional) (.contract .invalidAmount)
  let info ← getResolver s resolver
  let asset ← unwrap s.inst.stakeAsset
  let s ← pullTransfer env asset additional pull s
  let stake ← checkedAdd info.stake additional
  return ({ s with resolvers := update s.resolvers resolver (some { info with stake := stake }) },
    some (.increase resolver additional))

def unregister (env : Env) (resolver : Address) (pay : Bool) (s : State) :
    Except Failure (State × Option Event) := do
  requireInitialised s
  requireAuth env resolver
  let info ← getResolver s resolver
  let asset ← unwrap s.inst.stakeAsset
  let s ← payTransfer env asset resolver info.stake pay s
  return ({ s with
      resolvers := update s.resolvers resolver none
      inst := { s.inst with resolverList := some (s.list.filter fun addr => addr ≠ resolver) } },
    some (.unreg resolver info.stake))

/-- The record after a slash. -/
def ResolverInfo.slashed (info : ResolverInfo) (stake totalSlashed minStake : ℤ)
    (timestamp : ℕ) : ResolverInfo :=
  { info with
    stake := stake
    totalSlashed := totalSlashed
    lastSlashAt := timestamp
    active := if stake < minStake then false else info.active }

def slash (env : Env) (resolver : Address) (amount : ℤ) (pay : Bool) (s : State) :
    Except Failure (State × Option Event) := do
  requireAdmin env s
  require (0 < amount) (.contract .invalidAmount)
  let info ← getResolver s resolver
  let take := min amount info.stake
  let asset ← unwrap s.inst.stakeAsset
  let beneficiary ← unwrap s.inst.slashBeneficiary
  let s ← payTransfer env asset beneficiary take pay s
  let stake ← sub info.stake take
  let totalSlashed ← checkedAdd info.totalSlashed take
  let info := info.slashed stake totalSlashed s.minStake env.timestamp
  return ({ s with resolvers := update s.resolvers resolver (some info) },
    some (.slashed resolver take))

/-- `is_active`: the flag alone. -/
def State.isActive (s : State) (resolver : Address) : Bool :=
  ((s.resolvers resolver).map ResolverInfo.active).getD false

def setMinStake (env : Env) (newMinimum : ℤ) (s : State) :
    Except Failure (State × Option Event) := do
  requireAdmin env s
  require (0 ≤ newMinimum) (.contract .invalidAmount)
  return ({ s with inst := { s.inst with minStake := some newMinimum } }, none)

def setAdmin (env : Env) (newAdmin : Address) (s : State) :
    Except Failure (State × Option Event) := do
  requireAdmin env s
  return ({ s with inst := { s.inst with admin := some newAdmin } }, none)

def setSlashBeneficiary (env : Env) (newBeneficiary : Address) (s : State) :
    Except Failure (State × Option Event) := do
  requireAdmin env s
  return ({ s with inst := { s.inst with slashBeneficiary := some newBeneficiary } }, none)

def exec (env : Env) (s : State) : Call → Except Failure (State × Option Event)
  | .initialise admin stakeAsset minStake slashBeneficiary =>
      initialise env admin stakeAsset minStake slashBeneficiary s
  | .register resolver stake pull => register env resolver stake pull s
  | .increaseStake resolver additional pull => increaseStake env resolver additional pull s
  | .unregister resolver pay => unregister env resolver pay s
  | .slash resolver amount pay => slash env resolver amount pay s
  | .setMinStake newMinimum => setMinStake env newMinimum s
  | .setAdmin newAdmin => setAdmin env newAdmin s
  | .setSlashBeneficiary newBeneficiary => setSlashBeneficiary env newBeneficiary s

/-- What the ledger records: an invocation with its result, or tokens sent to the contract
from outside. -/
inductive Record where
  | invocation (env : Env) (call : Call) (result : Except Failure (Option Event))
  | donation (asset : Address) (amount : ℤ)

/-- One step of the ledger around the contract, which lives at `current`. -/
inductive Step (current : Address) : State → Record → State → Prop where
  | success {s s' env call event} : env.self = current →
      exec env s call = .ok (s', event) →
      Step current s (.invocation env call (.ok event)) s'
  | panic {s env call failure} : env.self = current → exec env s call = .error failure →
      Step current s (.invocation env call (.error failure)) s
  | donation {s : State} {asset amount} : 0 ≤ amount →
      Step current s (.donation asset amount)
        { s with balance := update s.balance asset (s.balance asset + amount) }

end OverSync.SorobanRegistry
