import OverSync.Model.EscrowFactory
import Mathlib.Tactic.Common

/-! # What a successful call of the escrow factory does

While a token moves the guard is closed, and the only call that still goes through is a slash. -/

namespace OverSync.EscrowFactory

open Function Library

variable {Digest : Type} {E : Environment Digest} {timestamp value escrowId : ℕ}
  {sender recipient : Address} {s s' : State Digest} {callee : Callee Digest}
  {event : Event Digest} {reason : String}

/-! ## Payments -/

/-- The state after a payment for an escrow. -/
def State.disburse (s : State Digest) (escrowId : ℕ) (recipient : Address) (amount : ℕ) :
    State Digest :=
  { s with
    ethBalance := s.ethBalance - amount
    flows := s.flows ++ [.paid escrowId recipient amount] }

theorem pay_eq_ok {amount : ℕ} : pay E escrowId recipient amount s = .ok s' ↔
    (amount ≤ s.ethBalance ∧ recipient ≠ E.self) ∧ s' = s.disburse escrowId recipient amount := by
  rw [pay, require_bind_eq_ok]
  exact and_congr_right fun _ => ⟨fun h => (Except.ok.inj h).symm, fun h => by rw [h]; rfl⟩

theorem transferFrom_eq_ok {token : Address} (h : transferFrom token callee s = .ok s') :
    callee s = (s', .returned true) := by
  simp only [transferFrom, require_bind_eq_ok] at h
  obtain ⟨-, h⟩ := h
  split at h
  · rename_i s₁ moved hcallee
    obtain ⟨rfl, h⟩ := require_bind_eq_ok.mp h
    cases h
    exact hcallee
  · cases h

/-! ## Slashes -/

/-- A slash by `sender` goes through. -/
structure State.CanSlash (E : Environment Digest) (s : State Digest) (sender : Address)
    (escrowId : ℕ) : Prop where
  owner : sender = s.owner
  active : (s.escrows escrowId).isActive = true
  deposited : 0 < (s.escrows escrowId).safetyDepositPaid
  afforded : (s.escrows escrowId).safetyDepositPaid ≤ s.ethBalance
  accepted : s.owner ≠ E.self

/-- The state after a slash. -/
def State.slashed (s : State Digest) (escrowId : ℕ) : State Digest :=
  (s.setEscrow escrowId fun escrow => { escrow with safetyDepositPaid := 0 }).disburse
    escrowId s.owner (s.escrows escrowId).safetyDepositPaid

@[simp] theorem slashed_escrows (i : ℕ) : (s.slashed escrowId).escrows i =
    if i = escrowId then { s.escrows i with safetyDepositPaid := 0 } else s.escrows i := by
  by_cases hi : i = escrowId
  · subst hi
    rw [if_pos rfl]
    exact update_self _ _ s.escrows
  · rw [if_neg hi]
    exact update_of_ne hi _ s.escrows

theorem slashSafetyDeposit_eq_ok :
    slashSafetyDeposit E sender escrowId reason s = .ok (s', event) ↔
      s.CanSlash E sender escrowId ∧ s' = s.slashed escrowId ∧
        event = .safetyDepositSlashed escrowId (s.escrows escrowId).resolver
          (s.escrows escrowId).safetyDepositPaid reason := by
  simp only [slashSafetyDeposit, require_bind_eq_ok]
  constructor
  · rintro ⟨howner, hactive, hdeposited, h⟩
    obtain ⟨s₁, hpay, h⟩ := bind_eq_ok.mp h
    obtain ⟨⟨hafforded, haccepted⟩, rfl⟩ := pay_eq_ok.mp hpay
    cases h
    exact ⟨⟨howner, hactive, hdeposited, hafforded, haccepted⟩, rfl, rfl⟩
  · rintro ⟨h, rfl, rfl⟩
    refine ⟨h.owner, h.active, h.deposited, ?_⟩
    refine bind_eq_ok.mpr ⟨s.slashed escrowId, pay_eq_ok.mpr ⟨⟨h.afforded, h.accepted⟩, rfl⟩, rfl⟩

/-! ## Reentrant calls -/

variable [DecidableEq Digest]

theorem exec_entered {call : Call Digest} (hs : s.entered = true)
    (h : exec E timestamp call s = .ok (s', event)) :
    ∃ sender escrowId reason, call = .slashSafetyDeposit sender escrowId reason ∧
      s.CanSlash E sender escrowId ∧ s' = s.slashed escrowId := by
  cases call with
  | createEscrow sender value config => simp [exec, createEscrow, require, hs] at h
  | fundEscrow sender escrowId token => simp [exec, fundEscrow, require, hs] at h
  | claimEscrow sender escrowId preimage token => simp [exec, claimEscrow, require, hs] at h
  | refundEscrow sender escrowId token => simp [exec, refundEscrow, require, hs] at h
  | slashSafetyDeposit sender escrowId reason =>
      rw [exec] at h
      obtain ⟨hcan, hs', -⟩ := slashSafetyDeposit_eq_ok.mp h
      exact ⟨sender, escrowId, reason, rfl, hcan, hs'⟩

theorem run_of_error {tx : Transaction Digest} {e : Error}
    (h : exec E tx.timestamp tx.call s = .error e) : run E tx s = s := by
  rw [run, h]

theorem run_of_ok {tx : Transaction Digest}
    (h : exec E tx.timestamp tx.call s = .ok (s', event)) : run E tx s = s' := by
  rw [run, h]

variable (E timestamp) in
/-- A call of another contract within a transaction. -/
def runCall (call : Call Digest) (s : State Digest) : State Digest :=
  run E ⟨timestamp, call⟩ s

theorem execAll_eq (calls : List (Call Digest)) (s : State Digest) :
    execAll E timestamp calls s = runAll (runCall E timestamp) calls s := by
  induction calls generalizing s with
  | nil => rfl
  | cons call calls ih =>
      rw [execAll]
      cases hexec : exec E timestamp call s with
      | error e => rw [ih, runAll, runAll, List.foldl_cons, runCall, run_of_error hexec]
      | ok result =>
          obtain ⟨s₁, event⟩ := result
          simp only
          rw [ih, runAll, runAll, List.foldl_cons, runCall, run_of_ok hexec]

/-- The state of `s` with the deposits and the ETH of `t`. -/
def State.withDeposits (s t : State Digest) : State Digest :=
  { s with
    escrows := fun i =>
      { s.escrows i with safetyDepositPaid := (t.escrows i).safetyDepositPaid }
    ethBalance := t.ethBalance
    flows := t.flows }

omit [DecidableEq Digest] in
theorem slashed_eq_withDeposits : s.slashed escrowId = s.withDeposits (s.slashed escrowId) := by
  have hescrows : (s.slashed escrowId).escrows =
      (s.withDeposits (s.slashed escrowId)).escrows := by
    funext i
    by_cases hi : i = escrowId
    · simp [State.withDeposits, hi]
    · simp [State.withDeposits, hi]
  have hothers : s.withDeposits (s.slashed escrowId) = { s.slashed escrowId with
      escrows := (s.withDeposits (s.slashed escrowId)).escrows } := rfl
  rw [hothers, ← hescrows]

/-- While the guard is closed, only deposits and ETH change. -/
theorem runCall_entered (timestamp : ℕ) (call : Call Digest) (hs : s.entered = true) :
    runCall E timestamp call s = s.withDeposits (runCall E timestamp call s) := by
  cases hexec : exec E timestamp call s with
  | error e =>
      rw [runCall, run_of_error hexec]
      rfl
  | ok result =>
      obtain ⟨s₁, event⟩ := result
      obtain ⟨_, i, _, -, -, rfl⟩ := exec_entered hs hexec
      rw [runCall, run_of_ok hexec]
      exact slashed_eq_withDeposits

theorem execAll_entered (timestamp : ℕ) (calls : List (Call Digest)) (hs : s.entered = true) :
    execAll E timestamp calls s = s.withDeposits (execAll E timestamp calls s) := by
  rw [execAll_eq]
  induction calls generalizing s with
  | nil => rfl
  | cons call calls ih =>
      have hcall := runCall_entered (E := E) timestamp call hs
      have hentered : (runCall E timestamp call s).entered = true := by
        rw [hcall]
        exact hs
      rw [runAll, List.foldl_cons]
      have hrest := ih hentered
      rw [runAll] at hrest
      rw [hrest, hcall]
      rfl

/-! ## The operations -/

/-- What `createEscrow` does to a state. -/
def State.creating (s : State Digest) (escrow : EscrowState Digest) (value : ℕ) :
    State Digest :=
  { s with
    escrowCounter := s.escrowCounter + 1
    escrows := update s.escrows s.escrowCounter escrow
    escrowAddressToId := update s.escrowAddressToId escrow.escrowAddress s.escrowCounter
    hashLockToEscrowId := update s.hashLockToEscrowId escrow.config.hashLock s.escrowCounter
    resolverEscrows := update s.resolverEscrows escrow.resolver
      (s.resolverEscrows escrow.resolver ++ [s.escrowCounter])
    chainEscrowCount := update s.chainEscrowCount escrow.config.chainId
      (s.chainEscrowCount escrow.config.chainId + 1)
    totalEscrows := s.totalEscrows + 1
    totalSafetyDeposits := s.totalSafetyDeposits + value
    ethBalance := s.ethBalance + value
    flows := s.flows ++ [.received s.escrowCounter value] }

@[simp] theorem creating_escrows (escrow : EscrowState Digest) (value i : ℕ) :
    (s.creating escrow value).escrows i =
      if i = s.escrowCounter then escrow else s.escrows i := by
  by_cases hi : i = s.escrowCounter
  · subst hi
    rw [if_pos rfl]
    exact update_self _ _ s.escrows
  · rw [if_neg hi]
    exact update_of_ne hi _ s.escrows

theorem createEscrow_eq_ok {config : EscrowConfig Digest}
    (h : createEscrow E timestamp sender value config s = .ok (s', event)) :
    s.entered = false ∧ 0 < value ∧ ∃ escrowAddress,
      s' = s.creating (config.escrow escrowAddress sender value timestamp) value := by
  simp only [createEscrow, require_bind_eq_ok] at h
  obtain ⟨hidle, -, -, h⟩ := h
  obtain ⟨earliest, -, h⟩ := bind_eq_ok.mp h
  obtain ⟨-, h⟩ := require_bind_eq_ok.mp h
  obtain ⟨latest, -, h⟩ := bind_eq_ok.mp h
  simp only [require_bind_eq_ok] at h
  obtain ⟨-, -, -, hmin, -, hvalue, -, h⟩ := h
  obtain ⟨counter, hcounter, h⟩ := bind_eq_ok.mp h
  obtain ⟨escrowAddress, -, h⟩ := bind_eq_ok.mp h
  obtain ⟨count, hcount, h⟩ := bind_eq_ok.mp h
  obtain ⟨escrows, hescrows, h⟩ := bind_eq_ok.mp h
  obtain ⟨deposits, hdeposits, h⟩ := bind_eq_ok.mp h
  rw [(addBelow_eq_ok.mp hcounter).2, (addBelow_eq_ok.mp hcount).2,
    (addBelow_eq_ok.mp hescrows).2, (addBelow_eq_ok.mp hdeposits).2] at h
  cases h
  refine ⟨hidle, ?_, escrowAddress, rfl⟩
  simp only [minSafetyDeposit] at hmin
  omega

/-- The state in which the token is asked to move. -/
def State.asking (s : State Digest) (escrowId : ℕ)
    (f : EscrowState Digest → EscrowState Digest) : State Digest :=
  { s with entered := true }.setEscrow escrowId f

def EscrowState.claimed (escrow : EscrowState Digest) : EscrowState Digest :=
  { escrow with status := .claimed, filledAmount := escrow.config.amount }

def EscrowState.refunded (escrow : EscrowState Digest) : EscrowState Digest :=
  { escrow with status := .refunded }

omit [DecidableEq Digest] in
theorem fundEscrow_eq_ok (h : fundEscrow timestamp sender escrowId callee s = .ok (s', event)) :
    s.entered = false ∧ (s.escrows escrowId).isActive = true ∧
      (s.escrows escrowId).status = .created ∧
      ∃ s₁, callee { s with entered := true } = (s₁, .returned true) ∧
        s' = { s₁.setEscrow escrowId (fun escrow => { escrow with status := .funded }) with
          entered := false } := by
  simp only [fundEscrow, require_bind_eq_ok] at h
  obtain ⟨hidle, hactive, hcreated, -, h⟩ := h
  obtain ⟨s₁, htransfer, h⟩ := bind_eq_ok.mp h
  cases h
  exact ⟨hidle, hactive, hcreated, s₁, transferFrom_eq_ok htransfer, rfl⟩

/-- The deposit is returned to the resolver, as far as it is still there. -/
def State.returning (s : State Digest) (escrowId : ℕ) : State Digest :=
  { s.disburse escrowId (s.escrows escrowId).resolver (s.escrows escrowId).safetyDepositPaid with
    entered := false }

/-- What a successful claim or refund did. -/
structure Settled (E : Environment Digest) (s : State Digest) (escrowId : ℕ)
    (f : EscrowState Digest → EscrowState Digest) (callee : Callee Digest)
    (s' : State Digest) : Prop where
  idle : s.entered = false
  active : (s.escrows escrowId).isActive = true
  funded : (s.escrows escrowId).status = .funded
  returned : ∃ s₁, callee (s.asking escrowId f) = (s₁, .returned true) ∧
    (s₁.escrows escrowId).safetyDepositPaid ≤ s₁.ethBalance ∧
    s' = s₁.returning escrowId

theorem claimEscrow_eq_ok {preimage : Digest}
    (h : claimEscrow E timestamp sender escrowId preimage callee s = .ok (s', event)) :
    Settled E s escrowId EscrowState.claimed callee s' := by
  simp only [claimEscrow, require_bind_eq_ok] at h
  obtain ⟨hidle, hactive, hfunded, -, -, -, h⟩ := h
  obtain ⟨s₁, htransfer, h⟩ := bind_eq_ok.mp h
  obtain ⟨s₂, hpay, h⟩ := bind_eq_ok.mp h
  obtain ⟨⟨hafforded, -⟩, rfl⟩ := pay_eq_ok.mp hpay
  cases h
  exact ⟨hidle, hactive, hfunded, s₁, transferFrom_eq_ok htransfer, hafforded, rfl⟩

omit [DecidableEq Digest] in
theorem refundEscrow_eq_ok
    (h : refundEscrow E timestamp escrowId callee s = .ok (s', event)) :
    Settled E s escrowId EscrowState.refunded callee s' := by
  simp only [refundEscrow, require_bind_eq_ok] at h
  obtain ⟨hidle, hactive, hfunded, -, h⟩ := h
  obtain ⟨s₁, htransfer, h⟩ := bind_eq_ok.mp h
  obtain ⟨s₂, hpay, h⟩ := bind_eq_ok.mp h
  obtain ⟨⟨hafforded, -⟩, rfl⟩ := pay_eq_ok.mp hpay
  cases h
  exact ⟨hidle, hactive, hfunded, s₁, transferFrom_eq_ok htransfer, hafforded, rfl⟩

end OverSync.EscrowFactory
