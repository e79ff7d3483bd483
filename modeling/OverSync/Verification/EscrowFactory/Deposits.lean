import OverSync.Library.Stakes
import OverSync.Verification.EscrowFactory.Equations
import Mathlib.Algebra.Order.Group.Nat

/-! # The safety deposits behind the escrows

A settled escrow keeps its deposit on record and stays active, so that a slash can take the
deposit once more, out of the deposits of others. Apart from such slashes every deposit is paid
out at most once and the balance covers the deposits that are not. -/

namespace OverSync.EscrowFactory

open Function Library

variable {Digest : Type} {E : Environment Digest} {timestamp value escrowId i : ℕ}
  {sender recipient : Address} {s s' : State Digest} {event : Event Digest}

/-! ## Flows -/

theorem payouts_disburse (amount : ℕ) :
    (s.disburse escrowId recipient amount).payouts i =
      if escrowId = i ∧ 0 < amount then s.payouts i ++ [amount] else s.payouts i := by
  simp only [State.payouts, State.disburse, List.filterMap_append, List.filterMap_cons,
    List.filterMap_nil]
  by_cases h : escrowId = i ∧ 0 < amount
  · simp [h]
  · simp [h]

@[simp] theorem deposit_disburse (amount : ℕ) :
    (s.disburse escrowId recipient amount).deposit i = s.deposit i := by
  simp [State.deposit, State.disburse]

theorem payouts_slashed (h : 0 < (s.escrows escrowId).safetyDepositPaid) :
    (s.slashed escrowId).payouts i =
      if escrowId = i then s.payouts i ++ [(s.escrows i).safetyDepositPaid] else s.payouts i := by
  rw [State.slashed, payouts_disburse]
  by_cases hi : escrowId = i
  · subst hi
    rw [if_pos ⟨rfl, h⟩, if_pos rfl]
    rfl
  · rw [if_neg (fun h => hi h.1), if_neg hi]
    rfl

theorem payouts_congr (h : s'.flows = s.flows) : s'.payouts i = s.payouts i := by
  rw [State.payouts, h]
  rfl

theorem deposit_congr (h : s'.flows = s.flows) : s'.deposit i = s.deposit i := by
  rw [State.deposit, h]
  rfl

/-! ## The accounts of the escrows -/

def State.IsEscrow (s : State Digest) (escrowId : ℕ) : Prop :=
  1 ≤ escrowId ∧ escrowId < s.escrowCounter

theorem mem_unpaid : i ∈ s.unpaid ↔ s.IsEscrow i ∧ s.payouts i = [] := by
  simp only [State.unpaid, List.mem_filter, List.mem_range'_1, decide_eq_true_eq,
    State.IsEscrow]
  refine and_congr_left fun _ => ?_
  omega

/-- The deposits that have not been paid out as stakes in the balance. -/
def State.stakes (s : State Digest) : Stakes ℕ ℕ where
  members := s.unpaid
  stake := fun i => (s.escrows i).safetyDepositPaid
  pool := s.ethBalance

/-- What the records say of the deposits, where the escrows of `returned` have theirs back. -/
structure Accounts (returned : ℕ → Prop) (s : State Digest) : Prop where
  counter : 1 ≤ s.escrowCounter
  vacant : ∀ i, ¬s.IsEscrow i →
    (s.escrows i).isActive = false ∧ s.payouts i = [] ∧ s.deposit i = 0
  held : ∀ i ∈ s.unpaid, (s.escrows i).safetyDepositPaid = s.deposit i ∧ 0 < s.deposit i
  paid : ∀ i, s.payouts i ≠ [] →
    s.payouts i = [s.deposit i] ∧ ((s.escrows i).safetyDepositPaid = 0 ∨ returned i)
  returned : ∀ i, returned i → s.payouts i ≠ []
  backed : s.stakes.Backed

variable {returned : ℕ → Prop}

theorem Accounts.depositsBacked (h : Accounts returned s) : s.DepositsBacked where
  once i := by
    by_cases hi : s.payouts i = []
    · exact .inl hi
    · exact .inr (h.paid i hi).1
  covered := h.backed.covered

theorem Accounts.isEscrow (h : Accounts returned s) (hactive : (s.escrows i).isActive = true) :
    s.IsEscrow i := by
  by_contra hi
  rw [(h.vacant i hi).1] at hactive
  cases hactive

/-- States with the same escrows, deposits and flows have the same accounts. -/
theorem Accounts.congr (h : Accounts returned s) (hcounter : s'.escrowCounter = s.escrowCounter)
    (hescrows : ∀ i, (s'.escrows i).isActive = (s.escrows i).isActive ∧
      (s'.escrows i).safetyDepositPaid = (s.escrows i).safetyDepositPaid)
    (hflows : s'.flows = s.flows) (hbalance : s'.ethBalance = s.ethBalance) :
    Accounts returned s' := by
  have hescrow : ∀ i, s'.IsEscrow i ↔ s.IsEscrow i := by
    intro i
    rw [State.IsEscrow, State.IsEscrow, hcounter]
  have hpayouts : ∀ i, s'.payouts i = s.payouts i := fun i => payouts_congr hflows
  have hdeposit : ∀ i, s'.deposit i = s.deposit i := fun i => deposit_congr hflows
  have hunpaid : s'.unpaid = s.unpaid := by
    simp only [State.unpaid, hcounter, hpayouts]
  have hstakes : s'.stakes = s.stakes := by
    simp only [State.stakes, hunpaid, hbalance, (hescrows _).2]
  refine ⟨hcounter ▸ h.counter, fun i hi => ?_, fun i hi => ?_, fun i hi => ?_, fun i hi => ?_,
    hstakes ▸ h.backed⟩
  · rw [(hescrows i).1, hpayouts, hdeposit]
    exact h.vacant i (mt (hescrow i).mpr hi)
  · rw [(hescrows i).2, hdeposit]
    exact h.held i (hunpaid ▸ hi)
  · rw [(hescrows i).2, hpayouts, hdeposit]
    exact h.paid i (hpayouts i ▸ hi)
  · rw [hpayouts]
    exact h.returned i hi

/-! ## Deposits come in -/

section Creation

variable [DecidableEq Digest]

@[simp] theorem payouts_creating (escrow : EscrowState Digest) (value : ℕ) :
    (s.creating escrow value).payouts i = s.payouts i := by
  simp [State.payouts, State.creating]

theorem deposit_creating (escrow : EscrowState Digest) (value : ℕ) :
    (s.creating escrow value).deposit i =
      s.deposit i + if s.escrowCounter = i then value else 0 := by
  simp [State.deposit, State.creating]

theorem unpaid_creating (h : Accounts returned s) (escrow : EscrowState Digest) (value : ℕ) :
    (s.creating escrow value).unpaid = s.unpaid ++ [s.escrowCounter] := by
  have hcounter := h.counter
  have hfresh : s.payouts s.escrowCounter = [] :=
    (h.vacant _ fun hescrow => Nat.lt_irrefl _ hescrow.2).2.1
  have hrange : List.range' 1 s.escrowCounter =
      List.range' 1 (s.escrowCounter - 1) ++ [s.escrowCounter] := by
    obtain ⟨n, hn⟩ : ∃ n, s.escrowCounter = n + 1 := ⟨s.escrowCounter - 1, by omega⟩
    rw [hn, List.range'_concat]
    simp [Nat.add_comm]
  have hlast : (s.creating escrow value).escrowCounter - 1 = s.escrowCounter :=
    Nat.add_sub_cancel _ _
  rw [State.unpaid, hlast, hrange, List.filter_append]
  simp [State.unpaid, hfresh]

theorem Accounts.creating (h : Accounts returned s) {escrow : EscrowState Digest}
    (hvalue : 0 < value) (hdeposit : escrow.safetyDepositPaid = value) :
    Accounts returned (s.creating escrow value) := by
  have hnew : ¬s.IsEscrow s.escrowCounter := fun hescrow => Nat.lt_irrefl _ hescrow.2
  have hunpaid := unpaid_creating h escrow value
  have hold : ∀ i, i ≠ s.escrowCounter → (s.creating escrow value).escrows i = s.escrows i ∧
      (s.creating escrow value).deposit i = s.deposit i := by
    intro i hi
    refine ⟨by rw [creating_escrows, if_neg hi], ?_⟩
    rw [deposit_creating, if_neg (Ne.symm hi), Nat.add_zero]
  refine ⟨Nat.le_succ_of_le h.counter, fun i hi => ?_, fun i hi => ?_, fun i hi => ?_, fun i hi => ?_, ?_⟩
  · have hlt : i ≠ s.escrowCounter := by
      rintro rfl
      exact hi ⟨h.counter, Nat.lt_succ_self _⟩
    rw [(hold i hlt).1, (hold i hlt).2, payouts_creating]
    exact h.vacant i fun hescrow => hi ⟨hescrow.1, Nat.lt_succ_of_lt hescrow.2⟩
  · rw [hunpaid] at hi
    rcases List.mem_append.mp hi with hi | hi
    · have hne : i ≠ s.escrowCounter := by
        rintro rfl
        exact hnew (mem_unpaid.mp hi).1
      rw [(hold i hne).1, (hold i hne).2]
      exact h.held i hi
    · obtain rfl := List.mem_singleton.mp hi
      rw [deposit_creating, if_pos rfl, (h.vacant _ hnew).2.2, Nat.zero_add]
      refine ⟨?_, hvalue⟩
      rw [creating_escrows, if_pos rfl, hdeposit]
  · rw [payouts_creating] at hi
    have hne : i ≠ s.escrowCounter := by
      rintro rfl
      exact hi (h.vacant _ hnew).2.1
    rw [payouts_creating, (hold i hne).1, (hold i hne).2]
    exact h.paid i hi
  · rw [payouts_creating]
    exact h.returned i hi
  · have hjoined : Stakes.Step s.stakes (.joined s.escrowCounter value)
        (s.creating escrow value).stakes := by
      refine .joined ?_ (Nat.zero_le _) ?_ ?_ le_rfl
      · exact fun hmem => hnew (mem_unpaid.mp hmem).1
      · rw [State.stakes, hunpaid]
        exact List.perm_append_singleton _ _
      · funext i
        by_cases hi : i = s.escrowCounter
        · simp [State.stakes, hi, hdeposit]
        · simp [State.stakes, hi]
    exact hjoined.backed h.backed

end Creation

/-! ## Deposits go out -/

/-- The deposit of one more escrow is paid out. -/
theorem Accounts.leave {returned' : ℕ → Prop} (h : Accounts returned s)
    (hmem : escrowId ∈ s.unpaid) (hcounter : s'.escrowCounter = s.escrowCounter)
    (hactive : ∀ i, (s'.escrows i).isActive = (s.escrows i).isActive)
    (hother : ∀ i, i ≠ escrowId →
      (s'.escrows i).safetyDepositPaid = (s.escrows i).safetyDepositPaid)
    (hflows : s'.flows =
      s.flows ++ [.paid escrowId recipient (s.escrows escrowId).safetyDepositPaid])
    (hbalance : s'.ethBalance + (s.escrows escrowId).safetyDepositPaid = s.ethBalance)
    (hreturned : ∀ i, returned' i → returned i ∨ i = escrowId)
    (hkept : ∀ i, returned i → returned' i)
    (hlast : (s'.escrows escrowId).safetyDepositPaid = 0 ∨ returned' escrowId) :
    Accounts returned' s' := by
  obtain ⟨hescrow, hnone⟩ := mem_unpaid.mp hmem
  obtain ⟨hamount, hpos⟩ := h.held _ hmem
  have hsame : ∀ i, s'.IsEscrow i ↔ s.IsEscrow i := by
    intro i
    rw [State.IsEscrow, State.IsEscrow, hcounter]
  have hdeposit : ∀ i, s'.deposit i = s.deposit i := fun i =>
    (deposit_congr (s := s.disburse escrowId recipient _) hflows).trans (deposit_disburse _)
  have hpayouts : ∀ i, s'.payouts i =
      if escrowId = i then [s.deposit escrowId] else s.payouts i := by
    intro i
    rw [payouts_congr (s := s.disburse escrowId recipient _) hflows, payouts_disburse, hamount]
    by_cases hi : escrowId = i
    · subst hi
      simp [hpos, hnone]
    · simp [hi]
  have hunpaid : s'.unpaid = s.unpaid.filter fun i => i ≠ escrowId := by
    simp only [State.unpaid, hcounter, List.filter_filter]
    refine List.filter_congr fun i _ => ?_
    rw [hpayouts i]
    by_cases hi : escrowId = i
    · simp [hi]
    · simp [hi, Ne.symm hi]
  refine ⟨hcounter ▸ h.counter, fun i hi => ?_, fun i hi => ?_, fun i hi => ?_, fun i hi => ?_, ?_⟩
  · have hi' := mt (hsame i).mpr hi
    have hne : escrowId ≠ i := by
      rintro rfl
      exact hi' hescrow
    rw [hactive, hpayouts, if_neg hne, hdeposit]
    exact h.vacant i hi'
  · rw [hunpaid, List.mem_filter, decide_eq_true_eq] at hi
    rw [hother i hi.2, hdeposit]
    exact h.held i hi.1
  · rw [hpayouts, hdeposit]
    by_cases hne : escrowId = i
    · subst hne
      exact ⟨if_pos rfl, hlast⟩
    · rw [hpayouts, if_neg hne] at hi
      rw [if_neg hne, hother i (Ne.symm hne)]
      exact ⟨(h.paid i hi).1, (h.paid i hi).2.imp_right (hkept i)⟩
  · rw [hpayouts]
    by_cases hne : escrowId = i
    · simp [hne]
    · rw [if_neg hne]
      exact h.returned i ((hreturned i hi).resolve_right (Ne.symm hne))
  · have hnodup : s.unpaid.Nodup := h.backed.nodup
    have herase : s'.unpaid = s.unpaid.erase escrowId := by
      rw [hunpaid, hnodup.erase_eq_filter]
      refine List.filter_congr fun i _ => ?_
      by_cases hi : i = escrowId
      · simp [hi]
      · simp [hi]
    have hleft : Stakes.Step s.stakes (.left escrowId) s'.stakes := by
      refine .left ?_ (fun i hi => hother i hi) hbalance.ge
      rw [State.stakes, State.stakes, herase]
      exact List.perm_cons_erase hmem
    exact hleft.backed h.backed

/-- An active escrow with a deposit on record that is not among the returned ones. -/
theorem Accounts.mem_unpaid_of (h : Accounts returned s)
    (hactive : (s.escrows i).isActive = true) (hnot : ¬returned i)
    (hpos : 0 < (s.escrows i).safetyDepositPaid) : i ∈ s.unpaid := by
  refine mem_unpaid.mpr ⟨h.isEscrow hactive, ?_⟩
  by_contra hpaid
  rcases (h.paid i hpaid).2 with hzero | hreturned
  · omega
  · exact hnot hreturned

/-- A slash of an escrow whose deposit has not been returned. -/
theorem Accounts.slashed (h : Accounts returned s) (hcan : s.CanSlash E sender escrowId)
    (hnot : ¬returned escrowId) : Accounts returned (s.slashed escrowId) := by
  have hmem := h.mem_unpaid_of hcan.active hnot hcan.deposited
  refine h.leave hmem rfl (fun i => ?_) (fun i hi => ?_) rfl ?_ (fun i hi => .inl hi)
    (fun i hi => hi) (.inl ?_)
  · rw [slashed_escrows]
    split
    · rfl
    · rfl
  · rw [slashed_escrows, if_neg hi]
  · exact Nat.sub_add_cancel hcan.afforded
  · rw [slashed_escrows, if_pos rfl]

/-- A settlement returns the deposit, unless it has been slashed before. -/
theorem Accounts.returning (h : Accounts returned s)
    (hactive : (s.escrows escrowId).isActive = true) (hnot : ¬returned escrowId)
    (hafforded : (s.escrows escrowId).safetyDepositPaid ≤ s.ethBalance) :
    Accounts (fun i => returned i ∨ i = escrowId) (s.returning escrowId) := by
  by_cases hpos : 0 < (s.escrows escrowId).safetyDepositPaid
  · refine h.leave (h.mem_unpaid_of hactive hnot hpos) rfl (fun i => rfl) (fun i hi => rfl) rfl
      (Nat.sub_add_cancel hafforded) (fun i hi => hi) (fun i hi => .inl hi) (.inr (.inr rfl))
  · have hzero : (s.escrows escrowId).safetyDepositPaid = 0 := Nat.eq_zero_of_not_pos hpos
    have hpaid : s.payouts escrowId ≠ [] := by
      intro hnone
      have hheld := h.held _ (mem_unpaid.mpr ⟨h.isEscrow hactive, hnone⟩)
      omega
    have hpayouts : ∀ i, (s.returning escrowId).payouts i = s.payouts i := by
      intro i
      refine (payouts_congr (s := s.disburse escrowId _ _) rfl).trans ?_
      rw [payouts_disburse, if_neg fun h => hpos h.2]
    have hdeposit : ∀ i, (s.returning escrowId).deposit i = s.deposit i := fun i =>
      (deposit_congr (s := s.disburse escrowId _ _) rfl).trans (deposit_disburse _)
    have hunpaid : (s.returning escrowId).unpaid = s.unpaid := by
      simp only [State.unpaid, hpayouts]
      rfl
    have hstakes : (s.returning escrowId).stakes = s.stakes := by
      rw [State.stakes, hunpaid]
      simp [State.returning, State.disburse, hzero, State.stakes]
    refine ⟨h.counter, fun i hi => ?_, fun i hi => ?_, fun i hi => ?_, fun i hi => ?_,
      hstakes ▸ h.backed⟩
    · rw [hpayouts, hdeposit]
      exact h.vacant i hi
    · rw [hdeposit]
      exact h.held i (hunpaid ▸ hi)
    · rw [hpayouts, hdeposit]
      rw [hpayouts] at hi
      exact ⟨(h.paid i hi).1, (h.paid i hi).2.imp_right .inl⟩
    · rw [hpayouts]
      rcases hi with hi | rfl
      · exact h.returned i hi
      · exact hpaid

end OverSync.EscrowFactory
