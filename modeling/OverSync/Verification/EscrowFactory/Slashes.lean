import OverSync.Verification.EscrowFactory.Deposits

/-! # Slashes of settled escrows

Every deposit is paid out at most once, and the balance covers the others, exactly in the runs
without a slash of an escrow that has been claimed or refunded before. -/

namespace OverSync.EscrowFactory

open Function Library

variable {Digest : Type} {E : Environment Digest} {timestamp escrowId : ℕ}
  {sender : Address} {s s' : State Digest} {event : Event Digest} {returned : ℕ → Prop}

/-- The escrows whose deposit has been returned to the resolver. -/
def State.Returned (s : State Digest) (escrowId : ℕ) : Prop :=
  (s.escrows escrowId).status = .claimed ∨ (s.escrows escrowId).status = .refunded

/-- The call is no slash that takes the deposit of an escrow of `returned`. -/
def Spares (E : Environment Digest) (returned : ℕ → Prop) (s : State Digest)
    (call : Call Digest) : Prop :=
  match call with
  | .slashSafetyDeposit sender escrowId _ => returned escrowId → ¬s.CanSlash E sender escrowId
  | _ => True

/-- The calls of a transaction that may slash: itself, or those of the token. -/
def Call.slashes : Call Digest → List (Call Digest)
  | .createEscrow _ _ _ => []
  | .fundEscrow _ _ (calls, _) => calls
  | .claimEscrow _ _ _ (calls, _) => calls
  | .refundEscrow _ _ (calls, _) => calls
  | .slashSafetyDeposit sender escrowId reason => [.slashSafetyDeposit sender escrowId reason]

/-- The state in which these calls begin. -/
def Call.before : Call Digest → State Digest → State Digest
  | .createEscrow _ _ _, s => s
  | .fundEscrow _ _ _, s => { s with entered := true }
  | .claimEscrow _ escrowId _ _, s => s.asking escrowId EscrowState.claimed
  | .refundEscrow _ escrowId _, s => s.asking escrowId EscrowState.refunded
  | .slashSafetyDeposit _ _ _, s => s

variable [DecidableEq Digest]

/-- If the transaction goes through, none of its slashes takes the deposit of an escrow that was
claimed or refunded before. -/
def SparesReturned (E : Environment Digest) (s : State Digest) (tx : Transaction Digest) : Prop :=
  (∃ result, exec E tx.timestamp tx.call s = .ok result) →
    AllOk (runCall E tx.timestamp) (Spares E s.Returned) tx.call.slashes (tx.call.before s)

/-! ## Deposits paid out twice -/

def State.Overpaid (s : State Digest) : Prop :=
  ∃ i, 2 ≤ (s.payouts i).length

omit [DecidableEq Digest] in
theorem State.DepositsBacked.not_overpaid (h : s.DepositsBacked) : ¬s.Overpaid := by
  rintro ⟨i, hi⟩
  rcases h.once i with hi' | hi'
  · simp [hi'] at hi
  · simp [hi'] at hi

omit [DecidableEq Digest] in
theorem State.Overpaid.disburse {recipient : Address} (h : s.Overpaid) (amount : ℕ) :
    (s.disburse escrowId recipient amount).Overpaid := by
  obtain ⟨i, hi⟩ := h
  refine ⟨i, hi.trans ?_⟩
  rw [payouts_disburse]
  split
  · simp
  · exact le_rfl

omit [DecidableEq Digest] in
theorem State.Overpaid.congr (h : s.Overpaid) (hflows : s'.flows = s.flows) : s'.Overpaid := by
  obtain ⟨i, hi⟩ := h
  exact ⟨i, by rwa [payouts_congr hflows]⟩

omit [DecidableEq Digest] in
theorem State.Overpaid.slashed (h : s.Overpaid) : (s.slashed escrowId).Overpaid :=
  State.Overpaid.disburse (h.congr rfl) _

omit [DecidableEq Digest] in
/-- A slash of an escrow that has its deposit back pays for it once more. -/
theorem overpaid_slashed (h : Accounts returned s) (hreturned : returned escrowId)
    (hpos : 0 < (s.escrows escrowId).safetyDepositPaid) : (s.slashed escrowId).Overpaid := by
  have hpaid := List.length_pos_of_ne_nil (h.returned _ hreturned)
  refine ⟨escrowId, ?_⟩
  rw [payouts_slashed hpos, if_pos rfl, List.length_append, List.length_singleton]
  omega

/-! ## The calls of a token -/

theorem runCall_slash (timestamp : ℕ) (sender : Address) (escrowId : ℕ) (reason : String) :
    runCall E timestamp (.slashSafetyDeposit sender escrowId reason) s = s ∧
        ¬s.CanSlash E sender escrowId ∨
      runCall E timestamp (.slashSafetyDeposit sender escrowId reason) s = s.slashed escrowId ∧
        s.CanSlash E sender escrowId := by
  by_cases hcan : s.CanSlash E sender escrowId
  · exact .inr ⟨run_of_ok (slashSafetyDeposit_eq_ok.mpr ⟨hcan, rfl, rfl⟩), hcan⟩
  · refine .inl ⟨?_, hcan⟩
    cases hexec : exec E timestamp (.slashSafetyDeposit sender escrowId reason) s with
    | error e => exact run_of_error hexec
    | ok result => exact absurd (slashSafetyDeposit_eq_ok.mp hexec).1 hcan

/-- While the guard is closed, a call is a slash or does nothing. -/
theorem runCall_cases (timestamp : ℕ) (call : Call Digest) (hs : s.entered = true) :
    runCall E timestamp call s = s ∨ ∃ sender escrowId reason,
      call = .slashSafetyDeposit sender escrowId reason ∧ s.CanSlash E sender escrowId ∧
        runCall E timestamp call s = s.slashed escrowId := by
  cases hexec : exec E timestamp call s with
  | error e => exact .inl (run_of_error hexec)
  | ok result =>
      obtain ⟨s₁, event⟩ := result
      obtain ⟨sender, i, reason, hcall, hcan, rfl⟩ := exec_entered hs hexec
      exact .inr ⟨sender, i, reason, hcall, hcan, run_of_ok hexec⟩

theorem State.Overpaid.calls (h : s.Overpaid) (hs : s.entered = true)
    (calls : List (Call Digest)) : (runAll (runCall E timestamp) calls s).Overpaid := by
  induction calls generalizing s with
  | nil => exact h
  | cons call calls ih =>
      rw [runAll, List.foldl_cons]
      rcases runCall_cases (E := E) timestamp call hs with
        hsame | ⟨_, i, _, -, -, hslash⟩
      · rw [hsame]
        exact ih h hs
      · rw [hslash]
        exact ih h.slashed hs

/-- Calls made while a token moves keep the accounts if they spare what has been returned;
otherwise a deposit has been paid out twice when they are done. -/
theorem Accounts.calls (h : Accounts returned s) (hs : s.entered = true) (timestamp : ℕ)
    (calls : List (Call Digest)) :
    (AllOk (runCall E timestamp) (Spares E returned) calls s →
      Accounts returned (runAll (runCall E timestamp) calls s)) ∧
    (¬AllOk (runCall E timestamp) (Spares E returned) calls s →
      (runAll (runCall E timestamp) calls s).Overpaid) := by
  induction calls generalizing s with
  | nil => exact ⟨fun _ => h, fun hnot => absurd trivial hnot⟩
  | cons call calls ih =>
      rw [runAll, List.foldl_cons]
      rcases runCall_cases (E := E) timestamp call hs with
        hsame | ⟨sender, i, reason, rfl, hcan, hslash⟩
      · have hspares : Spares E returned s call := by
          cases call with
          | slashSafetyDeposit sender i reason =>
              rcases runCall_slash (E := E) (s := s) timestamp sender i reason with ⟨-, hnot⟩ | ⟨hslash, hcan⟩
              · exact fun _ => hnot
              · -- a slash that goes through leaves a different state
                have hflows := congrArg (fun s : State Digest => s.flows.length)
                  (hslash.symm.trans hsame)
                simp [State.slashed, State.disburse, State.setEscrow] at hflows
          | _ => trivial
        rw [AllOk, hsame]
        exact ⟨fun hall => (ih h hs).1 hall.2, fun hnot => (ih h hs).2 fun hall => hnot ⟨hspares, hall⟩⟩
      · rw [AllOk, hslash]
        by_cases hreturned : returned i
        · refine ⟨fun hall => absurd hcan (hall.1 hreturned), fun _ => ?_⟩
          exact (overpaid_slashed h hreturned hcan.deposited).calls hs calls
        · have h' := h.slashed hcan hreturned
          refine ⟨fun hall => (ih h' hs).1 hall.2, fun hnot => (ih h' hs).2 fun hall => ?_⟩
          exact hnot ⟨fun hin => absurd hin hreturned, hall⟩

/-! ## Transactions -/

omit [DecidableEq Digest] in
/-- Writing to an escrow without touching its deposit keeps the accounts. -/
theorem Accounts.setEscrow (h : Accounts returned s) {f : EscrowState Digest → EscrowState Digest}
    (hactive : ∀ escrow, (f escrow).isActive = escrow.isActive)
    (hdeposit : ∀ escrow, (f escrow).safetyDepositPaid = escrow.safetyDepositPaid)
    (entered : Bool) :
    Accounts returned { s.setEscrow escrowId f with entered := entered } := by
  refine h.congr rfl (fun i => ?_) rfl rfl
  by_cases hi : i = escrowId
  · subst hi
    simp [State.setEscrow, hactive, hdeposit]
  · simp [State.setEscrow, update_of_ne hi]

/-- What a claim or refund did to the accounts, by what its token called. -/
theorem Settled.accounts {f : EscrowState Digest → EscrowState Digest}
    {calls : List (Call Digest)} {answer : TokenAnswer} (hs : Accounts s.Returned s)
    (h : Settled E s escrowId f (fun s => (execAll E timestamp calls s, answer)) s')
    (hactive : ∀ escrow, (f escrow).isActive = escrow.isActive)
    (hdeposit : ∀ escrow, (f escrow).safetyDepositPaid = escrow.safetyDepositPaid)
    (hstatus : ∀ escrow, (f escrow).status = .claimed ∨ (f escrow).status = .refunded) :
    (AllOk (runCall E timestamp) (Spares E s.Returned) calls (s.asking escrowId f) →
      Accounts s'.Returned s') ∧
    (¬AllOk (runCall E timestamp) (Spares E s.Returned) calls (s.asking escrowId f) →
      s'.Overpaid) := by
  obtain ⟨-, hisActive, hfunded, s₁, hcallee, hafforded, rfl⟩ := h
  obtain ⟨rfl, -⟩ := Prod.mk.inj hcallee
  have hasking : Accounts s.Returned (s.asking escrowId f) :=
    Accounts.setEscrow (s := s) hs hactive hdeposit true
  have hcalls := hasking.calls (E := E) rfl timestamp calls
  rw [← execAll_eq] at hcalls
  refine ⟨fun hall => ?_, fun hnot => ((hcalls.2 hnot).disburse _).congr rfl⟩
  have hentered := execAll_entered (E := E) timestamp calls
    (show (s.asking escrowId f).entered = true from rfl)
  have hnot : ¬s.Returned escrowId := by
    rintro (hstatus | hstatus) <;> simp [hfunded] at hstatus
  have h₁ := hcalls.1 hall
  generalize execAll E timestamp calls (s.asking escrowId f) = s₁ at hentered h₁ hafforded ⊢
  have hactive₁ : (s₁.escrows escrowId).isActive = true := by
    rw [hentered]
    simpa [State.withDeposits, State.asking, State.setEscrow, hactive] using hisActive
  have hreturned : (s₁.returning escrowId).Returned = fun i => s.Returned i ∨ i = escrowId := by
    funext i
    refine propext ?_
    have hstatus₁ : ((s₁.returning escrowId).escrows i).status =
        ((s.asking escrowId f).escrows i).status := by
      change (s₁.escrows i).status = _
      rw [hentered]
      rfl
    rw [State.Returned, hstatus₁]
    by_cases hi : i = escrowId
    · subst hi
      simpa [State.asking, State.setEscrow] using hstatus (s.escrows i)
    · simp [State.asking, State.setEscrow, hi, State.Returned]
  rw [hreturned]
  exact h₁.returning hactive₁ hnot hafforded

/-- A transaction that goes through. -/
theorem exec_accounts {tx : Transaction Digest} (hs : Accounts s.Returned s)
    (h : exec E tx.timestamp tx.call s = .ok (s', event)) :
    (SparesReturned E s tx → Accounts s'.Returned s') ∧
      (¬SparesReturned E s tx → s'.Overpaid) := by
  have hspares : SparesReturned E s tx ↔
      AllOk (runCall E tx.timestamp) (Spares E s.Returned) tx.call.slashes (tx.call.before s) :=
    ⟨fun hall => hall ⟨_, h⟩, fun hall _ => hall⟩
  rw [hspares]
  obtain ⟨timestamp, call⟩ := tx
  cases call with
  | createEscrow sender value config =>
      refine ⟨fun _ => ?_, fun hnot => absurd trivial hnot⟩
      obtain ⟨-, hvalue, escrowAddress, rfl⟩ := createEscrow_eq_ok h
      have hescrow : (config.escrow escrowAddress sender value timestamp).status = .created := rfl
      have hreturned : (s.creating (config.escrow escrowAddress sender value timestamp)
          value).Returned = s.Returned := by
        funext i
        rw [State.Returned, State.Returned, creating_escrows]
        by_cases hi : i = s.escrowCounter
        · -- the new id had nothing returned, or a payment would be on record
          have hvacant := hs.vacant i fun hescrow => by
            rw [hi] at hescrow
            exact Nat.lt_irrefl _ hescrow.2
          have hnot : ¬s.Returned i := fun hin => hs.returned i hin hvacant.2.1
          rw [State.Returned] at hnot
          rw [if_pos hi, hescrow]
          simpa using hnot
        · rw [if_neg hi]
      rw [hreturned]
      exact hs.creating hvalue rfl
  | fundEscrow sender escrowId token =>
      obtain ⟨calls, answer⟩ := token
      obtain ⟨-, hactive, hcreated, s₁, hcallee, rfl⟩ := fundEscrow_eq_ok h
      obtain ⟨rfl, -⟩ := Prod.mk.inj hcallee
      have hentered : Accounts s.Returned { s with entered := true } :=
        hs.congr rfl (fun i => ⟨rfl, rfl⟩) rfl rfl
      have hcalls := hentered.calls (E := E) rfl timestamp calls
      rw [← execAll_eq] at hcalls
      refine ⟨fun hall => ?_, fun hnot => (hcalls.2 hnot).congr rfl⟩
      have hkept := execAll_entered (E := E) timestamp calls
        (show ({ s with entered := true } : State Digest).entered = true from rfl)
      have h₁ := hcalls.1 hall
      generalize execAll E timestamp calls { s with entered := true } = s₁ at hkept h₁ ⊢
      have hreturned : State.Returned { s₁.setEscrow escrowId
          (fun escrow => { escrow with status := .funded }) with entered := false } =
          s.Returned := by
        funext i
        have hstatus : (s₁.escrows i).status = (s.escrows i).status := by
          rw [hkept]
          rfl
        by_cases hi : i = escrowId
        · subst hi
          simp [State.Returned, State.setEscrow, hcreated]
        · simp [State.Returned, State.setEscrow, hi, hstatus]
      rw [hreturned]
      exact h₁.setEscrow (f := fun escrow => { escrow with status := .funded }) (fun _ => rfl)
        (fun _ => rfl) false
  | claimEscrow sender escrowId preimage token =>
      obtain ⟨calls, answer⟩ := token
      exact (claimEscrow_eq_ok h).accounts hs (fun _ => rfl) (fun _ => rfl) fun _ => .inl rfl
  | refundEscrow sender escrowId token =>
      obtain ⟨calls, answer⟩ := token
      exact (refundEscrow_eq_ok h).accounts hs (fun _ => rfl) (fun _ => rfl) fun _ => .inr rfl
  | slashSafetyDeposit sender escrowId reason =>
      obtain ⟨hcan, rfl, -⟩ := slashSafetyDeposit_eq_ok.mp h
      have hreturned : (s.slashed escrowId).Returned = s.Returned := by
        funext i
        rw [State.Returned, State.Returned, slashed_escrows]
        split
        · rfl
        · rfl
      rw [hreturned]
      constructor
      · rintro ⟨hall, -⟩
        exact hs.slashed hcan fun hin => hall hin hcan
      · intro hnot
        have hin : s.Returned escrowId := by
          by_contra hin
          exact hnot ⟨fun h => absurd h hin, trivial⟩
        exact overpaid_slashed hs hin hcan.deposited

theorem depositsBacked_run (hs : Accounts s.Returned s) (tx : Transaction Digest) :
    (run E tx s).DepositsBacked ↔ SparesReturned E s tx := by
  cases hexec : exec E tx.timestamp tx.call s with
  | error e =>
      rw [run_of_error hexec]
      refine iff_of_true hs.depositsBacked ?_
      rintro ⟨result, hresult⟩
      rw [hexec] at hresult
      cases hresult
  | ok result =>
      obtain ⟨s', event⟩ := result
      obtain ⟨hkeeps, hbreaks⟩ := exec_accounts hs hexec
      rw [run_of_ok hexec]
      refine ⟨fun hbacked => ?_, fun hspares => (hkeeps hspares).depositsBacked⟩
      by_contra hnot
      exact hbacked.not_overpaid (hbreaks hnot)

theorem Accounts.run (hs : Accounts s.Returned s) (tx : Transaction Digest)
    (hspares : SparesReturned E s tx) :
    Accounts (EscrowFactory.run E tx s).Returned (EscrowFactory.run E tx s) := by
  cases hexec : exec E tx.timestamp tx.call s with
  | error e =>
      rw [run_of_error hexec]
      exact hs
  | ok result =>
      obtain ⟨s', event⟩ := result
      rw [run_of_ok hexec]
      exact (exec_accounts hs hexec).1 hspares

/-! ## Runs -/

omit [DecidableEq Digest] in
theorem accounts_deployed (E : Environment Digest) (owner : Address) :
    Accounts (State.deployed E owner).Returned (State.deployed E owner) where
  counter := le_rfl
  vacant i _ := ⟨rfl, rfl, rfl⟩
  held i hi := absurd hi (List.not_mem_nil)
  paid i hi := absurd rfl hi
  returned i hi := by
    rcases hi with hi | hi
    · cases hi
    · cases hi
  backed := Stakes.Backed.empty

/-- In every state of a run each deposit has been paid out at most once and the balance covers
the others, exactly if no transaction slashes an escrow that was claimed or refunded before. -/
theorem deposits_backed_iff (E : Environment Digest) (owner : Address)
    (txs : List (Transaction Digest)) :
    (∀ front, front <+: txs →
      (runAll (run E) front (State.deployed E owner)).DepositsBacked) ↔
      AllOk (run E) (SparesReturned E) txs (State.deployed E owner) := by
  have hs := accounts_deployed E owner
  exact forall_front_iff_allOk (fun s => Accounts s.Returned s)
    (fun s tx hs => depositsBacked_run hs tx) (fun s tx hs => hs.run tx) txs _ hs
    hs.depositsBacked

/-- The first of two escrows is claimed and then slashed, with the deposit of the second. -/
theorem slash_after_claim : ∃ (E : Environment ℕ) (owner : Address)
    (txs : List (Transaction ℕ)),
    (runAll (run E) txs (State.deployed E owner)).payouts 1 = [10 ^ 16, 10 ^ 16] ∧
      (runAll (run E) txs (State.deployed E owner)).deposit 1 = 10 ^ 16 ∧
      (runAll (run E) txs (State.deployed E owner)).unpaid = [2] ∧
      (runAll (run E) txs (State.deployed E owner)).ethBalance = 0 ∧
      ¬(runAll (run E) txs (State.deployed E owner)).DepositsBacked := by
  let E : Environment ℕ := {
    self := 99
    zero := 0
    keccakPreimage := fun preimage => preimage + 1
    keccakSalt := fun escrowId hashLock => escrowId + hashLock
    create2 := fun salt _ => some (1000 + salt) }
  let config (hashLock : ℕ) : EscrowConfig ℕ := {
    token := 7
    amount := 5
    hashLock := hashLock
    timelock := 10000
    beneficiary := 3
    refundAddress := 4
    safetyDeposit := 10 ^ 16
    chainId := 1
    stellarTxHash := 0
    isPartialFillEnabled := false }
  let txs : List (Transaction ℕ) := [
    ⟨1000, .createEscrow 5 (10 ^ 16) (config 11)⟩,
    ⟨1000, .createEscrow 6 (10 ^ 16) (config 12)⟩,
    ⟨1001, .fundEscrow 4 1 ([], .returned true)⟩,
    ⟨1002, .claimEscrow 3 1 10 ([], .returned true)⟩,
    ⟨1003, .slashSafetyDeposit 1 1 "late"⟩]
  have hpayouts : (runAll (run E) txs (State.deployed E 1)).payouts 1 = [10 ^ 16, 10 ^ 16] := by
    decide
  refine ⟨E, 1, txs, hpayouts, by decide, by decide +kernel, by decide +kernel,
    fun hbacked => ?_⟩
  rcases hbacked.once 1 with h | h
  · simp [hpayouts] at h
  · simp [hpayouts] at h

end OverSync.EscrowFactory
