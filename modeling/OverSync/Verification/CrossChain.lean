import OverSync.Verification.HTLCEscrow.Replay
import OverSync.Verification.SorobanHtlc.Settlement

/-! # One hashlock on both chains

The escrow hashes the bare preimage, `oversync-htlc` the order id and the preimage. Two orders
under one hashlock are opened by different preimages, if by any. -/

namespace OverSync.CrossChain

open Function Library

variable {Digest : Type} [DecidableEq Digest]

/-! ## When a leg accepts a preimage -/

/-- The escrow does not turn the claim down; at most a payment of it fails. -/
def EscrowAccepts (H : HTLCEscrow.HashFunctions Digest) (C : HTLCEscrow.Deployment)
    (env : HTLCEscrow.Env) (sender : HTLCEscrow.Address) (payee caller : HTLCEscrow.Callee Digest)
    (s : HTLCEscrow.State Digest) (orderId : HTLCEscrow.OrderId) (preimage : Bytes) : Prop :=
  ∀ e, HTLCEscrow.claimOrder H C env sender orderId preimage payee caller s = .error e →
    e = .nativeTransferFailed ∨ e = .safeERC20FailedOperation

/-- `oversync-htlc` does not turn the claim down; at most a transfer of it fails. -/
def HtlcAccepts (sha256 : Bytes → Digest) (env : SorobanHtlc.Env) (caller : SorobanHtlc.Address)
    (pay deposit : Bool) (s : SorobanHtlc.State Digest) (orderId : SorobanHtlc.OrderId)
    (preimage : Bytes) : Prop :=
  ∀ failure, SorobanHtlc.claimOrder sha256 env orderId preimage caller pay deposit s =
    .error failure → failure = .invocation ∨ failure = .insufficientBalance

/-- An idle escrow without registry holds a funded order under `h` that can still be
claimed. -/
structure EscrowLeg (C : HTLCEscrow.Deployment) (env : HTLCEscrow.Env)
    (s : HTLCEscrow.State Digest) (orderId : HTLCEscrow.OrderId) (h : Digest) : Prop where
  no_registry : C.resolverRegistry = HTLCEscrow.zeroAddress
  idle : s.entered = false
  funded : (s.orders orderId).Funded
  hashlock : (s.orders orderId).hashlock = h
  in_time : env.timestamp ≤ (s.orders orderId).timelock

/-- An initialised `oversync-htlc` holds a funded order under `h` that can still be claimed,
and the claim is signed by its caller. -/
structure HtlcLeg (env : SorobanHtlc.Env) (caller : SorobanHtlc.Address)
    (s : SorobanHtlc.State Digest) (orderId : SorobanHtlc.OrderId) (h : Digest) : Prop where
  initialised : s.inst.admin ≠ none
  signed : caller ≠ env.self ∧ env.auth caller = true
  order : ∃ order, s.orders orderId = some order ∧ order.status = .funded ∧
    order.hashlock = h ∧ env.timestamp ≤ order.timelock

/-! ## The escrow -/

section Escrow

variable {H : HTLCEscrow.HashFunctions Digest} {C : HTLCEscrow.Deployment}
  {env : HTLCEscrow.Env} {s : HTLCEscrow.State Digest} {orderId : HTLCEscrow.OrderId} {h : Digest}

omit [DecidableEq Digest] in
theorem payout_error {token recipient : HTLCEscrow.Address} {amount : ℕ}
    {callee : HTLCEscrow.Callee Digest} {e : HTLCEscrow.Error}
    (herror : HTLCEscrow.payout C token recipient amount callee s = .error e) :
    e = .nativeTransferFailed ∨ e = .safeERC20FailedOperation := by
  unfold HTLCEscrow.payout at herror
  split at herror
  · left
    rcases bind_eq_error.mp herror with h | ⟨_, _, h⟩
    · exact (require_eq_error.mp h).2
    · rcases bind_eq_error.mp h with h | ⟨_, _, h⟩
      · exact (require_eq_error.mp h).2
      · cases h
  · right
    rcases bind_eq_error.mp herror with h | ⟨_, _, h⟩
    · exact (require_eq_error.mp h).2
    · rcases bind_eq_error.mp h with h | ⟨_, _, h⟩
      · exact (require_eq_error.mp h).2
      · cases h

omit [DecidableEq Digest] in
theorem settle_error {order : HTLCEscrow.Order Digest} {recipient sender : HTLCEscrow.Address}
    {payee caller : HTLCEscrow.Callee Digest} {e : HTLCEscrow.Error}
    (herror : HTLCEscrow.settle C order recipient sender payee caller s = .error e) :
    e = .nativeTransferFailed ∨ e = .safeERC20FailedOperation := by
  unfold HTLCEscrow.settle at herror
  rcases bind_eq_error.mp herror with h | ⟨_, _, h⟩
  · exact payout_error h
  · by_cases hdeposit : 0 < order.safetyDeposit
    · simp only [hdeposit, if_true] at h
      rcases bind_eq_error.mp h with h | ⟨_, _, h⟩
      · exact payout_error h
      · cases h
    · simp only [hdeposit, if_false] at h
      cases h

/-- The escrow accepts exactly the preimages of the hashlock. -/
theorem escrowAccepts_iff (hleg : EscrowLeg C env s orderId h) {sender : HTLCEscrow.Address}
    {payee caller : HTLCEscrow.Callee Digest} {preimage : Bytes} :
    EscrowAccepts H C env sender payee caller s orderId preimage ↔ H.sha256 preimage = h := by
  have hactive : HTLCEscrow.requireActive C env sender .claimResolverNotRegistered = .ok () :=
    if_pos hleg.no_registry
  unfold EscrowAccepts HTLCEscrow.claimOrder
  simp only [require_of hleg.idle, require_of hleg.funded.1, require_of hleg.funded.2,
    require_of hleg.in_time, hactive, ok_bind, hleg.hashlock]
  constructor
  · intro haccepts
    by_contra hsha
    rw [require_of_not hsha] at haccepts
    rcases haccepts _ rfl with h | h <;> cases h
  · intro hsha e herror
    rw [require_of hsha, ok_bind] at herror
    rcases bind_eq_error.mp herror with h | ⟨_, _, h⟩
    · exact settle_error h
    · cases h

end Escrow

/-! ## `oversync-htlc` -/

section Htlc

variable {sha256 : Bytes → Digest} {env : SorobanHtlc.Env} {s : SorobanHtlc.State Digest}
  {caller : SorobanHtlc.Address} {orderId : SorobanHtlc.OrderId} {h : Digest}

omit [DecidableEq Digest] in
theorem payTransfer_error {t : SorobanHtlc.Transfer} {ok : Bool} {failure : SorobanHtlc.Failure}
    (herror : SorobanHtlc.payTransfer env t ok s = .error failure) :
    failure = .invocation ∨ failure = .insufficientBalance := by
  unfold SorobanHtlc.payTransfer at herror
  rcases bind_eq_error.mp herror with h | ⟨_, _, h⟩
  · exact .inl (require_eq_error.mp h).2
  · rcases bind_eq_error.mp h with h | ⟨_, _, h⟩
    · exact .inr (require_eq_error.mp h).2
    · rcases bind_eq_error.mp h with h | ⟨_, _, h⟩
      · exact .inl (require_eq_error.mp h).2
      · cases h

omit [DecidableEq Digest] in
theorem htlc_settle_error {order : SorobanHtlc.Order Digest} {recipient : SorobanHtlc.Address}
    {pay deposit : Bool} {failure : SorobanHtlc.Failure}
    (herror : SorobanHtlc.settle env order recipient caller pay deposit s = .error failure) :
    failure = .invocation ∨ failure = .insufficientBalance := by
  unfold SorobanHtlc.settle at herror
  rcases bind_eq_error.mp herror with h | ⟨_, _, h⟩
  · exact payTransfer_error h
  · by_cases hdeposit : 0 < order.safetyDeposit
    · simp only [hdeposit, if_true] at h
      rcases bind_eq_error.mp h with h | ⟨_, _, h⟩
      · exact payTransfer_error h
      · cases h
    · simp only [hdeposit, if_false] at h
      cases h

/-- `oversync-htlc` accepts exactly the nonempty preimages that open the hashlock together
with the order id. -/
theorem htlcAccepts_iff (hleg : HtlcLeg env caller s orderId h) {pay deposit : Bool}
    {preimage : Bytes} : HtlcAccepts sha256 env caller pay deposit s orderId preimage ↔
      preimage ≠ [] ∧ sha256 (SorobanHtlc.hashInput orderId preimage) = h := by
  obtain ⟨order, hentry, hfunded, rfl, htime⟩ := hleg.order
  have horder : SorobanHtlc.getOrder s orderId = .ok order :=
    SorobanHtlc.getOrder_eq_ok.mpr hentry
  unfold HtlcAccepts SorobanHtlc.claimOrder SorobanHtlc.requireInitialised
    SorobanHtlc.requireAuth
  simp only [require_of hleg.initialised, require_of hleg.signed, horder, require_of hfunded,
    require_of htime, ok_bind, ne_eq, List.length_eq_zero_iff]
  constructor
  · intro haccepts
    by_cases hempty : preimage = []
    · rw [require_of_not (not_not.mpr hempty)] at haccepts
      rcases haccepts _ rfl with h | h <;> cases h
    · refine ⟨hempty, ?_⟩
      by_contra hsha
      rw [require_of hempty, ok_bind, require_of_not hsha] at haccepts
      rcases haccepts _ rfl with h | h <;> cases h
  · rintro ⟨hempty, hsha⟩ failure herror
    rw [require_of hempty, ok_bind, require_of hsha, ok_bind] at herror
    rcases bind_eq_error.mp herror with h | ⟨_, _, h⟩
    · exact htlc_settle_error h
    · cases h

end Htlc

theorem length_hashInput (orderId : SorobanHtlc.OrderId) (preimage : Bytes) :
    (SorobanHtlc.hashInput orderId preimage).length = 32 + preimage.length := by
  simp only [SorobanHtlc.hashInput, List.length_append, List.length_replicate,
    length_toBigEndian]

/-- Two legs under one hashlock accept the same preimages exactly when neither can be opened
at all. -/
theorem legs_agree_iff {H : HTLCEscrow.HashFunctions Digest} (hinj : Injective H.sha256)
    {C : HTLCEscrow.Deployment} {env : HTLCEscrow.Env} {s : HTLCEscrow.State Digest}
    {m : HTLCEscrow.OrderId} {env' : SorobanHtlc.Env} {t : SorobanHtlc.State Digest}
    {n : SorobanHtlc.OrderId} {h : Digest} {sender : HTLCEscrow.Address}
    {payee caller : HTLCEscrow.Callee Digest} {caller' : SorobanHtlc.Address} {pay deposit : Bool}
    (hescrow : EscrowLeg C env s m h) (hhtlc : HtlcLeg env' caller' t n h) :
    (∀ preimage, EscrowAccepts H C env sender payee caller s m preimage ↔
      HtlcAccepts H.sha256 env' caller' pay deposit t n preimage) ↔
    ∀ data, H.sha256 data ≠ h := by
  simp only [escrowAccepts_iff hescrow, htlcAccepts_iff hhtlc]
  constructor
  · intro hagree data hdata
    obtain ⟨-, hhash⟩ := (hagree data).mp hdata
    have hinput := congrArg List.length (hinj (hhash.trans hdata.symm))
    rw [length_hashInput] at hinput
    omega
  · intro hclosed preimage
    exact ⟨fun hsha => absurd hsha (hclosed _), fun hsha => absurd hsha.2 (hclosed _)⟩

/-! ## Runs on fixed inputs -/

section Runs

open HTLCEscrow (taggedHash openDeployment genesis createRecord createRecord_step)
open SorobanHtlc (ledger stroopRecords stroopRecords_run)

/-- A callee that takes its payment. -/
def accepting : HTLCEscrow.Callee Bytes := fun s => (s, true)

/-- Both contracts, started empty, reach a funded order under one hashlock. -/
theorem legs_reachable (hashlock : Bytes) (hhashlock : hashlock ≠ [0]) : ∃ s t,
    Execution (HTLCEscrow.Step taggedHash openDeployment) (HTLCEscrow.State.deployed taggedHash)
      [createRecord 1 hashlock] s ∧
    Execution (SorobanHtlc.Step taggedHash.sha256 1) SorobanHtlc.State.deployed
      (stroopRecords hashlock) t ∧
    EscrowLeg openDeployment genesis s 1 hashlock ∧ HtlcLeg ledger 5 t 1 hashlock := by
  obtain ⟨t, hrun, hadmin, horder, -⟩ := stroopRecords_run hashlock
  refine ⟨_, t, .single (createRecord_step rfl rfl hhashlock), hrun, ?_, ?_⟩
  · exact ⟨rfl, rfl, ⟨Nat.one_ne_zero, rfl⟩, rfl, Nat.zero_le _⟩
  · exact ⟨by simp [hadmin], by decide, _, horder, rfl, rfl, Nat.zero_le _⟩

theorem taggedHash_injective : Injective taggedHash.sha256 :=
  List.cons_injective

theorem legs_agree_iff_tagged : ∃ s t,
    (∀ preimage, EscrowAccepts taggedHash openDeployment genesis 5 accepting accepting s 1
        preimage ↔ HtlcAccepts taggedHash.sha256 ledger 5 true true t 1 preimage) ↔
      ∀ data, taggedHash.sha256 data ≠ [3] := by
  obtain ⟨s, t, -, -, hescrow, hhtlc⟩ := legs_reachable [3] (by decide)
  exact ⟨s, t, legs_agree_iff taggedHash_injective hescrow hhtlc⟩

/-- The preimage that claims the Ethereum leg does not claim the Stellar leg. -/
theorem revealed_secret_useless : ∃ s t,
    Execution (HTLCEscrow.Step taggedHash openDeployment) (HTLCEscrow.State.deployed taggedHash)
      [createRecord 1 [1, 7]] s ∧
    Execution (SorobanHtlc.Step taggedHash.sha256 1) SorobanHtlc.State.deployed
      (stroopRecords [1, 7]) t ∧
    Injective taggedHash.sha256 ∧
    EscrowLeg openDeployment genesis s 1 [1, 7] ∧ HtlcLeg ledger 5 t 1 [1, 7] ∧
    ¬∀ preimage, EscrowAccepts taggedHash openDeployment genesis 5 accepting accepting s 1
      preimage ↔ HtlcAccepts taggedHash.sha256 ledger 5 true true t 1 preimage := by
  obtain ⟨s, t, hs, ht, hescrow, hhtlc⟩ := legs_reachable [1, 7] (by decide)
  refine ⟨s, t, hs, ht, taggedHash_injective, hescrow, hhtlc, fun hagree => ?_⟩
  have hboth := hagree [7]
  rw [escrowAccepts_iff hescrow, htlcAccepts_iff hhtlc] at hboth
  exact absurd (hboth.mp rfl).2 (by decide)

end Runs

end OverSync.CrossChain
