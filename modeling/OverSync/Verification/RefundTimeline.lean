import OverSync.Model.Coordinator.RefundEligibility
import OverSync.Model.RefundTimeline
import OverSync.Verification.HTLCEscrow.Liveness
import OverSync.Verification.SorobanHtlc.Liveness

/-! # What users are told about refunds

Both escrows accept a claim up to the second of the timelock and a refund from the next second
on. The simulator of the SDK and the eligibility route of the coordinator are compared with what
the two contracts do at that time. -/

namespace OverSync.RefundTimeline

open Library
open Coordinator (Chain)

variable {Digest : Type}

/-! ## Both legs of a swap -/

/-- Who calls the two contracts, and with what. -/
structure Parties (Digest : Type) where
  sender : HTLCEscrow.Address
  /-- The answers of the Ethereum registry. -/
  isActive : HTLCEscrow.Address → Option Bool
  /-- What the recipients of the payments do before they accept them. -/
  payee : List (HTLCEscrow.Call Digest)
  paidSender : List (HTLCEscrow.Call Digest)
  preimage : Bytes
  caller : SorobanHtlc.Address
  ledger : SorobanHtlc.Env
  secret : Bytes

/-- A swap after some run of each contract. -/
structure Legs (Digest : Type) where
  escrow : HTLCEscrow.State Digest
  escrowId : HTLCEscrow.OrderId
  htlc : SorobanHtlc.State Digest
  htlcId : SorobanHtlc.OrderId
  htlcOrder : SorobanHtlc.Order Digest

def Legs.timelock (legs : Legs Digest) : Chain → ℕ
  | .ethereum => (legs.escrow.orders legs.escrowId).timelock
  | .stellar => legs.htlcOrder.timelock

/-! ## The simulator -/

def SimulatorDirection.source : SimulatorDirection → Chain
  | .ethToXlm => .ethereum
  | .xlmToEth => .stellar

def SimulatorDirection.destination : SimulatorDirection → Chain
  | .ethToXlm => .stellar
  | .xlmToEth => .ethereum

/-- The timelocks of a swap as the simulator takes them. -/
def Legs.input (legs : Legs Digest) (direction : SimulatorDirection) (sourceObserved
    destinationObserved : Bool) (nowUnixSeconds : Option ℤ) : RefundTimelineInput where
  direction := direction
  sourceTimelockUnixSeconds := legs.timelock direction.source
  destinationTimelockUnixSeconds := legs.timelock direction.destination
  sourceLockObserved := sourceObserved
  destinationLockObserved := destinationObserved
  nowUnixSeconds := nowUnixSeconds

/-- With both locks observed only the two timelocks and the clock matter. -/
theorem simulatedState_observed (legs : Legs Digest) (direction : SimulatorDirection)
    (nowUnixSeconds : Option ℤ) (now : ℕ) :
    simulatedState (legs.input direction true true nowUnixSeconds) now =
      if legs.timelock direction.destination < now then
        if legs.timelock direction.source < now then .refundable else .waiting
      else .claimable := by
  unfold simulatedState Legs.input
  by_cases hsource : legs.timelock direction.source < now <;>
    by_cases hdestination : legs.timelock direction.destination < now <;>
    simp [hsource, hdestination]

/-! ## What the contracts accept -/

variable [DecidableEq Digest]

/-- The claim on a chain goes through in a block at `now`. -/
def ClaimAccepted (H : HTLCEscrow.HashFunctions Digest) (C : HTLCEscrow.Deployment)
    (legs : Legs Digest) (p : Parties Digest) (now : ℕ) : Chain → Prop
  | .ethereum => ∃ t receipt, HTLCEscrow.exec H C ⟨now, p.isActive⟩
      (.claimOrder p.sender legs.escrowId p.preimage (p.payee, true) (p.paidSender, true))
      legs.escrow = .ok (t, receipt)
  | .stellar => ∃ t receipt, SorobanHtlc.exec H.sha256 { p.ledger with timestamp := now } legs.htlc
      (.claimOrder legs.htlcId p.secret p.caller true true) = .ok (t, receipt)

/-- The refund on a chain goes through in a block at `now`. -/
def RefundAccepted (H : HTLCEscrow.HashFunctions Digest) (C : HTLCEscrow.Deployment)
    (legs : Legs Digest) (p : Parties Digest) (now : ℕ) : Chain → Prop
  | .ethereum => ∃ t receipt, HTLCEscrow.exec H C ⟨now, p.isActive⟩
      (.refundOrder p.sender legs.escrowId (p.payee, true) (p.paidSender, true)) legs.escrow =
        .ok (t, receipt)
  | .stellar => ∃ t receipt, SorobanHtlc.exec H.sha256 { p.ledger with timestamp := now } legs.htlc
      (.refundOrder legs.htlcId p.caller true true) = .ok (t, receipt)

/-- Both orders are funded after runs of their contracts, and the calls have what they need: a
caller other than the contract, payable recipients, the preimages and the signature. -/
structure Locked (H : HTLCEscrow.HashFunctions Digest) (C : HTLCEscrow.Deployment)
    (legs : Legs Digest) (p : Parties Digest) : Prop where
  escrow_run : ∃ records, Execution (HTLCEscrow.Step H C) (.deployed H) records legs.escrow ∧
    (HTLCEscrow.creations H records).length ≤ 2 ^ 256
  htlc_run : ∃ records,
    Execution (SorobanHtlc.Step H.sha256 p.ledger.self) .deployed records legs.htlc
  escrow_funded : (legs.escrow.orders legs.escrowId).Funded
  htlc_entry : legs.htlc.orders legs.htlcId = some legs.htlcOrder
  htlc_funded : legs.htlcOrder.status = .funded
  sender : p.sender ≠ C.self
  registered : ∀ now, HTLCEscrow.requireActive C ⟨now, p.isActive⟩ p.sender
    .claimResolverNotRegistered = .ok ()
  preimage : H.sha256 p.preimage = (legs.escrow.orders legs.escrowId).hashlock
  beneficiary : HTLCEscrow.Payable C (legs.escrow.orders legs.escrowId).token
    (legs.escrow.orders legs.escrowId).beneficiary
  refundAddress : HTLCEscrow.Payable C (legs.escrow.orders legs.escrowId).token
    (legs.escrow.orders legs.escrowId).refundAddress
  signed : p.caller ≠ p.ledger.self ∧ p.ledger.auth p.caller = true
  secret_ne_nil : p.secret ≠ []
  secret : H.sha256 (SorobanHtlc.hashInput legs.htlcId p.secret) = legs.htlcOrder.hashlock

variable {H : HTLCEscrow.HashFunctions Digest} {C : HTLCEscrow.Deployment} {legs : Legs Digest}
  {p : Parties Digest}

/-- Claims go through up to and in the second of the timelock. -/
theorem Locked.claimAccepted_iff (h : Locked H C legs p) (now : ℕ) (chain : Chain) :
    ClaimAccepted H C legs p now chain ↔ now ≤ legs.timelock chain := by
  cases chain with
  | ethereum =>
      obtain ⟨records, hrun, hids⟩ := h.escrow_run
      constructor
      · rintro ⟨t, receipt, hexec⟩
        rw [HTLCEscrow.exec_claimOrder] at hexec
        exact (HTLCEscrow.claimOrder_eq_ok (HTLCEscrow.inert_answer true)
          (HTLCEscrow.inert_answer true) hexec).2.1
      · intro htime
        exact HTLCEscrow.claimOrder_accepted hrun hids h.escrow_funded htime (h.registered now)
          h.preimage h.sender h.beneficiary p.payee p.paidSender
  | stellar =>
      obtain ⟨records, hrun⟩ := h.htlc_run
      constructor
      · rintro ⟨t, receipt, hexec⟩
        obtain ⟨order, hspec, htime, -⟩ :=
          SorobanHtlc.claimOrder_eq_ok (SorobanHtlc.inv_of_execution hrun) hexec
        obtain rfl : legs.htlcOrder = order := Option.some.inj (h.htlc_entry.symm.trans hspec.entry)
        exact htime
      · intro htime
        exact @SorobanHtlc.claimOrder_accepted _ _ _ { p.ledger with timestamp := now } _ _ _ _ _ _
          hrun rfl h.htlc_entry h.htlc_funded _ htime h.signed h.secret_ne_nil h.secret

/-- Refunds go through from the second after the timelock on. -/
theorem Locked.refundAccepted_iff (h : Locked H C legs p) (now : ℕ) (chain : Chain) :
    RefundAccepted H C legs p now chain ↔ legs.timelock chain < now := by
  cases chain with
  | ethereum =>
      obtain ⟨records, hrun, hids⟩ := h.escrow_run
      constructor
      · rintro ⟨t, receipt, hexec⟩
        rw [HTLCEscrow.exec_refundOrder] at hexec
        exact (HTLCEscrow.refundOrder_eq_ok (HTLCEscrow.inert_answer true)
          (HTLCEscrow.inert_answer true) hexec).2.1
      · intro htime
        exact (@HTLCEscrow.refundOrder_accepted_iff _ _ _ ⟨now, p.isActive⟩ _ _ _ _ _ hrun hids
          h.escrow_funded htime h.sender p.payee p.paidSender).mpr h.refundAddress
  | stellar =>
      obtain ⟨records, hrun⟩ := h.htlc_run
      constructor
      · rintro ⟨t, receipt, hexec⟩
        obtain ⟨order, hspec, htime, -⟩ :=
          SorobanHtlc.refundOrder_eq_ok (SorobanHtlc.inv_of_execution hrun) hexec
        obtain rfl : legs.htlcOrder = order := Option.some.inj (h.htlc_entry.symm.trans hspec.entry)
        exact htime
      · intro htime
        exact @SorobanHtlc.refundOrder_accepted _ _ _ { p.ledger with timestamp := now } _ _ _ _ _ _
          hrun rfl h.htlc_entry h.htlc_funded htime h.signed

/-! ## The simulator and the contracts -/

/-- With both locks observed, the simulator says what the escrows accept at that second: the
claim of the destination; the refund of both; or, while it says to wait, the refund of the
destination together with the claim of the source. A destination that expires first leaves
`refundable` to the refund of the source. -/
theorem simulateRefundTimeline_agrees (h : Locked H C legs p) (direction : SimulatorDirection)
    {now : ℕ} {nowUnixSeconds : Option ℤ} {clockMs : ℤ}
    (hnow : nowUnixSeconds.getD (clockMs / 1000) = now) {state : SimulatedState}
    (hstate : (simulateRefundTimeline (legs.input direction true true nowUnixSeconds)
      clockMs).state = state) :
    (state = .claimable ↔ ClaimAccepted H C legs p now direction.destination) ∧
    (state = .refundable ↔ RefundAccepted H C legs p now direction.source ∧
      RefundAccepted H C legs p now direction.destination) ∧
    (state = .waiting ↔ RefundAccepted H C legs p now direction.destination ∧
      ClaimAccepted H C legs p now direction.source) ∧
    (legs.timelock direction.destination ≤ legs.timelock direction.source →
      (state = .refundable ↔ RefundAccepted H C legs p now direction.source)) := by
  have hobserved := simulatedState_observed legs direction nowUnixSeconds now
  rw [← hnow] at hobserved
  rw [simulateRefundTimeline] at hstate
  simp only at hstate
  rw [show (legs.input direction true true nowUnixSeconds).nowUnixSeconds = nowUnixSeconds from rfl,
    hobserved] at hstate
  simp only [h.claimAccepted_iff, h.refundAccepted_iff, ← hstate]
  split_ifs with hdestination hsource
  · simp only [false_iff, true_iff]
    omega
  · simp only [false_iff, true_iff]
    omega
  · simp only [false_iff, true_iff]
    omega

/-! ## The route of the coordinator -/

omit [DecidableEq Digest] in
/-- The locked sides are the chains whose timelock is unknown or not over. -/
theorem mem_lockedSides {timelocks : Coordinator.ChainTimelocks} {now : ℤ}
    {side : Coordinator.LockedSide} :
    side ∈ (Coordinator.evaluateRefundEligibility timelocks now).lockedSides ↔
      ∃ timelock, (side.chain, timelock) ∈ timelocks.entries ∧ (∀ t ∈ timelock, now ≤ t) ∧
        side.earliestRefundAt = timelock.map (· + 1) := by
  cases side with
  | mk chain earliestRefundAt =>
      simp only [Coordinator.evaluateRefundEligibility, List.mem_map, List.mem_filter,
        Coordinator.LockedSide.mk.injEq, Prod.exists]
      constructor
      · rintro ⟨chain', timelock, ⟨hmem, hlocked⟩, rfl, rfl⟩
        exact ⟨timelock, hmem, by simpa [Option.all_eq_true] using hlocked, rfl⟩
      · rintro ⟨timelock, hmem, hlocked, rfl⟩
        exact ⟨chain, timelock, ⟨hmem, by simpa [Option.all_eq_true] using hlocked⟩, rfl, rfl⟩

omit [DecidableEq Digest] in
theorem eligible_iff {timelocks : Coordinator.ChainTimelocks} {now : ℤ} :
    (Coordinator.evaluateRefundEligibility timelocks now).eligible = true ↔
      (Coordinator.evaluateRefundEligibility timelocks now).lockedSides = [] := by
  simp [Coordinator.evaluateRefundEligibility]

/-- The coordinator answers that an order can be refunded exactly when both escrows accept the
refund; otherwise it names the chains that do not, each with the first second at which its
escrow will. -/
theorem refundEligibilityRoute_agrees (h : Locked H C legs p) (direction : SimulatorDirection)
    {db : Coordinator.Database} {id : String} {row : Coordinator.OrderRow} {now : ℕ} {clockMs : ℤ}
    (hrow : db.byPublicId id = some row) (hnow : clockMs / 1000 = now)
    (hsource : row.srcChain = direction.source)
    (hsrcTimelock : row.srcTimelock = some (legs.timelock direction.source : ℤ))
    (hdstTimelock : row.dstTimelock = some (legs.timelock direction.destination : ℤ)) :
    ∃ answer, Coordinator.refundEligibilityRoute db id clockMs = .answered answer ∧
      (answer.eligible = true ↔ ∀ chain, RefundAccepted H C legs p now chain) ∧
      (∀ chain, chain ∈ answer.lockedSides.map (·.chain) ↔
        ¬RefundAccepted H C legs p now chain) ∧
      ∀ side ∈ answer.lockedSides, ∃ first : ℕ, side.earliestRefundAt = some (first : ℤ) ∧
        ∀ time, RefundAccepted H C legs p time side.chain ↔ first ≤ time := by
  have htimelocks : row.chainTimelocks =
      ⟨some (legs.timelock .ethereum : ℤ), some (legs.timelock .stellar : ℤ)⟩ := by
    unfold Coordinator.OrderRow.chainTimelocks
    rw [hsource, hsrcTimelock, hdstTimelock]
    cases direction <;> rfl
  refine ⟨_, by rw [Coordinator.refundEligibilityRoute, hrow], ?_⟩
  have hside (side : Coordinator.LockedSide) :
      side ∈ (Coordinator.evaluateRefundEligibility row.chainTimelocks (clockMs / 1000)).lockedSides ↔
        now ≤ legs.timelock side.chain ∧
          side.earliestRefundAt = some ((legs.timelock side.chain + 1 : ℕ) : ℤ) := by
    rw [mem_lockedSides, htimelocks, hnow]
    cases side with
    | mk chain earliestRefundAt =>
        cases chain <;> simp [Coordinator.ChainTimelocks.entries]
  have hchain (chain : Chain) : chain ∈ (Coordinator.evaluateRefundEligibility row.chainTimelocks
      (clockMs / 1000)).lockedSides.map (·.chain) ↔ now ≤ legs.timelock chain := by
    constructor
    · intro hmem
      obtain ⟨side, hlocked, rfl⟩ := List.mem_map.mp hmem
      exact ((hside side).mp hlocked).1
    · intro hlocked
      exact List.mem_map.mpr ⟨⟨chain, some ((legs.timelock chain + 1 : ℕ) : ℤ)⟩,
        (hside _).mpr ⟨hlocked, rfl⟩, rfl⟩
  simp only [h.refundAccepted_iff, hchain, Nat.not_lt, implies_true, true_and]
  refine ⟨?_, fun side hmem => ?_⟩
  · rw [eligible_iff, List.eq_nil_iff_forall_not_mem]
    constructor
    · intro hnone chain
      by_contra hlocked
      obtain ⟨side, hmem, -⟩ := List.mem_map.mp ((hchain chain).mpr (Nat.not_lt.mp hlocked))
      exact hnone side hmem
    · intro hopen side hmem
      have hlocked := ((hside side).mp hmem).1
      have hover := hopen side.chain
      omega
  · exact ⟨legs.timelock side.chain + 1, ((hside side).mp hmem).2, fun time => by omega⟩

/-! ## A swap of one wei and one stroop -/

section Runs

open HTLCEscrow (taggedHash openDeployment)
open SorobanHtlc (hashInput ledger stroopOrder stroopRecords_run)

/-- Address 5 calls both contracts, with the preimages `[7]`. -/
def weiParties : Parties Bytes := ⟨5, fun _ => none, [], [], [7], 5, ledger, [7]⟩

/-- Both orders expire at second 300. -/
theorem weiLegs_locked : ∃ legs, Locked taggedHash openDeployment legs weiParties ∧
    (∀ chain, legs.timelock chain = 300) := by
  obtain ⟨e, hescrow, horders⟩ := HTLCEscrow.weiCreation_run
  obtain ⟨t, hhtlc, -, hstored, -⟩ := stroopRecords_run (1 :: hashInput 1 [7])
  have horder : e.orders 1 = HTLCEscrow.weiOrder.order taggedHash 2 0 := by simp [horders]
  refine ⟨⟨e, 1, t, 1, (stroopOrder (1 :: hashInput 1 [7])).order 1 0⟩, ⟨⟨_, hescrow, ?_⟩,
    ⟨_, hhtlc⟩, ?_, hstored, rfl, by decide, fun now => rfl, ?_, ?_, ?_, by decide, by simp [weiParties],
    rfl⟩, fun chain => ?_⟩
  · exact (List.length_filterMap_le _ _).trans (by simp)
  · rw [horder]
    decide
  · rw [horder]
    rfl
  · rw [horder]
    decide
  · rw [horder]
    decide
  · cases chain with
    | ethereum => rw [Legs.timelock, horder]; rfl
    | stellar => rfl

/-- In second 300 the simulator shows the claim, and the claim goes through. -/
theorem wei_claimable : ∃ legs,
    (simulateRefundTimeline (legs.input .ethToXlm true true (some 300)) 0).state = .claimable ∧
    ClaimAccepted taggedHash openDeployment legs weiParties 300 .stellar := by
  obtain ⟨legs, hlocked, htimelock⟩ := weiLegs_locked
  have hstate : (simulateRefundTimeline (legs.input .ethToXlm true true (some 300)) 0).state =
      .claimable := by
    simp [simulateRefundTimeline, simulatedState, Legs.input, htimelock]
  exact ⟨legs, hstate, (simulateRefundTimeline_agrees hlocked .ethToXlm rfl hstate).1.mp rfl⟩

/-- The coordinator's row of that swap. -/
def weiRow : Coordinator.StoredOrder where
  id := 1
  publicId := "7"
  direction := .ethToXlm
  status := .dstLocked
  hashlock := "0x07"
  srcChain := .ethereum
  srcAddress := "0x02"
  srcAsset := "native"
  srcAmount := "1"
  srcSafetyDeposit := "0"
  srcOrderId := some "1"
  srcLockTx := some "0x01"
  srcLockBlock := some 1
  srcTimelock := some 300
  dstChain := .stellar
  dstAddress := "G3"
  dstAsset := "native"
  dstAmount := "1"
  dstOrderId := some "1"
  dstLockTx := some "01"
  dstLockBlock := some 1
  dstTimelock := some 300
  preimage := none
  secretRevealedTx := none
  resolverAddress := none
  fixture := false
  createdAt := 0
  updatedAt := 0

/-- In second 301 the coordinator answers that the order can be refunded. -/
theorem wei_eligible : ∃ legs answer, Coordinator.refundEligibilityRoute
      { Coordinator.Database.empty with orders := [weiRow] } "7" 301999 = .answered answer ∧
    answer.eligible = true ∧
    ∀ chain, RefundAccepted taggedHash openDeployment legs weiParties 301 chain := by
  obtain ⟨legs, hlocked, htimelock⟩ := weiLegs_locked
  have hrow : Coordinator.Database.byPublicId
      { Coordinator.Database.empty with orders := [weiRow] } "7" = some weiRow.toOrderRow := by
    decide
  obtain ⟨answer, hanswer, heligible, -⟩ := refundEligibilityRoute_agrees hlocked .ethToXlm hrow
    (show (301999 : ℤ) / 1000 = (301 : ℕ) by decide) rfl (by rw [htimelock]; rfl)
    (by rw [htimelock]; rfl)
  have haccepted (chain : Chain) :
      RefundAccepted taggedHash openDeployment legs weiParties 301 chain := by
    rw [hlocked.refundAccepted_iff, htimelock]
    decide
  exact ⟨legs, answer, hanswer, heligible.mpr haccepted, haccepted⟩

end Runs

end OverSync.RefundTimeline
