import OverSync.Verification.E2eSim.Escrow
import OverSync.Verification.E2eSim.Htlc

/-! # Where the simulators are faithful

Both simulators keep the same orders, and so do the contracts as long as all four have accepted
the same operations. They do so exactly while the operations conform. -/

namespace OverSync.E2eSim

open Function Library

variable {S : Setting} {q : System} {op : Op} {sim : HtlcSim}

/-! ## What conforming means for acceptance -/

/-- Two ways to open an order lead to the same claims iff they agree on every claim in time of a
funded order. -/
theorem accepts_claim_iff {creatable creatable' : CreateOrderInput → Prop}
    {opens opens' : OrderView → Bytes → Prop} (caller : String) (id : ℤ) (preimage : String) :
    (Accepts creatable opens sim (.claimOrder caller id preimage) ↔
        Accepts creatable' opens' sim (.claimOrder caller id preimage)) ↔
      ∀ order, sim.Held id order → sim.now ≤ order.timelockAbsolute → ∀ bytes,
        bytesArgument preimage = some bytes → (opens order bytes ↔ opens' order bytes) := by
  simp only [Accepts]
  constructor
  · intro h order hheld htime bytes hbytes
    have hone (opens : OrderView → Bytes → Prop) :
        (∃ order, sim.Held id order ∧ sim.now ≤ order.timelockAbsolute ∧
          ∃ bytes, bytesArgument preimage = some bytes ∧ opens order bytes) ↔
        opens order bytes := by
      constructor
      · rintro ⟨other, hother, -, argument, hargument, hopens⟩
        obtain rfl := Option.some.inj (hother.1.symm.trans hheld.1)
        obtain rfl := Option.some.inj (hargument.symm.trans hbytes)
        exact hopens
      · exact fun hopens => ⟨order, hheld, htime, bytes, hbytes, hopens⟩
    rw [hone, hone] at h
    exact h
  · intro h
    refine exists_congr fun order => and_congr_right fun hheld => and_congr_right fun htime => ?_
    exact exists_congr fun bytes => and_congr_right fun hbytes => h order hheld htime bytes hbytes

/-- Simulator, escrow and contract accept the same. -/
def System.SameAnswers (S : Setting) (q : System) (op : Op) : Prop :=
  (Accepts CreateOrderInput.Valid S.OpensText q.evmSim op ↔
      Accepts (EscrowCreatable q.evmSim.now) S.OpensBare q.evmSim op) ∧
    (Accepts CreateOrderInput.Valid S.OpensText q.evmSim op ↔
      Accepts (HtlcCreatable q.evmSim.now q.evmSim.nextId) S.OpensBound q.evmSim op)

theorem sameAnswers_createOrder {request : CreateRequest}
    (hrange : q.evmSim.now + request.timelockSeconds ≤ 2 ^ 53) :
    q.SameAnswers S (.createOrder request) ↔ q.Conforms S (.createOrder request) := by
  have hescrow : HTLCEscrow.uint64 q.evmSim.now + request.timelockSeconds < 2 ^ 64 := by
    unfold HTLCEscrow.uint64
    omega
  have hhtlc : q.evmSim.now + request.timelockSeconds < 2 ^ 64 := by omega
  simp only [System.SameAnswers, Accepts, System.Conforms, CreateOrderInput.Valid, EscrowCreatable,
    HtlcCreatable, hescrow, hhtlc, and_true, true_and]
  by_cases hlock : isHashlock request.hashlock
  · by_cases htime : minTimelock ≤ request.timelockSeconds ∧ request.timelockSeconds ≤ maxTimelock
    · simp only [hlock, htime, true_and, and_true, true_implies]
    · simp only [htime, and_false, false_and]
      exact iff_of_true trivial fun _ hmin hmax => absurd ⟨hmin, hmax⟩ htime
  · simp only [hlock, Bool.false_eq_true, false_and, false_implies]

/-! ## One step -/

/-- The four have come to the same orders, and the simulators tell the time of the chains. -/
structure System.Together (S : Setting) (q : System) : Prop where
  clock : q.clock = q.evmSim.now
  sims : q.sorobanSim = q.evmSim
  sound : q.evmSim.Sound
  escrow : EscrowHolds S q.evmSim q.escrow
  htlc : HtlcHolds S q.evmSim q.htlc

theorem System.Together.initial (S : Setting) (now : ℕ) : (System.initial S now).Together S where
  clock := rfl
  sims := rfl
  sound := .new now
  escrow := .initial now
  htlc := .initial S now

theorem System.Together.sameAnswers_iff (h : q.Together S) (hrange : q.InRange op) :
    q.SameAnswers S op ↔ q.Conforms S op := by
  cases op with
  | createOrder request =>
      rw [System.InRange, h.clock] at hrange
      exact sameAnswers_createOrder hrange
  | claimOrder caller id preimage =>
      simp only [System.SameAnswers, accepts_claim_iff, System.Conforms, ← forall_and]
      refine forall_congr' fun order => forall_congr' fun _ => forall_congr' fun _ =>
        forall_congr' fun bytes => forall_congr' fun _ => ?_
      unfold Setting.OpensText
      tauto
  | refundOrder caller id => exact iff_of_true ⟨Iff.rfl, Iff.rfl⟩ trivial
  | advanceTime seconds => exact iff_of_true ⟨Iff.rfl, Iff.rfl⟩ trivial

theorem System.Together.sameStatuses (h : q.Together S) : q.SameStatuses := by
  intro id
  rw [h.sims]
  exact ⟨h.escrow.status h.sound id, h.htlc.status h.sound id⟩

theorem System.Together.onSorobanSim (h : q.Together S) (op : Op) :
    q.onSorobanSim S op = q.onEvmSim S op := by
  rw [System.onSorobanSim, h.sims]
  rfl

theorem System.Together.onEscrow (h : q.Together S) (op : Op) :
    q.onEscrow S op = escrowExec S q.evmSim.now op q.escrow := by
  rw [System.onEscrow, h.clock]

theorem System.Together.onHtlc (h : q.Together S) (op : Op) :
    q.onHtlc S op = htlcExec S q.evmSim.now op q.htlc := by
  rw [System.onHtlc, h.clock]

theorem System.Together.evmSim_accepts (h : q.Together S) (op : Op) :
    ((q.onEvmSim S op).isSome ↔ Accepts CreateOrderInput.Valid S.OpensText q.evmSim op) ∧
      ∀ sim', q.onEvmSim S op = some sim' → Moved q.evmSim sim' op :=
  simExec_accepts (fun _ _ _ _ => rfl) h.sound

theorem System.Together.sameAnswers (h : q.Together S) :
    ((q.onEvmSim S op).isSome ↔ (q.onEscrow S op).isSome) ∧
        ((q.onSorobanSim S op).isSome ↔ (q.onHtlc S op).isSome) ↔ q.SameAnswers S op := by
  rw [h.onSorobanSim, h.onHtlc, h.onEscrow, (h.evmSim_accepts op).1,
    escrowExec_accepts h.escrow h.sound, htlcExec_accepts h.htlc h.sound, System.SameAnswers]

/-- A creation in range that the Stellar contract accepts is within bounds. -/
theorem System.Together.bounded (h : q.Together S) (hrange : q.InRange op)
    {opens : OrderView → Bytes → Prop}
    (haccepts : Accepts (HtlcCreatable q.evmSim.now q.evmSim.nextId) opens q.evmSim op) :
    op.Bounded q.evmSim := by
  cases op with
  | createOrder request =>
      obtain ⟨hlock, -, -, hnext⟩ := haccepts
      rw [System.InRange, h.clock] at hrange
      exact ⟨hlock, hrange, hnext⟩
  | claimOrder caller id preimage => trivial
  | refundOrder caller id => trivial
  | advanceTime seconds => trivial

/-- In range a simulator adds up the time as the chains do. -/
theorem System.Together.clock_moved (h : q.Together S) (hrange : q.InRange op)
    (hmoved : Moved q.evmSim sim op) : q.clock + op.duration = sim.now := by
  cases op with
  | createOrder request => exact h.clock.trans hmoved.now.symm
  | claimOrder caller id preimage =>
      obtain ⟨order, -, hfinalised⟩ := hmoved
      exact h.clock.trans hfinalised.now.symm
  | refundOrder caller id =>
      obtain ⟨order, -, hfinalised⟩ := hmoved
      exact h.clock.trans hfinalised.now.symm
  | advanceTime seconds =>
      rw [System.InRange, h.clock] at hrange
      rw [show sim = q.evmSim.advanceTime seconds from hmoved, h.clock]
      exact (Double.add_of_le hrange).symm

/-- An operation that all accept or none keeps the four together. -/
theorem System.Together.run (h : q.Together S) (hrange : q.InRange op)
    (hsame : q.SameAnswers S op) : (q.run S op).Together S := by
  obtain ⟨hescrow, hhtlc⟩ := h.sameAnswers.mpr hsame
  have hsoroban := h.onSorobanSim op
  rw [hsoroban] at hhtlc
  obtain ⟨haccepts, hmoved⟩ := h.evmSim_accepts op
  cases hsim : q.onEvmSim S op with
  | none =>
      rw [hsim] at hescrow hhtlc hsoroban haccepts
      have hescrow : q.onEscrow S op = none := by simpa using hescrow
      have hhtlc : q.onHtlc S op = none := by simpa using hhtlc
      have hduration : op.duration = 0 := by
        cases op with
        | advanceTime seconds => exact absurd (haccepts.mpr trivial) (by simp)
        | createOrder | claimOrder | refundOrder => rfl
      have hstays : q.run S op = q := by
        simp [System.run, hsim, hescrow, hsoroban, hhtlc, hduration]
      rw [hstays]
      exact h
  | some sim' =>
      rw [hsim] at hescrow hhtlc hsoroban haccepts
      obtain ⟨s', hs'⟩ := Option.isSome_iff_exists.mp (hescrow.mp rfl)
      obtain ⟨t', ht'⟩ := Option.isSome_iff_exists.mp (hhtlc.mp rfl)
      have hbounded := h.bounded hrange (hsame.2.mp (haccepts.mp rfl))
      have hstep := hmoved sim' hsim
      have hrun : q.run S op = ⟨q.clock + op.duration, sim', s', sim', t'⟩ := by
        simp [System.run, hsim, hsoroban, hs', ht']
      rw [h.onEscrow] at hs'
      rw [h.onHtlc] at ht'
      rw [hrun]
      exact ⟨h.clock_moved hrange hstep, rfl, h.sound.moved hstep hbounded,
        escrowExec_moved h.escrow h.sound hbounded hs' hstep,
        htlcExec_moved h.htlc hbounded ht' hstep⟩

/-- Operations agree exactly where they conform. -/
theorem System.Together.agrees_iff (h : q.Together S) (hrange : q.InRange op) :
    q.Agrees S op ↔ q.Conforms S op := by
  rw [← h.sameAnswers_iff hrange]
  constructor
  · rintro ⟨hescrow, hhtlc, -⟩
    exact h.sameAnswers.mp ⟨hescrow, hhtlc⟩
  · intro hsame
    obtain ⟨hescrow, hhtlc⟩ := h.sameAnswers.mpr hsame
    exact ⟨hescrow, hhtlc, (h.run hrange hsame).sameStatuses⟩

/-! ## Whole runs -/

/-- While doubles count the seconds, simulators and contracts agree all along a run exactly when
every operation conforms in the state it starts from. -/
theorem simulators_faithful_iff (S : Setting) (ops : List Op) (now : ℕ)
    (hrange : AllOk (System.run S) System.InRange ops (.initial S now)) :
    AllOk (System.run S) (System.Agrees S) ops (.initial S now) ↔
      AllOk (System.run S) (System.Conforms S) ops (.initial S now) :=
  allOk_iff_of_invariant (System.Together S) (fun _ _ h hrange => h.agrees_iff hrange)
    (fun _ _ h hrange hconforms => h.run hrange ((h.sameAnswers_iff hrange).mpr hconforms)) ops _
    (.initial S now) hrange

/-! ## A run on fixed inputs -/

section Runs

/-- Accounts and assets by number, and a hash that keeps the first 32 bytes. -/
def testbed : Setting where
  sha256 bytes := (bytes ++ List.replicate 32 0).take 32
  keccak256 bytes := bytes
  toLowerCase party := party
  deployment := ⟨1, HTLCEscrow.zeroAddress, 0⟩
  gate_off := rfl
  no_deposit := rfl
  token := HTLCEscrow.zeroAddress
  token_ne := by decide
  ethAccount _ := 2
  ethAccount_ne _ := by decide
  htlc := 1
  admin := 2
  admin_ne := by decide
  asset := 3
  asset_ne := by decide
  stellarAccount _ := 2
  stellarAccount_ne _ := by decide

/-- The hashlock is that of order 1 and some preimage. -/
def lockRequest : CreateRequest where
  hashlock := hexText (toBigEndian 32 1)
  timelockSeconds := 300
  sender := none
  amount := none
  maker := none
  recipient := none
  amount_pos := by decide
  amount_lt := by decide

theorem lockRequest_valid : lockRequest.Valid := by
  have hlock : isHashlock lockRequest.hashlock := isHashlock_hexText (by decide)
  have hvalue : toBigEndian 32 1 = hexToUint8 lockRequest.hashlock :=
    ((hexText_eq_iff hlock).mp rfl).1
  refine ⟨⟨hlock, ?_⟩, by decide⟩
  rw [← Bool.not_eq_true, isZero_iff hlock, ← hvalue]
  decide

theorem lockRequest_hashlock :
    toBigEndian 32 1 = hexToUint8 lockRequest.hashlock ∧ isLowerCase lockRequest.hashlock :=
  (hexText_eq_iff lockRequest_valid.1.1).mp rfl

/-- The simulator with the requested order. -/
theorem created_lockRequest :
    Created lockRequest.toCreateOrderInput (System.initial testbed 0).evmSim
      ((System.initial testbed 0).run testbed (.createOrder lockRequest)).evmSim := by
  obtain ⟨haccepts, hmoved⟩ :=
    (System.Together.initial testbed 0).evmSim_accepts (.createOrder lockRequest)
  obtain ⟨sim, hsim⟩ := Option.isSome_iff_exists.mp (haccepts.mpr lockRequest_valid)
  have hrun : ((System.initial testbed 0).run testbed (.createOrder lockRequest)).evmSim = sim := by
    simp [System.run, hsim]
  rw [hrun]
  exact hmoved sim hsim

theorem held_lockRequest :
    ((System.initial testbed 0).run testbed (.createOrder lockRequest)).evmSim.Held 1
      (lockRequest.order 1 0) := by
  refine ⟨?_, rfl⟩
  rw [created_lockRequest.orders]
  exact update_self ..

/-- The id of order 1, in 32 bytes, is a preimage that opens the order on every side. -/
theorem simulators_faithful_claim :
    AllOk (System.run testbed) (System.Agrees testbed)
      [.createOrder lockRequest, .claimOrder "resolver" 1 (hexText (toBigEndian 32 1)),
        .advanceTime 301, .refundOrder "resolver" 1] (.initial testbed 0) := by
  obtain ⟨hvalue, hlower⟩ := lockRequest_hashlock
  refine (simulators_faithful_iff testbed _ 0 (by decide)).mpr ⟨?_, ?_, trivial, trivial, trivial⟩
  · exact fun _ _ _ => iff_of_true lockRequest_valid.1.2 (by decide)
  · intro order hheld _ bytes hbytes
    obtain rfl := Option.some.inj (held_lockRequest.1.symm.trans hheld.1)
    obtain rfl := Option.some.inj ((bytesArgument_hexText _).symm.trans hbytes)
    have hbare : testbed.OpensBare (lockRequest.order 1 0) (toBigEndian 32 1) :=
      Eq.trans (by decide) hvalue
    have hbound : testbed.OpensBound (lockRequest.order 1 0) (toBigEndian 32 1) :=
      ⟨by decide, Eq.trans (by decide) hvalue⟩
    exact ⟨iff_of_true hbare hbound, fun _ => hlower⟩

/-- The escrow refuses the preimage that claims the order of the simulator. -/
theorem boundClaim_disagrees : ¬AllOk (System.run testbed) (System.Agrees testbed)
    [.createOrder lockRequest, .claimOrder "resolver" 1 (hexText [7])] (.initial testbed 0) := by
  rintro ⟨hcreate, hclaim, -⟩
  obtain ⟨hvalue, -⟩ := lockRequest_hashlock
  have hinitial := System.Together.initial testbed 0
  have hrange : (System.initial testbed 0).InRange (.createOrder lockRequest) := by decide
  have hcreated := hinitial.run hrange
    ((hinitial.sameAnswers_iff hrange).mpr ((hinitial.agrees_iff hrange).mp hcreate))
  have htime : ((System.initial testbed 0).run testbed (.createOrder lockRequest)).evmSim.now ≤
      (lockRequest.order 1 0).timelockAbsolute := by
    rw [created_lockRequest.now]
    decide
  have hclaimRange : ((System.initial testbed 0).run testbed (.createOrder lockRequest)).InRange
      (.claimOrder "resolver" 1 (hexText [7])) := trivial
  have hconforms := (hcreated.agrees_iff hclaimRange).mp hclaim
  obtain ⟨hsame, -⟩ := hconforms _ held_lockRequest htime [7] (bytesArgument_hexText [7])
  have hbound : testbed.OpensBound (lockRequest.order 1 0) [7] :=
    ⟨List.cons_ne_nil 7 [], Eq.trans (by decide) hvalue⟩
  have hbare : testbed.sha256 [7] = toBigEndian 32 1 := (hsame.mpr hbound).trans hvalue.symm
  exact absurd hbare (by decide)

end Runs

end OverSync.E2eSim
