import OverSync.Verification.E2eSim.Chains
import OverSync.Verification.HTLCEscrow.Settlement

/-! # `HTLCEscrow` beside a simulator

The escrow stores the orders of the simulator, so its calls succeed for the reasons it gives. -/

namespace OverSync.E2eSim

open Function Library Library.Escrow HTLCEscrow

variable {S : Setting} {s s' : State Bytes} {sim sim' : HtlcSim} {order : OrderView} {now : ℕ}
  {id : ℤ} {orderId : OrderId} {op : Op}

/-! ## Stored orders -/

/-- An order of the simulator as the escrow stores it. -/
structure EscrowEntry (S : Setting) (order : OrderView) (stored : Order Bytes) : Prop where
  amount_ne : stored.amount ≠ 0
  hashlock : stored.hashlock = hexToUint8 order.hashlock
  timelock : stored.timelock = order.timelockAbsolute
  status : ofEscrow stored.status = order.status
  deposit : stored.safetyDeposit = 0
  token : stored.token = S.token
  beneficiary_ne : stored.beneficiary ≠ S.deployment.self
  refundAddress_ne : stored.refundAddress ≠ S.deployment.self

/-- The escrow stores the orders of the simulator, and has got there by transactions. -/
structure EscrowHolds (S : Setting) (sim : HtlcSim) (s : State Bytes) : Prop where
  idle : s.entered = false
  next : (s.nextOrderId.val : ℤ) = sim.nextId
  absent : ∀ id : OrderId, sim.orders id.val = none → (s.orders id).amount = 0
  present : ∀ id : OrderId, ∀ order, sim.orders id.val = some order →
    EscrowEntry S order (s.orders id)
  reached : ∃ records, Execution (Step S.hashes S.deployment) (State.deployed S.hashes) records s ∧
    ((creations S.hashes records).length : ℤ) + 1 = sim.nextId

theorem EscrowHolds.initial (now : ℕ) : EscrowHolds S (.new now) (.deployed S.hashes) where
  idle := rfl
  next := rfl
  absent _ _ := rfl
  present _ _ h := by simp [HtlcSim.new] at h
  reached := ⟨[], .refl, rfl⟩

theorem EscrowEntry.funded_iff {stored : Order Bytes} (h : EscrowEntry S order stored) :
    stored.status = .funded ↔ order.status = .funded := by
  rw [← h.status]
  cases stored.status <;> simp [ofEscrow]

theorem uint256Argument_eq_some : uint256Argument id = some orderId ↔ (orderId.val : ℤ) = id := by
  unfold uint256Argument
  split
  · next h =>
      rw [Option.some.injEq]
      constructor
      · rintro rfl
        exact Int.toNat_of_nonneg h.1
      · rintro rfl
        rfl
  · next h =>
      refine iff_of_false nofun ?_
      rintro rfl
      exact h ⟨Int.natCast_nonneg _, orderId.isLt⟩

/-- Every order of the simulator has an id of the escrow. -/
theorem HtlcSim.Sound.uint256 (h : sim.Sound) (horder : sim.orders id = some order) :
    ∃ orderId, uint256Argument id = some orderId := by
  obtain ⟨hpos, hlt, -⟩ := h.ids id order horder
  have hbound := h.next_lt
  exact ⟨_, dif_pos ⟨by omega, by omega⟩⟩

/-- The funded orders of the escrow are those of the simulator. -/
theorem EscrowHolds.funded_iff (h : EscrowHolds S sim s) :
    (s.orders orderId).Funded ↔ ∃ order, sim.Held orderId.val order := by
  cases horder : sim.orders orderId.val with
  | none =>
      refine iff_of_false (fun hfunded => hfunded.1 (h.absent orderId horder)) ?_
      rintro ⟨order, hheld, -⟩
      rw [horder] at hheld
      contradiction
  | some order =>
      have hentry := h.present orderId order horder
      rw [Order.Funded, and_iff_right hentry.amount_ne, hentry.funded_iff]
      constructor
      · exact fun hstatus => ⟨order, horder, hstatus⟩
      · rintro ⟨order', hheld, hstatus⟩
        rw [horder, Option.some.injEq] at hheld
        rw [hheld]
        exact hstatus

theorem EscrowHolds.status (h : EscrowHolds S sim s) (hsound : sim.Sound) (id : ℤ) :
    sim.statusOf id = escrowStatus s id := by
  rw [HtlcSim.statusOf, escrowStatus]
  cases horder : sim.orders id with
  | none =>
      cases hid : uint256Argument id with
      | none => rfl
      | some orderId =>
          obtain rfl := uint256Argument_eq_some.mp hid
          rw [Option.bind_some, if_pos (h.absent orderId horder)]
          rfl
  | some order =>
      obtain ⟨orderId, hid⟩ := hsound.uint256 horder
      rw [hid]
      obtain rfl := uint256Argument_eq_some.mp hid
      have hentry := h.present orderId order horder
      rw [Option.bind_some, if_neg hentry.amount_ne, hentry.status]
      rfl

/-- What a funded order locks is in the escrow. -/
theorem EscrowHolds.covered (h : EscrowHolds S sim s) (hsound : sim.Sound)
    (hfunded : (s.orders orderId).Funded) :
    (s.orders orderId).amount ≤ s.balance (s.orders orderId).token := by
  obtain ⟨records, hrun, hlength⟩ := h.reached
  have hbound := hsound.next_lt
  have hspec := escrow_spec hrun (by omega)
  have hlocked : (s.orders orderId).amount ≤
      (s.orders orderId).locked (s.orders orderId).token := by
    rw [Order.locked, if_pos rfl]
    exact Nat.le_add_right _ _
  have howed : (s.orders orderId).locked (s.orders orderId).token ≤
      s.owed (s.orders orderId).token :=
    Finset.single_le_sum (f := fun id => (s.orders id).locked (s.orders orderId).token)
      (fun _ _ => Nat.zero_le _) (Finset.mem_filter.mpr ⟨Finset.mem_univ orderId, hfunded⟩)
  refine (hlocked.trans howed).trans ?_
  rw [State.balance]
  split
  · next htoken =>
      rw [htoken, hspec.eth]
  · next htoken => exact hspec.tokens _ htoken

/-! ## Payments -/

/-- A payment goes through where the escrow holds the amount and does not pay itself. -/
theorem payout_answer {token recipient : Address} {amount : ℕ}
    (htoken : token ≠ S.deployment.self) (hrecipient : recipient ≠ S.deployment.self)
    (hamount : amount ≤ s.balance token) :
    ∃ r, payout S.deployment token recipient amount (answer true) s = .ok r := by
  rw [State.balance] at hamount
  unfold payout
  split
  · next hzero =>
      rw [if_pos hzero] at hamount
      exact ⟨_, require_bind_eq_ok.mpr ⟨⟨hamount, hrecipient⟩, rfl⟩⟩
  · next hzero =>
      rw [if_neg hzero] at hamount
      exact ⟨_, require_bind_eq_ok.mpr ⟨⟨htoken, hamount⟩, rfl⟩⟩

theorem settle_answer {stored : Order Bytes} (h : EscrowEntry S order stored)
    {recipient : Address} (sender : Address) (hrecipient : recipient ≠ S.deployment.self)
    (hamount : stored.amount ≤ s.balance stored.token) :
    ∃ r, settle S.deployment stored recipient sender (answer true) (answer true) s = .ok r := by
  have htoken : stored.token ≠ S.deployment.self := by
    rw [h.token]
    exact S.token_ne
  obtain ⟨r, hpaid⟩ := payout_answer htoken hrecipient hamount
  refine ⟨(r.1, [r.2]), ?_⟩
  rw [settle, hpaid, ok_bind, h.deposit]
  rfl

/-! ## Which calls succeed -/

/-- What the escrow asks of a new order. -/
def EscrowCreatable (now : ℕ) (input : CreateOrderInput) : Prop :=
  input.Valid ∧ uint64 now + input.timelockSeconds < 2 ^ 64

theorem requireActive_off (env : Env) (sender : Address) (e : Error) :
    requireActive S.deployment env sender e = .ok () :=
  if_pos S.gate_off

/-- The funds of an order are pulled. -/
theorem pullFunds_answer (request : CreateRequest) (hashlock : Bytes) :
    ∃ r, pullFunds S.deployment (S.escrowValue request.toCreateOrderInput)
      (S.escrowArgs request.toCreateOrderInput hashlock) (answer true) s = .ok r := by
  have hlt := request.amount_lt
  unfold pullFunds
  split
  · next hzero =>
      have hvalue : S.escrowValue request.toCreateOrderInput =
          (S.escrowArgs request.toCreateOrderInput hashlock).amount + 0 := if_pos hzero
      have hamount : (S.escrowArgs request.toCreateOrderInput hashlock).amount + 0 < 2 ^ 256 := by
        simp only [Setting.escrowArgs]
        omega
      exact ⟨_, require_bind_eq_ok.mpr ⟨hamount, require_bind_eq_ok.mpr ⟨hvalue, rfl⟩⟩⟩
  · next hzero =>
      have hvalue : S.escrowValue request.toCreateOrderInput = 0 := if_neg hzero
      exact ⟨_, require_bind_eq_ok.mpr ⟨hvalue, require_bind_eq_ok.mpr ⟨S.token_ne,
        require_bind_eq_ok.mpr ⟨rfl, rfl⟩⟩⟩⟩

theorem createOrder_isOk_iff (h : s.entered = false) (request : CreateRequest) (hashlock : Bytes)
    (sender : Address) :
    (∃ r, createOrder S.hashes S.deployment (escrowEnv now) sender
        (S.escrowValue request.toCreateOrderInput)
        (S.escrowArgs request.toCreateOrderInput hashlock) (answer true) s = .ok r) ↔
      hashlock ≠ List.replicate 32 0 ∧
        (E2eSim.minTimelock ≤ request.timelockSeconds ∧
          request.timelockSeconds ≤ E2eSim.maxTimelock) ∧
        uint64 now + request.timelockSeconds < 2 ^ 64 := by
  have hpos := request.amount_pos
  have hamount : (S.escrowArgs request.toCreateOrderInput hashlock).amount ≠ 0 := by
    simp only [Setting.escrowArgs]
    omega
  have hparties : (S.escrowArgs request.toCreateOrderInput hashlock).beneficiary ≠ zeroAddress ∧
      (S.escrowArgs request.toCreateOrderInput hashlock).refundAddress ≠ zeroAddress :=
    ⟨(S.ethAccount_ne _).1, (S.ethAccount_ne _).1⟩
  have hdeposit : S.deployment.minSafetyDeposit ≤
      (S.escrowArgs request.toCreateOrderInput hashlock).safetyDeposit := S.no_deposit.le
  obtain ⟨r, hpull⟩ := pullFunds_answer (S := S)
    (s := { s with entered := true, ethBalance := s.ethBalance +
      S.escrowValue request.toCreateOrderInput }) request hashlock
  rw [createOrder]
  simp only [require_of h, require_of hamount, require_of hparties, require_of hdeposit,
    requireActive_off, hpull, ok_bind, require_bind_eq_ok, exists_and_left]
  exact and_congr_right fun _ => and_congr_right fun _ => and_iff_left ⟨_, rfl⟩

theorem exec_createOrder (env : Env) (sender : Address) (value : ℕ) (args : CreateOrderArgs Bytes) :
    exec S.hashes S.deployment env (.createOrder sender value args ([], true)) s =
      createOrder S.hashes S.deployment env sender value args (answer true) s := by
  have hcallee : (fun s : State Bytes => (execAll S.hashes S.deployment env [] s, true)) =
      answer true := by
    funext s
    rw [execAll]
    rfl
  rw [exec, hcallee]

theorem EscrowHolds.entry (h : EscrowHolds S sim s) (hfunded : (s.orders orderId).Funded) :
    ∃ order, sim.Held orderId.val order ∧ EscrowEntry S order (s.orders orderId) := by
  obtain ⟨order, hheld⟩ := h.funded_iff.mp hfunded
  exact ⟨order, hheld, h.present orderId order hheld.1⟩

theorem claimOrder_isOk_iff (h : EscrowHolds S sim s) (hsound : sim.Sound) (sender : Address)
    (bytes : Bytes) :
    (∃ r, claimOrder S.hashes S.deployment (escrowEnv now) sender orderId bytes (answer true)
        (answer true) s = .ok r) ↔
      ∃ order, sim.Held orderId.val order ∧ now ≤ order.timelockAbsolute ∧
        S.OpensBare order bytes := by
  constructor
  · rintro ⟨⟨s', receipt⟩, hok⟩
    obtain ⟨hspec, htime, hsha, -⟩ := claimOrder_eq_ok (inert_answer true) (inert_answer true) hok
    obtain ⟨order, hheld, hentry⟩ := h.entry ⟨hspec.amount_ne, hspec.funded⟩
    rw [hentry.timelock] at htime
    exact ⟨order, hheld, htime, hsha.trans hentry.hashlock⟩
  · rintro ⟨order, hheld, htime, hopens⟩
    have hfunded := h.funded_iff.mpr ⟨order, hheld⟩
    have hentry := h.present orderId order hheld.1
    have hintime : (escrowEnv now).timestamp ≤ (s.orders orderId).timelock := by
      rw [hentry.timelock]
      exact htime
    have hsha : S.hashes.sha256 bytes = (s.orders orderId).hashlock :=
      Eq.trans hopens hentry.hashlock.symm
    obtain ⟨r, hsettle⟩ := settle_answer (s := { s with
        entered := true
        orders := update s.orders orderId ((s.orders orderId).claimedBy (escrowEnv now).timestamp
          (S.hashes.keccak256 bytes)) })
      hentry sender hentry.beneficiary_ne (h.covered hsound hfunded)
    rw [claimOrder]
    simp only [require_of h.idle, require_of hfunded.1, require_of hfunded.2, require_of hintime,
      require_of hsha, requireActive_off, hsettle, ok_bind]
    exact ⟨_, rfl⟩

theorem refundOrder_isOk_iff (h : EscrowHolds S sim s) (hsound : sim.Sound) (sender : Address) :
    (∃ r, refundOrder S.deployment (escrowEnv now) sender orderId (answer true) (answer true) s =
        .ok r) ↔ ∃ order, sim.Held orderId.val order ∧ order.timelockAbsolute < now := by
  constructor
  · rintro ⟨⟨s', receipt⟩, hok⟩
    obtain ⟨hspec, htime, -⟩ :=
      HTLCEscrow.refundOrder_eq_ok (inert_answer true) (inert_answer true) hok
    obtain ⟨order, hheld, hentry⟩ := h.entry ⟨hspec.amount_ne, hspec.funded⟩
    rw [hentry.timelock] at htime
    exact ⟨order, hheld, htime⟩
  · rintro ⟨order, hheld, htime⟩
    have hfunded := h.funded_iff.mpr ⟨order, hheld⟩
    have hentry := h.present orderId order hheld.1
    have hexpired : (s.orders orderId).timelock < (escrowEnv now).timestamp := by
      rw [hentry.timelock]
      exact htime
    obtain ⟨r, hsettle⟩ := settle_answer (s := { s with
        entered := true
        orders := update s.orders orderId
          ((s.orders orderId).refundedAt (escrowEnv now).timestamp) })
      hentry sender hentry.refundAddress_ne (h.covered hsound hfunded)
    rw [refundOrder]
    simp only [require_of h.idle, require_of hfunded.1, require_of hfunded.2, require_of hexpired,
      hsettle, ok_bind]
    exact ⟨_, rfl⟩

/-- The escrow accepts what the rules say, with a hashlock over the preimage alone. -/
theorem escrowExec_accepts (h : EscrowHolds S sim s) (hsound : sim.Sound) :
    (escrowExec S sim.now op s).isSome ↔
      Accepts (EscrowCreatable sim.now) S.OpensBare sim op := by
  cases op with
  | createOrder request =>
      simp only [escrowExec, Setting.escrowCall, bytes32Argument_eq, Accepts, EscrowCreatable,
        CreateOrderInput.Valid]
      by_cases hlock : isHashlock request.hashlock
      · have hzero : isZero request.hashlock = false ↔
            hexToUint8 request.hashlock ≠ List.replicate 32 0 := by
          rw [← Bool.not_eq_true, isZero_iff hlock]
        rw [if_pos hlock, Option.map_some, Option.bind_some, Option.isSome_map, isSome_toOption,
          exec_createOrder, createOrder_isOk_iff h.idle, hzero, and_iff_right hlock]
        simp only [and_assoc]
      · rw [if_neg hlock]
        exact iff_of_false (by simp) fun hvalid => hlock hvalid.1.1.1
  | claimOrder caller id preimage =>
      simp only [escrowExec, Setting.escrowCall, Accepts]
      cases hid : uint256Argument id with
      | none =>
          refine iff_of_false (by simp) ?_
          rintro ⟨order, hheld, -⟩
          obtain ⟨orderId, hsome⟩ := hsound.uint256 hheld.1
          rw [hid] at hsome
          contradiction
      | some orderId =>
          obtain rfl := uint256Argument_eq_some.mp hid
          cases bytesArgument preimage with
          | none => simp
          | some bytes =>
              rw [Option.bind_some, Option.map_some, Option.bind_some, Option.isSome_map,
                isSome_toOption, exec_claimOrder, claimOrder_isOk_iff h hsound]
              simp
  | refundOrder caller id =>
      simp only [escrowExec, Setting.escrowCall, Accepts]
      cases hid : uint256Argument id with
      | none =>
          refine iff_of_false (by simp) ?_
          rintro ⟨order, hheld, -⟩
          obtain ⟨orderId, hsome⟩ := hsound.uint256 hheld.1
          rw [hid] at hsome
          contradiction
      | some orderId =>
          obtain rfl := uint256Argument_eq_some.mp hid
          rw [Option.map_some, Option.bind_some, Option.isSome_map, isSome_toOption,
            exec_refundOrder, refundOrder_isOk_iff h hsound]
  | advanceTime seconds => exact iff_of_true rfl trivial

/-! ## What they do -/

/-- The order of the request, as the escrow stores it. -/
theorem escrowEntry_order (request : CreateRequest) {now : ℕ} (sender : Address)
    (hfits : now + request.timelockSeconds ≤ 2 ^ 53) :
    EscrowEntry S (request.order id now)
      ((S.escrowArgs request.toCreateOrderInput (hexToUint8 request.hashlock)).order S.hashes sender
        now) where
  amount_ne := by
    have hpos := request.amount_pos
    simp only [HTLCEscrow.CreateOrderArgs.order, Setting.escrowArgs]
    omega
  hashlock := rfl
  timelock := by
    simp only [HTLCEscrow.CreateOrderArgs.order, Setting.escrowArgs, CreateOrderInput.order,
      Double.add_of_le hfits, uint64]
    omega
  status := rfl
  deposit := rfl
  token := rfl
  beneficiary_ne := (S.ethAccount_ne _).2
  refundAddress_ne := (S.ethAccount_ne _).2

/-- The order once it has come to its end. -/
theorem EscrowEntry.settled {stored settled : Order Bytes} (h : EscrowEntry S order stored)
    {status : OrderStatus} (hstatus : ofEscrow settled.status = status)
    (hsame : settled = { stored with
      status := settled.status
      finalisedAt := settled.finalisedAt
      preimageKeccak := settled.preimageKeccak }) :
    EscrowEntry S { order with status, finalisedAt := now } settled := by
  rw [hsame]
  exact ⟨h.amount_ne, h.hashlock, h.timelock, hstatus, h.deposit, h.token, h.beneficiary_ne,
    h.refundAddress_ne⟩

/-- Escrow and simulator store an order under the same id. -/
theorem EscrowHolds.store (h : EscrowHolds S sim s) {stored : Order Bytes}
    (hidle : s'.entered = false) (hnext : (s'.nextOrderId.val : ℤ) = sim'.nextId)
    (horders : s'.orders = update s.orders orderId stored)
    (hsim : sim'.orders = update sim.orders orderId.val (some order))
    (hentry : EscrowEntry S order stored) {record : Record Bytes}
    (hstep : Step S.hashes S.deployment s record s')
    (hcreation : ((record.creation S.hashes).toList.length : ℤ) = sim'.nextId - sim.nextId) :
    EscrowHolds S sim' s' where
  idle := hidle
  next := hnext
  absent := by
    intro id habsent
    rw [hsim] at habsent
    rw [horders]
    by_cases hid : id = orderId
    · subst hid
      simp at habsent
    · have hval : (id.val : ℤ) ≠ orderId.val := fun heq => hid (Fin.ext (Int.ofNat.inj heq))
      rw [update_of_ne hval] at habsent
      rw [update_of_ne hid]
      exact h.absent id habsent
  present := by
    intro id order' horder
    rw [hsim] at horder
    rw [horders]
    by_cases hid : id = orderId
    · subst hid
      rw [update_self, Option.some.injEq] at horder
      subst horder
      rw [update_self]
      exact hentry
    · have hval : (id.val : ℤ) ≠ orderId.val := fun heq => hid (Fin.ext (Int.ofNat.inj heq))
      rw [update_of_ne hval] at horder
      rw [update_of_ne hid]
      exact h.present id order' horder
  reached := by
    obtain ⟨records, hrun, hlength⟩ := h.reached
    refine ⟨records ++ [record], hrun.snoc hstep, ?_⟩
    have hsum : (creations S.hashes (records ++ [record])).length =
        (creations S.hashes records).length + (record.creation S.hashes).toList.length := by
      rw [creations, List.filterMap_append, List.length_append]
      cases hrecord : record.creation S.hashes <;> simp [creations, hrecord]
    rw [hsum]
    omega

theorem EscrowHolds.created (h : EscrowHolds S sim s) (hsound : sim.Sound)
    {request : CreateRequest} {sender : Address} {receipt : Receipt Bytes} {record : Record Bytes}
    (hcreated : Created request.toCreateOrderInput sim sim')
    (hspec : CreateSpec S.hashes S.deployment (escrowEnv sim.now) sender
      (S.escrowArgs request.toCreateOrderInput (hexToUint8 request.hashlock)) s s' receipt)
    (hfits : sim.now + request.timelockSeconds ≤ 2 ^ 53)
    (hstep : Step S.hashes S.deployment s record s')
    (hcreation : (record.creation S.hashes).isSome) : EscrowHolds S sim' s' := by
  have hnext := h.next
  have hlt := hsound.next_lt
  obtain ⟨hsim, hsimNext, -, -⟩ := hcreated
  have hsimOrders : sim'.orders =
      update sim.orders s.nextOrderId.val (some (request.order s.nextOrderId.val sim.now)) := by
    rw [hsim, hnext]
  refine h.store ?_ ?_ ?_ hsimOrders (escrowEntry_order request sender hfits) hstep ?_
  · rw [hspec.state_eq]
    exact hspec.idle
  · rw [hspec.state_eq, hsimNext]
    simp only [Fin.val_add, Fin.val_one]
    omega
  · rw [hspec.state_eq]
    rfl
  · obtain ⟨creation, hsome⟩ := Option.isSome_iff_exists.mp hcreation
    rw [hsome, hsimNext]
    simp

theorem EscrowHolds.settled (h : EscrowHolds S sim s) {status : OrderStatus}
    {settled : Order Bytes} {recipient sender : Address} {transfers : List Transfer}
    {record : Record Bytes} (hfinalised : Finalised orderId.val order status sim sim')
    (hspec : SettleSpec S.deployment orderId settled recipient sender s s' transfers)
    (hentry : EscrowEntry S { order with status, finalisedAt := sim.now } settled)
    (hstep : Step S.hashes S.deployment s record s') (hcreation : record.creation S.hashes = none) :
    EscrowHolds S sim' s' := by
  obtain ⟨hsim, hsimNext, -, -⟩ := hfinalised
  refine h.store ?_ ?_ ?_ hsim hentry hstep ?_
  · rw [hspec.state_eq]
    exact hspec.idle
  · rw [hspec.state_eq, hsimNext]
    exact h.next
  · rw [hspec.state_eq]
  · rw [hcreation, hsimNext]
    simp

/-- An accepted call keeps escrow and simulator together. -/
theorem escrowExec_moved (h : EscrowHolds S sim s) (hsound : sim.Sound)
    (hbounded : op.Bounded sim) (hexec : escrowExec S sim.now op s = some s')
    (hmoved : Moved sim sim' op) :
    EscrowHolds S sim' s' := by
  cases op with
  | createOrder request =>
      simp only [escrowExec, Setting.escrowCall, bytes32Argument_eq] at hexec
      split_ifs at hexec with hlock
      · rw [Option.map_some, Option.bind_some, Option.map_eq_some_iff] at hexec
        obtain ⟨⟨s', receipt⟩, hok, rfl⟩ := hexec
        rw [toOption_eq_some] at hok
        have hcreate := hok
        rw [exec_createOrder] at hcreate
        have hspec := createOrder_eq_ok (inert_answer true) hcreate
        refine h.created hsound hmoved hspec hbounded.2.1 (.success ?_ hok) ?_
        · exact (S.ethAccount_ne _).2
        · rw [hspec.receipt_eq]
          rfl
      · contradiction
  | claimOrder caller id preimage =>
      obtain ⟨order, hheld, hfinalised⟩ := hmoved
      simp only [escrowExec, Setting.escrowCall, Option.bind_eq_some_iff, Option.map_eq_some_iff,
        toOption_eq_some] at hexec
      obtain ⟨-, ⟨orderId, hid, bytes, -, rfl⟩, ⟨s', receipt⟩, hok, rfl⟩ := hexec
      obtain rfl := uint256Argument_eq_some.mp hid
      have hclaim := hok
      rw [exec_claimOrder] at hclaim
      obtain ⟨hspec, -⟩ := claimOrder_eq_ok (inert_answer true) (inert_answer true) hclaim
      refine h.settled hfinalised hspec ?_ (.success ?_ hok) rfl
      · exact (h.present orderId order hheld.1).settled rfl rfl
      · exact (S.ethAccount_ne _).2
  | refundOrder caller id =>
      obtain ⟨order, hheld, hfinalised⟩ := hmoved
      simp only [escrowExec, Setting.escrowCall, Option.bind_eq_some_iff, Option.map_eq_some_iff,
        toOption_eq_some] at hexec
      obtain ⟨-, ⟨orderId, hid, rfl⟩, ⟨s', receipt⟩, hok, rfl⟩ := hexec
      obtain rfl := uint256Argument_eq_some.mp hid
      have hrefund := hok
      rw [exec_refundOrder] at hrefund
      obtain ⟨hspec, -⟩ := HTLCEscrow.refundOrder_eq_ok (inert_answer true) (inert_answer true)
        hrefund
      refine h.settled hfinalised hspec ?_ (.success ?_ hok) rfl
      · exact (h.present orderId order hheld.1).settled rfl rfl
      · exact (S.ethAccount_ne _).2
  | advanceTime seconds =>
      cases hexec
      rw [show sim' = sim.advanceTime seconds from hmoved]
      exact ⟨h.idle, h.next, h.absent, h.present, h.reached⟩

end OverSync.E2eSim
