import OverSync.Library.Progress
import OverSync.Verification.HTLCEscrow.Settlement

/-! # No funds are stuck in the escrow

In every reachable state an order that is still funded can be claimed with its preimage up to
its timelock and refunded after it, whatever happened before. Only an ETH order whose
recipient is the escrow itself cannot be paid out. -/

namespace OverSync.HTLCEscrow

open Function Library Library.Escrow

variable {Digest : Type} {H : HashFunctions Digest} {C : Deployment} {env : Env}
  {s : State Digest}

/-- `_payout` can pay this recipient: `receive` turns ETH for the escrow itself away. -/
def Payable (C : Deployment) (token recipient : Address) : Prop :=
  token = zeroAddress → recipient ≠ C.self

instance instDecidablePayable (C : Deployment) (token recipient : Address) :
    Decidable (Payable C token recipient) :=
  inferInstanceAs (Decidable (_ → _))

/-! ## Payments that go through -/

/-- A covered payment to a callee that accepts it goes through. -/
theorem payout_answer {token recipient : Address} {amount : ℕ}
    (hpayable : Payable C token recipient) (htoken : token ≠ zeroAddress → token ≠ C.self)
    (hcovered : amount ≤ s.balance token) :
    ∃ s' paid, payout C token recipient amount (answer true) s = .ok (s', paid) := by
  unfold payout State.balance at *
  by_cases h : token = zeroAddress
  · simp only [h, if_true] at hcovered ⊢
    rw [require_of ⟨hcovered, hpayable h⟩]
    exact ⟨_, _, rfl⟩
  · simp only [h, if_false] at hcovered ⊢
    rw [require_of ⟨htoken h, hcovered⟩]
    exact ⟨_, _, rfl⟩

/-- With what an order locks in the escrow, its settlement goes through. -/
theorem settle_answer {order : Order Digest} (recipient sender : Address)
    (hs : s.entered = true) (hpayable : Payable C order.token recipient)
    (htoken : order.token ≠ zeroAddress → order.token ≠ C.self) (hsender : sender ≠ C.self)
    (hcovered : ∀ asset, order.locked asset ≤ s.balance asset) :
    ∃ s' transfers,
      settle C order recipient sender (answer true) (answer true) s = .ok (s', transfers) := by
  have hamount : order.amount ≤ s.balance order.token := by
    refine le_trans ?_ (hcovered order.token)
    simp [Order.locked]
  obtain ⟨s₁, paid, hpaid⟩ := payout_answer hpayable htoken hamount
  obtain ⟨-, -, -, hbalance⟩ := payout_eq_ok (inert_answer true) hs hpaid
  have hdeposit : order.safetyDeposit ≤ s₁.balance zeroAddress := by
    have h₁ := hbalance zeroAddress
    have h₂ := hcovered zeroAddress
    simp only [Order.locked, if_true] at h₂
    omega
  have hcaller : Payable C zeroAddress sender := fun _ => hsender
  obtain ⟨s₂, deposit, hpaid₂⟩ := payout_answer hcaller (fun h => absurd rfl h) hdeposit
  unfold settle
  rw [hpaid, ok_bind]
  by_cases hpos : 0 < order.safetyDeposit
  · simp only [hpos, if_true, hpaid₂, ok_bind]
    exact ⟨_, _, rfl⟩
  · simp only [hpos, if_false]
    exact ⟨_, _, rfl⟩

/-- A settlement in ETH with the escrow as recipient never goes through. -/
theorem settle_not_payable {order : Order Digest} {recipient sender : Address}
    {payee caller : Callee Digest} (hpayable : ¬Payable C order.token recipient) :
    settle C order recipient sender payee caller s = .error .nativeTransferFailed := by
  obtain ⟨htoken, hself⟩ : order.token = zeroAddress ∧ recipient = C.self := by
    simpa [Payable] using hpayable
  unfold settle payout
  simp [htoken, hself, require]

/-! ## Orders the escrow can pay out -/

section Runs

variable [DecidableEq Digest]

/-- No order is in a token that is the escrow itself. -/
def TokensForeign (C : Deployment) (s : State Digest) : Prop :=
  ∀ id, (s.orders id).token ≠ zeroAddress → (s.orders id).token ≠ C.self

theorem createOrder_token {sender : Address} {value : ℕ} {args : CreateOrderArgs Digest}
    {callee : Callee Digest} {s' : State Digest} {receipt : Receipt Digest}
    (h : createOrder H C env sender value args callee s = .ok (s', receipt)) :
    args.token ≠ zeroAddress → args.token ≠ C.self := by
  intro htoken
  unfold createOrder at h
  simp only [require_bind_eq_ok] at h
  obtain ⟨-, -, -, -, -, -, h⟩ := h
  obtain ⟨-, -, h⟩ := bind_eq_ok.mp h
  obtain ⟨s₁, hpull, -⟩ := bind_eq_ok.mp h
  unfold pullFunds at hpull
  simp only [htoken, if_false, require_bind_eq_ok] at hpull
  exact hpull.2.1

omit [DecidableEq Digest] in
/-- Storing an order in a foreign token keeps all tokens foreign. -/
theorem TokensForeign.store {s' : State Digest} {id : OrderId} {order : Order Digest}
    (hs : TokensForeign C s) (horders : s'.orders = update s.orders id order)
    (htoken : order.token ≠ zeroAddress → order.token ≠ C.self) : TokensForeign C s' := by
  intro i
  rw [horders]
  by_cases hi : i = id
  · subst hi
    simpa using htoken
  · simpa [update_of_ne hi] using hs i

theorem exec_tokensForeign {call : Call Digest} {s' : State Digest} {receipt : Receipt Digest}
    (hs : TokensForeign C s) (h : exec H C env call s = .ok (s', receipt)) :
    TokensForeign C s' := by
  cases call with
  | createOrder sender value args pull =>
      rw [exec] at h
      have hspec := createOrder_eq_ok (inert_execAll _ _) h
      have horders : s'.orders =
          update s.orders s.nextOrderId (args.order H sender env.timestamp) := by
        rw [hspec.state_eq]
      exact hs.store horders (createOrder_token h)
  | claimOrder sender orderId preimage payee caller =>
      rw [exec] at h
      obtain ⟨hspec, -⟩ := claimOrder_eq_ok (inert_execAll _ _) (inert_execAll _ _) h
      have horders : s'.orders = update s.orders orderId
          ((s.orders orderId).claimedBy env.timestamp (H.keccak256 preimage)) := by
        rw [hspec.state_eq]
      exact hs.store horders (hs orderId)
  | refundOrder sender orderId payee caller =>
      rw [exec] at h
      obtain ⟨hspec, -⟩ := refundOrder_eq_ok (inert_execAll _ _) (inert_execAll _ _) h
      have horders : s'.orders = update s.orders orderId
          ((s.orders orderId).refundedAt env.timestamp) := by
        rw [hspec.state_eq]
      exact hs.store horders (hs orderId)
  | receive sender value =>
      rw [exec] at h
      cases h

theorem tokensForeign_of_execution {records : List (Record Digest)}
    (h : Execution (Step H C) (State.deployed H) records s) : TokensForeign C s := by
  refine h.invariant (P := TokensForeign C) ?_ fun hu hstep => ?_
  · intro id hid
    exact absurd rfl hid
  · cases hstep with
    | success _ hexec => exact exec_tokensForeign hu hexec
    | revert _ => exact hu
    | donation _ => exact hu

/-- The escrow holds what a funded order locks. -/
theorem covered_of_execution {records : List (Record Digest)}
    (h : Execution (Step H C) (State.deployed H) records s)
    (hids : (creations H records).length ≤ 2 ^ 256) {id : OrderId}
    (hfunded : (s.orders id).Funded) (asset : Address) :
    (s.orders id).locked asset ≤ s.balance asset := by
  obtain ⟨b, hrun, hb⟩ := run_account h hids
  have hslot : b.slots id = .held (s.orders id) :=
    held_of_slotOrder hfunded (hb.entries id).symm
  have hcost := cost_le_pool hrun hslot asset
  rw [hb.pool] at hcost
  exact hcost

/-- A funded order is still the same later, or it has been settled once, as its terms allow. -/
theorem funded_or_settled {front back : List (Record Digest)} {u : State Digest}
    (hfront : Execution (Step H C) (State.deployed H) front u)
    (hback : Execution (Step H C) u back s)
    (hids : (creations H (front ++ back)).length ≤ 2 ^ 256) {id : OrderId}
    (hfunded : (u.orders id).Funded) :
    s.orders id = u.orders id ∨ ∃ r, (id, r) ∈ settlements back ∧ (u.orders id).Allows H r ∧
      s.orders id = (u.orders id).settledBy H r := by
  obtain ⟨a, -, hu⟩ := run_account hfront (le_trans (by simp [creations]) hids)
  have hentry : (storage H C).entry u id = (storage H C).entryOf (.held (u.orders id)) := rfl
  have hheld := hu.entry_held (fun hstep => hstep.effect.1) hback
    (by rw [openings_actions]; exact hids) hfunded hentry
  rcases hheld with hsame | ⟨r, hmem, hallowed, hclosed⟩
  · exact .inl hsame
  · have hr : (id, r) ∈ settlements back := by
      rw [← closings_actions (H := H)]
      exact mem_closings hmem
    exact .inr ⟨r, hr, hallowed, hclosed⟩

/-! ## Claims and refunds that go through -/

variable {records : List (Record Digest)} {sender : Address} {id : OrderId}

/-- With the preimage in time, a claim of a funded order goes through. -/
theorem claimOrder_accepted (h : Execution (Step H C) (State.deployed H) records s)
    (hids : (creations H records).length ≤ 2 ^ 256) (hfunded : (s.orders id).Funded)
    {preimage : Bytes} (htime : env.timestamp ≤ (s.orders id).timelock)
    (hactive : requireActive C env sender .claimResolverNotRegistered = .ok ())
    (hsha : H.sha256 preimage = (s.orders id).hashlock) (hsender : sender ≠ C.self)
    (hpayable : Payable C (s.orders id).token (s.orders id).beneficiary)
    (payee caller : List (Call Digest)) :
    ∃ s' receipt, exec H C env (.claimOrder sender id preimage (payee, true) (caller, true)) s =
      .ok (s', receipt) := by
  rw [exec_claimOrder]
  obtain ⟨s₁, transfers, hsettle⟩ := settle_answer (s.orders id).beneficiary sender
    (s := { s with
      entered := true
      orders := update s.orders id
        ((s.orders id).claimedBy env.timestamp (H.keccak256 preimage)) })
    rfl hpayable (tokensForeign_of_execution h id) hsender
    (covered_of_execution h hids hfunded)
  unfold claimOrder
  simp only [require_of (idle_of_execution h), require_of hfunded.1, require_of hfunded.2,
    require_of htime, hactive, require_of hsha, ok_bind, hsettle]
  exact ⟨_, _, rfl⟩

/-- After the timelock anyone can refund a funded order, unless it is ETH for the escrow
itself. -/
theorem refundOrder_accepted_iff (h : Execution (Step H C) (State.deployed H) records s)
    (hids : (creations H records).length ≤ 2 ^ 256) (hfunded : (s.orders id).Funded)
    (htime : (s.orders id).timelock < env.timestamp) (hsender : sender ≠ C.self)
    (payee caller : List (Call Digest)) :
    (∃ s' receipt, exec H C env (.refundOrder sender id (payee, true) (caller, true)) s =
      .ok (s', receipt)) ↔ Payable C (s.orders id).token (s.orders id).refundAddress := by
  rw [exec_refundOrder]
  unfold refundOrder
  simp only [require_of (idle_of_execution h), require_of hfunded.1, require_of hfunded.2,
    require_of htime, ok_bind]
  constructor
  · rintro ⟨s', receipt, hok⟩
    by_contra hpayable
    rw [settle_not_payable hpayable] at hok
    cases hok
  · intro hpayable
    obtain ⟨s₁, transfers, hsettle⟩ := settle_answer (s.orders id).refundAddress sender
      (s := { s with
        entered := true
        orders := update s.orders id ((s.orders id).refundedAt env.timestamp) })
      rfl hpayable (tokensForeign_of_execution h id) hsender
      (covered_of_execution h hids hfunded)
    rw [hsettle]
    exact ⟨_, _, rfl⟩

/-! ## Emptying the escrow -/

omit [DecidableEq Digest] in
/-- The ids of the funded orders. -/
def State.fundedIds (s : State Digest) : Finset OrderId :=
  Finset.univ.filter fun id => (s.orders id).Funded

/-- The record refunds the order `id` of `s` for `caller`, and pays as the order says. -/
def RefundsIn (s : State Digest) (env : Env) (caller : Address) (id : OrderId)
    (record : Record Digest) : Prop :=
  record.settlement = some (id, ⟨caller, env.timestamp, .refund,
    (s.orders id).payments (s.orders id).refundAddress caller⟩)

/-- What stays true while one order of `s` after the other is refunded. -/
structure Draining (H : HashFunctions Digest) (C : Deployment) (s : State Digest)
    (records : List (Record Digest)) (t : State Digest) : Prop where
  run : ∃ refunds, Execution (Step H C) (State.deployed H) (records ++ refunds) t ∧
    creations H (records ++ refunds) = creations H records
  same : ∀ id ∈ t.fundedIds, id ∈ s.fundedIds ∧ t.orders id = s.orders id

theorem Draining.refund {t : State Digest}
    (hids : (creations H records).length ≤ 2 ^ 256)
    (htime : ∀ id ∈ s.fundedIds, (s.orders id).timelock < env.timestamp)
    (hpayable : ∀ id ∈ s.fundedIds, Payable C (s.orders id).token (s.orders id).refundAddress)
    (hcaller : sender ≠ C.self) (ht : Draining H C s records t) (hid : id ∈ t.fundedIds) :
    ∃ record t', Step H C t record t' ∧ RefundsIn s env sender id record ∧
      Draining H C s records t' ∧ t'.fundedIds = t.fundedIds.erase id := by
  obtain ⟨refunds, hrun, hcreations⟩ := ht.run
  obtain ⟨hmem, horder⟩ := ht.same id hid
  have hfunded : (t.orders id).Funded := (Finset.mem_filter.mp hid).2
  obtain ⟨t', receipt, hexec⟩ := (refundOrder_accepted_iff hrun (hcreations ▸ hids) hfunded
    (horder ▸ htime id hmem) hcaller [] []).mpr (horder ▸ hpayable id hmem)
  have hexec' := hexec
  rw [exec] at hexec'
  obtain ⟨hspec, -⟩ := refundOrder_eq_ok (inert_execAll _ _) (inert_execAll _ _) hexec'
  have horders : t'.orders =
      update t.orders id ((t.orders id).refundedAt env.timestamp) := by
    rw [hspec.state_eq]
  obtain ⟨record, hrecord⟩ : ∃ record : Record Digest, record =
      .transaction env (.refundOrder sender id ([], true) ([], true)) (.ok receipt) := ⟨_, rfl⟩
  have hstep : Step H C t record t' := hrecord ▸ .success hcaller hexec
  have hfundedIds : t'.fundedIds = t.fundedIds.erase id := by
    ext i
    simp only [State.fundedIds, Finset.mem_filter, Finset.mem_univ, true_and,
      Finset.mem_erase, horders]
    by_cases hi : i = id
    · subst hi
      simp [Order.Funded, Order.refundedAt]
    · simp [hi]
  refine ⟨record, t', hstep, ?_, ⟨⟨refunds ++ [record], ?_, ?_⟩, fun i hi => ?_⟩, hfundedIds⟩
  · simp [RefundsIn, hrecord, Record.settlement, hspec.transfers_eq, horder]
  · rw [← List.append_assoc]
    exact .snoc hrun hstep
  · have hnone : record.creation H = none := by rw [hrecord]; rfl
    rw [← List.append_assoc, creations, List.filterMap_append, ← creations, hcreations]
    simp [hnone]
  · rw [hfundedIds] at hi
    obtain ⟨hne, hi⟩ := Finset.mem_erase.mp hi
    rw [horders, update_of_ne hne]
    exact ht.same i hi

/-- Once every timelock has passed, anyone can refund all funded orders, one call for each;
then the escrow owes nothing and holds no ETH. -/
theorem escrow_can_be_emptied (h : Execution (Step H C) (State.deployed H) records s)
    (hids : (creations H records).length ≤ 2 ^ 256)
    (htime : ∀ id, (s.orders id).Funded → (s.orders id).timelock < env.timestamp)
    (hpayable : ∀ id, (s.orders id).Funded →
      Payable C (s.orders id).token (s.orders id).refundAddress)
    (hcaller : sender ≠ C.self) :
    ∃ refunds t, Execution (Step H C) s refunds t ∧ refunds.length = s.fundedIds.card ∧
      (∀ record ∈ refunds, ∃ id, (s.orders id).Funded ∧ RefundsIn s env sender id record) ∧
      (∀ id, (s.orders id).Funded → ∃ record ∈ refunds, RefundsIn s env sender id record) ∧
      (∀ id, ¬(t.orders id).Funded) ∧ (∀ asset, t.owed asset = 0) ∧ t.ethBalance = 0 := by
  have hmem (u : State Digest) (id : OrderId) : id ∈ u.fundedIds ↔ (u.orders id).Funded := by
    simp [State.fundedIds]
  have hstart : Draining H C s records s :=
    ⟨⟨[], by simpa using h, by simp⟩, fun id hid => ⟨hid, rfl⟩⟩
  have hrefund {u : State Digest} {id : OrderId} (hu : Draining H C s records u)
      (hid : id ∈ u.fundedIds) : ∃ record v, Step H C u record v ∧
        RefundsIn s env sender id record ∧ Draining H C s records v ∧
        v.fundedIds = u.fundedIds.erase id :=
    hu.refund hids (fun i hi => htime i ((hmem s i).mp hi))
      (fun i hi => hpayable i ((hmem s i).mp hi)) hcaller hid
  obtain ⟨refunds, t, hrun, hdone, hnone, hlength, hall, hevery⟩ :=
    Execution.drain hrefund hstart
  have hunfunded (id : OrderId) : ¬(t.orders id).Funded := by
    rw [← hmem, hnone]
    exact Finset.notMem_empty id
  have howed (asset : Address) : t.owed asset = 0 := by
    refine Finset.sum_eq_zero fun id hid => ?_
    exact absurd (Finset.mem_filter.mp hid).2 (hunfunded id)
  obtain ⟨past, hpast, hcreations⟩ := hdone.run
  have hspec := escrow_spec hpast (hcreations ▸ hids)
  refine ⟨refunds, t, hrun, hlength, fun record hrecord => ?_, fun id hid => ?_, hunfunded,
    howed, ?_⟩
  · obtain ⟨id, hid, hrecord⟩ := hall record hrecord
    exact ⟨id, (hmem s id).mp hid, hrecord⟩
  · exact hevery id ((hmem s id).mpr hid)
  · rw [hspec.eth, howed]

/-- The order of one wei is stored under id 1, the only funded one. -/
theorem weiCreation_run : ∃ s, Execution (Step taggedHash openDeployment)
    (State.deployed taggedHash) [weiCreation 0] s ∧
      s.orders = update (fun _ => Order.unset taggedHash) 1 (weiOrder.order taggedHash 2 0) :=
  ⟨_, .single (.success (by simp [Call.sender, openDeployment]) rfl), rfl⟩

/-- Created once more it is stored under id 2 as well. -/
theorem weiCreations_stored : ∃ s, Execution (Step taggedHash openDeployment)
    (State.deployed taggedHash) [weiCreation 0, weiCreation 1] s ∧
      s.orders = update (update (fun _ => Order.unset taggedHash) 1
        (weiOrder.order taggedHash 2 0)) 2 (weiOrder.order taggedHash 2 0) :=
  ⟨_, .cons (.success (by simp [Call.sender, openDeployment]) rfl)
    (.single (.success (by simp [Call.sender, openDeployment]) rfl)), rfl⟩

theorem wei_can_be_emptied : ∃ s refunds t,
    Execution (Step taggedHash openDeployment) (State.deployed taggedHash)
      [weiCreation 0, weiCreation 1] s ∧
    Execution (Step taggedHash openDeployment) s refunds t ∧
      s.fundedIds = {1, 2} ∧ refunds.length = 2 ∧ t.owed zeroAddress = 0 ∧ t.ethBalance = 0 := by
  obtain ⟨s, hrun, horders⟩ := weiCreations_stored
  have horder (id : OrderId) (hid : id ∈ ({1, 2} : Finset OrderId)) :
      s.orders id = weiOrder.order taggedHash 2 0 := by
    rcases Finset.mem_insert.mp hid with rfl | hid
    · simp [horders]
    · simp [horders, Finset.mem_singleton.mp hid]
  have hfunded (id : OrderId) : (s.orders id).Funded ↔ id ∈ ({1, 2} : Finset OrderId) := by
    refine ⟨fun hid => ?_, fun hid => ?_⟩
    · by_contra hmem
      simp only [Finset.mem_insert, Finset.mem_singleton, not_or] at hmem
      rw [horders, update_of_ne hmem.2, update_of_ne hmem.1] at hid
      exact hid.1 rfl
    · rw [horder id hid]
      decide
  have hids : s.fundedIds = {1, 2} := by
    ext id
    rw [State.fundedIds, Finset.mem_filter, hfunded, and_iff_right (Finset.mem_univ id)]
  have htime (id : OrderId) (hid : (s.orders id).Funded) :
      (s.orders id).timelock < (⟨301, fun _ => none⟩ : Env).timestamp := by
    rw [horder id ((hfunded id).mp hid)]
    decide
  have hcaller : (5 : Address) ≠ openDeployment.self := by decide
  obtain ⟨refunds, t, hdrain, hlength, -, -, -, howed, hempty⟩ := escrow_can_be_emptied hrun
    ((List.length_filterMap_le _ _).trans (by simp)) htime
    (fun id hid => by rw [horder id ((hfunded id).mp hid)]; decide) hcaller
  rw [hids] at hlength
  exact ⟨s, refunds, t, hrun, hdrain, hids, hlength, howed zeroAddress, hempty⟩

end Runs

end OverSync.HTLCEscrow
