import OverSync.Model.HTLCEscrow
import Mathlib.Tactic.Common

/-! # What a successful call of the escrow does

While a call runs the guard is closed, so the contracts it hands control to cannot change the
escrow. Every successful call therefore has one equation for the state it leaves behind. -/

namespace OverSync.HTLCEscrow

open Function Library

variable {Digest : Type} {H : HashFunctions Digest} {C : Deployment} {env : Env}

/-! ## Balances -/

/-- What the escrow holds of an asset; the zero token is ETH. -/
def State.balance (s : State Digest) (asset : Address) : ℕ :=
  if asset = zeroAddress then s.ethBalance else s.tokenBalance asset

/-- What an order locks of an asset. -/
def Order.locked (order : Order Digest) (asset : Address) : ℕ :=
  (if asset = order.token then order.amount else 0) +
    (if asset = zeroAddress then order.safetyDeposit else 0)

/-- The payments that settle an order. -/
def Order.payments (order : Order Digest) (recipient caller : Address) : List Transfer :=
  ⟨order.token, recipient, order.amount⟩ ::
    (if 0 < order.safetyDeposit then [⟨zeroAddress, caller, order.safetyDeposit⟩] else [])

/-- The part of some payments that comes straight back to the escrow. -/
def returned (self : Address) (transfers : List Transfer) (asset : Address) : ℕ :=
  (transfers.map fun t => if t.token = asset ∧ t.recipient = self then t.amount else 0).sum

/-- The state of `s` with the balances of `t`. -/
def State.withBalances (s t : State Digest) : State Digest :=
  { s with ethBalance := t.ethBalance, tokenBalance := t.tokenBalance }

@[simp] theorem State.nextOrderId_withBalances (s t : State Digest) :
    (s.withBalances t).nextOrderId = s.nextOrderId := rfl

@[simp] theorem State.orders_withBalances (s t : State Digest) :
    (s.withBalances t).orders = s.orders := rfl

/-- A callee that leaves the escrow alone while the guard is closed. -/
def Inert (callee : Callee Digest) : Prop :=
  ∀ s, s.entered = true → (callee s).1 = s

/-- A successful payment moves its amount out of the balance and does nothing else. -/
theorem payout_eq_ok {token recipient : Address} {amount : ℕ} {callee : Callee Digest}
    {s s' : State Digest} {paid : Transfer} (hcallee : Inert callee) (hs : s.entered = true)
    (h : payout C token recipient amount callee s = .ok (s', paid)) :
    paid = ⟨token, recipient, amount⟩ ∧ s' = s.withBalances s' ∧
      (token = zeroAddress → recipient ≠ C.self) ∧
      ∀ asset, s'.balance asset + (if asset = token then amount else 0) =
        s.balance asset + returned C.self [paid] asset := by
  unfold payout at h
  split at h
  case isTrue htoken =>
      simp only [require_bind_eq_ok] at h
      obtain ⟨⟨hamount, hself⟩, -, h⟩ := h
      cases h
      rw [hcallee _ (by exact hs)]
      refine ⟨rfl, rfl, fun _ => hself, fun asset => ?_⟩
      by_cases hasset : asset = zeroAddress
      · simp [State.balance, returned, hasset, htoken, hself]
        omega
      · simp [State.balance, returned, hasset, htoken, hself]
  case isFalse htoken =>
      simp only [require_bind_eq_ok] at h
      obtain ⟨⟨-, hamount⟩, -, h⟩ := h
      cases h
      rw [hcallee _ (by unfold State.debitToken; split <;> exact hs)]
      refine ⟨rfl, ?_, fun h0 => absurd h0 htoken, fun asset => ?_⟩
      · unfold State.debitToken
        split <;> rfl
      · by_cases hself : recipient = C.self
        · by_cases hasset : asset = token
          · simp [State.balance, State.debitToken, returned, hasset, hself]
          · simp [State.balance, State.debitToken, returned, hasset, hself, Ne.symm hasset]
        · by_cases hasset : asset = token
          · simp [State.balance, State.debitToken, returned, hasset, hself, htoken]
            omega
          · simp [State.balance, State.debitToken, returned, hasset, hself]

/-- A successful settlement makes the payments of its order, out of what the order locked.
No ETH of it comes back. -/
theorem settle_eq_ok {order : Order Digest} {recipient sender : Address}
    {payee caller : Callee Digest} {s s' : State Digest} {transfers : List Transfer}
    (hpayee : Inert payee) (hcaller : Inert caller) (hs : s.entered = true)
    (h : settle C order recipient sender payee caller s = .ok (s', transfers)) :
    transfers = order.payments recipient sender ∧ s' = s.withBalances s' ∧
      returned C.self transfers zeroAddress = 0 ∧
      ∀ asset, s'.balance asset + order.locked asset =
        s.balance asset + returned C.self transfers asset := by
  unfold settle at h
  obtain ⟨⟨s₁, paid⟩, hpaid, h⟩ := bind_eq_ok.mp h
  obtain ⟨rfl, hs₁, hself₁, hbalance₁⟩ := payout_eq_ok hpayee hs hpaid
  by_cases hdeposit : 0 < order.safetyDeposit
  · simp only [hdeposit, if_true] at h
    obtain ⟨⟨s₂, deposit⟩, hpaid₂, h⟩ := bind_eq_ok.mp h
    have hentered : s₁.entered = true := by rw [hs₁]; exact hs
    obtain ⟨rfl, hs₂, hself₂, hbalance₂⟩ := payout_eq_ok hcaller hentered hpaid₂
    cases h
    refine ⟨by simp [Order.payments, hdeposit], ?_, ?_, fun asset => ?_⟩
    · rw [hs₂, hs₁]
      rfl
    · simpa [returned, hself₂ rfl] using fun htoken hself => absurd hself (hself₁ htoken)
    · have h₁ := hbalance₁ asset
      have h₂ := hbalance₂ asset
      simp only [returned, List.map_cons, List.map_nil, List.sum_cons, List.sum_nil] at h₁ h₂ ⊢
      unfold Order.locked
      omega
  · simp only [hdeposit, if_false] at h
    cases h
    refine ⟨by simp [Order.payments, hdeposit], hs₁, ?_, fun asset => ?_⟩
    · simpa [returned] using fun htoken hself => absurd hself (hself₁ htoken)
    have h₁ := hbalance₁ asset
    have hzero : order.safetyDeposit = 0 := by omega
    simpa [Order.locked, hzero] using h₁

/-! ## The three operations -/

/-- What a successful `createOrder` checked and changed. -/
structure CreateSpec (H : HashFunctions Digest) (C : Deployment) (env : Env) (sender : Address)
    (args : CreateOrderArgs Digest) (s s' : State Digest) (receipt : Receipt Digest) :
    Prop where
  idle : s.entered = false
  amount_ne : args.amount ≠ 0
  hashlock_ne : args.hashlock ≠ H.zero
  active : requireActive C env sender .resolverNotAuthorised = .ok ()
  receipt_eq : receipt = ⟨.orderCreated s.nextOrderId sender args.beneficiary args.token
    args.amount args.safetyDeposit args.hashlock (uint64 env.timestamp + args.timelockSeconds),
    []⟩
  state_eq : s' = { s.withBalances s' with
    nextOrderId := s.nextOrderId + 1
    orders := update s.orders s.nextOrderId (args.order H sender env.timestamp) }
  balance : ∀ asset, s'.balance asset =
    s.balance asset + (args.order H sender env.timestamp).locked asset

/-- What a successful claim or refund of the order `orderId` checked and changed. -/
structure SettleSpec (C : Deployment) (orderId : OrderId) (settled : Order Digest)
    (recipient sender : Address) (s s' : State Digest) (transfers : List Transfer) : Prop where
  idle : s.entered = false
  amount_ne : (s.orders orderId).amount ≠ 0
  funded : (s.orders orderId).status = .funded
  transfers_eq : transfers = (s.orders orderId).payments recipient sender
  eth_leaves : returned C.self transfers zeroAddress = 0
  state_eq : s' = { s.withBalances s' with orders := update s.orders orderId settled }
  balance : ∀ asset, s'.balance asset + (s.orders orderId).locked asset =
    s.balance asset + returned C.self transfers asset

/-- The funds pulled are the ETH sent along and the tokens of the order. -/
theorem pullFunds_eq_ok {value : ℕ} {args : CreateOrderArgs Digest} {callee : Callee Digest}
    {s s' : State Digest} (hcallee : Inert callee) (hs : s.entered = true)
    (h : pullFunds C value args callee s = .ok s') :
    s' = s.withBalances s' ∧ ∀ asset,
      s'.balance asset + (if asset = zeroAddress then value else 0) =
        s.balance asset + (if asset = args.token then args.amount else 0) +
          (if asset = zeroAddress then args.safetyDeposit else 0) := by
  unfold pullFunds at h
  split at h
  case isTrue htoken =>
      simp only [require_bind_eq_ok] at h
      obtain ⟨-, hvalue, h⟩ := h
      cases h
      refine ⟨rfl, fun asset => ?_⟩
      rw [htoken, hvalue]
      split <;> omega
  case isFalse htoken =>
      simp only [require_bind_eq_ok] at h
      obtain ⟨hvalue, -, -, h⟩ := h
      cases h
      rw [hcallee _ (by exact hs), hvalue]
      refine ⟨rfl, fun asset => ?_⟩
      by_cases hasset : asset = args.token
      · simp [State.balance, hasset, htoken]
      · simp [State.balance, hasset]

theorem refundOrder_eq_ok {sender : Address} {orderId : OrderId}
    {payee caller : Callee Digest} {s s' : State Digest} {receipt : Receipt Digest}
    (hpayee : Inert payee) (hcaller : Inert caller)
    (h : refundOrder C env sender orderId payee caller s = .ok (s', receipt)) :
    SettleSpec C orderId ((s.orders orderId).refundedAt env.timestamp)
        (s.orders orderId).refundAddress sender s s' receipt.transfers ∧
      (s.orders orderId).timelock < env.timestamp ∧
      receipt.event = .orderRefunded orderId sender (s.orders orderId).amount
        (s.orders orderId).safetyDeposit := by
  unfold refundOrder at h
  simp only [require_bind_eq_ok] at h
  obtain ⟨hidle, hamount, hfunded, htime, h⟩ := h
  obtain ⟨⟨s₁, transfers⟩, hsettle, h⟩ := bind_eq_ok.mp h
  cases h
  obtain ⟨htransfers, hs₁, heth, hbalance⟩ := settle_eq_ok hpayee hcaller rfl hsettle
  refine ⟨⟨hidle, hamount, hfunded, htransfers, heth, ?_, hbalance⟩, htime, rfl⟩
  rw [hs₁]
  simp [State.withBalances, hidle]
variable [DecidableEq Digest]

theorem createOrder_eq_ok {sender : Address} {value : ℕ} {args : CreateOrderArgs Digest}
    {callee : Callee Digest} {s s' : State Digest} {receipt : Receipt Digest}
    (hcallee : Inert callee)
    (h : createOrder H C env sender value args callee s = .ok (s', receipt)) :
    CreateSpec H C env sender args s s' receipt := by
  unfold createOrder at h
  simp only [require_bind_eq_ok] at h
  obtain ⟨hidle, hamount, -, hhashlock, -, -, h⟩ := h
  obtain ⟨⟨⟩, hactive, h⟩ := bind_eq_ok.mp h
  obtain ⟨s₁, hpull, h⟩ := bind_eq_ok.mp h
  simp only [require_bind_eq_ok] at h
  obtain ⟨-, h⟩ := h
  cases h
  obtain ⟨hs₁, hbalance⟩ := pullFunds_eq_ok hcallee rfl hpull
  have hnext : s₁.nextOrderId = s.nextOrderId := by rw [hs₁]; rfl
  have horders : s₁.orders = s.orders := by rw [hs₁]; rfl
  refine ⟨hidle, hamount, hhashlock, hactive, ?_, ?_, fun asset => ?_⟩
  · rw [hnext]
    rfl
  · simp [State.withBalances, hnext, horders, hidle]
  · have h := hbalance asset
    have hlocked : (args.order H sender env.timestamp).locked asset =
      (if asset = args.token then args.amount else 0) +
        (if asset = zeroAddress then args.safetyDeposit else 0) := rfl
    rw [hlocked]
    by_cases hasset : asset = zeroAddress
    · simp only [State.balance, hasset, if_true] at h ⊢
      omega
    · simp only [State.balance, hasset, if_false] at h ⊢
      omega

theorem claimOrder_eq_ok {sender : Address} {orderId : OrderId} {preimage : Bytes}
    {payee caller : Callee Digest} {s s' : State Digest} {receipt : Receipt Digest}
    (hpayee : Inert payee) (hcaller : Inert caller)
    (h : claimOrder H C env sender orderId preimage payee caller s = .ok (s', receipt)) :
    SettleSpec C orderId ((s.orders orderId).claimedBy env.timestamp (H.keccak256 preimage))
        (s.orders orderId).beneficiary sender s s' receipt.transfers ∧
      env.timestamp ≤ (s.orders orderId).timelock ∧
      H.sha256 preimage = (s.orders orderId).hashlock ∧
      receipt.event = .orderClaimed orderId sender (bytesToBytes32 preimage)
        (s.orders orderId).amount (s.orders orderId).safetyDeposit := by
  unfold claimOrder at h
  simp only [require_bind_eq_ok] at h
  obtain ⟨hidle, hamount, hfunded, htime, h⟩ := h
  obtain ⟨-, -, h⟩ := bind_eq_ok.mp h
  simp only [require_bind_eq_ok] at h
  obtain ⟨hsha, h⟩ := h
  obtain ⟨⟨s₁, transfers⟩, hsettle, h⟩ := bind_eq_ok.mp h
  cases h
  obtain ⟨htransfers, hs₁, heth, hbalance⟩ := settle_eq_ok hpayee hcaller rfl hsettle
  refine ⟨⟨hidle, hamount, hfunded, htransfers, heth, ?_, hbalance⟩, htime, hsha, rfl⟩
  rw [hs₁]
  simp [State.withBalances, hidle]

/-! ## Reentrant calls -/

theorem exec_entered {s : State Digest} (hs : s.entered = true) (env : Env)
    (call : Call Digest) : ∃ e, exec H C env call s = .error e := by
  cases call with
  | createOrder sender value args pull =>
      exact ⟨.reentrancyGuardReentrantCall, by simp [exec, createOrder, require, hs]⟩
  | claimOrder sender orderId preimage payee caller =>
      exact ⟨.reentrancyGuardReentrantCall, by simp [exec, claimOrder, require, hs]⟩
  | refundOrder sender orderId payee caller =>
      exact ⟨.reentrancyGuardReentrantCall, by simp [exec, refundOrder, require, hs]⟩
  | receive sender value => exact ⟨.invalidValue, by simp [exec]⟩

/-- No call made while the guard is closed has an effect. -/
theorem execAll_entered {s : State Digest} (hs : s.entered = true)
    (calls : List (Call Digest)) : execAll H C env calls s = s := by
  induction calls with
  | nil => rw [execAll]
  | cons call calls ih =>
      obtain ⟨e, he⟩ := exec_entered (H := H) (C := C) hs env call
      rw [execAll, he]
      exact ih

theorem inert_execAll (calls : List (Call Digest)) (ok : Bool) :
    Inert fun s => (execAll H C env calls s, ok) :=
  fun _ hs => execAll_entered hs calls

/-! ## What callees do back does not matter -/

/-- A callee that calls nothing and only answers. -/
def answer (ok : Bool) : Callee Digest := fun s => (s, ok)

omit [DecidableEq Digest] in
theorem inert_answer (ok : Bool) : Inert (answer ok : Callee Digest) := fun _ _ => rfl

omit [DecidableEq Digest] in
/-- While the guard is closed, a payment depends on its callee there only. -/
theorem payout_congr {token recipient : Address} {amount : ℕ} {callee callee' : Callee Digest}
    {s : State Digest} (hcallee : ∀ s, s.entered = true → callee s = callee' s)
    (hs : s.entered = true) :
    payout C token recipient amount callee s = payout C token recipient amount callee' s := by
  unfold payout
  split
  · rw [hcallee _ (by exact hs)]
  · rw [hcallee _ (by unfold State.debitToken; split <;> exact hs)]

omit [DecidableEq Digest] in
theorem settle_congr {order : Order Digest} {recipient sender : Address}
    {payee payee' caller caller' : Callee Digest} {s : State Digest}
    (hpayee : ∀ s, s.entered = true → payee s = payee' s)
    (hcaller : ∀ s, s.entered = true → caller s = caller' s) (hinert : Inert payee')
    (hs : s.entered = true) :
    settle C order recipient sender payee caller s =
      settle C order recipient sender payee' caller' s := by
  unfold settle
  rw [payout_congr hpayee hs]
  cases hpaid : payout C order.token recipient order.amount payee' s with
  | error e => rfl
  | ok r =>
      obtain ⟨s₁, paid⟩ := r
      obtain ⟨-, hs₁, -⟩ := payout_eq_ok hinert hs hpaid
      have hentered : s₁.entered = true := by rw [hs₁]; exact hs
      simp only [ok_bind, payout_congr hcaller hentered]

theorem execAll_answer (calls : List (Call Digest)) (ok : Bool) (s : State Digest)
    (hs : s.entered = true) : (execAll H C env calls s, ok) = answer ok s := by
  rw [execAll_entered hs]
  rfl

theorem exec_claimOrder {sender : Address} {orderId : OrderId} {preimage : Bytes}
    {payee caller : List (Call Digest) × Bool} {s : State Digest} :
    exec H C env (.claimOrder sender orderId preimage payee caller) s =
      claimOrder H C env sender orderId preimage (answer payee.2) (answer caller.2) s := by
  rw [exec]
  unfold claimOrder
  simp only [settle_congr (execAll_answer payee.1 payee.2) (execAll_answer caller.1 caller.2)
    (inert_answer payee.2) (s := { s with entered := true, orders := _ }) rfl]

theorem exec_refundOrder {sender : Address} {orderId : OrderId}
    {payee caller : List (Call Digest) × Bool} {s : State Digest} :
    exec H C env (.refundOrder sender orderId payee caller) s =
      refundOrder C env sender orderId (answer payee.2) (answer caller.2) s := by
  rw [exec]
  unfold refundOrder
  simp only [settle_congr (execAll_answer payee.1 payee.2) (execAll_answer caller.1 caller.2)
    (inert_answer payee.2) (s := { s with entered := true, orders := _ }) rfl]

end OverSync.HTLCEscrow
