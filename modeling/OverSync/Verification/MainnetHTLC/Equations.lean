import OverSync.Model.MainnetHTLC
import Mathlib.Tactic.Common

/-! # What a successful call of the bridge contract does

While a token moves the guard is closed, so that whatever it calls back brings in ETH at most. -/

namespace OverSync.MainnetHTLC

open Function Library

variable {Digest : Type} {C : Deployment Digest} {env : Env} {sender recipient : Address}
  {value : ℕ} {args : CreateOrderArgs Digest} {orderId : Digest} {s s' : State Digest}
  {event : Event Digest} {callee : Callee Digest} {answer : Answer}

/-! ## Reentrant calls -/

/-- The state of `s` with the ETH of `t`. -/
def State.withETH (s t : State Digest) : State Digest :=
  { s with balance := update s.balance zeroAddress (t.balance zeroAddress) }

/-- A callee that can do no more than bring in ETH while the guard is closed. -/
def Contained (callee : Callee Digest) : Prop :=
  ∀ s, s.entered = true →
    callee s = s.withETH (callee s) ∧ s.balance zeroAddress ≤ (callee s).balance zeroAddress

variable [DecidableEq Digest]

theorem exec_entered {call : Call Digest} (hs : s.entered = true)
    (h : exec C env call s = .ok (s', event)) : ∃ value, s' = s.credit zeroAddress value := by
  cases call with
  | createOrder sender value args token => simp [exec, createOrder, require, hs] at h
  | claimOrder sender orderId secret token => simp [exec, claimOrder, require, hs] at h
  | claimOrderBytes sender orderId preimage token => simp [exec, claimOrder, require, hs] at h
  | refundOrder sender orderId token => simp [exec, refundOrder, require, hs] at h
  | receive sender value =>
      cases h
      exact ⟨value, rfl⟩

theorem contained_execAll (calls : List (Call Digest)) : Contained (execAll C env calls) := by
  intro s hs
  induction calls generalizing s with
  | nil =>
      rw [execAll]
      exact ⟨by rw [State.withETH, update_eq_self], le_rfl⟩
  | cons call calls ih =>
      rw [execAll]
      cases hexec : exec C env call s with
      | error e => exact ih s hs
      | ok result =>
          obtain ⟨s₁, event⟩ := result
          obtain ⟨value, rfl⟩ := exec_entered hs hexec
          obtain ⟨hrest, hle⟩ := ih (s.credit zeroAddress value) hs
          simp only
          refine ⟨?_, le_trans ?_ hle⟩
          · rw [hrest]
            simp [State.withETH, State.credit]
          · simp [State.credit]

omit [DecidableEq Digest] in
/-- No balance is lost to what a token calls back. -/
theorem Contained.balance_le (hcallee : Contained callee) (hs : s.entered = true)
    (token : Address) : s.balance token ≤ (callee s).balance token := by
  obtain ⟨heq, hle⟩ := hcallee s hs
  by_cases htoken : token = zeroAddress
  · rw [htoken]
    exact hle
  · rw [heq]
    simp [State.withETH, htoken]

omit [DecidableEq Digest] in
theorem Contained.balance_eq (hcallee : Contained callee) (hs : s.entered = true)
    {token : Address} (htoken : token ≠ zeroAddress) :
    (callee s).balance token = s.balance token := by
  rw [(hcallee s hs).1]
  simp [State.withETH, htoken]

/-- The token reports by its return value only that nothing has moved. -/
def Answer.Refuses (answer : Answer) (token : Address) : Prop :=
  token ≠ zeroAddress ∧ answer = .refused

/-! ## Creation -/

/-- What a successful `createOrder` did. -/
structure Created (C : Deployment Digest) (env : Env) (sender : Address)
    (args : CreateOrderArgs Digest) (answer : Answer) (s s' : State Digest) : Prop where
  positive : args.amount ≠ 0
  orders : s'.orders = update s.orders (C.orderId sender s.nextOrderId env.timestamp)
    (args.order sender env.timestamp)
  next : s'.nextOrderId = s.nextOrderId + 1
  payments : s'.payments = s.payments
  refused : answer.Refuses args.token → s'.balance args.token = s.balance args.token
  moved : ¬answer.Refuses args.token →
    s.balance args.token + args.amount ≤ s'.balance args.token
  others : ∀ token, token ≠ args.token → s.balance token ≤ s'.balance token

omit [DecidableEq Digest] in
theorem transferFrom_eq_ok {token : Address} {amount : ℕ} (hcallee : Contained callee)
    (hs : s.entered = true) (htoken : token ≠ zeroAddress)
    (h : transferFrom token amount callee answer s = .ok s') :
    s' = { s with balance := s'.balance } ∧
      (answer.Refuses token → s'.balance token = s.balance token) ∧
      (¬answer.Refuses token → s.balance token + amount ≤ s'.balance token) ∧
      ∀ other, other ≠ token → s.balance other ≤ s'.balance other := by
  cases answer with
  | moved =>
      cases h
      have hcredit := hcallee (s.credit token amount) hs
      have hle := fun t => hcallee.balance_le (s := s.credit token amount) hs t
      refine ⟨?_, fun h => absurd h.2 nofun, fun _ => ?_, fun other hother => ?_⟩
      · rw [hcredit.1]
        rfl
      · simpa [State.credit] using hle token
      · simpa [State.credit, hother] using hle other
  | refused =>
      cases h
      refine ⟨?_, fun _ => hcallee.balance_eq hs htoken, fun h => absurd ⟨htoken, rfl⟩ h,
        fun other _ => hcallee.balance_le hs other⟩
      rw [(hcallee s hs).1]
      rfl
  | reverted => cases h

omit [DecidableEq Digest] in
theorem deposit_eq_ok (hcallee : Contained callee) (hs : s.entered = true)
    (h : deposit value args callee answer s = .ok s') :
    s' = { s with balance := s'.balance } ∧
      (answer.Refuses args.token → s'.balance args.token = s.balance args.token) ∧
      (¬answer.Refuses args.token →
        s.balance args.token + args.amount ≤ s'.balance args.token) ∧
      ∀ token, token ≠ args.token → s.balance token ≤ s'.balance token := by
  unfold deposit at h
  split at h
  case isTrue htoken =>
      obtain ⟨rfl, h⟩ := require_bind_eq_ok.mp h
      cases h
      refine ⟨rfl, fun h => absurd htoken h.1, fun _ => ?_, fun token hne => ?_⟩
      · simp [State.credit, htoken]
      · rw [htoken] at hne
        simp [State.credit, hne]
  case isFalse htoken =>
      exact transferFrom_eq_ok hcallee hs htoken (require_bind_eq_ok.mp h).2

theorem createOrder_eq_ok (hcallee : Contained callee)
    (h : createOrder C env sender value args callee answer s = .ok (s', event)) :
    Created C env sender args answer s s' := by
  simp only [createOrder, require_bind_eq_ok] at h
  obtain ⟨-, hamount, -, h⟩ := h
  obtain ⟨earliest, -, h⟩ := bind_eq_ok.mp h
  obtain ⟨-, h⟩ := require_bind_eq_ok.mp h
  obtain ⟨latest, -, h⟩ := bind_eq_ok.mp h
  simp only [require_bind_eq_ok] at h
  obtain ⟨-, -, -, h⟩ := h
  obtain ⟨⟨⟩, -, h⟩ := bind_eq_ok.mp h
  obtain ⟨next, hnext, h⟩ := bind_eq_ok.mp h
  obtain ⟨s₁, hdeposit, h⟩ := bind_eq_ok.mp h
  obtain ⟨hs₁, hrefused, hmoved, hothers⟩ := deposit_eq_ok hcallee rfl hdeposit
  cases h
  refine ⟨by omega, ?_, ?_, ?_, hrefused, hmoved, hothers⟩
  · rw [hs₁]
  · rw [hs₁]
    exact (addBelow_eq_ok.mp hnext).2
  · rw [hs₁]

/-! ## Settlement -/

/-- The payment of an order to `recipient`. -/
def Order.payment (order : Order Digest) (orderId : Digest) (recipient : Address) :
    Payment Digest :=
  ⟨orderId, order.token, recipient, order.amount⟩

omit [DecidableEq Digest] in
theorem pay_balance (C : Deployment Digest) (s : State Digest) (payment : Payment Digest) :
    s.balance payment.token ≤ (s.pay C payment).balance payment.token + payment.amount ∧
      ∀ token, token ≠ payment.token → (s.pay C payment).balance token = s.balance token := by
  unfold State.pay
  split
  · exact ⟨Nat.le_add_right _ _, fun _ _ => rfl⟩
  · refine ⟨?_, fun token hne => update_of_ne hne _ _⟩
    simp only [update_self]
    omega

omit [DecidableEq Digest] in
/-- Only balances and payments change, by the payment of the order unless the token refuses. -/
theorem settle_eq_ok {order : Order Digest} (hcallee : Contained callee) (hs : s.entered = true)
    (h : settle C orderId order recipient callee answer s = .ok s') :
    s' = { s with balance := s'.balance, payments := s'.payments } ∧
      (answer.Refuses order.token → s'.payments = s.payments) ∧
      (¬answer.Refuses order.token →
        s'.payments = s.payments ++ [order.payment orderId recipient] ∧
        s.balance order.token ≤ s'.balance order.token + order.amount) ∧
      ∀ token, token ≠ order.token → s.balance token ≤ s'.balance token := by
  have hpay := pay_balance C s (order.payment orderId recipient)
  unfold settle at h
  split at h
  case isTrue htoken =>
      simp only [transferETH, require_bind_eq_ok] at h
      obtain ⟨-, -, h⟩ := h
      cases h
      exact ⟨rfl, fun h => absurd htoken h.1, fun _ => ⟨rfl, hpay.1⟩,
        fun token hne => (hpay.2 token hne).ge⟩
  case isFalse htoken =>
      cases answer with
      | moved =>
          obtain ⟨-, h⟩ := require_bind_eq_ok.mp h
          cases h
          have hpaid := hcallee (s.pay C (order.payment orderId recipient)) hs
          have hle := fun token =>
            hcallee.balance_le (s := s.pay C (order.payment orderId recipient)) hs token
          refine ⟨?_, fun h => absurd h.2 (by simp), fun _ => ⟨?_, ?_⟩, fun token hne => ?_⟩
          · change callee (s.pay C (order.payment orderId recipient)) =
              { s with
                balance := (callee (s.pay C (order.payment orderId recipient))).balance
                payments := (callee (s.pay C (order.payment orderId recipient))).payments }
            rw [hpaid.1]
            rfl
          · exact congrArg State.payments hpaid.1
          · exact hpay.1.trans (Nat.add_le_add_right (hle order.token) _)
          · exact (hpay.2 token hne).ge.trans (hle token)
      | refused =>
          cases h
          refine ⟨?_, fun _ => ?_, fun h => absurd ⟨htoken, rfl⟩ h,
            fun token _ => hcallee.balance_le hs token⟩
          · rw [(hcallee s hs).1]
            rfl
          · rw [(hcallee s hs).1]
            rfl
      | reverted => cases h

/-- What a successful claim or refund did. -/
structure Settled (orderId : Digest) (status : OrderStatus) (answer : Answer)
    (s s' : State Digest) : Prop where
  found : (s.orders orderId).sender ≠ zeroAddress
  created : (s.orders orderId).status = .created
  orders : s'.orders = update s.orders orderId { s.orders orderId with status := status }
  next : s'.nextOrderId = s.nextOrderId
  refused : answer.Refuses (s.orders orderId).token → s'.payments = s.payments
  moved : ¬answer.Refuses (s.orders orderId).token →
    s'.payments = s.payments ++
      [(s.orders orderId).payment orderId (s'.orders orderId).payee] ∧
    s.balance (s.orders orderId).token ≤
      s'.balance (s.orders orderId).token + (s.orders orderId).amount
  others : ∀ token, token ≠ (s.orders orderId).token → s.balance token ≤ s'.balance token

/-- A settlement to the payee of the order in its new status. -/
theorem settled_of_settle {status : OrderStatus} (hcallee : Contained callee)
    (hfound : (s.orders orderId).sender ≠ zeroAddress)
    (hcreated : (s.orders orderId).status = .created)
    (h : settle C orderId (s.orders orderId)
      { s.orders orderId with status := status }.payee callee answer
      { s with
        entered := true
        orders := update s.orders orderId { s.orders orderId with status := status } } = .ok s') :
    Settled orderId status answer s { s' with entered := false } := by
  obtain ⟨hs', hrefused, hmoved, hothers⟩ := settle_eq_ok hcallee rfl h
  have horders : s'.orders =
      update s.orders orderId { s.orders orderId with status := status } := by rw [hs']
  refine ⟨hfound, hcreated, horders, by rw [hs'], hrefused, fun hnot => ?_, hothers⟩
  simp only [horders, update_self]
  exact hmoved hnot

theorem claimOrder_eq_ok {preimage secret : Bytes} (hcallee : Contained callee)
    (h : claimOrder C env sender orderId preimage secret callee answer s = .ok (s', event)) :
    Settled orderId .claimed answer s s' := by
  simp only [claimOrder, require_bind_eq_ok] at h
  obtain ⟨-, hfound, hcreated, -, -, h⟩ := h
  obtain ⟨s₁, hsettle, h⟩ := bind_eq_ok.mp h
  cases h
  exact settled_of_settle hcallee hfound hcreated hsettle

theorem refundOrder_eq_ok (hcallee : Contained callee)
    (h : refundOrder C env orderId callee answer s = .ok (s', event)) :
    Settled orderId .refunded answer s s' := by
  simp only [refundOrder, require_bind_eq_ok] at h
  obtain ⟨-, hfound, hcreated, -, h⟩ := h
  obtain ⟨s₁, hsettle, h⟩ := bind_eq_ok.mp h
  cases h
  exact settled_of_settle hcallee hfound hcreated hsettle

end OverSync.MainnetHTLC
