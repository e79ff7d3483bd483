import OverSync.Model.SorobanHtlc
import Mathlib.Tactic.Common

/-! # What a successful call of `oversync-htlc` does -/

namespace OverSync.SorobanHtlc

open Function Library

variable {Digest : Type} {env : Env} {s s' : State Digest}

/-- What an order locks of an asset: the amount and the safety deposit, in one asset. -/
def Order.locked (order : Order Digest) (asset : Address) : ℤ :=
  if asset = order.asset then order.amount + order.safetyDeposit else 0

/-- The payments that settle an order. -/
def Order.payments (current : Address) (order : Order Digest) (recipient caller : Address) :
    List Transfer :=
  ⟨order.asset, current, recipient, order.amount⟩ ::
    (if 0 < order.safetyDeposit then [⟨order.asset, current, caller, order.safetyDeposit⟩] else [])

/-- The part of some payments that comes straight back to the contract. -/
def returned (current : Address) (transfers : List Transfer) (asset : Address) : ℤ :=
  (transfers.map fun t => if t.asset = asset ∧ t.recipient = current then t.amount else 0).sum

/-! ## Transfers -/

theorem payTransfer_eq_ok {t : Transfer} {ok : Bool} (h : payTransfer env t ok s = .ok s') :
    s' = { s with balance := s'.balance } ∧ t.asset ≠ env.self ∧ t.amount ≤ s.balance t.asset ∧
      ∀ asset, s'.balance asset + (if asset = t.asset then t.amount else 0) =
        s.balance asset + returned env.self [t] asset := by
  unfold payTransfer at h
  simp only [require_bind_eq_ok] at h
  obtain ⟨hasset, hamount, -, h⟩ := h
  cases h
  by_cases hself : t.recipient = env.self
  · simp only [hself, if_true]
    refine ⟨trivial, hasset, hamount, fun asset => ?_⟩
    simp [returned, hself, eq_comm]
  · simp only [hself, if_false]
    refine ⟨trivial, hasset, hamount, fun asset => ?_⟩
    by_cases ha : asset = t.asset
    · simp [returned, hself, ha]
    · simp [returned, hself, ha]

theorem settle_eq_ok {order : Order Digest} {recipient caller : Address} {pay deposit : Bool}
    {transfers : List Transfer} (hdeposit : 0 ≤ order.safetyDeposit)
    (h : settle env order recipient caller pay deposit s = .ok (s', transfers)) :
    transfers = order.payments env.self recipient caller ∧
      s' = { s with balance := s'.balance } ∧
      ∀ asset, s'.balance asset + order.locked asset =
        s.balance asset + returned env.self transfers asset := by
  unfold settle at h
  obtain ⟨s₁, hpaid, h⟩ := bind_eq_ok.mp h
  obtain ⟨hs₁, -, -, hbalance₁⟩ := payTransfer_eq_ok hpaid
  by_cases hpos : 0 < order.safetyDeposit
  · simp only [hpos, if_true] at h
    obtain ⟨s₂, hpaid₂, h⟩ := bind_eq_ok.mp h
    obtain ⟨hs₂, -, -, hbalance₂⟩ := payTransfer_eq_ok hpaid₂
    cases h
    refine ⟨by simp [Order.payments, hpos], ?_, fun asset => ?_⟩
    · rw [hs₂, hs₁]
    · have h₁ := hbalance₁ asset
      have h₂ := hbalance₂ asset
      simp only [returned, List.map_cons, List.map_nil, List.sum_cons, List.sum_nil] at h₁ h₂ ⊢
      by_cases hasset : asset = order.asset
      · simp only [Order.locked, hasset, if_true] at h₁ h₂ ⊢
        omega
      · simp only [Order.locked, hasset, if_false] at h₁ h₂ ⊢
        omega
  · simp only [hpos, if_false] at h
    cases h
    refine ⟨by simp [Order.payments, hpos], hs₁, fun asset => ?_⟩
    have h₁ := hbalance₁ asset
    have hzero : order.safetyDeposit = 0 := by omega
    simpa [Order.locked, hzero] using h₁

/-- Only a missing balance makes a payment fail for lack of funds. -/
theorem payTransfer_funds {t : Transfer} {ok : Bool}
    (h : payTransfer env t ok s = .error .insufficientBalance) : s.balance t.asset < t.amount := by
  unfold payTransfer at h
  by_contra hlt
  have hle : t.amount ≤ s.balance t.asset := by omega
  simp only [require_of hle, ok_bind] at h
  rcases bind_eq_error.mp h with h | ⟨_, _, h⟩
  · unfold require at h
    split at h <;> cases h
  · rcases bind_eq_error.mp h with h | ⟨_, _, h⟩
    · unfold require at h
      split at h <;> cases h
    · cases h

/-- With the locked funds in the contract, a settlement does not run out of them. -/
theorem settle_funds {order : Order Digest} {recipient caller : Address} {pay deposit : Bool}
    (hamount : 0 ≤ order.amount) (hdeposit : 0 ≤ order.safetyDeposit)
    (hfunds : order.amount + order.safetyDeposit ≤ s.balance order.asset) :
    settle env order recipient caller pay deposit s ≠ .error .insufficientBalance := by
  intro h
  unfold settle at h
  rcases bind_eq_error.mp h with h | ⟨s₁, hpaid, h⟩
  · have hlt := payTransfer_funds h
    simp only at hlt
    omega
  · obtain ⟨-, -, -, hbalance⟩ := payTransfer_eq_ok hpaid
    have h₁ := hbalance order.asset
    simp only [returned, List.map_cons, List.map_nil, List.sum_cons, List.sum_nil] at h₁
    by_cases hpos : 0 < order.safetyDeposit
    · simp only [hpos, if_true] at h
      rcases bind_eq_error.mp h with h | ⟨_, _, h⟩
      · have hlt := payTransfer_funds h
        simp only [if_true] at h₁ hlt
        split at h₁ <;> omega
      · cases h
    · simp only [hpos, if_false] at h
      cases h

/-! ## Checked arithmetic -/

theorem checkedAddU64_eq_ok {a b c : ℕ} :
    checkedAddU64 a b = .ok c ↔ a + b < 2 ^ 64 ∧ a + b = c := by
  unfold checkedAddU64
  split
  · next h => rw [and_iff_right h, Except.ok.injEq]
  · next h => exact iff_of_false nofun fun hboth => h hboth.1

theorem checkedAddI128_eq_ok {a b c : ℤ} :
    checkedAddI128 a b = .ok c ↔ (-2 ^ 127 ≤ a + b ∧ a + b < 2 ^ 127) ∧ a + b = c := by
  unfold checkedAddI128
  split
  · next h => rw [and_iff_right h, Except.ok.injEq]
  · next h => exact iff_of_false nofun fun hboth => h hboth.1

theorem nextId_eq_ok {orderId next : OrderId} :
    nextId orderId = .ok next ↔ ∃ h : orderId.val + 1 < 2 ^ 64, ⟨orderId.val + 1, h⟩ = next := by
  unfold nextId
  split
  · next h => rw [exists_prop_of_true h, Except.ok.injEq]
  · next h => exact iff_of_false nofun fun hboth => h hboth.1

/-! ## The operations -/

variable {receipt : Receipt Digest}

/-- The id the next order gets. -/
def State.nextOrderId (s : State Digest) : OrderId :=
  s.inst.nextOrderId.getD 1

/-- What a successful `create_order` checked and changed. -/
structure CreateSpec (env : Env) (args : CreateOrderArgs Digest) (s s' : State Digest)
    (receipt : Receipt Digest) : Prop where
  initialised : s.inst.admin ≠ none
  sender_ne : args.sender ≠ env.self
  amount_pos : 0 < args.amount
  deposit_nonneg : 0 ≤ args.safetyDeposit
  counted : s.nextOrderId.val + 1 < 2 ^ 64
  inst_eq : ∀ h, s'.inst = { s.inst with nextOrderId := some ⟨s.nextOrderId.val + 1, h⟩ }
  orders_eq : s'.orders =
    update s.orders s.nextOrderId (some (args.order s.nextOrderId env.timestamp))
  balance : ∀ asset, s'.balance asset =
    s.balance asset + (args.order s.nextOrderId env.timestamp).locked asset
  receipt_eq : receipt = ⟨some (.created args.sender args.beneficiary args.hashlock s.nextOrderId
    args.asset args.amount args.safetyDeposit (env.timestamp + args.timelockSeconds)),
    [⟨args.asset, args.sender, env.self, args.amount + args.safetyDeposit⟩]⟩

theorem createOrder_eq_ok {args : CreateOrderArgs Digest} {pull : Bool}
    (h : createOrder env args pull s = .ok (s', receipt)) : CreateSpec env args s s' receipt := by
  unfold createOrder requireInitialised requireAuth at h
  simp only [require_bind_eq_ok] at h
  obtain ⟨hadmin, ⟨hsender, -⟩, hamount, hdeposit, -, -, h⟩ := h
  obtain ⟨⟨⟩, -, h⟩ := bind_eq_ok.mp h
  obtain ⟨timelock, htimelock, h⟩ := bind_eq_ok.mp h
  obtain ⟨next, hnext, h⟩ := bind_eq_ok.mp h
  obtain ⟨total, htotal, h⟩ := bind_eq_ok.mp h
  obtain ⟨s₁, hpull, h⟩ := bind_eq_ok.mp h
  obtain ⟨-, rfl⟩ := checkedAddU64_eq_ok.mp htimelock
  obtain ⟨-, rfl⟩ := checkedAddI128_eq_ok.mp htotal
  obtain ⟨hcounted, rfl⟩ := nextId_eq_ok.mp hnext
  unfold pullTransfer at hpull
  simp only [require_bind_eq_ok] at hpull
  obtain ⟨-, hpull⟩ := hpull
  cases hpull
  cases h
  refine ⟨hadmin, hsender, hamount, hdeposit, hcounted, fun _ => rfl, rfl, fun asset => ?_, rfl⟩
  by_cases hasset : asset = args.asset
  · simp [Order.locked, CreateOrderArgs.order, hasset]
  · simp [Order.locked, CreateOrderArgs.order, hasset]

/-- What a successful claim or refund of the order `orderId` checked and changed. -/
structure SettleSpec (env : Env) (orderId : OrderId) (order settled : Order Digest)
    (recipient caller : Address) (s s' : State Digest) (transfers : List Transfer) : Prop where
  initialised : s.inst.admin ≠ none
  caller_ne : caller ≠ env.self
  entry : s.orders orderId = some order
  funded : order.status = .funded
  inst_eq : s'.inst = s.inst
  orders_eq : s'.orders = update s.orders orderId (some settled)
  transfers_eq : transfers = order.payments env.self recipient caller
  balance : ∀ asset, s'.balance asset + order.locked asset =
    s.balance asset + returned env.self transfers asset

theorem getOrder_eq_ok {orderId : OrderId} {order : Order Digest} :
    getOrder s orderId = .ok order ↔ s.orders orderId = some order := by
  unfold getOrder
  cases s.orders orderId <;> simp

/-- Every stored order was created with an amount and without a negative deposit, under its
own id; the counter is set with the admin. -/
structure Inv (s : State Digest) : Prop where
  uninitialised : s.inst.admin = none → s.inst.nextOrderId = none
  amount_pos : ∀ orderId order, s.orders orderId = some order → 0 < order.amount
  deposit_nonneg : ∀ orderId order, s.orders orderId = some order → 0 ≤ order.safetyDeposit
  id_eq : ∀ orderId order, s.orders orderId = some order → order.id = orderId

theorem refundOrder_eq_ok {orderId : OrderId} {caller : Address} {pay deposit : Bool}
    (hs : Inv s) (h : refundOrder env orderId caller pay deposit s = .ok (s', receipt)) :
    ∃ order, SettleSpec env orderId order (order.refundedAt env.timestamp) order.refundAddress
        caller s s' receipt.transfers ∧
      order.timelock < env.timestamp ∧
      receipt.event = some (.refunded order.refundAddress order.hashlock orderId caller
        order.amount order.safetyDeposit) := by
  unfold refundOrder requireInitialised requireAuth at h
  simp only [require_bind_eq_ok] at h
  obtain ⟨hadmin, ⟨hcaller, -⟩, h⟩ := h
  obtain ⟨order, hentry, h⟩ := bind_eq_ok.mp h
  rw [getOrder_eq_ok] at hentry
  simp only [require_bind_eq_ok] at h
  obtain ⟨hfunded, htime, h⟩ := h
  obtain ⟨⟨s₁, transfers⟩, hsettle, h⟩ := bind_eq_ok.mp h
  cases h
  obtain ⟨htransfers, hs₁, hbalance⟩ := settle_eq_ok (hs.deposit_nonneg _ _ hentry) hsettle
  refine ⟨order, ⟨hadmin, hcaller, hentry, hfunded, ?_, ?_, htransfers, hbalance⟩, htime, rfl⟩
  · rw [hs₁]
  · rw [hs₁]

/-- The 8 bytes of an id behind 24 zeros are its 32 bytes. -/
theorem hashInput_eq (orderId : OrderId) (bytes : Bytes) :
    hashInput orderId bytes = toBigEndian 32 orderId.val ++ bytes := by
  have hlt : orderId.val < 256 ^ 8 := orderId.isLt
  rw [hashInput, toBigEndian_pad 24 hlt]

variable [DecidableEq Digest] {sha256 : Bytes → Digest}

theorem claimOrder_eq_ok {orderId : OrderId} {preimage : Bytes} {caller : Address}
    {pay deposit : Bool} (hs : Inv s)
    (h : claimOrder sha256 env orderId preimage caller pay deposit s = .ok (s', receipt)) :
    ∃ order, SettleSpec env orderId order (order.claimedWith preimage env.timestamp)
        order.beneficiary caller s s' receipt.transfers ∧
      env.timestamp ≤ order.timelock ∧ preimage ≠ [] ∧
      sha256 (hashInput orderId preimage) = order.hashlock ∧
      receipt.event = some (.claimed order.beneficiary order.hashlock orderId caller preimage
        order.amount order.safetyDeposit) := by
  unfold claimOrder requireInitialised requireAuth at h
  simp only [require_bind_eq_ok] at h
  obtain ⟨hadmin, ⟨hcaller, -⟩, h⟩ := h
  obtain ⟨order, hentry, h⟩ := bind_eq_ok.mp h
  rw [getOrder_eq_ok] at hentry
  simp only [require_bind_eq_ok] at h
  obtain ⟨hfunded, htime, hlength, hsha, h⟩ := h
  obtain ⟨⟨s₁, transfers⟩, hsettle, h⟩ := bind_eq_ok.mp h
  cases h
  obtain ⟨htransfers, hs₁, hbalance⟩ := settle_eq_ok (hs.deposit_nonneg _ _ hentry) hsettle
  have hpreimage : preimage ≠ [] := by
    rintro rfl
    exact hlength rfl
  refine ⟨order, ⟨hadmin, hcaller, hentry, hfunded, ?_, ?_, htransfers, hbalance⟩, htime,
    hpreimage, hsha, rfl⟩
  · rw [hs₁]
  · rw [hs₁]

end OverSync.SorobanHtlc
