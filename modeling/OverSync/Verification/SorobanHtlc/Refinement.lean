import OverSync.Library.EscrowContract
import OverSync.Verification.SorobanHtlc.Equations
import Mathlib.Data.Int.ConditionallyCompleteOrder
import Mathlib.Order.ConditionallyCompleteLattice.Basic

/-! # `oversync-htlc` as a pooled escrow account

Amount and deposit of an order come from one asset. The order counter is checked, so every run
of the contract is a run of the account. -/

namespace OverSync.SorobanHtlc

open Function Library Library.Escrow

variable {Digest : Type}

/-- A funded order as `create_order` can store it. -/
structure Order.Funded (order : Order Digest) : Prop where
  amount_pos : 0 < order.amount
  deposit_nonneg : 0 ≤ order.safetyDeposit
  status_eq : order.status = .funded

/-! ## Settlements -/

inductive Release where
  | claim (preimage : Bytes)
  | refund
  deriving DecidableEq, Repr

/-- One claim or refund, as the ledger saw it. -/
structure Settlement where
  caller : Address
  timestamp : ℕ
  release : Release
  transfers : List Transfer
  deriving DecidableEq, Repr

/-- The order as a settlement leaves it. -/
def Order.settledBy (order : Order Digest) (r : Settlement) : Order Digest :=
  match r.release with
  | .claim preimage => order.claimedWith preimage r.timestamp
  | .refund => order.refundedAt r.timestamp

theorem Order.settledBy_status (order : Order Digest) (r : Settlement) :
    (order.settledBy r).status ≠ .funded := by
  unfold Order.settledBy
  cases r.release with
  | claim preimage => simp [Order.claimedWith]
  | refund => simp [Order.refundedAt]

/-- A claim needs a nonempty preimage bound to the order id and pays the beneficiary, up to
the timelock; a refund pays the refund address, after it. The caller takes the deposit. -/
def Order.Allows (sha256 : Bytes → Digest) (current : Address) (order : Order Digest)
    (r : Settlement) : Prop :=
  r.caller ≠ current ∧ match r.release with
  | .claim preimage => r.timestamp ≤ order.timelock ∧ preimage ≠ [] ∧
      sha256 (hashInput order.id preimage) = order.hashlock ∧
      r.transfers = order.payments current order.beneficiary r.caller
  | .refund => order.timelock < r.timestamp ∧
      r.transfers = order.payments current order.refundAddress r.caller

/-- The recipient of the amount. -/
def Order.recipient (order : Order Digest) (r : Settlement) : Address :=
  match r.release with
  | .claim _ => order.beneficiary
  | .refund => order.refundAddress

theorem Order.Allows.transfers_eq {sha256 : Bytes → Digest} {current : Address}
    {order : Order Digest} {r : Settlement} (h : order.Allows sha256 current r) :
    r.transfers = order.payments current (order.recipient r) r.caller := by
  obtain ⟨-, h⟩ := h
  unfold Order.recipient
  cases hrelease : r.release with
  | claim preimage =>
      rw [hrelease] at h
      exact h.2.2.2
  | refund =>
      rw [hrelease] at h
      exact h.2

theorem returned_payments_nonneg {order : Order Digest} (h : order.Funded) (current recipient
    caller asset : Address) : 0 ≤ returned current (order.payments current recipient caller) asset := by
  have hamount := h.amount_pos
  unfold returned Order.payments
  split
  · simp only [List.map_cons, List.map_nil, List.sum_cons, List.sum_nil]
    split <;> split <;> omega
  · simp only [List.map_cons, List.map_nil, List.sum_cons, List.sum_nil]
    split <;> omega

/-- Nothing comes back when the contract is no recipient. -/
theorem returned_payments_eq_zero {order : Order Digest} {current recipient caller : Address}
    (hrecipient : recipient ≠ current) (hcaller : caller ≠ current) (asset : Address) :
    returned current (order.payments current recipient caller) asset = 0 := by
  unfold returned Order.payments
  split <;> simp [hrecipient, hcaller]

/-! ## Reading the records -/

/-- The id and the order a record created, if it did. -/
def Record.creation : Record Digest → Option (OrderId × Order Digest)
  | .invocation env (.createOrder args _) (.ok ⟨some (.created _ _ _ orderId ..), _⟩) =>
      some (orderId, args.order orderId env.timestamp)
  | _ => none

/-- The order a record settled, and how, if it did. -/
def Record.settlement : Record Digest → Option (OrderId × Settlement)
  | .invocation env (.claimOrder orderId preimage caller _ _) (.ok receipt) =>
      some (orderId, ⟨caller, env.timestamp, .claim preimage, receipt.transfers⟩)
  | .invocation env (.refundOrder orderId caller _ _) (.ok receipt) =>
      some (orderId, ⟨caller, env.timestamp, .refund, receipt.transfers⟩)
  | _ => none

/-- The asset a record donates to the contract, if it does. -/
def Record.gift : Record Digest → Option Address
  | .donation asset _ => some asset
  | .invocation .. => none

/-- A record as actions on the account. -/
def Record.actions (record : Record Digest) :
    List (Action OrderId Address (Order Digest) Settlement) :=
  actionsOf record.creation record.settlement record.gift

/-! ## The account -/

/-- The account behind the contract. -/
def policy (sha256 : Bytes → Digest) (current : Address) :
    Policy Address (Order Digest) Settlement ℤ where
  valid := Order.Funded
  cost := Order.locked
  allowed := Order.Allows sha256 current
  kept := fun r => returned current r.transfers
  cost_nonneg := fun h asset => by
    have hamount := h.amount_pos
    have hdeposit := h.deposit_nonneg
    unfold Order.locked
    split <;> omega
  kept_nonneg := fun h hallowed asset => by
    rw [hallowed.transfers_eq]
    exact returned_payments_nonneg h _ _ _ asset

/-- The entry behind a position. -/
def slotOrder : Slot (Order Digest) Settlement → Option (Order Digest)
  | .vacant => none
  | .held order => some order
  | .closed order r => some (order.settledBy r)

/-- The `k`-th id the counter hands out, from one on. -/
def nthId (k : ℕ) : OrderId := Fin.ofNat (2 ^ 64) k

theorem nthId_ne {j k : ℕ} (hpos : 0 < j) (hlt : j < k) (hle : k ≤ 2 ^ 64) :
    nthId k ≠ nthId j := by
  intro h
  have hval : k % 2 ^ 64 = j % 2 ^ 64 := congrArg Fin.val h
  omega

/-- A funded order is the entry of a held position only. -/
theorem held_of_slotOrder {order : Order Digest} {slot : Slot (Order Digest) Settlement}
    (hfunded : order.Funded) (h : slotOrder slot = slotOrder (.held order)) :
    slot = .held order := by
  cases slot with
  | vacant => cases h
  | held other =>
      cases h
      rfl
  | closed other r =>
      cases h
      exact absurd hfunded.status_eq (other.settledBy_status r)

/-- The contract as storage of its account. -/
def storage (sha256 : Bytes → Digest) (current : Address) :
    Storage (State Digest) OrderId Address (Option (Order Digest)) (policy sha256 current) where
  entry := State.orders
  balance := State.balance
  next := State.nextOrderId
  entryOf := slotOrder
  nthId := nthId
  capacity := 2 ^ 64
  nthId_ne := nthId_ne
  held_of_entry := held_of_slotOrder

/-! ## What one step does to the account -/

variable {sha256 : Bytes → Digest} {current : Address} {env : Env} {s s' : State Digest}
  {receipt : Receipt Digest}

theorem inv_deployed : Inv (State.deployed : State Digest) where
  uninitialised := fun _ => rfl
  amount_pos := by simp [State.deployed]
  deposit_nonneg := by simp [State.deployed]
  id_eq := by simp [State.deployed]

/-- A step that keeps the orders, or stores one with an amount under its own id, keeps the
invariant. -/
theorem Inv.store {orderId : OrderId} {order : Order Digest} (hs : Inv s)
    (hadmin : s'.inst.admin = none → s'.inst.nextOrderId = none)
    (horders : s'.orders = update s.orders orderId (some order)) (hamount : 0 < order.amount)
    (hdeposit : 0 ≤ order.safetyDeposit) (hid : order.id = orderId) : Inv s' := by
  have hcases (i : OrderId) (o : Order Digest) (ho : s'.orders i = some o) :
      s.orders i = some o ∨ i = orderId ∧ o = order := by
    rw [horders] at ho
    by_cases hi : i = orderId
    · subst hi
      simp only [update_self, Option.some.injEq] at ho
      exact .inr ⟨rfl, ho.symm⟩
    · rw [update_of_ne hi] at ho
      exact .inl ho
  refine ⟨hadmin, fun i o ho => ?_, fun i o ho => ?_, fun i o ho => ?_⟩
  · rcases hcases i o ho with h | ⟨rfl, rfl⟩
    · exact hs.amount_pos i o h
    · exact hamount
  · rcases hcases i o ho with h | ⟨rfl, rfl⟩
    · exact hs.deposit_nonneg i o h
    · exact hdeposit
  · rcases hcases i o ho with h | ⟨rfl, rfl⟩
    · exact hs.id_eq i o h
    · exact hid

/-- What every step guarantees: its effect on the account, the invariant, and a counter that
moves by the orders created. -/
structure StepSpec (sha256 : Bytes → Digest) (current : Address) (s : State Digest)
    (acts : List (Action OrderId Address (Order Digest) Settlement)) (s' : State Digest) :
    Prop where
  effect : Effect (storage sha256 current) s acts s'
  inv : Inv s'
  counter : s'.nextOrderId.val = s.nextOrderId.val + (openings acts).length

theorem CreateSpec.step {args : CreateOrderArgs Digest} (hs : Inv s)
    (h : CreateSpec env args s s' receipt) :
    StepSpec sha256 current s [.opened s.nextOrderId (args.order s.nextOrderId env.timestamp)] s' := by
  have hinst := h.inst_eq h.counted
  have hnext : s'.nextOrderId = ⟨s.nextOrderId.val + 1, h.counted⟩ := by
    simp [State.nextOrderId, hinst]
  refine ⟨.opened ⟨h.amount_pos, h.deposit_nonneg, rfl⟩ h.orders_eq ?_ h.balance,
    hs.store ?_ h.orders_eq h.amount_pos h.deposit_nonneg rfl, ?_⟩
  · intro k hk
    change s.nextOrderId = nthId k at hk
    change s'.nextOrderId = nthId (k + 1)
    have hcounted := h.counted
    rw [hnext]
    apply Fin.ext
    simp only [hk, nthId, Fin.ofNat] at hcounted ⊢
    omega
  · intro hadmin
    rw [hinst] at hadmin
    exact absurd hadmin h.initialised
  · rw [hnext]
    simp

theorem SettleSpec.step {orderId : OrderId} {order : Order Digest} {r : Settlement}
    {recipient caller : Address} (hs : Inv s)
    (h : SettleSpec env orderId order (order.settledBy r) recipient caller s s' r.transfers)
    (hself : env.self = current) (hallowed : order.Allows sha256 current r) :
    StepSpec sha256 current s [.closed orderId r] s' := by
  have hamount := hs.amount_pos orderId order h.entry
  have hdeposit := hs.deposit_nonneg orderId order h.entry
  have hnext : s'.nextOrderId = s.nextOrderId := by
    simp [State.nextOrderId, h.inst_eq]
  have hsettled : (order.settledBy r).amount = order.amount ∧
      (order.settledBy r).safetyDeposit = order.safetyDeposit ∧
      (order.settledBy r).id = order.id := by
    unfold Order.settledBy
    cases r.release <;> exact ⟨rfl, rfl, rfl⟩
  refine ⟨.closed ⟨hamount, hdeposit, h.funded⟩ h.entry hallowed h.orders_eq hnext ?_,
    hs.store ?_ h.orders_eq ?_ ?_ ?_, ?_⟩
  · intro asset
    subst hself
    exact h.balance asset
  · intro hadmin
    rw [h.inst_eq] at hadmin
    exact absurd hadmin h.initialised
  · rw [hsettled.1]
    exact hamount
  · rw [hsettled.2.1]
    exact hdeposit
  · rw [hsettled.2.2]
    exact hs.id_eq orderId order h.entry
  · rw [hnext]
    simp

/-- A step that only touches the configuration. -/
theorem silent_step (hs : Inv s) (horders : s'.orders = s.orders)
    (hbalance : s'.balance = s.balance) (hnext : s'.nextOrderId = s.nextOrderId)
    (hadmin : s'.inst.admin ≠ none) : StepSpec sha256 current s [] s' := by
  refine ⟨.silent horders hnext (fun asset => congrFun hbalance asset), ⟨?_, ?_, ?_, ?_⟩, ?_⟩
  · exact fun h => absurd h hadmin
  · rw [horders]
    exact hs.amount_pos
  · rw [horders]
    exact hs.deposit_nonneg
  · rw [horders]
    exact hs.id_eq
  · rw [hnext]
    rfl

theorem requireAdmin_eq_ok (h : requireAdmin env s = .ok ()) : s.inst.admin ≠ none := by
  unfold requireAdmin at h
  split at h
  · cases h
  · simp_all

theorem actions_invocation_error (env : Env) (call : Call Digest) (failure : Failure) :
    Record.actions (.invocation env call (.error failure)) = [] := by
  cases call <;> rfl

variable [DecidableEq Digest]

theorem exec_step {call : Call Digest} (hs : Inv s) (hself : env.self = current)
    (h : exec sha256 env s call = .ok (s', receipt)) :
    StepSpec sha256 current s (Record.actions (.invocation env call (.ok receipt))) s' := by
  cases call with
  | initialise admin minSafetyDeposit =>
      simp only [exec, initialise, require_bind_eq_ok] at h
      obtain ⟨hadmin, -, h⟩ := h
      obtain ⟨⟨⟩, -, h⟩ := bind_eq_ok.mp h
      cases h
      refine silent_step hs rfl rfl ?_ (by simp)
      simp [State.nextOrderId, hs.uninitialised hadmin]
  | setResolverRegistry registry =>
      obtain ⟨⟨⟩, hadmin, h⟩ := bind_eq_ok.mp h
      cases h
      exact silent_step hs rfl rfl rfl (requireAdmin_eq_ok hadmin)
  | clearResolverRegistry =>
      obtain ⟨⟨⟩, hadmin, h⟩ := bind_eq_ok.mp h
      cases h
      exact silent_step hs rfl rfl rfl (requireAdmin_eq_ok hadmin)
  | setMinSafetyDeposit newMinimum =>
      obtain ⟨⟨⟩, hadmin, h⟩ := bind_eq_ok.mp h
      obtain ⟨⟨⟩, -, h⟩ := bind_eq_ok.mp h
      cases h
      exact silent_step hs rfl rfl rfl (requireAdmin_eq_ok hadmin)
  | setAdmin newAdmin =>
      obtain ⟨⟨⟩, -, h⟩ := bind_eq_ok.mp h
      cases h
      exact silent_step hs rfl rfl rfl (by simp)
  | createOrder args pull =>
      have hspec := createOrder_eq_ok h
      rw [hspec.receipt_eq]
      exact hspec.step hs
  | claimOrder orderId preimage caller pay deposit =>
      obtain ⟨order, hspec, htime, hpreimage, hsha, -⟩ := claimOrder_eq_ok hs h
      rw [← hs.id_eq orderId order hspec.entry] at hsha
      refine SettleSpec.step (r := ⟨caller, env.timestamp, .claim preimage, receipt.transfers⟩)
        hs hspec hself ⟨?_, htime, hpreimage, hsha, ?_⟩
      · exact hself ▸ hspec.caller_ne
      · exact hself ▸ hspec.transfers_eq
  | refundOrder orderId caller pay deposit =>
      obtain ⟨order, hspec, htime, -⟩ := refundOrder_eq_ok hs h
      refine SettleSpec.step (r := ⟨caller, env.timestamp, .refund, receipt.transfers⟩)
        hs hspec hself ⟨?_, htime, ?_⟩
      · exact hself ▸ hspec.caller_ne
      · exact hself ▸ hspec.transfers_eq

theorem Step.spec {record : Record Digest} (hs : Inv s) (h : Step sha256 current s record s') :
    StepSpec sha256 current s record.actions s' := by
  cases h with
  | success hself hexec => exact exec_step hs hself hexec
  | panic hself hexec =>
      rw [actions_invocation_error]
      exact ⟨.silent rfl rfl fun _ => rfl, hs, rfl⟩
  | @donation asset amount hamount =>
      refine ⟨.gift asset rfl rfl (fun other hother => ?_) ?_, ⟨?_, ?_, ?_, ?_⟩, rfl⟩
      · simp [storage, update_of_ne hother]
      · simpa [storage] using hamount
      · exact hs.uninitialised
      · exact hs.amount_pos
      · exact hs.deposit_nonneg
      · exact hs.id_eq

end OverSync.SorobanHtlc
