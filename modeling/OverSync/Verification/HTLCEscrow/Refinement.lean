import OverSync.Library.EscrowContract
import OverSync.Verification.HTLCEscrow.Equations

/-! # The escrow as a pooled escrow account

Orders are positions, ETH and tokens are the assets of one pool, and a claim or a refund
closes a position. The contract refines the account as long as its order counter has not
come round. -/

namespace OverSync.HTLCEscrow

open Function Library Library.Escrow

variable {Digest : Type}

def Order.Funded (order : Order Digest) : Prop :=
  order.amount ≠ 0 ∧ order.status = .funded

instance (order : Order Digest) : Decidable order.Funded :=
  inferInstanceAs (Decidable (_ ∧ _))

/-! ## Settlements -/

inductive Release where
  | claim (preimage : Bytes)
  | refund
  deriving DecidableEq, Repr

/-- One claim or refund, as the chain saw it. -/
structure Settlement where
  caller : Address
  timestamp : ℕ
  release : Release
  transfers : List Transfer
  deriving DecidableEq, Repr

/-- The order as a settlement leaves it. -/
def Order.settledBy (H : HashFunctions Digest) (order : Order Digest) (r : Settlement) :
    Order Digest :=
  match r.release with
  | .claim preimage => order.claimedBy r.timestamp (H.keccak256 preimage)
  | .refund => order.refundedAt r.timestamp

theorem Order.settledBy_status (H : HashFunctions Digest) (order : Order Digest)
    (r : Settlement) : (order.settledBy H r).status ≠ .funded := by
  unfold Order.settledBy
  cases r.release with
  | claim preimage => simp [Order.claimedBy]
  | refund => simp [Order.refundedAt]

/-- A claim needs the preimage and pays the beneficiary, up to the timelock; a refund pays
the refund address, after it. The caller takes the safety deposit. -/
def Order.Allows (H : HashFunctions Digest) (order : Order Digest) (r : Settlement) : Prop :=
  match r.release with
  | .claim preimage => r.timestamp ≤ order.timelock ∧ H.sha256 preimage = order.hashlock ∧
      r.transfers = order.payments order.beneficiary r.caller
  | .refund => order.timelock < r.timestamp ∧
      r.transfers = order.payments order.refundAddress r.caller

/-- The id and the order a record created, if it did. -/
def Record.creation (H : HashFunctions Digest) : Record Digest → Option (OrderId × Order Digest)
  | .transaction env (.createOrder sender _ args _) (.ok ⟨.orderCreated orderId .., _⟩) =>
      some (orderId, args.order H sender env.timestamp)
  | _ => none

/-- The order a record settled, and how, if it did. -/
def Record.settlement : Record Digest → Option (OrderId × Settlement)
  | .transaction env (.claimOrder sender orderId preimage _ _) (.ok receipt) =>
      some (orderId, ⟨sender, env.timestamp, .claim preimage, receipt.transfers⟩)
  | .transaction env (.refundOrder sender orderId _ _) (.ok receipt) =>
      some (orderId, ⟨sender, env.timestamp, .refund, receipt.transfers⟩)
  | _ => none

/-- The token a record donates to the escrow, if it does. -/
def Record.gift : Record Digest → Option Address
  | .donation token _ => some token
  | .transaction .. => none

/-- A record as actions on the account. -/
def Record.actions (H : HashFunctions Digest) (record : Record Digest) :
    List (Action OrderId Address (Order Digest) Settlement) :=
  actionsOf (record.creation H) record.settlement record.gift

/-- The account behind the contract. -/
def policy (H : HashFunctions Digest) (C : Deployment) :
    Policy Address (Order Digest) Settlement ℕ where
  valid := Order.Funded
  cost := Order.locked
  allowed := Order.Allows H
  kept := fun r => returned C.self r.transfers
  cost_nonneg := fun _ _ => Nat.zero_le _
  kept_nonneg := fun _ _ _ => Nat.zero_le _

/-- The entry behind a position. -/
def slotOrder (H : HashFunctions Digest) : Slot (Order Digest) Settlement → Order Digest
  | .vacant => Order.unset H
  | .held order => order
  | .closed order r => order.settledBy H r

/-- The `k`-th id the counter hands out, from one on. -/
def nthId (k : ℕ) : OrderId := Fin.ofNat (2 ^ 256) k

theorem nthId_succ (k : ℕ) : nthId k + 1 = nthId (k + 1) := by
  apply Fin.ext
  simp [nthId, Fin.ofNat, Fin.val_add]

/-- Ids repeat only after the counter has come round. -/
theorem nthId_ne {j k : ℕ} (hpos : 0 < j) (hlt : j < k) (hle : k ≤ 2 ^ 256) :
    nthId k ≠ nthId j := by
  intro h
  have hval : k % 2 ^ 256 = j % 2 ^ 256 := congrArg Fin.val h
  omega

/-- A funded order is the entry of a held position only. -/
theorem held_of_slotOrder {H : HashFunctions Digest} {order : Order Digest}
    {slot : Slot (Order Digest) Settlement} (hfunded : order.Funded)
    (h : slotOrder H slot = order) : slot = .held order := by
  cases slot with
  | vacant =>
      rw [← h] at hfunded
      exact absurd rfl hfunded.1
  | held other => rw [← h, slotOrder]
  | closed other r =>
      rw [← h] at hfunded
      exact absurd hfunded.2 (other.settledBy_status H r)

/-- The contract as storage of its account. -/
def storage (H : HashFunctions Digest) (C : Deployment) :
    Storage (State Digest) OrderId Address (Order Digest) (policy H C) where
  entry := State.orders
  balance := State.balance
  next := State.nextOrderId
  entryOf := slotOrder H
  nthId := nthId
  capacity := 2 ^ 256
  nthId_ne := nthId_ne
  held_of_entry := held_of_slotOrder

/-! ## What one step does to the account -/

variable {H : HashFunctions Digest} {C : Deployment}

theorem CreateSpec.effect {env : Env} {sender : Address} {args : CreateOrderArgs Digest}
    {s s' : State Digest} {receipt : Receipt Digest}
    (h : CreateSpec H C env sender args s s' receipt) :
    Effect (storage H C) s [.opened s.nextOrderId (args.order H sender env.timestamp)] s' := by
  refine .opened ⟨h.amount_ne, rfl⟩ ?_ ?_ h.balance
  · rw [h.state_eq]
    rfl
  · intro k hk
    rw [h.state_eq]
    exact (congrArg (· + 1) hk).trans (nthId_succ k)

theorem SettleSpec.effect {orderId : OrderId} {r : Settlement} {recipient sender : Address}
    {s s' : State Digest}
    (h : SettleSpec C orderId ((s.orders orderId).settledBy H r) recipient sender s s' r.transfers)
    (hallowed : (s.orders orderId).Allows H r) :
    Effect (storage H C) s [.closed orderId r] s' := by
  refine .closed ⟨h.amount_ne, h.funded⟩ rfl hallowed ?_ ?_ h.balance
  · rw [h.state_eq]
    rfl
  · rw [h.state_eq]
    rfl

theorem actions_transaction_error (env : Env) (call : Call Digest) (e : Error) :
    Record.actions H (.transaction env call (.error e)) = [] := by
  cases call <;> rfl

section Steps

variable [DecidableEq Digest]

theorem exec_effect {env : Env} {call : Call Digest} {s s' : State Digest}
    {receipt : Receipt Digest} (h : exec H C env call s = .ok (s', receipt)) :
    Effect (storage H C) s (Record.actions H (.transaction env call (.ok receipt))) s' ∧
      ∀ act ∈ Record.actions H (.transaction env call (.ok receipt)),
        (policy H C).Exact zeroAddress act := by
  cases call with
  | createOrder sender value args pull =>
      rw [exec] at h
      have hspec := createOrder_eq_ok (inert_execAll _ _) h
      rw [hspec.receipt_eq]
      exact ⟨hspec.effect, by simp [Record.actions, actionsOf, Record.creation, Record.settlement, Record.gift,
        Policy.Exact]⟩
  | claimOrder sender orderId preimage payee caller =>
      rw [exec] at h
      obtain ⟨hspec, htime, hsha, -⟩ :=
        claimOrder_eq_ok (inert_execAll _ _) (inert_execAll _ _) h
      refine ⟨SettleSpec.effect (r := ⟨sender, env.timestamp, .claim preimage, receipt.transfers⟩)
        hspec ⟨htime, hsha, hspec.transfers_eq⟩, ?_⟩
      simpa [Record.actions, actionsOf, Record.creation, Record.settlement, Record.gift,
        Policy.Exact, policy] using hspec.eth_leaves
  | refundOrder sender orderId payee caller =>
      rw [exec] at h
      obtain ⟨hspec, htime, -⟩ :=
        refundOrder_eq_ok (inert_execAll _ _) (inert_execAll _ _) h
      refine ⟨SettleSpec.effect (r := ⟨sender, env.timestamp, .refund, receipt.transfers⟩)
        hspec ⟨htime, hspec.transfers_eq⟩, ?_⟩
      simpa [Record.actions, actionsOf, Record.creation, Record.settlement, Record.gift,
        Policy.Exact, policy] using hspec.eth_leaves
  | receive sender value =>
      rw [exec] at h
      cases h

/-- A step acts on the account as its record says, and only adds the ETH it makes it owe. -/
theorem Step.effect {s s' : State Digest} {record : Record Digest}
    (h : Step H C s record s') : Effect (storage H C) s (record.actions H) s' ∧
      ∀ act ∈ record.actions H, (policy H C).Exact zeroAddress act := by
  cases h with
  | success _ hexec => exact exec_effect hexec
  | revert hexec =>
      rw [actions_transaction_error]
      exact ⟨.silent rfl rfl fun _ => rfl, by simp⟩
  | @donation token amount htoken =>
      refine ⟨.gift token rfl rfl (fun asset hasset => ?_) ?_, ?_⟩
      · simp [storage, State.balance, update_of_ne hasset]
      · simp [storage, State.balance, htoken]
      · simpa [Record.actions, actionsOf, Record.creation, Record.settlement, Record.gift,
          Policy.Exact] using htoken

end Steps

theorem represents_deployed : Represents (storage H C) [] (State.deployed H) Book.empty where
  pool := fun asset => by simp [Book.empty, storage, State.balance, State.deployed]
  entries := fun _ => rfl
  next := rfl
  vacant := fun _ _ _ => rfl

end OverSync.HTLCEscrow
