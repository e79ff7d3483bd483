import OverSync.Verification.HTLCEscrow.Refinement
import Mathlib.Data.List.Nodup

/-! # Solvency and single settlement of the escrow

In every run the balances cover the funded orders, and every order is created once, settled
at most once, and paid exactly as its terms say. -/

namespace OverSync.HTLCEscrow

open Function Library Library.Escrow

variable {Digest : Type} {H : HashFunctions Digest} {C : Deployment}

/-! ## What a run promises -/

/-- What the funded orders lock of an asset: their amounts in it and, in ETH, their safety
deposits. -/
def State.owed (s : State Digest) (asset : Address) : ℕ :=
  ∑ id with (s.orders id).Funded, (s.orders id).locked asset

/-- The ids and orders created by some records, oldest first. -/
def creations (H : HashFunctions Digest) (records : List (Record Digest)) :
    List (OrderId × Order Digest) :=
  records.filterMap (Record.creation H)

/-- The ids settled by some records and how, oldest first. -/
def settlements (records : List (Record Digest)) : List (OrderId × Settlement) :=
  records.filterMap Record.settlement

/-- The life of an order id: never created; created and still funded; or created, and
settled once as its terms allow. -/
inductive OrderLife (H : HashFunctions Digest) (records : List (Record Digest)) (id : OrderId) :
    Order Digest → Prop where
  | unset : valuesAt id (creations H records) = [] → valuesAt id (settlements records) = [] →
      OrderLife H records id (Order.unset H)
  | funded {order} : valuesAt id (creations H records) = [order] →
      valuesAt id (settlements records) = [] → order.Funded → OrderLife H records id order
  | settled {order r} : valuesAt id (creations H records) = [order] →
      valuesAt id (settlements records) = [r] → order.Funded → order.Allows H r →
      OrderLife H records id (order.settledBy H r)

section Spec

variable [DecidableEq Digest]

/-- The promise of the escrow about a run through `records` to the state `s`. -/
structure EscrowSpec (H : HashFunctions Digest) (C : Deployment)
    (records : List (Record Digest)) (s : State Digest) : Prop where
  eth : s.ethBalance = s.owed zeroAddress
  tokens : ∀ token, token ≠ zeroAddress → s.owed token ≤ s.tokenBalance token
  life : ∀ id, OrderLife H records id (s.orders id)
  ids_unique : ((creations H records).map Prod.fst).Nodup
  settled_stays : ∀ front back u, records = front ++ back →
    Execution (Step H C) (State.deployed H) front u → Execution (Step H C) u back s →
    ∀ id, (u.orders id).status ≠ .funded → s.orders id = u.orders id

end Spec

/-! ## Every run is a run of the account -/

theorem openings_actions (records : List (Record Digest)) :
    openings (records.flatMap (Record.actions H)) = creations H records :=
  openings_flatMap _ _ _ records

theorem closings_actions (records : List (Record Digest)) :
    closings (records.flatMap (Record.actions H)) = settlements records :=
  closings_flatMap _ _ _ records

/-- What a funded position owes is what its order locks. -/
theorem owed_eq_liabilities {acts : List (Action OrderId Address (Order Digest) Settlement)}
    {s : State Digest} {b : Book OrderId Address (Order Digest) Settlement ℕ}
    (h : Represents (storage H C) acts s b) (hvalid : ∀ id, (policy H C).SlotValid (b.slots id))
    (asset : Address) : s.owed asset = (policy H C).liabilities b.slots asset := by
  unfold State.owed Policy.liabilities
  rw [Finset.sum_filter]
  refine Finset.sum_congr rfl fun id _ => ?_
  have hentry : s.orders id = slotOrder H (b.slots id) := h.entries id
  have hslotValid := hvalid id
  rw [hentry]
  cases hslot : b.slots id with
  | vacant => simp [slotOrder, Order.Funded, Order.unset, Policy.due]
  | held order =>
      rw [hslot] at hslotValid
      have hfunded : order.Funded := hslotValid
      simp [slotOrder, hfunded, Policy.due, policy]
  | closed order r =>
      have hsettled : ¬(order.settledBy H r).Funded :=
        fun hfunded => order.settledBy_status H r hfunded.2
      simp [slotOrder, hsettled, Policy.due]

theorem orderLife_of_history {records : List (Record Digest)} {id : OrderId}
    {slot : Slot (Order Digest) Settlement}
    (h : History Order.Funded (Order.Allows H) id (records.flatMap (Record.actions H)) slot) :
    OrderLife H records id (slotOrder H slot) := by
  cases h with
  | vacant ho hc =>
      rw [openings_actions] at ho
      rw [closings_actions] at hc
      exact .unset ho hc
  | held ho hc hv =>
      rw [openings_actions] at ho
      rw [closings_actions] at hc
      exact .funded ho hc hv
  | closed ho hc hv ha =>
      rw [openings_actions] at ho
      rw [closings_actions] at hc
      exact .settled ho hc hv ha

/-- An order that is no longer funded is a closed position. -/
theorem closed_of_status {acts : List (Action OrderId Address (Order Digest) Settlement)}
    {s : State Digest} {b : Book OrderId Address (Order Digest) Settlement ℕ}
    (h : Represents (storage H C) acts s b) (hvalid : ∀ id, (policy H C).SlotValid (b.slots id))
    {id : OrderId} (hstatus : (s.orders id).status ≠ .funded) :
    ∃ order r, b.slots id = .closed order r := by
  have hentry : s.orders id = slotOrder H (b.slots id) := h.entries id
  have hslotValid := hvalid id
  rw [hentry] at hstatus
  cases hslot : b.slots id with
  | vacant =>
      rw [hslot] at hstatus
      exact absurd rfl hstatus
  | held order =>
      rw [hslot] at hstatus hslotValid
      exact absurd hslotValid.2 hstatus
  | closed order r => exact ⟨order, r, rfl⟩

variable [DecidableEq Digest]

theorem exec_idle {env : Env} {call : Call Digest} {s s' : State Digest} {receipt : Receipt Digest}
    (h : exec H C env call s = .ok (s', receipt)) : s'.entered = false := by
  cases call with
  | createOrder sender value args pull =>
      rw [exec] at h
      have hspec := createOrder_eq_ok (inert_execAll _ _) h
      rw [hspec.state_eq]
      exact hspec.idle
  | claimOrder sender orderId preimage payee caller =>
      rw [exec] at h
      obtain ⟨hspec, -⟩ := claimOrder_eq_ok (inert_execAll _ _) (inert_execAll _ _) h
      rw [hspec.state_eq]
      exact hspec.idle
  | refundOrder sender orderId payee caller =>
      rw [exec] at h
      obtain ⟨hspec, -⟩ := refundOrder_eq_ok (inert_execAll _ _) (inert_execAll _ _) h
      rw [hspec.state_eq]
      exact hspec.idle
  | receive sender value =>
      rw [exec] at h
      cases h

/-- Between two transactions the guard is open. -/
theorem idle_of_execution {records : List (Record Digest)} {s : State Digest}
    (h : Execution (Step H C) (State.deployed H) records s) : s.entered = false := by
  refine h.invariant (P := fun u => u.entered = false) rfl fun hidle hstep => ?_
  cases hstep with
  | success _ hexec => exact exec_idle hexec
  | revert _ => exact hidle
  | donation _ => exact hidle

theorem run_account {records : List (Record Digest)} {s : State Digest}
    (h : Execution (Step H C) (State.deployed H) records s)
    (hids : (creations H records).length ≤ 2 ^ 256) :
    ∃ b, Execution (policy H C).Step Book.empty (records.flatMap (Record.actions H)) b ∧
      Represents (storage H C) (records.flatMap (Record.actions H)) s b := by
  apply represents_deployed.run_empty (fun hstep => hstep.effect.1) h
  rw [openings_actions]
  exact hids

/-- The ETH that a run leaves behind is owed to someone. -/
theorem run_exact {records : List (Record Digest)} {s : State Digest}
    (h : Execution (Step H C) (State.deployed H) records s) :
    ∀ act ∈ records.flatMap (Record.actions H), (policy H C).Exact zeroAddress act := by
  intro act hact
  obtain ⟨record, hrecord, hmem⟩ := List.mem_flatMap.mp hact
  obtain ⟨-, -, u, v, -, -, hstep, -⟩ := h.step_of_mem hrecord
  exact hstep.effect.2 act hmem

/-- The escrow keeps its promise in every run that creates no more orders than there are
ids. -/
theorem escrow_spec {records : List (Record Digest)} {s : State Digest}
    (h : Execution (Step H C) (State.deployed H) records s)
    (hids : (creations H records).length ≤ 2 ^ 256) : EscrowSpec H C records s := by
  obtain ⟨b, hrun, hb⟩ := run_account h hids
  have hhistory (id : OrderId) := history_of_execution hrun id
  have howed := owed_eq_liabilities hb fun id => (hhistory id).slotValid
  refine ⟨?_, fun token htoken => ?_, fun id => ?_, ?_, ?_⟩
  · rw [howed, ← exact_of_execution hrun (run_exact h), hb.pool]
    rfl
  · rw [howed]
    refine (solvent_of_execution hrun token).trans ?_
    rw [hb.pool]
    simp [storage, State.balance, htoken]
  · have hentry : s.orders id = slotOrder H (b.slots id) := hb.entries id
    rw [hentry]
    exact orderLife_of_history (hhistory id)
  · rw [← openings_actions]
    exact nodup_keys fun id => (hhistory id).opened_once
  · intro front back u hrecords hfront hback id hstatus
    subst hrecords
    obtain ⟨a, ha, hu⟩ := run_account hfront (le_trans (by simp [creations]) hids)
    obtain ⟨order, r, hclosed⟩ :=
      closed_of_status hu (fun i => (history_of_execution ha i).slotValid) hstatus
    refine hu.entry_stays (fun hstep => hstep.effect.1) hback ?_ hclosed
    rw [openings_actions]
    exact hids

/-! ## Runs on fixed inputs -/

section Runs

/-- Injective stand-ins for the two digests. -/
def taggedHash : HashFunctions Bytes := ⟨List.cons 1, List.cons 2, [0]⟩

/-- A deployment without registry and without a minimum deposit. -/
def openDeployment : Deployment := ⟨1, zeroAddress, 0⟩

def genesis : Env := ⟨0, fun _ => none⟩

/-- One wei for address 3 under the digest of `[7]`, refundable to address 4. -/
def weiOrder : CreateOrderArgs Bytes := ⟨3, 4, zeroAddress, 1, 0, [1, 7], 300⟩

/-- The records of creating and claiming the order of one wei. -/
def weiRecords : List (Record Bytes) :=
  [.transaction genesis (.createOrder 2 1 weiOrder ([], true))
      (.ok ⟨.orderCreated 1 2 3 zeroAddress 1 0 [1, 7] 300, []⟩),
    .transaction genesis (.claimOrder 5 1 [7] ([], true) ([], true))
      (.ok ⟨.orderClaimed 1 5 (7 :: List.replicate 31 0) 1 0, [⟨zeroAddress, 3, 1⟩]⟩)]

theorem weiRecords_run : ∃ s, Execution (Step taggedHash openDeployment)
    (State.deployed taggedHash) weiRecords s := by
  refine ⟨_, .cons (.success ?_ rfl) (.single (.success ?_ rfl))⟩
  · simp [Call.sender, openDeployment]
  · simp [Call.sender, openDeployment]

theorem escrow_spec_weiRecords : ∃ s, EscrowSpec taggedHash openDeployment weiRecords s := by
  obtain ⟨s, hrun⟩ := weiRecords_run
  exact ⟨s, escrow_spec hrun ((List.length_filterMap_le _ _).trans (by decide))⟩

/-- The block time of a record. -/
def Record.timestamp : Record Digest → Option ℕ
  | .transaction env _ _ => some env.timestamp
  | .donation _ _ => none

/-- Block times never go back. -/
def Nondecreasing (records : List (Record Digest)) : Prop :=
  (records.filterMap Record.timestamp).Pairwise (· ≤ ·)

/-- The record of the order of one wei being created once more, after `k` times. -/
def weiCreation (k : ℕ) : Record Bytes :=
  .transaction genesis (.createOrder 2 1 weiOrder ([], true))
    (.ok ⟨.orderCreated (nthId (k + 1)) 2 3 zeroAddress 1 0 [1, 7] 300, []⟩)

theorem weiCreations_run (n : ℕ) : ∃ s, Execution (Step taggedHash openDeployment)
    (State.deployed taggedHash) ((List.range n).map weiCreation) s ∧
      s.entered = false ∧ s.nextOrderId = nthId (n + 1) := by
  induction n with
  | zero => exact ⟨_, .refl, rfl, rfl⟩
  | succ n ih =>
      obtain ⟨s, hrun, hentered, hnext⟩ := ih
      obtain ⟨nextOrderId, orders, entered, ethBalance, tokenBalance⟩ := s
      subst hentered hnext
      rw [List.range_succ, List.map_append, List.map_singleton]
      refine ⟨_, .snoc hrun (.success (by simp [Call.sender, openDeployment]) rfl), rfl, ?_⟩
      exact nthId_succ (n + 1)

theorem weiCreations_nondecreasing (n : ℕ) :
    Nondecreasing ((List.range n).map weiCreation) := by
  have htimes : ((List.range n).map weiCreation).filterMap Record.timestamp =
      List.replicate n 0 := by
    rw [List.filterMap_map, show Record.timestamp ∘ weiCreation = some ∘ fun _ => 0 from rfl,
      List.filterMap_eq_map, List.map_const', List.length_range]
  unfold Nondecreasing
  rw [htimes]
  exact List.pairwise_replicate.mpr (.inr le_rfl)

theorem weiCreations_ids (n : ℕ) :
    (creations taggedHash ((List.range n).map weiCreation)).map Prod.fst =
      (List.range n).map fun k => nthId (k + 1) := by
  unfold creations
  rw [List.filterMap_map,
    show Record.creation taggedHash ∘ weiCreation =
      some ∘ fun k => (nthId (k + 1), weiOrder.order taggedHash 2 0) from rfl,
    List.filterMap_eq_map, List.map_map]
  rfl

/-- The order counter is unchecked: after `2 ^ 256` creations it hands out the first id again. -/
theorem order_ids_come_round : ∃ records s, Execution (Step taggedHash openDeployment)
    (State.deployed taggedHash) records s ∧ Nondecreasing records ∧
      ¬EscrowSpec taggedHash openDeployment records s := by
  obtain ⟨s, hrun, -, -⟩ := weiCreations_run (2 ^ 256 + 1)
  refine ⟨_, s, hrun, weiCreations_nondecreasing _, fun h => ?_⟩
  have hids := h.ids_unique
  rw [weiCreations_ids] at hids
  have hround : nthId (0 + 1) = nthId (2 ^ 256 + 1) := by
    apply Fin.ext
    simp [nthId, Fin.ofNat]
  have hzero := List.inj_on_of_nodup_map hids (List.mem_range.mpr (by omega))
    (List.mem_range.mpr (by omega)) hround
  omega

end Runs

end OverSync.HTLCEscrow
