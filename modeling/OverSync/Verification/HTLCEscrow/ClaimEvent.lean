import OverSync.Verification.HTLCEscrow.Replay

/-! # What the event of a claim reveals

A claim accepts a preimage of any length, but its event publishes one word of it: the first 32
bytes, padded with zeros. -/

namespace OverSync.HTLCEscrow

open Function Library

variable {Digest : Type} {H : HashFunctions Digest} {C : Deployment}

/-- The word an event publishes as preimage. -/
def Event.published : Event Digest → Option Bytes
  | .orderClaimed _ _ preimage _ _ => some preimage
  | _ => none

/-! ## The word -/

@[simp] theorem bytesToBytes32_length (data : Bytes) : (bytesToBytes32 data).length = 32 := by
  simp [bytesToBytes32]
  omega

theorem bytesToBytes32_eq_self {data : Bytes} : bytesToBytes32 data = data ↔ data.length = 32 := by
  constructor
  · intro h
    rw [← h, bytesToBytes32_length]
  · intro h
    simp [bytesToBytes32, h, List.take_of_length_le h.le]

/-! ## Claiming with another preimage -/

/-- A payment neither looks at the orders nor changes them. -/
theorem payout_orders {token recipient : Address} {amount : ℕ} {ok : Bool} {s : State Digest}
    (orders : OrderId → Order Digest) :
    payout C token recipient amount (answer ok) { s with orders := orders } =
      (payout C token recipient amount (answer ok) s).map fun r =>
        ({ r.1 with orders := orders }, r.2) := by
  unfold payout
  split
  · by_cases h : amount ≤ s.ethBalance ∧ recipient ≠ C.self
    · cases ok <;> simp [require, h, answer, Except.map, pure, Except.pure]
    · simp [require, h, Except.map]
  · by_cases h : token ≠ C.self ∧ amount ≤ s.tokenBalance token
    · by_cases hself : recipient = C.self
      · cases ok <;> simp [require, h, hself, State.debitToken, answer, Except.map, pure,
          Except.pure]
      · cases ok <;> simp [require, h, hself, State.debitToken, answer, Except.map, pure,
          Except.pure]
    · simp [require, h, Except.map]

theorem settle_orders {order : Order Digest} {recipient sender : Address} {pay deposit : Bool}
    {s : State Digest} (orders : OrderId → Order Digest) :
    settle C order recipient sender (answer pay) (answer deposit) { s with orders := orders } =
      (settle C order recipient sender (answer pay) (answer deposit) s).map fun r =>
        ({ r.1 with orders := orders }, r.2) := by
  unfold settle
  rw [payout_orders]
  cases payout C order.token recipient order.amount (answer pay) s with
  | error e => rfl
  | ok r =>
      simp only [Except.map, ok_bind]
      split
      case isTrue hdeposit =>
          rw [payout_orders]
          cases payout C zeroAddress sender order.safetyDeposit (answer deposit) r.1 with
          | error e => rfl
          | ok r => rfl
      case isFalse hdeposit => rfl

/-- A settlement goes through no matter what is written to the orders. -/
theorem settle_ok_orders {order : Order Digest} {recipient sender : Address}
    {pay deposit : Bool} {s : State Digest} (orders : OrderId → Order Digest) :
    (∃ r, settle C order recipient sender (answer pay) (answer deposit)
        { s with orders := orders } = .ok r) ↔
      ∃ r, settle C order recipient sender (answer pay) (answer deposit) s = .ok r := by
  rw [settle_orders]
  cases settle C order recipient sender (answer pay) (answer deposit) s <;> simp [Except.map]

variable [DecidableEq Digest] {env : Env} {sender : Address} {orderId : OrderId}
  {preimage word : Bytes} {payee caller : List (Call Digest) × Bool} {s s' : State Digest}
  {receipt : Receipt Digest}

/-- After one preimage was accepted, another would have been exactly if it has the same
digest. -/
theorem claim_ok_iff
    (h : exec H C env (.claimOrder sender orderId preimage payee caller) s = .ok (s', receipt)) :
    (∃ r, exec H C env (.claimOrder sender orderId word payee caller) s = .ok r) ↔
      H.sha256 word = H.sha256 preimage := by
  rw [exec_claimOrder] at h ⊢
  simp only [claimOrder, require_bind_eq_ok] at h ⊢
  obtain ⟨hidle, hamount, hfunded, htime, h⟩ := h
  obtain ⟨⟨⟩, hactive, h⟩ := bind_eq_ok.mp h
  simp only [require_bind_eq_ok] at h
  obtain ⟨hsha, h⟩ := h
  obtain ⟨r, hsettle, -⟩ := bind_eq_ok.mp h
  have hpaid := (settle_ok_orders (s := { s with entered := true }) _).mp ⟨r, hsettle⟩
  rw [hsha]
  constructor
  · rintro ⟨r, -, -, -, -, hword⟩
    rw [hactive, ok_bind, require_bind_eq_ok] at hword
    exact hword.1
  · intro hword
    obtain ⟨r', hr'⟩ := (settle_ok_orders (update s.orders orderId
      ((s.orders orderId).claimedBy env.timestamp (H.keccak256 word)))).mpr hpaid
    refine ⟨({ r'.1 with entered := false }, ⟨.orderClaimed orderId sender (bytesToBytes32 word)
      (s.orders orderId).amount (s.orders orderId).safetyDeposit, r'.2⟩),
      hidle, hamount, hfunded, htime, ?_⟩
    rw [hactive, ok_bind, require_of hword, ok_bind, hr']
    rfl

/-- Two preimages of one digest. -/
def Collision (H : HashFunctions Digest) (data data' : Bytes) : Prop :=
  data ≠ data' ∧ H.sha256 data = H.sha256 data'

/-- What the receipt of a claim publishes would have opened the order as well. -/
def UsableSecret (H : HashFunctions Digest) (C : Deployment) (env : Env) (sender : Address)
    (orderId : OrderId) (payee caller : List (Call Digest) × Bool) (s : State Digest)
    (receipt : Receipt Digest) : Prop :=
  ∃ word, receipt.event.published = some word ∧
    ∃ r, exec H C env (.claimOrder sender orderId word payee caller) s = .ok r

theorem usableSecret_iff
    (h : exec H C env (.claimOrder sender orderId preimage payee caller) s = .ok (s', receipt)) :
    UsableSecret H C env sender orderId payee caller s receipt ↔
      preimage.length = 32 ∨ Collision H (bytesToBytes32 preimage) preimage := by
  have hevent : receipt.event.published = some (bytesToBytes32 preimage) := by
    have hclaim := h
    rw [exec_claimOrder] at hclaim
    obtain ⟨-, -, -, hevent⟩ := claimOrder_eq_ok (inert_answer _) (inert_answer _) hclaim
    rw [hevent]
    rfl
  simp only [UsableSecret, hevent, Option.some.injEq, exists_eq_left', claim_ok_iff h, Collision]
  rw [← bytesToBytes32_eq_self]
  constructor
  · intro hsame
    by_cases hself : bytesToBytes32 preimage = preimage
    · exact .inl hself
    · exact .inr ⟨hself, hsame⟩
  · rintro (hself | ⟨-, hsame⟩)
    · rw [hself]
    · exact hsame

/-- In every run, the word a claim publishes would itself have been accepted exactly if the
preimage was of 32 bytes or collides with the word. -/
theorem event_secret_iff {records : List (Record Digest)} {t : State Digest}
    (hrun : Execution (Step H C) (State.deployed H) records t)
    (hclaim : .transaction env (.claimOrder sender orderId preimage payee caller) (.ok receipt) ∈
      records) :
    ∃ front back s s', records = front ++
        .transaction env (.claimOrder sender orderId preimage payee caller) (.ok receipt) :: back ∧
      Execution (Step H C) (State.deployed H) front s ∧
      exec H C env (.claimOrder sender orderId preimage payee caller) s = .ok (s', receipt) ∧
      (UsableSecret H C env sender orderId payee caller s receipt ↔
        preimage.length = 32 ∨ Collision H (bytesToBytes32 preimage) preimage) := by
  obtain ⟨front, back, s, s', hrecords, hfront, hstep, -⟩ := hrun.step_of_mem hclaim
  cases hstep with
  | success _ hexec => exact ⟨front, back, s, s', hrecords, hfront, hexec, usableSecret_iff hexec⟩

/-! ## A short preimage -/

section Runs

/-- A run that creates and claims the order of one wei under a given preimage. -/
theorem weiClaim_run (preimage : Bytes) (hne : (1 :: preimage) ≠ [0]) :
    ∃ s, Execution (Step taggedHash openDeployment) (State.deployed taggedHash)
      [createRecord 1 (1 :: preimage), claimRecord 1 preimage] s :=
  ⟨_, .cons (createRecord_step rfl rfl hne) (.single (claimRecord_step rfl (by simp) (by simp)))⟩

theorem event_secret_word : ∃ s receipt,
    UsableSecret taggedHash openDeployment genesis 5 1 ([], true) ([], true) s receipt := by
  obtain ⟨t, hrun⟩ := weiClaim_run (List.replicate 32 7) (by decide)
  obtain ⟨front, back, s, s', -, -, -, hiff⟩ :=
    event_secret_iff hrun (List.mem_cons_of_mem _ (List.mem_singleton_self _))
  exact ⟨s, _, hiff.mpr (.inl rfl)⟩

/-- The preimage of one byte is published as a word that opens nothing. -/
theorem short_preimage_published : ∃ front s s' receipt,
    Execution (Step taggedHash openDeployment) (State.deployed taggedHash) front s ∧
      exec taggedHash openDeployment genesis (.claimOrder 5 1 [7] ([], true) ([], true)) s =
        .ok (s', receipt) ∧
      ¬UsableSecret taggedHash openDeployment genesis 5 1 ([], true) ([], true) s receipt := by
  obtain ⟨t, hrun⟩ := weiClaim_run [7] (by decide)
  obtain ⟨front, back, s, s', -, hfront, hstep, -⟩ :=
    hrun.step_of_mem (List.mem_cons_of_mem _ (List.mem_singleton_self _))
  cases hstep with
  | success _ hexec =>
      refine ⟨front, s, s', _, hfront, hexec, fun husable => ?_⟩
      have hcondition := (usableSecret_iff hexec).mp husable
      simp [Collision, taggedHash, bytesToBytes32] at hcondition

end Runs

end OverSync.HTLCEscrow
