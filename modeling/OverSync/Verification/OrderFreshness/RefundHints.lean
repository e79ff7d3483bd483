import OverSync.Model.Coordinator.OrderMachine
import OverSync.Model.OrderFreshness
import OverSync.Verification.CrossChain

/-! # Hints and refunds

The escrows refuse a refund up to and in the second of the timelock. The hint takes the timelock
for expired from the beginning of that second. -/

namespace OverSync.OrderFreshness

open Library CrossChain

variable {Digest : Type}

/-! ## When a refund is too early -/

theorem escrow_notExpired_iff {C : HTLCEscrow.Deployment} {env : HTLCEscrow.Env}
    {s : HTLCEscrow.State Digest} {orderId : HTLCEscrow.OrderId} (hidle : s.entered = false)
    (hfunded : (s.orders orderId).Funded) {sender : HTLCEscrow.Address}
    {payee caller : HTLCEscrow.Callee Digest} :
    HTLCEscrow.refundOrder C env sender orderId payee caller s = .error .notExpired ↔
      env.timestamp ≤ (s.orders orderId).timelock := by
  unfold HTLCEscrow.refundOrder
  simp only [require_of hidle, require_of hfunded.1, require_of hfunded.2, ok_bind]
  by_cases htime : (s.orders orderId).timelock < env.timestamp
  · simp only [require_of htime, ok_bind, Nat.not_le.mpr htime, iff_false]
    intro herror
    rcases bind_eq_error.mp herror with h | ⟨_, _, h⟩
    · rcases settle_error h with h | h <;> cases h
    · cases h
  · simp only [require_of_not htime, error_bind, Nat.not_lt.mp htime]

theorem htlc_notExpired_iff {env : SorobanHtlc.Env} {s : SorobanHtlc.State Digest}
    {orderId : SorobanHtlc.OrderId} {order : SorobanHtlc.Order Digest}
    (hinitialised : s.inst.admin ≠ none) (horder : s.orders orderId = some order)
    (hfunded : order.status = .funded) {caller : SorobanHtlc.Address}
    (hsigned : caller ≠ env.self ∧ env.auth caller = true) {pay deposit : Bool} :
    SorobanHtlc.refundOrder env orderId caller pay deposit s = .error (.contract .notExpired) ↔
      env.timestamp ≤ order.timelock := by
  have hget : SorobanHtlc.getOrder s orderId = .ok order := SorobanHtlc.getOrder_eq_ok.mpr horder
  unfold SorobanHtlc.refundOrder SorobanHtlc.requireInitialised SorobanHtlc.requireAuth
  simp only [require_of hinitialised, require_of hsigned, hget, require_of hfunded, ok_bind]
  by_cases htime : order.timelock < env.timestamp
  · simp only [require_of htime, ok_bind, Nat.not_le.mpr htime, iff_false]
    intro herror
    rcases bind_eq_error.mp herror with h | ⟨_, _, h⟩
    · rcases htlc_settle_error h with h | h <;> cases h
    · cases h
  · simp only [require_of_not htime, error_bind, Nat.not_lt.mp htime]

/-! ## The labels -/

theorem label_classifyAge (ageMs : ℤ) : (classifyAge ageMs).label ≠ .refundSoon ∧
    (classifyAge ageMs).label ≠ .refundEligible := by
  unfold classifyAge fresh
  split_ifs <;> decide

variable {status : String} {updatedAt nowMs timelock : ℤ}

/-- The label of an order that is not over, with its timelock. -/
def label (status : String) (updatedAt nowMs timelock : ℤ) : FreshnessLabel :=
  (classifyOrderFreshness ⟨status, updatedAt, nowMs, some timelock⟩).label

theorem label_eq_refundEligible (hstatus : status ∉ terminalStatuses) :
    label status updatedAt nowMs timelock = .refundEligible ↔ timelock * 1000 ≤ nowMs := by
  unfold label classifyOrderFreshness
  simp only [hstatus, if_false, ge_iff_le]
  split_ifs with heligible hsoon
  · simp [heligible]
  · simp [heligible]
  · simp [heligible, label_classifyAge]

theorem label_eq_refundSoon (hstatus : status ∉ terminalStatuses) :
    label status updatedAt nowMs timelock = .refundSoon ↔
      nowMs < timelock * 1000 ∧ timelock * 1000 - nowMs ≤ refundSoonWindowMs := by
  unfold label classifyOrderFreshness
  simp only [hstatus, if_false, ge_iff_le]
  split_ifs with heligible hsoon
  · simp [heligible]
  · simpa [hsoon] using heligible
  · simp [hsoon, label_classifyAge]

/-- The hint does not send the user off too early, and does not hold him back. -/
structure HintHolds (label : FreshnessLabel) (notExpired : Prop) : Prop where
  eligible : label = .refundEligible → ¬notExpired
  soon : label = .refundSoon → notExpired

theorem hintHolds_iff (hstatus : status ∉ terminalStatuses) {t now : ℕ} {notExpired : Prop}
    (hexpiry : notExpired ↔ now / 1000 ≤ t) :
    HintHolds (label status updatedAt now t) notExpired ↔ now / 1000 ≠ t := by
  have heligible : label status updatedAt now t = .refundEligible ↔ (t : ℤ) * 1000 ≤ now :=
    label_eq_refundEligible hstatus
  have hsoon : label status updatedAt now t = .refundSoon ↔
      (now : ℤ) < t * 1000 ∧ t * 1000 - now ≤ refundSoonWindowMs := label_eq_refundSoon hstatus
  constructor
  · rintro ⟨hafter, -⟩ hsecond
    exact hafter (heligible.mpr (by omega)) (hexpiry.mpr (by omega))
  · intro hsecond
    refine ⟨fun h => ?_, fun h => ?_⟩
    · have hpassed := heligible.mp h
      rw [hexpiry]
      omega
    · have hahead := hsoon.mp h
      rw [hexpiry]
      omega

/-! ## The hint and the two escrows -/

variable [DecidableEq Digest]

/-- For a funded order of either chain and a status that is not terminal, the hint agrees with
the refund call exactly outside the second of the timelock. -/
theorem refundHint_agrees_iff {status : Coordinator.OrderStatus}
    (hstatus : status.text ∉ terminalStatuses) (updatedAt : ℤ) (nowMs : ℕ) :
    (∀ (H : HTLCEscrow.HashFunctions Digest) (C : HTLCEscrow.Deployment)
      (records : List (HTLCEscrow.Record Digest)) (s : HTLCEscrow.State Digest)
      (orderId : HTLCEscrow.OrderId) (env : HTLCEscrow.Env) (sender : HTLCEscrow.Address)
      (payee caller : HTLCEscrow.Callee Digest),
      Execution (HTLCEscrow.Step H C) (HTLCEscrow.State.deployed H) records s →
      (s.orders orderId).Funded → env.timestamp = nowMs / 1000 →
      (HintHolds (label status.text updatedAt nowMs (s.orders orderId).timelock)
          (HTLCEscrow.refundOrder C env sender orderId payee caller s = .error .notExpired) ↔
        nowMs / 1000 ≠ (s.orders orderId).timelock)) ∧
    (∀ (sha256 : Bytes → Digest) (current : SorobanHtlc.Address)
      (records : List (SorobanHtlc.Record Digest)) (s : SorobanHtlc.State Digest)
      (orderId : SorobanHtlc.OrderId) (order : SorobanHtlc.Order Digest) (env : SorobanHtlc.Env)
      (caller : SorobanHtlc.Address) (pay deposit : Bool),
      Execution (SorobanHtlc.Step sha256 current) SorobanHtlc.State.deployed records s →
      s.orders orderId = some order → order.status = .funded →
      env.timestamp = nowMs / 1000 → caller ≠ env.self ∧ env.auth caller = true →
      (HintHolds (label status.text updatedAt nowMs order.timelock)
          (SorobanHtlc.refundOrder env orderId caller pay deposit s =
            .error (.contract .notExpired)) ↔
        nowMs / 1000 ≠ order.timelock)) := by
  constructor
  · intro H C records s orderId env sender payee caller hrun hfunded htime
    have hidle := HTLCEscrow.idle_of_execution hrun
    exact hintHolds_iff hstatus (htime ▸ escrow_notExpired_iff hidle hfunded)
  · intro sha256 current records s orderId order env caller pay deposit hrun horder hfunded htime
      hsigned
    have hinitialised := SorobanHtlc.initialised_of_execution hrun horder
    exact hintHolds_iff hstatus
      (htime ▸ htlc_notExpired_iff hinitialised horder hfunded hsigned)

/-! ## Orders that expire at second 300 -/

section Runs

open HTLCEscrow (taggedHash openDeployment genesis weiOrder weiCreation)
open SorobanHtlc (ledger stroopOrder stroopRecords stroopRecords_run)

theorem weiCreation_run : ∃ s, Execution (HTLCEscrow.Step taggedHash openDeployment)
    (HTLCEscrow.State.deployed taggedHash) [weiCreation 0] s ∧
    s.orders 1 = weiOrder.order taggedHash 2 0 :=
  ⟨_, .single (.success (by simp [HTLCEscrow.Call.sender, openDeployment]) rfl), rfl⟩

/-- At second 300 the user is told to ask for the refund, and both escrows refuse it. -/
theorem refund_hinted_too_early : ∃ s t,
    Execution (HTLCEscrow.Step taggedHash openDeployment) (HTLCEscrow.State.deployed taggedHash)
      [weiCreation 0] s ∧
    Execution (SorobanHtlc.Step (List.cons 1) 1) SorobanHtlc.State.deployed
      (stroopRecords [3]) t ∧
    (s.orders 1).timelock = 300 ∧ t.orders 1 = some ((stroopOrder [3]).order 1 0) ∧
    (classifyOrderFreshness ⟨"src_locked", 0, 300999, some 300⟩).label = .refundEligible ∧
    HTLCEscrow.refundOrder openDeployment { genesis with timestamp := 300999 / 1000 } 5 1
      accepting accepting s = .error .notExpired ∧
    SorobanHtlc.refundOrder { ledger with timestamp := 300999 / 1000 } 1 5 true true t =
      .error (.contract .notExpired) := by
  obtain ⟨s, hescrow, horder⟩ := weiCreation_run
  obtain ⟨t, hhtlc, hadmin, hstored, -⟩ := stroopRecords_run [3]
  have hfunded : (s.orders 1).Funded := by
    rw [horder]
    exact ⟨Nat.one_ne_zero, rfl⟩
  refine ⟨s, t, hescrow, hhtlc, by rw [horder]; rfl, hstored, by decide, ?_, ?_⟩
  · rw [escrow_notExpired_iff (HTLCEscrow.idle_of_execution hescrow) hfunded, horder]
    decide
  · rw [htlc_notExpired_iff (by simp [hadmin]) hstored rfl (by decide)]
    decide

/-- One second later the hint is right on both chains. -/
theorem refundHint_agrees_after : ∃ (s : HTLCEscrow.State Bytes) (t : SorobanHtlc.State Bytes),
    HintHolds (label "src_locked" 0 301000 (s.orders 1).timelock)
      (HTLCEscrow.refundOrder openDeployment { genesis with timestamp := 301 } 5 1
        accepting accepting s = .error .notExpired) ∧
    HintHolds (label "src_locked" 0 301000 300)
      (SorobanHtlc.refundOrder { ledger with timestamp := 301 } 1 5 true true t =
        .error (.contract .notExpired)) := by
  obtain ⟨s, hescrow, horder⟩ := weiCreation_run
  obtain ⟨t, hhtlc, -, hstored, -⟩ := stroopRecords_run [3]
  have hfunded : (s.orders 1).Funded := by
    rw [horder]
    exact ⟨Nat.one_ne_zero, rfl⟩
  have hpassed : 301000 / 1000 ≠ (s.orders 1).timelock := by
    rw [horder]
    decide
  obtain ⟨hfirst, hsecond⟩ :=
    @refundHint_agrees_iff Bytes _ .srcLocked (by decide) 0 301000
  refine ⟨s, t, (hfirst _ _ _ s 1 _ 5 accepting accepting hescrow hfunded rfl).mpr hpassed, ?_⟩
  exact (hsecond _ 1 _ t 1 _ _ 5 true true hhtlc hstored rfl rfl (by decide)).mpr (by decide)

end Runs

end OverSync.OrderFreshness
