import OverSync.Library.Noninterference
import OverSync.Verification.SorobanHtlc.Settlement

/-! # What the admin cannot do

Claims and refunds read the orders, the balances and whether there is an admin at all. None of
the calls of the admin writes any of these. -/

namespace OverSync.SorobanHtlc

open Function Library

variable {Digest : Type} {env : Env} {s s' t : State Digest}

/-- Claims and refunds. -/
def Call.settles : Call Digest → Bool
  | .claimOrder .. => true
  | .refundOrder .. => true
  | _ => false

/-- The calls of the admin. -/
inductive Call.OfAdmin : Call Digest → Prop where
  | setResolverRegistry (registry : Address) : OfAdmin (.setResolverRegistry registry)
  | clearResolverRegistry : OfAdmin .clearResolverRegistry
  | setMinSafetyDeposit (newMinimum : ℤ) : OfAdmin (.setMinSafetyDeposit newMinimum)
  | setAdmin (newAdmin : Address) : OfAdmin (.setAdmin newAdmin)

/-- The same funds are locked in the same orders, and both contracts are initialized or
neither. -/
structure SameFunds (s t : State Digest) : Prop where
  orders : s.orders = t.orders
  balance : s.balance = t.balance
  admin : s.inst.admin = none ↔ t.inst.admin = none

/-- What a call answers does not depend on the rest of instance storage. -/
def State.withInst (s : State Digest) (inst : Instance) : State Digest :=
  { s with inst := inst }

theorem SameFunds.eq_withInst (h : SameFunds s t) : t = s.withInst t.inst := by
  obtain ⟨inst, orders, balance⟩ := t
  obtain ⟨horders, hbalance, -⟩ := h
  simp only at horders hbalance
  subst horders hbalance
  rfl

/-! ## Settlements under another instance storage -/

theorem payTransfer_withInst (transfer : Transfer) (ok : Bool) (inst : Instance) :
    payTransfer env transfer ok (s.withInst inst) =
      (payTransfer env transfer ok s).map (State.withInst · inst) := by
  unfold payTransfer
  by_cases hasset : transfer.asset ≠ env.self
  · by_cases hamount : transfer.amount ≤ s.balance transfer.asset
    · cases ok with
      | false => simp [require, hasset, hamount, State.withInst, Except.map]
      | true =>
          by_cases hself : transfer.recipient = env.self
          · simp [require, hasset, hamount, hself, State.withInst, Except.map, pure, Except.pure]
          · simp [require, hasset, hamount, hself, State.withInst, Except.map, pure, Except.pure]
    · simp [require, hasset, hamount, State.withInst, Except.map]
  · simp [require, hasset, Except.map]

theorem settle_withInst (order : Order Digest) (recipient caller : Address)
    (pay deposit : Bool) (inst : Instance) :
    settle env order recipient caller pay deposit (s.withInst inst) =
      (settle env order recipient caller pay deposit s).map fun r => (r.1.withInst inst, r.2) := by
  simp only [settle, payTransfer_withInst, bind_map, map_bind]
  congr 1
  funext s₁
  split
  · simp only [bind_map]
    rfl
  · rfl

theorem requireInitialised_withInst {inst : Instance}
    (h : s.inst.admin = none ↔ inst.admin = none) :
    requireInitialised (s.withInst inst) = requireInitialised s := by
  have hiff : (s.withInst inst).inst.admin = none ↔ s.inst.admin = none := h.symm
  simp only [requireInitialised, require, hiff, ne_eq]

theorem getOrder_withInst (orderId : OrderId) (inst : Instance) :
    getOrder (s.withInst inst) orderId = getOrder s orderId := rfl

theorem refundOrder_withInst {inst : Instance} (h : s.inst.admin = none ↔ inst.admin = none)
    (orderId : OrderId) (caller : Address) (pay deposit : Bool) :
    refundOrder env orderId caller pay deposit (s.withInst inst) =
      (refundOrder env orderId caller pay deposit s).map fun r => (r.1.withInst inst, r.2) := by
  simp only [refundOrder, requireInitialised_withInst h, getOrder_withInst, settle_withInst,
    bind_map, map_bind]
  rfl

variable [DecidableEq Digest] {sha256 : Bytes → Digest}

theorem claimOrder_withInst {inst : Instance} (h : s.inst.admin = none ↔ inst.admin = none)
    (orderId : OrderId) (preimage : Bytes) (caller : Address) (pay deposit : Bool) :
    claimOrder sha256 env orderId preimage caller pay deposit (s.withInst inst) =
      (claimOrder sha256 env orderId preimage caller pay deposit s).map fun r =>
        (r.1.withInst inst, r.2) := by
  simp only [claimOrder, requireInitialised_withInst h, getOrder_withInst, settle_withInst,
    bind_map, map_bind]
  rfl

/-! ## One call -/

/-- The state a call leaves behind; one that panics is rolled back. -/
def invoke (sha256 : Bytes → Digest) (invocation : Env × Call Digest) (s : State Digest) :
    State Digest :=
  match exec sha256 invocation.1 s invocation.2 with
  | .ok r => r.1
  | .error _ => s

/-- What a call answers: its event and transfers, or why it failed. -/
def result (sha256 : Bytes → Digest) (s : State Digest) (invocation : Env × Call Digest) :
    Except Failure (Receipt Digest) :=
  (exec sha256 invocation.1 s invocation.2).map Prod.snd

theorem exec_withInst {inst : Instance} {call : Call Digest}
    (h : s.inst.admin = none ↔ inst.admin = none) (hsettles : call.settles = true) :
    exec sha256 env (s.withInst inst) call =
      (exec sha256 env s call).map fun r => (r.1.withInst inst, r.2) := by
  cases call with
  | claimOrder orderId preimage caller pay deposit =>
      exact claimOrder_withInst h orderId preimage caller pay deposit
  | refundOrder orderId caller pay deposit =>
      exact refundOrder_withInst h orderId caller pay deposit
  | _ => simp [Call.settles] at hsettles

/-- A settlement leaves instance storage as it is. -/
theorem exec_inst {call : Call Digest} {receipt : Receipt Digest} (hsettles : call.settles = true)
    (h : exec sha256 env s call = .ok (s', receipt)) : s'.inst = s.inst := by
  have hsame : exec sha256 env (s.withInst s.inst) call = _ := exec_withInst Iff.rfl hsettles
  rw [show s.withInst s.inst = s from rfl, h] at hsame
  simp only [Except.map, Except.ok.injEq, Prod.mk.injEq] at hsame
  rw [hsame.1]
  rfl

/-- The calls of the admin write neither orders nor balances, and leave an admin. -/
theorem SameFunds.admin_step {call : Call Digest} (h : SameFunds s t) (hadmin : call.OfAdmin) :
    SameFunds (invoke sha256 (env, call) s) t := by
  unfold invoke
  cases hexec : exec sha256 env s call with
  | error e => exact h
  | ok r =>
      cases hadmin with
      | setResolverRegistry registry =>
          obtain ⟨⟨⟩, -, hexec⟩ := bind_eq_ok.mp hexec
          cases hexec
          exact ⟨h.orders, h.balance, h.admin⟩
      | clearResolverRegistry =>
          obtain ⟨⟨⟩, -, hexec⟩ := bind_eq_ok.mp hexec
          cases hexec
          exact ⟨h.orders, h.balance, h.admin⟩
      | setMinSafetyDeposit newMinimum =>
          obtain ⟨⟨⟩, -, hexec⟩ := bind_eq_ok.mp hexec
          simp only [require_bind_eq_ok] at hexec
          obtain ⟨-, hexec⟩ := hexec
          cases hexec
          exact ⟨h.orders, h.balance, h.admin⟩
      | setAdmin newAdmin =>
          obtain ⟨⟨⟩, hauth, hexec⟩ := bind_eq_ok.mp hexec
          cases hexec
          have hsome := requireAdmin_eq_ok hauth
          refine ⟨h.orders, h.balance, ?_⟩
          simp [← h.admin, hsome]

variable (sha256) in
theorem SameFunds.unwinding : Unwinding (invoke sha256) (result sha256)
    (fun invocation : Env × Call Digest => invocation.2.settles) SameFunds
    fun invocation => invocation.2.OfAdmin where
  answer_eq := by
    intro s t invocation hst hsettles
    unfold result
    rw [hst.eq_withInst, exec_withInst hst.admin hsettles]
    cases exec sha256 invocation.1 s invocation.2 <;> rfl
  observed_step := by
    intro s t invocation hst hsettles
    unfold invoke
    rw [hst.eq_withInst, exec_withInst hst.admin hsettles]
    cases hexec : exec sha256 invocation.1 s invocation.2 with
    | error e => exact ⟨rfl, rfl, hst.admin⟩
    | ok r =>
        refine ⟨rfl, rfl, ?_⟩
        rw [exec_inst hsettles hexec]
        exact hst.admin
  hidden_step := fun hst hadmin => hst.admin_step hadmin

/-- Taking the calls of the admin out of a sequence of claims, refunds and calls of the admin
changes neither what the claims and refunds answer, with their transfers and errors, nor the
orders and balances at the end. -/
theorem admin_noninterference (sha256 : Bytes → Digest) (s : State Digest)
    (invocations : List (Env × Call Digest))
    (h : ∀ invocation ∈ invocations, invocation.2.settles = true ∨ invocation.2.OfAdmin) :
    answers (invoke sha256) (result sha256) (fun invocation => invocation.2.settles)
        invocations s =
      answers (invoke sha256) (result sha256) (fun invocation => invocation.2.settles)
        (invocations.filter fun invocation => invocation.2.settles) s ∧
    (runAll (invoke sha256) invocations s).orders =
      (runAll (invoke sha256)
        (invocations.filter fun invocation => invocation.2.settles) s).orders ∧
    (runAll (invoke sha256) invocations s).balance =
      (runAll (invoke sha256)
        (invocations.filter fun invocation => invocation.2.settles) s).balance := by
  have hsame : SameFunds s s := ⟨rfl, rfl, Iff.rfl⟩
  obtain ⟨hanswers, hend⟩ := (SameFunds.unwinding sha256).purge hsame h
  exact ⟨hanswers, hend.orders, hend.balance⟩

/-- Order 1 locks its stroop. -/
def stroopState (hashlock : Bytes) : State Bytes where
  inst := ⟨some 9, some 2, some 0, none⟩
  orders := update (fun _ => none) 1 (some ((stroopOrder hashlock).order 1 0))
  balance := update (fun _ => 0) 6 1

/-- The admin puts a registry in the way of a claim and hands over. -/
def adminCalls : List (Env × Call Bytes) :=
  [(ledger, .setResolverRegistry 8), (ledger, .claimOrder 1 [7] 5 true true),
    (ledger, .setAdmin 10)]

theorem adminCalls_settle_or_admin :
    ∀ invocation ∈ adminCalls, invocation.2.settles = true ∨ invocation.2.OfAdmin := by
  intro invocation hmem
  simp only [adminCalls, List.mem_cons, List.not_mem_nil, or_false] at hmem
  rcases hmem with rfl | rfl | rfl
  · exact .inr (.setResolverRegistry 8)
  · exact .inl rfl
  · exact .inr (.setAdmin 10)

theorem admin_noninterference_claim :
    let run := invoke (List.cons 1)
    let observed := fun invocation : Env × Call Bytes => invocation.2.settles
    let claims := adminCalls.filter observed
    let s := stroopState (1 :: hashInput 1 [7])
    claims.length = 1 ∧
      answers run (result (List.cons 1)) observed adminCalls s =
        answers run (result (List.cons 1)) observed claims s ∧
      (runAll run adminCalls s).orders = (runAll run claims s).orders ∧
      (runAll run adminCalls s).balance = (runAll run claims s).balance :=
  ⟨rfl, admin_noninterference _ _ _ adminCalls_settle_or_admin⟩

end OverSync.SorobanHtlc
