import OverSync.Verification.MainnetHTLC.Equations
import Mathlib.Algebra.Order.Group.Nat

/-! # The tokens behind the orders

The contract drops what a token returns. While no token says `false`, the balances cover the
open orders and every settled order has been paid; with such an answer an order is opened
without its amount, or settled without a payment. -/

namespace OverSync.MainnetHTLC

open Function Library

variable {Digest : Type} {C : Deployment Digest} {env : Env} {sender token : Address}
  {args : CreateOrderArgs Digest} {orderId : Digest} {s s' : State Digest}
  {event : Event Digest} {answer : Answer} {status : OrderStatus}

/-- The balance is enough for the open orders without `amount`. -/
def State.HasSurplus (s : State Digest) (token : Address) (amount : ℕ) : Prop :=
  ∃ rest, s.balance token = rest + amount ∧
    Covers (s.IsOpen token) (fun orderId => (s.orders orderId).amount) rest

/-- A token that says `false` is asked for an amount the contract holds anyway; it is not asked
to pay. -/
def Call.Sound (s : State Digest) : Call Digest → Prop
  | .createOrder _ _ args (_, answer) =>
      answer.Refuses args.token → s.HasSurplus args.token args.amount
  | .claimOrder _ orderId _ (_, answer) => ¬answer.Refuses (s.orders orderId).token
  | .claimOrderBytes _ orderId _ (_, answer) => ¬answer.Refuses (s.orders orderId).token
  | .refundOrder _ orderId (_, answer) => ¬answer.Refuses (s.orders orderId).token
  | .receive _ _ => True

/-- `Call.Sound` for a transaction that goes through. -/
def Sound [DecidableEq Digest] (C : Deployment Digest) (s : State Digest)
    (tx : Transaction Digest) : Prop :=
  match tx with
  | .call env call => (∃ result, exec C env call s = .ok result) → call.Sound s
  | .donation _ _ => True

/-- The invariant of runs: also the ids to come are unused, and only settled orders have been
paid. -/
structure WellKept (C : Deployment Digest) (s : State Digest) : Prop where
  backed : s.Backed
  unused : ∀ n, s.nextOrderId ≤ n → ∀ sender timestamp,
    s.orders (C.orderId sender n timestamp) = .unset C
  settled : ∀ payment ∈ s.payments, (s.orders payment.orderId).status ≠ .created

/-- Larger balances keep the orders backed. -/
theorem WellKept.congr (h : WellKept C s) (horders : s'.orders = s.orders)
    (hnext : s'.nextOrderId = s.nextOrderId) (hpayments : s'.payments = s.payments)
    (hbalance : ∀ token, s.balance token ≤ s'.balance token) : WellKept C s' := by
  refine ⟨⟨fun token => ?_, ?_⟩, ?_, ?_⟩
  · refine (h.backed.covered token).mono (fun i hi => ?_) (fun i _ => ?_) (hbalance token)
    · rwa [State.IsOpen, horders] at hi
    · rw [horders]
  · rw [horders, hpayments]
    exact h.backed.paid
  · rw [horders, hnext]
    exact h.unused
  · rw [horders, hpayments]
    exact h.settled

variable [DecidableEq Digest]

/-! ## Creation -/

/-- The open orders after a creation. -/
theorem Created.isOpen_iff (h : Created C env sender args answer s s') (hs : WellKept C s)
    (token : Address) (i : Digest) : s'.IsOpen token i ↔
      s.IsOpen token i ∨
        i = C.orderId sender s.nextOrderId env.timestamp ∧ token = args.token := by
  have hunset := hs.unused s.nextOrderId le_rfl sender env.timestamp
  by_cases hi : i = C.orderId sender s.nextOrderId env.timestamp
  · subst hi
    simp [State.IsOpen, h.orders, hunset, Order.unset, CreateOrderArgs.order, h.positive, eq_comm]
  · simp [State.IsOpen, h.orders, hi]

/-- The amounts of the orders that were there stay as they are. -/
theorem Created.amount_eq (h : Created C env sender args answer s s') (hs : WellKept C s)
    {i : Digest} (hi : s.IsOpen token i) :
    (s'.orders i).amount = (s.orders i).amount := by
  have hne : i ≠ C.orderId sender s.nextOrderId env.timestamp := by
    rintro rfl
    exact hi.1 (by rw [hs.unused _ le_rfl]; rfl)
  rw [h.orders, update_of_ne hne]

/-- The balance covers the orders after a creation iff it covered the others without the new
amount. -/
theorem Created.covers_iff (h : Created C env sender args answer s s') (hs : WellKept C s)
    (rest : ℕ) :
    Covers (s'.IsOpen args.token) (fun i => (s'.orders i).amount) (rest + args.amount) ↔
      Covers (s.IsOpen args.token) (fun i => (s.orders i).amount) rest := by
  refine covers_opened_iff (i := C.orderId sender s.nextOrderId env.timestamp) (Nat.zero_le _)
    (fun hopen => ?_) (fun j => ?_) (fun j hj => h.amount_eq hs hj) ?_
  · exact hopen.1 (by rw [hs.unused _ le_rfl]; rfl)
  · simpa using h.isOpen_iff hs args.token j
  · rw [h.orders, update_self]
    rfl

/-- A creation keeps everything backed iff the amount came in or was there before. -/
theorem Created.backed_iff (h : Created C env sender args answer s s') (hs : WellKept C s) :
    s'.Backed ↔ (answer.Refuses args.token → s.HasSurplus args.token args.amount) := by
  constructor
  · intro hbacked hrefuses
    have hcovered := hbacked.covered args.token
    have hopen : s'.IsOpen args.token (C.orderId sender s.nextOrderId env.timestamp) :=
      (h.isOpen_iff hs _ _).mpr (.inr ⟨rfl, rfl⟩)
    have hle := hcovered.amount_le hopen
    rw [h.refused hrefuses] at hcovered hle
    simp only [h.orders, update_self, CreateOrderArgs.order] at hle
    refine ⟨s.balance args.token - args.amount, by omega, (h.covers_iff hs _).mp ?_⟩
    rwa [Nat.sub_add_cancel hle]
  · intro hsurplus
    refine ⟨fun token => ?_, fun i hi => ?_⟩
    · by_cases htoken : token = args.token
      · subst htoken
        by_cases hrefuses : answer.Refuses args.token
        · obtain ⟨rest, hrest, hcovers⟩ := hsurplus hrefuses
          rw [h.refused hrefuses, hrest]
          exact (h.covers_iff hs rest).mpr hcovers
        · refine ((h.covers_iff hs _).mpr (hs.backed.covered args.token)).mono
            (fun _ hi => hi) (fun _ _ => rfl) (h.moved hrefuses)
      · have hsame : ∀ i, s'.IsOpen token i → s.IsOpen token i := fun i hi =>
          ((h.isOpen_iff hs token i).mp hi).resolve_right fun hnew => htoken hnew.2
        exact (hs.backed.covered token).mono hsame (fun i hi => h.amount_eq hs (hsame i hi))
          (h.others token htoken)
    · rw [h.payments]
      by_cases hid : i = C.orderId sender s.nextOrderId env.timestamp
      · rw [h.orders, hid, update_self] at hi
        exact absurd rfl hi
      · rw [h.orders, update_of_ne hid] at hi ⊢
        exact hs.backed.paid i hi

theorem Created.wellKept (h : Created C env sender args answer s s') (hs : WellKept C s)
    (hbacked : s'.Backed) : WellKept C s' := by
  refine ⟨hbacked, fun n hn sender' timestamp' => ?_, fun payment hpayment => ?_⟩
  · rw [h.next] at hn
    have hne : n ≠ s.nextOrderId := by omega
    rw [h.orders, update_of_ne (C.orderId_ne hne)]
    exact hs.unused n (by omega) sender' timestamp'
  · rw [h.payments] at hpayment
    have hstatus := hs.settled payment hpayment
    have hne : payment.orderId ≠ C.orderId sender s.nextOrderId env.timestamp := by
      intro heq
      rw [heq, hs.unused _ le_rfl] at hstatus
      exact hstatus rfl
    rw [h.orders, update_of_ne hne]
    exact hstatus

/-! ## Settlement -/

omit [DecidableEq Digest] in
theorem Settled.isOpen [DecidableEq Digest] (h : Settled orderId status answer s s')
    (hstatus : status ≠ .created) {i : Digest} (hi : s'.IsOpen token i) :
    s.IsOpen token i ∧ i ≠ orderId := by
  rw [State.IsOpen, h.orders] at hi
  by_cases hid : i = orderId
  · subst hid
    rw [update_self] at hi
    exact absurd hi.2.1 hstatus
  · rw [update_of_ne hid] at hi
    exact ⟨hi, hid⟩

/-- A settlement keeps everything backed iff the token moves. -/
theorem Settled.backed_iff (h : Settled orderId status answer s s') (hstatus : status ≠ .created)
    (hs : WellKept C s) :
    s'.Backed ↔ ¬answer.Refuses (s.orders orderId).token := by
  have hid : s'.orders orderId = { s.orders orderId with status := status } := by
    rw [h.orders, update_self]
  constructor
  · intro hbacked hrefuses
    have hpaid := hbacked.paid orderId (by rw [hid]; exact hstatus)
    rw [h.refused hrefuses] at hpaid
    exact hs.settled _ hpaid h.created
  · intro hmoves
    obtain ⟨hpayments, hbalance⟩ := h.moved hmoves
    have hamount : ∀ token i, s'.IsOpen token i →
        (s'.orders i).amount = (s.orders i).amount := by
      intro token i hi
      rw [h.orders, update_of_ne (h.isOpen hstatus hi).2]
    refine ⟨fun token => ?_, fun i hi => ?_⟩
    · have hcovered := hs.backed.covered token
      by_cases htoken : token = (s.orders orderId).token
      · subst htoken
        by_cases hopen : (s.orders orderId).amount = 0
        · rw [hopen, Nat.add_zero] at hbalance
          exact hcovered.mono (fun i hi => (h.isOpen hstatus hi).1)
            (fun i hi => hamount _ i hi) hbalance
        · exact hcovered.closed ⟨hopen, h.created, rfl⟩ (fun i hi => h.isOpen hstatus hi)
            (fun i hi => hamount _ i hi) hbalance
      · exact hcovered.mono (fun i hi => (h.isOpen hstatus hi).1)
          (fun i hi => hamount _ i hi) (h.others token htoken)
    · rw [hpayments]
      by_cases heq : i = orderId
      · subst heq
        refine List.mem_append_right _ (List.mem_singleton.mpr ?_)
        rw [hid]
        rfl
      · rw [h.orders, update_of_ne heq] at hi ⊢
        exact List.mem_append_left _ (hs.backed.paid i hi)

theorem Settled.wellKept (h : Settled orderId status answer s s') (hstatus : status ≠ .created)
    (hs : WellKept C s) (hbacked : s'.Backed) : WellKept C s' := by
  have hmoves := (h.backed_iff hstatus hs).mp hbacked
  obtain ⟨hpayments, -⟩ := h.moved hmoves
  refine ⟨hbacked, fun n hn sender timestamp => ?_, fun payment hpayment => ?_⟩
  · rw [h.next] at hn
    have hunset := hs.unused n hn sender timestamp
    have hne : C.orderId sender n timestamp ≠ orderId := by
      rintro rfl
      exact h.found (by rw [hunset]; rfl)
    rw [h.orders, update_of_ne hne]
    exact hunset
  · rw [h.orders]
    by_cases heq : payment.orderId = orderId
    · rw [heq, update_self]
      exact hstatus
    · rw [update_of_ne heq]
      rw [hpayments] at hpayment
      rcases List.mem_append.mp hpayment with hold | hnew
      · exact hs.settled payment hold
      · rw [List.mem_singleton.mp hnew] at heq
        exact absurd rfl heq

/-! ## Runs -/

omit [DecidableEq Digest] in
theorem WellKept.credit (h : WellKept C s) (token : Address) (amount : ℕ) :
    WellKept C (s.credit token amount) := by
  refine h.congr rfl rfl rfl fun other => ?_
  by_cases hother : other = token
  · simp [State.credit, hother]
  · simp [State.credit, hother]

/-- One call that goes through. -/
theorem exec_backed {call : Call Digest} (hs : WellKept C s)
    (h : exec C env call s = .ok (s', event)) :
    (s'.Backed ↔ call.Sound s) ∧ (s'.Backed → WellKept C s') := by
  cases call with
  | createOrder sender value args token =>
      obtain ⟨calls, answer⟩ := token
      have hcreated := createOrder_eq_ok (contained_execAll calls) h
      exact ⟨hcreated.backed_iff hs, hcreated.wellKept hs⟩
  | claimOrder sender orderId secret token =>
      obtain ⟨calls, answer⟩ := token
      have hsettled := claimOrder_eq_ok (contained_execAll calls) h
      exact ⟨hsettled.backed_iff nofun hs, hsettled.wellKept nofun hs⟩
  | claimOrderBytes sender orderId preimage token =>
      obtain ⟨calls, answer⟩ := token
      have hsettled := claimOrder_eq_ok (contained_execAll calls) h
      exact ⟨hsettled.backed_iff nofun hs, hsettled.wellKept nofun hs⟩
  | refundOrder sender orderId token =>
      obtain ⟨calls, answer⟩ := token
      have hsettled := refundOrder_eq_ok (contained_execAll calls) h
      exact ⟨hsettled.backed_iff nofun hs, hsettled.wellKept nofun hs⟩
  | receive sender value =>
      cases h
      have hcredit := hs.credit zeroAddress value
      exact ⟨iff_of_true hcredit.backed trivial, fun _ => hcredit⟩

theorem run_backed (hs : WellKept C s) (tx : Transaction Digest) :
    ((run C tx s).Backed ↔ Sound C s tx) ∧ ((run C tx s).Backed → WellKept C (run C tx s)) := by
  cases tx with
  | donation token amount =>
      have hcredit := hs.credit token amount
      exact ⟨iff_of_true hcredit.backed trivial, fun _ => hcredit⟩
  | call env call =>
      cases hexec : exec C env call s with
      | error e =>
          have hrun : run C (.call env call) s = s := by
            simp only [run, hexec]
          rw [hrun]
          refine ⟨iff_of_true hs.backed ?_, fun _ => hs⟩
          rintro ⟨result, hresult⟩
          rw [hexec] at hresult
          cases hresult
      | ok result =>
          obtain ⟨s', event⟩ := result
          have hrun : run C (.call env call) s = s' := by
            simp only [run, hexec]
          obtain ⟨hiff, hkeeps⟩ := exec_backed hs hexec
          rw [hrun]
          exact ⟨hiff.trans ⟨fun hsound _ => hsound, fun hsound => hsound ⟨_, hexec⟩⟩, hkeeps⟩

omit [DecidableEq Digest] in
theorem wellKept_deployed (C : Deployment Digest) : WellKept C (State.deployed C) where
  backed :=
    { covered := fun token ids _ hids => by
        cases ids with
        | nil => exact le_rfl
        | cons i ids => exact absurd rfl (hids i (List.mem_cons_self)).1
      paid := fun _ h => absurd rfl h }
  unused _ _ _ _ := rfl
  settled payment h := absurd h List.not_mem_nil

/-- In every state of a run the balances cover the open orders and the settled ones have been
paid, exactly if no answer `false` of a token opens an order the contract does not hold anyway,
or settles one. -/
theorem orders_backed_iff (C : Deployment Digest) (txs : List (Transaction Digest)) :
    (∀ front, front <+: txs → (runAll (run C) front (State.deployed C)).Backed) ↔
      AllOk (run C) (Sound C) txs (State.deployed C) := by
  have hs := wellKept_deployed C
  refine forall_front_iff_allOk (WellKept C) (fun s tx hs => (run_backed hs tx).1)
    (fun s tx hs hsound => ?_) txs _ hs hs.backed
  exact (run_backed hs tx).2 ((run_backed hs tx).1.mpr hsound)

/-- A token that says `false` leaves an order of five without any. -/
theorem unfunded_order : ∃ (C : Deployment (ℕ × ℕ)) (txs : List (Transaction (ℕ × ℕ))),
    ((runAll (run C) txs (State.deployed C)).orders (1, 1)).status = .created ∧
      ((runAll (run C) txs (State.deployed C)).orders (1, 1)).amount = 5 ∧
      ((runAll (run C) txs (State.deployed C)).orders (1, 1)).token = 7 ∧
      (runAll (run C) txs (State.deployed C)).balance 7 = 0 ∧
      ¬(runAll (run C) txs (State.deployed C)).Backed := by
  let C : Deployment (ℕ × ℕ) := {
    self := 99
    resolverRegistry := zeroAddress
    zero := (0, 0)
    sha256 := fun bytes => (2, bytes.length)
    keccak256 := fun bytes => (3, bytes.length)
    orderId := fun _ n _ => (1, n)
    orderId_ne := fun hne heq => hne (Prod.mk.inj heq).2 }
  let txs : List (Transaction (ℕ × ℕ)) := [
    .call ⟨1000, fun _ => none⟩ (.createOrder 5 0 ⟨7, 5, (2, 32), 2000, 6, 5⟩ ([], .refused))]
  have horder : ((runAll (run C) txs (State.deployed C)).orders (1, 1)).amount = 5 := by
    decide
  have hcreated : ((runAll (run C) txs (State.deployed C)).orders (1, 1)).status = .created := by
    decide
  have htoken : ((runAll (run C) txs (State.deployed C)).orders (1, 1)).token = 7 := by
    decide
  have hbalance : (runAll (run C) txs (State.deployed C)).balance 7 = 0 := by decide
  refine ⟨C, txs, hcreated, horder, htoken, hbalance, fun hbacked => ?_⟩
  have hle := (hbacked.covered 7).amount_le (i := (1, 1))
    ⟨by rw [horder]; decide, hcreated, htoken⟩
  rw [hbalance, horder] at hle
  exact absurd hle (by decide)

end OverSync.MainnetHTLC
