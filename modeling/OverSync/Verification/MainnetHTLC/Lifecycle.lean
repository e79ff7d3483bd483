import OverSync.Library.Escrow
import OverSync.Verification.MainnetHTLC.Equations
import Mathlib.Data.List.Induction

/-! # The life of an order of the bridge contract

The counter in the hash keeps the ids apart. Every order is created once, listed once with its
sender, and settled at most once, as its terms allow and to whom they name. -/

namespace OverSync.MainnetHTLC

open Function Library Library.Escrow

variable {Digest : Type} {C : Deployment Digest} {env : Env} {sender : Address} {value : ℕ}
  {args : CreateOrderArgs Digest} {orderId : Digest} {s s' : State Digest}
  {event : Event Digest} {callee : Callee Digest} {answer : Answer}

/-! ## What a run says of its orders -/

inductive Release where
  | claim (preimage : Bytes)
  | refund
  deriving DecidableEq, Repr

def Release.status : Release → OrderStatus
  | .claim _ => .claimed
  | .refund => .refunded

/-- A claim or a refund in a block of some time. -/
structure Settlement where
  time : ℕ
  release : Release
  deriving DecidableEq, Repr

/-- A claim needs a preimage under one of the two hashes and comes up to the timelock, a refund
after it. -/
def Order.Allows (C : Deployment Digest) (order : Order Digest) (r : Settlement) : Prop :=
  match r.release with
  | .claim preimage => r.time ≤ order.timelock ∧
      (C.sha256 preimage = order.hashLock ∨ C.keccak256 preimage = order.hashLock)
  | .refund => order.timelock < r.time

def Order.settledBy (order : Order Digest) (r : Settlement) : Order Digest :=
  { order with status := r.release.status }

/-- A call that went through. -/
structure Entry (Digest : Type) where
  env : Env
  call : Call Digest
  event : Event Digest

def Entry.creation (entry : Entry Digest) : Option (Digest × Order Digest) :=
  match entry.call, entry.event with
  | .createOrder sender _ args _, .orderCreated orderId _ _ _ _ _ _ =>
      some (orderId, args.order sender entry.env.timestamp)
  | _, _ => none

def Entry.settlement (entry : Entry Digest) : Option (Digest × Settlement) :=
  match entry.call with
  | .claimOrder _ orderId secret _ => some (orderId, ⟨entry.env.timestamp, .claim secret.1⟩)
  | .claimOrderBytes _ orderId preimage _ =>
      some (orderId, ⟨entry.env.timestamp, .claim preimage⟩)
  | .refundOrder _ orderId _ => some (orderId, ⟨entry.env.timestamp, .refund⟩)
  | .createOrder _ _ _ _ => none
  | .receive _ _ => none

/-- The orders created by some calls, oldest first. -/
def creations (entries : List (Entry Digest)) : List (Digest × Order Digest) :=
  entries.filterMap Entry.creation

def settlements (entries : List (Entry Digest)) : List (Digest × Settlement) :=
  entries.filterMap Entry.settlement

section Log

variable [DecidableEq Digest]

/-- What a transaction adds to the log. -/
def entryOf (C : Deployment Digest) (tx : Transaction Digest) (s : State Digest) :
    Option (Entry Digest) :=
  match tx with
  | .call env call =>
      match exec C env call s with
      | .ok (_, event) => some ⟨env, call, event⟩
      | .error _ => none
  | .donation _ _ => none

/-- The calls of a run that went through. -/
def log (C : Deployment Digest) : List (Transaction Digest) → State Digest → List (Entry Digest)
  | [], _ => []
  | tx :: txs, s => (entryOf C tx s).toList ++ log C txs (run C tx s)

theorem log_append (front back : List (Transaction Digest)) (s : State Digest) :
    log C (front ++ back) s = log C front s ++ log C back (runAll (run C) front s) := by
  induction front generalizing s with
  | nil => rfl
  | cons tx front ih =>
      rw [List.cons_append, log, log, ih, List.append_assoc]
      rfl

/-- The life of an id: never handed out; created and open; or settled once, as the order
allows. -/
inductive OrderLife (C : Deployment Digest) (entries : List (Entry Digest)) (id : Digest) :
    Order Digest → Prop where
  | unset : valuesAt id (creations entries) = [] → valuesAt id (settlements entries) = [] →
      OrderLife C entries id (.unset C)
  | «open» {order} : valuesAt id (creations entries) = [order] →
      valuesAt id (settlements entries) = [] → order.status = .created →
      OrderLife C entries id order
  | settled {order r} : valuesAt id (creations entries) = [order] →
      valuesAt id (settlements entries) = [r] → order.Allows C r →
      OrderLife C entries id (order.settledBy r)

end Log

/-! ## The account of the orders -/

/-- The orders as positions; what a token moves is a matter of its own. -/
def policy (C : Deployment Digest) : Policy Unit (Order Digest) Settlement ℕ where
  valid order := order.status = .created
  cost _ _ := 0
  allowed := Order.Allows C
  kept _ _ := 0
  cost_nonneg _ _ := le_rfl
  kept_nonneg _ _ _ := le_rfl

/-- The entry of a position. -/
def slotOrder (C : Deployment Digest) : Slot (Order Digest) Settlement → Order Digest
  | .vacant => .unset C
  | .held order => order
  | .closed order r => order.settledBy r

def Entry.actions (entry : Entry Digest) :
    List (Action Digest Unit (Order Digest) Settlement) :=
  actionsOf entry.creation entry.settlement none

theorem openings_actions (entries : List (Entry Digest)) :
    openings (entries.flatMap Entry.actions) = creations entries :=
  openings_flatMap _ _ (fun _ => none) entries

theorem closings_actions (entries : List (Entry Digest)) :
    closings (entries.flatMap Entry.actions) = settlements entries :=
  closings_flatMap _ _ (fun _ => none) entries

variable {entries : List (Entry Digest)} {entry : Entry Digest}

theorem actions_created {id : Digest} {order : Order Digest}
    (hcreation : entry.creation = some (id, order)) (hsettlement : entry.settlement = none) :
    entry.actions = [.opened id order] := by
  unfold Entry.actions
  rw [hcreation, hsettlement]
  rfl

theorem actions_settled {id : Digest} {r : Settlement} (hcreation : entry.creation = none)
    (hsettlement : entry.settlement = some (id, r)) : entry.actions = [.closed id r] := by
  unfold Entry.actions
  rw [hcreation, hsettlement]
  rfl

theorem actions_silent (hcreation : entry.creation = none)
    (hsettlement : entry.settlement = none) : entry.actions = [] := by
  unfold Entry.actions
  rw [hcreation, hsettlement]
  rfl

theorem creations_snoc :
    creations (entries ++ [entry]) = creations entries ++ entry.creation.toList := by
  unfold creations
  rw [List.filterMap_append]
  cases hcreation : entry.creation with
  | none => simp [hcreation]
  | some created => simp [hcreation]

theorem Release.status_ne (release : Release) : release.status ≠ .created := by
  cases release <;> simp [Release.status]

/-- An order that can be settled is an open position. -/
theorem held_of_status {slot : Slot (Order Digest) Settlement}
    (hvalid : (policy C).SlotValid slot) (hfound : (slotOrder C slot).sender ≠ zeroAddress)
    (hcreated : (slotOrder C slot).status = .created) : slot = .held (slotOrder C slot) := by
  cases slot with
  | vacant => exact absurd rfl hfound
  | held order => rfl
  | closed order r => exact absurd hcreated r.release.status_ne

/-! ## What a call does to the orders -/

variable [DecidableEq Digest]

/-- A call that goes through creates an order, settles one, or leaves them alone. -/
inductive Effect (C : Deployment Digest) (s : State Digest) (entry : Entry Digest)
    (s' : State Digest) : Prop where
  | created (sender : Address) (args : CreateOrderArgs Digest) (answer : Answer) :
      Created C entry.env sender args answer s s' →
      entry.creation = some (C.orderId sender s.nextOrderId entry.env.timestamp,
        args.order sender entry.env.timestamp) →
      entry.settlement = none →
      s'.userOrders = update s.userOrders sender (s.userOrders sender ++
        [C.orderId sender s.nextOrderId entry.env.timestamp]) →
      Effect C s entry s'
  | settled (orderId : Digest) (r : Settlement) (answer : Answer) :
      Settled orderId r.release.status answer s s' → (s.orders orderId).Allows C r →
      entry.creation = none → entry.settlement = some (orderId, r) →
      s'.userOrders = s.userOrders → Effect C s entry s'
  | silent : s'.orders = s.orders → s'.nextOrderId = s.nextOrderId →
      s'.payments = s.payments → s'.userOrders = s.userOrders → entry.creation = none →
      entry.settlement = none → Effect C s entry s'

theorem createOrder_publishes (hcallee : Contained callee)
    (h : createOrder C env sender value args callee answer s = .ok (s', event)) :
    (∃ beneficiary token amount hashLock timelock, event =
      .orderCreated (C.orderId sender s.nextOrderId env.timestamp) sender beneficiary token
        amount hashLock timelock) ∧
    s'.userOrders = update s.userOrders sender (s.userOrders sender ++
      [C.orderId sender s.nextOrderId env.timestamp]) := by
  simp only [createOrder, require_bind_eq_ok] at h
  obtain ⟨-, -, -, h⟩ := h
  obtain ⟨earliest, -, h⟩ := bind_eq_ok.mp h
  obtain ⟨-, h⟩ := require_bind_eq_ok.mp h
  obtain ⟨latest, -, h⟩ := bind_eq_ok.mp h
  simp only [require_bind_eq_ok] at h
  obtain ⟨-, -, -, h⟩ := h
  obtain ⟨⟨⟩, -, h⟩ := bind_eq_ok.mp h
  obtain ⟨next, -, h⟩ := bind_eq_ok.mp h
  obtain ⟨s₁, hdeposit, h⟩ := bind_eq_ok.mp h
  obtain ⟨hs₁, -⟩ := deposit_eq_ok hcallee rfl hdeposit
  cases h
  refine ⟨⟨_, _, _, _, _, rfl⟩, ?_⟩
  rw [hs₁]

theorem claimOrder_checks {preimage secret : Bytes} (hcallee : Contained callee)
    (h : claimOrder C env sender orderId preimage secret callee answer s = .ok (s', event)) :
    (s.orders orderId).Allows C ⟨env.timestamp, .claim preimage⟩ ∧
      s'.userOrders = s.userOrders := by
  simp only [claimOrder, require_bind_eq_ok] at h
  obtain ⟨-, -, -, htime, hsecret, h⟩ := h
  obtain ⟨s₁, hsettle, h⟩ := bind_eq_ok.mp h
  obtain ⟨hs₁, -⟩ := settle_eq_ok hcallee rfl hsettle
  cases h
  refine ⟨⟨htime, hsecret⟩, ?_⟩
  rw [hs₁]

theorem refundOrder_checks (hcallee : Contained callee)
    (h : refundOrder C env orderId callee answer s = .ok (s', event)) :
    (s.orders orderId).Allows C ⟨env.timestamp, .refund⟩ ∧ s'.userOrders = s.userOrders := by
  simp only [refundOrder, require_bind_eq_ok] at h
  obtain ⟨-, -, -, htime, h⟩ := h
  obtain ⟨s₁, hsettle, h⟩ := bind_eq_ok.mp h
  obtain ⟨hs₁, -⟩ := settle_eq_ok hcallee rfl hsettle
  cases h
  refine ⟨htime, ?_⟩
  rw [hs₁]

theorem exec_effect {call : Call Digest} (h : exec C env call s = .ok (s', event)) :
    Effect C s ⟨env, call, event⟩ s' := by
  cases call with
  | createOrder sender value args token =>
      obtain ⟨calls, answer⟩ := token
      have hcallee : Contained (execAll C env calls) := contained_execAll calls
      obtain ⟨⟨beneficiary, asset, amount, hashLock, timelock, rfl⟩, husers⟩ :=
        createOrder_publishes hcallee h
      exact .created sender args answer (createOrder_eq_ok hcallee h) rfl rfl husers
  | claimOrder sender orderId secret token =>
      obtain ⟨calls, answer⟩ := token
      have hcallee : Contained (execAll C env calls) := contained_execAll calls
      obtain ⟨hallowed, husers⟩ := claimOrder_checks hcallee h
      exact .settled orderId ⟨env.timestamp, .claim secret.1⟩ answer
        (claimOrder_eq_ok hcallee h) hallowed rfl rfl husers
  | claimOrderBytes sender orderId preimage token =>
      obtain ⟨calls, answer⟩ := token
      have hcallee : Contained (execAll C env calls) := contained_execAll calls
      obtain ⟨hallowed, husers⟩ := claimOrder_checks hcallee h
      exact .settled orderId ⟨env.timestamp, .claim preimage⟩ answer
        (claimOrder_eq_ok hcallee h) hallowed rfl rfl husers
  | refundOrder sender orderId token =>
      obtain ⟨calls, answer⟩ := token
      have hcallee : Contained (execAll C env calls) := contained_execAll calls
      obtain ⟨hallowed, husers⟩ := refundOrder_checks hcallee h
      exact .settled orderId ⟨env.timestamp, .refund⟩ answer
        (refundOrder_eq_ok hcallee h) hallowed rfl rfl husers
  | receive sender value =>
      cases h
      exact .silent rfl rfl rfl rfl rfl rfl

/-! ## What a run keeps -/

/-- The orders are what the calls so far have made of them, under ids of counters below the
next; each is listed once with its sender, and paid out once at most. -/
structure Kept (C : Deployment Digest) (entries : List (Entry Digest)) (s : State Digest) :
    Prop where
  counter : s.nextOrderId = (creations entries).length + 1
  issued : ∀ id, id ∈ (creations entries).map Prod.fst →
    ∃ sender n timestamp, n < s.nextOrderId ∧ id = C.orderId sender n timestamp
  account : ∃ b, Execution (policy C).Step Book.empty (entries.flatMap Entry.actions) b ∧
    ∀ id, s.orders id = slotOrder C (b.slots id)
  users : ∀ user, s.userOrders user =
    ((creations entries).filter fun created => created.2.sender = user).map Prod.fst
  paidOnce : (s.payments.map Payment.orderId).Nodup
  paid : ∀ payment ∈ s.payments, (s.orders payment.orderId).status ≠ .created ∧
    payment = (s.orders payment.orderId).payment payment.orderId
      (s.orders payment.orderId).payee

theorem kept_deployed : Kept C [] (State.deployed C) where
  counter := rfl
  issued := by simp [creations]
  account := ⟨Book.empty, .refl, fun _ => rfl⟩
  users := by simp [State.deployed, creations]
  paidOnce := List.nodup_nil
  paid := by simp [State.deployed]

/-- The next id is that of no position. -/
theorem Kept.fresh (h : Kept C entries s) {b : Book Digest Unit (Order Digest) Settlement ℕ}
    (hb : Execution (policy C).Step Book.empty (entries.flatMap Entry.actions) b)
    (sender : Address) (timestamp : ℕ) :
    b.slots (C.orderId sender s.nextOrderId timestamp) = .vacant := by
  have hnew : C.orderId sender s.nextOrderId timestamp ∉ (creations entries).map Prod.fst := by
    intro hmem
    obtain ⟨sender', n, timestamp', hlt, heq⟩ := h.issued _ hmem
    exact C.orderId_ne (by omega) heq
  have hnone {order : Order Digest}
      (hopened : valuesAt (C.orderId sender s.nextOrderId timestamp)
        (openings (entries.flatMap Entry.actions)) = [order]) : False := by
    rw [openings_actions] at hopened
    have hmem := mem_valuesAt.mp (hopened ▸ List.mem_singleton_self order)
    exact hnew (List.mem_map_of_mem (f := Prod.fst) hmem)
  have hhistory := history_of_execution hb (C.orderId sender s.nextOrderId timestamp)
  cases hslot : b.slots (C.orderId sender s.nextOrderId timestamp) with
  | vacant => rfl
  | held order =>
      rw [hslot] at hhistory
      cases hhistory with
      | held hopened _ _ => exact (hnone hopened).elim
  | closed order r =>
      rw [hslot] at hhistory
      cases hhistory with
      | closed hopened _ _ _ => exact (hnone hopened).elim

theorem Kept.created {args : CreateOrderArgs Digest} (h : Kept C entries s)
    (hcreated : Created C entry.env sender args answer s s')
    (hcreation : entry.creation = some (C.orderId sender s.nextOrderId entry.env.timestamp,
      args.order sender entry.env.timestamp))
    (hsettlement : entry.settlement = none)
    (husers : s'.userOrders = update s.userOrders sender (s.userOrders sender ++
      [C.orderId sender s.nextOrderId entry.env.timestamp])) :
    Kept C (entries ++ [entry]) s' := by
  obtain ⟨b, hb, hslots⟩ := h.account
  have hvacant := h.fresh hb sender entry.env.timestamp
  have hcreations : creations (entries ++ [entry]) = creations entries ++
      [(C.orderId sender s.nextOrderId entry.env.timestamp,
        args.order sender entry.env.timestamp)] := by
    rw [creations_snoc, hcreation]
    rfl
  refine ⟨?_, fun id hid => ?_, ?_, fun user => ?_, hcreated.payments ▸ h.paidOnce,
    fun payment hpayment => ?_⟩
  · rw [hcreated.next, h.counter, hcreations, List.length_append, List.length_singleton]
  · rw [hcreations, List.map_append] at hid
    rw [hcreated.next]
    rcases List.mem_append.mp hid with hold | hnew
    · obtain ⟨sender', n, timestamp, hlt, heq⟩ := h.issued id hold
      exact ⟨sender', n, timestamp, by omega, heq⟩
    · exact ⟨sender, s.nextOrderId, entry.env.timestamp, by omega, List.mem_singleton.mp hnew⟩
  · refine ⟨⟨update b.slots (C.orderId sender s.nextOrderId entry.env.timestamp)
        (.held (args.order sender entry.env.timestamp)), b.pool⟩, ?_, fun id => ?_⟩
    · rw [List.flatMap_append, List.flatMap_singleton, actions_created hcreation hsettlement]
      exact .snoc hb (.opened hvacant rfl fun _ => rfl)
    · rw [hcreated.orders]
      by_cases hid : id = C.orderId sender s.nextOrderId entry.env.timestamp
      · subst hid
        simp [slotOrder]
      · simp [hid, hslots id]
  · rw [husers, hcreations, List.filter_append, List.map_append]
    by_cases huser : user = sender
    · subst huser
      simp [h.users, CreateOrderArgs.order]
    · simp [huser, Ne.symm huser, h.users, CreateOrderArgs.order]
  · rw [hcreated.payments] at hpayment
    obtain ⟨hstatus, heq⟩ := h.paid payment hpayment
    have hne : payment.orderId ≠ C.orderId sender s.nextOrderId entry.env.timestamp := by
      intro hid
      rw [hid, hslots, hvacant] at hstatus
      exact hstatus rfl
    rw [hcreated.orders, update_of_ne hne]
    exact ⟨hstatus, heq⟩

theorem Kept.settled {r : Settlement} (h : Kept C entries s)
    (hsettled : Settled orderId r.release.status answer s s')
    (hallowed : (s.orders orderId).Allows C r) (hcreation : entry.creation = none)
    (hsettlement : entry.settlement = some (orderId, r)) (husers : s'.userOrders = s.userOrders) :
    Kept C (entries ++ [entry]) s' := by
  obtain ⟨b, hb, hslots⟩ := h.account
  have hcreations : creations (entries ++ [entry]) = creations entries := by
    rw [creations_snoc, hcreation]
    exact List.append_nil _
  have hheld : b.slots orderId = .held (s.orders orderId) := by
    have hfound := hsettled.found
    have hcreated := hsettled.created
    rw [hslots] at hfound hcreated ⊢
    exact held_of_status (history_of_execution hb orderId).slotValid hfound hcreated
  have hunpaid : ∀ payment ∈ s.payments, payment.orderId ≠ orderId := by
    rintro payment hpayment rfl
    exact (h.paid payment hpayment).1 hsettled.created
  have hself : s'.orders orderId = (s.orders orderId).settledBy r := by
    rw [hsettled.orders, update_self]
    rfl
  have hother {id : Digest} (hid : id ≠ orderId) : s'.orders id = s.orders id := by
    rw [hsettled.orders, update_of_ne hid]
  have hpayments : s'.payments = s.payments ∨ s'.payments = s.payments ++
      [(s.orders orderId).payment orderId (s'.orders orderId).payee] := by
    by_cases hrefuses : answer.Refuses (s.orders orderId).token
    · exact .inl (hsettled.refused hrefuses)
    · exact .inr (hsettled.moved hrefuses).1
  have hold : ∀ payment ∈ s.payments, (s'.orders payment.orderId).status ≠ .created ∧
      payment = (s'.orders payment.orderId).payment payment.orderId
        (s'.orders payment.orderId).payee := by
    intro payment hpayment
    rw [hother (hunpaid payment hpayment)]
    exact h.paid payment hpayment
  refine ⟨?_, ?_, ?_, fun user => ?_, ?_, fun payment hpayment => ?_⟩
  · rw [hsettled.next, hcreations]
    exact h.counter
  · rw [hsettled.next, hcreations]
    exact h.issued
  · refine ⟨⟨update b.slots orderId (.closed (s.orders orderId) r), b.pool⟩, ?_, fun id => ?_⟩
    · rw [List.flatMap_append, List.flatMap_singleton, actions_settled hcreation hsettlement]
      exact .snoc hb (.closed hheld hsettled.created hallowed fun _ => rfl)
    · by_cases hid : id = orderId
      · subst hid
        simpa [slotOrder] using hself
      · simpa [hid, hother hid] using hslots id
  · rw [husers, hcreations]
    exact h.users user
  · rcases hpayments with hsame | hnew
    · rw [hsame]
      exact h.paidOnce
    · rw [hnew, List.map_append, List.nodup_append]
      refine ⟨h.paidOnce, List.nodup_singleton _, fun id hid other hmem => ?_⟩
      obtain ⟨payment, hpayment, rfl⟩ := List.mem_map.mp hid
      rw [List.mem_singleton.mp hmem]
      exact hunpaid payment hpayment
  · rcases hpayments with hsame | hnew
    · exact hold payment (hsame ▸ hpayment)
    · rw [hnew] at hpayment
      rcases List.mem_append.mp hpayment with hmem | hmem
      · exact hold payment hmem
      · rw [List.mem_singleton.mp hmem]
        refine ⟨?_, ?_⟩
        · change (s'.orders orderId).status ≠ .created
          rw [hself]
          exact r.release.status_ne
        · change (s.orders orderId).payment orderId (s'.orders orderId).payee =
            (s'.orders orderId).payment orderId (s'.orders orderId).payee
          rw [hself]
          rfl

theorem Kept.silent (h : Kept C entries s) (horders : s'.orders = s.orders)
    (hnext : s'.nextOrderId = s.nextOrderId) (hpayments : s'.payments = s.payments)
    (husers : s'.userOrders = s.userOrders) : Kept C entries s' where
  counter := hnext ▸ h.counter
  issued := hnext ▸ h.issued
  account := horders ▸ h.account
  users := husers ▸ h.users
  paidOnce := hpayments ▸ h.paidOnce
  paid := by
    rw [hpayments, horders]
    exact h.paid

theorem Kept.effect (h : Kept C entries s) (heffect : Effect C s entry s') :
    Kept C (entries ++ [entry]) s' := by
  cases heffect with
  | created sender args answer hcreated hcreation hsettlement husers =>
      exact h.created hcreated hcreation hsettlement husers
  | settled orderId r answer hsettled hallowed hcreation hsettlement husers =>
      exact h.settled hsettled hallowed hcreation hsettlement husers
  | silent horders hnext hpayments husers hcreation hsettlement =>
      have hcreations : creations (entries ++ [entry]) = creations entries := by
        rw [creations_snoc, hcreation]
        exact List.append_nil _
      have hactions : (entries ++ [entry]).flatMap Entry.actions =
          entries.flatMap Entry.actions := by
        rw [List.flatMap_append, List.flatMap_singleton, actions_silent hcreation hsettlement,
          List.append_nil]
      have hkept := h.silent horders hnext hpayments husers
      exact ⟨hcreations ▸ hkept.counter, hcreations ▸ hkept.issued, hactions ▸ hkept.account,
        hcreations ▸ hkept.users, hkept.paidOnce, hkept.paid⟩

theorem Kept.run (h : Kept C entries s) (tx : Transaction Digest) :
    Kept C (entries ++ (entryOf C tx s).toList) (run C tx s) := by
  cases tx with
  | donation token amount =>
      rw [entryOf, Option.toList_none, List.append_nil]
      exact h.silent rfl rfl rfl rfl
  | call env call =>
      cases hexec : exec C env call s with
      | error e =>
          have hentry : entryOf C (.call env call) s = none := by
            rw [entryOf, hexec]
          have hrun : MainnetHTLC.run C (.call env call) s = s := by
            rw [MainnetHTLC.run, hexec]
          rw [hentry, hrun, Option.toList_none, List.append_nil]
          exact h
      | ok result =>
          obtain ⟨s', event⟩ := result
          have hentry : entryOf C (.call env call) s = some ⟨env, call, event⟩ := by
            rw [entryOf, hexec]
          have hrun : MainnetHTLC.run C (.call env call) s = s' := by
            rw [MainnetHTLC.run, hexec]
          rw [hentry, hrun]
          exact h.effect (exec_effect hexec)

theorem kept_runAll (C : Deployment Digest) (txs : List (Transaction Digest)) :
    Kept C (log C txs (State.deployed C)) (runAll (run C) txs (State.deployed C)) := by
  induction txs using List.reverseRecOn with
  | nil => exact kept_deployed
  | append_singleton txs tx ih =>
      rw [log_append, runAll_append]
      simpa [log, runAll] using ih.run tx

theorem Kept.life (h : Kept C entries s) (id : Digest) : OrderLife C entries id (s.orders id) := by
  obtain ⟨b, hb, hslots⟩ := h.account
  have hhistory := history_of_execution hb id
  rw [hslots id]
  cases hslot : b.slots id with
  | vacant =>
      rw [hslot] at hhistory
      cases hhistory with
      | vacant ho hc =>
          rw [openings_actions] at ho
          rw [closings_actions] at hc
          exact .unset ho hc
  | held order =>
      rw [hslot] at hhistory
      cases hhistory with
      | held ho hc hv =>
          rw [openings_actions] at ho
          rw [closings_actions] at hc
          exact .open ho hc hv
  | closed order r =>
      rw [hslot] at hhistory
      cases hhistory with
      | closed ho hc hv ha =>
          rw [openings_actions] at ho
          rw [closings_actions] at hc
          exact .settled ho hc ha

/-- In every run, whatever the tokens call back and answer: every id is handed out once and its
order settled once at most, as its terms allow; every user's list names the orders of the user
in the order of their creation; and what is paid out for an order is paid once, after it was
settled, to whom its terms name. -/
theorem orders_settle_once (C : Deployment Digest) (txs : List (Transaction Digest)) :
    let s := runAll (run C) txs (State.deployed C)
    let entries := log C txs (State.deployed C)
    (∀ id, OrderLife C entries id (s.orders id)) ∧
      ((creations entries).map Prod.fst).Nodup ∧
      (∀ user, s.userOrders user =
        ((creations entries).filter fun created => created.2.sender = user).map Prod.fst) ∧
      (s.payments.map Payment.orderId).Nodup ∧
      ∀ payment ∈ s.payments, (s.orders payment.orderId).status ≠ .created ∧
        payment = (s.orders payment.orderId).payment payment.orderId
          (s.orders payment.orderId).payee := by
  have h := kept_runAll C txs
  refine ⟨h.life, nodup_keys fun id => ?_, h.users, h.paidOnce, h.paid⟩
  have hlife := h.life id
  generalize (runAll (run C) txs (State.deployed C)).orders id = order at hlife
  cases hlife with
  | unset hcreated _ => simp [hcreated]
  | «open» hcreated _ _ => simp [hcreated]
  | settled hcreated _ _ => simp [hcreated]

end OverSync.MainnetHTLC
