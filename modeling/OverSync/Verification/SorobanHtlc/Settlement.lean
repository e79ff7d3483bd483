import OverSync.Verification.SorobanHtlc.Refinement
import Mathlib.Algebra.Order.Ring.Int

/-! # Solvency and single settlement of `oversync-htlc`

In every run the contract holds what its funded orders lock, so that no settlement lacks
funds, and every order is settled at most once, as its terms say. -/

namespace OverSync.SorobanHtlc

open Function Library Library.Escrow

variable {Digest : Type} {sha256 : Bytes → Digest} {current : Address}

/-! ## What a run promises -/

/-- What the funded orders lock of an asset. -/
def State.owed (s : State Digest) (asset : Address) : ℤ :=
  ∑ id, match s.orders id with
    | some order => if order.status = .funded then order.locked asset else 0
    | none => 0

/-- The ids and orders created by some records, oldest first. -/
def creations (records : List (Record Digest)) : List (OrderId × Order Digest) :=
  records.filterMap Record.creation

/-- The ids settled by some records and how, oldest first. -/
def settlements (records : List (Record Digest)) : List (OrderId × Settlement) :=
  records.filterMap Record.settlement

/-- The life of an order id: never created; created and still funded; or created, and
settled once as its terms allow. -/
inductive OrderLife (sha256 : Bytes → Digest) (current : Address) (records : List (Record Digest))
    (id : OrderId) : Option (Order Digest) → Prop where
  | unset : valuesAt id (creations records) = [] → valuesAt id (settlements records) = [] →
      OrderLife sha256 current records id none
  | funded {order} : valuesAt id (creations records) = [order] →
      valuesAt id (settlements records) = [] → order.Funded →
      OrderLife sha256 current records id (some order)
  | settled {order r} : valuesAt id (creations records) = [order] →
      valuesAt id (settlements records) = [r] → order.Funded → order.Allows sha256 current r →
      OrderLife sha256 current records id (some (order.settledBy r))

/-- The asset only moves by the calls of the contract, and no order in it pays the contract. -/
structure Closed (current asset : Address) (records : List (Record Digest)) : Prop where
  no_donation : ∀ amount, .donation asset amount ∉ records
  no_self : ∀ created ∈ creations records, created.2.asset = asset →
    created.2.beneficiary ≠ current ∧ created.2.refundAddress ≠ current

section Spec

variable [DecidableEq Digest]

/-- The promise of the contract about a run through `records` to the state `s`. -/
structure HtlcSpec (sha256 : Bytes → Digest) (current : Address) (records : List (Record Digest))
    (s : State Digest) : Prop where
  solvent : ∀ asset, s.owed asset ≤ s.balance asset
  exact : ∀ asset, Closed current asset records → s.balance asset = s.owed asset
  funds : ∀ env call, env.self = current → exec sha256 env s call ≠ .error .insufficientBalance
  life : ∀ id, OrderLife sha256 current records id (s.orders id)
  ids_unique : ((creations records).map Prod.fst).Nodup
  settled_stays : ∀ front back u, records = front ++ back →
    Execution (Step sha256 current) State.deployed front u →
    Execution (Step sha256 current) u back s →
    ∀ id order, u.orders id = some order → order.status ≠ .funded → s.orders id = some order

end Spec

/-! ## Every run is a run of the account -/

theorem openings_actions (records : List (Record Digest)) :
    openings (records.flatMap Record.actions) = creations records :=
  openings_flatMap _ _ _ records

theorem closings_actions (records : List (Record Digest)) :
    closings (records.flatMap Record.actions) = settlements records :=
  closings_flatMap _ _ _ records

variable {s : State Digest} {records : List (Record Digest)}
  {acts : List (Action OrderId Address (Order Digest) Settlement)}
  {b : Book OrderId Address (Order Digest) Settlement ℤ}

/-- What a held position owes is what its order locks. -/
theorem owed_eq_liabilities (h : Represents (storage sha256 current) acts s b)
    (hvalid : ∀ id, (policy sha256 current).SlotValid (b.slots id)) (asset : Address) :
    s.owed asset = (policy sha256 current).liabilities b.slots asset := by
  unfold State.owed Policy.liabilities
  refine Finset.sum_congr rfl fun id _ => ?_
  have hentry : s.orders id = slotOrder (b.slots id) := h.entries id
  have hslotValid := hvalid id
  rw [hentry]
  cases hslot : b.slots id with
  | vacant => rfl
  | held order =>
      rw [hslot] at hslotValid
      have hfunded : order.Funded := hslotValid
      simp [slotOrder, hfunded.status_eq, Policy.due, policy]
  | closed order r => simp [slotOrder, order.settledBy_status r, Policy.due]

theorem orderLife_of_history {id : OrderId} {slot : Slot (Order Digest) Settlement}
    (h : History Order.Funded (Order.Allows sha256 current) id (records.flatMap Record.actions)
      slot) : OrderLife sha256 current records id (slotOrder slot) := by
  cases h with
  | vacant ho hc =>
      rw [openings_actions] at ho
      rw [closings_actions] at hc
      exact .unset ho hc
  | held ho hc hv =>
      rw [openings_actions] at ho
      rw [closings_actions] at hc
      exact .funded ho hc hv
  | closed ho hc hv ha =>
      rw [openings_actions] at ho
      rw [closings_actions] at hc
      exact .settled ho hc hv ha

/-- An order that is no longer funded is a closed position. -/
theorem closed_of_status (h : Represents (storage sha256 current) acts s b)
    (hvalid : ∀ id, (policy sha256 current).SlotValid (b.slots id)) {id : OrderId}
    {order : Order Digest} (horder : s.orders id = some order) (hstatus : order.status ≠ .funded) :
    ∃ terms r, b.slots id = .closed terms r := by
  have hentry : s.orders id = slotOrder (b.slots id) := h.entries id
  have hslotValid := hvalid id
  rw [horder] at hentry
  cases hslot : b.slots id with
  | vacant =>
      rw [hslot] at hentry
      cases hentry
  | held terms =>
      rw [hslot] at hentry hslotValid
      cases hentry
      exact absurd hslotValid.status_eq hstatus
  | closed terms r => exact ⟨terms, r, rfl⟩

/-- In a closed asset nothing comes back to the contract. -/
theorem exact_of_closed {asset : Address}
    (hrun : Execution (policy sha256 current).Step Book.empty (records.flatMap Record.actions) b)
    (hclosed : Closed current asset records) :
    ∀ act ∈ records.flatMap Record.actions, (policy sha256 current).Exact asset act := by
  intro act hact
  cases act with
  | opened id terms => trivial
  | closed id r =>
      obtain ⟨terms, hopened, -, hallowed⟩ := terms_of_closed hrun hact
      rw [openings_actions] at hopened
      change returned current r.transfers asset = 0
      rw [Order.Allows.transfers_eq hallowed]
      by_cases hasset : terms.asset = asset
      · obtain ⟨hbeneficiary, hrefund⟩ := hclosed.no_self _ hopened hasset
        refine returned_payments_eq_zero ?_ hallowed.1 asset
        unfold Order.recipient
        cases r.release with
        | claim preimage => exact hbeneficiary
        | refund => exact hrefund
      · unfold returned Order.payments
        split <;> simp [hasset]
  | gift other =>
      intro hother
      obtain ⟨record, hrecord, hmem⟩ := List.mem_flatMap.mp hact
      cases record with
      | donation a amount =>
          have ha : a = other := by
            simpa [Record.actions, actionsOf, Record.creation, Record.settlement, Record.gift,
              eq_comm] using hmem
          subst ha hother
          exact hclosed.no_donation amount hrecord
      | invocation env call result =>
          simp [Record.actions, actionsOf, Record.gift] at hmem

variable [DecidableEq Digest]

theorem inv_of_execution (h : Execution (Step sha256 current) State.deployed records s) : Inv s :=
  h.invariant inv_deployed fun hu hstep => (hstep.spec hu).inv

/-- Orders are stored, and the admin is kept, only once there is an admin. -/
theorem exec_initialised {env : Env} {call : Call Digest} {s s' : State Digest}
    {receipt : Receipt Digest} (hs : Inv s)
    (h : exec sha256 env s call = .ok (s', receipt)) : s'.inst.admin ≠ none := by
  cases call with
  | initialise admin minSafetyDeposit =>
      simp only [exec, initialise, require_bind_eq_ok] at h
      obtain ⟨-, -, h⟩ := h
      obtain ⟨⟨⟩, -, h⟩ := bind_eq_ok.mp h
      cases h
      simp
  | setResolverRegistry registry =>
      obtain ⟨⟨⟩, hadmin, h⟩ := bind_eq_ok.mp h
      cases h
      exact requireAdmin_eq_ok hadmin
  | clearResolverRegistry =>
      obtain ⟨⟨⟩, hadmin, h⟩ := bind_eq_ok.mp h
      cases h
      exact requireAdmin_eq_ok hadmin
  | setMinSafetyDeposit newMinimum =>
      obtain ⟨⟨⟩, hadmin, h⟩ := bind_eq_ok.mp h
      obtain ⟨⟨⟩, -, h⟩ := bind_eq_ok.mp h
      cases h
      exact requireAdmin_eq_ok hadmin
  | setAdmin newAdmin =>
      obtain ⟨⟨⟩, -, h⟩ := bind_eq_ok.mp h
      cases h
      simp
  | createOrder args pull =>
      have hspec := createOrder_eq_ok h
      rw [hspec.inst_eq hspec.counted]
      exact hspec.initialised
  | claimOrder orderId preimage caller pay deposit =>
      obtain ⟨order, hspec, -⟩ := claimOrder_eq_ok hs h
      rw [hspec.inst_eq]
      exact hspec.initialised
  | refundOrder orderId caller pay deposit =>
      obtain ⟨order, hspec, -⟩ := refundOrder_eq_ok hs h
      rw [hspec.inst_eq]
      exact hspec.initialised

/-- A contract that holds an order has been initialised. -/
theorem initialised_of_execution (h : Execution (Step sha256 current) State.deployed records s)
    {orderId : OrderId} {order : Order Digest} (horder : s.orders orderId = some order) :
    s.inst.admin ≠ none := by
  have hboth : Inv s ∧ (s.inst.admin = none → ∀ id, s.orders id = none) := by
    refine h.invariant (P := fun u => Inv u ∧ (u.inst.admin = none → ∀ id, u.orders id = none))
      ⟨inv_deployed, fun _ _ => rfl⟩ fun hu hstep => ⟨(hstep.spec hu.1).inv, ?_⟩
    cases hstep with
    | success _ hexec => exact fun hadmin => absurd hadmin (exec_initialised hu.1 hexec)
    | panic _ _ => exact hu.2
    | donation _ => exact hu.2
  intro hadmin
  rw [hboth.2 hadmin] at horder
  cases horder

/-- The counter is checked, so it counts the orders created. -/
theorem counter_of_execution (h : Execution (Step sha256 current) State.deployed records s) :
    s.nextOrderId.val = (creations records).length + 1 := by
  have hboth : Inv s ∧
      s.nextOrderId.val = (openings (records.flatMap Record.actions)).length + 1 := by
    refine h.history (P := fun past u => Inv u ∧
      u.nextOrderId.val = (openings (past.flatMap Record.actions)).length + 1)
      ⟨inv_deployed, rfl⟩ ?_
    rintro past u record v ⟨hinv, hcounter⟩ hstep
    have hspec := hstep.spec hinv
    refine ⟨hspec.inv, ?_⟩
    rw [hspec.counter, hcounter, List.flatMap_append, List.flatMap_singleton, openings_append,
      List.length_append]
    omega
  rw [hboth.2, openings_actions]

theorem run_account (h : Execution (Step sha256 current) State.deployed records s) :
    ∃ b, Execution (policy sha256 current).Step Book.empty (records.flatMap Record.actions) b ∧
      Represents (storage sha256 current) (records.flatMap Record.actions) s b := by
  have hdeployed : Represents (storage sha256 current) [] State.deployed Book.empty :=
    ⟨fun _ => rfl, fun _ => rfl, rfl, fun _ _ _ => rfl⟩
  have hstrong := h.strengthen inv_deployed fun hu hstep => (hstep.spec hu).inv
  apply hdeployed.run_empty (fun hstep => (hstep.2.spec hstep.1).effect) hstrong
  rw [openings_actions]
  have hcounter := counter_of_execution h
  have hlt := s.nextOrderId.isLt
  change (creations records).length ≤ 2 ^ 64
  omega

/-! ## No settlement lacks funds -/

section Funds

variable {env : Env}

omit [DecidableEq Digest]

theorem requireAuth_funds (address : Address) :
    requireAuth env address ≠ .error .insufficientBalance :=
  require_ne_error (by decide)

theorem requireAdmin_funds : requireAdmin env s ≠ .error .insufficientBalance := by
  unfold requireAdmin
  split
  · simp
  · exact requireAuth_funds _

theorem requireResolver_funds (sender : Address) :
    requireResolver env sender s ≠ .error .insufficientBalance := by
  unfold requireResolver
  split
  · exact nofun
  · split
    · exact require_ne_error (by decide)
    · simp

theorem getOrder_funds (orderId : OrderId) :
    getOrder s orderId ≠ .error .insufficientBalance := by
  unfold getOrder
  split <;> simp

theorem createOrder_funds (args : CreateOrderArgs Digest) (pull : Bool) :
    createOrder env args pull s ≠ .error .insufficientBalance := by
  unfold createOrder requireInitialised
  refine bind_ne_error (require_ne_error (by decide)) fun _ _ => ?_
  refine bind_ne_error (requireAuth_funds _) fun _ _ => ?_
  refine bind_ne_error (require_ne_error (by decide)) fun _ _ => ?_
  refine bind_ne_error (require_ne_error (by decide)) fun _ _ => ?_
  refine bind_ne_error (require_ne_error (by decide)) fun _ _ => ?_
  refine bind_ne_error (require_ne_error (by decide)) fun _ _ => ?_
  refine bind_ne_error (requireResolver_funds _) fun _ _ => ?_
  refine bind_ne_error (by unfold checkedAddU64; split <;> simp) fun _ _ => ?_
  refine bind_ne_error (by unfold nextId; split <;> simp) fun _ _ => ?_
  refine bind_ne_error (by unfold checkedAddI128; split <;> simp) fun _ _ => ?_
  refine bind_ne_error (bind_ne_error (require_ne_error (by decide)) nofun) nofun

/-- The contract holds what a funded order locks, in every asset. -/
def Covered (s : State Digest) : Prop :=
  ∀ orderId order, s.orders orderId = some order → order.status = .funded →
    order.amount + order.safetyDeposit ≤ s.balance order.asset

theorem refundOrder_funds (hs : Inv s) (hcovered : Covered s) (orderId : OrderId)
    (caller : Address) (pay deposit : Bool) :
    refundOrder env orderId caller pay deposit s ≠ .error .insufficientBalance := by
  unfold refundOrder requireInitialised
  refine bind_ne_error (require_ne_error (by decide)) fun _ _ => ?_
  refine bind_ne_error (requireAuth_funds _) fun _ _ => ?_
  refine bind_ne_error (getOrder_funds _) fun order hentry => ?_
  rw [getOrder_eq_ok] at hentry
  refine bind_ne_error (require_ne_error (by decide)) fun _ hfunded => ?_
  refine bind_ne_error (require_ne_error (by decide)) fun _ _ => ?_
  refine bind_ne_error (settle_funds (hs.amount_pos _ _ hentry).le
    (hs.deposit_nonneg _ _ hentry) ?_) nofun
  exact hcovered orderId order hentry (require_eq_ok.mp hfunded)

end Funds

theorem claimOrder_funds {env : Env} (hs : Inv s) (hcovered : Covered s) (orderId : OrderId)
    (preimage : Bytes) (caller : Address) (pay deposit : Bool) :
    claimOrder sha256 env orderId preimage caller pay deposit s ≠
      .error .insufficientBalance := by
  unfold claimOrder requireInitialised
  refine bind_ne_error (require_ne_error (by decide)) fun _ _ => ?_
  refine bind_ne_error (requireAuth_funds _) fun _ _ => ?_
  refine bind_ne_error (getOrder_funds _) fun order hentry => ?_
  rw [getOrder_eq_ok] at hentry
  refine bind_ne_error (require_ne_error (by decide)) fun _ hfunded => ?_
  refine bind_ne_error (require_ne_error (by decide)) fun _ _ => ?_
  refine bind_ne_error (require_ne_error (by decide)) fun _ _ => ?_
  refine bind_ne_error (require_ne_error (by decide)) fun _ _ => ?_
  refine bind_ne_error (settle_funds (hs.amount_pos _ _ hentry).le
    (hs.deposit_nonneg _ _ hentry) ?_) nofun
  exact hcovered orderId order hentry (require_eq_ok.mp hfunded)

/-- A contract that covers its funded orders never runs out of funds. -/
theorem exec_funds {env : Env} (hs : Inv s) (hcovered : Covered s) (call : Call Digest) :
    exec sha256 env s call ≠ .error .insufficientBalance := by
  cases call with
  | initialise admin minSafetyDeposit =>
      refine bind_ne_error (require_ne_error (by decide)) fun _ _ => ?_
      refine bind_ne_error (require_ne_error (by decide)) fun _ _ => ?_
      exact bind_ne_error (requireAuth_funds _) nofun
  | setResolverRegistry registry => exact bind_ne_error requireAdmin_funds nofun
  | clearResolverRegistry => exact bind_ne_error requireAdmin_funds nofun
  | setMinSafetyDeposit newMinimum =>
      refine bind_ne_error requireAdmin_funds fun _ _ => ?_
      exact bind_ne_error (require_ne_error (by decide)) nofun
  | setAdmin newAdmin => exact bind_ne_error requireAdmin_funds nofun
  | createOrder args pull => exact createOrder_funds args pull
  | claimOrder orderId preimage caller pay deposit =>
      exact claimOrder_funds hs hcovered orderId preimage caller pay deposit
  | refundOrder orderId caller pay deposit =>
      exact refundOrder_funds hs hcovered orderId caller pay deposit

/-! ## The promise -/

theorem covered_of_execution (h : Execution (Step sha256 current) State.deployed records s) :
    Covered s := by
  obtain ⟨b, hrun, hb⟩ := run_account h
  have hinv := inv_of_execution h
  intro orderId order hentry hstatus
  have hslot : b.slots orderId = .held order :=
    held_of_slotOrder ⟨hinv.amount_pos _ _ hentry, hinv.deposit_nonneg _ _ hentry, hstatus⟩
      ((hb.entries orderId).symm.trans hentry)
  have hcost := cost_le_pool hrun hslot order.asset
  rw [hb.pool] at hcost
  simpa [policy, Order.locked, storage] using hcost

/-- The contract keeps its promise in every run. -/
theorem htlc_spec (h : Execution (Step sha256 current) State.deployed records s) :
    HtlcSpec sha256 current records s := by
  obtain ⟨b, hrun, hb⟩ := run_account h
  have hinv := inv_of_execution h
  have hhistory (id : OrderId) := history_of_execution hrun id
  have hvalid (id : OrderId) := (hhistory id).slotValid
  have howed := owed_eq_liabilities hb hvalid
  refine ⟨fun asset => ?_, fun asset hclosed => ?_,
    fun env call _ => exec_funds hinv (covered_of_execution h) call, fun id => ?_, ?_, ?_⟩
  · rw [howed]
    refine (solvent_of_execution hrun asset).trans ?_
    rw [hb.pool]
    rfl
  · rw [howed, ← exact_of_execution hrun (exact_of_closed hrun hclosed), hb.pool]
    rfl
  · have hentry : s.orders id = slotOrder (b.slots id) := hb.entries id
    rw [hentry]
    exact orderLife_of_history (hhistory id)
  · rw [← openings_actions]
    exact nodup_keys fun id => (hhistory id).opened_once
  · intro front back u hrecords hfront hback id order horder hstatus
    subst hrecords
    obtain ⟨a, ha, hu⟩ := run_account hfront
    obtain ⟨terms, r, hclosed⟩ :=
      closed_of_status hu (fun i => (history_of_execution ha i).slotValid) horder hstatus
    have hstrong := hback.strengthen (inv_of_execution hfront)
      fun hv hstep => (hstep.spec hv).inv
    have hstays := hu.entry_stays (fun hstep => (hstep.2.spec hstep.1).effect) hstrong ?_ hclosed
    · exact hstays.trans horder
    · rw [openings_actions]
      have hcounter := counter_of_execution h
      have hlt := s.nextOrderId.isLt
      change (creations (front ++ back)).length ≤ 2 ^ 64
      omega

/-! ## Runs on fixed inputs -/

section Runs

/-- The contract at address 1, at time 0, with every call signed. -/
def ledger : Env := ⟨1, 0, fun _ => true, fun _ _ => none⟩

/-- One stroop of asset 6 for address 3, refundable to address 4. -/
def stroopOrder (hashlock : Bytes) : CreateOrderArgs Bytes := ⟨2, 3, 4, 6, 1, 0, hashlock, 300⟩

def stroopRecords (hashlock : Bytes) : List (Record Bytes) :=
  [.invocation ledger (.initialise 9 0) (.ok ⟨none, []⟩),
    .invocation ledger (.createOrder (stroopOrder hashlock) true)
      (.ok ⟨some (.created 2 3 hashlock 1 6 1 0 300), [⟨6, 2, 1, 1⟩]⟩)]

/-- After the two calls order 1 is the order of one stroop, and one stroop is there. -/
theorem stroopRecords_run (hashlock : Bytes) : ∃ s : State Bytes,
    Execution (Step (List.cons 1) 1) State.deployed (stroopRecords hashlock) s ∧
      s.inst.admin = some 9 ∧ s.orders 1 = some ((stroopOrder hashlock).order 1 0) ∧
      s.balance 6 = 1 :=
  ⟨_, .cons (.success rfl rfl) (.single (.success rfl rfl)), rfl, rfl, rfl⟩

def claimRecord (preimage : Bytes) (hashlock : Bytes) : Record Bytes :=
  .invocation ledger (.claimOrder 1 preimage 5 true true)
    (.ok ⟨some (.claimed 3 hashlock 1 5 preimage 1 0), [⟨6, 1, 3, 1⟩]⟩)

theorem claimRecord_step {s : State Bytes} {preimage : Bytes} (hadmin : s.inst.admin = some 9)
    (horder : s.orders 1 = some ((stroopOrder (1 :: hashInput 1 preimage)).order 1 0))
    (hbalance : s.balance 6 = 1) (hpreimage : preimage ≠ []) :
    Step (List.cons 1) 1 s (claimRecord preimage (1 :: hashInput 1 preimage)) { s with
      orders := update s.orders 1
        (some (((stroopOrder (1 :: hashInput 1 preimage)).order 1 0).claimedWith preimage 0))
      balance := update s.balance 6 0 } := by
  refine .success rfl ?_
  simp [exec, claimOrder, requireInitialised, requireAuth, getOrder, settle, payTransfer, require,
    ledger, hadmin, horder, hbalance, hpreimage, stroopOrder, CreateOrderArgs.order]

theorem htlc_spec_claimed : ∃ s : State Bytes, HtlcSpec (List.cons 1) 1
    (stroopRecords (1 :: hashInput 1 [7]) ++ [claimRecord [7] (1 :: hashInput 1 [7])]) s := by
  obtain ⟨s, hrun, hadmin, horder, hbalance⟩ := stroopRecords_run (1 :: hashInput 1 [7])
  have hclaim := claimRecord_step hadmin horder hbalance (List.cons_ne_nil 7 [])
  exact ⟨_, htlc_spec (.snoc hrun hclaim)⟩

end Runs

end OverSync.SorobanHtlc
