import OverSync.Library.Progress
import OverSync.Verification.SorobanHtlc.Settlement

/-! # No funds are stuck in `oversync-htlc`

In every reachable state an order that is still funded can be claimed with its preimage up to
its timelock and refunded by anyone after it, as long as the token contract lets the payments
through. -/

namespace OverSync.SorobanHtlc

open Function Library Library.Escrow

variable {Digest : Type} {sha256 : Bytes → Digest} {current : Address} {env : Env}
  {s s' : State Digest} {records : List (Record Digest)}

/-! ## Payments that go through -/

theorem payTransfer_accepted {t : Transfer} (hasset : t.asset ≠ env.self)
    (hcovered : t.amount ≤ s.balance t.asset) : ∃ s', payTransfer env t true s = .ok s' := by
  unfold payTransfer
  rw [require_of hasset, require_of hcovered]
  exact ⟨_, rfl⟩

/-- With what an order locks in the contract, its settlement goes through. -/
theorem settle_accepted (env : Env) {order : Order Digest} (recipient caller : Address)
    (hfunded : order.Funded) (hasset : order.asset ≠ env.self)
    (hcovered : order.amount + order.safetyDeposit ≤ s.balance order.asset) :
    ∃ s' transfers, settle env order recipient caller true true s = .ok (s', transfers) := by
  have hamount := hfunded.amount_pos
  have hdeposit := hfunded.deposit_nonneg
  obtain ⟨s₁, hpaid⟩ := payTransfer_accepted (s := s)
    (t := ⟨order.asset, env.self, recipient, order.amount⟩) hasset (by simp only; omega)
  obtain ⟨-, -, -, hbalance⟩ := payTransfer_eq_ok hpaid
  have h₁ := hbalance order.asset
  simp only [returned, List.map_cons, List.map_nil, List.sum_cons, List.sum_nil, if_true] at h₁
  obtain ⟨s₂, hpaid₂⟩ := payTransfer_accepted (s := s₁)
    (t := ⟨order.asset, env.self, caller, order.safetyDeposit⟩) hasset
    (by simp only; split at h₁ <;> omega)
  unfold settle
  simp only [hpaid, ok_bind]
  by_cases hpos : 0 < order.safetyDeposit
  · simp only [hpos, if_true, hpaid₂, ok_bind]
    exact ⟨_, _, rfl⟩
  · simp only [hpos, if_false]
    exact ⟨_, _, rfl⟩

/-! ## Orders the contract can pay out -/

/-- No stored order is in an asset that is the contract itself. -/
def AssetsForeign (current : Address) (s : State Digest) : Prop :=
  ∀ id order, s.orders id = some order → order.asset ≠ current

theorem createOrder_asset {args : CreateOrderArgs Digest} {pull : Bool} {receipt : Receipt Digest}
    (h : createOrder env args pull s = .ok (s', receipt)) : args.asset ≠ env.self := by
  unfold createOrder requireInitialised requireAuth at h
  simp only [require_bind_eq_ok] at h
  obtain ⟨-, -, -, -, -, -, h⟩ := h
  obtain ⟨-, -, h⟩ := bind_eq_ok.mp h
  obtain ⟨timelock, -, h⟩ := bind_eq_ok.mp h
  obtain ⟨next, -, h⟩ := bind_eq_ok.mp h
  obtain ⟨total, -, h⟩ := bind_eq_ok.mp h
  obtain ⟨s₁, hpull, -⟩ := bind_eq_ok.mp h
  unfold pullTransfer at hpull
  simp only [require_bind_eq_ok] at hpull
  exact hpull.1.1

/-- Storing an order in a foreign asset keeps all assets foreign. -/
theorem AssetsForeign.store {id : OrderId} {order : Order Digest} (hs : AssetsForeign current s)
    (horders : s'.orders = update s.orders id (some order)) (hasset : order.asset ≠ current) :
    AssetsForeign current s' := by
  intro i o ho
  rw [horders] at ho
  by_cases hi : i = id
  · subst hi
    simp only [update_self, Option.some.injEq] at ho
    exact ho ▸ hasset
  · rw [update_of_ne hi] at ho
    exact hs i o ho

variable [DecidableEq Digest]

theorem exec_assetsForeign {call : Call Digest} {receipt : Receipt Digest} (hinv : Inv s)
    (hs : AssetsForeign current s) (hself : env.self = current)
    (h : exec sha256 env s call = .ok (s', receipt)) : AssetsForeign current s' := by
  cases call with
  | initialise admin minSafetyDeposit =>
      simp only [exec, initialise, require_bind_eq_ok] at h
      obtain ⟨-, -, h⟩ := h
      obtain ⟨⟨⟩, -, h⟩ := bind_eq_ok.mp h
      cases h
      exact hs
  | setResolverRegistry registry =>
      obtain ⟨⟨⟩, -, h⟩ := bind_eq_ok.mp h
      cases h
      exact hs
  | clearResolverRegistry =>
      obtain ⟨⟨⟩, -, h⟩ := bind_eq_ok.mp h
      cases h
      exact hs
  | setMinSafetyDeposit newMinimum =>
      obtain ⟨⟨⟩, -, h⟩ := bind_eq_ok.mp h
      obtain ⟨⟨⟩, -, h⟩ := bind_eq_ok.mp h
      cases h
      exact hs
  | setAdmin newAdmin =>
      obtain ⟨⟨⟩, -, h⟩ := bind_eq_ok.mp h
      cases h
      exact hs
  | createOrder args pull =>
      exact hs.store (createOrder_eq_ok h).orders_eq (hself ▸ createOrder_asset h)
  | claimOrder orderId preimage caller pay deposit =>
      obtain ⟨order, hspec, -⟩ := claimOrder_eq_ok hinv h
      exact hs.store hspec.orders_eq (hs orderId order hspec.entry)
  | refundOrder orderId caller pay deposit =>
      obtain ⟨order, hspec, -⟩ := refundOrder_eq_ok hinv h
      exact hs.store hspec.orders_eq (hs orderId order hspec.entry)

theorem assetsForeign_of_execution
    (h : Execution (Step sha256 current) State.deployed records s) : AssetsForeign current s := by
  have hboth : Inv s ∧ AssetsForeign current s := by
    refine h.invariant (P := fun u => Inv u ∧ AssetsForeign current u)
      ⟨inv_deployed, by simp [AssetsForeign, State.deployed]⟩
      fun hu hstep => ⟨(hstep.spec hu.1).inv, ?_⟩
    cases hstep with
    | success hself hexec => exact exec_assetsForeign hu.1 hu.2 hself hexec
    | panic _ _ => exact hu.2
    | donation _ => exact hu.2
  exact hboth.2

/-- A stored order that is still funded has an amount and no negative deposit. -/
theorem funded_of_execution (h : Execution (Step sha256 current) State.deployed records s)
    {id : OrderId} {order : Order Digest} (hentry : s.orders id = some order)
    (hstatus : order.status = .funded) : order.Funded :=
  ⟨(inv_of_execution h).amount_pos id order hentry,
    (inv_of_execution h).deposit_nonneg id order hentry, hstatus⟩

/-- A funded order is still the same later, or it has been settled once, as its terms allow. -/
theorem funded_or_settled {front back : List (Record Digest)} {u : State Digest}
    (hfront : Execution (Step sha256 current) State.deployed front u)
    (hback : Execution (Step sha256 current) u back s) {id : OrderId} {order : Order Digest}
    (hentry : u.orders id = some order) (hstatus : order.status = .funded) :
    s.orders id = some order ∨ ∃ r, (id, r) ∈ settlements back ∧
      order.Allows sha256 current r ∧ s.orders id = some (order.settledBy r) := by
  obtain ⟨a, -, hu⟩ := run_account hfront
  have hstrong := hback.strengthen (inv_of_execution hfront)
    fun hv hstep => (hstep.spec hv).inv
  have hheld := hu.entry_held (fun hstep => (hstep.2.spec hstep.1).effect) hstrong ?_
    (funded_of_execution hfront hentry hstatus) hentry
  · rcases hheld with hsame | ⟨r, hmem, hallowed, hclosed⟩
    · exact .inl (hsame.trans hentry)
    · have hr : (id, r) ∈ settlements back := by
        rw [← closings_actions]
        exact mem_closings hmem
      exact .inr ⟨r, hr, hallowed, hclosed⟩
  · rw [openings_actions]
    have hcounter := counter_of_execution (hfront.trans hback)
    have hlt := s.nextOrderId.isLt
    change (creations (front ++ back)).length ≤ 2 ^ 64
    omega

/-! ## Claims and refunds that go through -/

variable {id : OrderId} {order : Order Digest} {caller : Address}

/-- With the preimage in time, a signed claim of a funded order goes through. -/
theorem claimOrder_accepted (h : Execution (Step sha256 current) State.deployed records s)
    (hself : env.self = current) (hentry : s.orders id = some order)
    (hstatus : order.status = .funded) {preimage : Bytes} (htime : env.timestamp ≤ order.timelock)
    (hsigned : caller ≠ env.self ∧ env.auth caller = true) (hpreimage : preimage ≠ [])
    (hsha : sha256 (hashInput id preimage) = order.hashlock) :
    ∃ s' receipt, exec sha256 env s (.claimOrder id preimage caller true true) =
      .ok (s', receipt) := by
  have hfunded := funded_of_execution h hentry hstatus
  obtain ⟨s₁, transfers, hsettle⟩ := settle_accepted env order.beneficiary caller hfunded
    (hself ▸ assetsForeign_of_execution h id order hentry)
    (covered_of_execution h id order hentry hstatus)
  have hlength : preimage.length ≠ 0 := fun hzero => hpreimage (List.length_eq_zero_iff.mp hzero)
  unfold exec claimOrder requireInitialised requireAuth
  simp only [require_of (initialised_of_execution h hentry), require_of hsigned,
    getOrder_eq_ok.mpr hentry, require_of hstatus, require_of htime, require_of hlength,
    require_of hsha, ok_bind, hsettle]
  exact ⟨_, _, rfl⟩

/-- After the timelock anyone can refund a funded order. -/
theorem refundOrder_accepted (h : Execution (Step sha256 current) State.deployed records s)
    (hself : env.self = current) (hentry : s.orders id = some order)
    (hstatus : order.status = .funded) (htime : order.timelock < env.timestamp)
    (hsigned : caller ≠ env.self ∧ env.auth caller = true) :
    ∃ s' receipt, exec sha256 env s (.refundOrder id caller true true) = .ok (s', receipt) := by
  have hfunded := funded_of_execution h hentry hstatus
  obtain ⟨s₁, transfers, hsettle⟩ := settle_accepted env order.refundAddress caller hfunded
    (hself ▸ assetsForeign_of_execution h id order hentry)
    (covered_of_execution h id order hentry hstatus)
  unfold exec refundOrder requireInitialised requireAuth
  simp only [require_of (initialised_of_execution h hentry), require_of hsigned,
    getOrder_eq_ok.mpr hentry, require_of hstatus, require_of htime, ok_bind, hsettle]
  exact ⟨_, _, rfl⟩

/-! ## Emptying the contract -/

omit [DecidableEq Digest] in
/-- The funded order under an id, if there is one. -/
def State.fundedOrder (s : State Digest) (id : OrderId) : Option (Order Digest) :=
  (s.orders id).filter fun order => order.status = .funded

omit [DecidableEq Digest] in
theorem fundedOrder_eq_some :
    s.fundedOrder id = some order ↔ s.orders id = some order ∧ order.status = .funded := by
  unfold State.fundedOrder
  rw [Option.filter_eq_some_iff, decide_eq_true_eq]

omit [DecidableEq Digest] in
/-- The ids of the funded orders. -/
def State.fundedIds (s : State Digest) : Finset OrderId :=
  Finset.univ.filter fun id => (s.fundedOrder id).isSome

omit [DecidableEq Digest] in
theorem mem_fundedIds : id ∈ s.fundedIds ↔
    ∃ order, s.orders id = some order ∧ order.status = .funded := by
  simp only [State.fundedIds, Finset.mem_filter, Finset.mem_univ, true_and,
    Option.isSome_iff_exists, fundedOrder_eq_some]

omit [DecidableEq Digest] in
/-- The record refunds the order `id` of `s` for `caller`, and pays as the order says. -/
def RefundsIn (s : State Digest) (env : Env) (caller : Address) (id : OrderId)
    (record : Record Digest) : Prop :=
  ∃ order, s.orders id = some order ∧ record.settlement =
    some (id, ⟨caller, env.timestamp, .refund,
      order.payments env.self order.refundAddress caller⟩)

/-- What stays true while one order of `s` after the other is refunded. -/
structure Draining (sha256 : Bytes → Digest) (current : Address) (s : State Digest)
    (records : List (Record Digest)) (t : State Digest) : Prop where
  run : ∃ refunds, Execution (Step sha256 current) State.deployed (records ++ refunds) t ∧
    creations (records ++ refunds) = creations records ∧
    ∀ asset amount, .donation asset amount ∉ refunds
  same : ∀ id ∈ t.fundedIds, id ∈ s.fundedIds ∧ t.orders id = s.orders id

theorem Draining.refund {t : State Digest} (hself : env.self = current)
    (htime : ∀ id order, s.orders id = some order → order.status = .funded →
      order.timelock < env.timestamp)
    (hsigned : caller ≠ env.self ∧ env.auth caller = true)
    (ht : Draining sha256 current s records t) (hid : id ∈ t.fundedIds) :
    ∃ record t', Step sha256 current t record t' ∧ RefundsIn s env caller id record ∧
      Draining sha256 current s records t' ∧ t'.fundedIds = t.fundedIds.erase id := by
  obtain ⟨refunds, hrun, hcreations, hdonation⟩ := ht.run
  obtain ⟨-, hsame⟩ := ht.same id hid
  obtain ⟨order, hentry, hstatus⟩ := mem_fundedIds.mp hid
  have hentry' : s.orders id = some order := hsame.symm.trans hentry
  obtain ⟨t', receipt, hexec⟩ := refundOrder_accepted hrun hself hentry hstatus
    (htime id order hentry' hstatus) hsigned
  obtain ⟨order', hspec, -⟩ := refundOrder_eq_ok (inv_of_execution hrun) hexec
  obtain rfl : order = order' := Option.some.inj (hentry.symm.trans hspec.entry)
  obtain ⟨record, hrecord⟩ : ∃ record : Record Digest, record =
      .invocation env (.refundOrder id caller true true) (.ok receipt) := ⟨_, rfl⟩
  have hstep : Step sha256 current t record t' := hrecord ▸ .success hself hexec
  have hfundedIds : t'.fundedIds = t.fundedIds.erase id := by
    ext i
    rw [Finset.mem_erase, mem_fundedIds, mem_fundedIds, hspec.orders_eq]
    by_cases hi : i = id
    · subst hi
      simp [Order.refundedAt]
    · simp [hi]
  refine ⟨record, t', hstep, ⟨order, hentry', ?_⟩, ⟨⟨refunds ++ [record], ?_, ?_, ?_⟩,
    fun i hi => ?_⟩, hfundedIds⟩
  · simp [hrecord, Record.settlement, hspec.transfers_eq]
  · rw [← List.append_assoc]
    exact .snoc hrun hstep
  · have hnone : record.creation = none := by rw [hrecord]; rfl
    rw [← List.append_assoc, creations, List.filterMap_append, ← creations, hcreations]
    simp [hnone]
  · intro asset amount hmem
    rcases List.mem_append.mp hmem with hmem | hmem
    · exact hdonation asset amount hmem
    · simp [hrecord] at hmem
  · rw [hfundedIds] at hi
    obtain ⟨hne, hi⟩ := Finset.mem_erase.mp hi
    rw [hspec.orders_eq, update_of_ne hne]
    exact ht.same i hi

/-- Once every timelock has passed, anyone can refund all funded orders, one call for each;
then the contract owes nothing and holds nothing of a closed asset. -/
theorem htlc_can_be_emptied (h : Execution (Step sha256 current) State.deployed records s)
    (hself : env.self = current)
    (htime : ∀ id order, s.orders id = some order → order.status = .funded →
      order.timelock < env.timestamp)
    (hsigned : caller ≠ env.self ∧ env.auth caller = true) :
    ∃ refunds t, Execution (Step sha256 current) s refunds t ∧
      refunds.length = s.fundedIds.card ∧
      (∀ record ∈ refunds, ∃ id ∈ s.fundedIds, RefundsIn s env caller id record) ∧
      (∀ id ∈ s.fundedIds, ∃ record ∈ refunds, RefundsIn s env caller id record) ∧
      (∀ id order, t.orders id = some order → order.status ≠ .funded) ∧
      (∀ asset, t.owed asset = 0) ∧
      ∀ asset, Closed current asset records → t.balance asset = 0 := by
  have hstart : Draining sha256 current s records s :=
    ⟨⟨[], by simpa using h, by simp, by simp⟩, fun id hid => ⟨hid, rfl⟩⟩
  have hrefund {u : State Digest} {id : OrderId} (hu : Draining sha256 current s records u)
      (hid : id ∈ u.fundedIds) : ∃ record v, Step sha256 current u record v ∧
        RefundsIn s env caller id record ∧ Draining sha256 current s records v ∧
        v.fundedIds = u.fundedIds.erase id :=
    hu.refund hself htime hsigned hid
  obtain ⟨refunds, t, hrun, hdone, hnone, hlength, hall, hevery⟩ :=
    Execution.drain hrefund hstart
  have hunfunded (id : OrderId) (order : Order Digest) (hentry : t.orders id = some order) :
      order.status ≠ .funded := by
    intro hstatus
    have hid : id ∈ t.fundedIds := mem_fundedIds.mpr ⟨order, hentry, hstatus⟩
    rw [hnone] at hid
    exact absurd hid (Finset.notMem_empty id)
  have howed (asset : Address) : t.owed asset = 0 := by
    refine Finset.sum_eq_zero fun id _ => ?_
    cases hentry : t.orders id with
    | none => rfl
    | some order => simp [hunfunded id order hentry]
  refine ⟨refunds, t, hrun, hlength, hall, hevery, hunfunded, howed, fun asset hclosed => ?_⟩
  obtain ⟨past, hpast, hcreations, hdonation⟩ := hdone.run
  have hstill : Closed current asset (records ++ past) := by
    refine ⟨fun amount hmem => ?_, ?_⟩
    · rcases List.mem_append.mp hmem with hmem | hmem
      · exact hclosed.no_donation amount hmem
      · exact hdonation asset amount hmem
    · rw [hcreations]
      exact hclosed.no_self
  rw [(htlc_spec hpast).exact asset hstill, howed]

/-- The order of one stroop is created a second time. -/
def twoStroops : List (Record Bytes) :=
  stroopRecords [3] ++ [.invocation ledger (.createOrder (stroopOrder [3]) true)
    (.ok ⟨some (.created 2 3 [3] 2 6 1 0 300), [⟨6, 2, 1, 1⟩]⟩)]

/-- It is stored under the ids 1 and 2, and nothing else is. -/
theorem twoStroops_run : ∃ s : State Bytes,
    Execution (Step (List.cons 1) 1) State.deployed twoStroops s ∧
      s.orders = update (update (fun _ => none) 1 (some ((stroopOrder [3]).order 1 0))) 2
        (some ((stroopOrder [3]).order 2 0)) :=
  ⟨_, .cons (.success rfl rfl) (.cons (.success rfl rfl) (.single (.success rfl rfl))), rfl⟩

/-- The asset of the two orders came through them only. -/
theorem twoStroops_closed : Closed 1 6 twoStroops where
  no_donation amount hmem := by simp [twoStroops, stroopRecords] at hmem
  no_self := by decide

/-- The ledger after the timelock of these orders. -/
def lateLedger : Env := { ledger with timestamp := 301 }

theorem stroop_can_be_emptied : ∃ (s : State Bytes) (refunds : List (Record Bytes))
    (t : State Bytes), Execution (Step (List.cons 1) 1) State.deployed twoStroops s ∧
    Execution (Step (List.cons 1) 1) s refunds t ∧ s.fundedIds = {1, 2} ∧ refunds.length = 2 ∧
      t.owed 6 = 0 ∧ t.balance 6 = 0 := by
  obtain ⟨s, hrun, horders⟩ := twoStroops_run
  have hstored (id : OrderId) (order : Order Bytes) : s.orders id = some order ↔
      (id = 1 ∨ id = 2) ∧ order = (stroopOrder [3]).order id 0 := by
    rw [horders]
    by_cases htwo : id = 2
    · subst htwo
      simp [eq_comm]
    · rw [update_of_ne htwo]
      by_cases hone : id = 1
      · subst hone
        simp [eq_comm]
      · simp [hone, htwo]
  have hids : s.fundedIds = {1, 2} := by
    ext id
    rw [mem_fundedIds, Finset.mem_insert, Finset.mem_singleton]
    constructor
    · rintro ⟨order, hentry, -⟩
      exact ((hstored id order).mp hentry).1
    · intro hid
      exact ⟨_, (hstored id _).mpr ⟨hid, rfl⟩, rfl⟩
  have htime (id : OrderId) (order : Order Bytes) (hentry : s.orders id = some order) :
      order.timelock < lateLedger.timestamp := by
    rw [((hstored id order).mp hentry).2]
    exact (by decide : 300 < 301)
  have hsigned : (5 : Address) ≠ lateLedger.self ∧ lateLedger.auth 5 = true := by decide
  obtain ⟨refunds, t, hdrain, hlength, -, -, -, howed, hempty⟩ := htlc_can_be_emptied hrun rfl
    (fun id order hentry _ => htime id order hentry) hsigned
  rw [hids] at hlength
  exact ⟨s, refunds, t, hrun, hdrain, hids, hlength, howed 6, hempty 6 twoStroops_closed⟩

end OverSync.SorobanHtlc
