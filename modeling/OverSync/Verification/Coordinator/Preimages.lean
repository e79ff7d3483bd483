import OverSync.Verification.Coordinator.Calls

/-! # Preimages of the order book

A reveal stores a preimage only after the hash check. A live claim event stores the preimage
it carries without one. -/

namespace OverSync.Coordinator

open Library Library.Procedure

variable {D : Deployment} {cond : Conditions} {db db' : Database}

/-! ## The check of `reveal` -/

/-- The check that `reveal` makes before it stores a preimage: it opens the order's hashlock
under one of the recorded on-chain ids. -/
def Known (D : Deployment) (order : OrderRow) (preimage : String) : Prop :=
  ∃ orderId ∈ order.orderIds, ∃ id, decimalId orderId = some id ∧
    hashOrderPreimage D id preimage = .ok order.hashlock

instance (D : Deployment) (order : OrderRow) (preimage : String) :
    Decidable (Known D order preimage) :=
  decidable_of_iff
    (∃ orderId ∈ order.orderIds, (decimalId orderId).any fun id =>
      (hashOrderPreimage D id preimage).toOption = some order.hashlock) <| by
    unfold Known
    simp only [Option.any_eq_true, decide_eq_true_eq]
    refine exists_congr fun orderId => and_congr_right fun _ => exists_congr fun id =>
      and_congr_right fun _ => ?_
    cases hashOrderPreimage D id preimage <;> simp [Except.toOption]

theorem someOrderIdMatches_true {hashlock canonical : String} {orderIds : List String}
    (h : someOrderIdMatches D hashlock canonical orderIds = .ok true) :
    ∃ orderId ∈ orderIds, ∃ id, decimalId orderId = some id ∧
      hashOrderPreimage D id canonical = .ok hashlock := by
  induction orderIds with
  | nil => cases h
  | cons orderId orderIds ih =>
      have hlater (hrest : someOrderIdMatches D hashlock canonical orderIds = .ok true) :
          ∃ other ∈ orderId :: orderIds, ∃ id, decimalId other = some id ∧
            hashOrderPreimage D id canonical = .ok hashlock := by
        obtain ⟨other, hmem, hother⟩ := ih hrest
        exact ⟨other, List.mem_cons_of_mem _ hmem, hother⟩
      simp only [someOrderIdMatches] at h
      cases hid : decimalId orderId with
      | none =>
          rw [hid] at h
          exact hlater h
      | some id =>
          rw [hid] at h
          cases hhash : hashOrderPreimage D id canonical with
          | error e =>
              simp [hhash] at h
          | ok digest =>
              simp only [hhash] at h
              split at h
              · rename_i hdigest
                subst hdigest
                exact ⟨orderId, List.mem_cons_self, id, hid, hhash⟩
              · exact hlater h

theorem matchesKnownOrders_true {order : OrderRow} {canonical : String}
    (h : matchesKnownOrders D order canonical = .ok true) : Known D order canonical :=
  someOrderIdMatches_true h

/-! ## Rows -/

/-- The statuses of an order whose preimage has been stored. -/
def Revealed (status : OrderStatus) : Prop :=
  status = .secretRevealed ∨ status = .completed ∨ status = .refunded ∨ status = .failed

/-- A stored preimage passes the check, and no leg of its order can be recorded any more. -/
def RowSound (D : Deployment) (row : OrderRow) : Prop :=
  ∀ preimage, row.preimage = some preimage → Known D row preimage ∧ Revealed row.status

theorem RowSound.preimage_none {row : OrderRow} (h : RowSound D row)
    (hstatus : row.status = .announced ∨ row.status = .srcLocked ∨ row.status = .dstLocked) :
    row.preimage = none := by
  cases hpreimage : row.preimage with
  | none => rfl
  | some preimage =>
      have hrevealed := (h preimage hpreimage).2
      rcases hstatus with hs | hs | hs <;> rw [hs] at hrevealed <;> simp [Revealed] at hrevealed

theorem escrow_source {status : OrderStatus} (h : IsEdge status .srcLocked) :
    status = .announced := by
  revert h
  cases status <;> decide

theorem relay_source {status : OrderStatus} (h : IsEdge status .dstLocked) :
    status = .srcLocked := by
  revert h
  cases status <;> decide

theorem secret_source {status : OrderStatus} (h : IsEdge status .secretRevealed) :
    status = .srcLocked ∨ status = .dstLocked := by
  revert h
  cases status <;> decide

theorem Revealed.edge {«from» «to» : OrderStatus} (h : Revealed «from»)
    (hedge : IsEdge «from» «to») : Revealed «to» := by
  revert h hedge
  unfold Revealed
  cases «from» <;> cases «to» <;> decide

variable {orders orders' : List StoredOrder}

/-- All rows of the order book are sound and can be told apart. -/
structure BookSound (D : Deployment) (orders : List StoredOrder) : Prop where
  unique : UniqueIds orders
  rows : ∀ stored ∈ orders, RowSound D stored.toOrderRow

theorem BookSound.srcLock {lock : SrcLock} {Ok : OrderRow → Prop} (h : BookSound D orders)
    (hedit : Edited (.srcLock lock) Ok orders orders') : BookSound D orders' where
  unique := hedit.uniqueIds h.unique
  rows := by
    refine hedit.rows h.unique h.rows ?_
    intro order _ hedge _ hsound preimage hpreimage
    have hnone := hsound.preimage_none (.inl (escrow_source hedge))
    rw [show order.preimage = some preimage from hpreimage] at hnone
    cases hnone

theorem BookSound.dstLock {lock : DstLock} {Ok : OrderRow → Prop} (h : BookSound D orders)
    (hedit : Edited (.dstLock lock) Ok orders orders') : BookSound D orders' where
  unique := hedit.uniqueIds h.unique
  rows := by
    refine hedit.rows h.unique h.rows ?_
    intro order _ hedge _ hsound preimage hpreimage
    have hnone := hsound.preimage_none (.inr (.inl (relay_source hedge)))
    rw [show order.preimage = some preimage from hpreimage] at hnone
    cases hnone

theorem BookSound.status {publicId : String} {value : OrderStatus} {Ok : OrderRow → Prop}
    (h : BookSound D orders) (hedit : Edited (.status publicId value) Ok orders orders') :
    BookSound D orders' where
  unique := hedit.uniqueIds h.unique
  rows := by
    refine hedit.rows h.unique h.rows ?_
    intro order _ hedge _ hsound preimage hpreimage
    obtain ⟨hknown, hrevealed⟩ := hsound preimage hpreimage
    exact ⟨hknown, hrevealed.edge hedge⟩

/-- A preimage may be stored where it passes the check. -/
theorem BookSound.secret {publicId preimage txHash : String} {Ok : OrderRow → Prop}
    (h : BookSound D orders) (hedit : Edited (.secret publicId preimage txHash) Ok orders orders')
    (hknown : ∀ order, findId orders publicId = some order →
      order.status = .srcLocked ∨ order.status = .dstLocked → Ok order → Known D order preimage) :
    BookSound D orders' where
  unique := hedit.uniqueIds h.unique
  rows := by
    refine hedit.rows h.unique h.rows ?_
    intro order hfind hedge hok _ stored hstored
    obtain rfl := Option.some.inj hstored
    exact ⟨hknown order hfind (secret_source hedge) hok, .inl rfl⟩

theorem BookSound.announced {publicId : String} {input : AnnounceOrderInput}
    (h : BookSound D orders) (hadded : Announced D publicId input orders orders') :
    BookSound D orders' where
  unique := hadded.uniqueIds h.unique
  rows := hadded.rows h.rows fun _ _ preimage hpreimage => by cases hpreimage

/-! ## Runs -/

/-- The calls that reach the order book from outside. -/
inductive Inbound where
  | announce (quoteGate : Except CoordinatorError Unit) (publicId : String)
      (input : AnnounceOrderInput)
  | recordSrcLock (lock : SrcLock) (writer : String)
  | recordDstLock (lock : DstLock) (writer : String)
  | reveal (nowSec : ℤ) (publicId preimage txHash : String)
  | apply (writer : String) (event : BridgeOrderEvent)
  | process (nowSec : ℤ) (networkId : String) (ev : SettlementEvent)

/-- The database after a call. -/
def Inbound.run (D : Deployment) (cond : Conditions) : Inbound → Database → Database
  | announce quoteGate publicId input, db =>
    (Procedure.run (exec cond) (OrderService.announce D quoteGate publicId input) db).2
  | recordSrcLock lock writer, db =>
    (Procedure.run (exec cond) (OrderService.recordSrcLock D lock writer) db).2
  | recordDstLock lock writer, db =>
    (Procedure.run (exec cond) (OrderService.recordDstLock D lock writer) db).2
  | reveal nowSec publicId preimage txHash, db =>
    (Procedure.run (exec cond) (SecretService.reveal D nowSec publicId preimage txHash) db).2
  | apply writer event, db =>
    (Procedure.run (exec cond) (OrderEventApplier.apply D writer event) db).2
  | process nowSec networkId ev, db =>
    (Procedure.run (exec cond) (ChainEventProcessor.process D nowSec networkId ev) db).2

/-- A live claim event for an order that a secret can still be recorded for carries a preimage
that passes the check. -/
def ClaimChecked (D : Deployment) (orders : List StoredOrder) (event : BridgeOrderEvent) : Prop :=
  event.kind = .claim → ∀ order, resolve D orders event = some order →
    order.status = .srcLocked ∨ order.status = .dstLocked →
    ∀ preimage, truthy (event.preimage.map D.toLowerCase) = some preimage → Known D order preimage

instance (event : BridgeOrderEvent) : Decidable (ClaimChecked D orders event) :=
  inferInstanceAs (Decidable (_ → _))

def Inbound.Checked (D : Deployment) (db : Database) : Inbound → Prop
  | apply _ event => ClaimChecked D db.orders event
  | _ => True

instance : ∀ call : Inbound, Decidable (call.Checked D db)
  | .apply _ event => inferInstanceAs (Decidable (ClaimChecked D db.orders event))
  | .announce _ _ _ | .recordSrcLock _ _ | .recordDstLock _ _ | .reveal _ _ _ _
  | .process _ _ _ => .isTrue trivial

theorem resolve_mem {event : BridgeOrderEvent} {order : OrderRow}
    (h : resolve D orders event = some order) :
    ∃ stored ∈ orders, stored.toOrderRow = order := by
  have hmem {p : OrderRow → Bool} (hfind : findRow orders p = some order) :
      ∃ stored ∈ orders, stored.toOrderRow = order := by
    obtain ⟨stored, hstored, heq, _⟩ := findRow_mem hfind
    exact ⟨stored, hstored, heq⟩
  unfold resolve at h
  rcases orElse_eq_some.mp h with hid | ⟨_, hhashlock⟩
  · obtain ⟨orderId, _, hfound⟩ := Option.bind_eq_some_iff.mp hid
    rcases orElse_eq_some.mp hfound with hsrc | ⟨_, hdst⟩
    · exact hmem hsrc
    · exact hmem hdst
  · obtain ⟨hashlock, _, hfound⟩ := Option.bind_eq_some_iff.mp hhashlock
    exact hmem hfound

theorem BookSound.live {event : BridgeOrderEvent} (h : BookSound D orders)
    (hchecked : ClaimChecked D orders event) (hchange : LiveChange D event orders orders') :
    BookSound D orders' := by
  cases hchange with
  | same => exact h
  | srcLock lock _ _ _ _ hedit => exact h.srcLock hedit
  | dstLock lock _ _ _ _ hedit => exact h.dstLock hedit
  | settle value _ hedit => exact h.status hedit
  | @claim mid _ order preimage hkind hresolve hpreimage hsecret hclaim =>
      refine (h.secret hsecret ?_).status hclaim
      intro found hfind hstatus _
      obtain ⟨stored, hstored, rfl⟩ := resolve_mem hresolve
      obtain rfl := findId_unique h.unique hfind hstored rfl
      exact hchecked hkind _ hresolve hstatus preimage hpreimage

theorem BookSound.settled {ev : SettlementEvent} (h : BookSound D orders)
    (hchange : SettledChange D ev orders orders') : BookSound D orders' := by
  cases hchange with
  | same => exact h
  | refunded _ hedit => exact h.status hedit
  | revealed _ _ hedit => exact h.secret hedit fun _ _ _ hok => matchesKnownOrders_true hok

theorem inbound_sound (h : BookSound D db.orders) {call : Inbound}
    (hstep : CallStep (Inbound.run D cond) (Inbound.Checked D) db call db') : BookSound D db'.orders := by
  obtain ⟨hchecked, rfl⟩ := hstep
  cases call with
  | announce quoteGate publicId input =>
      exact h.announced (announce_announced cond db quoteGate publicId input)
  | recordSrcLock lock writer => exact h.srcLock (recordSrcLock_edited cond db lock writer)
  | recordDstLock lock writer => exact h.dstLock (recordDstLock_edited cond db lock writer)
  | reveal nowSec publicId preimage txHash =>
      exact h.secret (reveal_edited cond db nowSec publicId preimage txHash)
        fun _ _ _ hok => matchesKnownOrders_true hok
  | apply writer event => exact h.live hchecked (apply_change cond db writer event)
  | process nowSec networkId ev => exact h.settled (process_change cond db nowSec networkId ev)

/-- In every run whose live claims carry checked preimages, every stored preimage passes the
check of `reveal`. -/
theorem preimages_sound {calls : List Inbound}
    (h : Execution (CallStep (Inbound.run D cond) (Inbound.Checked D)) .empty calls db) :
    ∀ stored ∈ db.orders, ∀ preimage, stored.preimage = some preimage →
      Known D stored.toOrderRow preimage := by
  have hempty : BookSound D Database.empty.orders := ⟨List.nodup_nil, by simp [Database.empty]⟩
  have hsound : BookSound D db.orders := h.invariant hempty fun hu hstep => inbound_sound hu hstep
  intro stored hmem preimage hpreimage
  exact (hsound.rows stored hmem preimage hpreimage).1

/-! ## Order 7 -/

def preimage7 : String := "0x1111111111111111111111111111111111111111111111111111111111111111"
def otherPreimage7 : String := "0x2222222222222222222222222222222222222222222222222222222222222222"
def hashlock7 : String := "0x12b1210cc9e254b716fbfe32783159f4022cac4461d3e48db9b2f6daaa89ce2d"

/-- A deployment with the digests of order id 7 with `preimage7` and `otherPreimage7`; all
strings are in lower case. -/
def deployment7 : Deployment where
  sha256 bytes :=
    if bytes = toBigEndian 32 7 ++ List.replicate 32 0x11 then hashlock7
    else if bytes = toBigEndian 32 7 ++ List.replicate 32 0x22 then
      "0xa0ecb70d7d18c30c47f27c54e5c3982764545389a2063531e9126711f1d9abfe"
    else ""
  toLowerCase s := s
  toLowerCase_idem _ := rfl
  minGapSeconds := 600

/-- No statement fails and the clock stands still. -/
def calm7 : Conditions := .calm fun _ => 1700000000

def input7 : AnnounceOrderInput where
  direction := .ethToXlm
  hashlock := hashlock7
  srcChain := .ethereum
  srcAddress := "0x00000000000000000000000000000000000000aa"
  srcAsset := "native"
  srcAmount := "1000"
  srcSafetyDeposit := "1"
  dstChain := .stellar
  dstAddress := "GAAAAAAAAAAAAAAAAAAAAAAAAAAAAAAAAAAAAAAAAAAAAAAAAAAAAAAA"
  dstAsset := "native"
  dstAmount := "5000"

/-- The order announced as `a1` and locked on Ethereum as order 7. -/
def locked7 : List Inbound :=
  [.announce (.ok ()) "a1" input7,
    .recordSrcLock ⟨"a1", "7", "0xaa", 100, 1700010000⟩ "order-service"]

/-- A live `OrderClaimed` event of order 7. -/
def claim7 (preimage : String) : BridgeOrderEvent :=
  EthereumListener.settlementEvent .claimed ⟨7, some preimage, "0xbb", 3, 101⟩

theorem preimages_sound_claim7 :
    let db := runAll (Inbound.run deployment7 calm7)
      (locked7 ++ [.apply "ethereum-listener" (claim7 preimage7)]) .empty
    (db.orders.map (·.preimage) = [some preimage7]) ∧
      ∀ stored ∈ db.orders, ∀ preimage, stored.preimage = some preimage →
        Known deployment7 stored.toOrderRow preimage :=
  ⟨by decide, preimages_sound (AllOk.execution (by decide +kernel))⟩

/-- A live claim event stores a preimage that does not open the hashlock. -/
theorem unchecked_preimage_stored :
    ¬ ∀ D cond calls db,
      Execution (CallStep (Inbound.run D cond) fun _ _ => True) Database.empty calls db →
      ∀ stored ∈ db.orders, ∀ preimage, stored.preimage = some preimage →
        Known D stored.toOrderRow preimage := by
  intro h
  have hrun := h deployment7 calm7 _ _
    (runAll_execution (locked7 ++ [.apply "ethereum-listener" (claim7 otherPreimage7)]) _)
  revert hrun
  decide

end OverSync.Coordinator
