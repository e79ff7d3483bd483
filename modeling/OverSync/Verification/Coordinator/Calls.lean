import OverSync.Model.Coordinator.Listeners
import OverSync.Verification.Coordinator.Semantics

/-! # What the entry points of the coordinator do to the order book

Announcements add one order; reveals, live events and settlement events are followed down to
the edits they make. -/

namespace OverSync.Coordinator

open Library Library.Procedure

variable {D : Deployment} {cond : Conditions} {db db' : Database} {α : Type}

/-! ## Rules -/

theorem leaves_tryCatch {Q : List StoredOrder → Prop} {p : Task α}
    {handler : CoordinatorError → Task α} (hp : Leaves cond p db Q)
    (hhandler : ∀ e db', Q db'.orders → Leaves cond (handler e) db' Q) :
    Leaves cond (tryCatch p handler) db Q := by
  unfold Leaves at *
  rw [run_tryCatch]
  cases hrun : run (exec cond) p db with
  | mk r db' =>
      rw [hrun] at hp
      cases r with
      | ok a => exact hp
      | error e => exact hhandler e db' hp

theorem leaves_bind_pure {β : Type} {Q : List StoredOrder → Prop} {p : Task α} {f : α → β}
    (h : Leaves cond p db Q) : Leaves cond (p >>= fun a => pure (f a)) db Q := by
  apply leaves_bind
  intro r db' hrun
  have hdb' : Q db'.orders := by
    unfold Leaves at h
    rwa [hrun] at h
  cases r with
  | ok a => exact leaves_pure hdb'
  | error e => exact hdb'

/-! ## Looking orders up -/

def findSrc (orders : List StoredOrder) (chain : Chain) (orderId : String) : Option OrderRow :=
  findRow orders fun row => row.srcChain = chain && row.srcOrderId = some orderId

def findDst (orders : List StoredOrder) (chain : Chain) (orderId : String) : Option OrderRow :=
  findRow orders fun row => row.dstChain = chain && row.dstOrderId = some orderId

def findHashlock (orders : List StoredOrder) (hashlock : String) : Option OrderRow :=
  findRow orders fun row => row.hashlock = hashlock

theorem orElse_eq_some {first second : Option α} {a : α} :
    (first <|> second) = some a ↔ first = some a ∨ first = none ∧ second = some a := by
  simp

/-- The order a settlement event is about. -/
def findSettled (orders : List StoredOrder) (ev : SettlementEvent) : Option OrderRow :=
  findSrc orders (orderChain ev.chain) ev.onchainOrderId <|>
    findDst orders (orderChain ev.chain) ev.onchainOrderId

/-- The order a live claim or refund is about. -/
def resolve (D : Deployment) (orders : List StoredOrder) (event : BridgeOrderEvent) :
    Option OrderRow :=
  ((truthy event.orderId).bind fun orderId =>
      findSrc orders event.chain orderId <|> findDst orders event.chain orderId) <|>
    (truthy event.hashlock).bind fun hashlock => findHashlock orders (D.toLowerCase hashlock)

section Finders

variable {β : Type} {Q : List StoredOrder → Prop} {f : Option OrderRow → Task β}

theorem leaves_findByHashlock {hashlock : String} (hfail : Q db.orders)
    (hnext : ∀ db', db'.orders = db.orders →
      Leaves cond (f (findHashlock db.orders hashlock)) db' Q) :
    Leaves cond (OrdersRepository.findByHashlock hashlock >>= f) db Q := by
  apply leaves_query (.byHashlock hashlock) trivial hfail
  rintro r db' horders ⟨now, hr⟩
  obtain rfl := Option.some.inj hr
  exact hnext db' horders

theorem leaves_findBySrcOrderId {chain : Chain} {orderId : String} (hfail : Q db.orders)
    (hnext : ∀ db', db'.orders = db.orders →
      Leaves cond (f (findSrc db.orders chain orderId)) db' Q) :
    Leaves cond (OrdersRepository.findBySrcOrderId chain orderId >>= f) db Q := by
  apply leaves_query (.bySrcOrderId chain orderId) trivial hfail
  rintro r db' horders ⟨now, hr⟩
  obtain rfl := Option.some.inj hr
  exact hnext db' horders

theorem leaves_findByDstOrderId {chain : Chain} {orderId : String} (hfail : Q db.orders)
    (hnext : ∀ db', db'.orders = db.orders →
      Leaves cond (f (findDst db.orders chain orderId)) db' Q) :
    Leaves cond (OrdersRepository.findByDstOrderId chain orderId >>= f) db Q := by
  apply leaves_query (.byDstOrderId chain orderId) trivial hfail
  rintro r db' horders ⟨now, hr⟩
  obtain rfl := Option.some.inj hr
  exact hnext db' horders

theorem leaves_resolveByHashlock {event : BridgeOrderEvent} (hfail : Q db.orders)
    (hnext : ∀ db', db'.orders = db.orders →
      Leaves cond (f ((truthy event.hashlock).bind fun hashlock =>
        findHashlock db.orders (D.toLowerCase hashlock))) db' Q) :
    Leaves cond (OrderEventApplier.resolveByHashlock D event >>= f) db Q := by
  unfold OrderEventApplier.resolveByHashlock
  split
  · rename_i hnone
    have h := hnext db rfl
    rwa [hnone] at h
  · rename_i hashlock hsome
    apply leaves_findByHashlock hfail
    simpa [hsome] using hnext

theorem leaves_resolveOrder {event : BridgeOrderEvent} (hfail : Q db.orders)
    (hnext : ∀ db', db'.orders = db.orders → Leaves cond (f (resolve D db.orders event)) db' Q) :
    Leaves cond (OrderEventApplier.resolveOrder D event >>= f) db Q := by
  unfold OrderEventApplier.resolveOrder
  unfold resolve at hnext
  split
  · rename_i hnone
    apply leaves_resolveByHashlock hfail
    simpa [hnone] using hnext
  · rename_i orderId hsome
    rw [hsome, Option.bind_some] at hnext
    rw [bind_assoc]
    apply leaves_findBySrcOrderId hfail
    intro db₁ h₁
    cases hsrc : findSrc db.orders event.chain orderId with
    | some order =>
        rw [hsrc] at hnext
        exact hnext db₁ h₁
    | none =>
        rw [hsrc] at hnext
        rw [← h₁] at hfail hnext
        simp only [bind_assoc]
        apply leaves_findByDstOrderId hfail
        intro db₂ h₂
        cases hdst : findDst db₁.orders event.chain orderId with
        | some order =>
            rw [hdst] at hnext
            exact hnext db₂ h₂
        | none =>
            rw [hdst, ← h₂] at hnext
            rw [← h₂] at hfail
            exact leaves_resolveByHashlock hfail hnext

theorem leaves_findOrder {ev : SettlementEvent} (hfail : Q db.orders)
    (hnext : ∀ db', db'.orders = db.orders → Leaves cond (f (findSettled db.orders ev)) db' Q) :
    Leaves cond (ChainEventProcessor.findOrder ev >>= f) db Q := by
  unfold ChainEventProcessor.findOrder
  unfold findSettled at hnext
  rw [bind_assoc]
  apply leaves_findBySrcOrderId hfail
  intro db₁ h₁
  cases hsrc : findSrc db.orders (orderChain ev.chain) ev.onchainOrderId with
  | some order =>
      rw [hsrc] at hnext
      exact hnext db₁ h₁
  | none =>
      rw [hsrc] at hnext
      rw [← h₁] at hfail hnext
      exact leaves_findByDstOrderId hfail hnext

end Finders

/-! ## Announcements -/

/-- The orders are as before, or one announced order with a fresh hashlock and a fresh public
id follows them. -/
inductive Announced (D : Deployment) (publicId : String) (input : AnnounceOrderInput)
    (orders : List StoredOrder) : List StoredOrder → Prop where
  | same : Announced D publicId input orders orders
  | added (id now : ℕ) : OrderService.validateAnnouncement input = .ok () →
      findHashlock orders (D.toLowerCase input.hashlock) = none →
      findId orders publicId = none →
      Announced D publicId input orders (orders ++
        [{ toOrderRow :=
            { input with hashlock := D.toLowerCase input.hashlock }.row id publicId
           createdAt := now
           updatedAt := now }])

theorem exec_insertOrder (publicId : String) (input : AnnounceOrderInput) :
    (exec cond (.insertOrder publicId input) db).2.orders = db.orders ∨
      findId db.orders publicId = none ∧ ∃ id now,
        (exec cond (.insertOrder publicId input) db).2.orders =
          db.orders ++ [{ toOrderRow := input.row id publicId, createdAt := now, updatedAt := now }] := by
  by_cases hfails : cond.fails db.executed = true
  · simp [exec, hfails]
  · cases hid : db.byPublicId publicId with
    | some order => simp [exec, perform, hfails, hid]
    | none =>
        refine .inr ⟨hid, db.lastOrderId + 1, cond.clock db.executed, ?_⟩
        simp [exec, perform, hfails, hid]

theorem findId_eq_none {orders : List StoredOrder} {publicId : String} :
    findId orders publicId = none ↔ ∀ stored ∈ orders, stored.publicId ≠ publicId := by
  simp [findId, findRow]

theorem findId_mem {orders : List StoredOrder} (hunique : UniqueIds orders) {stored : StoredOrder}
    (hmem : stored ∈ orders) : findId orders stored.publicId = some stored.toOrderRow := by
  cases hfind : findId orders stored.publicId with
  | none => exact absurd rfl (findId_eq_none.mp hfind stored hmem)
  | some order => rw [findId_unique hunique hfind hmem rfl]

theorem Announced.uniqueIds {publicId : String} {input : AnnounceOrderInput}
    {orders orders' : List StoredOrder} (h : Announced D publicId input orders orders')
    (hunique : UniqueIds orders) : UniqueIds orders' := by
  cases h with
  | same => exact hunique
  | added id now _ _ hid =>
      have hfresh : publicId ∉ orders.map (·.publicId) := by
        simpa using findId_eq_none.mp hid
      unfold UniqueIds
      rw [List.map_append, List.map_singleton, ← List.concat_eq_append]
      exact hunique.concat hfresh

theorem Announced.rows {publicId : String} {input : AnnounceOrderInput}
    {orders orders' : List StoredOrder} {P : OrderRow → Prop}
    (h : Announced D publicId input orders orders') (hP : ∀ stored ∈ orders, P stored.toOrderRow)
    (hnew : ∀ (input : AnnounceOrderInput) id, P (input.row id publicId)) :
    ∀ stored ∈ orders', P stored.toOrderRow := by
  cases h with
  | same => exact hP
  | added id now _ _ _ =>
      intro stored hmem
      rcases List.mem_append.mp hmem with hold | hadded
      · exact hP stored hold
      · obtain rfl := List.mem_singleton.mp hadded
        exact hnew _ id

variable (cond) (db)

theorem announce_announced (quoteGate : Except CoordinatorError Unit) (publicId : String)
    (input : AnnounceOrderInput) :
    Leaves cond (OrderService.announce D quoteGate publicId input) db
      (Announced D publicId input db.orders) := by
  apply leaves_ofExcept .same
  intro _ hvalid
  apply leaves_ofExcept .same
  intro _ _
  apply leaves_findByHashlock .same
  intro db₁ h₁
  split
  · apply leaves_throw
    rw [h₁]
    exact .same
  · rename_i hfresh
    apply leaves_bind
    intro r db₂ hrun
    have h₂ : Announced D publicId input db.orders db₂.orders := by
      have hdb₂ : (run (exec cond) (query (.insertOrder publicId
        { input with hashlock := D.toLowerCase input.hashlock })) db₁).2 = db₂ :=
        congrArg Prod.snd hrun
      rw [← hdb₂, run_query_snd]
      rcases exec_insertOrder publicId _ with hsame | ⟨hid, id, now, hadded⟩
      · rw [hsame, h₁]
        exact .same
      · rw [hadded, h₁]
        exact .added id now hvalid hfresh (by rwa [h₁] at hid)
    cases r with
    | error _ => exact h₂
    | ok _ =>
        apply leaves_findByPublicId h₂
        intro db₃ h₃
        split
        · apply leaves_throw
          rwa [h₃]
        · apply leaves_bind_pure
          unfold Leaves
          rw [recordTransition_orders, h₃]
          exact h₂

/-! ## Reveals -/

theorem reveal_edited (nowSec : ℤ) (publicId preimage txHash : String) :
    Leaves cond (SecretService.reveal D nowSec publicId preimage txHash) db
      (Edited (.secret publicId (D.toLowerCase preimage) txHash)
        (fun order => matchesKnownOrders D order (D.toLowerCase preimage) = .ok true)
        db.orders) := by
  apply leaves_ofExcept .same
  intro _ _
  apply leaves_findByPublicId .same
  intro db₁ h₁
  rw [← h₁]
  split
  · exact leaves_throw .same
  · rename_i order hfind
    apply leaves_ofExcept .same
    intro known hknown
    split
    · rename_i htrue
      subst htrue
      split
      · split
        · exact leaves_pure .same
        · exact leaves_throw .same
      · refine leaves_select (by trivial) .same ?_
        intro existing db₂ h₂
        rw [← h₂] at hfind ⊢
        split
        · exact leaves_throw .same
        · apply leaves_ofExcept .same
          intro _ _
          have hsecret := recordSecret_edited cond db₂ (D := D) publicId
            (D.toLowerCase preimage) txHash orderServiceWriter
          rw [D.toLowerCase_idem] at hsecret
          refine Edited.mono hsecret ?_
          intro found hfound _
          have hsame : findId db₂.orders publicId = some found := hfound
          rw [hfind] at hsame
          obtain rfl := Option.some.inj hsame
          exact hknown
    · exact leaves_throw .same

/-! ## Live events -/

/-- What an event applied live does to the orders. -/
inductive LiveChange (D : Deployment) (event : BridgeOrderEvent) (orders : List StoredOrder) :
    List StoredOrder → Prop where
  | same : LiveChange D event orders orders
  | srcLock {orders' hashlock order} (lock : SrcLock) :
      truthy (event.hashlock.map D.toLowerCase) = some hashlock →
      findHashlock orders hashlock = some order → event.chain = order.srcChain →
      lock.publicId = order.publicId →
      Edited (.srcLock lock) (lock.Guarded D) orders orders' → LiveChange D event orders orders'
  | dstLock {orders' hashlock order} (lock : DstLock) :
      truthy (event.hashlock.map D.toLowerCase) = some hashlock →
      findHashlock orders hashlock = some order → event.chain ≠ order.srcChain →
      lock.publicId = order.publicId →
      Edited (.dstLock lock) (lock.Guarded D) orders orders' → LiveChange D event orders orders'
  | claim {mid orders' order preimage} : event.kind = .claim →
      resolve D orders event = some order →
      truthy (event.preimage.map D.toLowerCase) = some preimage →
      Edited (.secret order.publicId preimage event.txHash)
        (fun found => findId orders order.publicId = some found) orders mid →
      Edited (.status order.publicId .completed) (fun _ => True) mid orders' →
      LiveChange D event orders orders'
  | settle {orders' order} (value : OrderStatus) : resolve D orders event = some order →
      Edited (.status order.publicId value) (fun _ => True) orders orders' →
      LiveChange D event orders orders'

theorem applyLock_change (writer : String) (event : BridgeOrderEvent) :
    Leaves cond (OrderEventApplier.applyLock D writer event) db
      (LiveChange D event db.orders) := by
  unfold OrderEventApplier.applyLock
  split
  · exact leaves_pure .same
  · rename_i hashlock hhashlock
    apply leaves_findByHashlock .same
    intro db₁ h₁
    rw [← h₁]
    split
    · exact leaves_pure .same
    · rename_i order hfind
      split
      · exact leaves_pure .same
      · exact leaves_pure .same
      · rename_i timelock orderId _ _
        split
        · rename_i hchain
          apply leaves_bind_pure
          exact .srcLock _ hhashlock hfind hchain rfl (recordSrcLock_edited cond db₁ _ writer)
        · rename_i hchain
          apply leaves_bind_pure
          exact .dstLock _ hhashlock hfind hchain rfl (recordDstLock_edited cond db₁ _ writer)

theorem applyClaim_change (writer : String) (event : BridgeOrderEvent)
    (hkind : event.kind = .claim) :
    Leaves cond (OrderEventApplier.applyClaim D writer event) db
      (LiveChange D event db.orders) := by
  apply leaves_resolveOrder .same
  intro db₁ h₁
  rw [← h₁]
  split
  · exact leaves_pure .same
  · rename_i order hresolve
    split
    · apply leaves_bind_pure
      exact .settle .completed hresolve (recordClaim_edited cond db₁ _ _ writer)
    · rename_i preimage hpreimage
      have hcanonical : D.toLowerCase preimage = preimage := by
        cases hevent : event.preimage with
        | none => simp [truthy, hevent] at hpreimage
        | some given =>
            obtain ⟨h, -⟩ := Option.filter_eq_some_iff.mp (by rw [hevent] at hpreimage; exact hpreimage)
            obtain rfl := Option.some.inj h
            exact D.toLowerCase_idem given
      split
      · apply leaves_bind
        intro r db₂ hrun
        have hsecret := recordSecret_edited cond db₁ (D := D) order.publicId preimage event.txHash
          writer
        rw [hcanonical] at hsecret
        unfold Leaves at hsecret
        rw [hrun] at hsecret
        cases r with
        | error _ => exact .claim hkind hresolve hpreimage hsecret .same
        | ok _ =>
            apply leaves_bind_pure
            exact .claim hkind hresolve hpreimage hsecret (recordClaim_edited cond db₂ _ _ writer)
      · apply leaves_bind_pure
        exact .settle .completed hresolve (recordClaim_edited cond db₁ _ _ writer)

theorem applyRefund_change (writer : String) (event : BridgeOrderEvent) :
    Leaves cond (OrderEventApplier.applyRefund D writer event) db
      (LiveChange D event db.orders) := by
  apply leaves_resolveOrder .same
  intro db₁ h₁
  rw [← h₁]
  split
  · exact leaves_pure .same
  · rename_i order hresolve
    apply leaves_bind_pure
    exact .settle .refunded hresolve (recordRefund_edited cond db₁ _ _ writer)

theorem apply_change (writer : String) (event : BridgeOrderEvent) :
    Leaves cond (OrderEventApplier.apply D writer event) db (LiveChange D event db.orders) := by
  apply leaves_tryCatch
  · cases hkind : event.kind with
    | lock => exact applyLock_change cond db writer event
    | claim => exact applyClaim_change cond db writer event hkind
    | refund => exact applyRefund_change cond db writer event
  · intro e db' h
    exact leaves_pure h

/-! ## Settlement events -/

/-- What a processed settlement event does to the orders. -/
inductive SettledChange (D : Deployment) (ev : SettlementEvent) (orders : List StoredOrder) :
    List StoredOrder → Prop where
  | same : SettledChange D ev orders orders
  | refunded {orders' order} : findSettled orders ev = some order →
      Edited (.status order.publicId .refunded) (fun _ => True) orders orders' →
      SettledChange D ev orders orders'
  | revealed {orders' order preimage} : findSettled orders ev = some order →
      truthy ev.preimage = some preimage →
      Edited (.secret order.publicId (D.toLowerCase preimage) ev.txHash)
        (fun found => matchesKnownOrders D found (D.toLowerCase preimage) = .ok true)
        orders orders' →
      SettledChange D ev orders orders'

theorem settle_change {order : OrderRow} (nowSec : ℤ) (ev : SettlementEvent)
    (hfind : findSettled db.orders ev = some order) :
    Leaves cond (ChainEventProcessor.settle D nowSec ev order) db
      (SettledChange D ev db.orders) := by
  unfold ChainEventProcessor.settle
  split
  · split
    · exact leaves_pure .same
    · apply leaves_bind_pure
      exact .refunded hfind (recordRefund_edited cond db _ _ _)
  · split
    · exact leaves_pure .same
    · rename_i preimage hpreimage
      split
      · exact leaves_pure .same
      · apply leaves_bind_pure
        exact .revealed hfind hpreimage (reveal_edited cond db nowSec _ preimage ev.txHash)

theorem processor_apply_change (nowSec : ℤ) (ev : SettlementEvent) :
    Leaves cond (ChainEventProcessor.apply D nowSec ev) db (SettledChange D ev db.orders) := by
  apply leaves_findOrder .same
  intro db₁ h₁
  rw [← h₁]
  split
  · exact leaves_pure .same
  · rename_i order hfind
    apply leaves_tryCatch (settle_change cond db₁ nowSec ev hfind)
    intro e db' h
    split
    · exact leaves_pure h
    · exact leaves_throw h

theorem process_change (nowSec : ℤ) (networkId : String) (ev : SettlementEvent) :
    Leaves cond (ChainEventProcessor.process D nowSec networkId ev) db
      (SettledChange D ev db.orders) := by
  refine leaves_select (by trivial) .same ?_
  intro seen db₁ h₁
  rw [← h₁]
  split
  · exact leaves_pure .same
  · apply leaves_bind
    intro r db₂ hrun
    have h₂ : SettledChange D ev db₁.orders db₂.orders := by
      have h := processor_apply_change cond db₁ (D := D) nowSec ev
      unfold Leaves at h
      rwa [hrun] at h
    cases r with
    | error _ => exact h₂
    | ok outcome =>
        refine leaves_select (by trivial) h₂ ?_
        intro _ db₃ h₃
        apply leaves_pure
        rwa [h₃]

/-! ## Calls of the order service -/

inductive OrderCall where
  | announce (quoteGate : Except CoordinatorError Unit) (publicId : String)
      (input : AnnounceOrderInput)
  | recordSrcLock (lock : SrcLock) (writer : String)
  | recordDstLock (lock : DstLock) (writer : String)
  | recordSecret (publicId preimage txHash writer : String)
  | recordClaim (publicId txHash writer : String)
  | recordRefund (publicId txHash writer : String)
  | markStatus (publicId : String) (status : OrderStatus) (writer : String)

/-- The call as a task; the order an announcement returns is dropped. -/
def OrderCall.task (D : Deployment) : OrderCall → Task Unit
  | announce quoteGate publicId input => do
    let _ ← OrderService.announce D quoteGate publicId input
    pure ()
  | recordSrcLock lock writer => OrderService.recordSrcLock D lock writer
  | recordDstLock lock writer => OrderService.recordDstLock D lock writer
  | recordSecret publicId preimage txHash writer =>
    OrderService.recordSecret D publicId preimage txHash writer
  | recordClaim publicId txHash writer => OrderService.recordClaim publicId txHash writer
  | recordRefund publicId txHash writer => OrderService.recordRefund publicId txHash writer
  | markStatus publicId status writer => OrderService.markStatus publicId status writer

/-- The database after the call. -/
def OrderCall.run (D : Deployment) (cond : Conditions) (call : OrderCall) (db : Database) :
    Database :=
  (Procedure.run (exec cond) (call.task D) db).2

/-- What a call does to the orders. -/
inductive OrderChange (D : Deployment) (orders : List StoredOrder) : List StoredOrder → Prop where
  | announced {publicId input orders'} : Announced D publicId input orders orders' →
      OrderChange D orders orders'
  | srcLock {lock orders'} : Edited (.srcLock lock) (lock.Guarded D) orders orders' →
      OrderChange D orders orders'
  | dstLock {lock orders'} : Edited (.dstLock lock) (lock.Guarded D) orders orders' →
      OrderChange D orders orders'
  | secret {publicId preimage txHash orders'} :
      Edited (.secret publicId preimage txHash) (fun _ => True) orders orders' →
      OrderChange D orders orders'
  | status {publicId value orders'} :
      Edited (.status publicId value) (fun _ => True) orders orders' → OrderChange D orders orders'

theorem orderCall_change (call : OrderCall) :
    OrderChange D db.orders (call.run D cond db).orders := by
  cases call with
  | announce quoteGate publicId input =>
      exact .announced (leaves_bind_pure (announce_announced cond db quoteGate publicId input))
  | recordSrcLock lock writer => exact .srcLock (recordSrcLock_edited cond db lock writer)
  | recordDstLock lock writer => exact .dstLock (recordDstLock_edited cond db lock writer)
  | recordSecret publicId preimage txHash writer =>
      exact .secret (Edited.mono (recordSecret_edited cond db publicId preimage txHash writer)
        fun _ _ _ => trivial)
  | recordClaim publicId txHash writer =>
      exact .status (recordClaim_edited cond db publicId txHash writer)
  | recordRefund publicId txHash writer =>
      exact .status (recordRefund_edited cond db publicId txHash writer)
  | markStatus publicId status writer =>
      exact .status (markStatus_edited cond db publicId status writer)

omit cond db in
theorem OrderChange.uniqueIds {orders orders' : List StoredOrder}
    (h : OrderChange D orders orders') (hunique : UniqueIds orders) : UniqueIds orders' := by
  cases h with
  | announced hadded => exact hadded.uniqueIds hunique
  | srcLock hedit => exact hedit.uniqueIds hunique
  | dstLock hedit => exact hedit.uniqueIds hunique
  | secret hedit => exact hedit.uniqueIds hunique
  | status hedit => exact hedit.uniqueIds hunique

end OverSync.Coordinator
