import OverSync.Verification.Coordinator.History

/-! # Which leg an Ethereum lock is recorded on

The live watcher compares the chain of the lock with the source chain of the order. Catching up
records every lock on the source leg. -/

namespace OverSync.Coordinator

open Library Library.Procedure

variable {D : Deployment} {cond : Conditions} {db : Database} {orders orders' : List StoredOrder}

/-! ## Legs -/

structure Leg where
  orderId : Option String
  lockTx : Option String
  lockBlock : Option ℤ
  timelock : Option ℤ
  deriving DecidableEq

def OrderRow.srcLeg (row : OrderRow) : Leg where
  orderId := row.srcOrderId
  lockTx := row.srcLockTx
  lockBlock := row.srcLockBlock
  timelock := row.srcTimelock

def OrderRow.dstLeg (row : OrderRow) : Leg where
  orderId := row.dstOrderId
  lockTx := row.dstLockTx
  lockBlock := row.dstLockBlock
  timelock := row.dstTimelock

/-- An announced order has one leg on each chain, and no leg is recorded before a status. -/
structure Announceable (row : OrderRow) : Prop where
  chains : row.srcChain = .ethereum ∧ row.dstChain = .stellar ∨
    row.srcChain = .stellar ∧ row.dstChain = .ethereum
  unlocked : row.status = .announced → row.srcOrderId = none ∧ row.dstTimelock = none

structure AnnouncedBook (orders : List StoredOrder) : Prop where
  unique : UniqueIds orders
  rows : ∀ stored ∈ orders, Announceable stored.toOrderRow

theorem not_isEdge_announced (status : OrderStatus) : ¬ IsEdge status .announced := by
  cases status <;> decide

theorem Announceable.edit {row : OrderRow} {edit : Edit} (h : Announceable row)
    (hedge : IsEdge row.status edit.target) : Announceable (edit.set row) where
  chains := by
    cases edit <;> exact h.chains
  unlocked hstatus := by
    rw [Edit.set_status hedge] at hstatus
    rw [hstatus] at hedge
    exact absurd hedge (not_isEdge_announced _)

theorem AnnouncedBook.edited {edit : Edit} {Ok : OrderRow → Prop} (h : AnnouncedBook orders)
    (hedit : Edited edit Ok orders orders') : AnnouncedBook orders' where
  unique := hedit.uniqueIds h.unique
  rows := hedit.rows h.unique h.rows fun _ _ hedge _ hrow => hrow.edit hedge

theorem validateAnnouncement_chains {input : AnnounceOrderInput}
    (h : OrderService.validateAnnouncement input = .ok ()) :
    input.srcChain = .ethereum ∧ input.dstChain = .stellar ∨
      input.srcChain = .stellar ∧ input.dstChain = .ethereum := by
  have hdirection : OrderService.validateDirectionAgainstChains input = .ok () := by
    unfold OrderService.validateAnnouncement at h
    cases hresult : OrderService.validateDirectionAgainstChains input with
    | ok _ => rfl
    | error e =>
        rw [hresult] at h
        cases h
  unfold OrderService.validateDirectionAgainstChains at hdirection
  cases hinput : input.direction with
  | ethToXlm =>
      simp only [hinput] at hdirection
      split at hdirection
      · rename_i hchains
        exact .inl ⟨hchains.1.symm, hchains.2.symm⟩
      · cases hdirection
  | xlmToEth =>
      simp only [hinput] at hdirection
      split at hdirection
      · rename_i hchains
        exact .inr ⟨hchains.1.symm, hchains.2.symm⟩
      · cases hdirection

theorem OrderChange.announcedBook (hchange : OrderChange D orders orders')
    (h : AnnouncedBook orders) : AnnouncedBook orders' := by
  cases hchange with
  | srcLock hedit => exact h.edited hedit
  | dstLock hedit => exact h.edited hedit
  | secret hedit => exact h.edited hedit
  | status hedit => exact h.edited hedit
  | announced hadded =>
      refine ⟨hadded.uniqueIds h.unique, ?_⟩
      cases hadded with
      | same => exact h.rows
      | added id now hvalid _ _ =>
          intro stored hmem
          rcases List.mem_append.mp hmem with hold | hnew
          · exact h.rows stored hold
          · obtain rfl := List.mem_singleton.mp hnew
            exact ⟨validateAnnouncement_chains hvalid, fun _ => ⟨rfl, rfl⟩⟩

/-- The book of every run of the order service. -/
theorem announcedBook_run {calls : List OrderCall}
    (h : Execution (CallStep (OrderCall.run D cond) fun _ _ => True) .empty calls db) :
    AnnouncedBook db.orders := by
  have hempty : AnnouncedBook Database.empty.orders := ⟨List.nodup_nil, by simp [Database.empty]⟩
  exact h.invariant (P := fun db => AnnouncedBook db.orders) hempty fun {u call v} hu hstep => by
    rw [hstep.2]
    exact (orderCall_change cond u call).announcedBook hu

/-! ## The two paths -/

inductive CreatedPath where
  | live
  | catchUp
  deriving DecidableEq

/-- The database after an `OrderCreated` log has been handled. -/
def CreatedPath.run (D : Deployment) (cond : Conditions) (log : CreatedLog) :
    CreatedPath → Database → Database
  | live, db =>
    (Procedure.run (exec cond) (EthereumListener.handle D (EthereumListener.createdEvent log)) db).2
  | catchUp, db => (Procedure.run (exec cond) (EthereumListener.handleCreated D log) db).2

/-- A leg of the order changes only where its chain is Ethereum. -/
def Routed (order : OrderRow) (orders' : List StoredOrder) : Prop :=
  ∀ stored' ∈ orders', stored'.publicId = order.publicId →
    (stored'.srcLeg ≠ order.srcLeg → order.srcChain = .ethereum) ∧
      (stored'.dstLeg ≠ order.dstLeg → order.dstChain = .ethereum)

theorem routed_of_same {order : OrderRow}
    (h : ∀ stored' ∈ orders', stored'.publicId = order.publicId →
      stored'.srcLeg = order.srcLeg ∧ stored'.dstLeg = order.dstLeg) : Routed order orders' := by
  intro stored' hmem' hid
  obtain ⟨hsrc, hdst⟩ := h stored' hmem' hid
  exact ⟨fun hne => absurd hsrc hne, fun hne => absurd hdst hne⟩

/-- Rows after an edit of the secret or of the status have the legs they had. -/
theorem Edited.legs {edit : Edit} {Ok : OrderRow → Prop} (h : Edited edit Ok orders orders')
    (hlegs : ∀ row, (edit.set row).srcLeg = row.srcLeg ∧ (edit.set row).dstLeg = row.dstLeg)
    (hunique : UniqueIds orders) {stored' : StoredOrder} (hmem' : stored' ∈ orders') :
    ∃ stored ∈ orders, stored'.publicId = stored.publicId ∧ stored'.srcLeg = stored.srcLeg ∧
      stored'.dstLeg = stored.dstLeg := by
  obtain ⟨stored, hmem, hid, hrow⟩ := h.origin hunique hmem'
  refine ⟨stored, hmem, hid, ?_⟩
  rcases hrow with hsame | ⟨_, hset, _, _⟩
  · rw [hsame]
    exact ⟨rfl, rfl⟩
  · rw [hset]
    exact hlegs _

variable {stored : StoredOrder}

theorem Edited.routed_of_legs {edit : Edit} {Ok : OrderRow → Prop}
    (h : Edited edit Ok orders orders')
    (hlegs : ∀ row, (edit.set row).srcLeg = row.srcLeg ∧ (edit.set row).dstLeg = row.dstLeg)
    (hunique : UniqueIds orders) (hmem : stored ∈ orders) : Routed stored.toOrderRow orders' := by
  apply routed_of_same
  intro stored' hmem' hid
  obtain ⟨old, hold, hid', hkept⟩ := h.legs hlegs hunique hmem'
  rw [List.inj_on_of_nodup_map hunique hmem hold (hid.symm.trans hid')]
  exact hkept

/-- A source lock of an order whose source chain is Ethereum. -/
theorem Edited.routed_srcLock {lock : SrcLock} {Ok : OrderRow → Prop}
    (h : Edited (.srcLock lock) Ok orders orders') (hunique : UniqueIds orders)
    (hmem : stored ∈ orders)
    (hchain : stored.publicId = lock.publicId → IsEdge stored.status .srcLocked →
      stored.srcChain = .ethereum) :
    Routed stored.toOrderRow orders' := by
  intro stored' hmem' hid
  obtain ⟨old, hold, hid', hrow⟩ := h.origin hunique hmem'
  obtain rfl := List.inj_on_of_nodup_map hunique hmem hold (hid.symm.trans hid')
  rcases hrow with hsame | ⟨hself, hset, hedge, _⟩
  · rw [hsame]
    exact ⟨fun hne => absurd rfl hne, fun hne => absurd rfl hne⟩
  · refine ⟨fun _ => hchain hself hedge, fun hne => ?_⟩
    rw [hset] at hne
    exact absurd rfl hne

theorem Edited.routed_dstLock {lock : DstLock} {Ok : OrderRow → Prop}
    (h : Edited (.dstLock lock) Ok orders orders') (hunique : UniqueIds orders)
    (hmem : stored ∈ orders)
    (hchain : stored.publicId = lock.publicId → stored.dstChain = .ethereum) :
    Routed stored.toOrderRow orders' := by
  intro stored' hmem' hid
  obtain ⟨old, hold, hid', hrow⟩ := h.origin hunique hmem'
  obtain rfl := List.inj_on_of_nodup_map hunique hmem hold (hid.symm.trans hid')
  rcases hrow with hsame | ⟨hself, hset, _, _⟩
  · rw [hsame]
    exact ⟨fun hne => absurd rfl hne, fun hne => absurd rfl hne⟩
  · refine ⟨fun hne => ?_, fun _ => hchain hself⟩
    rw [hset] at hne
    exact absurd rfl hne

theorem findHashlock_stored {hashlock : String} {order : OrderRow} (hunique : UniqueIds orders)
    (hfind : findHashlock orders hashlock = some order) (hmem : stored ∈ orders)
    (hid : stored.publicId = order.publicId) : stored.toOrderRow = order := by
  obtain ⟨found, hfound, rfl, _⟩ := findRow_mem hfind
  rw [List.inj_on_of_nodup_map hunique hmem hfound hid]

/-- What is applied live keeps to the legs on the chain of the event. -/
theorem LiveChange.routed {event : BridgeOrderEvent} (h : LiveChange D event orders orders')
    (hethereum : event.chain = .ethereum) (hbook : AnnouncedBook orders) (hmem : stored ∈ orders) :
    Routed stored.toOrderRow orders' := by
  have hunique := hbook.unique
  cases h with
  | same =>
      apply routed_of_same
      intro stored' hmem' hid
      rw [List.inj_on_of_nodup_map hunique hmem' hmem hid]
      exact ⟨rfl, rfl⟩
  | srcLock lock _ hfind hchain hlock hedit =>
      refine hedit.routed_srcLock hunique hmem fun hself _ => ?_
      rw [findHashlock_stored hunique hfind hmem (hself.trans hlock), ← hchain, hethereum]
  | dstLock lock _ hfind hchain hlock hedit =>
      refine hedit.routed_dstLock hunique hmem fun hself => ?_
      have hrow := findHashlock_stored hunique hfind hmem (hself.trans hlock)
      rcases (hbook.rows stored hmem).chains with ⟨hsrc, _⟩ | ⟨_, hdst⟩
      · rw [hrow, ← hethereum] at hsrc
        exact absurd hsrc.symm hchain
      · exact hdst
  | settle value _ hedit => exact hedit.routed_of_legs (fun _ => ⟨rfl, rfl⟩) hunique hmem
  | claim _ _ _ hsecret hclaim =>
      apply routed_of_same
      intro stored' hmem' hid
      obtain ⟨mid, hmid, hid₁, hsrc₁, hdst₁⟩ :=
        hclaim.legs (fun _ => ⟨rfl, rfl⟩) (hsecret.uniqueIds hunique) hmem'
      obtain ⟨old, hold, hid₂, hsrc₂, hdst₂⟩ := hsecret.legs (fun _ => ⟨rfl, rfl⟩) hunique hmid
      obtain rfl := List.inj_on_of_nodup_map hunique hmem hold (hid.symm.trans (hid₁.trans hid₂))
      exact ⟨hsrc₁.trans hsrc₂, hdst₁.trans hdst₂⟩

/-! ## Catching up -/

/-- The lock that catching up records for an order. -/
def createdLock (log : CreatedLog) (order : OrderRow) : SrcLock where
  publicId := order.publicId
  orderId := toString log.orderId
  txHash := log.transactionHash
  blockNumber := log.blockNumber
  timelock := log.timelock

/-- A creation log leaves the orders alone, or its lock is recorded on the source leg of the
order with its hashlock. -/
inductive CreatedChange (D : Deployment) (log : CreatedLog) (orders : List StoredOrder) :
    List StoredOrder → Prop where
  | same : CreatedChange D log orders orders
  | srcLock {orders' : List StoredOrder} {order : OrderRow} :
      findHashlock orders log.hashlock = some order →
      Edited (.srcLock (createdLock log order)) ((createdLock log order).Guarded D) orders orders' →
      CreatedChange D log orders orders'

theorem handleCreated_change (cond : Conditions) (db : Database) (log : CreatedLog) :
    Leaves cond (EthereumListener.handleCreated D log) db (CreatedChange D log db.orders) := by
  apply leaves_tryCatch
  · apply leaves_findByHashlock .same
    intro db₁ h₁
    rw [← h₁]
    split
    · exact leaves_pure .same
    · rename_i order hfind
      exact .srcLock hfind (recordSrcLock_edited cond db₁ _ _)
  · intro e db' h
    exact leaves_pure h

theorem CreatedChange.routed {log : CreatedLog} (h : CreatedChange D log orders orders')
    (hbook : AnnouncedBook orders) (hmem : stored ∈ orders)
    (hsource : stored.status = .announced → findHashlock orders log.hashlock = some stored.toOrderRow →
      stored.srcChain = .ethereum) :
    Routed stored.toOrderRow orders' := by
  have hunique := hbook.unique
  cases h with
  | same =>
      apply routed_of_same
      intro stored' hmem' hid
      rw [List.inj_on_of_nodup_map hunique hmem' hmem hid]
      exact ⟨rfl, rfl⟩
  | srcLock hfind hedit =>
      refine hedit.routed_srcLock hunique hmem fun hself hedge => ?_
      have hrow := findHashlock_stored hunique hfind hmem hself
      rw [← hrow] at hfind
      exact hsource (escrow_source hedge) hfind

/-- While no statement fails, the lock of an announced order is recorded whatever its source
chain is. -/
theorem run_handleCreated (clock : ℕ → ℕ) {log : CreatedLog} {order row : OrderRow}
    (hfind : findHashlock db.orders log.hashlock = some order)
    (hid : findId db.orders order.publicId = some row) (hstatus : row.status = .announced)
    (hguard : OrderService.srcLockGuard D (createdLock log order) row = .ok ()) :
    (run (exec (.calm clock)) (EthereumListener.handleCreated D log) db).2.orders =
      Edit.apply (.srcLock (createdLock log order)) (clock (db.executed + 3)) db.orders := by
  have hadvanced : (advanced clock db.tick
      (OrderService.srcLockRequest D (createdLock log order) orderServiceWriter)
      (.srcLock (createdLock log order)) (OrderService.srcLockGuard D (createdLock log order))).2.orders =
        Edit.apply (.srcLock (createdLock log order)) (clock (db.executed + 3)) db.orders := by
    have hid' : findId db.tick.orders (createdLock log order).publicId = some row := hid
    unfold advanced
    simp only [OrderService.srcLockRequest, hid', hstatus, actionTargetStatus, reduceCtorEq, if_false,
      hguard]
    rfl
  rw [EthereumListener.handleCreated, run_tryCatch, run_bind, run_findByHashlock,
    show db.byHashlock log.hashlock = some order from hfind]
  dsimp only
  have hrecord := run_recordSrcLock clock db.tick (D := D) (createdLock log order) orderServiceWriter
  rw [show run (exec (.calm clock)) (OrderService.recordSrcLock D
      { publicId := order.publicId
        orderId := toString log.orderId
        txHash := log.transactionHash
        blockNumber := log.blockNumber
        timelock := log.timelock } orderServiceWriter) db.tick = _ from hrecord]
  split
  · rename_i hresult
    rw [hresult] at hadvanced
    exact hadvanced
  · rename_i hresult
    rw [hresult] at hadvanced
    exact hadvanced

/-- An Ethereum lock stays off the legs of other chains, except where catching up meets an
announced order that begins on Stellar. -/
theorem created_routed_iff (hbook : AnnouncedBook db.orders) (hmem : stored ∈ db.orders)
    (path : CreatedPath) (log : CreatedLog) :
    (∀ cond, Routed stored.toOrderRow (path.run D cond log db).orders) ↔
      ¬ (path = .catchUp ∧ stored.srcChain = .stellar ∧ stored.status = .announced ∧
        findHashlock db.orders log.hashlock = some stored.toOrderRow) := by
  constructor
  · rintro hrouted ⟨rfl, hsrc, hstatus, hfind⟩
    have hself := findId_mem hbook.unique hmem
    obtain ⟨hnone, hdst⟩ := (hbook.rows stored hmem).unlocked hstatus
    have hguard : OrderService.srcLockGuard D (createdLock log stored.toOrderRow)
        stored.toOrderRow = .ok () := by
      rw [OrderService.srcLockGuard, hdst]
    have horders := run_handleCreated (fun _ => 0) hfind hself hstatus hguard
    have hrow := hrouted (.calm fun _ => 0)
    rw [CreatedPath.run, horders] at hrow
    have hid : stored.publicId = (Edit.srcLock (createdLock log stored.toOrderRow)).publicId := rfl
    obtain ⟨hsource, -⟩ := hrow _ (Edit.mem_apply hmem) (Edit.row_publicId _ _ _)
    rw [Edit.row_self hid] at hsource
    have hethereum := hsource fun heq => by
      have horderId := congrArg Leg.orderId heq
      rw [show stored.srcLeg.orderId = stored.srcOrderId from rfl, hnone] at horderId
      cases horderId
    rw [hethereum] at hsrc
    cases hsrc
  · intro hnot cond
    cases path with
    | live =>
        exact (apply_change cond db EthereumListener.writer (EthereumListener.createdEvent log)
          (D := D)).routed rfl hbook hmem
    | catchUp =>
        refine CreatedChange.routed (handleCreated_change cond db log (D := D)) hbook hmem ?_
        intro hstatus hfind
        rcases (hbook.rows stored hmem).chains with ⟨hsrc, _⟩ | ⟨hsrc, _⟩
        · exact hsrc
        · exact absurd ⟨rfl, hsrc, hstatus, hfind⟩ hnot

/-! ## Order 7 in both directions -/

instance (order : OrderRow) (orders' : List StoredOrder) : Decidable (Routed order orders') :=
  inferInstanceAs (Decidable (∀ stored' ∈ orders', _ → _))

def createdLog7 : CreatedLog where
  orderId := 7
  hashlock := hashlock7
  timelock := 1700010000
  transactionHash := "0xaa"
  blockNumber := 100

/-- The other direction: the source leg is on Stellar. -/
def returnInput7 : AnnounceOrderInput :=
  { input7 with
    direction := .xlmToEth
    srcChain := .stellar
    srcAddress := input7.dstAddress
    dstChain := .ethereum
    dstAddress := input7.srcAddress }

def announced7 (input : AnnounceOrderInput) : Database :=
  runAll (OrderCall.run deployment7 calm7) [.announce (.ok ()) "a1" input] .empty

theorem created_routed_order7 :
    ∃ stored ∈ (announced7 input7).orders, ∀ path cond, Routed stored.toOrderRow
      (CreatedPath.run deployment7 cond createdLog7 path (announced7 input7)).orders := by
  have hethereum : ∃ stored ∈ (announced7 input7).orders, stored.srcChain = .ethereum := by
    decide
  obtain ⟨stored, hmem, hsrc⟩ := hethereum
  refine ⟨stored, hmem, fun path => ?_⟩
  refine (created_routed_iff (announcedBook_run (runAll_execution _ _)) hmem path createdLog7).mpr ?_
  rintro ⟨_, hstellar, _⟩
  rw [hsrc] at hstellar
  cases hstellar

/-- Catching up records an Ethereum lock on a source leg that is on Stellar. -/
theorem catchUp_misroutes :
    ¬ ∀ (D : Deployment) (cond : Conditions) (path : CreatedPath) (log : CreatedLog)
        (db : Database), AnnouncedBook db.orders → ∀ stored ∈ db.orders,
      Routed stored.toOrderRow (path.run D cond log db).orders := by
  intro h
  have hrun := h deployment7 calm7 .catchUp createdLog7 (announced7 returnInput7)
    (announcedBook_run (runAll_execution _ _))
  revert hrun
  decide

end OverSync.Coordinator
