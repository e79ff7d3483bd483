import OverSync.Verification.Coordinator.LegRouting
import OverSync.Verification.Coordinator.Delivery
import Mathlib.Data.List.Induction

/-! # The final status of an order

The events of an order's two legs are applied live, in any interleaving. The first settlement
that is attributed to the escrowed order decides its status. -/

namespace OverSync.Coordinator

open Library Library.Procedure
open scoped List

variable {D : Deployment} {clock : ℕ → ℕ} {db u : Database} {orders orders' : List StoredOrder}
  {order row : OrderRow} {event : BridgeOrderEvent}

/-! ## Events about an order -/

/-- The on-chain ids of an event stand in no row yet, and its hashlock is that of the order. -/
structure About (D : Deployment) (orders : List StoredOrder) (order : OrderRow)
    (event : BridgeOrderEvent) : Prop where
  lock : event.kind = .lock → truthy (event.hashlock.map D.toLowerCase) = some order.hashlock
  hashlock : ∀ hashlock, truthy event.hashlock = some hashlock →
    D.toLowerCase hashlock = order.hashlock
  fresh : ∀ orderId, truthy event.orderId = some orderId →
    findSrc orders event.chain orderId = none ∧ findDst orders event.chain orderId = none

/-- A settlement is attributed to an order by an on-chain id or by the hashlock. -/
def attributable (row : OrderRow) (event : BridgeOrderEvent) : Bool :=
  (truthy event.orderId).any (fun orderId =>
      (row.srcChain = event.chain && row.srcOrderId = some orderId) ||
        (row.dstChain = event.chain && row.dstOrderId = some orderId)) ||
    (truthy event.hashlock).isSome

def rowStep (D : Deployment) (row : OrderRow) (event : BridgeOrderEvent) : OrderRow :=
  if event.kind = .lock ∨ attributable row event then liveRow D event row else row

theorem liveTarget_replaced (hunique : UniqueIds orders)
    (hself : findHashlock orders order.hashlock = some order) (hsame : SameOrder order row)
    (hbook : Replaced orders order row orders') (habout : About D orders order event) :
    liveTarget D orders' event =
      if event.kind = .lock ∨ attributable row event then some row else none := by
  have horder := findRow_unique hunique hself
  have hhashlock : findHashlock orders' order.hashlock = some row :=
    replaced_shared hunique hbook horder (by simp [hsame.hashlock]) hself
  have hfallback : ((truthy event.hashlock).bind fun hashlock =>
      findHashlock orders' (D.toLowerCase hashlock)) =
        if (truthy event.hashlock).isSome then some row else none := by
    cases hgiven : truthy event.hashlock with
    | none => rfl
    | some hashlock =>
        rw [Option.bind_some, habout.hashlock hashlock hgiven, hhashlock]
        rfl
  have hresolve : resolve D orders' event = if attributable row event then some row else none := by
    unfold resolve attributable
    rw [hfallback]
    cases horderId : truthy event.orderId with
    | none => simp
    | some orderId =>
        obtain ⟨hsrc, hdst⟩ := habout.fresh orderId horderId
        have hsrc' := replaced_fresh hunique hbook horder hsrc
        have hdst' := replaced_fresh hunique hbook horder hdst
        rw [Option.bind_some, findSrc, findDst, hsrc', hdst', Option.any_some]
        cases (row.srcChain = event.chain && row.srcOrderId = some orderId : Bool) with
        | true => simp
        | false =>
            cases (row.dstChain = event.chain && row.dstOrderId = some orderId : Bool) with
            | true => simp
            | false => simp
  unfold liveTarget
  cases hkind : event.kind with
  | lock => simp [habout.lock hkind, hhashlock]
  | claim => simpa using hresolve
  | refund => simpa using hresolve

/-- An event about the order makes a step of its row, and of no other. -/
theorem deliver_step (clock : ℕ → ℕ) (hunique : UniqueIds orders)
    (hself : findHashlock orders order.hashlock = some order) (hsame : SameOrder order row)
    (hbook : Replaced orders order row db.orders) (habout : About D orders order event) :
    Replaced orders order (rowStep D row event) (deliver D clock event db).orders := by
  have htarget := liveTarget_replaced hunique hself hsame hbook habout
  rw [rowStep]
  by_cases hstep : event.kind = .lock ∨ attributable row event
  · rw [if_pos hstep] at htarget ⊢
    exact deliver_found clock hunique hsame.publicId hbook htarget
  · rw [if_neg hstep] at htarget ⊢
    rw [Replaced, deliver_missed clock (replaced_uniqueIds hunique hbook hsame.publicId) htarget]
    exact hbook

theorem sameOrder_step (hsame : SameOrder order row) (event : BridgeOrderEvent) :
    SameOrder order (rowStep D row event) := by
  unfold rowStep
  split
  · exact hsame.live D event
  · exact hsame

/-- The row of an order after events about it. -/
def rowRun (D : Deployment) (order : OrderRow) (events : List BridgeOrderEvent) : OrderRow :=
  events.foldl (rowStep D) order

theorem deliver_run (clock : ℕ → ℕ) (hunique : UniqueIds db.orders)
    (hself : findHashlock db.orders order.hashlock = some order) {events : List BridgeOrderEvent}
    (habout : ∀ event ∈ events, About D db.orders order event) :
    SameOrder order (rowRun D order events) ∧
      Replaced db.orders order (rowRun D order events)
        (runAll (deliver D clock) events db).orders := by
  induction events using List.reverseRecOn with
  | nil => exact ⟨.refl order, .refl hunique (findRow_unique hunique hself)⟩
  | append_singleton events event ih =>
      obtain ⟨hsame, hbook⟩ := ih fun other hmem => habout other (List.mem_append_left _ hmem)
      rw [rowRun, runAll, List.foldl_append, List.foldl_append]
      exact ⟨sameOrder_step hsame event,
        deliver_step clock hunique hself hsame hbook (habout event (by simp))⟩

/-- The row of the order is the one its events lead to. -/
theorem deliver_findId (clock : ℕ → ℕ) (hunique : UniqueIds db.orders)
    (hself : findHashlock db.orders order.hashlock = some order) {events : List BridgeOrderEvent}
    (habout : ∀ event ∈ events, About D db.orders order event) :
    findId (runAll (deliver D clock) events db).orders order.publicId =
      some (rowRun D order events) := by
  obtain ⟨hsame, hbook⟩ := deliver_run clock hunique hself habout
  exact replaced_findId hunique hbook (findRow_unique hunique hself) hsame.publicId

/-! ## Histories of a leg -/

structure IsLock (event : BridgeOrderEvent) : Prop where
  kind : event.kind = .lock
  orderId : ∃ orderId, truthy event.orderId = some orderId
  timelock : ∃ timelock, event.timelock = some timelock

/-- A settlement of the leg that was locked; a claim shows the preimage. -/
structure Settles (D : Deployment) (lock event : BridgeOrderEvent) : Prop where
  kind : event.kind ≠ .lock
  orderId : truthy event.orderId = truthy lock.orderId
  preimage : event.kind = .claim →
    ∃ preimage, truthy (event.preimage.map D.toLowerCase) = some preimage

/-- What an escrow permits for a leg: it is locked at most once, and then claimed or refunded at
most once. -/
inductive LegHistory (D : Deployment) : List BridgeOrderEvent → Prop where
  | unlocked : LegHistory D []
  | locked {lock : BridgeOrderEvent} : IsLock lock → LegHistory D [lock]
  | settled {lock settlement : BridgeOrderEvent} : IsLock lock → Settles D lock settlement →
      LegHistory D [lock, settlement]

section LegHistory

variable {events : List BridgeOrderEvent} {a b : BridgeOrderEvent}

theorem LegHistory.of_append {later : List BridgeOrderEvent} (h : LegHistory D (events ++ later)) :
    LegHistory D events := by
  generalize hall : events ++ later = all at h
  cases h with
  | unlocked =>
      obtain ⟨rfl, -⟩ := List.append_eq_nil_iff.mp hall
      exact .unlocked
  | locked hlock =>
      cases events with
      | nil => exact .unlocked
      | cons first events =>
          obtain ⟨rfl, hrest⟩ := List.cons.inj hall
          obtain ⟨rfl, -⟩ := List.append_eq_nil_iff.mp hrest
          exact .locked hlock
  | settled hlock hsettles =>
      cases events with
      | nil => exact .unlocked
      | cons first events =>
          obtain ⟨rfl, hrest⟩ := List.cons.inj hall
          cases events with
          | nil => exact .locked hlock
          | cons second events =>
              obtain ⟨rfl, hnil⟩ := List.cons.inj hrest
              obtain ⟨rfl, -⟩ := List.append_eq_nil_iff.mp hnil
              exact .settled hlock hsettles

/-- The last event of a leg is its lock, or settles the lock. -/
theorem LegHistory.last (h : LegHistory D (events ++ [a])) :
    events = [] ∧ IsLock a ∨ ∃ lock, events = [lock] ∧ IsLock lock ∧ Settles D lock a := by
  generalize hall : events ++ [a] = all at h
  cases h with
  | unlocked => simp at hall
  | locked hlock =>
      obtain ⟨rfl, rfl⟩ : events = [] ∧ a = _ := by simpa using List.append_eq_singleton_iff.mp hall
      exact .inl ⟨rfl, hlock⟩
  | @settled lock settlement hlock hsettles =>
      have hlast : events ++ [a] = [lock] ++ [settlement] := hall
      obtain ⟨rfl, hend⟩ := List.append_inj' hlast rfl
      obtain rfl := List.singleton_inj.mp hend
      exact .inr ⟨lock, rfl, hlock, hsettles⟩

/-- Nothing follows the settlement of a leg. -/
theorem LegHistory.settled_end {later : List BridgeOrderEvent}
    (h : LegHistory D (events ++ later)) (ha : a ∈ events) (hkind : a.kind ≠ .lock) :
    later = [] := by
  generalize hall : events ++ later = all at h
  cases h with
  | unlocked => exact (List.append_eq_nil_iff.mp hall).2
  | locked hlock =>
      cases events with
      | nil => cases ha
      | cons first events =>
          exact (List.append_eq_nil_iff.mp (List.cons.inj hall).2).2
  | settled hlock _ =>
      cases events with
      | nil => cases ha
      | cons first events =>
          obtain ⟨rfl, hrest⟩ := List.cons.inj hall
          cases events with
          | nil =>
              obtain rfl := List.mem_singleton.mp ha
              exact absurd hlock.kind hkind
          | cons second events =>
              exact (List.append_eq_nil_iff.mp (List.cons.inj hrest).2).2

/-- A leg settles once. -/
theorem LegHistory.settlement_unique (h : LegHistory D events) (ha : a ∈ events) (hb : b ∈ events)
    (hkind : a.kind ≠ .lock) (hkind' : b.kind ≠ .lock) : a = b := by
  cases h with
  | unlocked => cases ha
  | locked hlock =>
      obtain rfl := List.mem_singleton.mp ha
      exact absurd hlock.kind hkind
  | @settled lock settlement hlock _ =>
      have hlast {c : BridgeOrderEvent} (hc : c ∈ [lock, settlement]) (hkind : c.kind ≠ .lock) :
          c = settlement := by
        refine (List.mem_pair.mp hc).resolve_left fun heq => hkind ?_
        rw [heq]
        exact hlock.kind
      rw [hlast ha hkind, hlast hb hkind']

end LegHistory

/-! ## Steps of a row -/

def settledStatus : BridgeEventKind → OrderStatus
  | .claim => .completed
  | _ => .refunded

theorem statusRow_status {value : OrderStatus} (h : IsEdge row.status value) :
    (statusRow value row).status = value := by
  have hset : statusRow value row = row.withStatus value := if_pos ⟨h, rfl⟩
  rw [hset]
  rfl

theorem statusRow_same {value : OrderStatus} (h : ¬ IsEdge row.status value) :
    statusRow value row = row :=
  if_neg fun hedge => h hedge.1

theorem claimRow_same (hsecret : ¬ IsEdge row.status .secretRevealed)
    (hclaim : ¬ IsEdge row.status .completed) : claimRow D event row = row := by
  unfold claimRow
  split
  · exact statusRow_same hclaim
  · rw [if_neg hsecret]
    split
    · rfl
    · exact statusRow_same hclaim

/-- Without an edge for any event, a row stays. -/
theorem rowStep_same (hlock : event.kind = .lock → lockRow D event row = row)
    (hsecret : ¬ IsEdge row.status .secretRevealed) (hclaim : ¬ IsEdge row.status .completed)
    (hrefund : ¬ IsEdge row.status .refunded) : rowStep D row event = row := by
  unfold rowStep
  split
  · unfold liveRow
    cases hkind : event.kind with
    | lock => exact hlock hkind
    | claim => exact claimRow_same hsecret hclaim
    | refund => exact statusRow_same hrefund
  · rfl

theorem lockRow_same (hsrc : event.chain = row.srcChain → ¬ IsEdge row.status .srcLocked)
    (hdst : event.chain ≠ row.srcChain → ¬ IsEdge row.status .dstLocked) :
    lockRow D event row = row := by
  unfold lockRow
  split
  · by_cases hchain : event.chain = row.srcChain
    · rw [if_pos hchain]
      exact if_neg fun h => hsrc hchain h.1
    · rw [if_neg hchain]
      exact if_neg fun h => hdst hchain h.1
  · rfl

/-- Before its escrow, nothing on the other chain moves an order. -/
theorem rowStep_announced (hstatus : row.status = .announced) (hchain : event.chain ≠ row.srcChain) :
    rowStep D row event = row := by
  refine rowStep_same (fun _ => lockRow_same (fun h => absurd h hchain) fun _ => ?_) ?_ ?_ ?_
  all_goals
    rw [hstatus]
    decide

theorem not_isEdge_settled {status : OrderStatus} (h : status = .completed ∨ status = .refunded)
    (value : OrderStatus) : ¬ IsEdge status value := by
  rcases h with rfl | rfl
  · cases value <;> decide
  · cases value <;> decide

/-- A settled order stays as it is. -/
theorem rowStep_settled (hstatus : row.status = .completed ∨ row.status = .refunded) :
    rowStep D row event = row :=
  rowStep_same
    (fun _ => lockRow_same (fun _ => not_isEdge_settled hstatus _) fun _ =>
      not_isEdge_settled hstatus _)
    (not_isEdge_settled hstatus _) (not_isEdge_settled hstatus _) (not_isEdge_settled hstatus _)

theorem rowStep_srcLock {orderId : String} {timelock : ℤ} (hstatus : row.status = .announced)
    (hdst : row.dstTimelock = none) (hkind : event.kind = .lock) (hchain : event.chain = row.srcChain)
    (horderId : truthy event.orderId = some orderId) (htimelock : event.timelock = some timelock) :
    rowStep D row event = (event.srcLock row orderId timelock).set row := by
  have hguard : OrderService.srcLockGuard D (event.srcLock row orderId timelock) row = .ok () := by
    rw [OrderService.srcLockGuard, hdst]
  have hedge : IsEdge row.status .srcLocked := by
    rw [hstatus]
    decide
  rw [rowStep, if_pos (.inl hkind), liveRow, hkind]
  dsimp only
  rw [lockRow, htimelock, horderId]
  dsimp only
  rw [if_pos hchain]
  exact if_pos ⟨hedge, hguard⟩

theorem rowStep_dstLock {orderId : String} {srcTimelock timelock : ℤ}
    (hstatus : row.status = .srcLocked) (hsrc : row.srcTimelock = some srcTimelock)
    (hkind : event.kind = .lock) (hchain : event.chain ≠ row.srcChain)
    (horderId : truthy event.orderId = some orderId) (htimelock : event.timelock = some timelock) :
    GapOk D srcTimelock timelock ∧
        rowStep D row event = (event.dstLock row orderId timelock).set row ∨
      ¬ GapOk D srcTimelock timelock ∧ rowStep D row event = row := by
  have hguard : OrderService.dstLockGuard D (event.dstLock row orderId timelock) row = .ok () ↔
      GapOk D srcTimelock timelock := by
    rw [OrderService.dstLockGuard, hsrc]
    exact assertTimelocksAtCreation_ok
  have hedge : IsEdge row.status .dstLocked := by
    rw [hstatus]
    decide
  rw [rowStep, if_pos (.inl hkind), liveRow, hkind]
  dsimp only
  rw [lockRow, htimelock, horderId]
  dsimp only
  rw [if_neg hchain]
  by_cases hgap : GapOk D srcTimelock timelock
  · exact .inl ⟨hgap, if_pos ⟨hedge, hguard.mpr hgap⟩⟩
  · exact .inr ⟨hgap, if_neg fun h => hgap (hguard.mp h.2)⟩

/-- A settlement that is attributed to an escrowed order decides its status. -/
theorem rowStep_settles (hstatus : row.status = .srcLocked ∨ row.status = .dstLocked)
    (hpreimage : row.preimage = none) (hkind : event.kind ≠ .lock)
    (hattributable : attributable row event = true)
    (hgiven : event.kind = .claim →
      ∃ preimage, truthy (event.preimage.map D.toLowerCase) = some preimage) :
    (rowStep D row event).status = settledStatus event.kind := by
  rw [rowStep, if_pos (.inr hattributable), liveRow]
  cases hevent : event.kind with
  | lock => exact absurd hevent hkind
  | refund =>
      refine statusRow_status ?_
      rcases hstatus with h | h
      · rw [h]
        decide
      · rw [h]
        decide
  | claim =>
      obtain ⟨preimage, hpreimage'⟩ := hgiven hevent
      have hedge : IsEdge row.status .secretRevealed := by
        rcases hstatus with h | h
        · rw [h]
          decide
        · rw [h]
          decide
      dsimp only
      rw [claimRow, hpreimage']
      dsimp only
      rw [hpreimage, if_pos (by simp), if_pos hedge]
      have hcompleted : IsEdge .secretRevealed .completed := by decide
      exact statusRow_status hcompleted

theorem rowStep_unattributed (hkind : event.kind ≠ .lock)
    (hattributable : attributable row event = false) : rowStep D row event = row := by
  rw [rowStep, if_neg]
  rintro (h | h)
  · exact hkind h
  · rw [hattributable] at h
    cases h

/-! ## Both legs -/

/-- The events of the leg on a chain. -/
def legOf (chain : Chain) (events : List BridgeOrderEvent) : List BridgeOrderEvent :=
  events.filter fun event => event.chain = chain

section LegOf

variable {chain : Chain} {events : List BridgeOrderEvent}

theorem mem_legOf : event ∈ legOf chain events ↔ event ∈ events ∧ event.chain = chain := by
  simp [legOf]

theorem legOf_append (events later : List BridgeOrderEvent) :
    legOf chain (events ++ later) = legOf chain events ++ legOf chain later :=
  List.filter_append ..

theorem legOf_concat (h : event.chain = chain) :
    legOf chain (events ++ [event]) = legOf chain events ++ [event] := by
  rw [legOf_append]
  simp [legOf, h]

theorem legOf_concat_other (h : event.chain ≠ chain) :
    legOf chain (events ++ [event]) = legOf chain events := by
  rw [legOf_append]
  simp [legOf, h]

theorem pair_sublist_concat {α : Type*} {a b c : α} {l : List α} :
    [a, b] <+ l ++ [c] ↔ [a, b] <+ l ∨ a ∈ l ∧ b = c := by
  constructor
  · intro h
    obtain ⟨front, back, hpair, hfront, hback⟩ := List.sublist_append_iff.mp h
    rcases List.sublist_singleton.mp hback with rfl | rfl
    · rw [List.append_nil] at hpair
      exact .inl (hpair ▸ hfront)
    · have hsplit : [a] ++ [b] = front ++ [c] := hpair
      obtain ⟨hhead, hlast⟩ := List.append_inj' hsplit rfl
      refine .inr ⟨?_, List.singleton_inj.mp hlast⟩
      rw [← hhead] at hfront
      exact List.singleton_sublist.mp hfront
  · rintro (h | ⟨hmem, rfl⟩)
    · exact h.trans (List.sublist_append_left _ _)
    · exact (List.singleton_sublist.mpr hmem).append (.refl [b])

end LegOf

/-- A destination lock that came after the source lock, with a timelock that leaves the gap. -/
structure Accepted (D : Deployment) (order : OrderRow) (lock : BridgeOrderEvent)
    (past : List BridgeOrderEvent) (dstLock : BridgeOrderEvent) : Prop where
  after : [lock, dstLock] <+ past
  chain : dstLock.chain = order.dstChain
  kind : dstLock.kind = .lock
  gap : ∃ srcTimelock dstTimelock, lock.timelock = some srcTimelock ∧
    dstLock.timelock = some dstTimelock ∧ GapOk D srcTimelock dstTimelock

/-- A settlement of the destination leg finds its order: it names the hashlock, or its escrow was
recorded. -/
def Attributed (D : Deployment) (order : OrderRow) (lock : BridgeOrderEvent)
    (past : List BridgeOrderEvent) (event : BridgeOrderEvent) : Prop :=
  (truthy event.hashlock).isSome ∨ ∃ dstLock, Accepted D order lock past dstLock

/-- The row of an order between its source lock and its first settlement. -/
structure Escrowed (D : Deployment) (order : OrderRow) (lock : BridgeOrderEvent)
    (past : List BridgeOrderEvent) (row : OrderRow) : Prop where
  same : SameOrder order row
  status : row.status = .srcLocked ∨ row.status = .dstLocked
  unlocked : legOf order.dstChain past = [] → row.status = .srcLocked
  srcOrderId : row.srcOrderId = truthy lock.orderId
  srcTimelock : row.srcTimelock = lock.timelock
  dstOrderId : ∀ orderId, row.dstOrderId = some orderId ↔
    ∃ dstLock, Accepted D order lock past dstLock ∧ truthy dstLock.orderId = some orderId
  preimage : row.preimage = none

/-- How far the events so far have brought an order. -/
inductive Phase (D : Deployment) (order : OrderRow) : List BridgeOrderEvent → OrderRow → Prop where
  | announced {past : List BridgeOrderEvent} :
      legOf order.srcChain past = [] → Phase D order past order
  | escrowed {past : List BridgeOrderEvent} {row : OrderRow} {lock : BridgeOrderEvent} :
      legOf order.srcChain past = [lock] → IsLock lock → Escrowed D order lock past row →
      Phase D order past row
  | settled {pre post : List BridgeOrderEvent} {row : OrderRow} {lock event : BridgeOrderEvent} :
      legOf order.srcChain pre = [lock] → IsLock lock → event.kind ≠ .lock →
      event.chain = order.srcChain ∨ Attributed D order lock pre event →
      row.status = settledStatus event.kind → Phase D order (pre ++ event :: post) row

/-- An order as it is announced, stored in the order book. -/
structure AnnouncedOrder (orders : List StoredOrder) (order : OrderRow) : Prop where
  unique : UniqueIds orders
  stored : findId orders order.publicId = some order
  chains : order.srcChain ≠ order.dstChain
  status : order.status = .announced
  dstOrderId : order.dstOrderId = none
  dstTimelock : order.dstTimelock = none
  preimage : order.preimage = none

/-- Nothing of the destination leg and no secret is recorded before a status. -/
def Unlocked (row : OrderRow) : Prop :=
  row.status = .announced → row.dstOrderId = none ∧ row.preimage = none

theorem OrderChange.unlocked (hchange : OrderChange D orders orders') (hunique : UniqueIds orders)
    (h : ∀ stored ∈ orders, Unlocked stored.toOrderRow) :
    ∀ stored ∈ orders', Unlocked stored.toOrderRow := by
  have hedited {edit : Edit} {Ok : OrderRow → Prop} (hedit : Edited edit Ok orders orders') :
      ∀ stored ∈ orders', Unlocked stored.toOrderRow := by
    refine hedit.rows hunique h fun row _ hedge _ _ hstatus => ?_
    rw [Edit.set_status hedge] at hstatus
    rw [hstatus] at hedge
    exact absurd hedge (not_isEdge_announced _)
  cases hchange with
  | srcLock hedit => exact hedited hedit
  | dstLock hedit => exact hedited hedit
  | secret hedit => exact hedited hedit
  | status hedit => exact hedited hedit
  | announced hadded =>
      cases hadded with
      | same => exact h
      | added id now _ _ _ =>
          intro stored hmem
          rcases List.mem_append.mp hmem with hold | hnew
          · exact h stored hold
          · obtain rfl := List.mem_singleton.mp hnew
            exact fun _ => ⟨rfl, rfl⟩

/-- Every order in a book of the order service that is still announced. -/
theorem announcedOrder_run {cond : Conditions} {calls : List OrderCall} {stored : StoredOrder}
    (h : Execution (CallStep (OrderCall.run D cond) fun _ _ => True) .empty calls db)
    (hmem : stored ∈ db.orders) (hstatus : stored.status = .announced) :
    AnnouncedOrder db.orders stored.toOrderRow := by
  have hbook : AnnouncedBook db.orders ∧ ∀ stored ∈ db.orders, Unlocked stored.toOrderRow := by
    refine h.invariant (P := fun db => AnnouncedBook db.orders ∧
      ∀ stored ∈ db.orders, Unlocked stored.toOrderRow) ?_ fun {u call v} hu hstep => ?_
    · exact ⟨⟨List.nodup_nil, by simp [Database.empty]⟩, by simp [Database.empty]⟩
    · rw [hstep.2]
      have hchange := orderCall_change cond u call (D := D)
      exact ⟨hchange.announcedBook hu.1, hchange.unlocked hu.1.unique hu.2⟩
  obtain ⟨hannounced, hunlocked⟩ := hbook
  obtain ⟨hdstOrderId, hpreimage⟩ := hunlocked stored hmem hstatus
  have hrow := hannounced.rows stored hmem
  refine ⟨hannounced.unique, findId_mem hannounced.unique hmem, ?_, hstatus, hdstOrderId,
    (hrow.unlocked hstatus).2, hpreimage⟩
  rcases hrow.chains with ⟨hsrc, hdst⟩ | ⟨hsrc, hdst⟩
  · rw [hsrc, hdst]
    decide
  · rw [hsrc, hdst]
    decide

/-- What the two escrows permit, in any interleaving of the legs. -/
structure Permitted (D : Deployment) (orders : List StoredOrder) (order : OrderRow)
    (events : List BridgeOrderEvent) : Prop where
  src : LegHistory D (legOf order.srcChain events)
  dst : LegHistory D (legOf order.dstChain events)
  about : ∀ event ∈ events, About D orders order event

theorem Permitted.of_append {events later : List BridgeOrderEvent}
    (h : Permitted D orders order (events ++ later)) : Permitted D orders order events where
  src := (legOf_append events later ▸ h.src).of_append
  dst := (legOf_append events later ▸ h.dst).of_append
  about event hmem := h.about event (List.mem_append_left _ hmem)

theorem settledStatus_settled (kind : BridgeEventKind) :
    settledStatus kind = .completed ∨ settledStatus kind = .refunded := by
  cases kind <;> decide

theorem chain_other {a b c : Chain} (hab : a ≠ b) (hca : c ≠ a) : c = b := by
  cases a <;> cases b <;> cases c <;> trivial

section Step

variable {past : List BridgeOrderEvent} {lock : BridgeOrderEvent}

theorem Accepted.concat (h : Accepted D order lock past event) (later : BridgeOrderEvent) :
    Accepted D order lock (past ++ [later]) event :=
  { h with after := h.after.trans (List.sublist_append_left _ _) }

/-- Only a destination lock adds to the accepted ones. -/
theorem accepted_concat {later : BridgeOrderEvent}
    (hlater : ¬ (later.chain = order.dstChain ∧ later.kind = .lock)) {dstLock : BridgeOrderEvent} :
    Accepted D order lock (past ++ [later]) dstLock ↔ Accepted D order lock past dstLock := by
  constructor
  · intro h
    rcases pair_sublist_concat.mp h.after with hafter | ⟨_, rfl⟩
    · exact { h with after := hafter }
    · exact absurd ⟨h.chain, h.kind⟩ hlater
  · exact fun h => h.concat later

/-- An event that leaves the row alone and accepts no lock leaves the escrowed order as it is. -/
theorem Escrowed.concat (h : Escrowed D order lock past row) {later : BridgeOrderEvent}
    (hdst : later.chain = order.dstChain)
    (haccepted : ∀ dstLock, Accepted D order lock (past ++ [later]) dstLock →
      Accepted D order lock past dstLock) :
    Escrowed D order lock (past ++ [later]) row :=
  { h with
    unlocked := fun hnil => by
      rw [legOf_concat hdst] at hnil
      simp at hnil
    dstOrderId := fun orderId => by
      rw [h.dstOrderId]
      constructor
      · rintro ⟨dstLock, haccept, hid⟩
        exact ⟨dstLock, haccept.concat later, hid⟩
      · rintro ⟨dstLock, haccept, hid⟩
        exact ⟨dstLock, haccepted dstLock haccept, hid⟩ }

/-- The order of an accepted lock is the order of the settlement of its leg. -/
theorem Escrowed.attributable_iff (h : Escrowed D order lock past row)
    (hchains : order.srcChain ≠ order.dstChain) (hdst : event.chain = order.dstChain)
    {dstLock : BridgeOrderEvent} (hleg : legOf order.dstChain past = [dstLock])
    (hlock : IsLock dstLock) (hsettles : Settles D dstLock event) :
    attributable row event = true ↔ Attributed D order lock past event := by
  obtain ⟨orderId, horderId⟩ := hlock.orderId
  have hrow : row.dstOrderId = some orderId ↔ ∃ dstLock, Accepted D order lock past dstLock := by
    rw [h.dstOrderId]
    constructor
    · rintro ⟨dstLock', haccept, _⟩
      exact ⟨dstLock', haccept⟩
    · rintro ⟨dstLock', haccept⟩
      have hmem : dstLock' ∈ legOf order.dstChain past :=
        mem_legOf.mpr ⟨haccept.after.subset (by simp), haccept.chain⟩
      rw [hleg] at hmem
      obtain rfl := List.mem_singleton.mp hmem
      exact ⟨dstLock', haccept, horderId⟩
  have hsrc : row.srcChain ≠ event.chain := by
    rw [h.same.srcChain, hdst]
    exact hchains
  have hdst' : row.dstChain = event.chain := by
    rw [h.same.dstChain, hdst]
  rw [attributable, hsettles.orderId, horderId, Attributed, ← hrow]
  simp [hsrc, hdst', or_comm]

end Step

section Phase

variable {past : List BridgeOrderEvent} {lock : BridgeOrderEvent}
  (hannounced : AnnouncedOrder orders order)

include hannounced

/-- The source lock is recorded, whatever the destination leg has done. -/
theorem escrowed_srcLock (hleg : legOf order.srcChain past = [])
    (hchain : event.chain = order.srcChain) {orderId : String} {timelock : ℤ}
    (horderId : truthy event.orderId = some orderId) (htimelock : event.timelock = some timelock) :
    Escrowed D order event (past ++ [event]) ((event.srcLock order orderId timelock).set order) where
  same := ⟨rfl, rfl, rfl, rfl⟩
  status := .inl (if_pos hannounced.status)
  unlocked _ := if_pos hannounced.status
  srcOrderId := horderId.symm
  srcTimelock := htimelock.symm
  dstOrderId other := by
    have hnone : ((event.srcLock order orderId timelock).set order).dstOrderId = none :=
      hannounced.dstOrderId
    rw [hnone]
    refine ⟨by simp, ?_⟩
    rintro ⟨dstLock, haccept, _⟩
    rcases pair_sublist_concat.mp haccept.after with hafter | ⟨_, rfl⟩
    · have hmem : event ∈ legOf order.srcChain past :=
        mem_legOf.mpr ⟨hafter.subset (by simp), hchain⟩
      rw [hleg] at hmem
      cases hmem
    · exact absurd (hchain.symm.trans haccept.chain) hannounced.chains
  preimage := hannounced.preimage

/-- A destination lock is recorded if its timelock leaves the gap, and refused otherwise. -/
theorem escrowed_dstLock (h : Escrowed D order lock past row)
    (hsrc : legOf order.srcChain past = [lock]) (hlock : IsLock lock)
    (hleg : legOf order.dstChain past = []) (hdst : event.chain = order.dstChain)
    (hevent : IsLock event) : Escrowed D order lock (past ++ [event]) (rowStep D row event) := by
  obtain ⟨orderId, horderId⟩ := hevent.orderId
  obtain ⟨timelock, htimelock⟩ := hevent.timelock
  obtain ⟨srcTimelock, hsrcTimelock⟩ := hlock.timelock
  have hother : event.chain ≠ row.srcChain := by
    rw [h.same.srcChain, hdst]
    exact hannounced.chains.symm
  have hrow : row.srcTimelock = some srcTimelock := h.srcTimelock.trans hsrcTimelock
  have hnothing (dstLock : BridgeOrderEvent) : ¬ Accepted D order lock past dstLock := by
    intro haccept
    have hmem : dstLock ∈ legOf order.dstChain past :=
      mem_legOf.mpr ⟨haccept.after.subset (by simp), haccept.chain⟩
    rw [hleg] at hmem
    cases hmem
  have haccepted {dstLock : BridgeOrderEvent}
      (haccept : Accepted D order lock (past ++ [event]) dstLock) :
      dstLock = event ∧ GapOk D srcTimelock timelock := by
    rcases pair_sublist_concat.mp haccept.after with hafter | ⟨_, rfl⟩
    · exact absurd { haccept with after := hafter } (hnothing dstLock)
    · obtain ⟨a, b, ha, hb, hgap⟩ := haccept.gap
      obtain rfl := Option.some.inj (hsrcTimelock.symm.trans ha)
      obtain rfl := Option.some.inj (htimelock.symm.trans hb)
      exact ⟨rfl, hgap⟩
  rcases rowStep_dstLock (h.unlocked hleg) hrow hevent.kind hother horderId htimelock (D := D) with
    ⟨hgap, hstep⟩ | ⟨hgap, hstep⟩
  · rw [hstep]
    have hmem : lock ∈ past := (mem_legOf.mp (hsrc ▸ List.mem_singleton_self lock)).1
    have haccept : Accepted D order lock (past ++ [event]) event :=
      ⟨pair_sublist_concat.mpr (.inr ⟨hmem, rfl⟩), hdst, hevent.kind,
        srcTimelock, timelock, hsrcTimelock, htimelock, hgap⟩
    exact
      { same := h.same.edit (.dstLock (event.dstLock row orderId timelock))
        status := .inr (if_pos (.inr (h.unlocked hleg)))
        unlocked := fun hnil => by
          rw [legOf_concat hdst] at hnil
          simp at hnil
        srcOrderId := h.srcOrderId
        srcTimelock := h.srcTimelock
        dstOrderId := fun other => by
          have hsome : ((event.dstLock row orderId timelock).set row).dstOrderId = some orderId := rfl
          rw [hsome, ← horderId]
          constructor
          · exact fun hid => ⟨event, haccept, hid⟩
          · rintro ⟨dstLock, haccept', hid⟩
            rw [← (haccepted haccept').1]
            exact hid
        preimage := h.preimage }
  · rw [hstep]
    exact h.concat hdst fun dstLock haccept => absurd (haccepted haccept).2 hgap

/-- One event moves an order to the next phase or leaves it in its phase. -/
theorem Phase.step (hpermitted : Permitted D orders order (past ++ [event]))
    (h : Phase D order past row) : Phase D order (past ++ [event]) (rowStep D row event) := by
  cases h with
  | announced hsrc =>
      by_cases hchain : event.chain = order.srcChain
      · have hleg := hpermitted.src
        rw [legOf_concat hchain, hsrc] at hleg
        rcases hleg.last with ⟨_, hlock⟩ | ⟨_, hnil, _⟩
        · obtain ⟨orderId, horderId⟩ := hlock.orderId
          obtain ⟨timelock, htimelock⟩ := hlock.timelock
          rw [rowStep_srcLock hannounced.status hannounced.dstTimelock hlock.kind hchain horderId
            htimelock]
          refine .escrowed ?_ hlock (escrowed_srcLock hannounced hsrc hchain horderId htimelock)
          rw [legOf_concat hchain, hsrc, List.nil_append]
        · cases hnil
      · rw [rowStep_announced hannounced.status hchain]
        refine .announced ?_
        rw [legOf_concat_other hchain, hsrc]
  | @escrowed _ _ lock hsrc hlock hrow =>
      by_cases hchain : event.chain = order.srcChain
      · have hleg := hpermitted.src
        rw [legOf_concat hchain, hsrc] at hleg
        rcases hleg.last with ⟨hnil, _⟩ | ⟨first, hfirst, _, hsettles⟩
        · cases hnil
        · obtain rfl := List.singleton_inj.mp hfirst
          obtain ⟨orderId, horderId⟩ := hlock.orderId
          have hattributable : attributable row event = true := by
            rw [attributable, hsettles.orderId, hrow.srcOrderId, hrow.same.srcChain, hchain, horderId]
            simp
          exact .settled hsrc hlock hsettles.kind (.inl hchain)
            (rowStep_settles hrow.status hrow.preimage hsettles.kind hattributable hsettles.preimage)
      · have hdst := chain_other hannounced.chains hchain
        have hsrc' : legOf order.srcChain (past ++ [event]) = [lock] := by
          rw [legOf_concat_other hchain, hsrc]
        have hleg := hpermitted.dst
        rw [legOf_concat hdst] at hleg
        rcases hleg.last with ⟨hnil, hevent⟩ | ⟨dstLock, hdstLock, hlocked, hsettles⟩
        · exact .escrowed hsrc' hlock (escrowed_dstLock hannounced hrow hsrc hlock hnil hdst hevent)
        · have hiff := hrow.attributable_iff hannounced.chains hdst hdstLock hlocked hsettles
          cases hattributable : attributable row event with
          | true =>
              exact .settled hsrc hlock hsettles.kind (.inr (hiff.mp hattributable))
                (rowStep_settles hrow.status hrow.preimage hsettles.kind hattributable
                  hsettles.preimage)
          | false =>
              rw [rowStep_unattributed hsettles.kind hattributable]
              refine .escrowed hsrc' hlock (hrow.concat hdst fun other haccept => ?_)
              exact (accepted_concat fun h => hsettles.kind h.2).mp haccept
  | @settled pre post _ lock first hpre hlock hkind hfirst hstatus =>
      have hsettled : row.status = .completed ∨ row.status = .refunded := by
        rw [hstatus]
        exact settledStatus_settled _
      rw [rowStep_settled hsettled, List.append_assoc, List.cons_append]
      exact .settled hpre hlock hkind hfirst hstatus

/-- The phase of an order after its events. -/
theorem phase_run {events : List BridgeOrderEvent} (hpermitted : Permitted D orders order events) :
    Phase D order events (rowRun D order events) := by
  induction events using List.reverseRecOn with
  | nil => exact .announced rfl
  | append_singleton events event ih =>
      rw [rowRun, List.foldl_append]
      exact (ih hpermitted.of_append).step hannounced hpermitted

end Phase

/-! ## The status at the end -/

/-- The status of an order does not contradict what happened to its source leg. -/
def Reflects (order row : OrderRow) (events : List BridgeOrderEvent) : Prop :=
  ∀ event ∈ events, event.chain = order.srcChain →
    (event.kind = .refund → row.status ≠ .completed) ∧
      (event.kind = .claim → row.status ≠ .refunded)

/-- After the source lock, an attributed settlement of the destination leg comes first, and the
source leg then settles the other way. -/
def Overtaken (D : Deployment) (order : OrderRow) (events : List BridgeOrderEvent) : Prop :=
  ∃ pre first post, events = pre ++ first :: post ∧
    first.chain = order.dstChain ∧ first.kind ≠ .lock ∧
    (∃ lock ∈ pre, lock.chain = order.srcChain ∧ lock.kind = .lock ∧
      Attributed D order lock pre first) ∧
    ∃ settlement ∈ post, settlement.chain = order.srcChain ∧ settlement.kind ≠ .lock ∧
      settlement.kind ≠ first.kind

theorem rowRun_settled (events : List BridgeOrderEvent)
    (hstatus : row.status = .completed ∨ row.status = .refunded) :
    events.foldl (rowStep D) row = row := by
  induction events with
  | nil => rfl
  | cons event events ih => rw [List.foldl_cons, rowStep_settled hstatus, ih]

section Final

variable {events : List BridgeOrderEvent} (hannounced : AnnouncedOrder orders order)
  (hpermitted : Permitted D orders order events)

include hannounced hpermitted

/-- The destination settlement that overtakes the source leg decides the status. -/
theorem overtaken_status {pre post : List BridgeOrderEvent} {first lock settlement : BridgeOrderEvent}
    (hevents : events = pre ++ first :: post) (hchain : first.chain = order.dstChain)
    (hkind : first.kind ≠ .lock) (hmem : lock ∈ pre) (hsrc : lock.chain = order.srcChain)
    (hattributed : Attributed D order lock pre first)
    (hlater : settlement ∈ post) (hsettlement : settlement.chain = order.srcChain) :
    (rowRun D order events).status = settledStatus first.kind := by
  rw [hevents] at hpermitted ⊢
  have hstatus : (rowStep D (rowRun D order pre) first).status = settledStatus first.kind := by
    have hleg : lock ∈ legOf order.srcChain pre := mem_legOf.mpr ⟨hmem, hsrc⟩
    generalize hrow : rowRun D order pre = row
    have hphase : Phase D order pre row := hrow ▸ phase_run hannounced hpermitted.of_append
    cases hphase with
    | announced hnil =>
        rw [hnil] at hleg
        cases hleg
    | @escrowed _ _ lock' hpre _ hescrowed =>
        rw [hpre] at hleg
        obtain rfl := List.mem_singleton.mp hleg
        have hdst : LegHistory D (legOf order.dstChain (pre ++ [first])) := by
          have hall := hpermitted.dst
          rw [List.append_cons, legOf_append] at hall
          exact hall.of_append
        rw [legOf_concat hchain] at hdst
        rcases hdst.last with ⟨_, hfirst⟩ | ⟨dstLock, hdstLock, hlocked, hsettles⟩
        · exact absurd hfirst.kind hkind
        · refine rowStep_settles hescrowed.status hescrowed.preimage hkind ?_ hsettles.preimage
          exact (hescrowed.attributable_iff hannounced.chains hchain hdstLock hlocked hsettles).mpr
            hattributed
    | @settled pre' post' _ lock' decided hpre' _ hdecided _ _ =>
        -- A leg that has settled before `first` has nothing left in `first :: post`.
        have hmem' : decided ∈ pre' ++ decided :: post' := by simp
        by_cases hsource : decided.chain = order.srcChain
        · have hall := hpermitted.src
          rw [legOf_append] at hall
          have hnil := hall.settled_end (mem_legOf.mpr ⟨hmem', hsource⟩) hdecided
          have hrest : settlement ∈ legOf order.srcChain (first :: post) :=
            mem_legOf.mpr ⟨List.mem_cons_of_mem _ hlater, hsettlement⟩
          rw [hnil] at hrest
          cases hrest
        · have hall := hpermitted.dst
          rw [legOf_append] at hall
          have hdst := chain_other hannounced.chains hsource
          have hnil := hall.settled_end (mem_legOf.mpr ⟨hmem', hdst⟩) hdecided
          have hrest : first ∈ legOf order.dstChain (first :: post) :=
            mem_legOf.mpr ⟨List.mem_cons_self, hchain⟩
          rw [hnil] at hrest
          cases hrest
  rw [rowRun, List.foldl_append, List.foldl_cons, rowRun_settled post]
  · exact hstatus
  · rw [← rowRun, hstatus]
    exact settledStatus_settled _

/-- A status that contradicts the source leg comes from a settlement that overtook it. -/
theorem overtaken_of_status {settlement : BridgeOrderEvent} (hmem : settlement ∈ events)
    (hchain : settlement.chain = order.srcChain) (hkind : settlement.kind ≠ .lock)
    (hstatus : (rowRun D order events).status = .completed ∨
      (rowRun D order events).status = .refunded)
    (hother : (rowRun D order events).status ≠ settledStatus settlement.kind) :
    Overtaken D order events := by
  generalize hrow : rowRun D order events = row at hstatus hother
  have hphase : Phase D order events row := hrow ▸ phase_run hannounced hpermitted
  cases hphase with
  | announced _ =>
      rw [hannounced.status] at hstatus
      rcases hstatus with h | h
      · cases h
      · cases h
  | escrowed _ _ hescrowed =>
      rcases hescrowed.status with h | h
      · rw [h] at hstatus
        rcases hstatus with h | h
        · cases h
        · cases h
      · rw [h] at hstatus
        rcases hstatus with h | h
        · cases h
        · cases h
  | @settled pre post _ lock first hpre hlock hfirst hsource hvalue =>
      have hdiffers : settlement ≠ first := by
        rintro rfl
        exact hother hvalue
      have hlockMem := mem_legOf.mp (hpre ▸ List.mem_singleton_self lock)
      have hdst : first.chain ≠ order.srcChain := by
        intro hsame
        have hsettlement : settlement ∈ legOf order.srcChain (pre ++ first :: post) :=
          mem_legOf.mpr ⟨hmem, hchain⟩
        have hfirstMem : first ∈ legOf order.srcChain (pre ++ first :: post) :=
          mem_legOf.mpr ⟨by simp, hsame⟩
        exact hdiffers (hpermitted.src.settlement_unique hsettlement hfirstMem hkind hfirst)
      have hpost : settlement ∈ post := by
        rcases List.mem_append.mp hmem with hbefore | hafter
        · have hleg : settlement ∈ legOf order.srcChain pre := mem_legOf.mpr ⟨hbefore, hchain⟩
          rw [hpre] at hleg
          rw [List.mem_singleton.mp hleg] at hkind
          exact absurd hlock.kind hkind
        · exact (List.mem_cons.mp hafter).resolve_left hdiffers
      refine ⟨pre, first, post, rfl, chain_other hannounced.chains hdst, hfirst,
        ⟨lock, hlockMem.1, hlockMem.2, hlock.kind, hsource.resolve_left hdst⟩,
        settlement, hpost, hchain, hkind, ?_⟩
      intro hsame
      rw [hsame] at hother
      exact hother hvalue

theorem reflects_iff : Reflects order (rowRun D order events) events ↔ ¬ Overtaken D order events := by
  constructor
  · rintro hreflects ⟨pre, first, post, hevents, hchain, hkind, ⟨lock, hmem, hsrc, _, hattributed⟩,
      settlement, hlater, hsettlement, hnotLock, hdiffers⟩
    have hstatus := overtaken_status hannounced hpermitted hevents hchain hkind hmem hsrc
      hattributed hlater hsettlement
    have hsettlementMem : settlement ∈ events := by
      rw [hevents]
      exact List.mem_append_right _ (List.mem_cons_of_mem _ hlater)
    obtain ⟨hrefund, hclaim⟩ := hreflects settlement hsettlementMem hsettlement
    cases hfirst : first.kind with
    | lock => exact hkind hfirst
    | claim =>
        rw [hfirst] at hstatus hdiffers
        cases hvalue : settlement.kind with
        | lock => exact hnotLock hvalue
        | claim => exact hdiffers hvalue
        | refund => exact hrefund hvalue hstatus
    | refund =>
        rw [hfirst] at hstatus hdiffers
        cases hvalue : settlement.kind with
        | lock => exact hnotLock hvalue
        | claim => exact hclaim hvalue hstatus
        | refund => exact hdiffers hvalue
  · intro hnot event hmem hchain
    refine ⟨fun hkind hstatus => hnot ?_, fun hkind hstatus => hnot ?_⟩
    · refine overtaken_of_status hannounced hpermitted hmem hchain ?_ (.inl hstatus) ?_
      · rw [hkind]
        decide
      · rw [hstatus, hkind]
        decide
    · refine overtaken_of_status hannounced hpermitted hmem hchain ?_ (.inr hstatus) ?_
      · rw [hkind]
        decide
      · rw [hstatus, hkind]
        decide

end Final

/-- An order whose hashlock was announced before it is not touched. -/
theorem deliver_shadowed (clock : ℕ → ℕ) {events : List BridgeOrderEvent}
    (hannounced : AnnouncedOrder db.orders order)
    (hshadowed : findHashlock db.orders order.hashlock ≠ some order)
    (habout : ∀ event ∈ events, About D db.orders order event) :
    findId (runAll (deliver D clock) events db).orders order.publicId = some order := by
  have hunique := hannounced.unique
  obtain ⟨stored, hmem, hstored, _⟩ := findRow_mem hannounced.stored
  have horder : order ∈ rowsOf db.orders := List.mem_map.mpr ⟨stored, hmem, hstored⟩
  cases hfind : findHashlock db.orders order.hashlock with
  | none =>
      rw [findHashlock, findRow_rows, List.find?_eq_none] at hfind
      exact absurd (by simp) (hfind order horder)
  | some first =>
      have hhashlock : first.hashlock = order.hashlock := by
        obtain ⟨_, _, _, hp⟩ := findRow_mem hfind
        simpa using hp
      have hother : order.publicId ≠ first.publicId := by
        intro hid
        have hsame := rows_unique hunique (findRow_unique hunique hfind) horder hid
        rw [hsame] at hfind hshadowed
        exact hshadowed hfind
      have habout' : ∀ event ∈ events, About D db.orders first event := fun event hevent => by
        obtain ⟨hlock, hgiven, hfresh⟩ := habout event hevent
        exact ⟨hhashlock ▸ hlock, hhashlock ▸ hgiven, hfresh⟩
      obtain ⟨hsame, hbook⟩ := deliver_run clock hunique (hhashlock ▸ hfind) habout'
      have hrow : order ∈ rowsOf (runAll (deliver D clock) events db).orders := by
        rw [hbook]
        exact List.mem_map.mpr ⟨order, horder, if_neg hother⟩
      obtain ⟨stored', hmem', rfl⟩ := List.mem_map.mp hrow
      exact findId_mem (replaced_uniqueIds hunique hbook hsame.publicId) hmem'

/-- The final status reflects the source leg unless the destination leg overtakes it. -/
theorem final_status_iff (clock : ℕ → ℕ) {events : List BridgeOrderEvent}
    (hannounced : AnnouncedOrder db.orders order) (hpermitted : Permitted D db.orders order events) :
    (∃ row, findId (runAll (deliver D clock) events db).orders order.publicId = some row ∧
        Reflects order row events) ↔
      ¬ (findHashlock db.orders order.hashlock = some order ∧ Overtaken D order events) := by
  by_cases hself : findHashlock db.orders order.hashlock = some order
  · rw [deliver_findId clock hannounced.unique hself hpermitted.about, not_and_or,
      ← reflects_iff hannounced hpermitted]
    simp [hself]
  · rw [deliver_shadowed clock hannounced hself hpermitted.about]
    refine ⟨fun _ h => hself h.1, fun _ => ⟨order, rfl, fun event _ _ => ?_⟩⟩
    rw [hannounced.status]
    exact ⟨fun _ => by decide, fun _ => by decide⟩

/-! ## Order 7 on both chains -/

def order7 : OrderRow := input7.row 1 "a1"

def srcLock7 : BridgeOrderEvent := EthereumListener.createdEvent createdLog7

/-- The escrow of the destination leg is order 3 on Stellar. -/
def dstLock7 : BridgeOrderEvent where
  kind := .lock
  chain := .stellar
  txHash := "0xcc"
  blockNumber := 55
  orderId := some "3"
  hashlock := some hashlock7
  timelock := some 1700005000
  preimage := none

def dstClaim7 : BridgeOrderEvent where
  kind := .claim
  chain := .stellar
  txHash := "0xdd"
  blockNumber := 56
  orderId := some "3"
  hashlock := none
  timelock := none
  preimage := some preimage7

def srcRefund7 : BridgeOrderEvent :=
  EthereumListener.settlementEvent .refunded ⟨7, none, "0xee", 3, 140⟩

/-- The destination leg is claimed before the source leg settles. -/
def history7 (settlement : BridgeOrderEvent) : List BridgeOrderEvent :=
  [srcLock7, dstLock7, dstClaim7, settlement]

theorem order7_facts :
    (∃ stored ∈ (announced7 input7).orders, stored.toOrderRow = order7) ∧
      (∀ row ∈ rowsOf (announced7 input7).orders,
        row.srcOrderId = none ∧ row.dstOrderId = none) ∧
      truthy (some hashlock7) = some order7.hashlock ∧
      truthy srcLock7.orderId = some "7" ∧ truthy dstLock7.orderId = some "3" ∧
      truthy srcRefund7.orderId = truthy srcLock7.orderId ∧
      truthy (some preimage7) = some preimage7 := by
  decide

theorem announcedOrder7 : AnnouncedOrder (announced7 input7).orders order7 := by
  obtain ⟨stored, hmem, hrow⟩ := order7_facts.1
  have hstatus : stored.toOrderRow.status = .announced := by
    rw [hrow]
    rfl
  rw [← hrow]
  exact announcedOrder_run (runAll_execution _ _) hmem hstatus

/-- In a book without on-chain ids, every on-chain id is new. -/
theorem fresh_of_unlocked (h : ∀ row ∈ rowsOf orders, row.srcOrderId = none ∧ row.dstOrderId = none)
    (chain : Chain) (orderId : String) :
    findSrc orders chain orderId = none ∧ findDst orders chain orderId = none := by
  rw [findSrc, findDst, findRow_rows, findRow_rows, List.find?_eq_none, List.find?_eq_none]
  refine ⟨fun row hmem => ?_, fun row hmem => ?_⟩
  · simp [(h row hmem).1]
  · simp [(h row hmem).2]

theorem permitted7 {settlement : BridgeOrderEvent} (hchain : settlement.chain = .ethereum)
    (hhashlock : settlement.hashlock = none) (hsettles : Settles deployment7 srcLock7 settlement) :
    Permitted deployment7 (announced7 input7).orders order7 (history7 settlement) where
  src := by
    have hleg : legOf order7.srcChain (history7 settlement) = [srcLock7, settlement] := by
      have hsettlement : legOf .ethereum [settlement] = [settlement] := by simp [legOf, hchain]
      exact congrArg (srcLock7 :: ·) hsettlement
    rw [hleg]
    exact .settled ⟨rfl, ⟨"7", order7_facts.2.2.2.1⟩, ⟨1700010000, rfl⟩⟩ hsettles
  dst := by
    have hleg : legOf order7.dstChain (history7 settlement) = [dstLock7, dstClaim7] := by
      have hsettlement : legOf .stellar [settlement] = [] := by simp [legOf, hchain]
      exact congrArg ([dstLock7, dstClaim7] ++ ·) hsettlement
    rw [hleg]
    exact .settled ⟨rfl, ⟨"3", order7_facts.2.2.2.2.1⟩, ⟨1700005000, rfl⟩⟩
      ⟨by decide, rfl, fun _ => ⟨preimage7, order7_facts.2.2.2.2.2.2⟩⟩
  about event hmem := by
    have hunlocked := order7_facts.2.1
    have hgiven : event.hashlock = some hashlock7 ∨ event.hashlock = none ∧ event.kind ≠ .lock := by
      simp only [history7, List.mem_cons, List.not_mem_nil, or_false] at hmem
      rcases hmem with rfl | rfl | rfl | rfl
      · exact .inl rfl
      · exact .inl rfl
      · exact .inr (by decide)
      · exact .inr ⟨hhashlock, hsettles.kind⟩
    have hlower := order7_facts.2.2.1
    refine ⟨fun hkind => ?_, fun hashlock heq => ?_, fun orderId _ => fresh_of_unlocked hunlocked _ _⟩
    · rcases hgiven with h | h
      · rw [h]
        exact hlower
      · exact absurd hkind h.2
    · rcases hgiven with h | h
      · rw [h, hlower] at heq
        exact (Option.some.inj heq).symm
      · rw [h.1] at heq
        cases heq

theorem settles7_claim : Settles deployment7 srcLock7 (claim7 preimage7) :=
  ⟨by decide, rfl, fun _ => ⟨preimage7, order7_facts.2.2.2.2.2.2⟩⟩

theorem settles7_refund : Settles deployment7 srcLock7 srcRefund7 :=
  ⟨by decide, order7_facts.2.2.2.2.2.1, fun h => by cases h⟩

theorem final_status_order7 :
    ∃ row, findId (runAll (deliver deployment7 fun _ => 1700000000) (history7 (claim7 preimage7))
        (announced7 input7)).orders "a1" = some row ∧
      Reflects order7 row (history7 (claim7 preimage7)) := by
  refine (final_status_iff (fun _ => 1700000000) announcedOrder7
    (permitted7 rfl rfl settles7_claim)).mpr ?_
  rintro ⟨_, pre, first, post, hevents, _, hkind, _, settlement, hmem, _, hkind', hdiffers⟩
  have hclaims : ∀ event ∈ history7 (claim7 preimage7), event.kind ≠ .lock → event.kind = .claim := by
    decide
  rw [hevents] at hclaims
  rw [hclaims first (by simp) hkind, hclaims settlement (by simp [hmem]) hkind'] at hdiffers
  exact hdiffers rfl

/-- The destination leg is claimed, the source leg is refunded, and the order is completed. -/
theorem completed_though_refunded :
    ¬ ∀ (D : Deployment) (clock : ℕ → ℕ) (db : Database) (order : OrderRow)
        (events : List BridgeOrderEvent), AnnouncedOrder db.orders order →
      Permitted D db.orders order events →
      ∃ row, findId (runAll (deliver D clock) events db).orders order.publicId = some row ∧
        Reflects order row events := by
  intro h
  obtain ⟨row, hfind, hreflects⟩ := h deployment7 (fun _ => 1700000000) (announced7 input7) order7
    (history7 srcRefund7) announcedOrder7 (permitted7 rfl rfl settles7_refund)
  have hstatus : (findId (runAll (deliver deployment7 fun _ => 1700000000) (history7 srcRefund7)
      (announced7 input7)).orders order7.publicId).map (·.status) = some .completed := by
    decide
  rw [hfind] at hstatus
  have hrefund : srcRefund7 ∈ history7 srcRefund7 := by simp [history7]
  exact (hreflects srcRefund7 hrefund rfl).1 rfl (Option.some.inj hstatus)

end OverSync.Coordinator
