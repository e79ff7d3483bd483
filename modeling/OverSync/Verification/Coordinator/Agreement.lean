import OverSync.Verification.Coordinator.CrashSafety
import OverSync.Verification.Coordinator.Delivery

/-! # Live and catch-up handling of settlements

The settlement logs of an order are applied live one by one, or they are processed as a batch.
Both ways are followed on the row of the order. -/

namespace OverSync.Coordinator

open Library Library.Procedure

variable {D : Deployment} {clock : ℕ → ℕ} {nowSec : ℤ} {networkId : String} {db u : Database}
  {orders orders' : List StoredOrder} {order row row' : OrderRow}

/-- A settlement log of the escrow on Ethereum. -/
structure Settlement where
  kind : SettlementKind
  log : SettlementLog
  deriving DecidableEq

namespace Settlement

def live (s : Settlement) : BridgeOrderEvent := EthereumListener.settlementEvent s.kind s.log

def caughtUp (s : Settlement) : SettlementEvent := EthereumListener.toSettlement s.kind s.log

/-- The preimage of a claim, in lower case. -/
def secret (D : Deployment) (s : Settlement) : Option String := s.log.preimage.map D.toLowerCase

end Settlement

variable {s : Settlement}

/-! ## The two ways on a row -/

/-- A claim that the live path records: the secret is new to a locked order, or known to an order
that waits for its claim. -/
def Moves (D : Deployment) (row : OrderRow) (s : Settlement) : Prop :=
  s.kind = .claimed ∧ ∃ preimage, s.secret D = some preimage ∧
    ((row.status = .srcLocked ∨ row.status = .dstLocked) ∧ row.preimage ≠ some preimage ∨
      row.status = .secretRevealed ∧ row.preimage = some preimage)

/-- A claim that contradicts the stored secret and does not repeat its transaction. -/
def Clashes (D : Deployment) (row : OrderRow) (s : Settlement) : Prop :=
  s.kind = .claimed ∧ ∃ preimage stored, s.secret D = some preimage ∧
    row.preimage = some stored ∧ stored ≠ preimage ∧
    ¬ (row.secretRevealedTx = some s.log.transactionHash ∧ stored ≠ "")

/-- What catching up makes of the row of an order where no error stops it. -/
inductive Caught (D : Deployment) (s : Settlement) (row : OrderRow) : OrderRow → Prop where
  | refund : s.kind = .refunded → IsEdge row.status .refunded →
      Caught D s row (row.withStatus .refunded)
  | secret {preimage : String} : s.kind = .claimed → s.secret D = some preimage →
      row.preimage = none → IsEdge row.status .secretRevealed →
      Caught D s row (row.withSecret preimage s.log.transactionHash)
  | skip : (s.kind = .refunded → ¬ IsEdge row.status .refunded) → ¬ Clashes D row s →
      Caught D s row row

/-- Catching up with settlements, up to the first that clashes. -/
inductive CatchesUp (D : Deployment) : OrderRow → List Settlement → OrderRow → Prop where
  | nil {row : OrderRow} : CatchesUp D row [] row
  | cons {row row' final : OrderRow} {s : Settlement} {settlements : List Settlement} :
      Caught D s row row' → CatchesUp D row' settlements final →
      CatchesUp D row (s :: settlements) final
  | stuck {row : OrderRow} {s : Settlement} {settlements : List Settlement} :
      Clashes D row s → CatchesUp D row (s :: settlements) row

def liveRun (D : Deployment) (row : OrderRow) (settlements : List Settlement) : OrderRow :=
  settlements.foldl (fun row s => liveRow D s.live row) row

/-- The claims before the first refund. -/
def firstClaims (settlements : List Settlement) : List Settlement :=
  settlements.takeWhile fun s => s.kind = .claimed

/-- The preimage of every claim is given. -/
def HasSecret (D : Deployment) (s : Settlement) : Prop :=
  s.kind = .claimed → ∃ preimage, truthy (s.secret D) = some preimage

theorem isEdge_secretRevealed {status : OrderStatus} :
    IsEdge status .secretRevealed ↔ status = .srcLocked ∨ status = .dstLocked := by
  cases status <;> decide

theorem isEdge_completed {status : OrderStatus} :
    IsEdge status .completed ↔ status = .secretRevealed := by
  cases status <;> decide

theorem truthy_some {value : Option String} {text : String} (h : truthy value = some text) :
    value = some text :=
  (Option.filter_eq_some_iff.mp h).1

/-! ### Live -/

theorem liveRow_refund (hkind : s.kind = .refunded) :
    liveRow D s.live row = statusRow .refunded row := by
  simp only [liveRow, Settlement.live, EthereumListener.settlementEvent, hkind]

theorem liveRow_claim (hkind : s.kind = .claimed) {preimage : String}
    (hsecret : truthy (s.secret D) = some preimage) :
    liveRow D s.live row =
      if row.preimage ≠ some preimage then
        if IsEdge row.status .secretRevealed then
          statusRow .completed (row.withSecret preimage s.log.transactionHash)
        else row
      else statusRow .completed row := by
  have hgiven : truthy (s.live.preimage.map D.toLowerCase) = some preimage := by
    simp only [Settlement.live, EthereumListener.settlementEvent, hkind]
    exact hsecret
  have hclaim : liveRow D s.live row = claimRow D s.live row := by
    simp only [liveRow, Settlement.live, EthereumListener.settlementEvent, hkind]
  rw [hclaim, claimRow, hgiven]
  rfl

/-- A claim that moves an order completes it. -/
theorem liveRow_moves (hsecret : HasSecret D s) (h : Moves D row s) :
    (liveRow D s.live row).status = .completed := by
  obtain ⟨hkind, preimage, hgiven, hrow⟩ := h
  obtain ⟨preimage', hpreimage'⟩ := hsecret hkind
  obtain rfl := Option.some.inj ((truthy_some hpreimage').symm.trans hgiven)
  rw [liveRow_claim hkind hpreimage']
  rcases hrow with ⟨hlocked, hnew⟩ | ⟨hrevealed, hknown⟩
  · rw [if_pos hnew, if_pos (isEdge_secretRevealed.mpr hlocked)]
    exact congrArg OrderRow.status (if_pos ⟨isEdge_completed.mpr rfl, rfl⟩)
  · rw [if_neg (not_not_intro hknown)]
    exact congrArg OrderRow.status (if_pos ⟨isEdge_completed.mpr hrevealed, rfl⟩)

/-- A claim that does not move an order leaves it alone. -/
theorem liveRow_stays (hsecret : HasSecret D s) (hkind : s.kind = .claimed) (h : ¬ Moves D row s) :
    liveRow D s.live row = row := by
  obtain ⟨preimage, hpreimage⟩ := hsecret hkind
  have hgiven := truthy_some hpreimage
  rw [liveRow_claim hkind hpreimage]
  by_cases hnew : row.preimage ≠ some preimage
  · have hlocked : ¬ IsEdge row.status .secretRevealed := fun hedge =>
      h ⟨hkind, preimage, hgiven, .inl ⟨isEdge_secretRevealed.mp hedge, hnew⟩⟩
    rw [if_pos hnew, if_neg hlocked]
  · have hrevealed : ¬ IsEdge row.status .completed := fun hedge =>
      h ⟨hkind, preimage, hgiven, .inr ⟨isEdge_completed.mp hedge, not_not.mp hnew⟩⟩
    rw [if_neg hnew]
    exact if_neg fun hedge => hrevealed hedge.1

theorem liveRun_cons (row : OrderRow) (s : Settlement) (settlements : List Settlement) :
    liveRun D row (s :: settlements) = liveRun D (liveRow D s.live row) settlements := rfl

theorem not_moves (h : ¬ (row.status = .srcLocked ∨ row.status = .dstLocked ∨
    row.status = .secretRevealed)) : ¬ Moves D row s := by
  rintro ⟨_, _, _, ⟨hlocked | hlocked, _⟩ | ⟨hrevealed, _⟩⟩
  · exact h (.inl hlocked)
  · exact h (.inr (.inl hlocked))
  · exact h (.inr (.inr hrevealed))

theorem not_moves_refundless (h : ¬ IsEdge row.status .refunded) : ¬ Moves D row s := by
  refine not_moves fun hstatus => h ?_
  rcases hstatus with h | h | h
  all_goals
    rw [h]
    decide

theorem not_isEdge_statusRow {value : OrderStatus} :
    ¬ IsEdge (statusRow value row).status value := by
  rw [statusRow, Edit.under]
  split
  · exact not_isEdge_self value
  · rename_i hnot
    exact fun hedge => hnot ⟨hedge, rfl⟩

/-- A row that no settlement can move. -/
theorem liveRun_stays {settlements : List Settlement} (hsecrets : ∀ s ∈ settlements, HasSecret D s)
    (h : ¬ IsEdge row.status .refunded) : liveRun D row settlements = row := by
  induction settlements with
  | nil => rfl
  | cons s settlements ih =>
      have hrow : liveRow D s.live row = row := by
        cases hkind : s.kind with
        | claimed => exact liveRow_stays (hsecrets s (by simp)) hkind (not_moves_refundless h)
        | refunded =>
            rw [liveRow_refund hkind]
            exact if_neg fun hedge => h hedge.1
      rw [liveRun_cons, hrow]
      exact ih fun other hmem => hsecrets other (List.mem_cons_of_mem _ hmem)

/-- A claim that moves the order before any refund completes it for good. -/
theorem liveRun_moves {settlements : List Settlement} (hsecrets : ∀ s ∈ settlements, HasSecret D s)
    (h : ∃ s ∈ firstClaims settlements, Moves D row s) :
    (liveRun D row settlements).status = .completed := by
  induction settlements with
  | nil =>
      obtain ⟨_, hmem, _⟩ := h
      cases hmem
  | cons s settlements ih =>
      have hrest : ∀ s ∈ settlements, HasSecret D s := fun other hmem =>
        hsecrets other (List.mem_cons_of_mem _ hmem)
      obtain ⟨claim, hmem, hmoves⟩ := h
      have hkind : s.kind = .claimed := by
        by_contra hrefund
        simp [firstClaims, hrefund] at hmem
      have hfirst : firstClaims (s :: settlements) = s :: firstClaims settlements := by
        simp [firstClaims, hkind]
      rw [liveRun_cons]
      by_cases hself : Moves D row s
      · have hcompleted := liveRow_moves (hsecrets s (by simp)) hself
        have hstays : ¬ IsEdge (liveRow D s.live row).status .refunded := by
          rw [hcompleted]
          decide
        rw [liveRun_stays hrest hstays]
        exact hcompleted
      · rw [liveRow_stays (hsecrets s (by simp)) hkind hself]
        rw [hfirst] at hmem
        rcases List.mem_cons.mp hmem with rfl | hlater
        · exact absurd hmoves hself
        · exact ih hrest ⟨claim, hlater, hmoves⟩

/-- Where no claim moves the order before the first refund, only that refund can. -/
theorem liveRun_refunds {settlements : List Settlement}
    (hsecrets : ∀ s ∈ settlements, HasSecret D s)
    (h : ∀ s ∈ firstClaims settlements, ¬ Moves D row s) :
    liveRun D row settlements =
      if ∃ s ∈ settlements, s.kind = .refunded then statusRow .refunded row else row := by
  induction settlements with
  | nil => simp [liveRun]
  | cons s settlements ih =>
      have hrest : ∀ s ∈ settlements, HasSecret D s := fun other hmem =>
        hsecrets other (List.mem_cons_of_mem _ hmem)
      rw [liveRun_cons]
      cases hkind : s.kind with
      | claimed =>
          have hfirst : firstClaims (s :: settlements) = s :: firstClaims settlements := by
            simp [firstClaims, hkind]
          rw [hfirst] at h
          rw [liveRow_stays (hsecrets s (by simp)) hkind (h s (by simp)),
            ih hrest fun other hmem => h other (List.mem_cons_of_mem _ hmem)]
          simp [hkind]
      | refunded =>
          rw [liveRow_refund hkind, liveRun_stays hrest not_isEdge_statusRow, if_pos ⟨s, by simp, hkind⟩]

/-! ### Catching up -/

theorem Caught.not_completed (h : Caught D s row row') (hstatus : row.status ≠ .completed) :
    row'.status ≠ .completed := by
  cases h with
  | refund _ _ => exact nofun
  | secret _ _ _ _ => exact nofun
  | skip _ _ => exact hstatus

/-- Catching up completes no order. -/
theorem CatchesUp.not_completed {settlements : List Settlement} {final : OrderRow}
    (h : CatchesUp D row settlements final) (hstatus : row.status ≠ .completed) :
    final.status ≠ .completed := by
  induction h with
  | nil => exact hstatus
  | cons hcaught _ ih => exact ih (hcaught.not_completed hstatus)
  | stuck _ => exact hstatus

theorem Caught.not_clashes (h : Caught D s row row') : ¬ Clashes D row s := by
  rintro ⟨hclaim, _, _, _, hstored, _⟩
  cases h with
  | refund hrefund _ =>
      rw [hclaim] at hrefund
      cases hrefund
  | secret _ _ hnone _ =>
      rw [hnone] at hstored
      cases hstored
  | skip _ hnot => exact hnot ⟨hclaim, _, _, ‹_›, hstored, ‹_›⟩

/-- A claim that does not move an order, live, leaves it alone. -/
theorem Caught.claim_stays (h : Caught D s row row') (hkind : s.kind = .claimed)
    (hmoves : ¬ Moves D row s) : row' = row := by
  cases h with
  | refund hrefund _ =>
      rw [hkind] at hrefund
      cases hrefund
  | secret _ hsecret hnone hedge =>
      refine absurd ⟨hkind, _, hsecret, .inl ⟨isEdge_secretRevealed.mp hedge, ?_⟩⟩ hmoves
      rw [hnone]
      exact nofun
  | skip _ _ => rfl

theorem Caught.refund_row (h : Caught D s row row') (hkind : s.kind = .refunded) :
    row' = statusRow .refunded row := by
  cases h with
  | refund _ hedge => exact (if_pos ⟨hedge, rfl⟩).symm
  | secret hclaim _ _ _ =>
      rw [hkind] at hclaim
      cases hclaim
  | skip hnot _ => exact (if_neg fun h => hnot hkind h.1).symm

theorem CatchesUp.stays {settlements : List Settlement} {final : OrderRow}
    (h : CatchesUp D row settlements final) (hstatus : ¬ IsEdge row.status .refunded) :
    final = row := by
  induction h with
  | nil => rfl
  | @cons row row' final s settlements hcaught _ ih =>
      have hrow : row' = row := by
        cases hkind : s.kind with
        | claimed => exact hcaught.claim_stays hkind (not_moves_refundless hstatus)
        | refunded =>
            rw [hcaught.refund_row hkind]
            exact if_neg fun hedge => hstatus hedge.1
      rw [hrow] at ih
      exact ih hstatus
  | stuck _ => rfl

/-- There is a refund, and no claim before it clashes. -/
def ReachesRefund (D : Deployment) (row : OrderRow) (settlements : List Settlement) : Prop :=
  (∀ s ∈ firstClaims settlements, ¬ Clashes D row s) ∧ ∃ s ∈ settlements, s.kind = .refunded

theorem reachesRefund_cons {settlements : List Settlement} (hkind : s.kind = .claimed)
    (hclash : ¬ Clashes D row s) :
    ReachesRefund D row (s :: settlements) ↔ ReachesRefund D row settlements := by
  have hfirst : firstClaims (s :: settlements) = s :: firstClaims settlements := by
    simp [firstClaims, hkind]
  unfold ReachesRefund
  rw [hfirst]
  simp [hclash, hkind]

/-- Where no claim moves the order before the first refund, only that refund can change it, if it
is reached. -/
theorem CatchesUp.refunds {settlements : List Settlement} {final : OrderRow}
    (h : CatchesUp D row settlements final)
    (hmoves : ∀ s ∈ firstClaims settlements, ¬ Moves D row s) :
    ReachesRefund D row settlements ∧ final = statusRow .refunded row ∨
      ¬ ReachesRefund D row settlements ∧ final = row := by
  induction h with
  | nil => exact .inr ⟨by simp [ReachesRefund], rfl⟩
  | @cons row row' final s settlements hcaught hrest ih =>
      cases hkind : s.kind with
      | claimed =>
          have hfirst : firstClaims (s :: settlements) = s :: firstClaims settlements := by
            simp [firstClaims, hkind]
          rw [hfirst] at hmoves
          have hrow := hcaught.claim_stays hkind (hmoves s List.mem_cons_self)
          rw [hrow] at ih
          rw [reachesRefund_cons hkind hcaught.not_clashes]
          exact ih fun other hmem => hmoves other (List.mem_cons_of_mem _ hmem)
      | refunded =>
          have hfirst : firstClaims (s :: settlements) = [] := by
            simp [firstClaims, hkind]
          have hrow := hcaught.refund_row hkind
          have hstays : ¬ IsEdge row'.status .refunded := by
            rw [hrow]
            exact not_isEdge_statusRow
          refine .inl ⟨⟨?_, s, List.mem_cons_self, hkind⟩, (hrest.stays hstays).trans hrow⟩
          rw [hfirst]
          exact nofun
  | @stuck row s settlements hclash =>
      have hfirst : firstClaims (s :: settlements) = s :: firstClaims settlements := by
        simp [firstClaims, hclash.1]
      refine .inr ⟨fun h => h.1 s ?_ hclash, rfl⟩
      rw [hfirst]
      exact List.mem_cons_self

/-! ### Both -/

/-- No claim before the first refund moves the order, and where a refund can be recorded, no claim
before it clashes. -/
def Agreeable (D : Deployment) (order : OrderRow) (settlements : List Settlement) : Prop :=
  (∀ s ∈ firstClaims settlements, ¬ Moves D order s) ∧
    ((∃ s ∈ settlements, s.kind = .refunded) → IsEdge order.status .refunded →
      ∀ s ∈ firstClaims settlements, ¬ Clashes D order s)

theorem rows_agree_iff {settlements : List Settlement} {final : OrderRow}
    (hsecrets : ∀ s ∈ settlements, HasSecret D s) (h : CatchesUp D order settlements final) :
    ((liveRun D order settlements).status = final.status ∧
        (liveRun D order settlements).preimage = final.preimage) ↔ Agreeable D order settlements := by
  by_cases hmoves : ∀ s ∈ firstClaims settlements, ¬ Moves D order s
  · rw [liveRun_refunds hsecrets hmoves]
    by_cases hedge : IsEdge order.status .refunded
    · have hrefunded : statusRow .refunded order = order.withStatus .refunded :=
        if_pos ⟨hedge, rfl⟩
      have hother : (order.withStatus .refunded).status ≠ order.status := by
        intro hsame
        rw [← hsame] at hedge
        exact not_isEdge_self _ hedge
      rw [hrefunded]
      rcases h.refunds hmoves with ⟨hreached, hfinal⟩ | ⟨hnot, hfinal⟩
      · rw [hfinal, hrefunded, if_pos hreached.2]
        exact ⟨fun _ => ⟨hmoves, fun _ _ => hreached.1⟩, fun _ => ⟨rfl, rfl⟩⟩
      · rw [hfinal]
        by_cases hrefund : ∃ s ∈ settlements, s.kind = .refunded
        · rw [if_pos hrefund]
          exact ⟨fun h => absurd h.1 hother, fun h => absurd ⟨h.2 hrefund hedge, hrefund⟩ hnot⟩
        · rw [if_neg hrefund]
          exact ⟨fun _ => ⟨hmoves, fun h => absurd h hrefund⟩, fun _ => ⟨rfl, rfl⟩⟩
    · have hsame : statusRow .refunded order = order := if_neg fun h => hedge h.1
      have hfinal : final = order := h.stays hedge
      rw [hfinal, hsame, ite_self]
      exact ⟨fun _ => ⟨hmoves, fun _ h => absurd h hedge⟩, fun _ => ⟨rfl, rfl⟩⟩
  · refine ⟨fun hagree => ?_, fun h => absurd h.1 hmoves⟩
    have hmoves' : ∃ s ∈ firstClaims settlements, Moves D order s := by simpa using hmoves
    have hcompleted := liveRun_moves hsecrets hmoves'
    obtain ⟨claim, _, hclaim⟩ := hmoves'
    have hopen : order.status ≠ .completed := by
      intro hstatus
      refine not_moves ?_ hclaim
      rw [hstatus]
      decide
    rw [hcompleted] at hagree
    exact absurd hagree.1.symm (h.not_completed hopen)

/-! ## The two ways on the order book -/

/-- The row of an order after settlements. -/
structure SameLegs (order row : OrderRow) : Prop where
  same : SameOrder order row
  srcOrderId : row.srcOrderId = order.srcOrderId
  dstOrderId : row.dstOrderId = order.dstOrderId
  srcTimelock : row.srcTimelock = order.srcTimelock
  dstTimelock : row.dstTimelock = order.dstTimelock

theorem SameLegs.refl (order : OrderRow) : SameLegs order order := ⟨.refl order, rfl, rfl, rfl, rfl⟩

theorem SameLegs.withStatus (h : SameLegs order row) (value : OrderStatus) :
    SameLegs order (row.withStatus value) :=
  ⟨h.same.edit (.status row.publicId value), h.srcOrderId, h.dstOrderId, h.srcTimelock, h.dstTimelock⟩

theorem SameLegs.withSecret (h : SameLegs order row) (preimage txHash : String) :
    SameLegs order (row.withSecret preimage txHash) :=
  ⟨h.same.edit (.secret row.publicId preimage txHash), h.srcOrderId, h.dstOrderId, h.srcTimelock,
    h.dstTimelock⟩

theorem SameLegs.statusRow (h : SameLegs order row) (value : OrderStatus) :
    SameLegs order (statusRow value row) := by
  rw [Coordinator.statusRow, Edit.under]
  split
  · exact h.withStatus value
  · exact h

theorem SameLegs.live (h : SameLegs order row) (hsecret : HasSecret D s) :
    SameLegs order (liveRow D s.live row) := by
  cases hkind : s.kind with
  | refunded =>
      rw [liveRow_refund hkind]
      exact h.statusRow .refunded
  | claimed =>
      obtain ⟨preimage, hpreimage⟩ := hsecret hkind
      rw [liveRow_claim hkind hpreimage]
      split
      · split
        · exact (h.withSecret preimage _).statusRow .completed
        · exact h
      · exact h.statusRow .completed

theorem SameLegs.caught (h : SameLegs order row) (hcaught : Caught D s row row') :
    SameLegs order row' := by
  cases hcaught with
  | refund _ _ => exact h.withStatus .refunded
  | secret _ _ _ _ => exact h.withSecret _ _
  | skip _ _ => exact h

theorem SameLegs.matches (h : SameLegs order row) (canonical : String) :
    matchesKnownOrders D row canonical = matchesKnownOrders D order canonical := by
  rw [matchesKnownOrders, matchesKnownOrders, OrderRow.orderIds, OrderRow.orderIds, h.same.hashlock,
    h.srcOrderId, h.dstOrderId]

theorem replaced_settled (hunique : UniqueIds orders) (hbook : Replaced orders order row orders')
    (horder : findId orders order.publicId = some order) (hlegs : SameLegs order row)
    {ev : SettlementEvent} (hfound : findSettled orders ev = some order) :
    findSettled orders' ev = some row := by
  have hsrc := replaced_find hunique hbook horder
    (p := fun row => row.srcChain = orderChain ev.chain && row.srcOrderId = some ev.onchainOrderId)
    (by simp [hlegs.same.srcChain, hlegs.srcOrderId])
  have hdst := replaced_find hunique hbook horder
    (p := fun row => row.dstChain = orderChain ev.chain && row.dstOrderId = some ev.onchainOrderId)
    (by simp [hlegs.same.dstChain, hlegs.dstOrderId])
  rw [findSettled, findSrc, findDst, hsrc, hdst]
  rcases orElse_eq_some.mp hfound with h | ⟨hnone, h⟩
  · rw [findSrc] at h
    rw [h]
    simp
  · rw [findSrc] at hnone
    rw [findDst] at h
    rw [hnone, h]
    simp

theorem liveTarget_live (orders : List StoredOrder) (s : Settlement) :
    liveTarget D orders s.live = findSettled orders s.caughtUp := by
  have hid : truthy s.live.orderId = some (toString s.log.orderId) :=
    Option.filter_eq_some_iff.mpr ⟨rfl, by simp⟩
  have hhashlock : truthy s.live.hashlock = none := rfl
  have hresolve : liveTarget D orders s.live = resolve D orders s.live := by
    simp only [liveTarget, Settlement.live, EthereumListener.settlementEvent]
    cases s.kind with
    | claimed => rfl
    | refunded => rfl
  rw [hresolve, resolve, hid, hhashlock, Option.bind_some, Option.bind_none]
  have hright (found : Option OrderRow) : (found <|> none) = found := by simp
  exact hright _

theorem replaced_edit {edit : Edit} (hbook : Replaced orders order row orders')
    (hid : row.publicId = order.publicId) (hedit : edit.publicId = row.publicId) (now : ℕ) :
    Replaced orders order (edit.set row) (edit.apply now orders') := by
  rw [Replaced, Edit.rowsOf_apply, hbook, setRow, setRow, List.map_map]
  refine List.map_congr_left fun other _ => ?_
  rw [Function.comp_apply, Edit.onRow, hedit, hid]
  by_cases hother : other.publicId = order.publicId
  · rw [if_pos hother, if_pos hother, if_pos hid]
  · rw [if_neg hother, if_neg hother, if_neg hother]

/-- A claim whose preimage opens the order. -/
def OpensOrder (D : Deployment) (order : OrderRow) (s : Settlement) : Prop :=
  ∃ preimage, s.log.preimage = some preimage ∧
    assertValidSecretFormat preimage "preimage" = .ok () ∧
    matchesKnownOrders D order (D.toLowerCase preimage) = .ok true

theorem OpensOrder.secret (h : OpensOrder D order s) : ∃ preimage, truthy (s.secret D) = some preimage := by
  obtain ⟨preimage, hgiven, _, hmatch⟩ := h
  refine ⟨D.toLowerCase preimage, ?_⟩
  obtain ⟨_, _, id, _, hhash⟩ := matchesKnownOrders_true hmatch
  have hne : D.toLowerCase preimage ≠ "" := by
    intro hempty
    rw [hempty, hashOrderPreimage] at hhash
    split at hhash
    · cases hhash
    · cases hhash
  rw [Settlement.secret, hgiven]
  exact Option.filter_eq_some_iff.mpr ⟨rfl, by simpa using hne⟩

theorem editVerdict_row (edit : Edit) (hrow : findId orders edit.publicId = some row) :
    editVerdict orders edit = if IsEdge row.status edit.target then .edit edit else .skip := by
  rw [editVerdict, hrow]

section Verdict

variable (hfound : findSettled orders s.caughtUp = some row)
  (hrow : findId orders row.publicId = some row)

include hfound hrow

theorem verdict_refund (hkind : s.kind = .refunded) :
    verdict D nowSec orders s.caughtUp = .skip ∧ Caught D s row row ∨
      ∃ edit, verdict D nowSec orders s.caughtUp = .edit edit ∧ edit.publicId = row.publicId ∧
        Caught D s row (edit.set row) := by
  have hverdict : verdict D nowSec orders s.caughtUp =
      if row.status = .refunded then .skip
      else editVerdict orders (.status row.publicId .refunded) := by
    rw [verdict, hfound]
    simp only [settleVerdict, Settlement.caughtUp, EthereumListener.toSettlement, hkind]
  have hclash : ¬ Clashes D row s := by
    rintro ⟨hclaim, _⟩
    rw [hkind] at hclaim
    cases hclaim
  have hskip (hedge : ¬ IsEdge row.status .refunded) : Caught D s row row :=
    .skip (fun _ => hedge) hclash
  rw [hverdict]
  by_cases hrefunded : row.status = .refunded
  · rw [if_pos hrefunded]
    refine .inl ⟨rfl, hskip ?_⟩
    rw [hrefunded]
    exact not_isEdge_self _
  · rw [if_neg hrefunded, editVerdict_row (.status row.publicId .refunded) hrow]
    by_cases hedge : IsEdge row.status .refunded
    · exact .inr ⟨.status row.publicId .refunded, if_pos hedge, rfl, .refund hkind hedge⟩
    · exact .inl ⟨if_neg hedge, hskip hedge⟩

/-- The reveal that the processor decides on, for a claim with a well-formed preimage. -/
theorem verdict_claimed {preimage : String} (hkind : s.kind = .claimed)
    (hgiven : s.log.preimage = some preimage)
    (hformat : assertValidSecretFormat preimage "preimage" = .ok ()) :
    verdict D nowSec orders s.caughtUp =
      if row.secretRevealedTx = some s.log.transactionHash ∧ truthy row.preimage ≠ none then .skip
      else rowVerdict D nowSec orders row row.publicId (D.toLowerCase preimage)
        s.log.transactionHash := by
  have htruthy : truthy (some preimage) = some preimage := by
    refine Option.filter_eq_some_iff.mpr ⟨rfl, ?_⟩
    have hne : preimage ≠ "" := by
      rintro rfl
      cases hformat
    simpa using hne
  rw [verdict, hfound]
  simp only [settleVerdict, Settlement.caughtUp, EthereumListener.toSettlement, hkind, hgiven,
    htruthy, revealVerdict, hformat, hrow]

theorem verdict_claim (hkind : s.kind = .claimed) (hopens : OpensOrder D row s)
    (hwindow : evaluateSecretWindow row.srcTimelock row.dstTimelock nowSec = none) :
    (∃ e, verdict D nowSec orders s.caughtUp = .stuck e) ∧ Clashes D row s ∨
      verdict D nowSec orders s.caughtUp = .skip ∧ Caught D s row row ∨
      ∃ edit, verdict D nowSec orders s.caughtUp = .edit edit ∧ edit.publicId = row.publicId ∧
        Caught D s row (edit.set row) := by
  obtain ⟨preimage, hgiven, hformat, hmatch⟩ := hopens
  have hsecret : s.secret D = some (D.toLowerCase preimage) := by
    rw [Settlement.secret, hgiven]
    rfl
  have hskip (hclash : ¬ Clashes D row s) : Caught D s row row := by
    refine .skip (fun hrefund => ?_) hclash
    rw [hkind] at hrefund
    cases hrefund
  rw [verdict_claimed hfound hrow hkind hgiven hformat]
  by_cases hrepeat :
      row.secretRevealedTx = some s.log.transactionHash ∧ truthy row.preimage ≠ none
  · rw [if_pos hrepeat]
    refine .inr (.inl ⟨rfl, hskip ?_⟩)
    rintro ⟨_, _, stored, _, hstored, _, hnot⟩
    refine hnot ⟨hrepeat.1, fun hempty => hrepeat.2 ?_⟩
    rw [hstored, hempty]
    rfl
  · rw [if_neg hrepeat, rowVerdict, hmatch]
    dsimp only
    cases hpreimage : row.preimage with
    | some stored =>
        dsimp only
        by_cases hsame : stored = D.toLowerCase preimage
        · rw [if_pos hsame]
          refine .inr (.inl ⟨rfl, hskip ?_⟩)
          rintro ⟨_, canonical, stored', hcanonical, hstored', hdiffers, _⟩
          obtain rfl := Option.some.inj (hsecret.symm.trans hcanonical)
          obtain rfl := Option.some.inj (hpreimage.symm.trans hstored')
          exact hdiffers hsame
        · rw [if_neg hsame]
          refine .inl ⟨⟨_, rfl⟩, hkind, _, stored, hsecret, hpreimage, hsame, ?_⟩
          rintro ⟨htx, hne⟩
          refine hrepeat ⟨htx, ?_⟩
          rw [hpreimage, truthy, Option.filter_some]
          simp [hne]
    | none =>
        have hclash : ¬ Clashes D row s := by
          rintro ⟨_, _, _, _, hstored, _⟩
          rw [hpreimage] at hstored
          cases hstored
        dsimp only
        split
        · exact .inr (.inl ⟨rfl, hskip hclash⟩)
        · rw [window_open.mpr hwindow]
          dsimp only
          rw [editVerdict_row
            (.secret row.publicId (D.toLowerCase preimage) s.log.transactionHash) hrow]
          by_cases hedge : IsEdge row.status .secretRevealed
          · exact .inr (.inr ⟨.secret row.publicId (D.toLowerCase preimage) s.log.transactionHash,
              if_pos hedge, rfl, .secret hkind hsecret hpreimage hedge⟩)
          · exact .inr (.inl ⟨if_neg hedge, hskip hclash⟩)

end Verdict

/-- The settlements of an order that are to be handled: each finds the order and is not marked yet,
a claim opens the order, and they stand in chain order. -/
structure Due (D : Deployment) (networkId : String) (db : Database) (order : OrderRow)
    (settlements : List Settlement) : Prop where
  found : ∀ s ∈ settlements, findSettled db.orders s.caughtUp = some order
  fresh : ∀ s ∈ settlements,
    db.seen (ChainEventProcessor.eventKey D networkId s.caughtUp) = false
  opens : ∀ s ∈ settlements, s.kind = .claimed → OpensOrder D order s
  keys : (settlements.map fun s => ChainEventProcessor.eventKey D networkId s.caughtUp).Nodup
  ordered : (settlements.map (·.caughtUp)).Pairwise ChainEventProcessor.NotAfter

section Books

variable (hunique : UniqueIds orders) (horder : findId orders order.publicId = some order)

include hunique horder

theorem live_run (clock : ℕ → ℕ) {settlements : List Settlement} {row : OrderRow} {u : Database}
    (hlegs : SameLegs order row) (hbook : Replaced orders order row u.orders)
    (hfound : ∀ s ∈ settlements, findSettled orders s.caughtUp = some order)
    (hsecrets : ∀ s ∈ settlements, HasSecret D s) :
    SameLegs order (liveRun D row settlements) ∧
      Replaced orders order (liveRun D row settlements)
        (runAll (deliver D clock) (settlements.map (·.live)) u).orders := by
  induction settlements generalizing row u with
  | nil => exact ⟨hlegs, hbook⟩
  | cons s settlements ih =>
      have htarget : liveTarget D u.orders s.live = some row := by
        rw [liveTarget_live]
        exact replaced_settled hunique hbook horder hlegs (hfound s List.mem_cons_self)
      exact ih (hlegs.live (hsecrets s List.mem_cons_self))
        (deliver_found clock hunique hlegs.same.publicId hbook htarget)
        (fun other hmem => hfound other (List.mem_cons_of_mem _ hmem))
        (fun other hmem => hsecrets other (List.mem_cons_of_mem _ hmem))

theorem process_caught (clock : ℕ → ℕ) {row : OrderRow} {u v : Database}
    {r : Except CoordinatorError ProcessOutcome} (hlegs : SameLegs order row)
    (hbook : Replaced orders order row u.orders)
    (hfound : findSettled orders s.caughtUp = some order)
    (hopens : s.kind = .claimed → OpensOrder D order s)
    (hwindow : evaluateSecretWindow order.srcTimelock order.dstTimelock nowSec = none)
    (hfresh : u.seen (ChainEventProcessor.eventKey D networkId s.caughtUp) = false)
    (hrun : run (exec (.calm clock)) (ChainEventProcessor.process D nowSec networkId s.caughtUp) u =
      (r, v)) :
    (∃ outcome row', r = .ok outcome ∧ Caught D s row row' ∧ Replaced orders order row' v.orders ∧
        v.processed = u.processed ++ [processedRow D networkId s.caughtUp]) ∨
      ∃ e, r = .error e ∧ Clashes D row s ∧ v.orders = u.orders := by
  have hprocessed := process_processed (D := D) clock nowSec networkId s.caughtUp u
  rw [hrun] at hprocessed
  have hsettled := replaced_settled hunique hbook horder hlegs hfound
  have hrow : findId u.orders row.publicId = some row := by
    rw [hlegs.same.publicId]
    exact replaced_findId hunique hbook horder hlegs.same.publicId
  have hwindow' : evaluateSecretWindow row.srcTimelock row.dstTimelock nowSec = none := by
    rw [hlegs.srcTimelock, hlegs.dstTimelock]
    exact hwindow
  have hopens' (hkind : s.kind = .claimed) : OpensOrder D row s := by
    obtain ⟨preimage, hgiven, hformat, hmatch⟩ := hopens hkind
    exact ⟨preimage, hgiven, hformat, (hlegs.matches _).trans hmatch⟩
  have hverdict : (∃ e, verdict D nowSec u.orders s.caughtUp = .stuck e) ∧ Clashes D row s ∨
      verdict D nowSec u.orders s.caughtUp = .skip ∧ Caught D s row row ∨
      ∃ edit, verdict D nowSec u.orders s.caughtUp = .edit edit ∧ edit.publicId = row.publicId ∧
        Caught D s row (edit.set row) := by
    cases hkind : s.kind with
    | claimed => exact verdict_claim hsettled hrow hkind (hopens' hkind) hwindow'
    | refunded => exact .inr (verdict_refund hsettled hrow hkind)
  cases hprocessed with
  | duplicate hseen _ =>
      rw [hfresh] at hseen
      cases hseen
  | @done outcome _ _ hcarried hmarked _ _ =>
      refine .inl ⟨outcome, ?_⟩
      rcases hverdict with ⟨⟨e, hstuck⟩, _⟩ | ⟨hskip, hcaught⟩ | ⟨edit, hedit, hid, hcaught⟩
      · rw [hstuck] at hcarried
        cases hcarried
      · rw [hskip] at hcarried
        refine ⟨row, rfl, hcaught, ?_, hmarked⟩
        generalize v.orders = orders' at hcarried
        cases hcarried
        exact hbook
      · rw [hedit] at hcarried
        refine ⟨edit.set row, rfl, hcaught, ?_, hmarked⟩
        generalize v.orders = orders' at hcarried
        cases hcarried with
        | edit _ now => exact replaced_edit hbook hlegs.same.publicId hid now
  | @stuck e _ _ hstuck _ hkept =>
      rcases hverdict with ⟨_, hclash⟩ | ⟨hskip, _⟩ | ⟨edit, hedit, _⟩
      · exact .inr ⟨e, rfl, hclash, hkept.orders⟩
      · rw [hskip] at hstuck
        cases hstuck
      · rw [hedit] at hstuck
        cases hstuck

theorem processEvents_catchesUp (clock : ℕ → ℕ) {settlements : List Settlement} {row : OrderRow}
    {u : Database} (hlegs : SameLegs order row) (hbook : Replaced orders order row u.orders)
    (hfound : ∀ s ∈ settlements, findSettled orders s.caughtUp = some order)
    (hopens : ∀ s ∈ settlements, s.kind = .claimed → OpensOrder D order s)
    (hwindow : evaluateSecretWindow order.srcTimelock order.dstTimelock nowSec = none)
    (hfresh : ∀ s ∈ settlements,
      u.seen (ChainEventProcessor.eventKey D networkId s.caughtUp) = false)
    (hkeys : (settlements.map fun s =>
      ChainEventProcessor.eventKey D networkId s.caughtUp).Nodup) :
    ∃ final, CatchesUp D row settlements final ∧ SameLegs order final ∧
      Replaced orders order final
        (processEvents D clock nowSec networkId (settlements.map (·.caughtUp)) u).2.orders := by
  induction settlements generalizing row u with
  | nil => exact ⟨row, .nil, hlegs, hbook⟩
  | cons s settlements ih =>
      rw [List.map_cons, processEvents]
      cases hrun : run (exec (.calm clock))
          (ChainEventProcessor.process D nowSec networkId s.caughtUp) u with
      | mk r v =>
          rcases process_caught hunique horder clock hlegs hbook (hfound s List.mem_cons_self)
              (hopens s List.mem_cons_self) hwindow (hfresh s List.mem_cons_self) hrun with
            ⟨outcome, row', rfl, hcaught, hbook', hmarked⟩ | ⟨e, rfl, hclash, hsame⟩
          · rw [List.map_cons, List.nodup_cons] at hkeys
            have hfresh' : ∀ other ∈ settlements,
                v.seen (ChainEventProcessor.eventKey D networkId other.caughtUp) = false := by
              intro other hmem
              have hdiffers : ChainEventProcessor.eventKey D networkId s.caughtUp ≠
                  ChainEventProcessor.eventKey D networkId other.caughtUp := fun heq =>
                hkeys.1 (List.mem_map.mpr ⟨other, hmem, heq.symm⟩)
              have hold := hfresh other (List.mem_cons_of_mem _ hmem)
              rw [Database.seen] at hold ⊢
              rw [hmarked, List.any_append, hold]
              simp [processedRow, hdiffers]
            obtain ⟨final, hrest, hfinal, hlast⟩ := ih (hlegs.caught hcaught) hbook'
              (fun other hmem => hfound other (List.mem_cons_of_mem _ hmem))
              (fun other hmem => hopens other (List.mem_cons_of_mem _ hmem)) hfresh' hkeys.2
            exact ⟨final, .cons hcaught hrest, hfinal, hlast⟩
          · refine ⟨row, .stuck hclash, hlegs, ?_⟩
            dsimp only
            rw [hsame]
            exact hbook

end Books

theorem advance_orders (clock : ℕ → ℕ) (chain : ChainName) (networkId : String) (upTo : ℕ)
    (cursor : Option String) (db : Database) :
    (run (exec (.calm clock)) (ChainEventProcessor.advance chain networkId upTo cursor)
      db).2.orders = db.orders := by
  rcases run_cursor_advance clock chain networkId upTo cursor db with ⟨_, hrun⟩ | ⟨_, _, hrun⟩
  · rw [hrun]
    rfl
  · rw [hrun]
    rfl

/-- The database after a batch of settlements, while no statement fails. -/
def catchUpWith (D : Deployment) (clock : ℕ → ℕ) (nowSec : ℤ) (networkId : String) (upTo : ℕ)
    (cursor : Option String) (settlements : List Settlement) (db : Database) : Database :=
  (run (exec (.calm clock)) (ChainEventProcessor.processBatch D nowSec networkId .ethereum
    (settlements.map (·.caughtUp)) upTo cursor) db).2

theorem catchUpWith_orders (clock : ℕ → ℕ) (nowSec : ℤ) (networkId : String) (upTo : ℕ)
    (cursor : Option String) {settlements : List Settlement} (db : Database)
    (hordered : (settlements.map (·.caughtUp)).Pairwise ChainEventProcessor.NotAfter) :
    (catchUpWith D clock nowSec networkId upTo cursor settlements db).orders =
      (processEvents D clock nowSec networkId (settlements.map (·.caughtUp)) db).2.orders := by
  have hbatch := run_processBatch D clock nowSec networkId .ethereum
    (settlements.map (·.caughtUp)) upTo cursor db
  rw [hordered.insertionSort_eq] at hbatch
  have hsnd := congrArg (fun outcome => outcome.2.orders) hbatch
  rw [catchUpWith]
  refine hsnd.trans ?_
  cases processEvents D clock nowSec networkId (settlements.map (·.caughtUp)) db with
  | mk r u =>
      cases r with
      | error e => rfl
      | ok _ => exact advance_orders clock .ethereum networkId upTo cursor u

/-- Handled live or caught up with, the settlements of an order lead to the same status and the
same preimage if and only if they are agreeable. -/
theorem paths_agree_iff (clock clock' : ℕ → ℕ) (upTo : ℕ) (cursor : Option String)
    {settlements : List Settlement} (hunique : UniqueIds db.orders)
    (horder : findId db.orders order.publicId = some order)
    (hdue : Due D networkId db order settlements)
    (hwindow : evaluateSecretWindow order.srcTimelock order.dstTimelock nowSec = none) :
    (∃ lived caught,
        findId (runAll (deliver D clock) (settlements.map (·.live)) db).orders order.publicId =
          some lived ∧
        findId (catchUpWith D clock' nowSec networkId upTo cursor settlements db).orders
          order.publicId = some caught ∧
        lived.status = caught.status ∧ lived.preimage = caught.preimage) ↔
      Agreeable D order settlements := by
  have hsecrets : ∀ s ∈ settlements, HasSecret D s := fun s hmem hkind =>
    (hdue.opens s hmem hkind).secret
  obtain ⟨hlived, hlive⟩ := live_run hunique horder clock (.refl order)
    (.refl hunique horder) hdue.found hsecrets
  obtain ⟨final, hcatches, hfinal, hcaught⟩ := processEvents_catchesUp hunique horder clock'
    (.refl order) (.refl hunique horder) hdue.found hdue.opens hwindow hdue.fresh hdue.keys
  rw [replaced_findId hunique hlive horder hlived.same.publicId,
    catchUpWith_orders clock' nowSec networkId upTo cursor db hdue.ordered,
    replaced_findId hunique hcaught horder hfinal.same.publicId, ← rows_agree_iff hsecrets hcatches]
  simp

/-! ## The escrow of order 7 -/

def refundOf7 : Settlement := ⟨.refunded, ⟨7, none, "0xee", 3, 140⟩⟩
def claimOf7 : Settlement := ⟨.claimed, ⟨7, some preimage7, "0xbb", 3, 101⟩⟩

/-- Order 7 after its source lock. -/
def lockedOrder7 : OrderRow := SrcLock.set ⟨"a1", "7", "0xaa", 100, 1700010000⟩ (input7.row 1 "a1")

theorem lockedDb7_facts :
    (lockedDb7.orders.map (·.publicId)).Nodup ∧
      findId lockedDb7.orders lockedOrder7.publicId = some lockedOrder7 ∧
      (∀ s ∈ [claimOf7], findSettled lockedDb7.orders s.caughtUp = some lockedOrder7) ∧
      (∀ s ∈ [claimOf7],
        lockedDb7.seen (ChainEventProcessor.eventKey deployment7 "11155111" s.caughtUp) = false) ∧
      assertValidSecretFormat preimage7 "preimage" = .ok () ∧
      matchesKnownOrders deployment7 lockedOrder7 (deployment7.toLowerCase preimage7) =
        .ok true := by
  decide

theorem lockedDb7_unique : UniqueIds lockedDb7.orders :=
  lockedDb7_facts.1

theorem lockedDb7_stored : findId lockedDb7.orders lockedOrder7.publicId = some lockedOrder7 :=
  lockedDb7_facts.2.1

theorem due_claim7 : Due deployment7 "11155111" lockedDb7 lockedOrder7 [claimOf7] where
  found := lockedDb7_facts.2.2.1
  fresh := lockedDb7_facts.2.2.2.1
  opens s hmem _ := by
    rw [List.mem_singleton.mp hmem]
    exact ⟨preimage7, rfl, lockedDb7_facts.2.2.2.2⟩
  keys := List.nodup_singleton _
  ordered := List.pairwise_singleton _ _

/-- Order 7 after it has expired. -/
def expiredOrder7 : OrderRow := lockedOrder7.withStatus .expired

def expiredDb7 : Database := lockedDb7.updateOrder 1700000100 "a1" (·.withStatus .expired)

theorem expiredDb7_facts :
    (expiredDb7.orders.map (·.publicId)).Nodup ∧
      findId expiredDb7.orders expiredOrder7.publicId = some expiredOrder7 ∧
      (∀ s ∈ [claimOf7, refundOf7],
        findSettled expiredDb7.orders s.caughtUp = some expiredOrder7) ∧
      (∀ s ∈ [claimOf7, refundOf7],
        expiredDb7.seen (ChainEventProcessor.eventKey deployment7 "11155111" s.caughtUp) = false) ∧
      matchesKnownOrders deployment7 expiredOrder7 (deployment7.toLowerCase preimage7) =
        .ok true ∧
      ([claimOf7, refundOf7].map fun s =>
        ChainEventProcessor.eventKey deployment7 "11155111" s.caughtUp).Nodup := by
  decide

theorem due_expired7 :
    Due deployment7 "11155111" expiredDb7 expiredOrder7 [claimOf7, refundOf7] where
  found := expiredDb7_facts.2.2.1
  fresh := expiredDb7_facts.2.2.2.1
  opens s hmem hkind := by
    rcases List.mem_pair.mp hmem with rfl | rfl
    · exact ⟨preimage7, rfl, lockedDb7_facts.2.2.2.2.1, expiredDb7_facts.2.2.2.2.1⟩
    · cases hkind
  keys := expiredDb7_facts.2.2.2.2.2
  ordered := by decide

/-- A claim and a refund of the expired order: on both ways the refund alone is recorded. -/
theorem paths_agree_order7 :
    ∃ lived caught,
      findId (runAll (deliver deployment7 fun _ => 1700000000) [claimOf7.live, refundOf7.live]
        expiredDb7).orders "a1" = some lived ∧
      findId (catchUpWith deployment7 (fun _ => 1700000000) 1700000000 "11155111" 150 none
        [claimOf7, refundOf7] expiredDb7).orders "a1" = some caught ∧
      lived.status = caught.status ∧ lived.preimage = caught.preimage := by
  have hfirst : firstClaims [claimOf7, refundOf7] = [claimOf7] := rfl
  refine (paths_agree_iff (fun _ => 1700000000) (fun _ => 1700000000) 150 none expiredDb7_facts.1
    expiredDb7_facts.2.1 due_expired7 (by decide)).mpr ⟨?_, fun _ _ => ?_⟩
  · rw [hfirst]
    intro s hmem hmoves
    obtain ⟨-, preimage, -, ⟨hstatus, -⟩ | ⟨hstatus, -⟩⟩ := hmoves
    · exact absurd hstatus (by decide)
    · exact absurd hstatus (by decide)
  · rw [hfirst]
    intro s hmem hclash
    obtain ⟨-, preimage, stored, -, hstored, -⟩ := hclash
    cases hstored

/-- A claim completes the order live; caught up with, it only reveals the secret. -/
theorem claim_paths_differ :
    ¬ ∀ (D : Deployment) (clock clock' : ℕ → ℕ) (nowSec : ℤ) (networkId : String) (upTo : ℕ)
        (cursor : Option String) (db : Database) (order : OrderRow) (settlements : List Settlement),
      UniqueIds db.orders → findId db.orders order.publicId = some order →
      Due D networkId db order settlements →
      evaluateSecretWindow order.srcTimelock order.dstTimelock nowSec = none →
      ∃ lived caught,
        findId (runAll (deliver D clock) (settlements.map (·.live)) db).orders order.publicId =
          some lived ∧
        findId (catchUpWith D clock' nowSec networkId upTo cursor settlements db).orders
          order.publicId = some caught ∧
        lived.status = caught.status ∧ lived.preimage = caught.preimage := by
  intro h
  obtain ⟨lived, caught, hlived, hcaught, hstatus, _⟩ := h deployment7 (fun _ => 1700000000)
    (fun _ => 1700000000) 1700000000 "11155111" 120 none lockedDb7 lockedOrder7 [claimOf7]
    lockedDb7_unique lockedDb7_stored due_claim7 (by decide)
  have hcompleted : (findId (runAll (deliver deployment7 fun _ => 1700000000)
      ([claimOf7].map (·.live)) lockedDb7).orders lockedOrder7.publicId).map (·.status) =
        some .completed := by
    decide
  have hrevealed : (findId (catchUpWith deployment7 (fun _ => 1700000000) 1700000000 "11155111" 120
      none [claimOf7] lockedDb7).orders lockedOrder7.publicId).map (·.status) =
        some .secretRevealed := by
    decide
  rw [hlived, Option.map_some, Option.some.injEq] at hcompleted
  rw [hcaught, Option.map_some, Option.some.injEq] at hrevealed
  rw [hcompleted, hrevealed] at hstatus
  cases hstatus

end OverSync.Coordinator
