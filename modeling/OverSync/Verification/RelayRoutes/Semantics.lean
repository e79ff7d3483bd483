import OverSync.Model.RelayRoutes
import OverSync.Verification.RelaySubmissionTracker.Stagers

/-! # Order ids of a payment

When every request that names a payment hash gives the same order id, every route derives this id
for the payment. -/

namespace OverSync.RelayRoutes

open Function Library RelaySubmissionTracker

variable {R : Type} {cfg : RouteConfig R} {hash orderId : String} {r r' : Relayer R}
  {effects : List (RouteEffect R)} {now request : ℕ}

/-! ## Requests that name a payment -/

variable (hash orderId) in
/-- The condition: requests that name the payment give the order id, or none; a manual refund
without an id finds an order with the payment; other routes store the payment only with the
order. -/
def oneOrder : RouteEvent R → Relayer R → List (PersistedSubmission R) → Bool
  | .xlmToEth _ body, _, _ =>
    body.stellarTxHash = some hash → orText body.orderId orderId = orderId
  | .manualRefund body, _, _ =>
    body.stellarTxHash = some hash → orText body.orderId orderId = orderId
  | .imported request, r, _ =>
    match r.requests request with
    | some (.importing body) => body.stellarTxHash = hash → body.requestedOrderId = none →
        r.activeOrders.any fun entry => (r.orders entry.2).stellarTxHash = some hash
    | _ => true
  | .store order, _, _ => order.stellarTxHash = some hash → order.orderId = orderId
  | .change _ order, _, _ => order.stellarTxHash = some hash → order.orderId = orderId
  | _, _, _ => true

variable (hash orderId) in
/-- A running request that names the payment has the order id. -/
def Request.Fits (r : Relayer R) : Request R → Prop
  | .storing body order => (body.stellarTxHash = hash → body.orderId = orderId) ∧
      order < r.nextOrder ∧ (r.orders order).orderId = body.orderId
  | .balancing body _ => body.stellarTxHash = hash → body.orderId = orderId
  | .releasing body _ _ => body.stellarTxHash = hash → body.orderId = orderId
  | .refunding _ _ => True
  | .importing body => body.stellarTxHash = hash →
      ∀ requested, body.requestedOrderId = some requested → requested = orderId
  | .verifying body refundOrderId _ => body.stellarTxHash = hash → refundOrderId = orderId
  | .checkingMemos body refundOrderId _ => body.stellarTxHash = hash → refundOrderId = orderId
  | .manualRefunding _ _ => True
  | .scanning _ _ _ _ => True

variable (hash orderId) in
/-- Orders are stored under their ids, and orders and requests that name the payment have the
order id. -/
structure Consistent (r : Relayer R) : Prop where
  ids : ∀ entry ∈ r.activeOrders, entry.2 < r.nextOrder ∧ (r.orders entry.2).orderId = entry.1
  named : ∀ ref, (r.orders ref).stellarTxHash = some hash → (r.orders ref).orderId = orderId
  requests : ∀ request phase, r.requests request = some phase → phase.Fits hash orderId r

variable (orderId) in
/-- A payout of the order. -/
structure Pays (action : RelayAction) : Prop where
  orderId : action.orderId = orderId
  side : action.side = "xlm_to_eth"
  kind : action.action = "claim" ∨ action.action = "refund"

theorem orText_some {a : Option String} {b text : String} (h : truthyText a = some text) :
    orText a b = text := by
  rw [orText, h, Option.getD_some]

theorem truthyText_some {a : Option String} {text : String} (h : truthyText a = some text) :
    a = some text ∧ text ≠ "" := by
  rcases Option.filter_eq_some_iff.mp h with ⟨ha, htext⟩
  exact ⟨ha, by simpa using htext⟩

/-! ## Changes of orders and requests -/

/-- Orders stay and keep their ids. -/
structure Keeps (r r' : Relayer R) : Prop where
  nextOrder : r.nextOrder ≤ r'.nextOrder
  orderId : ∀ ref < r.nextOrder, (r'.orders ref).orderId = (r.orders ref).orderId

theorem Request.Fits.keep {phase : Request R} (h : phase.Fits hash orderId r) (hkeep : Keeps r r') :
    phase.Fits hash orderId r' := by
  cases phase with
  | storing body order =>
      refine ⟨h.1, Nat.lt_of_lt_of_le h.2.1 hkeep.nextOrder, ?_⟩
      rw [hkeep.orderId order h.2.1]
      exact h.2.2
  | balancing | releasing | refunding | importing | verifying | checkingMemos | manualRefunding
  | scanning => exact h

theorem Consistent.start (tracker : Tracker R) : Consistent hash orderId (.start tracker) where
  ids := nofun
  named := nofun
  requests := by
    intro request phase hphase
    contradiction

/-- A request goes on to its next `await`, or ends. -/
theorem Consistent.update (h : Consistent hash orderId r) {next : Option (Request R)}
    (hnext : ∀ phase, next = some phase → phase.Fits hash orderId r) :
    Consistent hash orderId { r with requests := Function.update r.requests request next } where
  ids := h.ids
  named := h.named
  requests := by
    intro request' phase hphase
    apply Request.Fits.keep (r := r) _ ⟨Nat.le_refl _, fun _ _ => rfl⟩
    by_cases heq : request' = request
    · apply hnext
      simpa [heq] using hphase
    · apply h.requests request'
      simpa [heq] using hphase

theorem Consistent.over (h : Consistent hash orderId r) : Consistent hash orderId
    { r with requests := Function.update r.requests request none } := by
  apply h.update
  intro phase hphase
  contradiction

theorem Consistent.wait (h : Consistent hash orderId r) {phase : Request R}
    (hphase : phase.Fits hash orderId r) : Consistent hash orderId (r.wait request phase) := by
  apply h.update
  intro phase' heq
  rwa [← Option.some.inj heq]

theorem Consistent.respond (h : Consistent hash orderId r) (response : Response) :
    Consistent hash orderId (r.respond request response).1 :=
  h.over

@[simp] theorem Relayer.assignOrder_self {ref : ℕ} {f : ActiveOrder → ActiveOrder} :
    (r.assignOrder ref f).orders ref = f (r.orders ref) :=
  update_self ..

theorem Relayer.assignOrder_of_ne {ref ref' : ℕ} {f : ActiveOrder → ActiveOrder} (h : ref' ≠ ref) :
    (r.assignOrder ref f).orders ref' = r.orders ref' :=
  update_of_ne h ..

@[simp] theorem Relayer.setOrder_self {order : ActiveOrder} :
    (r.setOrder order).orders r.nextOrder = order :=
  update_self ..

theorem Relayer.setOrder_of_ne {order : ActiveOrder} {ref : ℕ} (h : ref ≠ r.nextOrder) :
    (r.setOrder order).orders ref = r.orders ref :=
  update_of_ne h ..

/-- Assignments that keep the id and name the payment only in its order. -/
theorem Consistent.assignOrder (h : Consistent hash orderId r) {ref : ℕ}
    {f : ActiveOrder → ActiveOrder} (hid : (f (r.orders ref)).orderId = (r.orders ref).orderId)
    (hnamed : (f (r.orders ref)).stellarTxHash = some hash → (r.orders ref).orderId = orderId) :
    Consistent hash orderId (r.assignOrder ref f) := by
  have hids : ∀ ref', ((r.assignOrder ref f).orders ref').orderId = (r.orders ref').orderId := by
    intro ref'
    by_cases heq : ref' = ref
    · rw [heq, Relayer.assignOrder_self, hid]
    · rw [Relayer.assignOrder_of_ne heq]
  constructor
  · intro entry hentry
    rw [hids]
    exact h.ids entry hentry
  · intro ref' hhash
    rw [hids]
    by_cases heq : ref' = ref
    · rw [heq] at hhash ⊢
      rw [Relayer.assignOrder_self] at hhash
      exact hnamed hhash
    · rw [Relayer.assignOrder_of_ne heq] at hhash
      exact h.named ref' hhash
  · intro request phase hphase
    exact (h.requests request phase hphase).keep ⟨Nat.le_refl _, fun ref' _ => hids ref'⟩

/-- Assignments to fields that the derivation of ids does not read. -/
theorem Consistent.stamp (h : Consistent hash orderId r) {ref : ℕ} {f : ActiveOrder → ActiveOrder}
    (hid : ∀ o, (f o).orderId = o.orderId) (hhash : ∀ o, (f o).stellarTxHash = o.stellarTxHash) :
    Consistent hash orderId (r.assignOrder ref f) := by
  apply h.assignOrder (hid _)
  rw [hhash]
  exact h.named ref

theorem Keeps.setOrder (order : ActiveOrder) : Keeps r (r.setOrder order) where
  nextOrder := Nat.le_succ _
  orderId := by
    intro ref hlt
    rw [Relayer.setOrder_of_ne (Nat.ne_of_lt hlt)]

theorem Consistent.setOrder (h : Consistent hash orderId r) {order : ActiveOrder}
    (hnamed : order.stellarTxHash = some hash → order.orderId = orderId) :
    Consistent hash orderId (r.setOrder order) := by
  have hold : ∀ entry ∈ r.activeOrders, entry.2 < (r.setOrder order).nextOrder ∧
      ((r.setOrder order).orders entry.2).orderId = entry.1 := by
    intro entry hentry
    rcases h.ids entry hentry with ⟨hlt, hid⟩
    rw [(Keeps.setOrder order).orderId _ hlt]
    exact ⟨Nat.lt_succ_of_lt hlt, hid⟩
  constructor
  · intro entry hentry
    simp only [Relayer.setOrder] at hentry
    split_ifs at hentry with hknown
    · rcases List.mem_map.mp hentry with ⟨before, hbefore, heq⟩
      split_ifs at heq with hsame
      · rw [← heq, hsame]
        exact ⟨Nat.lt_succ_self _, by rw [Relayer.setOrder_self]⟩
      · rw [← heq]
        exact hold before hbefore
    · rcases List.mem_append.mp hentry with hbefore | hlast
      · exact hold entry hbefore
      · rw [List.mem_singleton.mp hlast]
        exact ⟨Nat.lt_succ_self _, by rw [Relayer.setOrder_self]⟩
  · intro ref hhash
    by_cases heq : ref = r.nextOrder
    · rw [heq, Relayer.setOrder_self] at hhash ⊢
      exact hnamed hhash
    · rw [Relayer.setOrder_of_ne heq] at hhash ⊢
      exact h.named ref hhash
  · intro request phase hphase
    exact (h.requests request phase hphase).keep (Keeps.setOrder order)

theorem Consistent.assignMatched (h : Consistent hash orderId r) {matched : Option ℕ}
    {f : ActiveOrder → ActiveOrder} (hid : ∀ o, (f o).orderId = o.orderId)
    (hhash : ∀ o, (f o).stellarTxHash = o.stellarTxHash) :
    Consistent hash orderId (r.assignMatched matched f) := by
  cases matched with
  | none => exact h
  | some ref => exact h.stamp hid hhash

theorem Consistent.getOrder (h : Consistent hash orderId r) {key : String} {ref : ℕ}
    (hget : r.getOrder key = some ref) : ref < r.nextOrder ∧ (r.orders ref).orderId = key := by
  rcases Option.map_eq_some_iff.mp hget with ⟨entry, hfind, rfl⟩
  have hkey : entry.1 = key := by simpa using List.find?_some hfind
  rw [← hkey]
  exact h.ids entry (List.mem_of_find?_eq_some hfind)

/-! ## Stretches of the routes -/

/-- What a stretch does to the tracker: nothing, or one stretch of the tracker itself. -/
inductive RouteStep (cfg : RouteConfig R) (hash orderId : String) (r : Relayer R) :
    Relayer R → List (RouteEffect R) → Prop where
  | quiet {next effects} : next.tracker = r.tracker → next.names = r.names →
      (∀ effect ∈ effects, ∃ request response, effect = .respond request response) →
      RouteStep cfg hash orderId r next effects
  | tracked {next time event trace effects} (naming : Option String) :
      r.tracker.handle cfg.relay time event = some (next.tracker, trace) →
      next.names = update r.names r.tracker.nextTask naming →
      (∀ action, event = .submit action → naming = some hash → Pays orderId action) →
      effects = trace.map (label next.names) → RouteStep cfg hash orderId r next effects

/-- A stretch that keeps the ids of orders and requests. -/
structure Continues (cfg : RouteConfig R) (hash orderId : String) (r : Relayer R)
    (result : Relayer R × List (RouteEffect R)) : Prop where
  consistent : Consistent hash orderId result.1
  step : RouteStep cfg hash orderId r result.1 result.2

variable {result : Relayer R × List (RouteEffect R)}

/-- Assignments to orders come before the rest of a stretch. -/
theorem Continues.after (h : Continues cfg hash orderId r' result) (htracker : r'.tracker = r.tracker)
    (hnames : r'.names = r.names) : Continues cfg hash orderId r result where
  consistent := h.consistent
  step := by
    rcases h with ⟨_, ⟨hsame, hkept, hresponses⟩ | ⟨naming, hhandle, hnew, hpays, htrace⟩⟩
    · exact .quiet (hsame.trans htracker) (hkept.trans hnames) hresponses
    · rw [htracker] at hhandle hnew
      rw [hnames] at hnew
      exact .tracked naming hhandle hnew hpays htrace

theorem Consistent.continues_respond (h : Consistent hash orderId r) (response : Response) :
    Continues cfg hash orderId r (r.respond request response) :=
  ⟨h.respond response, .quiet rfl rfl (by simp [Relayer.respond])⟩

theorem Consistent.continues_wait (h : Consistent hash orderId r) {phase : Request R}
    (hphase : phase.Fits hash orderId r) :
    Continues cfg hash orderId r (r.wait request phase, []) :=
  ⟨h.wait hphase, .quiet rfl rfl (by simp)⟩

theorem Consistent.follow (h : Consistent hash orderId r) (naming : Option String)
    (result : Tracker R × List (Effect R)) : Consistent hash orderId (r.follow naming result).1 where
  ids := h.ids
  named := h.named
  requests := by
    intro request phase hphase
    exact (h.requests request phase hphase).keep ⟨Nat.le_refl _, fun _ _ => rfl⟩

theorem Consistent.continues_submit (h : Consistent hash orderId r) {naming : Option String}
    {action : RelayAction} {phase : Awaited R → Request R}
    (hpays : naming = some hash → Pays orderId action)
    (hphase : ∀ promise, (phase promise).Fits hash orderId r) :
    Continues cfg hash orderId r (r.submit cfg now request naming action phase) where
  consistent := by
    apply (h.follow naming _).wait
    exact (hphase _).keep ⟨Nat.le_refl _, fun _ _ => rfl⟩
  step := by
    have hhandle : r.tracker.handle cfg.relay now (.submit action) =
        some (r.tracker.submit cfg.relay now action) := rfl
    apply RouteStep.tracked naming hhandle rfl _ rfl
    rintro action' ⟨⟩
    exact hpays

/-! ### Releases and inline refunds -/

theorem Consistent.inlineRefund (h : Consistent hash orderId r) {body : ReleaseRequest}
    (hbody : body.stellarTxHash = hash → body.orderId = orderId) (order : ℕ) :
    Continues cfg hash orderId r (r.inlineRefund cfg now request body order) := by
  rw [Relayer.inlineRefund]
  split_ifs
  · apply h.continues_submit
    · intro hnaming
      exact ⟨hbody (Option.some.inj hnaming), rfl, .inr rfl⟩
    · intro promise
      exact trivial
  · exact h.continues_respond _

theorem Consistent.receive (h : Consistent hash orderId r) {body : ReleaseRequest} {order : ℕ}
    (hbody : body.stellarTxHash = hash → body.orderId = orderId)
    (horder : (r.orders order).orderId = body.orderId) :
    Continues cfg hash orderId r (r.receive cfg now request body order) := by
  have hassigned : Consistent hash orderId (r.assignOrder order (.received now body)) := by
    apply h.assignOrder rfl
    intro hhash
    rw [horder]
    exact hbody (Option.some.inj hhash)
  have hrest : Continues cfg hash orderId (r.assignOrder order (.received now body))
      (r.receive cfg now request body order) := by
    rw [Relayer.receive]
    split_ifs
    · exact hassigned.inlineRefund hbody order
    · exact hassigned.continues_respond _
    · exact hassigned.continues_wait hbody
  exact hrest.after rfl rfl

theorem oneOrder_body {body : XlmToEthBody} {id stellarTxHash : String}
    (hok : body.stellarTxHash = some hash → orText body.orderId orderId = orderId)
    (hid : truthyText body.orderId = some id)
    (hhash : truthyText body.stellarTxHash = some stellarTxHash) :
    stellarTxHash = hash → id = orderId := by
  rintro rfl
  rw [← hok (truthyText_some hhash).1, orText_some hid]

theorem Consistent.nextRequest (h : Consistent hash orderId r) :
    Consistent hash orderId { r with nextRequest := r.nextRequest + 1 } :=
  ⟨h.ids, h.named, h.requests⟩

variable (cfg now request) in
theorem Consistent.synthesize (h : Consistent hash orderId r) {body : ReleaseRequest}
    (hbody : body.stellarTxHash = hash → body.orderId = orderId) :
    Continues cfg hash orderId r ((r.setOrder (synthesizedOrder now body)).wait request
      (.storing body r.nextOrder), []) := by
  have hstored : Consistent hash orderId (r.setOrder (synthesizedOrder now body)) :=
    h.setOrder nofun
  have hwait : Continues cfg hash orderId (r.setOrder (synthesizedOrder now body))
      ((r.setOrder (synthesizedOrder now body)).wait request (.storing body r.nextOrder), []) := by
    apply hstored.continues_wait
    refine ⟨hbody, Nat.lt_succ_self _, ?_⟩
    rw [Relayer.setOrder_self]
    rfl
  exact hwait.after rfl rfl

theorem Consistent.xlmToEth (h : Consistent hash orderId r) {body : XlmToEthBody}
    (hok : body.stellarTxHash = some hash → orText body.orderId orderId = orderId) :
    Continues cfg hash orderId r (r.xlmToEth cfg now body) := by
  have hrest : Continues cfg hash orderId { r with nextRequest := r.nextRequest + 1 }
      (r.xlmToEth cfg now body) := by
    simp only [Relayer.xlmToEth]
    split
    · rename_i id stellarTxHash ethAddress hid hhash _
      have hbody := oneOrder_body hok hid hhash
      split_ifs
      · exact h.nextRequest.continues_respond _
      · split
        · rename_i order hget
          split_ifs
          · exact h.nextRequest.continues_respond _
          · exact h.nextRequest.receive hbody (h.nextRequest.getOrder hget).2
        · exact h.nextRequest.synthesize cfg now r.nextRequest hbody
    · exact h.nextRequest.continues_respond _
  exact hrest.after rfl rfl

theorem Consistent.stored (h : Consistent hash orderId r) {ok : Bool}
    (hhandle : r.stored cfg request now ok = some result) :
    Continues cfg hash orderId r result := by
  simp only [Relayer.stored] at hhandle
  split at hhandle
  · rename_i body order hphase
    have hfits := h.requests request _ hphase
    split_ifs at hhandle
    · rw [← Option.some.inj hhandle]
      exact h.receive hfits.1 hfits.2.2
    · rw [← Option.some.inj hhandle]
      exact h.continues_respond _
  · contradiction

theorem Consistent.balanced (h : Consistent hash orderId r) {balance : Balance}
    (hhandle : r.balanced cfg request now balance = some result) :
    Continues cfg hash orderId r result := by
  simp only [Relayer.balanced] at hhandle
  split at hhandle
  · rename_i body order hphase
    have hbody : body.stellarTxHash = hash → body.orderId = orderId := h.requests request _ hphase
    rw [← Option.some.inj hhandle]
    cases balance with
    | unavailable => exact h.inlineRefund hbody order
    | insufficient => exact h.continues_respond _
    | sufficient =>
        apply h.continues_submit
        · intro hnaming
          exact ⟨hbody (Option.some.inj hnaming), rfl, .inl rfl⟩
        · intro promise
          exact hbody
  · contradiction

theorem Consistent.released (h : Consistent hash orderId r) {body : ReleaseRequest} {order : ℕ}
    (hbody : body.stellarTxHash = hash → body.orderId = orderId)
    (outcome : Except SubmitError (RelayOutcome R)) :
    Continues cfg hash orderId r (r.released cfg request now body order outcome) := by
  cases outcome with
  | ok outcome =>
      have hstamped : Consistent hash orderId (r.assignOrder order fun o =>
          { o with status := some "eth_tx_sent", ethTxHash := outcome.txHash }) :=
        h.stamp (fun _ => rfl) fun _ => rfl
      exact (hstamped.continues_respond _).after rfl rfl
  | error e =>
      cases e with
      | inFlight | orderBusy | confirmationTimeout => exact h.continues_respond _
      | terminal => exact h.inlineRefund hbody order

theorem Consistent.refunded (h : Consistent hash orderId r) {order : ℕ}
    (outcome : Except SubmitError (RelayOutcome R)) :
    Continues cfg hash orderId r (r.refunded request order outcome) := by
  cases outcome with
  | ok outcome =>
      have hstamped : Consistent hash orderId (r.assignOrder order fun o =>
          { o with status := some "refunded", refundTxHash := outcome.txHash }) :=
        h.stamp (fun _ => rfl) fun _ => rfl
      exact (hstamped.continues_respond _).after rfl rfl
  | error e => exact h.continues_respond _

/-! ### Manual refunds -/

theorem Consistent.manualRefund (h : Consistent hash orderId r) {body : ManualRefundBody}
    (hok : body.stellarTxHash = some hash → orText body.orderId orderId = orderId) :
    Continues cfg hash orderId r (r.manualRefund cfg body) := by
  have hrest : Continues cfg hash orderId { r with nextRequest := r.nextRequest + 1 }
      (r.manualRefund cfg body) := by
    simp only [Relayer.manualRefund]
    split
    · rename_i stellarTxHash stellarAddress hhash _
      apply h.nextRequest.continues_wait
      rintro rfl requested hrequested
      rw [← hok (truthyText_some hhash).1, orText_some hrequested]
    · exact h.nextRequest.continues_respond _
  exact hrest.after rfl rfl

/-- Every way to derive the id of a refund leads to the order. -/
theorem Consistent.refundOrderId (h : Consistent hash orderId r) (horderId : orderId ≠ "")
    {body : RefundRequest}
    (hbody : ∀ requested, body.requestedOrderId = some requested → requested = orderId)
    (hfound : body.requestedOrderId = none →
      r.activeOrders.any fun entry => (r.orders entry.2).stellarTxHash = some hash)
    (hhash : body.stellarTxHash = hash) : (r.refundOrderId body).1 = orderId := by
  unfold Relayer.refundOrderId
  split
  · rename_i requested hrequested
    exact hbody requested hrequested
  · rename_i hnone
    split
    · rename_i entry hentry
      have hnamed := h.named entry.2 (by simpa [hhash] using List.find?_some hentry)
      rw [(h.ids entry (List.mem_of_find?_eq_some hentry)).2] at hnamed
      rw [hnamed]
      apply orText_some
      simp [truthyText, horderId]
    · rename_i hmissing
      have hany := hfound hnone
      rw [← hhash] at hany
      simp only [List.any_eq_true, decide_eq_true_eq] at hany
      rcases hany with ⟨entry, hentry, hnamed⟩
      simpa [hnamed] using List.find?_eq_none.mp hmissing entry hentry

theorem Consistent.imported (h : Consistent hash orderId r) (horderId : orderId ≠ "")
    {stored : List (PersistedSubmission R)}
    (hok : oneOrder hash orderId (.imported request) r stored)
    (hhandle : r.imported cfg request = some result) : Continues cfg hash orderId r result := by
  simp only [Relayer.imported] at hhandle
  split at hhandle
  · rename_i body hphase
    have hfits := h.requests request _ hphase
    simp only [oneOrder, hphase, decide_eq_true_eq] at hok
    split_ifs at hhandle
    · rw [← Option.some.inj hhandle]
      exact h.continues_respond _
    · rw [← Option.some.inj hhandle]
      apply h.continues_wait
      intro hhash
      exact h.refundOrderId horderId (hfits hhash) (hok hhash) hhash
  · contradiction

theorem Consistent.verified (h : Consistent hash orderId r)
    {operations : Option (List HorizonOperation)}
    (hhandle : r.verified cfg request operations = some result) :
    Continues cfg hash orderId r result := by
  simp only [Relayer.verified] at hhandle
  split at hhandle
  · rename_i body refundOrderId matched hphase
    rw [← Option.some.inj hhandle]
    have hbody : body.stellarTxHash = hash → refundOrderId = orderId := h.requests request _ hphase
    split
    · exact h.continues_respond _
    · split_ifs
      · exact h.continues_wait hbody
      · exact h.continues_respond _
  · contradiction

theorem Consistent.memosChecked (h : Consistent hash orderId r)
    {memos : Option (List (Option String))}
    (hhandle : r.memosChecked cfg request now memos = some result) :
    Continues cfg hash orderId r result := by
  simp only [Relayer.memosChecked] at hhandle
  split at hhandle
  · rename_i body refundOrderId matched hphase
    have hbody : body.stellarTxHash = hash → refundOrderId = orderId := h.requests request _ hphase
    split_ifs at hhandle
    · rw [← Option.some.inj hhandle]
      exact h.continues_respond _
    · rw [← Option.some.inj hhandle]
      apply h.continues_submit
      · intro hnaming
        exact ⟨hbody (Option.some.inj hnaming), rfl, .inr rfl⟩
      · intro promise
        exact trivial
  · contradiction

theorem Consistent.manuallyRefunded (h : Consistent hash orderId r) {matched : Option ℕ}
    (outcome : Except SubmitError (RelayOutcome R)) :
    Continues cfg hash orderId r (r.manuallyRefunded request now matched outcome) := by
  cases outcome with
  | ok outcome =>
      have hstamped : Consistent hash orderId (r.assignMatched matched fun o =>
          { o with
            status := some "refunded"
            refundTxHash := outcome.txHash
            refundedAt := some now }) :=
        h.assignMatched (fun _ => rfl) fun _ => rfl
      apply (hstamped.continues_respond _).after
      · cases matched <;> rfl
      · cases matched <;> rfl
  | error e =>
      cases e with
      | inFlight | orderBusy | confirmationTimeout | terminal => exact h.continues_respond _

/-! ### The watchdog -/

theorem nextDue_mem {scanStart : ℕ} {entries : List (String × ℕ)} {index index' ref : ℕ}
    {key : String} (h : r.nextDue cfg scanStart entries index = some (index', key, ref)) :
    (key, ref) ∈ entries := by
  induction entries generalizing index with
  | nil => contradiction
  | cons entry entries ih =>
      rw [Relayer.nextDue] at h
      split_ifs at h
      · simp only [Option.some.injEq, Prod.mk.injEq] at h
        rw [← h.2.1, ← h.2.2]
        exact List.mem_cons_self
      · exact List.mem_cons_of_mem _ (ih h)

theorem Consistent.scanFrom (h : Consistent hash orderId r) {scanStart index : ℕ} :
    Continues cfg hash orderId r (r.scanFrom cfg now request scanStart index) := by
  rw [Relayer.scanFrom]
  split
  · exact ⟨h.over, .quiet rfl rfl (by simp)⟩
  · rename_i index' key ref hdue
    have hentry := List.mem_of_mem_drop (nextDue_mem hdue)
    have hkey : (r.orders ref).orderId = key := (h.ids _ hentry).2
    apply h.continues_submit
    · intro hnaming
      refine ⟨?_, rfl, .inr rfl⟩
      rw [← h.named ref hnaming, ← hkey]
      simp only [watchdogRefundAction, orText]
      cases htruthy : truthyText (some (r.orders ref).orderId) with
      | none => rfl
      | some text => exact (Option.some.inj (truthyText_some htruthy).1).symm
    · intro promise
      exact trivial

theorem watchdogRefunded_orderId (outcome : Except SubmitError (RelayOutcome R))
    (order : ActiveOrder) :
    (order.watchdogRefunded cfg now outcome).orderId = order.orderId ∧
      (order.watchdogRefunded cfg now outcome).stellarTxHash = order.stellarTxHash := by
  unfold ActiveOrder.watchdogRefunded
  split
  · split
    · exact ⟨rfl, rfl⟩
    · exact ⟨rfl, rfl⟩
  · exact ⟨rfl, rfl⟩
  · exact ⟨rfl, rfl⟩
  · exact ⟨rfl, rfl⟩
  · exact ⟨rfl, rfl⟩

/-! ### All stretches -/

theorem Consistent.resumed (h : Consistent hash orderId r)
    (hhandle : r.resumed cfg request now = some result) : Continues cfg hash orderId r result := by
  simp only [Relayer.resumed] at hhandle
  split at hhandle
  · rename_i body order promise hphase
    rcases Option.map_eq_some_iff.mp hhandle with ⟨outcome, _, rfl⟩
    exact h.released (h.requests request _ hphase) outcome
  · rcases Option.map_eq_some_iff.mp hhandle with ⟨outcome, _, rfl⟩
    exact h.refunded outcome
  · rcases Option.map_eq_some_iff.mp hhandle with ⟨outcome, _, rfl⟩
    exact h.manuallyRefunded outcome
  · rename_i order promise hphase
    rcases Option.map_eq_some_iff.mp hhandle with ⟨outcome, _, rfl⟩
    have hstamped : Consistent hash orderId
        (r.assignOrder order (.watchdogRefunded cfg now outcome)) :=
      h.stamp (fun o => (watchdogRefunded_orderId outcome o).1)
        fun o => (watchdogRefunded_orderId outcome o).2
    exact hstamped.scanFrom.after rfl rfl
  · contradiction

/-- Every stretch keeps the ids, and submits payouts of the payment for its order only. -/
theorem Consistent.handle (h : Consistent hash orderId r) (horderId : orderId ≠ "")
    {event : RouteEvent R} {stored : List (PersistedSubmission R)}
    (hok : oneOrder hash orderId event r stored) (hhandle : r.handle cfg event = some result) :
    Continues cfg hash orderId r result := by
  cases event with
  | xlmToEth now body =>
      rw [← Option.some.inj hhandle]
      exact h.xlmToEth (of_decide_eq_true hok)
  | stored request now ok => exact h.stored hhandle
  | balanced request now balance => exact h.balanced hhandle
  | manualRefund body =>
      rw [← Option.some.inj hhandle]
      exact h.manualRefund (of_decide_eq_true hok)
  | imported request => exact h.imported horderId hok hhandle
  | verified request operations => exact h.verified hhandle
  | memosChecked request now memos => exact h.memosChecked hhandle
  | scan now =>
      rw [← Option.some.inj hhandle]
      exact h.nextRequest.scanFrom.after rfl rfl
  | resumed request now => exact h.resumed hhandle
  | store order =>
      rw [← Option.some.inj hhandle]
      exact ⟨h.setOrder (of_decide_eq_true hok), .quiet rfl rfl (by simp)⟩
  | change ref order =>
      simp only [Relayer.handle] at hhandle
      split_ifs at hhandle with hallowed
      rw [← Option.some.inj hhandle]
      have hnamed : order.stellarTxHash = some hash → order.orderId = orderId :=
        of_decide_eq_true hok
      rw [hallowed.2] at hnamed
      have hchanged : Consistent hash orderId (r.assignOrder ref fun _ => order) :=
        h.assignOrder hallowed.2 hnamed
      exact ⟨hchanged, .quiet rfl rfl (by simp)⟩
  | relay now event =>
      rcases Option.map_eq_some_iff.mp hhandle with ⟨⟨t', trace⟩, htracker, rfl⟩
      exact ⟨h.follow none _, .tracked none htracker rfl nofun rfl⟩

end OverSync.RelayRoutes
