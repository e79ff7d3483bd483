import OverSync.Model.RefundWatchdog
import OverSync.Verification.RelayRoutes.Payouts
import OverSync.Verification.RelaySubmissionTracker.Recorded

/-! # Networks of refunds

The watchdog signs for its own network and submits under the network of the order, which the tracker
records and the confirmer polls. -/

namespace OverSync.RefundWatchdog

open Function Library Machine RelaySubmissionTracker RelayRoutes

variable {R : Type} {sdk : StellarSdk} {cfg : WatchdogConfig R}

/-! ## Stretches of the relayer -/

/-- What a stretch does to the tracker: nothing, or one stretch of the tracker itself, which is the
submission of the order that the watchdog refunds. -/
def Drives (cfg : RouteConfig R) (r : Relayer R) (due : Option DueOrder)
    (result : Relayer R × List (RouteEffect R)) : Prop :=
  (result.1.tracker = r.tracker ∧ tracked result.2 = []) ∨
    ∃ now event, r.tracker.handle cfg.relay now event = some (result.1.tracker, tracked result.2) ∧
      ∀ d, due = some d →
        event = .submit (watchdogRefundAction d.key d.order cfg.watchdogNetwork)

section Routes

variable {cfg : RouteConfig R} {r r' : Relayer R} {result : Relayer R × List (RouteEffect R)}
  {now request : ℕ} {due : Option DueOrder}

theorem Drives.after (h : Drives cfg r' due result) (htracker : r'.tracker = r.tracker) :
    Drives cfg r due result := by
  rwa [Drives, htracker] at h

theorem respond_drives (response : Response) : Drives cfg r due (r.respond request response) :=
  .inl ⟨rfl, rfl⟩

theorem wait_drives (phase : Request R) : Drives cfg r due (r.wait request phase, []) :=
  .inl ⟨rfl, rfl⟩

theorem submit_drives {naming : Option String} {action : RelayAction} {phase : Awaited R → Request R}
    (hdue : ∀ d, due = some d → action = watchdogRefundAction d.key d.order cfg.watchdogNetwork) :
    Drives cfg r due (r.submit cfg now request naming action phase) := by
  refine .inr ⟨now, .submit action, ?_, ?_⟩
  · simp only [Relayer.submit, Relayer.follow, tracked_label]
    rfl
  · intro d hd
    rw [hdue d hd]

theorem submit_drives_none {naming : Option String} {action : RelayAction}
    {phase : Awaited R → Request R} :
    Drives cfg r none (r.submit cfg now request naming action phase) := by
  apply submit_drives
  intro d hd
  contradiction

theorem inlineRefund_drives (body : ReleaseRequest) (order : ℕ) :
    Drives cfg r none (r.inlineRefund cfg now request body order) := by
  rw [Relayer.inlineRefund]
  split_ifs
  · exact submit_drives_none
  · exact respond_drives _

theorem receive_drives (body : ReleaseRequest) (order : ℕ) :
    Drives cfg r none (r.receive cfg now request body order) := by
  have hrest : Drives cfg (r.assignOrder order (.received now body)) none
      (r.receive cfg now request body order) := by
    rw [Relayer.receive]
    split_ifs
    · exact inlineRefund_drives body order
    · exact respond_drives _
    · exact wait_drives _
  exact hrest.after rfl

theorem xlmToEth_drives (body : XlmToEthBody) : Drives cfg r none (r.xlmToEth cfg now body) := by
  have hrest : Drives cfg { r with nextRequest := r.nextRequest + 1 } none
      (r.xlmToEth cfg now body) := by
    simp only [Relayer.xlmToEth]
    split
    · split_ifs
      · exact respond_drives _
      · split
        · split_ifs
          · exact respond_drives _
          · exact receive_drives _ _
        · exact (wait_drives _).after rfl
    · exact respond_drives _
  exact hrest.after rfl

theorem stored_drives {ok : Bool} (hhandle : r.stored cfg request now ok = some result) :
    Drives cfg r none result := by
  simp only [Relayer.stored] at hhandle
  split at hhandle
  · split_ifs at hhandle
    · rw [← Option.some.inj hhandle]
      exact receive_drives _ _
    · rw [← Option.some.inj hhandle]
      exact respond_drives _
  · contradiction

theorem balanced_drives {balance : Balance}
    (hhandle : r.balanced cfg request now balance = some result) : Drives cfg r none result := by
  simp only [Relayer.balanced] at hhandle
  split at hhandle
  · rw [← Option.some.inj hhandle]
    cases balance with
    | unavailable => exact inlineRefund_drives _ _
    | insufficient => exact respond_drives _
    | sufficient => exact submit_drives_none
  · contradiction

theorem released_drives {body : ReleaseRequest} {order : ℕ}
    (outcome : Except SubmitError (RelayOutcome R)) :
    Drives cfg r none (r.released cfg request now body order outcome) := by
  cases outcome with
  | ok outcome => exact .inl ⟨rfl, rfl⟩
  | error e =>
      cases e with
      | inFlight | orderBusy | confirmationTimeout => exact respond_drives _
      | terminal => exact inlineRefund_drives _ _

theorem refunded_drives {order : ℕ} (outcome : Except SubmitError (RelayOutcome R)) :
    Drives cfg r none (r.refunded request order outcome) := by
  cases outcome with
  | ok outcome => exact .inl ⟨rfl, rfl⟩
  | error e => exact respond_drives _

theorem manualRefund_drives (body : ManualRefundBody) :
    Drives cfg r none (r.manualRefund cfg body) := by
  simp only [Relayer.manualRefund]
  split
  · exact .inl ⟨rfl, rfl⟩
  · exact .inl ⟨rfl, rfl⟩

theorem imported_drives (hhandle : r.imported cfg request = some result) :
    Drives cfg r none result := by
  simp only [Relayer.imported] at hhandle
  split at hhandle
  · split_ifs at hhandle
    · rw [← Option.some.inj hhandle]
      exact respond_drives _
    · rw [← Option.some.inj hhandle]
      exact wait_drives _
  · contradiction

theorem verified_drives {operations : Option (List HorizonOperation)}
    (hhandle : r.verified cfg request operations = some result) : Drives cfg r none result := by
  simp only [Relayer.verified] at hhandle
  split at hhandle
  · rw [← Option.some.inj hhandle]
    split
    · exact respond_drives _
    · split_ifs
      · exact wait_drives _
      · exact respond_drives _
  · contradiction

theorem memosChecked_drives {memos : Option (List (Option String))}
    (hhandle : r.memosChecked cfg request now memos = some result) : Drives cfg r none result := by
  simp only [Relayer.memosChecked] at hhandle
  split at hhandle
  · split_ifs at hhandle
    · rw [← Option.some.inj hhandle]
      exact respond_drives _
    · rw [← Option.some.inj hhandle]
      exact submit_drives_none
  · contradiction

theorem manuallyRefunded_drives {matched : Option ℕ}
    (outcome : Except SubmitError (RelayOutcome R)) :
    Drives cfg r none (r.manuallyRefunded request now matched outcome) := by
  cases outcome with
  | ok outcome =>
      refine .inl ⟨?_, rfl⟩
      cases matched <;> rfl
  | error e =>
      cases e with
      | inFlight | orderBusy | confirmationTimeout | terminal => exact respond_drives _

/-- A scan submits the refund of the order that is due next. -/
theorem scanFrom_drives {scanStart index : ℕ} :
    Drives cfg r (dueFrom cfg r scanStart index)
      (r.scanFrom cfg now request scanStart index) := by
  simp only [Relayer.scanFrom, dueFrom]
  cases r.nextDue cfg scanStart (r.activeOrders.drop index) index with
  | none => exact .inl ⟨rfl, rfl⟩
  | some next =>
      apply submit_drives
      rintro d ⟨⟩
      rfl

theorem nextDue_congr (htracker : r'.tracker = r.tracker) (horders : r'.orders = r.orders)
    {scanStart index : ℕ} (entries : List (String × ℕ)) :
    r'.nextDue cfg scanStart entries index = r.nextDue cfg scanStart entries index := by
  induction entries generalizing index with
  | nil => rfl
  | cons entry entries ih =>
      have hdue : r'.due cfg scanStart entry.1 (r.orders entry.2) =
          r.due cfg scanStart entry.1 (r.orders entry.2) := by
        rw [Relayer.due, Relayer.due, htracker]
      rw [Relayer.nextDue, Relayer.nextDue, horders, hdue, ih]

theorem resumed_drives (hhandle : r.resumed cfg request now = some result) :
    Drives cfg r (submitted cfg r (.resumed request now)) result := by
  simp only [Relayer.resumed] at hhandle
  simp only [submitted]
  split at hhandle
  · rename_i hphase
    rw [hphase]
    obtain ⟨outcome, _, rfl⟩ := Option.map_eq_some_iff.mp hhandle
    exact released_drives outcome
  · rename_i hphase
    rw [hphase]
    obtain ⟨outcome, _, rfl⟩ := Option.map_eq_some_iff.mp hhandle
    exact refunded_drives outcome
  · rename_i hphase
    rw [hphase]
    obtain ⟨outcome, _, rfl⟩ := Option.map_eq_some_iff.mp hhandle
    exact manuallyRefunded_drives outcome
  · rename_i hphase
    rw [hphase]
    obtain ⟨outcome, houtcome, rfl⟩ := Option.map_eq_some_iff.mp hhandle
    simp only [houtcome, Option.bind_some]
    exact scanFrom_drives.after rfl
  · contradiction

/-- Every stretch of the relayer is quiet or a stretch of the tracker. -/
theorem handle_drives {event : RouteEvent R} (hhandle : r.handle cfg event = some result) :
    Drives cfg r (submitted cfg r event) result := by
  cases event with
  | xlmToEth now body =>
      rw [← Option.some.inj hhandle]
      exact xlmToEth_drives body
  | stored request now ok => exact stored_drives hhandle
  | balanced request now balance => exact balanced_drives hhandle
  | manualRefund body =>
      rw [← Option.some.inj hhandle]
      exact manualRefund_drives body
  | imported request => exact imported_drives hhandle
  | verified request operations => exact verified_drives hhandle
  | memosChecked request now memos => exact memosChecked_drives hhandle
  | scan now =>
      rw [← Option.some.inj hhandle]
      have hscan : Drives cfg { r with nextRequest := r.nextRequest + 1 }
          (dueFrom cfg { r with nextRequest := r.nextRequest + 1 } now 0) (r.scan cfg now) :=
        scanFrom_drives
      have hnext : ∀ entries, { r with nextRequest := r.nextRequest + 1 }.nextDue cfg now entries 0 =
          r.nextDue cfg now entries 0 := by
        intro entries
        apply nextDue_congr
        · rfl
        · rfl
      simp only [dueFrom, hnext] at hscan
      exact hscan.after rfl
  | resumed request now => exact resumed_drives hhandle
  | store order =>
      rw [← Option.some.inj hhandle]
      exact .inl ⟨rfl, rfl⟩
  | change ref order =>
      simp only [Relayer.handle] at hhandle
      split_ifs at hhandle
      rw [← Option.some.inj hhandle]
      exact .inl ⟨rfl, rfl⟩
  | relay now event =>
      obtain ⟨⟨t', trace⟩, htracker, rfl⟩ := Option.map_eq_some_iff.mp hhandle
      refine .inr ⟨now, event, ?_, ?_⟩
      · simpa only [Relayer.follow, tracked_label] using htracker
      · intro d hd
        contradiction

end Routes

/-! ## Refunds -/

variable {w w' : Watchdog R} {past effects front : List (WatchdogEffect R)}
  {stored : List (PersistedSubmission R)}

/-- The refunds that the watchdog broadcasts. -/
def refunds (effects : List (WatchdogEffect R)) : List Refund :=
  effects.filterMap WatchdogEffect.refund

/-- The effects of the tracker. -/
def relayedBy (effects : List (WatchdogEffect R)) : List (Effect R) :=
  tracked (effects.map WatchdogEffect.route)

/-- The transaction is built for the network that the tracker has on record and the confirmer is
asked about, and for the network that the order names. -/
structure OnOwnNetwork (t : Tracker R) (past : List (Effect R)) (refund : Refund)
    (networkMode : RefundNetworkMode) : Prop where
  built : refund.transaction.networkPassphrase = networkMode.networkPassphrase
  recorded : ∃ r ∈ t.list, r.key = refund.key ∧ r.txHash = some refund.txHash ∧
    (confirmationRef r).network = some networkMode.text
  polled : ∀ task ref, .confirm task ref ∈ past → ref.key = refund.key →
    ref.txHash = some refund.txHash ∧ ref.network = some networkMode.text
  own : ∀ named : RefundNetworkMode, refund.due.order.networkMode = some named.text →
    named = networkMode

variable (cfg) in
/-- The condition: the order names no network, or that of the watchdog. -/
def DueOrder.namesWatchdogNetwork (due : DueOrder) : Prop :=
  truthyText due.order.networkMode = none ∨ due.order.networkMode = some cfg.networkMode.text

variable (sdk cfg) in
/-- A refund is the payment of an order, submitted as that order's action. -/
structure Refund.Signed (refund : Refund) : Prop where
  action : refund.action = refund.due.action cfg
  key : refund.key = computeSubmissionKey cfg.routes.relay.shortDigest refund.action
  txHash : refund.txHash = sdk.hash refund.transaction
  networkPassphrase :
    refund.transaction.networkPassphrase = cfg.networkMode.networkPassphrase

@[simp] theorem refunds_append (front back : List (WatchdogEffect R)) :
    refunds (front ++ back) = refunds front ++ refunds back :=
  List.filterMap_append

@[simp] theorem relayedBy_append (front back : List (WatchdogEffect R)) :
    relayedBy (front ++ back) = relayedBy front ++ relayedBy back := by
  rw [relayedBy, List.map_append, tracked_append]
  rfl

@[simp] theorem relayedBy_routed (effects : List (RouteEffect R)) :
    relayedBy (effects.map fun effect => ⟨effect, none⟩) = tracked effects := by
  rw [relayedBy, List.map_map]
  exact congrArg tracked (List.map_id effects)

@[simp] theorem refunds_routed (effects : List (RouteEffect R)) :
    refunds (effects.map fun effect => ⟨effect, none⟩) = [] := by
  simp [refunds]

@[simp] theorem relayedBy_signed (due : DueOrder) (transaction : Transaction)
    (effects : List (RouteEffect R)) :
    relayedBy (effects.map (sign cfg due transaction)) = tracked effects := by
  have hroute : ∀ effect : RouteEffect R, (sign cfg due transaction effect).route = effect := by
    intro effect
    unfold sign
    split <;> rfl
  rw [relayedBy, List.map_map]
  congr 1
  exact (List.map_congr_left fun effect _ => hroute effect).trans (List.map_id effects)

/-- A refund is the broadcast of an operation. -/
theorem mem_refunds_signed {due : DueOrder} {transaction : Transaction}
    {effects : List (RouteEffect R)} {refund : Refund}
    (h : refund ∈ refunds (effects.map (sign cfg due transaction))) :
    ∃ task, .broadcast task refund.action refund.key refund.txHash ∈ tracked effects ∧
      refund.due = due ∧ refund.transaction = transaction := by
  obtain ⟨signed, hsigned, hrefund⟩ := List.mem_filterMap.mp h
  obtain ⟨effect, heffect, rfl⟩ := List.mem_map.mp hsigned
  unfold sign at hrefund
  split at hrefund
  · rename_i naming task action key txHash
    obtain rfl := Option.some.inj hrefund
    exact ⟨task, List.mem_filterMap.mpr ⟨_, heffect, rfl⟩, rfl, rfl⟩
  · contradiction

theorem applyAll_eq (effects : List (WatchdogEffect R)) :
    (watchdog sdk cfg).applyAll stored effects =
      (process cfg.routes.relay).applyAll stored (relayedBy effects) := by
  induction effects generalizing stored with
  | nil => rfl
  | cons effect effects ih =>
      rw [applyAll_cons, ih]
      obtain ⟨route, refund⟩ := effect
      cases route <;> rfl

/-! ## The invariant -/

variable (cfg) in
/-- The stagers of the watchdog are for the actions of their orders. -/
def Watchdog.Waits (w : Watchdog R) : Prop :=
  ∀ task due, w.due task = some due → task < w.relayer.tracker.nextTask ∧
    ∀ action, w.relayer.tracker.stager task = some action → action = due.action cfg

variable (sdk cfg) in
/-- What is broadcast and confirmed is on record. -/
structure Covered (records : String → String → Option String → Prop)
    (past : List (WatchdogEffect R)) : Prop where
  signed : ∀ refund ∈ refunds past, refund.Signed sdk cfg ∧
    records refund.key refund.txHash (refund.due.action cfg).network
  confirmed : ∀ task ref, .confirm task ref ∈ relayedBy past →
    ∃ hash, ref.txHash = some hash ∧ records ref.key hash ref.network

variable (sdk cfg) in
structure WatchdogLive (w : Watchdog R) (stored : List (PersistedSubmission R))
    (past : List (WatchdogEffect R)) : Prop where
  live : Live cfg.routes.relay w.relayer.tracker stored (relayedBy past)
  waits : w.Waits cfg
  covered : Covered sdk cfg w.relayer.tracker.Records past
  durable : ∀ {key hash network}, w.relayer.tracker.Records key hash network →
    RecordedIn stored key hash network

variable (sdk cfg) in
structure WatchdogSaved (stored : List (PersistedSubmission R))
    (past : List (WatchdogEffect R)) : Prop where
  saved : Saved cfg.routes.relay stored (relayedBy past)
  covered : Covered sdk cfg (RecordedIn stored) past

theorem Covered.mono {records records' : String → String → Option String → Prop}
    (h : Covered sdk cfg records past)
    (hrecords : ∀ {key hash network}, records key hash network → records' key hash network) :
    Covered sdk cfg records' past where
  signed := by
    intro refund hrefund
    obtain ⟨hsigned, hrecord⟩ := h.signed refund hrefund
    exact ⟨hsigned, hrecords hrecord⟩
  confirmed := by
    intro task ref hconfirm
    obtain ⟨hash, hhash, hrecord⟩ := h.confirmed task ref hconfirm
    exact ⟨hash, hhash, hrecords hrecord⟩

theorem Covered.append {records : String → String → Option String → Prop}
    (h : Covered sdk cfg records past) (heffects : Covered sdk cfg records effects) :
    Covered sdk cfg records (past ++ effects) where
  signed := by
    intro refund hrefund
    rw [refunds_append] at hrefund
    rcases List.mem_append.mp hrefund with hpast | hnew
    · exact h.signed refund hpast
    · exact heffects.signed refund hnew
  confirmed := by
    intro task ref hconfirm
    rw [relayedBy_append] at hconfirm
    rcases List.mem_append.mp hconfirm with hpast | hnew
    · exact h.confirmed task ref hpast
    · exact heffects.confirmed task ref hnew

theorem WatchdogLive.saved (h : WatchdogLive sdk cfg w stored past) :
    WatchdogSaved sdk cfg stored past :=
  ⟨h.live.saved, h.covered.mono h.durable⟩

theorem WatchdogSaved.recover (h : WatchdogSaved sdk cfg stored past) :
    WatchdogLive sdk cfg (.start (Tracker.empty.restore cfg.routes.relay stored)) stored past where
  live := h.saved.recover
  waits := by
    intro task due hdue
    contradiction
  covered := h.covered.mono h.saved.restore_records.mpr
  durable := h.saved.restore_records.mp

/-- A stretch of the relayer in which the tracker does nothing. -/
theorem WatchdogLive.quiet (h : WatchdogLive sdk cfg w stored past)
    (htracker : w'.relayer.tracker = w.relayer.tracker) (hdue : w'.due = w.due)
    (heffects : relayedBy effects = []) (hrefunds : refunds effects = []) :
    WatchdogLive sdk cfg w' ((watchdog sdk cfg).applyAll stored effects) (past ++ effects) := by
  rw [applyAll_eq, heffects]
  constructor
  · rw [relayedBy_append, heffects, List.append_nil, htracker]
    exact h.live
  · intro task due
    rw [hdue, htracker]
    exact h.waits task due
  · rw [htracker]
    apply h.covered.append
    constructor
    · simp [hrefunds]
    · simp [heffects]
  · rw [htracker]
    exact h.durable

/-- The refunds of a stretch of the tracker, which are broadcast after a save. -/
structure Issues (sdk : StellarSdk) (cfg : WatchdogConfig R) (t' : Tracker R)
    (effects : List (WatchdogEffect R)) : Prop where
  signed : ∀ refund ∈ refunds effects, refund.Signed sdk cfg ∧
    t'.Records refund.key refund.txHash (refund.due.action cfg).network
  saved : ∀ front, front <+: effects → refunds front ≠ [] → front = effects

/-- A stretch of the tracker. -/
theorem WatchdogLive.relay (h : WatchdogLive sdk cfg w stored past) {now : ℕ} {event : Event R}
    (hhandle : w.relayer.tracker.handle cfg.routes.relay now event =
      some (w'.relayer.tracker, relayedBy effects))
    (hwaits : w'.Waits cfg) (hissues : Issues sdk cfg w'.relayer.tracker effects) :
    WatchdogLive sdk cfg w' ((watchdog sdk cfg).applyAll stored effects) (past ++ effects) := by
  have hwf := h.live.wellFormed
  have hretains : Retains w.relayer.tracker (w'.relayer.tracker, relayedBy effects) :=
    handle_retains hwf hhandle
  rw [applyAll_eq]
  constructor
  · rw [relayedBy_append]
    exact h.live.handle hhandle
  · exact hwaits
  · apply (h.covered.mono hretains.memory).append
    constructor
    · exact hissues.signed
    · intro task ref hconfirm
      obtain ⟨hash, hhash, hrecords⟩ := handle_confirms hwf hhandle task ref hconfirm
      exact ⟨hash, hhash, hretains.memory hrecords⟩
  · exact handle_durable hwf hhandle h.durable

/-- A crash within a stretch of the tracker. -/
theorem WatchdogLive.relay_cut (h : WatchdogLive sdk cfg w stored past) {now : ℕ}
    {event : Event R}
    (hhandle : w.relayer.tracker.handle cfg.routes.relay now event =
      some (w'.relayer.tracker, relayedBy effects))
    (hwaits : w'.Waits cfg) (hissues : Issues sdk cfg w'.relayer.tracker effects)
    (hfront : front <+: effects) :
    WatchdogSaved sdk cfg ((watchdog sdk cfg).applyAll stored front) (past ++ front) := by
  by_cases hnone : refunds front = []
  · have hwf := h.live.wellFormed
    have hretains : Retains w.relayer.tracker (w'.relayer.tracker, relayedBy effects) :=
      handle_retains hwf hhandle
    have hissued : relayedBy front <+: relayedBy effects := by
      obtain ⟨rest, rfl⟩ := hfront
      rw [relayedBy_append]
      exact List.prefix_append _ _
    have hkept : ∀ {key hash network}, w.relayer.tracker.Records key hash network →
        RecordedIn ((process cfg.routes.relay).applyAll stored (relayedBy front)) key hash
          network := fun hrecords => hretains.cut hissued hrecords (h.durable hrecords)
    rw [applyAll_eq]
    constructor
    · rw [relayedBy_append]
      exact h.live.cut hhandle hissued
    · apply (h.covered.mono hkept).append
      constructor
      · simp [hnone]
      · intro task ref hconfirm
        obtain ⟨hash, hhash, hrecords⟩ :=
          handle_confirms hwf hhandle task ref (hissued.subset hconfirm)
        exact ⟨hash, hhash, hkept hrecords⟩
  · rw [hissues.saved front hfront hnone]
    exact (h.relay hhandle hwaits hissues).saved

/-! ## Stretches of the watchdog -/

theorem called_some {effects : List (RouteEffect R)} {task : ℕ} (h : called effects = some task) :
    ∃ action, .stage task action ∈ tracked effects := by
  obtain ⟨effect, heffect, hcalled⟩ := List.exists_of_findSome?_eq_some h
  split at hcalled
  · rename_i naming task' action
    obtain rfl := Option.some.inj hcalled
    exact ⟨action, List.mem_filterMap.mpr ⟨_, heffect, rfl⟩⟩
  · contradiction

/-- The stagers that were called before. -/
theorem Watchdog.Waits.before (h : w.Waits cfg) (hwf : w.relayer.tracker.WellFormed cfg.routes.relay)
    {now task : ℕ} {event : Event R} {t' : Tracker R} {trace : List (Effect R)} {due : DueOrder}
    (hhandle : w.relayer.tracker.handle cfg.routes.relay now event = some (t', trace))
    (hdue : w.due task = some due) : task < t'.nextTask ∧
      ∀ action, t'.stager task = some action → action = due.action cfg := by
  obtain ⟨hlt, haction⟩ := h task due hdue
  have hmore : w.relayer.tracker.nextTask ≤ t'.nextTask := by
    rcases handle_calls hhandle with huncalled | ⟨action, _, hcalls⟩
    · exact huncalled.nextTask
    · exact hcalls.nextTask
  refine ⟨Nat.lt_of_lt_of_le hlt hmore, ?_⟩
  intro action hstager
  rcases handle_stager hwf hhandle hstager with hbefore | ⟨rfl, _⟩
  · exact haction action hbefore
  · exact absurd hlt (Nat.lt_irrefl _)

theorem DueOrder.action_eq (due : DueOrder) :
    watchdogRefundAction due.key due.order cfg.routes.watchdogNetwork = due.action cfg := by
  rw [DueOrder.action, cfg.networkMode_text]

/-- What a stretch of the watchdog does. -/
inductive WatchdogStep (sdk : StellarSdk) (cfg : WatchdogConfig R) (w w' : Watchdog R)
    (effects : List (WatchdogEffect R)) : Prop where
  | quiet : w'.relayer.tracker = w.relayer.tracker → w'.due = w.due → relayedBy effects = [] →
      refunds effects = [] → WatchdogStep sdk cfg w w' effects
  | relay {now event} : w.relayer.tracker.handle cfg.routes.relay now event =
        some (w'.relayer.tracker, relayedBy effects) →
      w'.Waits cfg → Issues sdk cfg w'.relayer.tracker effects → WatchdogStep sdk cfg w w' effects

theorem Issues.none {t' : Tracker R} (h : refunds effects = []) : Issues sdk cfg t' effects where
  signed := by simp [h]
  saved := by
    rintro front ⟨rest, rfl⟩ hsome
    rw [refunds_append, List.append_eq_nil_iff] at h
    exact absurd h.1 hsome

theorem route_step (hwaits : w.Waits cfg)
    (hwf : w.relayer.tracker.WellFormed cfg.routes.relay) {event : RouteEvent R}
    (hhandle : w.handle sdk cfg (.route event) = some (w', effects)) :
    WatchdogStep sdk cfg w w' effects := by
  simp only [Watchdog.handle] at hhandle
  split_ifs at hhandle
  obtain ⟨result, hresult, heq⟩ := Option.map_eq_some_iff.mp hhandle
  rw [Prod.mk.injEq] at heq
  obtain ⟨rfl, rfl⟩ := heq
  rcases handle_drives hresult with ⟨htracker, hnone⟩ | ⟨now, trackerEvent, htrace, hdue⟩
  · apply WatchdogStep.quiet htracker
    · cases hcalled : called result.2 with
      | none => rfl
      | some task =>
          obtain ⟨action, hstage⟩ := called_some hcalled
          rw [hnone] at hstage
          contradiction
    · rw [relayedBy_routed, hnone]
    · exact refunds_routed _
  · have htracker := htrace
    rw [← relayedBy_routed] at htracker
    refine .relay htracker ?_ (.none (refunds_routed _))
    · intro task due hnew
      cases hcalled : called result.2 with
      | none =>
          rw [hcalled] at hnew
          exact hwaits.before hwf htrace hnew
      | some called =>
          simp only [hcalled] at hnew
          obtain ⟨action, hstage⟩ := called_some hcalled
          rcases handle_calls htrace with huncalled | ⟨submitted, hevent, hcalls⟩
          · exact absurd hstage huncalled.silent
          · obtain ⟨rfl, rfl, hlt⟩ := hcalls.called hstage
            by_cases htask : task = w.relayer.tracker.nextTask
            · rw [htask, update_self] at hnew
              refine ⟨htask ▸ hlt, ?_⟩
              intro action' hstager
              have hsubmit := hdue due hnew
              rw [DueOrder.action_eq] at hsubmit
              rcases handle_stager hwf htrace hstager with hbefore | ⟨_, hevent'⟩
              · exact absurd (Tracker.stager_lt hwf hbefore) (by omega)
              · rw [hsubmit] at hevent'
                cases hevent'
                rfl
            · rw [update_of_ne htask] at hnew
              exact hwaits.before hwf htrace hnew

/-- A stager that resolves. -/
theorem Issues.resolved {t t' : Tracker R} {due : DueOrder} {transaction : Transaction}
    {names : ℕ → Option String} {trace : List (Effect R)} {now task : ℕ}
    (hwf : t.WellFormed cfg.routes.relay)
    (haction : ∀ action, t.stager task = some action → action = due.action cfg)
    (hpassphrase : transaction.networkPassphrase = cfg.networkMode.networkPassphrase)
    (hhandle : t.handle cfg.routes.relay now (.staged task
      (.resolved (some (sdk.hash transaction)) (due.action cfg).network)) = some (t', trace)) :
    Issues sdk cfg t' ((trace.map (label names)).map (sign cfg due transaction)) := by
  have hbroadcasts : ∀ refund ∈ refunds ((trace.map (label names)).map (sign cfg due transaction)),
      ∃ id, .broadcast id refund.action refund.key refund.txHash ∈ trace ∧ refund.due = due ∧
        refund.transaction = transaction := by
    intro refund hrefund
    obtain ⟨id, hbroadcast, hdue, htransaction⟩ := mem_refunds_signed hrefund
    rw [tracked_label] at hbroadcast
    exact ⟨id, hbroadcast, hdue, htransaction⟩
  constructor
  · intro refund hrefund
    obtain ⟨id, hbroadcast, rfl, rfl⟩ := hbroadcasts refund hrefund
    obtain ⟨rfl, hhash, hrecords, _⟩ := staged_records hwf hhandle hbroadcast
    obtain ⟨hstager, hkey⟩ := handle_broadcast hwf hhandle hbroadcast
    exact ⟨⟨haction _ hstager, hkey, (Option.some.inj hhash).symm, hpassphrase⟩, hrecords⟩
  · intro front hfront hsome
    obtain ⟨refund, hrefund⟩ := List.exists_mem_of_ne_nil _ hsome
    have hissued : refund ∈ refunds ((trace.map (label names)).map (sign cfg due transaction)) := by
      obtain ⟨rest, hrest⟩ := hfront
      rw [← hrest, refunds_append]
      exact List.mem_append_left _ hrefund
    obtain ⟨id, hbroadcast, _, _⟩ := hbroadcasts refund hissued
    obtain ⟨_, _, _, heffects⟩ := staged_records hwf hhandle hbroadcast
    dsimp only at heffects
    rw [heffects] at hfront ⊢
    rcases List.prefix_cons_iff.mp hfront with rfl | ⟨rest, rfl, hrest⟩
    · exact absurd rfl hsome
    · rcases List.prefix_cons_iff.mp hrest with rfl | ⟨last, rfl, hlast⟩
      · exact absurd rfl hsome
      · rw [List.prefix_nil.mp hlast]
        rfl

theorem rejected_silent {t t' : Tracker R} {now task id : ℕ} {trace : List (Effect R)}
    {e : StageError} {action : RelayAction} {key hash : String}
    (hhandle : t.handle cfg.routes.relay now (.staged task (.rejected e)) = some (t', trace)) :
    .broadcast id action key hash ∉ trace := by
  have hstretch := Tracker.handle_stretch hhandle
  generalize hresult : (t', trace) = result at hstretch
  cases hstretch with
  | rejected e htask =>
      have hsilent : .broadcast id action key hash ∉ (t', trace).2 := by
        rw [hresult]
        exact stagingFailed_calm.silent
      exact hsilent

theorem prepared_step (hwaits : w.Waits cfg)
    (hwf : w.relayer.tracker.WellFormed cfg.routes.relay) {task now sequence : ℕ}
    {operations : Option (List PaymentOperation)} {fallbackXlmAmount : Option String}
    (hhandle : w.handle sdk cfg (.prepared task now sequence operations fallbackXlmAmount) =
      some (w', effects)) : WatchdogStep sdk cfg w w' effects := by
  simp only [Watchdog.handle] at hhandle
  obtain ⟨due, hdue, hrest⟩ := Option.bind_eq_some_iff.mp hhandle
  obtain ⟨result, hresult, heq⟩ := Option.map_eq_some_iff.mp hrest
  rw [Prod.mk.injEq] at heq
  obtain ⟨rfl, rfl⟩ := heq
  obtain ⟨⟨t', trace⟩, htrace, rfl⟩ := Option.map_eq_some_iff.mp hresult
  have hrelayed : relayedBy ((w.relayer.follow none (t', trace)).2.map (sign cfg due
      (prepareXlmRefund sdk (due.args cfg fallbackXlmAmount) sequence operations))) = trace := by
    rw [relayedBy_signed, Relayer.follow, tracked_label]
  have htracker := htrace
  rw [← hrelayed] at htracker
  refine .relay htracker ?_ ?_
  · intro task' due' hdue'
    exact hwaits.before hwf htrace hdue'
  · unfold stageStellarTransaction at htrace
    split_ifs at htrace
    · apply Issues.none
      rw [List.eq_nil_iff_forall_not_mem]
      intro refund hrefund
      obtain ⟨id, hbroadcast, _⟩ := mem_refunds_signed hrefund
      rw [Relayer.follow, tracked_label] at hbroadcast
      exact rejected_silent htrace hbroadcast
    · exact Issues.resolved hwf (hwaits task due hdue).2 rfl htrace

theorem watchdog_step (h : WatchdogLive sdk cfg w stored past) {event : WatchdogEvent R}
    (hhandle : w.handle sdk cfg event = some (w', effects)) :
    WatchdogStep sdk cfg w w' effects := by
  cases event with
  | route event => exact route_step h.waits h.live.wellFormed hhandle
  | prepared task now sequence operations fallbackXlmAmount =>
      exact prepared_step h.waits h.live.wellFormed hhandle

theorem watchdog_covers
    {labels : List (Machine.Label (WatchdogEvent R) (WatchdogEffect R))}
    (h : Execution (watchdog sdk cfg).Step (.start .empty, []) labels (w, stored)) :
    WatchdogLive sdk cfg w stored (issued labels) := by
  apply Machine.invariant (WatchdogLive sdk cfg) (WatchdogSaved sdk cfg) h
  · refine ⟨Live.start, ?_, ⟨?_, ?_⟩, ?_⟩
    · intro task due hdue
      contradiction
    · intro refund hrefund
      contradiction
    · intro task ref hconfirm
      contradiction
    · rintro key hash network ⟨r, hr, _⟩
      contradiction
  · exact WatchdogLive.saved
  · exact WatchdogSaved.recover
  · intro event w stored past w' effects hlive hhandle
    cases watchdog_step hlive hhandle with
    | quiet htracker hdue heffects hrefunds => exact hlive.quiet htracker hdue heffects hrefunds
    | relay htracker hwaits hissues => exact hlive.relay htracker hwaits hissues
  · intro event w stored past w' effects front hlive hhandle hfront
    cases watchdog_step hlive hhandle with
    | quiet htracker hdue heffects hrefunds =>
        obtain ⟨rest, rfl⟩ := hfront
        rw [relayedBy_append, List.append_eq_nil_iff] at heffects
        rw [refunds_append, List.append_eq_nil_iff] at hrefunds
        have hsame : WatchdogLive sdk cfg w ((watchdog sdk cfg).applyAll stored front)
            (past ++ front) := hlive.quiet rfl rfl heffects.1 hrefunds.1
        exact hsame.saved
    | relay htracker hwaits hissues => exact hlive.relay_cut htracker hwaits hissues hfront

/-! ## Refunds on the network of the order -/

theorem RefundNetworkMode.text_ne (networkMode : RefundNetworkMode) : networkMode.text ≠ "" := by
  cases networkMode <;> decide

theorem RefundNetworkMode.text_inj {a b : RefundNetworkMode} (h : a.text = b.text) : a = b := by
  cases a <;> cases b <;> first | rfl | exact absurd h (by decide)

theorem RefundNetworkMode.networkPassphrase_inj {a b : RefundNetworkMode}
    (h : a.networkPassphrase = b.networkPassphrase) : a = b := by
  cases a <;> cases b <;> first | rfl | exact absurd h (by decide)

/-- The network of the submission is that of the watchdog exactly under the condition. -/
theorem network_eq_iff {due : DueOrder} :
    (due.action cfg).network = some cfg.networkMode.text ↔ due.namesWatchdogNetwork cfg := by
  have hnetwork : (due.action cfg).network =
      some (orText due.order.networkMode cfg.networkMode.text) := rfl
  rw [hnetwork, Option.some.injEq, DueOrder.namesWatchdogNetwork]
  cases hnamed : truthyText due.order.networkMode with
  | none => simp [orText, hnamed]
  | some name =>
      obtain ⟨hmode, hne⟩ := truthyText_some hnamed
      rw [orText_some hnamed, hmode]
      simp

/-- A network that an order names is that of its submission. -/
theorem network_of_named {due : DueOrder} {named : RefundNetworkMode}
    (h : due.order.networkMode = some named.text) :
    (due.action cfg).network = some named.text := by
  have hnamed : truthyText due.order.networkMode = some named.text := by
    simp [truthyText, h, named.text_ne]
  exact congrArg some (orText_some hnamed)

/-- A refund under the condition. -/
theorem Covered.onOwnNetwork {t : Tracker R} {refund : Refund} (h : Covered sdk cfg t.Records past)
    (hwf : t.WellFormed cfg.routes.relay) (hrefund : refund ∈ refunds past)
    (hnames : refund.due.namesWatchdogNetwork cfg) :
    OnOwnNetwork t (relayedBy past) refund cfg.networkMode := by
  obtain ⟨hsigned, hrecords⟩ := h.signed refund hrefund
  rw [network_eq_iff.mpr hnames] at hrecords
  constructor
  · exact hsigned.networkPassphrase
  · obtain ⟨r, hr, hkey, hnetwork, hkept⟩ := hrecords
    exact ⟨r, hr, hkey, hkept.txHash, hnetwork⟩
  · intro task ref hconfirm hkey
    obtain ⟨hash, hhash, hconfirmed⟩ := h.confirmed task ref hconfirm
    rw [hkey] at hconfirmed
    obtain ⟨hsame, hnetwork⟩ := hrecords.unique hwf hconfirmed
    exact ⟨hsame ▸ hhash, hnetwork⟩
  · intro named hnamed
    have hnetwork : (refund.due.action cfg).network = some named.text := network_of_named hnamed
    rw [network_eq_iff.mpr hnames] at hnetwork
    exact (RefundNetworkMode.text_inj (Option.some.inj hnetwork)).symm

/-- A refund that is built for the network on record. -/
theorem Covered.namesWatchdogNetwork {t : Tracker R} {refund : Refund}
    {networkMode : RefundNetworkMode} (h : Covered sdk cfg t.Records past)
    (hwf : t.WellFormed cfg.routes.relay) (hrefund : refund ∈ refunds past)
    (hown : OnOwnNetwork t (relayedBy past) refund networkMode) :
    refund.due.namesWatchdogNetwork cfg := by
  obtain ⟨hsigned, r, hr, hkey, hnetwork, hkept⟩ := h.signed refund hrefund
  obtain ⟨r', hr', hkey', _, hnetwork'⟩ := hown.recorded
  obtain rfl := hwf.record_unique hr hr' (hkey'.trans hkey.symm)
  have hmode : networkMode = cfg.networkMode :=
    RefundNetworkMode.networkPassphrase_inj (hown.built.symm.trans hsigned.networkPassphrase)
  rw [← network_eq_iff, ← hnetwork, ← hmode]
  exact hnetwork'

/-- The refunds that the watchdog broadcasts are built for the networks on record, which are those
of their orders, exactly if no order that it refunds names another network than its own. -/
theorem refunds_on_own_network_iff
    {labels : List (Machine.Label (WatchdogEvent R) (WatchdogEffect R))}
    (h : Execution (watchdog sdk cfg).Step (.start .empty, []) labels (w, stored)) :
    (∀ refund ∈ refunds (issued labels), ∃ networkMode,
      OnOwnNetwork w.relayer.tracker (relayedBy (issued labels)) refund networkMode) ↔
    ∀ refund ∈ refunds (issued labels), refund.due.namesWatchdogNetwork cfg := by
  have hlive := watchdog_covers h
  have hwf := hlive.live.wellFormed
  constructor
  · intro hown refund hrefund
    obtain ⟨networkMode, hrefunded⟩ := hown refund hrefund
    exact hlive.covered.namesWatchdogNetwork hwf hrefund hrefunded
  · intro hnames refund hrefund
    exact ⟨_, hlive.covered.onOwnNetwork hwf hrefund (hnames refund hrefund)⟩

/-! ## Order 7 -/

/-- A watchdog for the test network. -/
def testnetWatchdog : WatchdogConfig String where
  routes := payment
  networkMode := .testnet
  networkMode_text := rfl
  horizonUrl := "https://horizon-testnet.stellar.org"
  refundSecret := "SR"

/-- An SDK with one account and one hash for each network. -/
def oneAccount : StellarSdk where
  publicKey _ := "GR"
  isPositive _ := true
  lessMargin amount := amount
  hash transaction := if transaction.networkPassphrase = .PUBLIC then "pp" else "tt"

/-- Order 7 waits for its ETH since 1000 s. -/
def order7On (networkMode : String) : ActiveOrder where
  orderId := "7"
  direction := some "xlm_to_eth"
  status := none
  stellarAddress := some "GU"
  stellarTxHash := some "aa"
  xlmReceivedAt := some (.number 1000)
  created := none
  networkMode := some networkMode
  ethTxHash := none
  refundTxHash := none
  refundedAt := none
  ethTimelock := none
  stellarTimelock := none
  watchdogFailedAt := none
  watchdogFailureReason := none

/-- A scan that refunds the order. -/
def refundScript (networkMode : String) : List (Machine.Command (WatchdogEvent String)) :=
  [.run (.route (.store (order7On networkMode))), .run (.route (.scan 1300000)),
    .run (.prepared 0 1300001 5 none none)]

theorem refunds_on_own_network_order7 :
    let run := (watchdog oneAccount testnetWatchdog).play (refundScript "testnet")
      (.start .empty, [])
    (refunds (issued run.1)).map Refund.txHash = ["tt"] ∧
      ((∀ refund ∈ refunds (issued run.1), ∃ networkMode,
        OnOwnNetwork run.2.1.relayer.tracker (relayedBy (issued run.1)) refund networkMode) ↔
      ∀ refund ∈ refunds (issued run.1), refund.due.namesWatchdogNetwork testnetWatchdog) :=
  ⟨by decide, refunds_on_own_network_iff (play_execution _ _)⟩

def mainnetRun :=
  (watchdog oneAccount testnetWatchdog).play (refundScript "mainnet") (.start .empty, [])

/-- An order of the main network is refunded on the test network. -/
theorem mainnet_order_refunded_on_testnet :
    ¬ ∀ labels w stored, Execution (watchdog oneAccount testnetWatchdog).Step (.start .empty, [])
        labels (w, stored) → ∀ refund ∈ refunds (issued labels), ∃ networkMode,
      OnOwnNetwork w.relayer.tracker (relayedBy (issued labels)) refund networkMode := by
  intro h
  have hrefunds : (refunds (issued mainnetRun.1)).map (fun refund =>
      (refund.due.order.networkMode, refund.transaction.networkPassphrase)) =
      [(some "mainnet", .TESTNET)] := by decide
  obtain ⟨refund, hrefund, hfields⟩ := List.mem_map.mp (hrefunds ▸ List.mem_singleton_self _)
  rw [Prod.mk.injEq] at hfields
  obtain ⟨networkMode, hown⟩ := h _ _ _ (play_execution _ _) refund hrefund
  have hmainnet : RefundNetworkMode.mainnet = networkMode := hown.own .mainnet hfields.1
  have hbuilt := hown.built
  rw [← hmainnet, hfields.2] at hbuilt
  contradiction

end OverSync.RefundWatchdog
