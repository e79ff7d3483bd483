import OverSync.Library.StableSort
import OverSync.Model.Coordinator.Snapshots
import OverSync.Verification.Coordinator.History

/-! # Snapshots against the recorded history

A snapshot lists the default path to the status of its order. That is the recorded path of the
orders that took it, with a clock that did not go back on the way. -/

namespace OverSync.Coordinator

open Library Library.Procedure OrdersRepository

variable {D : Deployment} {clock : ℕ → ℕ} {db db' : Database} {publicId : String}

/-! ## The default path -/

/-- The path of which a snapshot shows the part up to the final status. -/
def defaultPath : OrderStatus → List OrderStatus
  | .announced => [.announced]
  | .srcLocked => [.announced, .srcLocked]
  | .dstLocked => [.announced, .srcLocked, .dstLocked]
  | .secretRevealed => [.announced, .srcLocked, .dstLocked, .secretRevealed]
  | .completed => [.announced, .srcLocked, .dstLocked, .secretRevealed, .completed]
  | .refunded => [.announced, .srcLocked, .dstLocked, .secretRevealed, .refunded]
  | .failed => [.announced, .failed]
  | .expired => [.announced, .expired]

theorem deriveTransitions_eq {status : OrderStatus} (h : status.isFinished) :
    deriveTransitions status = (defaultPath status).map OrderStatus.text := by
  cases status <;> first | rfl | cases h

theorem text_injective : Function.Injective OrderStatus.text := by
  intro a b h
  cases a <;> cases b <;> first | rfl | (revert h; decide)

/-- The moves of the default paths. -/
def IsDefaultMove («from» «to» : OrderStatus) : Prop :=
  («from», «to») ∈ [(OrderStatus.announced, OrderStatus.srcLocked), (.srcLocked, .dstLocked),
    (.dstLocked, .secretRevealed), (.secretRevealed, .completed), (.secretRevealed, .refunded),
    (.announced, .failed), (.announced, .expired)]

instance («from» «to» : OrderStatus) : Decidable (IsDefaultMove «from» «to») :=
  inferInstanceAs (Decidable (_ ∈ _))

/-- How far along the lifecycle a status stands. -/
def depth : OrderStatus → ℕ
  | .announced => 0
  | .srcLocked => 1
  | .dstLocked => 2
  | .secretRevealed => 3
  | .expired => 4
  | .completed | .refunded | .failed => 5

theorem depth_lt {«from» «to» : OrderStatus} (h : IsEdge «from» «to») :
    depth «from» < depth «to» := by
  revert h
  cases «from» <;> cases «to» <;> decide

/-- A history of statuses that ends in `status` and never goes back. -/
structure Climbs (history : List OrderStatus) (status : OrderStatus) : Prop where
  last : history.getLast? = some status
  climbs : history.Pairwise fun a b => depth a < depth b

theorem climbs_defaultPath (status : OrderStatus) : Climbs (defaultPath status) status := by
  cases status <;> exact ⟨rfl, by decide⟩

theorem Climbs.snoc {history : List OrderStatus} {«from» «to» : OrderStatus}
    (h : Climbs history «from») (hedge : IsEdge «from» «to») :
    Climbs (history ++ [«to»]) «to» where
  last := by simp
  climbs := by
    have hlast := h.last
    obtain ⟨front, rfl⟩ : ∃ front, history = front ++ [«from»] :=
      ⟨history.dropLast, (List.dropLast_append_getLast? _ (by simp [hlast])).symm⟩
    refine List.pairwise_append.mpr ⟨h.climbs, List.pairwise_singleton _ _, ?_⟩
    intro status hmem last hlast
    obtain rfl := List.mem_singleton.mp hlast
    have hstep := depth_lt hedge
    rcases List.mem_append.mp hmem with hfront | hfrom
    · have hbelow := (List.pairwise_append.mp h.climbs).2.2 status hfront _ List.mem_cons_self
      omega
    · obtain rfl := List.mem_singleton.mp hfrom
      exact hstep

theorem defaultPath_of_move {«from» «to» : OrderStatus} (h : IsDefaultMove «from» «to») :
    defaultPath «to» = defaultPath «from» ++ [«to»] := by
  revert h
  cases «from» <;> cases «to» <;> decide

theorem isDefaultMove_of_defaultPath {«from» «to» : OrderStatus}
    (h : (defaultPath «to»).dropLast.getLast? = some «from») : IsDefaultMove «from» «to» := by
  revert h
  cases «from» <;> cases «to» <;> decide

/-- A history is a default path after a move iff it was one before and the move is on it. -/
theorem snoc_eq_defaultPath {history : List OrderStatus} {«from» «to» : OrderStatus}
    (h : Climbs history «from») :
    history ++ [«to»] = defaultPath «to» ↔
      history = defaultPath «from» ∧ IsDefaultMove «from» «to» := by
  constructor
  · intro hpath
    have hmove : IsDefaultMove «from» «to» := by
      refine isDefaultMove_of_defaultPath ?_
      rw [← hpath, List.dropLast_concat, h.last]
    rw [defaultPath_of_move hmove] at hpath
    exact ⟨List.append_cancel_right hpath, hmove⟩
  · rintro ⟨rfl, hmove⟩
    exact (defaultPath_of_move hmove).symm

/-- Histories of the same statuses are in the same order. -/
theorem Climbs.eq_of_perm {history history' : List OrderStatus} {status status' : OrderStatus}
    (h : Climbs history status) (h' : Climbs history' status') (hperm : history.Perm history') :
    history = history' :=
  hperm.eq_of_pairwise (fun _ _ _ _ hab hba => absurd hab hba.asymm) h.climbs h'.climbs

/-! ## What is recorded of an order -/

/-- The status an event records and when. -/
def OrderEvent.recorded (event : OrderEvent) : Option (OrderStatus × ℕ) :=
  event.payload.asSummary.map fun summary => (summary.to, event.createdAt)

/-- The statuses recorded for an order, in the order in which they were recorded. -/
def recorded (db : Database) (orderId : ℕ) : List (OrderStatus × ℕ) :=
  (db.orderEvents.filter fun event => event.orderId = orderId).filterMap OrderEvent.recorded

theorem recorded_log (orderId : ℕ) (payload : EventPayload) (other : ℕ) :
    recorded (db.log clock orderId payload) other = recorded db other ++
      if orderId = other then
        (OrderEvent.recorded ⟨orderId, payload, clock db.executed⟩).toList
      else [] := by
  unfold recorded
  rw [Database.log, List.filter_append, List.filterMap_append]
  by_cases hsame : orderId = other
  · cases hevent : OrderEvent.recorded ⟨orderId, payload, clock db.executed⟩ <;>
      simp_all
  · simp [hsame]

theorem Books.recorded_fresh (h : Books db) {orderId : ℕ} (hfresh : db.lastOrderId < orderId) :
    recorded db orderId = [] := by
  have hnone : (db.orderEvents.filter fun event => event.orderId = orderId) = [] := by
    rw [List.filter_eq_nil_iff]
    intro event hmem
    have hbelow := h.eventsBelow event hmem
    rw [decide_eq_true_iff]
    omega
  rw [recorded, hnone, List.filterMap_nil]

/-- `getTransitions` reads the recorded statuses in the order of their times. -/
theorem getTransitions_statuses {order : OrderRow} (hfind : findId db.orders publicId = some order) :
    (getTransitions db publicId).map (·.to) =
      ((recorded db order.id).insertionSort fun a b => a.2 ≤ b.2).map Prod.fst := by
  rw [OrdersRepository.getTransitions, byPublicId_eq, hfind, recorded,
    ← filterMap_insertionSort (r := fun a b : OrderEvent => a.createdAt ≤ b.createdAt)]
  · simp only [eventsOf, List.map_filterMap]
    refine List.filterMap_congr fun event _ => ?_
    rw [OrderEvent.recorded, Option.map_map]
    rfl
  · intro a b c d hc hd
    obtain ⟨_, _, rfl⟩ := Option.map_eq_some_iff.mp hc
    obtain ⟨_, _, rfl⟩ := Option.map_eq_some_iff.mp hd
    rfl

/-- A list of statuses read by time is a default path iff it was recorded as one, in the order of
the times. -/
theorem sorted_eq_defaultPath {rows : List (OrderStatus × ℕ)} {status : OrderStatus}
    (h : Climbs (rows.map Prod.fst) status) :
    (rows.insertionSort fun a b => a.2 ≤ b.2).map Prod.fst = defaultPath status ↔
      rows.map Prod.fst = defaultPath status ∧ rows.Pairwise fun a b => a.2 ≤ b.2 := by
  have hnodup : (rows.map Prod.fst).Nodup := h.climbs.imp fun hlt heq => by
    rw [heq] at hlt
    exact hlt.false
  rw [← map_insertionSort_eq_iff (r := fun a b : OrderStatus × ℕ => a.2 ≤ b.2) hnodup]
  constructor
  · intro hpath
    have hperm := (List.perm_insertionSort (fun a b : OrderStatus × ℕ => a.2 ≤ b.2) rows).map Prod.fst
    have hrows : rows.map Prod.fst = defaultPath status := by
      rw [hpath] at hperm
      exact h.eq_of_perm (climbs_defaultPath status) hperm.symm
    exact ⟨hrows, hpath.trans hrows.symm⟩
  · rintro ⟨hrows, hsame⟩
    exact hsame.trans hrows

/-! ## What a call does to the record of an order -/

/-- The status of an order and the statuses recorded for it. -/
def chronicle (db : Database) (publicId : String) : Option (OrderStatus × List (OrderStatus × ℕ)) :=
  (findId db.orders publicId).map fun order => (order.status, recorded db order.id)

/-- What a call does to the chronicle of an order. -/
inductive Told (clock : ℕ → ℕ) (asks : Option (String × OrderStatus))
    (result : Except CoordinatorError Unit) (db db' : Database) (publicId : String) : Prop where
  | same : (∀ order target, asks = some (publicId, target) → findId db.orders publicId = some order →
        IsEdge order.status target → result ≠ .ok ()) →
      chronicle db' publicId = chronicle db publicId → Told clock asks result db db' publicId
  | moved {order : OrderRow} {target : OrderStatus} : asks = some (publicId, target) →
      findId db.orders publicId = some order → IsEdge order.status target → result = .ok () →
      chronicle db' publicId =
        some (target, recorded db order.id ++ [(target, clock (db.executed + 3))]) →
      Told clock asks result db db' publicId
  | opened (now : ℕ) : asks = none → findId db.orders publicId = none →
      chronicle db' publicId = some (.announced, [(.announced, now)]) →
      Told clock asks result db db' publicId

theorem recorded_refused (order : OrderRow) (info : TransitionRejectionInfo) (orderId : ℕ) :
    recorded (db.refused clock order info) orderId = recorded db orderId := by
  rw [Database.refused, recorded_log]
  split
  · exact List.append_nil _
  · exact List.append_nil _

theorem recorded_written (order : OrderRow) (edit : Edit) (txHash : Option String) (orderId : ℕ) :
    recorded (db.tick.written clock order edit txHash) orderId = recorded db orderId ++
      if order.id = orderId then [(edit.target, clock (db.executed + 3))] else [] := by
  rw [Database.written, recorded_log]
  rfl

theorem recorded_inserted (row : OrderRow) (orderId : ℕ) :
    recorded (db.inserted clock row) orderId = recorded db orderId ++
      if row.id = orderId then [(.announced, clock (db.executed + 3))] else [] := by
  rw [Database.inserted, recorded_log]
  rfl

theorem Books.findId_id_ne (h : Books db) {order other : OrderRow} {otherId : String}
    (hfind : findId db.orders publicId = some order)
    (hother : findId db.orders otherId = some other) (hne : otherId ≠ publicId) :
    other.id ≠ order.id := by
  have hpublicId := findId_publicId hfind
  have hotherId := findId_publicId hother
  obtain ⟨stored, hmem, rfl, _⟩ := findRow_mem hfind
  obtain ⟨found, hfound, rfl, _⟩ := findRow_mem hother
  refine h.id_ne hmem hfound ?_
  rw [hpublicId, hotherId]
  exact hne.symm

variable {asks : Option (String × OrderStatus)} {result : Except CoordinatorError Unit}

theorem Books.written_told (h : Books db) {order : OrderRow} {edit : Edit} (txHash : Option String)
    (hasks : asks = some (edit.publicId, edit.target))
    (hfind : findId db.orders edit.publicId = some order) (hedge : IsEdge order.status edit.target)
    (publicId : String) :
    Told clock asks (.ok ()) db (db.tick.written clock order edit txHash) publicId := by
  have hfound : findId (db.tick.written clock order edit txHash).orders publicId =
      (findId db.orders publicId).map edit.onRow :=
    findId_apply edit _ _ _
  by_cases hself : edit.publicId = publicId
  · subst hself
    refine .moved hasks hfind hedge rfl ?_
    have hrow : edit.onRow order = edit.set order := if_pos (findId_publicId hfind)
    have hid : (edit.set order).id = order.id := by cases edit <;> rfl
    rw [chronicle, hfound, hfind, Option.map_some, Option.map_some, hrow, Edit.set_status hedge, hid,
      recorded_written, if_pos rfl]
  · refine .same ?_ ?_
    · intro _ _ hasks'
      rw [hasks] at hasks'
      exact absurd (congrArg Prod.fst (Option.some.inj hasks')) hself
    · rw [chronicle, chronicle, hfound]
      cases hother : findId db.orders publicId with
      | none => rfl
      | some other =>
          have hrow : edit.onRow other = other := by
            refine if_neg ?_
            rw [findId_publicId hother]
            exact fun heq => hself heq.symm
          rw [Option.map_some, Option.map_some, Option.map_some, hrow, recorded_written,
            if_neg (h.findId_id_ne hother hfind hself), List.append_nil]

theorem Books.inserted_told (h : Books db) {row : OrderRow} (hasks : asks = none)
    (hfresh : findId db.orders row.publicId = none) (hid : row.id = db.lastOrderId + 1)
    (hstatus : row.status = .announced) (publicId : String) :
    Told clock asks result db (db.inserted clock row) publicId := by
  by_cases hself : row.publicId = publicId
  · subst hself
    refine .opened (clock (db.executed + 3)) hasks hfresh ?_
    have hfound : findId (db.inserted clock row).orders row.publicId = some row :=
      findId_append rfl hfresh
    rw [chronicle, hfound, Option.map_some, hstatus, recorded_inserted, if_pos rfl,
      h.recorded_fresh (by omega), List.nil_append]
  · refine .same ?_ ?_
    · intro _ _ hasks'
      rw [hasks] at hasks'
      cases hasks'
    · have hfound : findId (db.inserted clock row).orders publicId = findId db.orders publicId := by
        have hrow : (row.stored (clock (db.executed + 1))).publicId ≠ publicId := hself
        simp [Database.inserted, Database.log, findId, findRow, List.find?_append, hrow]
      rw [chronicle, chronicle, hfound]
      cases hother : findId db.orders publicId with
      | none => rfl
      | some other =>
          obtain ⟨stored, hmem, rfl, _⟩ := findRow_mem hother
          have hbelow := h.idsBelow stored hmem
          rw [Option.map_some, Option.map_some, recorded_inserted, if_neg (by omega),
            List.append_nil]

theorem Effect.told (heffect : Effect clock asks db result db') (h : Books db) (publicId : String) :
    Told clock asks result db db' publicId := by
  cases heffect with
  | quiet _ reads hquiet =>
      refine .same ?_ rfl
      intro order target hasks hfind _ hok
      obtain ⟨_, e, _, herror⟩ := hquiet publicId target order hasks hfind
      rw [hok] at herror
      cases herror
  | @refused _ order info hasks hfind hedge _ _ =>
      refine .same ?_ ?_
      · intro other target hasks' hfind' hedge'
        rw [hasks] at hasks'
        obtain ⟨rfl, rfl⟩ := Prod.mk.inj (Option.some.inj hasks')
        rw [hfind] at hfind'
        cases hfind'
        exact absurd hedge' hedge
      · unfold chronicle
        simp only [recorded_refused]
        rfl
  | written edit txHash hasks hfind hedge => exact h.written_told txHash hasks hfind hedge publicId
  | inserted hasks hfresh hid hstatus => exact h.inserted_told hasks hfresh hid hstatus publicId

/-! ## Runs -/

/-- The check of the timelocks a call makes before it writes. -/
def OrderCall.guard (D : Deployment) : OrderCall → OrderRow → Except CoordinatorError Unit
  | recordSrcLock lock _ => OrderService.srcLockGuard D lock
  | recordDstLock lock _ => OrderService.dstLockGuard D lock
  | _ => fun _ => .ok ()

/-- If the call moves the order, it does so along a default path, and the clock is not behind the
times recorded for the order. -/
def Conforms (D : Deployment) (clock : ℕ → ℕ) (publicId : String) (db : Database)
    (call : OrderCall) : Prop :=
  ∀ order target, call.asks = some (publicId, target) → findId db.orders publicId = some order →
    IsEdge order.status target → call.guard D order = .ok () →
    IsDefaultMove order.status target ∧
      ∀ row ∈ recorded db order.id, row.2 ≤ clock (db.executed + 3)

theorem advanced_of_edge (request : OrderService.AdvanceRequest) (edit : Edit)
    (guard : OrderRow → Except CoordinatorError Unit) {order : OrderRow}
    (hfind : findId db.orders request.publicId = some order)
    (hedge : IsEdge order.status (actionTargetStatus request.action)) :
    (advanced clock db request edit guard).1 = guard order := by
  have hne : order.status ≠ actionTargetStatus request.action := by
    intro hsame
    rw [← hsame] at hedge
    exact not_isEdge_self _ hedge
  have heval : evaluateTransition order.status (actionTargetStatus request.action)
      request.action = none :=
    evaluateTransition_eq_none.mpr hedge
  simp only [advanced, hfind, if_neg hne, heval]
  cases guard order <;> rfl

/-- A call that asks for an edge ends as its check does. -/
theorem call_result (clock : ℕ → ℕ) {call : OrderCall} {order : OrderRow} {target : OrderStatus}
    (hasks : call.asks = some (publicId, target)) (hfind : findId db.orders publicId = some order)
    (hedge : IsEdge order.status target) :
    (run (exec (.calm clock)) (call.task D) db).1 = call.guard D order := by
  cases call with
  | announce _ _ _ => cases hasks
  | recordSrcLock lock writer =>
      cases hasks
      rw [OrderCall.task, run_recordSrcLock]
      exact advanced_of_edge _ _ _ hfind hedge
  | recordDstLock lock writer =>
      cases hasks
      rw [OrderCall.task, run_recordDstLock]
      exact advanced_of_edge _ _ _ hfind hedge
  | recordSecret publicId preimage txHash writer =>
      cases hasks
      rw [OrderCall.task, run_recordSecret]
      exact advanced_of_edge _ _ _ hfind hedge
  | recordClaim publicId txHash writer =>
      cases hasks
      rw [OrderCall.task, run_recordClaim]
      exact advanced_of_edge _ _ _ hfind hedge
  | recordRefund publicId txHash writer =>
      cases hasks
      rw [OrderCall.task, run_recordRefund]
      exact advanced_of_edge _ _ _ hfind hedge
  | markStatus publicId status writer =>
      obtain ⟨action, haction, hpair⟩ := Option.map_eq_some_iff.mp hasks
      cases hpair
      rw [← actionTargetStatus_of_actionForStatus haction] at hedge
      simp only [OrderCall.task, OrderService.markStatus, haction]
      rw [run_statusRequest]
      exact advanced_of_edge _ _ _ hfind hedge

/-- What is recorded of the order is the default path to its status, in the order of the times. -/
def OnDefaultPath (publicId : String) (db : Database) : Prop :=
  ∀ status rows, chronicle db publicId = some (status, rows) →
    rows.map Prod.fst = defaultPath status ∧ rows.Pairwise fun a b => a.2 ≤ b.2

theorem onDefaultPath_iff {status : OrderStatus} {rows : List (OrderStatus × ℕ)}
    (h : chronicle db publicId = some (status, rows)) :
    OnDefaultPath publicId db ↔
      rows.map Prod.fst = defaultPath status ∧ rows.Pairwise fun a b => a.2 ≤ b.2 := by
  refine ⟨fun hpath => hpath status rows h, ?_⟩
  intro hpath status' rows' h'
  rw [h] at h'
  cases h'
  exact hpath

/-- What is recorded of an order climbs to its status. -/
structure Chronicled (publicId : String) (db : Database) : Prop where
  books : Books db
  climbs : ∀ status rows, chronicle db publicId = some (status, rows) →
    Climbs (rows.map Prod.fst) status

theorem Told.climbs (h : Told clock asks result db db' publicId)
    (hclimbs : ∀ status rows, chronicle db publicId = some (status, rows) →
      Climbs (rows.map Prod.fst) status) :
    ∀ status rows, chronicle db' publicId = some (status, rows) →
      Climbs (rows.map Prod.fst) status := by
  intro status rows hchronicle
  cases h with
  | same _ hsame => exact hclimbs status rows (hsame ▸ hchronicle)
  | moved _ hfind hedge _ hmoved =>
      rw [hmoved] at hchronicle
      cases hchronicle
      rw [List.map_append]
      refine (hclimbs _ _ ?_).snoc hedge
      rw [chronicle, hfind, Option.map_some]
  | opened now _ _ hopened =>
      rw [hopened] at hchronicle
      cases hchronicle
      exact climbs_defaultPath .announced

theorem call_chronicled (clock : ℕ → ℕ) (call : OrderCall) (h : Chronicled publicId db) :
    Chronicled publicId (call.run D (.calm clock) db) where
  books := (call_effect clock db call).books h.books
  climbs := ((call_effect clock db call).told h.books publicId).climbs h.climbs

/-- A call keeps an order on the default path iff the order was on it and the call conforms. -/
theorem call_onDefaultPath (clock : ℕ → ℕ) (call : OrderCall) (h : Chronicled publicId db) :
    OnDefaultPath publicId (call.run D (.calm clock) db) ↔
      OnDefaultPath publicId db ∧ Conforms D clock publicId db call := by
  cases (call_effect clock db call (D := D)).told h.books publicId with
  | same hstill hsame =>
      have hconforms : Conforms D clock publicId db call := by
        intro order target hasks hfind hedge hguard
        rw [← call_result clock hasks hfind hedge] at hguard
        exact absurd hguard (hstill order target hasks hfind hedge)
      unfold OnDefaultPath
      rw [hsame, and_iff_left hconforms]
  | @moved order target hasks hfind hedge hok hmoved =>
      have hbefore : chronicle db publicId = some (order.status, recorded db order.id) := by
        rw [chronicle, hfind, Option.map_some]
      have hclimbs := h.climbs _ _ hbefore
      have hguard : call.guard D order = .ok () := by
        rw [← call_result clock hasks hfind hedge]
        exact hok
      have hconforms : Conforms D clock publicId db call ↔ IsDefaultMove order.status target ∧
          ∀ row ∈ recorded db order.id, row.2 ≤ clock (db.executed + 3) := by
        refine ⟨fun hconforms => hconforms order target hasks hfind hedge hguard, ?_⟩
        intro hmove order' target' hasks' hfind' _ _
        rw [hasks] at hasks'
        rw [hfind] at hfind'
        cases hasks'
        cases hfind'
        exact hmove
      have hsorted : (recorded db order.id ++ [(target, clock (db.executed + 3))]).Pairwise
            (fun a b => a.2 ≤ b.2) ↔ (recorded db order.id).Pairwise (fun a b => a.2 ≤ b.2) ∧
          ∀ row ∈ recorded db order.id, row.2 ≤ clock (db.executed + 3) := by
        simp [List.pairwise_append]
      rw [onDefaultPath_iff hmoved, onDefaultPath_iff hbefore, List.map_append, List.map_singleton,
        snoc_eq_defaultPath hclimbs, hsorted, hconforms]
      exact and_and_and_comm
  | opened now hasks hfresh hopened =>
      have hconforms : Conforms D clock publicId db call := by
        intro _ _ hasks'
        rw [hasks] at hasks'
        cases hasks'
      have hbefore : OnDefaultPath publicId db := by
        intro _ _ hchronicle
        rw [chronicle, hfresh] at hchronicle
        cases hchronicle
      rw [onDefaultPath_iff hopened]
      exact iff_of_true ⟨rfl, List.pairwise_singleton _ _⟩ ⟨hbefore, hconforms⟩

theorem mem_getCompletedOrderSnapshots {snapshot : OrderSnapshot}
    (h : snapshot ∈ getCompletedOrderSnapshots db) :
    ∃ stored ∈ db.orders, stored.status.isFinished ∧ snapshot = buildSnapshot stored := by
  obtain ⟨stored, hmem, rfl⟩ := List.mem_map.mp h
  obtain ⟨hstored, hfinished⟩ := List.mem_filter.mp ((List.mem_insertionSort _).mp hmem)
  exact ⟨stored, hstored, hfinished, rfl⟩

/-- The snapshot of a finished order lists the recorded statuses iff every call that moved the
order moved it along the default path to its status, at a time not before the earlier ones. -/
theorem snapshot_lists_history_iff (D : Deployment) (clock : ℕ → ℕ) (calls : List OrderCall) :
    let db := runAll (OrderCall.run D (.calm clock)) calls .empty
    ∀ snapshot ∈ getCompletedOrderSnapshots db,
      snapshot.transitions = (getTransitions db snapshot.orderId).map (fun t => t.to.text) ↔
        AllOk (OrderCall.run D (.calm clock)) (Conforms D clock snapshot.orderId) calls .empty := by
  intro db snapshot hsnapshot
  obtain ⟨stored, hstored, hfinished, rfl⟩ := mem_getCompletedOrderSnapshots hsnapshot
  have hempty : Chronicled stored.publicId .empty := ⟨.empty, fun _ _ h => by cases h⟩
  have hrun : Execution (CallStep (OrderCall.run D (.calm clock)) fun _ _ => True) Database.empty
      calls db :=
    runAll_execution calls Database.empty
  have hend : Chronicled stored.publicId db := hrun.invariant hempty fun {u call v} hu hstep => by
    rw [hstep.2]
    exact call_chronicled clock call hu
  have hpath : OnDefaultPath stored.publicId db ↔
      OnDefaultPath stored.publicId .empty ∧ AllOk (OrderCall.run D (.calm clock))
        (Conforms D clock stored.publicId) calls .empty :=
    runAll_iff_allOk (Chronicled stored.publicId) (fun _ call h => call_onDefaultPath clock call h)
      (fun _ call h => call_chronicled clock call h) calls .empty hempty
  have hstart : OnDefaultPath stored.publicId .empty := fun _ _ h => by cases h
  have hfind := findId_mem hend.books.unique hstored
  have hchronicle : chronicle db stored.publicId =
      some (stored.status, recorded db stored.id) := by
    rw [chronicle, hfind, Option.map_some]
  have htext : (getTransitions db stored.publicId).map (fun t => t.to.text) =
      ((getTransitions db stored.publicId).map (·.to)).map OrderStatus.text := by
    rw [List.map_map]
    rfl
  calc
    deriveTransitions stored.status =
        (getTransitions db stored.publicId).map (fun t => t.to.text)
      ↔ defaultPath stored.status = (getTransitions db stored.publicId).map (·.to) := by
        rw [deriveTransitions_eq hfinished, htext]
        exact (List.map_injective_iff.mpr text_injective).eq_iff
    _ ↔ (recorded db stored.id).map Prod.fst = defaultPath stored.status ∧
        (recorded db stored.id).Pairwise fun a b => a.2 ≤ b.2 := by
        rw [getTransitions_statuses hfind, eq_comm]
        exact sorted_eq_defaultPath (hend.climbs _ _ hchronicle)
    _ ↔ AllOk (OrderCall.run D (.calm clock)) (Conforms D clock stored.publicId) calls .empty := by
        rw [← onDefaultPath_iff hchronicle, hpath, and_iff_right hstart]

/-- An order that took the default path. -/
def claimedCalls7 : List OrderCall :=
  [.announce (.ok ()) "a1" input7,
    .recordSrcLock ⟨"a1", "7", "0xaa", 100, 1700010000⟩ "order-service",
    .recordDstLock ⟨"a1", "9", "0xcc", 50, 1700009000, none⟩ "order-service",
    .recordSecret "a1" preimage7 "0xbb" "order-service",
    .recordClaim "a1" "0xbb" "ethereum-listener"]

def claimedSnapshot7 : OrderSnapshot where
  orderId := "a1"
  currentState := .completed
  transitions := ["announced", "src_locked", "dst_locked", "secret_revealed", "completed"]
  publicTxHashes := ["0xaa", "0xcc", "0xbb"]
  timestamps := (1700000001, 1700000018)
  direction := .ethToXlm
  outcomeSummary := "Order completed successfully"

theorem snapshot_lists_history_claimed7 :
    let clock := fun executed => 1700000000 + executed
    let db := runAll (OrderCall.run deployment7 (.calm clock)) claimedCalls7 .empty
    claimedSnapshot7.transitions =
        (getTransitions db claimedSnapshot7.orderId).map (fun t => t.to.text) ∧
      AllOk (OrderCall.run deployment7 (.calm clock)) (Conforms deployment7 clock "a1")
        claimedCalls7 .empty :=
  ⟨by decide,
    (snapshot_lists_history_iff deployment7 _ claimedCalls7 claimedSnapshot7
      (by decide)).mp (by decide +kernel)⟩

/-- An order refunded from its destination lock is reported with a secret that was never
revealed. -/
theorem refund_reported_with_secret :
    let calls : List OrderCall :=
      [.announce (.ok ()) "a1" input7,
        .recordSrcLock ⟨"a1", "7", "0xaa", 100, 1700010000⟩ "order-service",
        .recordDstLock ⟨"a1", "9", "0xcc", 50, 1700009000, none⟩ "order-service",
        .recordRefund "a1" "0xdd" "ethereum-listener"]
    let db := runAll (OrderCall.run deployment7 (.calm fun executed => 1700000000 + executed)) calls
      .empty
    (getCompletedOrderSnapshots db).map (·.transitions) =
        [["announced", "src_locked", "dst_locked", "secret_revealed", "refunded"]] ∧
      (getTransitions db "a1").map (fun t => t.to.text) =
        ["announced", "src_locked", "dst_locked", "refunded"] := by
  decide

end OverSync.Coordinator
