import OverSync.Library.Gather
import OverSync.Library.StableSort
import OverSync.Verification.EventHistory.Eviction

/-! # Queries with and without the index

The index narrows the events one filter after the other, and starts over where nothing is left.
What it finds comes in the order of the listed keys, so the sort has to tell apart what memory
has in another order. -/

namespace OverSync.EventHistory

open Function Library

variable {E : Environment} {events memory : List EventMessage} {query : EventQuery}

/-! ## The filters of a query -/

/-- A key of any of the four filters. -/
inductive Value where
  | orderHash (hash : String)
  | eventType (eventType : EventType)
  | resolver (resolver : String)
  | chainId (chainId : ℚ)
  deriving DecidableEq, Repr

def carries (value : Value) (event : EventMessage) : Bool :=
  match value with
  | .orderHash hash => event.orderHashKey = some hash
  | .eventType eventType => some event.eventType = some eventType
  | .resolver resolver => event.resolverKey = some resolver
  | .chainId chainId => event.chainIdKey = some chainId

/-- What each filter lists, in the order in which the index applies them. -/
def EventQuery.listed (query : EventQuery) : List (List Value) :=
  [(query.orderHashes.getD []).map .orderHash, (query.eventTypes.getD []).map .eventType,
    (query.resolvers.getD []).map .resolver, (query.chainIds.getD []).map .chainId]

/-- The event carries a listed value of every filter. -/
def meets (filters : List (List Value)) (event : EventMessage) : Bool :=
  filters.all fun values => values.any fun value => carries value event

/-- A filter that lists nothing is passed over; one that comes when no event meets those before
it takes their place. -/
def nextInForce (memory : List EventMessage) (filters : List (List Value))
    (values : List Value) : List (List Value) :=
  if values = [] then filters
  else if filters ≠ [] ∧ ∃ event ∈ memory, meets filters event then filters ++ [values]
  else [values]

/-- The filters that are in force in the end. -/
def inForce (memory : List EventMessage) (query : EventQuery) : List (List Value) :=
  let filters := query.listed.foldl (nextInForce memory) []
  if ∃ event ∈ memory, meets filters event then filters else []

/-- The order in which a query is sorted. -/
def EventQuery.NotAfter (query : EventQuery) : EventMessage → EventMessage → Prop :=
  EventHistory.NotAfter (query.sortBy.getD .timestamp) (query.sortOrder.getD .desc)

instance (query : EventQuery) : DecidableRel query.NotAfter :=
  inferInstanceAs (DecidableRel (EventHistory.NotAfter _ _))

/-- The filters in force select what the query asks for. Among the events selected, each carries
one value of the first filter in force, listed once, and those that tie in the sort are in memory
in the order in which their values are listed. -/
structure IndexAgrees (memory : List EventMessage) (query : EventQuery) : Prop where
  selects : ∀ event ∈ memory, passes query event = meets (inForce memory query) event
  once : ∀ values ∈ (inForce memory query).head?, ∀ event ∈ memory, passes query event →
    hits carries values event = 1
  order : ∀ values ∈ (inForce memory query).head?,
    (memory.filter (passes query)).Pairwise fun event later =>
      Ties query.NotAfter event later → rank carries values event ≤ rank carries values later

/-! ## The sort -/

theorem compareNumbers_neg (a b : ℚ) : compareNumbers b a = -compareNumbers a b := by
  unfold compareNumbers
  rcases lt_trichotomy a b with h | rfl | h
  · simp [h, h.not_gt]
  · simp
  · simp [h, h.not_gt]

theorem compareNumbers_nonpos {a b : ℚ} : compareNumbers a b ≤ 0 ↔ a ≤ b := by
  unfold compareNumbers
  rcases lt_trichotomy a b with h | rfl | h
  · simp [h, h.le]
  · simp
  · simp [h, h.not_gt]

theorem compareUnits_neg (as bs : List ℕ) : compareUnits bs as = -compareUnits as bs := by
  induction as generalizing bs with
  | nil => cases bs <;> rfl
  | cons a as ih =>
      cases bs with
      | nil => rfl
      | cons b bs =>
          simp only [compareUnits]
          rcases lt_trichotomy a b with h | rfl | h
          · simp [h, h.not_gt]
          · simpa using ih bs
          · simp [h, h.not_gt]

theorem compareUnits_trans {as bs cs : List ℕ} (hab : compareUnits as bs ≤ 0)
    (hbc : compareUnits bs cs ≤ 0) : compareUnits as cs ≤ 0 := by
  induction as generalizing bs cs with
  | nil =>
      cases cs with
      | nil => exact le_rfl
      | cons c cs => simp [compareUnits]
  | cons a as ih =>
      cases bs with
      | nil => exact absurd hab (by simp [compareUnits])
      | cons b bs =>
          cases cs with
          | nil => exact absurd hbc (by simp [compareUnits])
          | cons c cs =>
              simp only [compareUnits] at hab hbc ⊢
              split_ifs at hab hbc ⊢ <;> first | omega | exact ih hab hbc

theorem comparison_neg (sortBy : SortBy) (a b : EventMessage) :
    comparison sortBy b a = -comparison sortBy a b := by
  cases sortBy with
  | timestamp => exact compareNumbers_neg _ _
  | eventType => exact compareUnits_neg _ _
  | orderHash => exact compareUnits_neg _ _

theorem comparison_trans {sortBy : SortBy} {a b c : EventMessage}
    (hab : comparison sortBy a b ≤ 0) (hbc : comparison sortBy b c ≤ 0) :
    comparison sortBy a c ≤ 0 := by
  cases sortBy with
  | timestamp =>
      exact compareNumbers_nonpos.mpr
        ((compareNumbers_nonpos.mp hab).trans (compareNumbers_nonpos.mp hbc))
  | eventType => exact compareUnits_trans hab hbc
  | orderHash => exact compareUnits_trans hab hbc

instance (sortBy : SortBy) (sortOrder : SortOrder) :
    Std.Total (EventHistory.NotAfter sortBy sortOrder) where
  total a b := by
    have hneg := comparison_neg sortBy a b
    cases sortOrder with
    | asc =>
        simp only [EventHistory.NotAfter, sortComparison]
        omega
    | desc =>
        simp only [EventHistory.NotAfter, sortComparison]
        omega

instance (sortBy : SortBy) (sortOrder : SortOrder) :
    IsTrans EventMessage (EventHistory.NotAfter sortBy sortOrder) where
  trans a b c hab hbc := by
    cases sortOrder with
    | asc => exact comparison_trans hab hbc
    | desc =>
        simp only [EventHistory.NotAfter, sortComparison, ← comparison_neg] at hab hbc ⊢
        exact comparison_trans hbc hab

instance (query : EventQuery) : Std.Total query.NotAfter :=
  inferInstanceAs (Std.Total (EventHistory.NotAfter _ _))

instance (query : EventQuery) : IsTrans EventMessage query.NotAfter :=
  inferInstanceAs (IsTrans EventMessage (EventHistory.NotAfter _ _))

/-! ## The index narrows by values -/

/-- The events that the filters leave, in the order of the first. -/
def arranged (memory : List EventMessage) (filters : List (List Value)) : List EventMessage :=
  match filters with
  | [] => []
  | values :: rest => (gather carries values memory).filter (meets rest)

/-- `narrow` in terms of values. -/
def narrowBy (memory : List EventMessage) (events : List EventMessage) (values : List Value) :
    List EventMessage :=
  if values = [] then events
  else if events = [] then gather carries values memory
  else events.filter fun e => (gather carries values memory).contains e

theorem narrow_eq {κ : Type} [DecidableEq κ] {map : κ → List EventMessage}
    {key : EventMessage → Option κ} (hlists : Lists map key memory) (value : κ → Value)
    (hvalue : ∀ k event, carries (value k) event = decide (key event = some k))
    (keys : Option (List κ)) (events : List EventMessage) :
    narrow map keys events = narrowBy memory events ((keys.getD []).map value) := by
  have hfound : ∀ ks : List κ, ks.flatMap map = gather carries (ks.map value) memory := by
    intro ks
    rw [gather, List.flatMap_map]
    refine List.flatMap_congr fun k _ => ?_
    rw [hlists k]
    exact List.filter_congr fun event _ => (hvalue k event).symm
  unfold narrow narrowBy
  cases keys with
  | none => rfl
  | some ks =>
      cases ks with
      | nil => rfl
      | cons k ks =>
          simp only [Option.getD_some, List.map_cons, reduceCtorEq, if_false,
            List.length_eq_zero_iff, hfound (k :: ks)]

theorem indexed_eq {index : EventIndex} (h : Mirrors E index memory) (query : EventQuery) :
    indexed index query = query.listed.foldl (narrowBy memory) [] := by
  rw [indexed, narrow_eq h.byOrderHash .orderHash fun _ _ => rfl,
    narrow_eq h.byEventType .eventType fun _ _ => rfl,
    narrow_eq h.byResolver .resolver fun _ _ => rfl,
    narrow_eq h.byChainId .chainId fun _ _ => rfl]
  rfl

theorem meets_append (filters : List (List Value)) (values : List Value) (event : EventMessage) :
    meets (filters ++ [values]) event =
      (meets filters event && values.any fun value => carries value event) := by
  simp [meets]

theorem mem_arranged {values : List Value} {rest : List (List Value)} {event : EventMessage} :
    event ∈ arranged memory (values :: rest) ↔
      event ∈ memory ∧ meets (values :: rest) event = true := by
  simp only [arranged, List.mem_filter, mem_gather, meets, List.all_cons, Bool.and_eq_true,
    List.any_eq_true, and_assoc]

theorem arranged_eq_nil {filters : List (List Value)} :
    arranged memory filters = [] ↔ ¬(filters ≠ [] ∧ ∃ event ∈ memory, meets filters event) := by
  cases filters with
  | nil => simp [arranged]
  | cons values rest =>
      rw [List.eq_nil_iff_forall_not_mem]
      simp only [mem_arranged, ne_eq, reduceCtorEq, not_false_eq_true, true_and, not_exists]

/-- One filter narrows the events, or starts over. -/
theorem narrowBy_arranged (filters : List (List Value)) (values : List Value) :
    narrowBy memory (arranged memory filters) values =
      arranged memory (nextInForce memory filters values) := by
  unfold narrowBy nextInForce
  by_cases hvalues : values = []
  · rw [if_pos hvalues, if_pos hvalues]
  · rw [if_neg hvalues, if_neg hvalues]
    by_cases hnone : arranged memory filters = []
    · rw [if_pos hnone, if_neg (arranged_eq_nil.mp hnone), arranged]
      exact (List.filter_eq_self.mpr fun _ _ => rfl).symm
    · rw [if_neg hnone, if_pos (not_not.mp fun h => hnone (arranged_eq_nil.mpr h))]
      cases filters with
      | nil => exact absurd rfl hnone
      | cons first rest =>
          rw [arranged, List.cons_append, arranged, List.filter_filter]
          refine List.filter_congr fun event hevent => ?_
          have hmem : event ∈ memory := (mem_gather.mp hevent).1
          rw [meets_append, Bool.and_comm]
          congr 1
          rw [Bool.eq_iff_iff, List.contains_iff_mem, mem_gather, List.any_eq_true]
          exact and_iff_right hmem

theorem foldl_narrowBy (lists : List (List Value)) (filters : List (List Value)) :
    lists.foldl (narrowBy memory) (arranged memory filters) =
      arranged memory (lists.foldl (nextInForce memory) filters) := by
  induction lists generalizing filters with
  | nil => rfl
  | cons values lists ih =>
      rw [List.foldl_cons, List.foldl_cons, narrowBy_arranged, ih]

/-- What the index path sorts. -/
def byIndex (memory : List EventMessage) (query : EventQuery) : List EventMessage :=
  match inForce memory query with
  | [] => memory
  | values :: rest => arranged memory (values :: rest)

theorem queryFromIndex_eq {s : State} (h : Mirrors E s.eventIndex s.memoryEvents)
    (query : EventQuery) : (queryFromIndex s query).1 = byIndex s.memoryEvents query := by
  have hindexed : indexed s.eventIndex query = arranged s.memoryEvents
      (query.listed.foldl (nextInForce s.memoryEvents) []) := by
    rw [indexed_eq h query]
    exact foldl_narrowBy query.listed []
  simp only [queryFromIndex, hindexed, byIndex, inForce, List.length_eq_zero_iff]
  generalize query.listed.foldl (nextInForce s.memoryEvents) [] = filters
  cases filters with
  | nil => simp [arranged]
  | cons values rest =>
      by_cases hmeets : ∃ event ∈ s.memoryEvents, meets (values :: rest) event
      · have hne : arranged s.memoryEvents (values :: rest) ≠ [] :=
          fun hnil => arranged_eq_nil.mp hnil ⟨by simp, hmeets⟩
        rw [if_neg hne, if_pos hmeets]
      · have hnil : arranged s.memoryEvents (values :: rest) = [] :=
          arranged_eq_nil.mpr fun h => hmeets h.2
        rw [if_pos hnil, if_neg hmeets]

/-! ## Agreement of the selections -/

theorem pairwise_forall {α β : Type} {R : β → α → α → Prop} {xs : List α}
    (h : ∀ b, xs.Pairwise (R b)) : xs.Pairwise fun x y => ∀ b, R b x y := by
  induction xs with
  | nil => exact .nil
  | cons x xs ih =>
      refine List.pairwise_cons.mpr ⟨fun y hy b => ?_, ih fun b => (h b).tail⟩
      exact List.rel_of_pairwise_cons (h b) hy

/-- With filters in force the index lists, value by value, the events that meet them. -/
theorem arranged_eq_gather (values : List Value) (rest : List (List Value)) :
    arranged memory (values :: rest) =
      gather carries values (memory.filter (meets (values :: rest))) := by
  rw [arranged, filter_gather, ← gather_filter_any, List.filter_filter]
  congr 1

/-- Two selections agree on an event iff they agree on those that tie with it. -/
theorem mem_of_filter_ties {xs ys : List EventMessage}
    (h : ∀ a, xs.filter (Ties query.NotAfter a) = ys.filter (Ties query.NotAfter a))
    (event : EventMessage) : event ∈ xs ↔ event ∈ ys := by
  have hself : decide (Ties query.NotAfter event event) = true := decide_eq_true (ties_self event)
  have hmem := congrArg (event ∈ ·) (h event)
  simpa only [List.mem_filter, hself, and_true, eq_iff_iff] using hmem

/-- Without a filter in force the index selects everything. -/
theorem sorted_eq_iff_all :
    (∀ a, memory.filter (Ties query.NotAfter a) =
        (memory.filter (passes query)).filter (Ties query.NotAfter a)) ↔
      ∀ event ∈ memory, passes query event = true := by
  constructor
  · intro h event hevent
    exact (List.mem_filter.mp ((mem_of_filter_ties h event).mp hevent)).2
  · intro h a
    rw [List.filter_eq_self.mpr h]

/-- Where the filters in force select what the query asks for, only the order of ties counts. -/
theorem sorted_eq_iff_order {values : List Value} {rest : List (List Value)}
    (hselects : ∀ event ∈ memory, passes query event = meets (values :: rest) event) :
    (∀ a, (arranged memory (values :: rest)).filter (Ties query.NotAfter a) =
        (memory.filter (passes query)).filter (Ties query.NotAfter a)) ↔
      (∀ event ∈ memory, passes query event → hits carries values event = 1) ∧
      (memory.filter (passes query)).Pairwise fun event later =>
        Ties query.NotAfter event later →
          rank carries values event ≤ rank carries values later := by
  have harranged : arranged memory (values :: rest) =
      gather carries values (memory.filter (passes query)) := by
    rw [arranged_eq_gather, List.filter_congr hselects]
  simp only [harranged, filter_gather, gather_eq_self_iff, List.pairwise_filter,
    decide_eq_true_eq]
  constructor
  · intro h
    refine ⟨fun event hevent hpasses => ?_, ?_⟩
    · refine (h event).1 event (List.mem_filter.mpr ⟨List.mem_filter.mpr ⟨hevent, hpasses⟩, ?_⟩)
      exact decide_eq_true (ties_self event)
    · refine (pairwise_forall fun a => (h a).2).imp fun {event later} hall hp hp' hties => ?_
      exact hall event hp hp' (ties_self event) hties
  · rintro ⟨hone, horder⟩ a
    refine ⟨fun event hevent => ?_, horder.imp fun {event later} hle hp hp' ha ha' => ?_⟩
    · obtain ⟨hmem, -⟩ := List.mem_filter.mp hevent
      obtain ⟨hmem, hpasses⟩ := List.mem_filter.mp hmem
      exact hone event hmem hpasses
    · exact hle hp hp' ⟨trans_of query.NotAfter ha.2 ha'.1, trans_of query.NotAfter ha'.2 ha.1⟩

/-- The index path sorts to the same list as the other, exactly under the condition. -/
theorem sorted_eq_iff :
    (byIndex memory query).insertionSort query.NotAfter =
        (memory.filter (passes query)).insertionSort query.NotAfter ↔
      IndexAgrees memory query := by
  rw [insertionSort_eq_iff]
  unfold byIndex
  cases hforce : inForce memory query with
  | nil =>
      simp only
      rw [sorted_eq_iff_all]
      constructor
      · intro h
        refine ⟨fun event hevent => ?_, ?_, ?_⟩
        · rw [hforce, h event hevent]
          rfl
        · rw [hforce]
          intro values hvalues
          cases hvalues
        · rw [hforce]
          intro values hvalues
          cases hvalues
      · intro h event hevent
        rw [h.selects event hevent, hforce]
        rfl
  | cons values rest =>
      simp only
      constructor
      · intro h
        have hselects : ∀ event ∈ memory, passes query event = meets (values :: rest) event := by
          intro event hevent
          have hmem := mem_of_filter_ties h event
          rw [mem_arranged, List.mem_filter, and_iff_right hevent, and_iff_right hevent] at hmem
          exact (Bool.eq_iff_iff.mpr hmem).symm
        obtain ⟨hone, horder⟩ := (sorted_eq_iff_order hselects).mp h
        refine ⟨by rwa [hforce], ?_, ?_⟩
        · rw [hforce]
          rintro _ ⟨⟩
          exact hone
        · rw [hforce]
          rintro _ ⟨⟩
          exact horder
      · intro h
        have hselects := h.selects
        rw [hforce] at hselects
        refine (sorted_eq_iff_order hselects).mpr ⟨h.once values ?_, h.order values ?_⟩
        · rw [hforce]
          rfl
        · rw [hforce]
          rfl

/-! ## Pages -/

/-- The same query with another page. -/
def EventQuery.page (query : EventQuery) (limit offset : Option ℚ) : EventQuery :=
  { query with limit := limit, offset := offset }

theorem sliceIndex_natCast (length i : ℕ) : sliceIndex length i = i := by
  unfold sliceIndex
  simp

theorem paginate_one (xs : List EventMessage) (query : EventQuery) (i : ℕ) :
    (paginate xs (query.page (some 1) (some i))).events = (xs.take (i + 1)).drop i := by
  have hoffset : orDefault (some (i : ℚ)) 0 = i := by
    simp only [orDefault]
    split_ifs with hzero
    · exact hzero.symm
    · rfl
  have hlimit : orDefault (some 1) 100 = 1 := rfl
  have hstop : (i : ℚ) + 1 = ((i + 1 : ℕ) : ℚ) := by push_cast; rfl
  simp only [paginate, EventQuery.page, hoffset, hlimit, slice, hstop, sliceIndex_natCast]

/-- Lists have the same pages only if they are equal. -/
theorem pages_agree_iff (xs ys : List EventMessage) (query : EventQuery) :
    (∀ limit offset,
      (paginate xs (query.page limit offset)).pagination.total =
          (paginate ys (query.page limit offset)).pagination.total ∧
        ∀ event, event ∈ (paginate xs (query.page limit offset)).events ↔
          event ∈ (paginate ys (query.page limit offset)).events) ↔ xs = ys := by
  constructor
  · intro h
    have hlength : xs.length = ys.length := (h none none).1
    refine List.ext_getElem hlength fun i hi hi' => ?_
    have hpage := (h (some 1) (some (i : ℚ))).2 xs[i]
    have hone : ∀ {zs : List EventMessage} (hz : i < zs.length),
        (zs.take (i + 1)).drop i = [zs[i]] := by
      intro zs hz
      rw [List.take_succ_eq_append_getElem hz, List.drop_left' (List.length_take_of_le hz.le)]
    rw [paginate_one, paginate_one, hone hi, hone hi'] at hpage
    exact List.mem_singleton.mp (hpage.mp (List.mem_singleton.mpr rfl))
  · rintro rfl limit offset
    exact ⟨rfl, fun _ => Iff.rfl⟩

/-! ## Two managers -/

/-- The state after the events have been added to a new manager. -/
def afterAdding (E : Environment) (config : EventHistoryConfig) (events : List EventMessage) :
    State :=
  runAll (run E config) (events.map .addEvent) .start

/-- Up to the limit memory holds what was added, in order, and the index lists it. -/
theorem runAll_addEvent {config : EventHistoryConfig} {s : State} {events : List EventMessage}
    (hindex : config.indexingEnabled = true → Mirrors E s.eventIndex s.memoryEvents)
    (hlimit : ((s.memoryEvents.length + events.length : ℕ) : ℚ) ≤ config.maxMemoryEvents) :
    (runAll (run E config) (events.map .addEvent) s).memoryEvents = s.memoryEvents ++ events ∧
      (config.indexingEnabled = true →
        Mirrors E (runAll (run E config) (events.map .addEvent) s).eventIndex
          (runAll (run E config) (events.map .addEvent) s).memoryEvents) := by
  induction events generalizing s with
  | nil => exact ⟨(List.append_nil _).symm, hindex⟩
  | cons event events ih =>
      have hbelow : ¬config.maxMemoryEvents < ((s.memoryEvents ++ [event]).length : ℚ) := by
        rw [List.length_append, List.length_singleton]
        refine not_lt.mpr (le_trans ?_ hlimit)
        exact_mod_cast (by rw [List.length_cons]; omega :
          s.memoryEvents.length + 1 ≤ s.memoryEvents.length + (event :: events).length)
      have hadd : (s.addEvent E config event).memoryEvents = s.memoryEvents ++ [event] ∧
          (config.indexingEnabled = true →
            Mirrors E (s.addEvent E config event).eventIndex
              (s.addEvent E config event).memoryEvents) := by
        cases hindexing : config.indexingEnabled with
        | true =>
            have hcheck : (s.withEvent E event).checkLimit config = s.withEvent E event :=
              if_neg hbelow
            have hstate : s.addEvent E config event = s.withEvent E event := by
              rw [addEvent_indexed hindexing, hcheck, ite_self]
            rw [hstate]
            exact ⟨rfl, fun _ => (hindex hindexing).updateIndex event⟩
        | false =>
            have hstate : (s.addEvent E config event).memoryEvents =
                s.memoryEvents ++ [event] := by
              rw [State.addEvent, if_neg (by rw [hindexing]; exact Bool.false_ne_true),
                State.checkLimit, if_neg hbelow]
            exact ⟨hstate, fun hfalse => by cases hfalse⟩
      have hrest := ih (s := s.addEvent E config event) hadd.2 (by
        rw [hadd.1, List.length_append, List.length_singleton]
        refine le_trans (le_of_eq ?_) hlimit
        rw [List.length_cons]
        congr 1
        omega)
      rw [hadd.1, List.append_assoc] at hrest
      exact hrest

theorem queryEvents_result (config : EventHistoryConfig) (s : State) (query : EventQuery) :
    (s.queryEvents config query).1 =
      paginate ((if config.indexingEnabled then (queryFromIndex s query).1
        else queryFromMemory s query).insertionSort query.NotAfter) query := by
  unfold State.queryEvents
  cases config.indexingEnabled with
  | false => rfl
  | true =>
      simp only [if_true]
      cases queryFromIndex s query with
      | mk events returned =>
          cases returned with
          | false => rfl
          | true => rfl

/-- The answer of a manager to which the events have been added. -/
def answer (E : Environment) (config : EventHistoryConfig) (events : List EventMessage)
    (query : EventQuery) : QueryResult :=
  ((afterAdding E config events).queryEvents config query).1

theorem answer_eq (config : EventHistoryConfig)
    (hlimit : (events.length : ℚ) ≤ config.maxMemoryEvents) (query : EventQuery) :
    answer E config events query =
      paginate ((if config.indexingEnabled then byIndex events query
        else events.filter (passes query)).insertionSort query.NotAfter) query := by
  have hlimit' : ((State.start.memoryEvents.length + events.length : ℕ) : ℚ) ≤
      config.maxMemoryEvents := by
    rwa [show State.start.memoryEvents.length + events.length = events.length from
      Nat.zero_add events.length]
  obtain ⟨hmemory, hindex⟩ := runAll_addEvent (E := E) (fun _ => Mirrors.empty) hlimit'
  have hevents : (afterAdding E config events).memoryEvents = events := hmemory
  rw [answer, queryEvents_result]
  cases hindexing : config.indexingEnabled with
  | false =>
      rw [if_neg Bool.false_ne_true, if_neg Bool.false_ne_true, queryFromMemory, hevents]
  | true =>
      have hquery : (queryFromIndex (afterAdding E config events) query).1 =
          byIndex (afterAdding E config events).memoryEvents query :=
        queryFromIndex_eq (hindex hindexing) query
      rw [if_pos rfl, if_pos rfl, hquery, hevents]

/-- On every page a query has the same total and the same events with an index and without,
exactly if the filters in force select what it asks for, and list it in the order of memory as
far as the sort leaves it open. -/
theorem queries_agree_iff (E : Environment) (maxMemoryEvents : ℚ) (events : List EventMessage)
    (hlimit : (events.length : ℚ) ≤ maxMemoryEvents) (query : EventQuery) :
    (∀ limit offset,
      (answer E ⟨maxMemoryEvents, true⟩ events (query.page limit offset)).pagination.total =
          (answer E ⟨maxMemoryEvents, false⟩ events (query.page limit offset)).pagination.total ∧
        ∀ event,
          event ∈ (answer E ⟨maxMemoryEvents, true⟩ events (query.page limit offset)).events ↔
          event ∈ (answer E ⟨maxMemoryEvents, false⟩ events
            (query.page limit offset)).events) ↔
      IndexAgrees events query := by
  rw [← sorted_eq_iff, ← pages_agree_iff _ _ query]
  refine forall₂_congr fun limit offset => ?_
  rw [answer_eq ⟨maxMemoryEvents, true⟩ hlimit, answer_eq ⟨maxMemoryEvents, false⟩ hlimit]
  exact Iff.rfl

/-! ## Three orders in memory -/

def ordersOf (hashes : List String) : EventQuery :=
  { everything with orderHashes := some hashes }

/-- A message about an order; `i` tells it from others. -/
def about (i : ℕ) (timestamp : ℚ) (orderHash : String) : EventMessage :=
  { created i with timestamp := timestamp, orderHash := some orderHash }

/-- The first two have one timestamp. -/
def history : List EventMessage :=
  [about 1 5 "0x1", about 2 5 "0x2", about 3 6 "0x1", about 4 7 "0x3"]

theorem history_agrees : IndexAgrees history (ordersOf ["0x1", "0x2"]) where
  selects := by decide
  once := by decide
  order := by decide

/-- The three events of two of the orders are on the same pages with an index and without. -/
theorem queries_agree_history :
    (answer firstDay ⟨1000, true⟩ history (ordersOf ["0x1", "0x2"])).pagination.total = 3 ∧
      ∀ limit offset,
        (answer firstDay ⟨1000, true⟩ history
            ((ordersOf ["0x1", "0x2"]).page limit offset)).pagination.total =
          (answer firstDay ⟨1000, false⟩ history
            ((ordersOf ["0x1", "0x2"]).page limit offset)).pagination.total ∧
        ∀ event,
          event ∈ (answer firstDay ⟨1000, true⟩ history
            ((ordersOf ["0x1", "0x2"]).page limit offset)).events ↔
          event ∈ (answer firstDay ⟨1000, false⟩ history
            ((ordersOf ["0x1", "0x2"]).page limit offset)).events :=
  ⟨by decide, (queries_agree_iff firstDay 1000 history (by decide)
    (ordersOf ["0x1", "0x2"])).mpr history_agrees⟩

/-- Asked for an order that it does not know, the index returns everything. -/
theorem unknown_order_found :
    (answer firstDay ⟨1000, true⟩ [created 1] (ordersOf ["0x9"])).pagination.total = 1 ∧
      (answer firstDay ⟨1000, false⟩ [created 1] (ordersOf ["0x9"])).pagination.total = 0 := by
  decide

end OverSync.EventHistory
