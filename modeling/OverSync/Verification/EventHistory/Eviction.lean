import OverSync.Model.EventHistory
import Mathlib.Data.List.Perm.Basic
import Mathlib.Tactic.Common

/-! # What eviction leaves in the index

An addition that takes events out of memory leaves them in the maps of the index, and a query
that finds nothing sorts the memory in place. Without indexing neither happens. -/

namespace OverSync.EventHistory

open Function Library

variable {E : Environment} {config : EventHistoryConfig} {s : State} {event : EventMessage}

/-! ## The maps of the index -/

/-- A map lists, for each key, the events with that key. -/
def Lists {κ : Type} [DecidableEq κ] (map : κ → List EventMessage)
    (key : EventMessage → Option κ) (events : List EventMessage) : Prop :=
  ∀ k, map k = events.filter fun e => key e = some k

theorem Lists.push {κ : Type} [DecidableEq κ] {map : κ → List EventMessage}
    {key : EventMessage → Option κ} {events : List EventMessage} (h : Lists map key events)
    (event : EventMessage) :
    Lists (EventHistory.push map (key event) event) key (events ++ [event]) := by
  intro k
  rw [List.filter_append, ← h k]
  cases hkey : key event with
  | none => simp [EventHistory.push, hkey]
  | some k' =>
      rw [EventHistory.push]
      by_cases hk : k = k'
      · subst hk
        simp [hkey]
      · have hne : ¬k' = k := fun heq => hk heq.symm
        simp [hkey, hk, hne]

/-- The index lists the events. -/
structure Mirrors (E : Environment) (index : EventIndex) (events : List EventMessage) : Prop where
  byOrderHash : Lists index.byOrderHash EventMessage.orderHashKey events
  byResolver : Lists index.byResolver EventMessage.resolverKey events
  byChainId : Lists index.byChainId EventMessage.chainIdKey events
  byEventType : Lists index.byEventType (fun e => some e.eventType) events
  byTimeRange : Lists index.byTimeRange (fun e => E.dayKey e.timestamp) events

theorem Mirrors.empty : Mirrors E .empty [] :=
  ⟨fun _ => rfl, fun _ => rfl, fun _ => rfl, fun _ => rfl, fun _ => rfl⟩

theorem Mirrors.updateIndex {index : EventIndex} {events : List EventMessage}
    (h : Mirrors E index events) (event : EventMessage) :
    Mirrors E (EventHistory.updateIndex E event index) (events ++ [event]) where
  byOrderHash := h.byOrderHash.push event
  byResolver := h.byResolver.push event
  byChainId := h.byChainId.push event
  byEventType := h.byEventType.push event
  byTimeRange := h.byTimeRange.push event

/-! ## The property -/

/-- For each key, the events in memory with that key and no others. -/
def TrueOf {κ : Type} [DecidableEq κ] (map : κ → List EventMessage)
    (key : EventMessage → Option κ) (memoryEvents : List EventMessage) : Prop :=
  ∀ k, (map k).Perm (memoryEvents.filter fun e => key e = some k)

structure TrueIndex (E : Environment) (s : State) : Prop where
  byOrderHash : TrueOf s.eventIndex.byOrderHash EventMessage.orderHashKey s.memoryEvents
  byResolver : TrueOf s.eventIndex.byResolver EventMessage.resolverKey s.memoryEvents
  byChainId : TrueOf s.eventIndex.byChainId EventMessage.chainIdKey s.memoryEvents
  byEventType : TrueOf s.eventIndex.byEventType (fun e => some e.eventType) s.memoryEvents
  byTimeRange : TrueOf s.eventIndex.byTimeRange (fun e => E.dayKey e.timestamp) s.memoryEvents

/-- The events written to files are the oldest and those in memory the newest, and the index
is true. -/
structure KeepsNewest (E : Environment) (config : EventHistoryConfig) (s : State) : Prop where
  newest : ∃ k, s.persisted.flatten.Perm (s.added.take k) ∧
    s.memoryEvents.Perm (s.added.drop k)
  index : config.indexingEnabled = true → TrueIndex E s

/-- With an index, no addition takes events out of memory. -/
def EvictsNothing (E : Environment) (config : EventHistoryConfig) (s : State) (call : Call) :
    Prop :=
  match call with
  | .queryEvents _ => True
  | .addEvent event => config.indexingEnabled = true → (E.dayKey event.timestamp).isSome →
      config.maxMemoryEvents < ((s.memoryEvents.length + 1 : ℕ) : ℚ) → oldestCount config = 0

/-! ## One call -/

theorem Lists.trueOf {κ : Type} [DecidableEq κ] {map : κ → List EventMessage}
    {key : EventMessage → Option κ} {events memoryEvents : List EventMessage}
    (h : Lists map key events) (hperm : memoryEvents.Perm events) : TrueOf map key memoryEvents :=
  fun k => (h k).symm ▸ (hperm.filter _).symm

/-- A map that lists an event that is no longer in memory is not true. -/
theorem Lists.not_trueOf_drop {κ : Type} [DecidableEq κ] {map : κ → List EventMessage}
    {key : EventMessage → Option κ} {events rest : List EventMessage} {oldest : EventMessage}
    {k : κ} (h : Lists map key events) (hperm : (oldest :: rest).Perm events)
    (hkey : key oldest = some k) (n : ℕ) : ¬TrueOf map key (rest.drop n) := by
  intro htrue
  have hlisted : (map k).length = (rest.filter fun e => key e = some k).length + 1 := by
    rw [h k, ← (hperm.filter _).length_eq, List.filter_cons_of_pos (by simpa using hkey),
      List.length_cons]
  have hleft : ((rest.drop n).filter fun e => key e = some k).length ≤
      (rest.filter fun e => key e = some k).length :=
    ((List.drop_sublist n rest).filter _).length_le
  rw [← (htrue k).length_eq, hlisted] at hleft
  exact Nat.not_succ_le_self _ hleft

theorem Mirrors.trueIndex {events : List EventMessage} (h : Mirrors E s.eventIndex events)
    (hperm : s.memoryEvents.Perm events) : TrueIndex E s where
  byOrderHash := h.byOrderHash.trueOf hperm
  byResolver := h.byResolver.trueOf hperm
  byChainId := h.byChainId.trueOf hperm
  byEventType := h.byEventType.trueOf hperm
  byTimeRange := h.byTimeRange.trueOf hperm

/-- What holds as long as no addition evicts events from an indexed memory. -/
structure Unevicted (E : Environment) (config : EventHistoryConfig) (s : State) : Prop where
  indexed : config.indexingEnabled = true →
    Mirrors E s.eventIndex s.added ∧ s.memoryEvents.Perm s.added ∧ s.persisted.flatten = []
  plain : config.indexingEnabled = false → s.added = s.persisted.flatten ++ s.memoryEvents

theorem Unevicted.keepsNewest (h : Unevicted E config s) : KeepsNewest E config s := by
  cases hindexing : config.indexingEnabled with
  | true =>
      obtain ⟨hmirrors, hperm, hnone⟩ := h.indexed hindexing
      refine ⟨⟨0, by rw [hnone]; exact .nil, hperm⟩, fun _ => hmirrors.trueIndex hperm⟩
  | false =>
      have hadded := h.plain hindexing
      refine ⟨⟨s.persisted.flatten.length, ?_, ?_⟩, fun htrue => ?_⟩
      · rw [hadded, List.take_left']
        rfl
      · rw [hadded, List.drop_left']
        rfl
      · rw [hindexing] at htrue
        cases htrue

theorem queryFromIndex_memory {query : EventQuery} {events : List EventMessage}
    (h : queryFromIndex s query = (events, true)) : events = s.memoryEvents := by
  simp only [queryFromIndex] at h
  split at h
  · exact (Prod.ext_iff.mp h).1.symm
  · cases (Prod.ext_iff.mp h).2

/-- A query leaves everything but the order of the memory, and that without indexing too. -/
theorem queryEvents_state (config : EventHistoryConfig) (query : EventQuery) (s : State) :
    ∃ memoryEvents, (s.queryEvents config query).2 = { s with memoryEvents := memoryEvents } ∧
      memoryEvents.Perm s.memoryEvents ∧
      (config.indexingEnabled = false → memoryEvents = s.memoryEvents) := by
  unfold State.queryEvents
  cases hindexing : config.indexingEnabled with
  | false => exact ⟨s.memoryEvents, rfl, .refl _, fun _ => rfl⟩
  | true =>
      rw [if_pos rfl]
      cases hquery : queryFromIndex s query with
      | mk events returned =>
          cases returned with
          | false => exact ⟨s.memoryEvents, rfl, .refl _, fun _ => rfl⟩
          | true =>
              refine ⟨_, rfl, ?_, fun hfalse => by cases hfalse⟩
              rw [queryFromIndex_memory hquery]
              exact List.perm_insertionSort _ _

theorem unevicted_query (hs : Unevicted E config s) (query : EventQuery) :
    Unevicted E config (s.queryEvents config query).2 := by
  obtain ⟨memoryEvents, hstate, hperm, hsame⟩ := queryEvents_state config query s
  rw [hstate]
  constructor
  · intro hindexing
    obtain ⟨hmirrors, hmemory, hnone⟩ := hs.indexed hindexing
    exact ⟨hmirrors, hperm.trans hmemory, hnone⟩
  · intro hindexing
    rw [hsame hindexing]
    exact hs.plain hindexing

theorem checkLimit_plain (h : s.added = s.persisted.flatten ++ s.memoryEvents) :
    (s.checkLimit config).added =
      (s.checkLimit config).persisted.flatten ++ (s.checkLimit config).memoryEvents := by
  unfold State.checkLimit
  split
  · rw [State.persistOldestEvents, List.flatten_append, List.flatten_singleton, List.append_assoc,
      List.take_append_drop]
    exact h
  · exact h

/-- Without an eviction the check of the limit at most writes empty files. -/
theorem checkLimit_unevicted (h : config.maxMemoryEvents < s.memoryEvents.length →
    oldestCount config = 0) :
    ∃ persisted, s.checkLimit config = { s with persisted := persisted } ∧
      persisted.flatten = s.persisted.flatten := by
  unfold State.checkLimit
  split
  · rename_i hlimit
    refine ⟨s.persisted ++ [[]], ?_, by simp⟩
    rw [State.persistOldestEvents, h hlimit, List.drop_zero, List.take_zero]
  · exact ⟨s.persisted, rfl, rfl⟩

/-- The state after the event is in memory and in the index. -/
def State.withEvent (E : Environment) (event : EventMessage) (s : State) : State :=
  { s with
    memoryEvents := s.memoryEvents ++ [event]
    added := s.added ++ [event]
    eventIndex := updateIndex E event s.eventIndex }

theorem addEvent_indexed (hindexing : config.indexingEnabled = true) (event : EventMessage)
    (s : State) :
    s.addEvent E config event =
      if (E.dayKey event.timestamp).isSome then (s.withEvent E event).checkLimit config
      else s.withEvent E event := by
  rw [State.addEvent, if_pos hindexing]
  cases E.dayKey event.timestamp with
  | none => rfl
  | some day => rfl

theorem unevicted_add (hs : Unevicted E config s)
    (hkeeps : EvictsNothing E config s (.addEvent event)) :
    Unevicted E config (s.addEvent E config event) := by
  constructor
  · intro hindexing
    obtain ⟨hmirrors, hperm, hnone⟩ := hs.indexed hindexing
    have hwith : Mirrors E (s.withEvent E event).eventIndex (s.withEvent E event).added ∧
        (s.withEvent E event).memoryEvents.Perm (s.withEvent E event).added :=
      ⟨hmirrors.updateIndex event, hperm.append_right [event]⟩
    rw [addEvent_indexed hindexing]
    split
    · rename_i hday
      have hlength : (s.withEvent E event).memoryEvents.length = s.memoryEvents.length + 1 :=
        List.length_append
      obtain ⟨persisted, hstate, hflatten⟩ := checkLimit_unevicted
        (s := s.withEvent E event) (hlength ▸ hkeeps hindexing hday)
      rw [hstate]
      exact ⟨hwith.1, hwith.2, hflatten.trans hnone⟩
    · exact ⟨hwith.1, hwith.2, hnone⟩
  · intro hindexing
    rw [State.addEvent, if_neg (by rw [hindexing]; exact Bool.false_ne_true)]
    refine checkLimit_plain ?_
    rw [← List.append_assoc, ← hs.plain hindexing]

/-- An eviction from an indexed memory leaves the evicted events in the index. -/
theorem not_keepsNewest_add (hs : Unevicted E config s)
    (hevicts : ¬EvictsNothing E config s (.addEvent event)) :
    ¬KeepsNewest E config (s.addEvent E config event) := by
  simp only [EvictsNothing, Classical.not_imp] at hevicts
  obtain ⟨hindexing, hday, hlimit, hcount⟩ := hevicts
  obtain ⟨hmirrors, hperm, -⟩ := hs.indexed hindexing
  intro hkeeps
  have hlength : (s.withEvent E event).memoryEvents.length = s.memoryEvents.length + 1 :=
    List.length_append
  rw [addEvent_indexed hindexing, if_pos hday, State.checkLimit, hlength, if_pos hlimit] at hkeeps
  have hwhole : (s.withEvent E event).memoryEvents.Perm (s.added ++ [event]) :=
    hperm.append_right [event]
  obtain ⟨n, hn⟩ := Nat.exists_eq_succ_of_ne_zero hcount
  cases hmemory : (s.withEvent E event).memoryEvents with
  | nil =>
      rw [hmemory] at hlength
      cases hlength
  | cons oldest rest =>
      have hpersist : ((s.withEvent E event).persistOldestEvents config).memoryEvents =
          rest.drop n := by
        rw [State.persistOldestEvents, hmemory, hn]
        rfl
      have htypes := (hkeeps.index hindexing).byEventType
      rw [hpersist] at htypes
      exact (hmirrors.updateIndex event).byEventType.not_trueOf_drop (hmemory ▸ hwhole) rfl n htypes

/-! ## Runs -/

/-- In every state of a run memory holds the newest events and the index is true, exactly if no
addition of the run takes events out of an indexed memory. -/
theorem history_keeps_newest_iff (E : Environment) (config : EventHistoryConfig)
    (calls : List Call) :
    (∀ front, front <+: calls → KeepsNewest E config (runAll (run E config) front .start)) ↔
      AllOk (run E config) (EvictsNothing E config) calls .start := by
  have hstart : Unevicted E config .start :=
    ⟨fun _ => ⟨Mirrors.empty, .nil, rfl⟩, fun _ => rfl⟩
  refine forall_front_iff_allOk (Unevicted E config) ?_ ?_ calls .start hstart hstart.keepsNewest
  · intro s call hs
    cases call with
    | queryEvents query => exact iff_of_true (unevicted_query hs query).keepsNewest trivial
    | addEvent event =>
        by_cases hkeeps : EvictsNothing E config s (.addEvent event)
        · exact iff_of_true (unevicted_add hs hkeeps).keepsNewest hkeeps
        · exact iff_of_false (not_keepsNewest_add hs hkeeps) hkeeps
  · intro s call hs hkeeps
    cases call with
    | queryEvents query => exact unevicted_query hs query
    | addEvent event => exact unevicted_add hs hkeeps

/-! Three orders of a memory for two, and a query before the third. -/

def created (i : ℕ) : EventMessage :=
  ⟨i, "event", .orderCreated, i, some "0x1", none, none⟩

def firstDay : Environment :=
  ⟨fun _ => some "1970-01-01"⟩

def everything : EventQuery :=
  ⟨none, none, none, none, none, none, none, none, none⟩

def threeOrders : List Call :=
  [.addEvent (created 1), .addEvent (created 2), .queryEvents everything, .addEvent (created 3)]

/-- The query sorts the memory, so the second event is written out before the first one. It stays
in the index. -/
theorem newer_event_evicted :
    let s := runAll (run firstDay ⟨2, true⟩) threeOrders .start
    s.memoryEvents = [created 1, created 3] ∧ s.persisted = [[created 2]] ∧
      s.eventIndex.byEventType .orderCreated = [created 1, created 2, created 3] ∧
      ¬KeepsNewest firstDay ⟨2, true⟩ s := by
  intro s
  have hmemory : s.memoryEvents = [created 1, created 3] := by decide +kernel
  have hindex : s.eventIndex.byEventType .orderCreated = [created 1, created 2, created 3] := by
    decide +kernel
  refine ⟨hmemory, by decide +kernel, hindex, fun hkeeps => ?_⟩
  have hlength := ((hkeeps.index rfl).byEventType .orderCreated).length_eq
  rw [hindex, hmemory] at hlength
  cases hlength

end OverSync.EventHistory
