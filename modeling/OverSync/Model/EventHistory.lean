import OverSync.Library.Execution
import Mathlib.Data.List.Sort
import Mathlib.Data.Rat.Floor
import Mathlib.Logic.Function.Basic

/-! # The event history of the relayer

`EventHistoryManager` of the relayer: its memory, the index maps beside it and its queries.
Numbers are rationals. -/

namespace OverSync.EventHistory

open Function Library

inductive EventType where
  | orderCreated
  | orderInvalid
  | orderBalanceChange
  | orderAllowanceChange
  | orderFilled
  | orderFilledPartially
  | orderCancelled
  | secretShared
  | progressUpdate
  | recommendationGenerated
  | fragmentReady
  | recovery
  deriving DecidableEq, Repr

def EventType.text : EventType → String
  | .orderCreated => "order_created"
  | .orderInvalid => "order_invalid"
  | .orderBalanceChange => "order_balance_change"
  | .orderAllowanceChange => "order_allowance_change"
  | .orderFilled => "order_filled"
  | .orderFilledPartially => "order_filled_partially"
  | .orderCancelled => "order_cancelled"
  | .secretShared => "secret_shared"
  | .progressUpdate => "progress_update"
  | .recommendationGenerated => "recommendation_generated"
  | .fragmentReady => "fragment_ready"
  | .recovery => "recovery"

/-- An event object. `includes` compares objects, not what is in them, so an event carries the
`ref` of its object. -/
structure EventMessage where
  ref : ℕ
  eventId : String
  eventType : EventType
  timestamp : ℚ
  orderHash : Option String
  resolver : Option String
  chainId : Option ℚ
  deriving DecidableEq, Repr

/-! The metadata that counts as present. -/

def EventMessage.orderHashKey (event : EventMessage) : Option String :=
  event.orderHash.filter (· ≠ "")

def EventMessage.resolverKey (event : EventMessage) : Option String :=
  event.resolver.filter (· ≠ "")

def EventMessage.chainIdKey (event : EventMessage) : Option ℚ :=
  event.chainId.filter (· ≠ 0)

structure EventHistoryConfig where
  maxMemoryEvents : ℚ
  indexingEnabled : Bool

/-- The maps of the index; a key that is absent has no events. -/
structure EventIndex where
  byOrderHash : String → List EventMessage
  byResolver : String → List EventMessage
  byChainId : ℚ → List EventMessage
  byEventType : EventType → List EventMessage
  byTimeRange : String → List EventMessage

def EventIndex.empty : EventIndex :=
  ⟨fun _ => [], fun _ => [], fun _ => [], fun _ => [], fun _ => []⟩

inductive SortBy where
  | timestamp
  | eventType
  | orderHash
  deriving DecidableEq, Repr

inductive SortOrder where
  | asc
  | desc
  deriving DecidableEq, Repr

structure TimeRange where
  start : ℚ
  stop : ℚ
  deriving DecidableEq, Repr

structure EventQuery where
  eventTypes : Option (List EventType)
  orderHashes : Option (List String)
  resolvers : Option (List String)
  chainIds : Option (List ℚ)
  timeRange : Option TimeRange
  limit : Option ℚ
  offset : Option ℚ
  sortBy : Option SortBy
  sortOrder : Option SortOrder
  deriving DecidableEq, Repr

structure Pagination where
  total : ℕ
  limit : ℚ
  offset : ℚ
  hasMore : Bool
  deriving DecidableEq, Repr

structure QueryResult where
  events : List EventMessage
  pagination : Pagination
  deriving DecidableEq, Repr

/-- `dayKey t` is `new Date(t).toISOString().slice(0, 10)`, `none` where that throws. -/
structure Environment where
  dayKey : ℚ → Option String

/-- The events in memory and the index. What was added and what was written to files are kept
for the record. -/
structure State where
  memoryEvents : List EventMessage
  eventIndex : EventIndex
  added : List EventMessage
  persisted : List (List EventMessage)

def State.start : State :=
  ⟨[], .empty, [], []⟩

variable (E : Environment) (config : EventHistoryConfig)

/-! ## `addEvent` -/

/-- The event is pushed to the list of its key, if it has one. -/
def push {κ : Type} [DecidableEq κ] (map : κ → List EventMessage) (key : Option κ)
    (event : EventMessage) : κ → List EventMessage :=
  match key with
  | none => map
  | some k => update map k (map k ++ [event])

/-- `updateIndex`; the last of the maps stays as it is if the day cannot be written. -/
def updateIndex (event : EventMessage) (index : EventIndex) : EventIndex where
  byEventType := push index.byEventType (some event.eventType) event
  byOrderHash := push index.byOrderHash event.orderHashKey event
  byResolver := push index.byResolver event.resolverKey event
  byChainId := push index.byChainId event.chainIdKey event
  byTimeRange := push index.byTimeRange (E.dayKey event.timestamp) event

/-- How many events `splice` takes out. -/
def oldestCount : ℕ :=
  ⌊config.maxMemoryEvents / 2⌋.toNat

def State.persistOldestEvents (s : State) : State :=
  { s with
    memoryEvents := s.memoryEvents.drop (oldestCount config)
    persisted := s.persisted ++ [s.memoryEvents.take (oldestCount config)] }

/-- The check of the memory limit. -/
def State.checkLimit (s : State) : State :=
  if config.maxMemoryEvents < s.memoryEvents.length then s.persistOldestEvents config else s

/-- `addEvent`. It throws after the other maps of the index if the day cannot be written, and
does not come to the check of the limit. -/
def State.addEvent (event : EventMessage) (s : State) : State :=
  let s := { s with memoryEvents := s.memoryEvents ++ [event], added := s.added ++ [event] }
  if config.indexingEnabled then
    let s := { s with eventIndex := updateIndex E event s.eventIndex }
    match E.dayKey event.timestamp with
    | none => s
    | some _ => s.checkLimit config
  else s.checkLimit config

/-! ## `queryEvents` -/

/-- One filter of `queryFromIndex`: the first list of events is taken as it is, a later one
narrows what is there. -/
def narrow {κ : Type} (map : κ → List EventMessage) (keys : Option (List κ))
    (events : List EventMessage) : List EventMessage :=
  match keys with
  | none | some [] => events
  | some (key :: keys) =>
    let found := (key :: keys).flatMap map
    if events.length = 0 then found else events.filter fun e => found.contains e

/-- The events that the filters leave, without the return to all of them. -/
def indexed (index : EventIndex) (query : EventQuery) : List EventMessage :=
  narrow index.byChainId query.chainIds
    (narrow index.byResolver query.resolvers
      (narrow index.byEventType query.eventTypes
        (narrow index.byOrderHash query.orderHashes [])))

/-- `queryFromIndex`, and whether it returns the memory itself. -/
def queryFromIndex (s : State) (query : EventQuery) : List EventMessage × Bool :=
  let events := indexed s.eventIndex query
  if events.length = 0 then (s.memoryEvents, true) else (events, false)

/-- A listed key rules out the events that have another one. -/
def admits {κ : Type} [DecidableEq κ] (keys : Option (List κ)) (key : Option κ) : Bool :=
  match keys, key with
  | some keys, some key => keys.contains key
  | _, _ => true

/-- The conditions of `queryFromMemory`. -/
def passes (query : EventQuery) (event : EventMessage) : Bool :=
  admits query.eventTypes (some event.eventType) &&
  admits query.orderHashes event.orderHashKey &&
  admits query.resolvers event.resolverKey &&
  admits query.chainIds event.chainIdKey &&
  match query.timeRange with
  | some range => range.start ≤ event.timestamp && event.timestamp ≤ range.stop
  | none => true

def queryFromMemory (s : State) (query : EventQuery) : List EventMessage :=
  s.memoryEvents.filter (passes query)

/-- The UTF-16 units of a string, by which strings compare. -/
def utf16 (s : String) : List ℕ :=
  s.toList.flatMap fun c =>
    if c.toNat < 0x10000 then [c.toNat]
    else [0xD800 + (c.toNat - 0x10000) / 0x400, 0xDC00 + (c.toNat - 0x10000) % 0x400]

/-! `a < b ? -1 : a > b ? 1 : 0` of numbers and of strings. -/

def compareNumbers (a b : ℚ) : ℤ :=
  if a < b then -1 else if b < a then 1 else 0

def compareUnits : List ℕ → List ℕ → ℤ
  | [], [] => 0
  | [], _ :: _ => -1
  | _ :: _, [] => 1
  | a :: as, b :: bs => if a < b then -1 else if b < a then 1 else compareUnits as bs

def compareStrings (a b : String) : ℤ :=
  compareUnits (utf16 a) (utf16 b)

def comparison (sortBy : SortBy) (a b : EventMessage) : ℤ :=
  match sortBy with
  | .timestamp => compareNumbers a.timestamp b.timestamp
  | .eventType => compareStrings a.eventType.text b.eventType.text
  | .orderHash => compareStrings (a.orderHash.getD "") (b.orderHash.getD "")

/-- What the function given to `sort` returns. -/
def sortComparison (sortBy : SortBy) (sortOrder : SortOrder) (a b : EventMessage) : ℤ :=
  match sortOrder with
  | .asc => comparison sortBy a b
  | .desc => -comparison sortBy a b

def NotAfter (sortBy : SortBy) (sortOrder : SortOrder) (a b : EventMessage) : Prop :=
  sortComparison sortBy sortOrder a b ≤ 0

instance (sortBy : SortBy) (sortOrder : SortOrder) :
    DecidableRel (NotAfter sortBy sortOrder) :=
  fun _ _ => inferInstanceAs (Decidable (_ ≤ _))

/-- `sortEvents`. As `sort` is stable, which stable sort it is makes no difference. -/
def sortEvents (events : List EventMessage) (sortBy : SortBy) (sortOrder : SortOrder) :
    List EventMessage :=
  events.insertionSort (NotAfter sortBy sortOrder)

/-- A number of a query, where 0 stands for the default. -/
def orDefault (number : Option ℚ) (default : ℚ) : ℚ :=
  match number with
  | none => default
  | some n => if n = 0 then default else n

/-- An index of `slice`: the fraction goes, a negative one counts from the end. -/
def sliceIndex (length : ℕ) (index : ℚ) : ℕ :=
  let integer := if 0 ≤ index then ⌊index⌋ else ⌈index⌉
  if 0 ≤ integer then integer.toNat else (length + integer).toNat

def slice (events : List EventMessage) (start stop : ℚ) : List EventMessage :=
  (events.take (sliceIndex events.length stop)).drop (sliceIndex events.length start)

/-- The page of a query and its pagination. -/
def paginate (events : List EventMessage) (query : EventQuery) : QueryResult :=
  let offset := orDefault query.offset 0
  let limit := orDefault query.limit 100
  { events := slice events offset (offset + limit)
    pagination := ⟨events.length, limit, offset, offset + limit < events.length⟩ }

/-- `queryEvents`. The sort is in place, so it reaches the memory where that is what is
sorted. -/
def State.queryEvents (query : EventQuery) (s : State) : QueryResult × State :=
  let sort (events : List EventMessage) :=
    sortEvents events (query.sortBy.getD .timestamp) (query.sortOrder.getD .desc)
  if config.indexingEnabled then
    match queryFromIndex s query with
    | (events, true) => (paginate (sort events) query, { s with memoryEvents := sort events })
    | (events, false) => (paginate (sort events) query, s)
  else (paginate (sort (queryFromMemory s query)) query, s)

inductive Call where
  | addEvent (event : EventMessage)
  | queryEvents (query : EventQuery)

def run (call : Call) (s : State) : State :=
  match call with
  | .addEvent event => s.addEvent E config event
  | .queryEvents query => (s.queryEvents config query).2

end OverSync.EventHistory
