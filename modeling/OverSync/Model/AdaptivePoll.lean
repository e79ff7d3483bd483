import Mathlib.Data.List.Basic

/-! # The adaptive poll loop of the relayer

`startAdaptivePoll` with the timers of the event loop around it. A run waits at `await tick()`
until the promise is settled and then once more until the event loop resumes it; in between
anything else may happen. -/

namespace OverSync.AdaptivePoll

structure AdaptivePollOptions where
  activeIntervalMs : ℕ
  idleIntervalMs : ℕ := 120000
  deriving DecidableEq, Repr

/-- A timer that has been set and has neither fired nor been cleared. -/
structure Timer where
  id : ℕ
  delayMs : ℕ
  deriving DecidableEq, Repr

inductive Settlement where
  | resolved
  | rejected
  deriving DecidableEq, Repr

/-- A run at `await tick()`, with the answers it began with. -/
structure Run where
  active : Bool
  attentive : Bool
  settlement : Option Settlement
  deriving DecidableEq, Repr

/-- What can be seen from outside. -/
inductive Happening where
  | timerSet
  /-- A pending timer fires or is cleared. -/
  | timerGone
  | tickStarted
  | tickEnded
  | stopCalled
  | warned
  deriving DecidableEq, Repr

/-- The variables of the loop, the event loop, and all that has happened, oldest first. -/
structure State where
  stopped : Bool
  timer : Option ℕ
  running : Bool
  pending : List Timer
  created : ℕ
  awaiting : List Run
  log : List Happening
  deriving DecidableEq, Repr

def State.note (happening : Happening) (s : State) : State :=
  { s with log := s.log ++ [happening] }

/-! ## Timers -/

/-- `timer = setTimeout(…, delayMs)` -/
def setTimer (delayMs : ℕ) (s : State) : State :=
  { s with
    timer := some s.created
    pending := s.pending ++ [Timer.mk s.created delayMs]
    created := s.created + 1 }.note .timerSet

/-- A timer leaves the event loop, if it is still there. -/
def removeTimer (id : ℕ) (s : State) : State :=
  if s.pending.any fun t => t.id = id then
    { s with pending := s.pending.filter fun t => t.id ≠ id }.note .timerGone
  else s

/-- `if (timer) clearTimeout(timer)` -/
def clearTimer (s : State) : State :=
  match s.timer with
  | some id => removeTimer id s
  | none => s

/-! ## The loop -/

def schedule (delayMs : ℕ) (s : State) : State :=
  if s.stopped then s else setTimer delayMs s

def stop (s : State) : State :=
  clearTimer ({ s with stopped := true }.note .stopCalled)

def wake (s : State) : State :=
  if s.stopped || s.running then s else schedule 0 (clearTimer s)

/-- The two functions of the handle. -/
inductive HandleCall where
  | stop
  | wake
  deriving DecidableEq, Repr

def HandleCall.perform : HandleCall → State → State
  | .stop => AdaptivePoll.stop
  | .wake => AdaptivePoll.wake

variable (options : AdaptivePollOptions)

/-- The `finally` block. -/
def finish (active attentive : Bool) (s : State) : State :=
  schedule (if active || attentive then options.activeIntervalMs else options.idleIntervalMs)
    { s with running := false }

/-- What `tick()` does before it first waits: calls of the handle, and perhaps an exception. -/
structure TickCall where
  calls : List HandleCall
  throws : Bool
  deriving DecidableEq, Repr

/-- `run()` up to its end or to `await tick()`. -/
def run (active attentive : Bool) (tick : TickCall) (s : State) : State :=
  if s.stopped || s.running then s
  else
    let s := { s with running := true }
    if active then
      let s := tick.calls.foldl (fun s call => call.perform s) (s.note .tickStarted)
      if tick.throws then
        finish options active attentive ((s.note .tickEnded).note .warned)
      else { s with awaiting := s.awaiting ++ [Run.mk active attentive none] }
    else finish options active attentive s

/-- The state `startAdaptivePoll` leaves behind. -/
def start : State :=
  schedule 0
    { stopped := false, timer := none, running := false, pending := [], created := 0
      awaiting := [], log := [] }

/-! ## The event loop -/

inductive Event where
  /-- A pending timer fires; the answers of `isActive` and `isAttentive`, and what `tick` does. -/
  | fire (id : ℕ) (active attentive : Bool) (tick : TickCall)
  | call (call : HandleCall)
  /-- The promise of a waiting run is settled. -/
  | settle (index : ℕ) (settlement : Settlement)
  /-- A run whose promise is settled goes on. -/
  | resume (index : ℕ)
  deriving DecidableEq, Repr

/-- `none` where the event cannot happen. -/
def step (s : State) : Event → Option State
  | .fire id active attentive tick =>
    if s.pending.any fun t => t.id = id then
      some (run options active attentive tick (removeTimer id s))
    else none
  | .call call => some (call.perform s)
  | .settle index settlement =>
    match s.awaiting[index]? with
    | some r =>
      if r.settlement = none then
        some ({ s with
          awaiting := s.awaiting.set index { r with settlement } }.note .tickEnded)
      else none
    | none => none
  | .resume index =>
    match s.awaiting[index]? with
    | some r =>
      let s := { s with awaiting := s.awaiting.eraseIdx index }
      match r.settlement with
      | some .resolved => some (finish options r.active r.attentive s)
      | some .rejected => some (finish options r.active r.attentive (s.note .warned))
      | none => none
    | none => none

def Step (s : State) (event : Event) (s' : State) : Prop := step options s event = some s'

end OverSync.AdaptivePoll
