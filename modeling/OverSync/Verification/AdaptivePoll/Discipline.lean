import Mathlib.Data.List.Induction
import OverSync.Library.Execution
import OverSync.Model.AdaptivePoll

/-! # One timer or one run

A monitor reads what happens in the loop: it lets a timer be set only where none is pending, and
a tick begin only where none is in progress and nobody has called `stop`. -/

namespace OverSync.AdaptivePoll

open Library

/-! ## The monitor -/

structure Monitor where
  armed : Bool
  ticking : Bool
  stopped : Bool
  deriving DecidableEq, Repr

/-- `none` is a breach. -/
def Monitor.observe (m : Monitor) : Happening → Option Monitor
  | .timerSet => if m.armed then none else some { m with armed := true }
  | .timerGone => if m.armed then some { m with armed := false } else none
  | .tickStarted => if m.ticking || m.stopped then none else some { m with ticking := true }
  | .tickEnded => if m.ticking then some { m with ticking := false } else none
  | .stopCalled => some { m with stopped := true }
  | .warned => some m

def watch (log : List Happening) : Option Monitor :=
  log.foldlM Monitor.observe ⟨false, false, false⟩

theorem watch_append (log more : List Happening) :
    watch (log ++ more) = (watch log).bind fun m => more.foldlM Monitor.observe m :=
  List.foldlM_append

theorem watch_snoc (log : List Happening) (happening : Happening) :
    watch (log ++ [happening]) = (watch log).bind fun m => m.observe happening := by
  rw [watch_append]
  congr 1
  funext m
  simp

/-- What the monitor knows is what the log says. -/
structure Tally (log : List Happening) (m : Monitor) : Prop where
  timers : log.count .timerSet = log.count .timerGone + m.armed.toNat
  ticks : log.count .tickStarted = log.count .tickEnded + m.ticking.toNat
  stopped : m.stopped = true ↔ .stopCalled ∈ log

theorem Tally.observe {log : List Happening} {m m' : Monitor} {happening : Happening}
    (h : Tally log m) (hobserve : m.observe happening = some m') :
    Tally (log ++ [happening]) m' := by
  obtain ⟨htimers, hticks, hstopped⟩ := h
  cases happening with
  | timerSet =>
      obtain ⟨harmed, rfl⟩ : m.armed = false ∧ { m with armed := true } = m' := by
        simpa [Monitor.observe] using hobserve
      refine ⟨?_, ?_, by simpa using hstopped⟩
      · simp [htimers, harmed]
      · simpa using hticks
  | timerGone =>
      obtain ⟨harmed, rfl⟩ : m.armed = true ∧ { m with armed := false } = m' := by
        simpa [Monitor.observe] using hobserve
      refine ⟨?_, ?_, by simpa using hstopped⟩
      · simp [htimers, harmed]
      · simpa using hticks
  | tickStarted =>
      obtain ⟨⟨hticking, -⟩, rfl⟩ : (m.ticking = false ∧ m.stopped = false) ∧
          { m with ticking := true } = m' := by
        simpa [Monitor.observe] using hobserve
      refine ⟨?_, ?_, by simpa using hstopped⟩
      · simpa using htimers
      · simp [hticks, hticking]
  | tickEnded =>
      obtain ⟨hticking, rfl⟩ : m.ticking = true ∧ { m with ticking := false } = m' := by
        simpa [Monitor.observe] using hobserve
      refine ⟨?_, ?_, by simpa using hstopped⟩
      · simpa using htimers
      · simp [hticks, hticking]
  | stopCalled =>
      obtain rfl : { m with stopped := true } = m' := Option.some.inj hobserve
      refine ⟨?_, ?_, by simp⟩
      · simpa using htimers
      · simpa using hticks
  | warned =>
      obtain rfl : m = m' := Option.some.inj hobserve
      refine ⟨?_, ?_, by simpa using hstopped⟩
      · simpa using htimers
      · simpa using hticks

theorem tally_of_watch {log : List Happening} {m : Monitor} (h : watch log = some m) :
    Tally log m := by
  induction log using List.reverseRecOn generalizing m with
  | nil =>
      obtain rfl := Option.some.inj h
      exact ⟨rfl, rfl, by simp⟩
  | append_singleton log happening ih =>
      rw [watch_snoc] at h
      obtain ⟨m', hbefore, hobserve⟩ := Option.bind_eq_some_iff.mp h
      exact (ih hbefore).observe hobserve

/-- A log without a breach has none in the past. -/
theorem watch_prefix {log past : List Happening} {m : Monitor} (h : watch log = some m)
    (hpast : past <+: log) : ∃ m', watch past = some m' := by
  obtain ⟨rest, rfl⟩ := hpast
  rw [watch_append] at h
  obtain ⟨m', hm', -⟩ := Option.bind_eq_some_iff.mp h
  exact ⟨m', hm'⟩

theorem not_stopped_of_tickStarted {past rest : List Happening} {m : Monitor}
    (h : watch (past ++ .tickStarted :: rest) = some m) : .stopCalled ∉ past := by
  have hpast : past ++ [.tickStarted] <+: past ++ .tickStarted :: rest := ⟨rest, by simp⟩
  obtain ⟨after, hafter⟩ := watch_prefix h hpast
  rw [watch_snoc] at hafter
  obtain ⟨m', hpast, hobserve⟩ := Option.bind_eq_some_iff.mp hafter
  intro hmem
  have hstopped := (tally_of_watch hpast).stopped.mpr hmem
  simp [Monitor.observe, hstopped] at hobserve

/-! ## The state between two events -/

/-- A run is at work, and no timer is pending. -/
structure Busy (s : State) (ticking : Bool) (awaiting : List Run) : Prop where
  running : s.running = true
  pending : s.pending = []
  awaiting_eq : s.awaiting = awaiting
  watched : watch s.log = some ⟨false, ticking, s.stopped⟩

inductive Inv : State → Prop where
  | waiting {s : State} {t : Timer} : s.stopped = false → s.running = false → s.pending = [t] →
      s.timer = some t.id → s.awaiting = [] → watch s.log = some ⟨true, false, false⟩ → Inv s
  | running {s : State} {r : Run} : Busy s (r.settlement = none) [r] → Inv s
  | ended {s : State} : s.stopped = true → s.running = false → s.pending = [] →
      s.awaiting = [] → watch s.log = some ⟨false, false, true⟩ → Inv s

theorem clearTimer_of_empty {s : State} (h : s.pending = []) : clearTimer s = s := by
  unfold clearTimer removeTimer
  cases s.timer with
  | none => rfl
  | some id => simp [h]

theorem clearTimer_of_pending {s : State} {t : Timer} (hpending : s.pending = [t])
    (htimer : s.timer = some t.id) :
    clearTimer s = { s with pending := [], log := s.log ++ [.timerGone] } := by
  simp [clearTimer, htimer, removeTimer, hpending, State.note]

theorem inv_setTimer {s : State} (delayMs : ℕ) (hstopped : s.stopped = false)
    (hrunning : s.running = false) (hpending : s.pending = []) (hawaiting : s.awaiting = [])
    (hwatched : watch s.log = some ⟨false, false, false⟩) : Inv (setTimer delayMs s) := by
  refine .waiting (t := ⟨s.created, delayMs⟩) hstopped hrunning ?_ rfl hawaiting ?_
  · simp [setTimer, State.note, hpending]
  · rw [setTimer, State.note, watch_snoc]
    simp [hwatched, Monitor.observe]

variable {options : AdaptivePollOptions} {s s' : State}

theorem inv_start : Inv start :=
  inv_setTimer 0 rfl rfl rfl rfl rfl

/-! ## One event -/

theorem Busy.call {ticking : Bool} {awaiting : List Run} (h : Busy s ticking awaiting)
    (call : HandleCall) : Busy (call.perform s) ticking awaiting := by
  cases call with
  | wake =>
      have hwake : wake s = s := by
        rw [wake, h.running, Bool.or_true, if_pos rfl]
      rwa [HandleCall.perform, hwake]
  | stop =>
      have hstop : stop s = { s with stopped := true }.note .stopCalled :=
        clearTimer_of_empty h.pending
      rw [HandleCall.perform, hstop]
      refine ⟨h.running, h.pending, h.awaiting_eq, ?_⟩
      rw [State.note, watch_snoc, h.watched]
      rfl

theorem Busy.calls {ticking : Bool} {awaiting : List Run} (calls : List HandleCall)
    (h : Busy s ticking awaiting) :
    Busy (calls.foldl (fun s call => call.perform s) s) ticking awaiting := by
  induction calls generalizing s with
  | nil => exact h
  | cons call calls ih => exact ih (h.call call)

theorem schedule_of_stopped {delayMs : ℕ} (h : s.stopped = true) : schedule delayMs s = s :=
  if_pos h

theorem schedule_of_live {delayMs : ℕ} (h : s.stopped = false) :
    schedule delayMs s = setTimer delayMs s :=
  if_neg (by rw [h]; exact Bool.false_ne_true)

theorem inv_schedule (delayMs : ℕ) (hrunning : s.running = false) (hpending : s.pending = [])
    (hawaiting : s.awaiting = []) (hwatched : watch s.log = some ⟨false, false, s.stopped⟩) :
    Inv (schedule delayMs s) := by
  rcases Bool.eq_false_or_eq_true s.stopped with hstopped | hstopped
  · rw [schedule_of_stopped hstopped]
    exact .ended hstopped hrunning hpending hawaiting (hstopped ▸ hwatched)
  · rw [schedule_of_live hstopped]
    exact inv_setTimer _ hstopped hrunning hpending hawaiting (hstopped ▸ hwatched)

theorem Busy.finish (h : Busy s false []) (active attentive : Bool) :
    Inv (finish options active attentive s) :=
  inv_schedule _ rfl h.pending h.awaiting_eq h.watched

theorem Busy.warned {ticking : Bool} {awaiting : List Run} (h : Busy s ticking awaiting) :
    Busy (s.note .warned) ticking awaiting := by
  refine ⟨h.running, h.pending, h.awaiting_eq, ?_⟩
  rw [State.note, watch_snoc, h.watched]
  rfl

theorem Busy.tickEnded {awaiting : List Run} (h : Busy s true awaiting) :
    Busy (s.note .tickEnded) false awaiting := by
  refine ⟨h.running, h.pending, h.awaiting_eq, ?_⟩
  rw [State.note, watch_snoc, h.watched]
  rfl

/-- A run that no other run is ahead of. -/
theorem inv_run (hstopped : s.stopped = false) (hrunning : s.running = false)
    (hpending : s.pending = []) (hawaiting : s.awaiting = [])
    (hwatched : watch s.log = some ⟨false, false, false⟩) (active attentive : Bool)
    (tick : TickCall) : Inv (run options active attentive tick s) := by
  have hbusy : Busy { s with running := true } false [] :=
    ⟨rfl, hpending, hawaiting, by rw [hwatched, hstopped]⟩
  have hidle : ¬(s.stopped || s.running) = true := by simp [hstopped, hrunning]
  unfold run
  rw [if_neg hidle]
  cases active with
  | false => exact hbusy.finish false attentive
  | true =>
      have hstarted : Busy ({ s with running := true }.note .tickStarted) true [] := by
        refine ⟨rfl, hpending, hawaiting, ?_⟩
        rw [State.note, watch_snoc, hwatched]
        simp [Monitor.observe, hstopped]
      have hcalled := hstarted.calls tick.calls
      by_cases hthrows : tick.throws = true
      · simp only [hthrows, if_true]
        exact hcalled.tickEnded.warned.finish true attentive
      · simp only [hthrows, if_true]
        refine .running (r := ⟨true, attentive, none⟩) ?_
        refine ⟨hcalled.running, hcalled.pending, ?_, hcalled.watched⟩
        simp [hcalled.awaiting_eq]

theorem inv_call (h : Inv s) (call : HandleCall) : Inv (call.perform s) := by
  cases h with
  | @waiting t hstopped hrunning hpending htimer hawaiting hwatched =>
      have hcleared : watch (s.log ++ [.timerGone]) = some ⟨false, false, false⟩ := by
        rw [watch_snoc, hwatched]
        rfl
      cases call with
      | wake =>
          have hidle : ¬(s.stopped || s.running) = true := by simp [hstopped, hrunning]
          rw [HandleCall.perform, wake, if_neg hidle, clearTimer_of_pending hpending htimer]
          exact inv_schedule 0 hrunning rfl hawaiting (hstopped ▸ hcleared)
      | stop =>
          have hstop : stop s = { { s with stopped := true }.note .stopCalled with
              pending := []
              log := (s.log ++ [.stopCalled]) ++ [.timerGone] } :=
            clearTimer_of_pending hpending htimer
          rw [HandleCall.perform, hstop]
          refine .ended rfl hrunning rfl hawaiting ?_
          rw [watch_snoc, watch_snoc, hwatched]
          rfl
  | running hbusy => exact .running (hbusy.call call)
  | ended hstopped hrunning hpending hawaiting hwatched =>
      cases call with
      | wake =>
          rw [HandleCall.perform, wake, hstopped, Bool.true_or, if_pos rfl]
          exact .ended hstopped hrunning hpending hawaiting hwatched
      | stop =>
          have hstop : stop s = { s with stopped := true }.note .stopCalled :=
            clearTimer_of_empty hpending
          rw [HandleCall.perform, hstop]
          refine .ended rfl hrunning hpending hawaiting ?_
          rw [State.note, watch_snoc, hwatched]
          rfl

/-- A run that waits is the only one. -/
theorem inv_awaiting (h : Inv s) {index : ℕ} {r : Run} (hr : s.awaiting[index]? = some r) :
    index = 0 ∧ Busy s (r.settlement = none) [r] := by
  cases h with
  | waiting _ _ _ _ hawaiting _ => simp [hawaiting] at hr
  | ended _ _ _ hawaiting _ => simp [hawaiting] at hr
  | @running r' hbusy =>
      rw [hbusy.awaiting_eq, List.getElem?_singleton] at hr
      split_ifs at hr with hindex
      obtain rfl := Option.some.inj hr
      exact ⟨hindex, hbusy⟩

theorem inv_step {event : Event} (h : Inv s) (hstep : Step options s event s') : Inv s' := by
  unfold Step step at hstep
  cases event with
  | fire id active attentive tick =>
      simp only at hstep
      split_ifs at hstep with hid
      obtain rfl := Option.some.inj hstep
      cases h with
      | @waiting t hstopped hrunning hpending htimer hawaiting hwatched =>
          obtain rfl : t.id = id := by simpa [hpending] using hid
          have hfired : removeTimer t.id s =
              { s with pending := [], log := s.log ++ [.timerGone] } := by
            simp [removeTimer, hpending, State.note]
          have hquiet : watch (s.log ++ [.timerGone]) = some ⟨false, false, false⟩ := by
            rw [watch_snoc, hwatched]
            rfl
          rw [hfired]
          exact inv_run (s := { s with pending := [], log := s.log ++ [.timerGone] })
            hstopped hrunning rfl hawaiting hquiet active attentive tick
      | running hbusy => simp [hbusy.pending] at hid
      | ended _ _ hpending _ _ => simp [hpending] at hid
  | call call =>
      obtain rfl := Option.some.inj hstep
      exact inv_call h call
  | settle index settlement =>
      simp only at hstep
      split at hstep
      · next r hr =>
          obtain ⟨rfl, hbusy⟩ := inv_awaiting h hr
          split_ifs at hstep with hopen
          obtain rfl := Option.some.inj hstep
          have hticking : Busy s true [r] := by simpa [hopen] using hbusy
          have hsettled : Busy { s with awaiting := s.awaiting.set 0 { r with settlement } } true
              [{ r with settlement }] :=
            ⟨hbusy.running, hbusy.pending, by simp [hbusy.awaiting_eq], hticking.watched⟩
          exact .running (r := { r with settlement }) (by simpa using hsettled.tickEnded)
      · contradiction
  | resume index =>
      simp only at hstep
      split at hstep
      · next r hr =>
          obtain ⟨rfl, hbusy⟩ := inv_awaiting h hr
          have hresumed : r.settlement ≠ none →
              Busy { s with awaiting := s.awaiting.eraseIdx 0 } false [] := fun hsettled =>
            ⟨hbusy.running, hbusy.pending, by simp [hbusy.awaiting_eq],
              by simpa [hsettled] using hbusy.watched⟩
          split at hstep
          · next hsettled =>
              obtain rfl := Option.some.inj hstep
              exact (hresumed (by simp [hsettled])).finish _ _
          · next hsettled =>
              obtain rfl := Option.some.inj hstep
              exact (hresumed (by simp [hsettled])).warned.finish _ _
          · contradiction
      · contradiction

/-! ## Every run -/

theorem inv_of_execution {events : List Event}
    (h : Execution (Step options) start events s) : Inv s :=
  h.invariant inv_start inv_step

theorem Inv.watched (h : Inv s) : ∃ m, watch s.log = some m ∧ m.stopped = s.stopped := by
  cases h with
  | waiting hstopped _ _ _ _ hwatched => exact ⟨_, hwatched, hstopped.symm⟩
  | running hbusy => exact ⟨_, hbusy.watched, rfl⟩
  | ended hstopped _ _ _ hwatched => exact ⟨_, hwatched, hstopped.symm⟩

/-- In every run of the loop, at every moment of it: ticks do not overlap, at most one timer is
pending, and no tick starts once `stop` has been called. Until then there is either one run or
one timer between two events. -/
theorem poll_discipline {events : List Event} (h : Execution (Step options) start events s) :
    (∀ past, past <+: s.log →
      past.count .tickStarted ≤ past.count .tickEnded + 1 ∧
      past.count .timerSet ≤ past.count .timerGone + 1) ∧
    (∀ past rest, s.log = past ++ .tickStarted :: rest → .stopCalled ∉ past) ∧
    s.pending.length ≤ 1 ∧ s.awaiting.length ≤ 1 ∧
    (.stopCalled ∉ s.log →
      (s.awaiting.length = 1 ∧ s.pending = []) ∨ (s.awaiting = [] ∧ s.pending.length = 1)) := by
  have hinv := inv_of_execution h
  obtain ⟨m, hwatched, hstopped⟩ := hinv.watched
  refine ⟨fun past hpast => ?_, fun past rest hlog => ?_, ?_, ?_, fun hcalled => ?_⟩
  · obtain ⟨m', hm'⟩ := watch_prefix hwatched hpast
    obtain ⟨htimers, hticks, -⟩ := tally_of_watch hm'
    have harmed := m'.armed.toNat_le
    have hticking := m'.ticking.toNat_le
    omega
  · rw [hlog] at hwatched
    exact not_stopped_of_tickStarted hwatched
  · cases hinv with
    | waiting _ _ hpending _ _ _ => simp [hpending]
    | running hbusy => simp [hbusy.pending]
    | ended _ _ hpending _ _ => simp [hpending]
  · cases hinv with
    | waiting _ _ _ _ hawaiting _ => simp [hawaiting]
    | running hbusy => simp [hbusy.awaiting_eq]
    | ended _ _ _ hawaiting _ => simp [hawaiting]
  · have hlive : s.stopped ≠ true := by
      rw [← hstopped]
      exact mt (tally_of_watch hwatched).stopped.mp hcalled
    cases hinv with
    | waiting _ _ hpending _ hawaiting _ => exact .inr ⟨hawaiting, by simp [hpending]⟩
    | running hbusy => exact .inl ⟨by simp [hbusy.awaiting_eq], hbusy.pending⟩
    | ended hover _ _ _ _ => exact absurd hover hlive

/-- The first tick wakes its own loop and is rejected; the loop is woken once more and stopped. -/
def wokenEvents : List Event :=
  [.fire 0 true false ⟨[.wake], false⟩, .settle 0 .rejected, .resume 0, .call .wake, .call .stop]

theorem wokenEvents_discipline : ∃ s, Execution (Step { activeIntervalMs := 5000 }) start
    wokenEvents s ∧ s.stopped = true ∧ s.pending.length ≤ 1 ∧
    ∀ past rest, s.log = past ++ .tickStarted :: rest → .stopCalled ∉ past := by
  have hrun : ∃ s, Execution (Step { activeIntervalMs := 5000 }) start wokenEvents s ∧
      s.stopped = true :=
    ⟨_, .cons rfl (.cons rfl (.cons rfl (.cons rfl (.cons rfl .refl)))), rfl⟩
  obtain ⟨s, hexecution, hstopped⟩ := hrun
  obtain ⟨-, hstarted, hpending, -⟩ := poll_discipline hexecution
  exact ⟨s, hexecution, hstopped, hpending, hstarted⟩

end OverSync.AdaptivePoll
