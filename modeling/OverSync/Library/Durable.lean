import OverSync.Library.Execution

/-! # Processes that crash and recover

A process handles one event after another. Each event runs to completion and issues its
effects in order; the effects act on the durable part of the world. A crash may cut the
effects of an event anywhere, and the process then starts again from the durable part. -/

namespace OverSync.Library

variable {Volatile Durable Event Effect : Type*}

/-- `handle` is `none` where the event cannot happen. -/
structure Machine (Volatile Durable Event Effect : Type*) where
  handle : Event → Volatile → Durable → Option (Volatile × List Effect)
  apply : Durable → Effect → Durable
  recover : Durable → Volatile

namespace Machine

/-- What a step leaves on record: an event with its effects, an event with the effects that were
issued before a crash, or a crash between two events. -/
inductive Label (Event Effect : Type*) where
  | ran (event : Event) (effects : List Effect)
  | cut (event : Event) (issued : List Effect)
  | restarted

def Label.effects : Label Event Effect → List Effect
  | .ran _ effects => effects
  | .cut _ issued => issued
  | .restarted => []

def Label.event : Label Event Effect → Option Event
  | .ran event _ => some event
  | .cut event _ => some event
  | .restarted => none

/-- The process crashes in the step. -/
def Label.crashed : Label Event Effect → Bool
  | .ran .. => false
  | .cut .. | .restarted => true

/-- All effects issued so far, oldest first. -/
def issued (labels : List (Label Event Effect)) : List Effect :=
  labels.flatMap Label.effects

variable (M : Machine Volatile Durable Event Effect)

/-- The durable part after some effects. -/
def applyAll (durable : Durable) (effects : List Effect) : Durable :=
  effects.foldl M.apply durable

@[simp] theorem applyAll_nil (durable : Durable) : M.applyAll durable [] = durable := rfl

@[simp] theorem applyAll_cons (durable : Durable) (effect : Effect) (effects : List Effect) :
    M.applyAll durable (effect :: effects) = M.applyAll (M.apply durable effect) effects := rfl

@[simp] theorem applyAll_append (durable : Durable) (front back : List Effect) :
    M.applyAll durable (front ++ back) = M.applyAll (M.applyAll durable front) back :=
  List.foldl_append

inductive Step : Volatile × Durable → Label Event Effect → Volatile × Durable → Prop where
  | ran {event v d v' effects} : M.handle event v d = some (v', effects) →
      Step (v, d) (.ran event effects) (v', M.applyAll d effects)
  | cut {event v d v' effects front} : M.handle event v d = some (v', effects) →
      front <+: effects →
      Step (v, d) (.cut event front) (M.recover (M.applyAll d front), M.applyAll d front)
  | restarted {v d} : Step (v, d) .restarted (M.recover d, d)

variable {M}

/-- A step with an event handles it, up to the effects that were issued. -/
theorem Step.handled {v : Volatile} {d : Durable} {w : Volatile × Durable}
    {label : Label Event Effect} {event : Event} (h : M.Step (v, d) label w)
    (hevent : label.event = some event) :
    ∃ result, M.handle event v d = some result ∧ label.effects <+: result.2 := by
  cases h with
  | ran hhandle =>
      cases hevent
      exact ⟨_, hhandle, List.prefix_refl _⟩
  | cut hhandle hfront =>
      cases hevent
      exact ⟨_, hhandle, hfront⟩
  | restarted => contradiction

/-- The invariant rule: `Live` holds while the process runs, `Saved` of the durable part at
every point where it may crash, and recovery turns `Saved` into `Live`. Both may speak about
the effects issued so far. -/
theorem invariant (Live : Volatile → Durable → List Effect → Prop)
    (Saved : Durable → List Effect → Prop) {w w' : Volatile × Durable}
    {labels : List (Label Event Effect)} (h : Execution M.Step w labels w')
    (hstart : Live w.1 w.2 [])
    (hsaved : ∀ {v d past}, Live v d past → Saved d past)
    (hrecover : ∀ {d past}, Saved d past → Live (M.recover d) d past)
    (hlive : ∀ {event v d past v' effects}, Live v d past →
      M.handle event v d = some (v', effects) →
      Live v' (M.applyAll d effects) (past ++ effects))
    (hcut : ∀ {event v d past v' effects front}, Live v d past →
      M.handle event v d = some (v', effects) → front <+: effects →
      Saved (M.applyAll d front) (past ++ front)) :
    Live w'.1 w'.2 (issued labels) := by
  refine h.history (P := fun past u => Live u.1 u.2 (issued past)) hstart ?_
  intro past u label v hu hstep
  have hissued : issued (past ++ [label]) = issued past ++ label.effects := by
    simp [issued]
  rw [hissued]
  cases hstep with
  | ran hhandle => exact hlive hu hhandle
  | cut hhandle hfront => exact hrecover (hcut hu hhandle hfront)
  | restarted =>
      simp only [Label.effects, List.append_nil]
      exact hrecover (hsaved hu)

/-! ## Conditions on events -/

variable (M) in
/-- The process in a world where an event happens only under a condition. -/
def guarded (ok : Event → Volatile → Durable → Bool) : Machine Volatile Durable Event Effect where
  handle event v d := if ok event v d then M.handle event v d else none
  apply := M.apply
  recover := M.recover

theorem guarded_handle {ok : Event → Volatile → Durable → Bool} {event : Event} {v : Volatile}
    {d : Durable} {result : Volatile × List Effect} :
    (M.guarded ok).handle event v d = some result ↔
      ok event v d ∧ M.handle event v d = some result := by
  simp [guarded]

/-! ## Scripts -/

/-- Handle an event, or crash once it has issued so many effects. -/
inductive Command (Event : Type*) where
  | run (event : Event)
  | cut (event : Event) (count : ℕ)

variable (M) in
/-- The labels and the state a script leads to; events that cannot happen are skipped. -/
def play : List (Command Event) → Volatile × Durable →
    List (Label Event Effect) × (Volatile × Durable)
  | [], w => ([], w)
  | .run event :: script, w =>
    match M.handle event w.1 w.2 with
    | none => play script w
    | some (v', effects) =>
      let rest := play script (v', M.applyAll w.2 effects)
      (.ran event effects :: rest.1, rest.2)
  | .cut event count :: script, w =>
    match M.handle event w.1 w.2 with
    | none => play script w
    | some (_, effects) =>
      let front := effects.take count
      let durable := M.applyAll w.2 front
      let rest := play script (M.recover durable, durable)
      (.cut event front :: rest.1, rest.2)

theorem play_execution (script : List (Command Event)) (w : Volatile × Durable) :
    Execution M.Step w (M.play script w).1 (M.play script w).2 := by
  induction script generalizing w with
  | nil => exact .refl
  | cons command script ih =>
      cases command with
      | run event =>
          simp only [play]
          split
          · exact ih w
          · rename_i hhandle
            exact (ih _).cons (.ran hhandle)
      | cut event count =>
          simp only [play]
          split
          · exact ih w
          · rename_i hhandle
            exact (ih _).cons (.cut hhandle (List.take_prefix _ _))

end Machine

end OverSync.Library
