import Mathlib.Data.List.Basic

/-! # Executions of labelled transition relations

An execution records the labels of its steps, oldest first, so that a property may
speak about the state reached and about everything that happened on the way. -/

namespace OverSync.Library

variable {State Label : Type*}

/-- `Execution step s labels t`: the labelled steps lead from `s` to `t`. -/
inductive Execution (step : State → Label → State → Prop) (s : State) :
    List Label → State → Prop where
  | refl : Execution step s [] s
  | snoc {labels t label u} : Execution step s labels t → step t label u →
      Execution step s (labels ++ [label]) u

variable {step : State → Label → State → Prop}

theorem Execution.single {s t : State} {label : Label} (h : step s label t) :
    Execution step s [label] t :=
  .snoc .refl h

theorem Execution.trans {s t u : State} {front back : List Label}
    (hfront : Execution step s front t) (hback : Execution step t back u) :
    Execution step s (front ++ back) u := by
  induction hback with
  | refl => simpa using hfront
  | snoc _ hstep ih =>
      rw [← List.append_assoc]
      exact .snoc ih hstep

theorem Execution.cons {s t u : State} {label : Label} {labels : List Label}
    (hstep : step s label t) (h : Execution step t labels u) :
    Execution step s (label :: labels) u :=
  (Execution.single hstep).trans h

/-- A property preserved by every step holds at the end of every execution. -/
theorem Execution.invariant {P : State → Prop} {s t : State} {labels : List Label}
    (h : Execution step s labels t) (hs : P s)
    (hstep : ∀ {u label v}, P u → step u label v → P v) : P t := by
  induction h with
  | refl => exact hs
  | snoc _ hlast ih => exact hstep ih hlast

/-- Steps may be taken to start in states that satisfy an invariant. -/
theorem Execution.strengthen {P : State → Prop} {s t : State} {labels : List Label}
    (h : Execution step s labels t) (hs : P s)
    (hstep : ∀ {u label v}, P u → step u label v → P v) :
    Execution (fun u label v => P u ∧ step u label v) s labels t := by
  induction h with
  | refl => exact .refl
  | snoc hinit hlast ih => exact .snoc ih ⟨hinit.invariant hs hstep, hlast⟩

/-- The invariant rule for properties of the state and of the labels so far. -/
theorem Execution.history {P : List Label → State → Prop} {s t : State} {labels : List Label}
    (h : Execution step s labels t) (hs : P [] s)
    (hstep : ∀ {past u label v}, P past u → step u label v → P (past ++ [label]) v) :
    P labels t := by
  induction h with
  | refl => exact hs
  | snoc _ hlast ih => exact hstep ih hlast

/-- An execution passes through the state reached by any prefix of its labels. -/
theorem Execution.split {s t : State} {front back : List Label}
    (h : Execution step s (front ++ back) t) :
    ∃ u, Execution step s front u ∧ Execution step u back t := by
  generalize hlabels : front ++ back = labels at h
  induction h generalizing back with
  | refl =>
      obtain ⟨rfl, rfl⟩ := List.append_eq_nil_iff.mp hlabels
      exact ⟨s, .refl, .refl⟩
  | @snoc labels t label u hinit hlast ih =>
      rcases List.eq_nil_or_concat back with rfl | ⟨rest, last, rfl⟩
      · rw [List.append_nil] at hlabels
        subst hlabels
        exact ⟨u, .snoc hinit hlast, .refl⟩
      · rw [List.concat_eq_append, ← List.append_assoc] at hlabels
        obtain ⟨hrest, hlabel⟩ := List.append_inj' hlabels rfl
        obtain ⟨v, hfront, hback⟩ := ih hrest
        rw [List.singleton_inj] at hlabel
        subst hlabel
        rw [List.concat_eq_append]
        exact ⟨v, hfront, .snoc hback hlast⟩

/-- The last label of an execution is the label of its last step. -/
theorem Execution.last_step {s u : State} {labels : List Label} {label : Label}
    (h : Execution step s (labels ++ [label]) u) :
    ∃ t, Execution step s labels t ∧ step t label u := by
  generalize hlabels : labels ++ [label] = all at h
  cases h with
  | refl => simp at hlabels
  | @snoc past t last _ hpast hlast =>
      obtain ⟨rfl, hlabel⟩ := List.append_inj' hlabels rfl
      rw [List.singleton_inj] at hlabel
      subst hlabel
      exact ⟨t, hpast, hlast⟩

theorem Execution.eq_of_nil {s t : State} (h : Execution step s [] t) : t = s := by
  generalize hlabels : ([] : List Label) = labels at h
  cases h with
  | refl => rfl
  | snoc => simp at hlabels

/-- The first label of an execution is the label of its first step. -/
theorem Execution.first_step {s u : State} {label : Label} {labels : List Label}
    (h : Execution step s (label :: labels) u) :
    ∃ t, step s label t ∧ Execution step t labels u := by
  rw [← List.singleton_append] at h
  obtain ⟨t, hfirst, hrest⟩ := h.split
  rw [← List.nil_append [label]] at hfirst
  obtain ⟨r, hnone, hstep⟩ := hfirst.last_step
  obtain rfl := hnone.eq_of_nil
  exact ⟨t, hstep, hrest⟩

/-- Every label of an execution is the label of one of its steps. -/
theorem Execution.step_of_mem {s t : State} {labels : List Label} {label : Label}
    (h : Execution step s labels t) (hmem : label ∈ labels) :
    ∃ front back u v, labels = front ++ label :: back ∧
      Execution step s front u ∧ step u label v ∧ Execution step v back t := by
  obtain ⟨front, back, rfl⟩ := List.append_of_mem hmem
  rw [List.append_cons] at h
  obtain ⟨v, hfront, hback⟩ := h.split
  obtain ⟨u, hinit, hstep⟩ := hfront.last_step
  exact ⟨front, back, u, v, rfl, hinit, hstep, hback⟩

section Simulation

variable {AState ALabel : Type*} {astep : AState → ALabel → AState → Prop}

/-- Forward simulation: if every step of the execution is matched by an abstract execution
that reads off `f label`, the whole execution is matched by an abstract one. The relation
may speak about the labels so far, which are a prefix of all labels. -/
theorem Execution.simulate {R : List Label → State → AState → Prop} {f : Label → List ALabel}
    {s t : State} {a : AState} {labels : List Label}
    (h : Execution step s labels t) (hs : R [] s a)
    (hstep : ∀ {past u label v b}, (past ++ [label]) <+: labels → R past u b →
      step u label v → ∃ c, Execution astep b (f label) c ∧ R (past ++ [label]) v c) :
    ∃ b, Execution astep a (labels.flatMap f) b ∧ R labels t b := by
  induction h with
  | refl => exact ⟨a, .refl, hs⟩
  | @snoc past u label v _ hlast ih =>
      obtain ⟨b, hb, hR⟩ := ih fun hpre =>
        hstep (hpre.trans (List.prefix_append past [label]))
      obtain ⟨c, hc, hR'⟩ := hstep (List.prefix_refl _) hR hlast
      refine ⟨c, ?_, hR'⟩
      rw [List.flatMap_append, List.flatMap_singleton]
      exact hb.trans hc

end Simulation

/-! ## Deterministic systems -/

section Deterministic

variable {Call : Type*} (run : Call → State → State) (Ok : State → Call → Prop)

/-- One call after another, each of which satisfies `Ok` in the state it starts from. -/
def CallStep (s : State) (call : Call) (t : State) : Prop :=
  Ok s call ∧ t = run call s

def runAll (calls : List Call) (s : State) : State :=
  calls.foldl (fun s call => run call s) s

/-- Every call satisfies `Ok` when its turn comes. -/
def AllOk : List Call → State → Prop
  | [], _ => True
  | call :: calls, s => Ok s call ∧ AllOk calls (run call s)

instance instDecidableAllOk [∀ s call, Decidable (Ok s call)] :
    ∀ calls s, Decidable (AllOk run Ok calls s)
  | [], _ => .isTrue trivial
  | call :: calls, s =>
    haveI := instDecidableAllOk calls (run call s)
    inferInstanceAs (Decidable (_ ∧ _))

variable {run Ok}

theorem AllOk.execution {calls : List Call} {s : State} (h : AllOk run Ok calls s) :
    Execution (CallStep run Ok) s calls (runAll run calls s) := by
  induction calls generalizing s with
  | nil => exact .refl
  | cons call calls ih => exact Execution.cons ⟨h.1, rfl⟩ (ih h.2)

theorem allOk_of_forall (h : ∀ s call, Ok s call) (calls : List Call) (s : State) :
    AllOk run Ok calls s := by
  induction calls generalizing s with
  | nil => exact trivial
  | cons call calls ih => exact ⟨h s call, ih (run call s)⟩

/-- Two conditions on calls that amount to the same under an invariant, which the second one
keeps, amount to the same over whole runs. -/
theorem allOk_iff_of_invariant (Inv : State → Prop) {Pre Ok' : State → Call → Prop}
    (hiff : ∀ s call, Inv s → Pre s call → (Ok s call ↔ Ok' s call))
    (hkeeps : ∀ s call, Inv s → Pre s call → Ok' s call → Inv (run call s))
    (calls : List Call) (s : State) (hs : Inv s) (hpre : AllOk run Pre calls s) :
    AllOk run Ok calls s ↔ AllOk run Ok' calls s := by
  induction calls generalizing s with
  | nil => exact Iff.rfl
  | cons call calls ih =>
      have hhead := hiff s call hs hpre.1
      constructor
      · rintro ⟨hok, hrest⟩
        have hok' := hhead.mp hok
        exact ⟨hok', (ih _ (hkeeps s call hs hpre.1 hok') hpre.2).mp hrest⟩
      · rintro ⟨hok', hrest⟩
        exact ⟨hhead.mpr hok', (ih _ (hkeeps s call hs hpre.1 hok') hpre.2).mpr hrest⟩

/-- A property holds after every call iff it holds at the end of every part of the run. -/
theorem allOk_iff_forall_front {P : State → Prop} (calls : List Call) (s : State) (hs : P s) :
    AllOk run (fun s call => P (run call s)) calls s ↔
      ∀ front, front <+: calls → P (runAll run front s) := by
  induction calls generalizing s with
  | nil =>
      refine ⟨fun _ front hfront => ?_, fun _ => trivial⟩
      rw [List.prefix_nil.mp hfront]
      exact hs
  | cons call calls ih =>
      constructor
      · rintro ⟨hcall, hrest⟩ front hfront
        rcases List.prefix_cons_iff.mp hfront with rfl | ⟨rest, rfl, hrest'⟩
        · exact hs
        · exact (ih _ hcall).mp hrest rest hrest'
      · intro h
        have hcall : P (run call s) := h [call] (List.prefix_append [call] calls)
        refine ⟨hcall, (ih _ hcall).mpr fun front hfront => ?_⟩
        exact h (call :: front) (List.prefix_cons_inj call |>.mpr hfront)

/-- A property holds all along a run iff each call satisfies `Ok`, if the two are the same under
an invariant of such calls. -/
theorem forall_front_iff_allOk {P : State → Prop} (Inv : State → Prop)
    (hiff : ∀ s call, Inv s → (P (run call s) ↔ Ok s call))
    (hkeeps : ∀ s call, Inv s → Ok s call → Inv (run call s))
    (calls : List Call) (s : State) (hs : Inv s) (hP : P s) :
    (∀ front, front <+: calls → P (runAll run front s)) ↔ AllOk run Ok calls s := by
  have hpre : AllOk run (fun _ _ => True) calls s := allOk_of_forall (fun _ _ => trivial) calls s
  rw [← allOk_iff_forall_front calls s hP]
  exact allOk_iff_of_invariant Inv (fun s call hs _ => hiff s call hs)
    (fun s call hs _ => hkeeps s call hs) calls s hs hpre

theorem runAll_append (front back : List Call) (s : State) :
    runAll run (front ++ back) s = runAll run back (runAll run front s) :=
  List.foldl_append

/-- A property holds at the end of a run iff each call satisfies `Ok`, if a call keeps the
property exactly when it does. -/
theorem runAll_iff_allOk {P : State → Prop} (Inv : State → Prop)
    (hiff : ∀ s call, Inv s → (P (run call s) ↔ P s ∧ Ok s call))
    (hkeeps : ∀ s call, Inv s → Inv (run call s)) (calls : List Call) (s : State) (hs : Inv s) :
    P (runAll run calls s) ↔ P s ∧ AllOk run Ok calls s := by
  induction calls generalizing s with
  | nil => exact (and_iff_left trivial).symm
  | cons call calls ih =>
      calc
        P (runAll run calls (run call s)) ↔ P (run call s) ∧ AllOk run Ok calls (run call s) :=
          ih _ (hkeeps s call hs)
        _ ↔ (P s ∧ Ok s call) ∧ AllOk run Ok calls (run call s) :=
          and_congr_left fun _ => hiff s call hs
        _ ↔ P s ∧ AllOk run Ok (call :: calls) s := and_assoc

theorem runAll_execution (calls : List Call) (s : State) :
    Execution (CallStep run fun _ _ => True) s calls (runAll run calls s) := by
  induction calls generalizing s with
  | nil => exact .refl
  | cons call calls ih => exact Execution.cons ⟨trivial, rfl⟩ (ih (run call s))

end Deterministic

end OverSync.Library
