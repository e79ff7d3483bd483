import OverSync.Library.Execution

/-! # Non-interference of calls

Some calls of a deterministic system are observed, with what they answer. When observed calls
answer alike in related states and keep them related, and the other calls do not leave the
relation, taking the others out of a sequence changes nothing that is observed. -/

namespace OverSync.Library

variable {State Call Out : Type*} (run : Call → State → State) (answer : State → Call → Out)
  (observed : Call → Bool)

/-- The answers of the observed calls, in order. -/
def answers : List Call → State → List Out
  | [], _ => []
  | call :: calls, s =>
      if observed call = true then answer s call :: answers calls (run call s)
      else answers calls (run call s)

/-- What the observed calls may depend on is kept by `R`. -/
structure Unwinding (R : State → State → Prop) (hidden : Call → Prop) : Prop where
  answer_eq : ∀ {s t call}, R s t → observed call = true → answer s call = answer t call
  observed_step : ∀ {s t call}, R s t → observed call = true → R (run call s) (run call t)
  hidden_step : ∀ {s t call}, R s t → hidden call → R (run call s) t

variable {run answer observed}

/-- Taking the hidden calls out changes no answer and leads to a related state. -/
theorem Unwinding.purge {R : State → State → Prop} {hidden : Call → Prop}
    (h : Unwinding run answer observed R hidden) {calls : List Call} {s t : State} (hst : R s t)
    (hcalls : ∀ call ∈ calls, observed call = true ∨ hidden call) :
    answers run answer observed calls s =
        answers run answer observed (calls.filter observed) t ∧
      R (runAll run calls s) (runAll run (calls.filter observed) t) := by
  induction calls generalizing s t with
  | nil => exact ⟨rfl, hst⟩
  | cons call calls ih =>
      have hrest : ∀ call ∈ calls, observed call = true ∨ hidden call :=
        fun other hmem => hcalls other (List.mem_cons_of_mem _ hmem)
      by_cases hobserved : observed call = true
      · obtain ⟨hanswers, hend⟩ := ih (h.observed_step hst hobserved) hrest
        rw [List.filter_cons_of_pos hobserved]
        refine ⟨?_, hend⟩
        simp only [answers, hobserved, if_true, h.answer_eq hst hobserved, hanswers]
      · have hhidden := (hcalls call List.mem_cons_self).resolve_left hobserved
        obtain ⟨hanswers, hend⟩ := ih (h.hidden_step hst hhidden) hrest
        rw [List.filter_cons_of_neg hobserved]
        refine ⟨?_, hend⟩
        simp only [answers, hobserved, hanswers]
        rfl

end OverSync.Library
