import OverSync.Library.Procedure

/-! # Procedures that run at the same time

The procedures of a pool share one world. Between two statements of one procedure any number of
statements of the others may be executed; each statement is atomic. -/

namespace OverSync.Library

open Procedure

variable {Stmt : Type} {Resp : Stmt → Type} {ε α World : Type}

/-- A procedure under way: what is left of it, and the world in which its first statement was
executed, if there was one. -/
structure Thread (Stmt : Type) (Resp : Stmt → Type) (ε α World : Type) where
  rest : Procedure Stmt Resp ε α
  began : Option World

namespace Thread

def start (p : Procedure Stmt Resp ε α) : Thread Stmt Resp ε α World where
  rest := p
  began := none

/-- The statement the thread waits to execute. -/
def next (thread : Thread Stmt Resp ε α World) : Option Stmt :=
  match thread.rest with
  | .done _ => none
  | .await stmt _ _ => some stmt

end Thread

structure Pool (ι Stmt : Type) (Resp : Stmt → Type) (ε α World : Type) where
  world : World
  threads : ι → Thread Stmt Resp ε α World

namespace Pool

variable {ι : Type}

def start (world : World) (procedures : ι → Procedure Stmt Resp ε α) :
    Pool ι Stmt Resp ε α World where
  world := world
  threads i := .start (procedures i)

variable [DecidableEq ι] (exec : Handler Stmt Resp World)

/-- The next statement of thread `i` is executed. -/
def step (i : ι) (pool : Pool ι Stmt Resp ε α World) : Pool ι Stmt Resp ε α World :=
  match (pool.threads i).rest with
  | .done _ => pool
  | .await stmt next failed =>
    let outcome := exec stmt pool.world
    let thread : Thread Stmt Resp ε α World :=
      { rest :=
          match outcome.1 with
          | some r => next r
          | none => failed
        began := (pool.threads i).began <|> some pool.world }
    { world := outcome.2
      threads := fun j => if j = i then thread else pool.threads j }

variable {exec} {pool : Pool ι Stmt Resp ε α World} {i : ι}

theorem step_done {result : Except ε α} (h : (pool.threads i).rest = .done result) :
    pool.step exec i = pool := by
  rw [step, h]

theorem step_world_of_next {stmt : Stmt} (h : (pool.threads i).next = some stmt) :
    (pool.step exec i).world = (exec stmt pool.world).2 := by
  unfold Thread.next at h
  unfold step
  cases hrest : (pool.threads i).rest with
  | done result => simp [hrest] at h
  | await awaited next failed =>
      rw [hrest] at h
      obtain rfl := Option.some.inj h
      rfl

theorem step_of_next_none (h : (pool.threads i).next = none) : pool.step exec i = pool := by
  unfold Thread.next at h
  cases hrest : (pool.threads i).rest with
  | done result => exact step_done hrest
  | await awaited next failed => simp [hrest] at h

end Pool

/-! ## Statements justified by the first one

`P w stmt` says that a procedure whose first statement was executed in the world `w` may
execute `stmt` at any later time. -/

namespace Procedure

variable {β : Type}

/-- What the procedure executes is justified by the world of its first statement. -/
def Opens (exec : Handler Stmt Resp World) (P : World → Stmt → Prop) :
    Procedure Stmt Resp ε α → Prop
  | done _ => True
  | await stmt next failed => ∀ w, P w stmt ∧
    match (exec stmt w).1 with
    | some r => Issues (P w) (next r)
    | none => Issues (P w) failed

theorem opens_statement_bind {exec : Handler Stmt Resp World} {P : World → Stmt → Prop} {e : ε}
    {stmt : Stmt} {f : Resp stmt → Procedure Stmt Resp ε β} (hstmt : ∀ w, P w stmt)
    (hf : ∀ w r, (exec stmt w).1 = some r → Issues (P w) (f r)) :
    Opens exec P (statement e stmt >>= f) := by
  intro w
  refine ⟨hstmt w, ?_⟩
  split
  · rename_i r hresp
    exact hf w r hresp
  · trivial

theorem opens_of_issues {exec : Handler Stmt Resp World} {P : World → Stmt → Prop}
    {p : Procedure Stmt Resp ε α} (h : ∀ w, Issues (P w) p) : Opens exec P p := by
  cases p with
  | done result => trivial
  | await stmt next failed =>
      intro w
      obtain ⟨hstmt, hnext, hfailed⟩ := h w
      refine ⟨hstmt, ?_⟩
      split
      · exact hnext _
      · exact hfailed

end Procedure

section Justified

variable {ι : Type} [DecidableEq ι] {exec : Handler Stmt Resp World} {P : World → Stmt → Prop}
  {pool : Pool ι Stmt Resp ε α World} {i : ι}

def Thread.Justified (exec : Handler Stmt Resp World) (P : World → Stmt → Prop)
    (thread : Thread Stmt Resp ε α World) : Prop :=
  match thread.began with
  | none => Opens exec P thread.rest
  | some w => Issues (P w) thread.rest

theorem Pool.step_justified (h : ∀ j, (pool.threads j).Justified exec P) :
    ∀ j, ((pool.step exec i).threads j).Justified exec P := by
  intro j
  cases hrest : (pool.threads i).rest with
  | done result =>
      rw [Pool.step_done hrest]
      exact h j
  | await stmt next failed =>
      by_cases hj : j = i
      · subst hj
        have hthread := h j
        unfold Thread.Justified at hthread ⊢
        simp only [Pool.step, hrest, if_true]
        cases hbegan : (pool.threads j).began with
        | none =>
            simp only [hbegan, hrest] at hthread
            have hfirst := (hthread pool.world).2
            cases hresp : (exec stmt pool.world).1 with
            | some r =>
                rw [hresp] at hfirst
                exact hfirst
            | none =>
                rw [hresp] at hfirst
                exact hfirst
        | some w =>
            simp only [hbegan, hrest] at hthread
            obtain ⟨-, hnext, hfailed⟩ := hthread
            cases hresp : (exec stmt pool.world).1 with
            | some r => exact hnext r
            | none => exact hfailed
      · simp only [Pool.step, hrest, hj, if_false]
        exact h j

/-- The statement a thread executes is justified by the world of its first statement. -/
theorem Thread.Justified.next {thread : Thread Stmt Resp ε α World}
    (h : thread.Justified exec P) {stmt : Stmt} (hnext : thread.next = some stmt) (w : World) :
    P (thread.began.getD w) stmt := by
  unfold Thread.next at hnext
  unfold Thread.Justified at h
  cases hrest : thread.rest with
  | done result => simp [hrest] at hnext
  | await awaited next failed =>
      rw [hrest] at hnext
      obtain rfl := Option.some.inj hnext
      cases hbegan : thread.began with
      | none =>
          simp only [hbegan, hrest] at h
          exact (h w).1
      | some v =>
          simp only [hbegan, hrest] at h
          exact h.1

end Justified

end OverSync.Library
