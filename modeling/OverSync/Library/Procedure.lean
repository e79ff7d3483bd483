import OverSync.Library.Execution
import Mathlib.Data.List.GetD

/-! # Procedures that await statements

A procedure issues one statement after another, awaits the response of each and decides on
it how to go on. A statement may fail; the procedure then goes on in its own way. -/

namespace OverSync.Library

/-- A procedure that returns a value or raises an error. `failed` is what it does where the
statement fails. -/
inductive Procedure (Stmt : Type) (Resp : Stmt → Type) (ε α : Type) where
  | done (result : Except ε α)
  | await (stmt : Stmt) (next : Resp stmt → Procedure Stmt Resp ε α)
      (failed : Procedure Stmt Resp ε α)

namespace Procedure

variable {Stmt : Type} {Resp : Stmt → Type} {ε α β World : Type}

def bind : Procedure Stmt Resp ε α → (α → Procedure Stmt Resp ε β) → Procedure Stmt Resp ε β
  | done (.ok a), f => f a
  | done (.error e), _ => done (.error e)
  | await stmt next failed, f => await stmt (fun r => (next r).bind f) (failed.bind f)

/-- `try p catch e => handler e` -/
def attempt : Procedure Stmt Resp ε α → (ε → Procedure Stmt Resp ε α) → Procedure Stmt Resp ε α
  | done (.ok a), _ => done (.ok a)
  | done (.error e), handler => handler e
  | await stmt next failed, handler =>
      await stmt (fun r => (next r).attempt handler) (failed.attempt handler)

instance : Monad (Procedure Stmt Resp ε) where
  pure a := done (.ok a)
  bind := bind

instance : MonadExcept ε (Procedure Stmt Resp ε) where
  throw e := done (.error e)
  tryCatch := attempt

/-- One statement, whose failure is raised as the error `e`. -/
def statement (e : ε) (stmt : Stmt) : Procedure Stmt Resp ε (Resp stmt) :=
  await stmt (fun r => done (.ok r)) (done (.error e))

theorem bind_pure_eq (p : Procedure Stmt Resp ε α) : p.bind (fun a => done (.ok a)) = p := by
  induction p with
  | done result => cases result <;> rfl
  | await stmt next failed ihnext ihfailed =>
      simp only [bind, ihfailed]
      exact congrArg (fun f => await stmt f failed) (funext ihnext)

theorem bind_bind {γ : Type} (p : Procedure Stmt Resp ε α) (f : α → Procedure Stmt Resp ε β)
    (g : β → Procedure Stmt Resp ε γ) :
    (p.bind f).bind g = p.bind fun a => (f a).bind g := by
  induction p with
  | done result => cases result <;> rfl
  | await stmt next failed ihnext ihfailed =>
      simp only [bind, ihfailed]
      exact congrArg (fun h => await stmt h (failed.bind fun a => (f a).bind g)) (funext ihnext)

instance : LawfulMonad (Procedure Stmt Resp ε) :=
  LawfulMonad.mk' _ (fun p => bind_pure_eq p) (fun _ _ => rfl) bind_bind

/-! ## Running a procedure -/

/-- `none` is the response of a statement that fails. -/
abbrev Handler (Stmt : Type) (Resp : Stmt → Type) (World : Type) :=
  (stmt : Stmt) → World → Option (Resp stmt) × World

section Run

variable (exec : Handler Stmt Resp World)

def run : Procedure Stmt Resp ε α → World → Except ε α × World
  | done result, w => (result, w)
  | await stmt next failed, w =>
    match exec stmt w with
    | (some r, w') => run (next r) w'
    | (none, w') => run failed w'

/-- The world after the first `n` statements. -/
def after : ℕ → Procedure Stmt Resp ε α → World → World
  | 0, _, w => w
  | _ + 1, done _, w => w
  | n + 1, await stmt next failed, w =>
    match exec stmt w with
    | (some r, w') => after n (next r) w'
    | (none, w') => after n failed w'

/-- `Along exec I p w`: the worlds a run passes through, both ends included, satisfy `I`. -/
def Along (I : World → Prop) : Procedure Stmt Resp ε α → World → Prop
  | done _, w => I w
  | await stmt next failed, w => I w ∧
    match exec stmt w with
    | (some r, w') => Along I (next r) w'
    | (none, w') => Along I failed w'

variable {exec}

@[simp] theorem run_pure (a : α) (w : World) :
    run exec (pure a : Procedure Stmt Resp ε α) w = (.ok a, w) := rfl

@[simp] theorem run_throw (e : ε) (w : World) :
    run exec (throw e : Procedure Stmt Resp ε α) w = (.error e, w) := rfl

@[simp] theorem run_bind (p : Procedure Stmt Resp ε α) (f : α → Procedure Stmt Resp ε β)
    (w : World) :
    run exec (p >>= f) w =
      match run exec p w with
      | (.ok a, w') => run exec (f a) w'
      | (.error e, w') => (.error e, w') := by
  change run exec (p.bind f) w = _
  induction p generalizing w with
  | done result =>
      cases result with
      | ok a => rfl
      | error e => rfl
  | await stmt next failed ihnext ihfailed =>
      simp only [bind, run]
      split
      · exact ihnext _ _
      · exact ihfailed _

@[simp] theorem run_tryCatch (p : Procedure Stmt Resp ε α)
    (handler : ε → Procedure Stmt Resp ε α) (w : World) :
    run exec (tryCatch p handler) w =
      match run exec p w with
      | (.ok a, w') => (.ok a, w')
      | (.error e, w') => run exec (handler e) w' := by
  change run exec (p.attempt handler) w = _
  induction p generalizing w with
  | done result =>
      cases result with
      | ok a => rfl
      | error e => rfl
  | await stmt next failed ihnext ihfailed =>
      simp only [attempt, run]
      split
      · exact ihnext _ _
      · exact ihfailed _

@[simp] theorem run_statement (e : ε) (stmt : Stmt) (w : World) :
    run exec (statement e stmt : Procedure Stmt Resp ε (Resp stmt)) w =
      match exec stmt w with
      | (some r, w') => (.ok r, w')
      | (none, w') => (.error e, w') := by
  simp only [statement, run]

/-! ## What holds along a run -/

theorem along_await {I : World → Prop} {stmt : Stmt} {next : Resp stmt → Procedure Stmt Resp ε α}
    {failed : Procedure Stmt Resp ε α} {w : World} :
    Along exec I (await stmt next failed) w ↔ I w ∧
      match exec stmt w with
      | (some r, w') => Along exec I (next r) w'
      | (none, w') => Along exec I failed w' := by
  rw [Along]

theorem Along.start {I : World → Prop} {p : Procedure Stmt Resp ε α} {w : World}
    (h : Along exec I p w) : I w := by
  cases p with
  | done result => exact h
  | await stmt next failed => exact (along_await.mp h).1

theorem Along.after {I : World → Prop} {p : Procedure Stmt Resp ε α} {w : World}
    (h : Along exec I p w) (n : ℕ) : I (after exec n p w) := by
  induction n generalizing p w with
  | zero => exact h.start
  | succ n ih =>
      cases p with
      | done result => exact h
      | await stmt next failed =>
          obtain ⟨-, hrest⟩ := along_await.mp h
          simp only [Procedure.after]
          split at hrest
          · rename_i hexec
            simpa only [hexec] using ih hrest
          · rename_i hexec
            simpa only [hexec] using ih hrest

/-- The end of a run is a cut. -/
theorem run_after (p : Procedure Stmt Resp ε α) (w : World) :
    ∃ n, (run exec p w).2 = Procedure.after exec n p w := by
  induction p generalizing w with
  | done result => exact ⟨0, rfl⟩
  | await stmt next failed ihnext ihfailed =>
      simp only [run]
      cases hexec : exec stmt w with
      | mk resp u =>
          cases resp with
          | some r =>
              obtain ⟨n, hn⟩ := ihnext r u
              exact ⟨n + 1, by simpa only [Procedure.after, hexec] using hn⟩
          | none =>
              obtain ⟨n, hn⟩ := ihfailed u
              exact ⟨n + 1, by simpa only [Procedure.after, hexec] using hn⟩

/-- A cut of a sequence falls into its first part, or into what follows it. -/
theorem after_bind (n : ℕ) (p : Procedure Stmt Resp ε α) (f : α → Procedure Stmt Resp ε β)
    (w : World) :
    Procedure.after exec n (p >>= f) w = Procedure.after exec n p w ∨
      ∃ a w' m, run exec p w = (.ok a, w') ∧
        Procedure.after exec n (p >>= f) w = Procedure.after exec m (f a) w' := by
  change Procedure.after exec n (p.bind f) w = _ ∨ ∃ a w' m, _ ∧
    Procedure.after exec n (p.bind f) w = _
  induction n generalizing p w with
  | zero =>
      cases p with
      | done result =>
          cases result with
          | ok a => exact .inl rfl
          | error e => exact .inl rfl
      | await stmt next failed => exact .inl rfl
  | succ n ih =>
      cases p with
      | done result =>
          cases result with
          | ok a => exact .inr ⟨a, w, n + 1, rfl, rfl⟩
          | error e => exact .inl rfl
      | await stmt next failed =>
          simp only [bind, Procedure.after, run]
          split
          · exact ih _ _
          · exact ih _ _

theorem Along.mono {I J : World → Prop} {p : Procedure Stmt Resp ε α} {w : World}
    (h : Along exec I p w) (hsub : ∀ u, I u → J u) : Along exec J p w := by
  induction p generalizing w with
  | done result => exact hsub w h
  | await stmt next failed ihnext ihfailed =>
      obtain ⟨hw, hrest⟩ := along_await.mp h
      refine along_await.mpr ⟨hsub w hw, ?_⟩
      split at hrest
      · exact ihnext _ hrest
      · exact ihfailed hrest

theorem along_bind {I : World → Prop} {p : Procedure Stmt Resp ε α}
    {f : α → Procedure Stmt Resp ε β} {w : World} (hp : Along exec I p w)
    (hf : ∀ a w', run exec p w = (.ok a, w') → Along exec I (f a) w') :
    Along exec I (p >>= f) w := by
  change Along exec I (p.bind f) w
  induction p generalizing w with
  | done result =>
      cases result with
      | ok a => exact hf a w rfl
      | error e => exact hp
  | await stmt next failed ihnext ihfailed =>
      simp only [bind]
      obtain ⟨hw, hrest⟩ := along_await.mp hp
      refine along_await.mpr ⟨hw, ?_⟩
      simp only [run] at hf
      split at hrest
      · rename_i hexec
        simp only [hexec] at hf ⊢
        exact ihnext _ hrest hf
      · rename_i hexec
        simp only [hexec] at hf ⊢
        exact ihfailed hrest hf

/-- The end of a run is one of the worlds along it. -/
theorem Along.stop {I : World → Prop} {p : Procedure Stmt Resp ε α} {w : World}
    (h : Along exec I p w) : I (run exec p w).2 := by
  induction p generalizing w with
  | done result => exact h
  | await stmt next failed ihnext ihfailed =>
      obtain ⟨-, hrest⟩ := along_await.mp h
      simp only [run]
      split at hrest
      · rename_i hexec
        simpa only [hexec] using ihnext _ hrest
      · rename_i hexec
        simpa only [hexec] using ihfailed hrest

end Run

/-! ## The statements of a procedure -/

section Issues

variable {P : Stmt → Prop}

/-- Every statement the procedure can come to execute satisfies `P`. -/
def Issues (P : Stmt → Prop) : Procedure Stmt Resp ε α → Prop
  | done _ => True
  | await stmt next failed => P stmt ∧ (∀ r, Issues P (next r)) ∧ Issues P failed

theorem issues_pure (a : α) :
    Issues P (pure a : Procedure Stmt Resp ε α) := trivial

theorem issues_throw (e : ε) :
    Issues P (throw e : Procedure Stmt Resp ε α) := trivial

theorem issues_statement {e : ε} {stmt : Stmt} (h : P stmt) :
    Issues P (statement e stmt : Procedure Stmt Resp ε (Resp stmt)) :=
  ⟨h, fun _ => trivial, trivial⟩

theorem issues_bind {p : Procedure Stmt Resp ε α}
    {f : α → Procedure Stmt Resp ε β} (hp : Issues P p) (hf : ∀ a, Issues P (f a)) :
    Issues P (p >>= f) := by
  change Issues P (p.bind f)
  induction p with
  | done result =>
      cases result with
      | ok a => exact hf a
      | error e => trivial
  | await stmt next failed ihnext ihfailed =>
      obtain ⟨hstmt, hnext, hfailed⟩ := hp
      exact ⟨hstmt, fun r => ihnext r (hnext r), ihfailed hfailed⟩

theorem issues_tryCatch {p : Procedure Stmt Resp ε α} {handler : ε → Procedure Stmt Resp ε α}
    (hp : Issues P p) (hhandler : ∀ e, Issues P (handler e)) :
    Issues P (tryCatch p handler) := by
  change Issues P (p.attempt handler)
  induction p with
  | done result =>
      cases result with
      | ok a => trivial
      | error e => exact hhandler e
  | await stmt next failed ihnext ihfailed =>
      obtain ⟨hstmt, hnext, hfailed⟩ := hp
      exact ⟨hstmt, fun r => ihnext r (hnext r), ihfailed hfailed⟩

/-- What every statement of a procedure keeps holds along its runs. -/
theorem Issues.along {exec : Handler Stmt Resp World} {I : World → Prop}
    {p : Procedure Stmt Resp ε α} (h : Issues P p)
    (hstmt : ∀ stmt w, P stmt → I w → I (exec stmt w).2) {w : World} (hw : I w) :
    Along exec I p w := by
  induction p generalizing w with
  | done result => exact hw
  | await stmt next failed ihnext ihfailed =>
      obtain ⟨hP, hnext, hfailed⟩ := h
      have hworld := hstmt stmt w hP hw
      refine along_await.mpr ⟨hw, ?_⟩
      split
      · rename_i hexec
        rw [hexec] at hworld
        exact ihnext _ (hnext _) hworld
      · rename_i hexec
        rw [hexec] at hworld
        exact ihfailed hfailed hworld

theorem issues_true (p : Procedure Stmt Resp ε α) : Issues (fun _ => True) p := by
  induction p with
  | done result => trivial
  | await stmt next failed ihnext ihfailed => exact ⟨trivial, ihnext, ihfailed⟩

/-- Where a statement may lead from `I` to `J` and none leads back, a run that passes through a
world beside `I` ends in `J`. -/
theorem Issues.along_until {exec : Handler Stmt Resp World} {I J : World → Prop}
    {p : Procedure Stmt Resp ε α} (h : Issues P p)
    (hI : ∀ stmt w, P stmt → I w → I (exec stmt w).2 ∨ J (exec stmt w).2)
    (hJ : ∀ stmt w, P stmt → J w → J (exec stmt w).2) {w : World} (hw : I w) :
    Along exec (fun u => I u ∨ J u ∧ J (run exec p w).2) p w := by
  induction p generalizing w with
  | done result => exact .inl hw
  | await stmt next failed ihnext ihfailed =>
      obtain ⟨hP, hnext, hfailed⟩ := h
      have hworld := hI stmt w hP hw
      have hlater {q : Procedure Stmt Resp ε α} (hq : Issues P q) {u : World} (hu : J u) :
          Along exec (fun v => I v ∨ J v ∧ J (run exec q u).2) q u := by
        have hall := hq.along hJ hu
        exact hall.mono fun v hv => .inr ⟨hv, hall.stop⟩
      refine along_await.mpr ⟨.inl hw, ?_⟩
      simp only [run]
      split
      · rename_i r u hexec
        simp only [hexec] at hworld ⊢
        rcases hworld with hI' | hJ'
        · exact ihnext r (hnext r) hI'
        · exact hlater (hnext r) hJ'
      · rename_i u hexec
        simp only [hexec] at hworld ⊢
        rcases hworld with hI' | hJ'
        · exact ihfailed hfailed hI'
        · exact hlater hfailed hJ'

end Issues

/-! ## Procedures that give up

A failing statement ends such a procedure with a fixed error. -/

section Plain

variable {P : Stmt → Prop} {e : ε}

/-- Every statement satisfies `P`, and one that fails ends the procedure with `e`. -/
def Plain (e : ε) (P : Stmt → Prop) : Procedure Stmt Resp ε α → Prop
  | done _ => True
  | await stmt next failed =>
      P stmt ∧ (∀ r, Plain e P (next r)) ∧ failed = done (.error e)

theorem Plain.issues {p : Procedure Stmt Resp ε α} (h : Plain e P p) : Issues P p := by
  induction p with
  | done result => trivial
  | await stmt next failed ihnext ihfailed =>
      obtain ⟨hP, hnext, rfl⟩ := h
      exact ⟨hP, fun r => ihnext r (hnext r), trivial⟩

theorem plain_pure (a : α) : Plain e P (pure a : Procedure Stmt Resp ε α) := trivial

theorem plain_throw (e' : ε) : Plain e P (throw e' : Procedure Stmt Resp ε α) := trivial

theorem plain_statement {stmt : Stmt} (h : P stmt) :
    Plain e P (statement e stmt : Procedure Stmt Resp ε (Resp stmt)) :=
  ⟨h, fun _ => trivial, rfl⟩

theorem plain_bind {p : Procedure Stmt Resp ε α} {f : α → Procedure Stmt Resp ε β}
    (hp : Plain e P p) (hf : ∀ a, Plain e P (f a)) : Plain e P (p >>= f) := by
  change Plain e P (p.bind f)
  induction p with
  | done result =>
      cases result with
      | ok a => exact hf a
      | error e' => trivial
  | await stmt next failed ihnext ihfailed =>
      obtain ⟨hP, hnext, rfl⟩ := hp
      exact ⟨hP, fun r => ihnext r (hnext r), rfl⟩

/-- A handler that raises `e` again. -/
theorem plain_tryCatch {p : Procedure Stmt Resp ε α} {handler : ε → Procedure Stmt Resp ε α}
    (hp : Plain e P p) (hhandler : ∀ e', Plain e P (handler e')) (hagain : handler e = throw e) :
    Plain e P (tryCatch p handler) := by
  change Plain e P (p.attempt handler)
  induction p with
  | done result =>
      cases result with
      | ok a => trivial
      | error e' => exact hhandler e'
  | await stmt next failed ihnext ihfailed =>
      obtain ⟨hP, hnext, rfl⟩ := hp
      exact ⟨hP, fun r => ihnext r (hnext r), hagain⟩

/-- Where statements may fail, such a procedure runs as where none fails, or stops at some
statement of that run. -/
theorem Plain.run_failing {exec exec' : Handler Stmt Resp World} {f : World → World}
    {p : Procedure Stmt Resp ε α} (h : Plain e P p)
    (hexec : ∀ stmt w, exec stmt w = exec' stmt w ∨ exec stmt w = (none, f w)) (w : World) :
    run exec p w = run exec' p w ∨
      ∃ n, run exec p w = (.error e, f (Procedure.after exec' n p w)) := by
  induction p generalizing w with
  | done result => exact .inl rfl
  | await stmt next failed ihnext ihfailed =>
      obtain ⟨-, hnext, rfl⟩ := h
      rcases hexec stmt w with hsame | hfails
      · simp only [run, hsame]
        cases hresult : exec' stmt w with
        | mk resp u =>
            cases resp with
            | none => exact .inl rfl
            | some r =>
                rcases ihnext r (hnext r) u with hrun | ⟨n, hrun⟩
                · exact .inl hrun
                · refine .inr ⟨n + 1, ?_⟩
                  simpa only [Procedure.after, hresult] using hrun
      · refine .inr ⟨0, ?_⟩
        simp only [run, hfails]
        rfl

end Plain

/-! ## Runs without failures -/

section Answered

variable {exec exec' : Handler Stmt Resp World}

/-- Every statement of the run gets a response. -/
def answered (exec : Handler Stmt Resp World) : Procedure Stmt Resp ε α → World → Bool
  | done _, _ => true
  | await stmt next _, w =>
    match exec stmt w with
    | (some r, w') => answered exec (next r) w'
    | (none, _) => false

theorem run_answered {p : Procedure Stmt Resp ε α} {w : World} (h : answered exec p w = true)
    (hexec : ∀ stmt w, exec stmt w = exec' stmt w ∨ (exec stmt w).1 = none) :
    run exec p w = run exec' p w := by
  induction p generalizing w with
  | done result => rfl
  | await stmt next failed ihnext ihfailed =>
      rw [answered] at h
      simp only [run]
      rcases hexec stmt w with hsame | hnone
      · rw [← hsame]
        split at h
        · exact ihnext _ h
        · cases h
      · split at h
        · rename_i hstmt
          rw [hstmt] at hnone
          cases hnone
        · cases h

theorem answered_bind (p : Procedure Stmt Resp ε α) (f : α → Procedure Stmt Resp ε β) (w : World) :
    answered exec (p >>= f) w = (answered exec p w &&
      match run exec p w with
      | (.ok a, w') => answered exec (f a) w'
      | (.error _, _) => true) := by
  change answered exec (p.bind f) w = _
  induction p generalizing w with
  | done result => cases result <;> rfl
  | await stmt next failed ihnext ihfailed =>
      simp only [bind, answered, run]
      cases exec stmt w with
      | mk resp u =>
          cases resp with
          | some r => exact ihnext r u
          | none => rfl

theorem answered_tryCatch (p : Procedure Stmt Resp ε α) (handler : ε → Procedure Stmt Resp ε α)
    (w : World) :
    answered exec (tryCatch p handler) w = (answered exec p w &&
      match run exec p w with
      | (.ok _, _) => true
      | (.error e, w') => answered exec (handler e) w') := by
  change answered exec (p.attempt handler) w = _
  induction p generalizing w with
  | done result => cases result <;> rfl
  | await stmt next failed ihnext ihfailed =>
      simp only [attempt, answered, run]
      cases exec stmt w with
      | mk resp u =>
          cases resp with
          | some r => exact ihnext r u
          | none => rfl

/-- A procedure that gives up ends with its error where a statement gets no response. -/
theorem Plain.run_unanswered {P : Stmt → Prop} {e : ε} {p : Procedure Stmt Resp ε α} {w : World}
    (h : Plain e P p) (hunanswered : answered exec p w = false) :
    (run exec p w).1 = .error e := by
  induction p generalizing w with
  | done result => cases hunanswered
  | await stmt next failed ihnext ihfailed =>
      obtain ⟨-, hnext, rfl⟩ := h
      simp only [answered] at hunanswered
      simp only [run]
      cases hexec : exec stmt w with
      | mk resp u =>
          rw [hexec] at hunanswered
          cases resp with
          | some r => exact ihnext r (hnext r) hunanswered
          | none => rfl

end Answered

/-! ## Procedures that give up earlier -/

section Curtailed

variable {E : ε → Prop}

/-- `Curtailed E p q`: `p` does what `q` does, or gives up on the way with an error in `E`. -/
inductive Curtailed (E : ε → Prop) :
    Procedure Stmt Resp ε α → Procedure Stmt Resp ε α → Prop where
  | gaveUp {e : ε} {q : Procedure Stmt Resp ε α} : E e → Curtailed E (done (.error e)) q
  | done (result : Except ε α) : Curtailed E (done result) (done result)
  | await {stmt : Stmt} {next next' : Resp stmt → Procedure Stmt Resp ε α}
      {failed failed' : Procedure Stmt Resp ε α} :
      (∀ r, Curtailed E (next r) (next' r)) → Curtailed E failed failed' →
      Curtailed E (await stmt next failed) (await stmt next' failed')

theorem curtailed_refl (p : Procedure Stmt Resp ε α) : Curtailed E p p := by
  induction p with
  | done result => exact .done result
  | await stmt next failed ihnext ihfailed => exact .await ihnext ihfailed

theorem curtailed_bind {p q : Procedure Stmt Resp ε α} {f g : α → Procedure Stmt Resp ε β}
    (hp : Curtailed E p q) (hf : ∀ a, Curtailed E (f a) (g a)) :
    Curtailed E (p >>= f) (q >>= g) := by
  change Curtailed E (p.bind f) (q.bind g)
  induction hp with
  | gaveUp he => exact .gaveUp he
  | done result =>
      cases result with
      | ok a => exact hf a
      | error e => exact .done _
  | await _ _ ihnext ihfailed => exact .await ihnext ihfailed

/-- A handler that raises the errors in `E` again. -/
theorem curtailed_tryCatch {p q : Procedure Stmt Resp ε α}
    {handler : ε → Procedure Stmt Resp ε α} (hp : Curtailed E p q)
    (hagain : ∀ e, E e → handler e = throw e) :
    Curtailed E (tryCatch p handler) (tryCatch q handler) := by
  change Curtailed E (p.attempt handler) (q.attempt handler)
  induction hp with
  | gaveUp he =>
      simp only [attempt]
      rw [hagain _ he]
      exact .gaveUp he
  | done result => exact curtailed_refl _
  | await _ _ ihnext ihfailed => exact .await ihnext ihfailed

variable {exec : Handler Stmt Resp World}

theorem after_done (n : ℕ) (result : Except ε α) (w : World) :
    Procedure.after exec n (done result : Procedure Stmt Resp ε α) w = w := by
  cases n <;> rfl

/-- A cut of the shorter run is a cut of the longer. -/
theorem Curtailed.after {p q : Procedure Stmt Resp ε α} (h : Curtailed E p q) (n : ℕ) (w : World) :
    ∃ m, Procedure.after exec n p w = Procedure.after exec m q w := by
  induction h generalizing n w with
  | gaveUp _ => exact ⟨0, after_done n _ w⟩
  | done result => exact ⟨n, rfl⟩
  | await _ _ ihnext ihfailed =>
      cases n with
      | zero => exact ⟨0, rfl⟩
      | succ n =>
          simp only [Procedure.after]
          split
          · rename_i hexec
            obtain ⟨m, hm⟩ := ihnext _ n _
            exact ⟨m + 1, by simpa only [Procedure.after, hexec] using hm⟩
          · rename_i hexec
            obtain ⟨m, hm⟩ := ihfailed n _
            exact ⟨m + 1, by simpa only [Procedure.after, hexec] using hm⟩

theorem Curtailed.run {p q : Procedure Stmt Resp ε α} (h : Curtailed E p q) (w : World) :
    run exec p w = Procedure.run exec q w ∨
      ∃ e n, E e ∧ Procedure.run exec p w = (.error e, Procedure.after exec n q w) := by
  induction h generalizing w with
  | gaveUp he => exact .inr ⟨_, 0, he, rfl⟩
  | done result => exact .inl rfl
  | @await stmt next next' failed failed' _ _ ihnext ihfailed =>
      simp only [Procedure.run]
      cases hexec : exec stmt w with
      | mk resp u =>
          cases resp with
          | some r =>
              rcases ihnext r u with hsame | ⟨e, n, he, hrun⟩
              · exact .inl hsame
              · exact .inr ⟨e, n + 1, he, by simpa only [Procedure.after, hexec] using hrun⟩
          | none =>
              rcases ihfailed u with hsame | ⟨e, n, he, hrun⟩
              · exact .inl hsame
              · exact .inr ⟨e, n + 1, he, by simpa only [Procedure.after, hexec] using hrun⟩

end Curtailed

/-! ## Runs in related worlds -/

section Related

variable {exec exec' : Handler Stmt Resp World} {R : World → World → Prop}

/-- The statements get the same responses in related worlds and keep the worlds related. -/
def Respects (exec exec' : Handler Stmt Resp World) (R : World → World → Prop) : Prop :=
  ∀ stmt w w', R w w' →
    (exec stmt w).1 = (exec' stmt w').1 ∧ R (exec stmt w).2 (exec' stmt w').2

/-- Runs from related worlds end alike. -/
theorem Respects.run (h : Respects exec exec' R) (p : Procedure Stmt Resp ε α) {w w' : World}
    (hw : R w w') :
    (run exec p w).1 = (Procedure.run exec' p w').1 ∧
      R (Procedure.run exec p w).2 (Procedure.run exec' p w').2 := by
  induction p generalizing w w' with
  | done result => exact ⟨rfl, hw⟩
  | await stmt next failed ihnext ihfailed =>
      obtain ⟨hresp, hworlds⟩ := h stmt w w' hw
      simp only [Procedure.run]
      cases hexec : exec stmt w with
      | mk resp u =>
          cases hexec' : exec' stmt w' with
          | mk resp' u' =>
              rw [hexec, hexec'] at hresp hworlds
              simp only at hresp hworlds
              subst hresp
              cases resp with
              | some r => exact ihnext r hworlds
              | none => exact ihfailed hworlds

end Related

end Procedure

end OverSync.Library
