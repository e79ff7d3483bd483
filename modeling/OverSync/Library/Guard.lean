/-! # Guarded computations

Checks that stop a computation with an error, and inversion rules for sequences of them. Checks
that only note what they find. -/

namespace OverSync.Library

variable {ε α β : Type}

/-- Stop with `e` unless `p` holds. -/
def require (p : Prop) [Decidable p] (e : ε) : Except ε Unit :=
  if p then .ok () else .error e

@[simp] theorem require_eq_ok {p : Prop} [Decidable p] {e : ε} :
    require p e = .ok () ↔ p := by
  unfold require
  split <;> simp_all

theorem require_eq_error {p : Prop} [Decidable p] {e e' : ε} :
    require p e = .error e' ↔ ¬p ∧ e' = e := by
  unfold require
  split <;> simp_all [eq_comm]

theorem bind_eq_ok {x : Except ε α} {f : α → Except ε β} {b : β} :
    (x >>= f) = .ok b ↔ ∃ a, x = .ok a ∧ f a = .ok b := by
  cases x <;> simp [Bind.bind, Except.bind]

theorem bind_eq_error {x : Except ε α} {f : α → Except ε β} {e : ε} :
    (x >>= f) = .error e ↔ x = .error e ∨ ∃ a, x = .ok a ∧ f a = .error e := by
  cases x <;> simp [Bind.bind, Except.bind]

@[simp] theorem ok_bind {a : α} {f : α → Except ε β} : (Except.ok a >>= f) = f a := rfl

@[simp] theorem error_bind {e : ε} {f : α → Except ε β} :
    ((Except.error e : Except ε α) >>= f) = .error e := rfl

theorem bind_map {γ : Type} {x : Except ε α} {f : α → Except ε β} {g : β → γ} :
    (x >>= f).map g = x >>= fun a => (f a).map g := by
  cases x with
  | error e => rfl
  | ok a => rfl

theorem map_bind {γ : Type} {x : Except ε α} {g : α → β} {f : β → Except ε γ} :
    x.map g >>= f = x >>= fun a => f (g a) := by
  cases x with
  | error e => rfl
  | ok a => rfl

@[simp] theorem require_bind_eq_ok {p : Prop} [Decidable p] {e : ε}
    {f : Unit → Except ε β} {b : β} :
    (require p e >>= f) = .ok b ↔ p ∧ f () = .ok b := by
  unfold require
  split <;> simp_all

/-- `a + b`, or `e` when that is not below `bound`. -/
def addBelow (bound : Nat) (e : ε) (a b : Nat) : Except ε Nat :=
  if a + b < bound then .ok (a + b) else .error e

theorem addBelow_eq_ok {bound a b c : Nat} {e : ε} :
    addBelow bound e a b = .ok c ↔ a + b < bound ∧ c = a + b := by
  unfold addBelow
  split
  case isTrue h => simp [h, eq_comm]
  case isFalse h => simp [h]

theorem require_of {p : Prop} [Decidable p] {e : ε} (h : p) : require p e = .ok () :=
  if_pos h

theorem require_of_not {p : Prop} [Decidable p] {e : ε} (h : ¬p) : require p e = .error e :=
  if_neg h

/-- A sequence fails with `e` only where one of its parts does. -/
theorem bind_ne_error {x : Except ε α} {f : α → Except ε β} {e : ε} (hx : x ≠ .error e)
    (hf : ∀ a, x = .ok a → f a ≠ .error e) : (x >>= f) ≠ .error e := by
  intro h
  rcases bind_eq_error.mp h with h | ⟨a, ha, h⟩
  · exact hx h
  · exact hf a ha h

theorem toOption_eq_some {x : Except ε α} {a : α} : x.toOption = some a ↔ x = .ok a := by
  cases x <;> simp [Except.toOption]

theorem isSome_toOption {x : Except ε α} : x.toOption.isSome ↔ ∃ a, x = .ok a := by
  cases x <;> simp [Except.toOption]

/-- Nothing is left of a computation that does not succeed. -/
theorem toOption_map_eq_none {f : α → β} {x : Except ε α} (h : ∀ a, x ≠ .ok a) :
    x.toOption.map f = none := by
  cases x with
  | error e => rfl
  | ok a => exact absurd rfl (h a)

theorem require_ne_error {p : Prop} [Decidable p] {e e' : ε} (h : e ≠ e') :
    require p e ≠ .error e' := by
  unfold require
  split
  · exact nofun
  · simpa using h

/-- Note `e` if `p` holds. -/
def noteIf (p : Prop) [Decidable p] (e : ε) : List ε :=
  if p then [e] else []

@[simp] theorem noteIf_eq_nil {p : Prop} [Decidable p] {e : ε} : noteIf p e = [] ↔ ¬p := by
  unfold noteIf
  split <;> simp_all

@[simp] theorem mem_noteIf {p : Prop} [Decidable p] {e e' : ε} :
    e' ∈ noteIf p e ↔ p ∧ e' = e := by
  unfold noteIf
  split <;> simp_all

end OverSync.Library
