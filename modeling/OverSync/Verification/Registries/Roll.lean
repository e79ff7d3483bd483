import Mathlib.Algebra.Ring.Int.Defs
import Mathlib.Data.Int.Notation
import Mathlib.Data.Nat.Notation
import Mathlib.Logic.Function.Basic
import Mathlib.Tactic.Common

/-! # The roll of resolvers

What a resolver registry is for, with neither list nor balance: who is registered, with what
stake, and who counts as active. Two design choices are left open: whether a top-up brings an
inactive resolver back, and whether activity is read off the flag alone. -/

namespace OverSync.Registries

open Function

abbrev Address := ℕ

structure Entry where
  stake : ℤ
  slashed : ℤ
  active : Bool
  deriving DecidableEq, Repr

structure Roll where
  owner : Address
  minStake : ℤ
  entry : Address → Option Entry

/-- What a caller asks of a registry; amounts are not negative. -/
inductive Action where
  | register (stake : ℕ)
  | increaseStake (additional : ℕ)
  | unregister
  | slash (resolver : Address) (amount : ℕ)
  | setMinStake (newMinStake : ℕ)
  deriving DecidableEq, Repr

def Entry.raised (e : Entry) (reactivates : Bool) (additional : ℕ) (minStake : ℤ) : Entry :=
  { e with
    stake := e.stake + additional
    active := if reactivates = true ∧ minStake ≤ e.stake + additional then true else e.active }

def Entry.cut (e : Entry) (amount : ℕ) (minStake : ℤ) : Entry where
  stake := e.stake - min (amount : ℤ) e.stake
  slashed := e.slashed + min (amount : ℤ) e.stake
  active := if e.stake - min (amount : ℤ) e.stake < minStake then false else e.active

namespace Roll

variable (r : Roll) (caller : Address)

def set (a : Address) (e : Option Entry) : Roll :=
  { r with entry := update r.entry a e }

/-- One action; `none` where the registry refuses. -/
def step (reactivates : Bool) : Action → Option Roll
  | .register stake =>
      if r.minStake ≤ stake ∧ r.entry caller = none then
        some (r.set caller (some ⟨stake, 0, true⟩))
      else none
  | .increaseStake additional =>
      if additional ≠ 0 then
        (r.entry caller).map fun e =>
          r.set caller (some (e.raised reactivates additional r.minStake))
      else none
  | .unregister => (r.entry caller).map fun _ => r.set caller none
  | .slash resolver amount =>
      if caller = r.owner ∧ amount ≠ 0 then
        (r.entry resolver).map fun e => r.set resolver (some (e.cut amount r.minStake))
      else none
  | .setMinStake newMinStake =>
      if caller = r.owner then some { r with minStake := newMinStake } else none

/-- The flag of a resolver. -/
def flag (a : Address) : Bool := ((r.entry a).map Entry.active).getD false

/-- The flag of a resolver, as long as its stake reaches the minimum. -/
def staked (a : Address) : Bool :=
  ((r.entry a).map fun e => e.active && decide (r.minStake ≤ e.stake)).getD false

def stake (a : Address) : ℤ := ((r.entry a).map Entry.stake).getD 0

/-- `i128` -/
def InRange (x : ℤ) : Prop := -2 ^ 127 ≤ x ∧ x < 2 ^ 127

/-- The action leads out of the range of no number. -/
def Fits : Action → Prop
  | .register stake => InRange stake
  | .increaseStake additional => ∀ e ∈ r.entry caller, InRange (e.stake + additional)
  | .unregister => True
  | .slash resolver amount => ∀ e ∈ r.entry resolver, InRange (e.slashed + min (amount : ℤ) e.stake)
  | .setMinStake newMinStake => InRange newMinStake

/-- Every stake is an amount of at most 127 bits. -/
def Bounded : Prop := ∀ a, ∀ e ∈ r.entry a, 0 ≤ e.stake ∧ e.stake < 2 ^ 127

/-- Every flag that is up has the minimum behind it. -/
def Supported : Prop := ∀ a, ∀ e ∈ r.entry a, e.active = true → r.minStake ≤ e.stake

/-- The action brings nobody back by a top-up and lifts the minimum over no stake behind a
flag. -/
def KeepsActivity : Action → Prop
  | .increaseStake additional => ∀ e ∈ r.entry caller, additional ≠ 0 → e.active = false →
      e.stake + additional < r.minStake
  | .setMinStake newMinStake => caller = r.owner →
      ∀ a, ∀ e ∈ r.entry a, e.active = true → (newMinStake : ℤ) ≤ e.stake
  | _ => True

variable {r : Roll} {caller : Address} {reactivates : Bool} {action : Action} {r' : Roll}

@[simp] theorem set_entry_self (a : Address) (e : Option Entry) :
    (r.set a e).entry a = e := by
  simp [set]

theorem set_entry_of_ne {a b : Address} (h : b ≠ a) (e : Option Entry) :
    (r.set a e).entry b = r.entry b := by
  simp [set, h]

@[simp] theorem set_minStake (a : Address) (e : Option Entry) :
    (r.set a e).minStake = r.minStake := rfl

/-! ## When the two designs agree -/

/-- Behind supported flags, the flag alone tells the same as the flag and the minimum. -/
theorem Supported.staked_eq_flag (h : r.Supported) (a : Address) : r.staked a = r.flag a := by
  unfold staked flag
  cases he : r.entry a with
  | none => rfl
  | some e =>
      cases hactive : e.active with
      | false => simp [hactive]
      | true => simpa [hactive] using h a e he hactive

theorem Supported.set {a : Address} {o : Option Entry} (h : r.Supported)
    (ho : ∀ e ∈ o, e.active = true → r.minStake ≤ e.stake) : (r.set a o).Supported := by
  intro b e he
  by_cases hb : b = a
  · subst hb
    rw [set_entry_self] at he
    exact ho e he
  · rw [set_entry_of_ne hb] at he
    exact h b e he

theorem raised_supported {e : Entry} {additional : ℕ} (h : e.active = true → r.minStake ≤ e.stake)
    (hactive : (e.raised reactivates additional r.minStake).active = true) :
    r.minStake ≤ (e.raised reactivates additional r.minStake).stake := by
  simp only [Entry.raised] at hactive ⊢
  split at hactive
  case isTrue hback => exact hback.2
  case isFalse =>
      have hmin := h hactive
      omega

theorem cut_supported {e : Entry} {amount : ℕ}
    (hactive : (e.cut amount r.minStake).active = true) :
    r.minStake ≤ (e.cut amount r.minStake).stake := by
  simp only [Entry.cut] at hactive ⊢
  split at hactive
  · cases hactive
  · omega

/-- Actions that keep activity keep every flag supported. -/
theorem Supported.step (h : r.Supported) (hkeeps : r.KeepsActivity caller action)
    (hstep : r.step caller reactivates action = some r') : r'.Supported := by
  cases action with
  | register stake =>
      simp only [Roll.step, Option.ite_none_right_eq_some] at hstep
      obtain ⟨⟨hmin, -⟩, hr'⟩ := hstep
      obtain rfl := Option.some.inj hr'
      refine h.set fun e he _ => ?_
      obtain rfl := Option.some.inj he
      exact hmin
  | increaseStake additional =>
      simp only [Roll.step, Option.ite_none_right_eq_some, Option.map_eq_some_iff] at hstep
      obtain ⟨-, e, he, rfl⟩ := hstep
      refine h.set fun e' he' hactive => ?_
      obtain rfl := Option.some.inj he'
      exact raised_supported (h caller e he) hactive
  | unregister =>
      simp only [Roll.step, Option.map_eq_some_iff] at hstep
      obtain ⟨e, -, rfl⟩ := hstep
      exact h.set nofun
  | slash resolver amount =>
      simp only [Roll.step, Option.ite_none_right_eq_some, Option.map_eq_some_iff] at hstep
      obtain ⟨-, e, he, rfl⟩ := hstep
      refine h.set fun e' he' hactive => ?_
      obtain rfl := Option.some.inj he'
      exact cut_supported hactive
  | setMinStake newMinStake =>
      simp only [Roll.step, Option.ite_none_right_eq_some] at hstep
      obtain ⟨howner, hr'⟩ := hstep
      obtain rfl := Option.some.inj hr'
      exact hkeeps howner

theorem Bounded.set {a : Address} {o : Option Entry} (h : r.Bounded)
    (ho : ∀ e ∈ o, 0 ≤ e.stake ∧ e.stake < 2 ^ 127) : (r.set a o).Bounded := by
  intro b e he
  by_cases hb : b = a
  · subst hb
    rw [set_entry_self] at he
    exact ho e he
  · rw [set_entry_of_ne hb] at he
    exact h b e he

theorem Bounded.step (h : r.Bounded) (hfits : r.Fits caller action)
    (hstep : r.step caller reactivates action = some r') : r'.Bounded := by
  cases action with
  | register stake =>
      simp only [Roll.step, Option.ite_none_right_eq_some] at hstep
      obtain ⟨-, hr'⟩ := hstep
      obtain rfl := Option.some.inj hr'
      refine h.set fun e he => ?_
      obtain rfl := Option.some.inj he
      exact ⟨Int.natCast_nonneg stake, hfits.2⟩
  | increaseStake additional =>
      simp only [Roll.step, Option.ite_none_right_eq_some, Option.map_eq_some_iff] at hstep
      obtain ⟨-, e, he, rfl⟩ := hstep
      refine h.set fun e' he' => ?_
      obtain rfl := Option.some.inj he'
      have hold := h caller e he
      have hnew := hfits e he
      simp only [InRange] at hnew
      simp only [Entry.raised]
      omega
  | unregister =>
      simp only [Roll.step, Option.map_eq_some_iff] at hstep
      obtain ⟨e, -, rfl⟩ := hstep
      exact h.set nofun
  | slash resolver amount =>
      simp only [Roll.step, Option.ite_none_right_eq_some, Option.map_eq_some_iff] at hstep
      obtain ⟨-, e, he, rfl⟩ := hstep
      refine h.set fun e' he' => ?_
      obtain rfl := Option.some.inj he'
      have hold := h resolver e he
      simp only [Entry.cut]
      omega
  | setMinStake newMinStake =>
      simp only [Roll.step, Option.ite_none_right_eq_some] at hstep
      obtain ⟨-, hr'⟩ := hstep
      obtain rfl := Option.some.inj hr'
      exact h

/-- Where no top-up brings anybody back, it does not matter whether it could. -/
theorem step_eq (hkeeps : r.KeepsActivity caller action) :
    r.step caller true action = r.step caller false action := by
  cases action with
  | register stake => rfl
  | increaseStake additional =>
      simp only [Roll.step]
      split
      case isFalse => rfl
      case isTrue hne =>
          refine Option.map_congr fun e he => ?_
          have hraised : e.raised true additional r.minStake =
              e.raised false additional r.minStake := by
            cases hactive : e.active with
            | true => simp [Entry.raised, hactive]
            | false =>
                have hlt := hkeeps e he hne hactive
                have hnot : ¬r.minStake ≤ e.stake + additional := by omega
                simp [Entry.raised, hactive, hnot]
          rw [hraised]
  | unregister => rfl
  | slash resolver amount => rfl
  | setMinStake newMinStake => rfl

theorem step_isSome :
    (r.step caller true action).isSome = (r.step caller false action).isSome := by
  cases action with
  | register stake => rfl
  | increaseStake additional =>
      simp only [Roll.step]
      split <;> simp
  | unregister => rfl
  | slash resolver amount => rfl
  | setMinStake newMinStake => rfl

/-- The two designs answer alike after an action exactly when it keeps activity. -/
theorem agree_iff (h : r.Supported) :
    (∀ a, ((r.step caller true action).getD r).staked a =
        ((r.step caller false action).getD r).flag a ∧
      ((r.step caller true action).getD r).stake a =
        ((r.step caller false action).getD r).stake a) ↔
      r.KeepsActivity caller action := by
  constructor
  · intro hagree
    cases action with
    | increaseStake additional =>
        intro e he hne hactive
        by_contra hle
        have hmin : r.minStake ≤ e.stake + additional := by omega
        have hcaller := (hagree caller).1
        have hentry : r.entry caller = some e := he
        simp [Roll.step, hne, hentry, staked, flag, Entry.raised, hmin, hactive] at hcaller
    | setMinStake newMinStake =>
        intro howner a e he hactive
        have hentry : r.entry a = some e := he
        have ha := (hagree a).1
        simpa [Roll.step, howner, staked, flag, hentry, hactive] using ha
    | register stake => trivial
    | unregister => trivial
    | slash resolver amount => trivial
  · intro hkeeps a
    rw [step_eq hkeeps]
    refine ⟨Supported.staked_eq_flag ?_ a, rfl⟩
    cases hstep : r.step caller false action with
    | none => exact h
    | some r' => exact h.step hkeeps hstep

end Roll

end OverSync.Registries
