import Mathlib.Algebra.Ring.Int.Defs
import Mathlib.Data.List.Induction
import Mathlib.Order.Basic
import Mathlib.Tactic.Common

/-! # Fixed-window counters

The first hit opens a window. Hits join it until its width is over; the next one opens another.
The first `limit` hits of a window are admitted. -/

namespace OverSync.Library.FixedWindow

structure Window where
  startedAt : ℤ
  count : ℕ
  deriving DecidableEq, Repr

/-- The window of a hit. -/
def hit (width now : ℤ) : Option Window → Window
  | none => ⟨now, 1⟩
  | some window =>
    if width ≤ now - window.startedAt then ⟨now, 1⟩ else ⟨window.startedAt, window.count + 1⟩

/-- The window after a hit, and the admitted hits so far. -/
def step (limit : ℕ) (width : ℤ) (seen : Option Window × List ℤ) (now : ℤ) :
    Option Window × List ℤ :=
  let window := hit width now seen.1
  (some window, if window.count ≤ limit then seen.2 ++ [now] else seen.2)

def serve (limit : ℕ) (width : ℤ) (times : List ℤ) : Option Window × List ℤ :=
  times.foldl (step limit width) (none, [])

def current (limit : ℕ) (width : ℤ) (times : List ℤ) : Option Window :=
  (serve limit width times).1

def admitted (limit : ℕ) (width : ℤ) (times : List ℤ) : List ℤ :=
  (serve limit width times).2

/-- The number of admitted hits from `t` on and before `u`. -/
def admittedWithin (limit : ℕ) (width : ℤ) (times : List ℤ) (t u : ℤ) : ℕ :=
  (admitted limit width times).countP fun s => t ≤ s ∧ s < u

variable {limit : ℕ} {width : ℤ} {times : List ℤ} {now t u : ℤ} {window : Window}

theorem serve_snoc : serve limit width (times ++ [now]) =
    step limit width (serve limit width times) now := by
  rw [serve, List.foldl_append, serve, List.foldl_cons, List.foldl_nil]

theorem current_snoc : current limit width (times ++ [now]) =
    some (hit width now (current limit width times)) := by
  rw [current, serve_snoc, step, current]

theorem admitted_snoc : admitted limit width (times ++ [now]) =
    if (hit width now (current limit width times)).count ≤ limit
      then admitted limit width times ++ [now] else admitted limit width times := by
  rw [admitted, serve_snoc, step, current, admitted]

theorem admittedWithin_snoc : admittedWithin limit width (times ++ [now]) t u =
    admittedWithin limit width times t u +
      if (hit width now (current limit width times)).count ≤ limit ∧ t ≤ now ∧ now < u
        then 1 else 0 := by
  rw [admittedWithin, admitted_snoc, admittedWithin]
  by_cases hcount : (hit width now (current limit width times)).count ≤ limit
  · rw [if_pos hcount, List.countP_append]
    simp [hcount, List.countP_cons]
  · rw [if_neg hcount]
    simp [hcount]

theorem mem_of_mem_admitted : ∀ s ∈ admitted limit width times, s ∈ times := by
  induction times using List.reverseRecOn with
  | nil => simp [admitted, serve]
  | append_singleton times now ih =>
      intro s hs
      rw [admitted_snoc] at hs
      split at hs
      · rcases List.mem_append.mp hs with hs | hs
        · exact List.mem_append_left _ (ih s hs)
        · exact List.mem_append_right _ hs
      · exact List.mem_append_left _ (ih s hs)

/-- Nothing is admitted before the first hit. -/
theorem admittedWithin_eq_zero (h : ∀ s ∈ times, s < t) :
    admittedWithin limit width times t u = 0 := by
  rw [admittedWithin, List.countP_eq_zero]
  intro s hs
  have hlt := h s (mem_of_mem_admitted s hs)
  simp only [decide_eq_true_eq]
  omega

/-- What the open window says about all hits so far. -/
structure Tracks (limit : ℕ) (width : ℤ) (times : List ℤ) (window : Window) : Prop where
  started : ∀ s ∈ times, s < window.startedAt + width
  opened : window.startedAt ∈ times
  /-- The admitted hits of the window itself. -/
  own : admittedWithin limit width times window.startedAt (window.startedAt + width) =
    min window.count limit
  /-- Before an interval that the window began before, nothing else counts. -/
  before : ∀ t, window.startedAt < t → admittedWithin limit width times t (t + width) ≤
    min window.count limit
  /-- In an interval that the window began in, at most one window came before it. -/
  inside : ∀ t, window.startedAt < t + width → admittedWithin limit width times t (t + width) ≤
    limit + min window.count limit
  always : ∀ t, admittedWithin limit width times t (t + width) ≤ 2 * limit

/-- A hit that opens a window, after hits that are over. -/
theorem tracks_opened (hwidth : 0 < width) (hbefore : ∀ s ∈ times, s ≤ now)
    (hopens : hit width now (current limit width times) = ⟨now, 1⟩)
    (hover : ∀ s ∈ times, s < now)
    (hold : ∀ t, t ≤ now → now < t + width → admittedWithin limit width times t (t + width) ≤ limit)
    (halways : ∀ t, admittedWithin limit width times t (t + width) ≤ 2 * limit) :
    Tracks limit width (times ++ [now]) ⟨now, 1⟩ := by
  have hnone (t : ℤ) (ht : now < t) : admittedWithin limit width times t (t + width) = 0 :=
    admittedWithin_eq_zero fun s hs => by
      have hle := hbefore s hs
      omega
  have hnow : admittedWithin limit width times now (now + width) = 0 := admittedWithin_eq_zero hover
  refine ⟨fun s hs => ?_, by simp, ?_, fun t ht => ?_, fun t ht => ?_, fun t => ?_⟩
  · rcases List.mem_append.mp hs with hs | hs
    · have hle := hbefore s hs
      simp only
      omega
    · rw [List.mem_singleton.mp hs]
      simp only
      omega
  all_goals rw [admittedWithin_snoc, hopens]
  · simp only [hnow]
    split_ifs <;> omega
  · simp only at ht ⊢
    rw [hnone t ht, if_neg (by omega)]
    omega
  · simp only at ht ⊢
    by_cases hle : t ≤ now
    · have h := hold t hle ht
      split_ifs <;> omega
    · rw [hnone t (by omega), if_neg (by omega)]
      omega
  · have h := halways t
    by_cases hin : t ≤ now ∧ now < t + width
    · have h' := hold t hin.1 hin.2
      simp only
      split_ifs <;> omega
    · rw [if_neg (fun hall => hin hall.2)]
      omega

/-- A hit that joins the window. -/
theorem Tracks.join (h : Tracks limit width times window)
    (hjoins : hit width now (current limit width times) = ⟨window.startedAt, window.count + 1⟩)
    (hwindow : now - window.startedAt < width) (hbefore : ∀ s ∈ times, s ≤ now) :
    Tracks limit width (times ++ [now]) ⟨window.startedAt, window.count + 1⟩ := by
  have hopened := hbefore _ h.opened
  refine ⟨fun s hs => ?_, List.mem_append_left _ h.opened, ?_, fun t ht => ?_, fun t ht => ?_,
    fun t => ?_⟩
  · rcases List.mem_append.mp hs with hs | hs
    · exact h.started s hs
    · rw [List.mem_singleton.mp hs]
      simp only
      omega
  all_goals rw [admittedWithin_snoc, hjoins]
  · have hown := h.own
    simp only
    split_ifs <;> omega
  · have hbound := h.before t ht
    simp only
    split_ifs <;> omega
  · have hbound := h.inside t ht
    simp only
    split_ifs <;> omega
  · have hbound := h.always t
    by_cases hin : t ≤ now ∧ now < t + width
    · have hinside := h.inside t (by omega)
      simp only
      split_ifs <;> omega
    · rw [if_neg (fun hall => hin hall.2)]
      omega

/-- With a clock that does not go back, the open window tracks all hits. -/
theorem tracks_current (limit : ℕ) (hwidth : 0 < width) (htimes : times.Pairwise (· ≤ ·)) :
    (current limit width times = none ∧ times = []) ∨
      ∃ window, current limit width times = some window ∧ Tracks limit width times window := by
  induction times using List.reverseRecOn with
  | nil => exact .inl ⟨rfl, rfl⟩
  | append_singleton times now ih =>
      obtain ⟨hpast, -, hlast⟩ := List.pairwise_append.mp htimes
      have hbefore (s : ℤ) (hs : s ∈ times) : s ≤ now := hlast s hs now (List.mem_singleton_self _)
      refine .inr ⟨_, current_snoc, ?_⟩
      rcases ih hpast with ⟨hnone, rfl⟩ | ⟨window, hwindow, htracks⟩
      · rw [hnone]
        exact tracks_opened hwidth hbefore (by rw [hnone]; rfl) (by simp)
          (fun t _ _ => (admittedWithin_eq_zero (by simp)).trans_le (Nat.zero_le _))
          (fun t => (admittedWithin_eq_zero (by simp)).trans_le (Nat.zero_le _))
      · by_cases hover : width ≤ now - window.startedAt
        · have hhit : hit width now (current limit width times) = ⟨now, 1⟩ := by
            rw [hwindow, hit, if_pos hover]
          rw [hhit]
          refine tracks_opened hwidth hbefore hhit (fun s hs => ?_) (fun t hle hlt => ?_)
            htracks.always
          · have hs := htracks.started s hs
            omega
          · exact (htracks.before t (by omega)).trans (Nat.min_le_right _ _)
        · have hhit : hit width now (current limit width times) =
              ⟨window.startedAt, window.count + 1⟩ := by
            rw [hwindow, hit, if_neg hover]
          rw [hhit]
          exact htracks.join hhit (by omega) hbefore

/-- No interval of the width of a window sees more than twice the limit. -/
theorem admittedWithin_le (hwidth : 0 < width) (htimes : times.Pairwise (· ≤ ·)) (t : ℤ) :
    admittedWithin limit width times t (t + width) ≤ 2 * limit := by
  rcases tracks_current limit hwidth htimes with ⟨-, rfl⟩ | ⟨window, -, htracks⟩
  · exact (admittedWithin_eq_zero (by simp)).trans_le (Nat.zero_le _)
  · exact htracks.always t

/-- A hit that is turned away comes after `limit` admitted ones less than a width ago. -/
theorem limit_le_of_rejected (hwidth : 0 < width)
    (htimes : (times ++ [now]).Pairwise (· ≤ ·)) (hlimit : 0 < limit)
    (hrejected : limit < (hit width now (current limit width times)).count) :
    limit ≤ admittedWithin limit width times (now - width + 1) (now + 1) := by
  obtain ⟨hpast, -, hlast⟩ := List.pairwise_append.mp htimes
  rcases tracks_current limit hwidth hpast with ⟨hnone, -⟩ | ⟨window, hwindow, htracks⟩
  · rw [hnone] at hrejected
    simp only [hit] at hrejected
    omega
  · rw [hwindow, hit] at hrejected
    split at hrejected
    · simp only at hrejected
      omega
    · next hopen =>
        have hown := htracks.own
        simp only at hrejected
        have hall : admittedWithin limit width times window.startedAt (window.startedAt + width) ≤
            admittedWithin limit width times (now - width + 1) (now + 1) := by
          refine List.countP_mono_left fun s hs hin => ?_
          have hle := hlast s (mem_of_mem_admitted s hs) now (List.mem_singleton_self _)
          simp only [decide_eq_true_eq] at hin ⊢
          omega
        omega

end OverSync.Library.FixedWindow
