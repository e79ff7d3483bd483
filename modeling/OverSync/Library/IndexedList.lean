import Mathlib.Data.List.Nodup
import Mathlib.Logic.Function.Basic

/-! # Lists with an index of their elements

A list without duplicates beside a map that gives each element its place, counted from one.
Removing an element moves the last one into its place, so that both operations touch a
constant number of entries. -/

namespace OverSync.Library

open Function

/-- A list and the places of its elements; an element that is not listed has place zero. -/
structure IndexedList (α : Type*) where
  items : List α
  place : α → ℕ
  place_eq : ∀ a i, place a = i + 1 ↔ items[i]? = some a

namespace IndexedList

variable {α : Type*} (l : IndexedList α) {a b : α}

def empty : IndexedList α where
  items := []
  place := fun _ => 0
  place_eq := by simp

/-! ## Places -/

theorem place_ne_zero : l.place a ≠ 0 ↔ a ∈ l.items := by
  rw [List.mem_iff_getElem?]
  constructor
  · intro h
    exact ⟨l.place a - 1, (l.place_eq a _).mp (by omega)⟩
  · rintro ⟨i, hi⟩
    have hplace := (l.place_eq a i).mpr hi
    omega

theorem place_eq_zero : l.place a = 0 ↔ a ∉ l.items := by
  rw [← l.place_ne_zero]
  omega

theorem place_le : l.place a ≤ l.items.length := by
  by_cases h : l.place a = 0
  · omega
  · have hget := (l.place_eq a (l.place a - 1)).mp (by omega)
    have hlt := (List.getElem?_eq_some_iff.mp hget).1
    omega

theorem nodup : l.items.Nodup := by
  rw [List.nodup_iff_getElem?_ne_getElem?]
  intro i j hij hj h
  have hget : l.items[i]? = some l.items[i] := List.getElem?_eq_getElem (by omega)
  have hi := (l.place_eq _ i).mpr hget
  have hj' := (l.place_eq _ j).mpr (h ▸ hget)
  omega

/-- Two elements in one place are the same. -/
theorem eq_of_place (h : l.place a = l.place b) (ha : a ∈ l.items) : a = b := by
  have hne := l.place_ne_zero.mpr ha
  have hgeta := (l.place_eq a (l.place a - 1)).mp (by omega)
  have hgetb := (l.place_eq b (l.place a - 1)).mp (by omega)
  rw [hgeta] at hgetb
  exact Option.some.inj hgetb

theorem place_last {last : α} (h : l.items.getLast? = some last) :
    l.place last = l.items.length := by
  have hpos : l.items ≠ [] := by
    intro hnil
    simp [hnil] at h
  have hlength := List.length_pos_iff.mpr hpos
  rw [List.getLast?_eq_getElem?] at h
  have hplace := (l.place_eq last _).mpr h
  omega

/-! ## Adding at the end -/

variable [DecidableEq α]

def push (a : α) (h : a ∉ l.items) : IndexedList α where
  items := l.items ++ [a]
  place := update l.place a (l.items.length + 1)
  place_eq := by
    intro b i
    rw [List.getElem?_append]
    by_cases hb : b = a
    · subst hb
      rw [update_self]
      split
      case isTrue hi =>
          have hne : l.items[i]? ≠ some b := fun hget => h (List.mem_of_getElem? hget)
          simp only [hne, iff_false]
          omega
      case isFalse hi =>
          rw [List.getElem?_singleton]
          split
          · simp
            omega
          · simp
            omega
    · rw [update_of_ne hb, l.place_eq]
      split
      · exact Iff.rfl
      case isFalse hi =>
          rw [List.getElem?_eq_none (by omega), List.getElem?_singleton]
          split <;> simp [Ne.symm hb]

/-! ## Removing an element -/

/-- The last element moves into the place of the one removed. -/
def swapRemove (a last : α) (ha : a ∈ l.items) (h : l.items.getLast? = some last) :
    IndexedList α where
  items := (l.items.set (l.place a - 1) last).dropLast
  place := update (update l.place last (l.place a)) a 0
  place_eq := by
    intro b i
    have hplace := l.place_ne_zero.mpr ha
    have hle := l.place_le (a := a)
    have hlast := l.place_last h
    rw [List.getElem?_dropLast, List.length_set, List.getElem?_set]
    by_cases hb : b = a
    · -- the element removed is in no place
      subst hb
      rw [update_self]
      split
      case isTrue hi =>
          split
          case isTrue hpi =>
              have hne : b ≠ last := by
                rintro rfl
                omega
              simp [hne.symm]
          case isFalse hpi =>
              have hget := l.place_eq b i
              rw [← hget]
              omega
      case isFalse hi => simp
    · rw [update_of_ne hb]
      by_cases hbl : b = last
      · -- the last element is where the removed one was
        subst hbl
        rw [update_self]
        have hne : l.place a ≠ l.items.length := fun heq =>
          hb (l.eq_of_place (heq.trans hlast.symm) ha).symm
        split
        case isTrue hi =>
            split
            case isTrue hpi =>
                rw [if_pos (by omega)]
                simp
                omega
            case isFalse hpi =>
                rw [← l.place_eq b i]
                omega
        case isFalse hi =>
            simp
            omega
      · rw [update_of_ne hbl]
        have hget := l.place_eq b i
        have hbound := l.place_le (a := b)
        have hne : l.place b ≠ l.items.length ∨ l.place b = 0 := by
          by_cases hzero : l.place b = 0
          · exact .inr hzero
          · refine .inl fun heq => hbl ?_
            exact l.eq_of_place (heq.trans hlast.symm) (l.place_ne_zero.mp hzero)
        split
        case isTrue hi =>
            split
            case isTrue hpi =>
                have hab : l.place b ≠ l.place a := fun heq => hb (l.eq_of_place heq.symm ha).symm
                rw [if_pos (by omega)]
                simp [Ne.symm hbl]
                omega
            case isFalse hpi => exact hget
        case isFalse hi =>
            simp
            omega

variable {l}

theorem mem_swapRemove {last : α} (ha : a ∈ l.items) (h : l.items.getLast? = some last) :
    b ∈ (l.swapRemove a last ha h).items ↔ b ≠ a ∧ b ∈ l.items := by
  rw [← place_ne_zero, ← place_ne_zero]
  have hlast := l.place_last h
  have hplace := l.place_ne_zero.mpr ha
  have hle := l.place_le (a := a)
  by_cases hb : b = a
  · simp [swapRemove, hb]
  · by_cases hbl : b = last
    · subst hbl
      simp [swapRemove, hb]
      omega
    · simp [swapRemove, hb, hbl]

/-- Nothing but the element removed is lost. -/
theorem swapRemove_perm {last : α} (ha : a ∈ l.items) (h : l.items.getLast? = some last) :
    l.items.Perm (a :: (l.swapRemove a last ha h).items) := by
  have hnotMem : a ∉ (l.swapRemove a last ha h).items := by
    simp [mem_swapRemove]
  rw [List.perm_ext_iff_of_nodup l.nodup
    (List.nodup_cons.mpr ⟨hnotMem, (l.swapRemove a last ha h).nodup⟩)]
  intro b
  rw [List.mem_cons, mem_swapRemove]
  by_cases hb : b = a
  · simp [hb, ha]
  · simp [hb]

end IndexedList

end OverSync.Library
