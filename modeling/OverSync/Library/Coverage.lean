import Mathlib.Algebra.BigOperators.Group.List.Basic
import Mathlib.Algebra.Order.BigOperators.Group.List
import Mathlib.Algebra.Order.Monoid.Defs

/-! # Claims on a pool

Claims are open or not, each for an amount. A pool covers the open claims when it is enough for
any of them together, without a list of all claims. -/

namespace OverSync.Library

variable {ι Money : Type*} [AddCommMonoid Money]

theorem sum_eq_add_sum_erase [DecidableEq ι] {ids : List ι} {i : ι} (hi : i ∈ ids)
    (amount : ι → Money) :
    (ids.map amount).sum = amount i + ((ids.erase i).map amount).sum := by
  rw [((List.perm_cons_erase hi).map amount).sum_eq, List.map_cons, List.sum_cons]

variable [PartialOrder Money]

/-- `pool` is enough for every finite family of open claims. -/
def Covers (isOpen : ι → Prop) (amount : ι → Money) (pool : Money) : Prop :=
  ∀ ids : List ι, ids.Nodup → (∀ i ∈ ids, isOpen i) → (ids.map amount).sum ≤ pool

variable {isOpen isOpen' : ι → Prop} {amount amount' : ι → Money} {pool pool' : Money} {i : ι}

theorem Covers.amount_le (h : Covers isOpen amount pool) (hi : isOpen i) : amount i ≤ pool := by
  simpa using h [i] (by simp) (by simpa using hi)

/-- Fewer open claims and a larger pool. -/
theorem Covers.mono (h : Covers isOpen amount pool) (hopen : ∀ i, isOpen' i → isOpen i)
    (hamount : ∀ i, isOpen' i → amount' i = amount i) (hpool : pool ≤ pool') :
    Covers isOpen' amount' pool' := by
  intro ids hnodup hids
  have hsame : ids.map amount' = ids.map amount :=
    List.map_congr_left fun i hi => hamount i (hids i hi)
  rw [hsame]
  exact (h ids hnodup fun i hi => hopen i (hids i hi)).trans hpool

variable [IsOrderedCancelAddMonoid Money]

/-- A new claim is covered iff the pool without it covers the old ones. -/
theorem covers_opened_iff [DecidableEq ι] {a : Money} (ha : 0 ≤ a) (hnew : ¬isOpen i)
    (hopen : ∀ j, isOpen' j ↔ isOpen j ∨ j = i)
    (hold : ∀ j, isOpen j → amount' j = amount j) (hamount : amount' i = a) :
    Covers isOpen' amount' (pool + a) ↔ Covers isOpen amount pool := by
  constructor
  · intro h ids hnodup hids
    have hnotMem : i ∉ ids := fun hi => hnew (hids i hi)
    have hsame : ids.map amount' = ids.map amount :=
      List.map_congr_left fun j hj => hold j (hids j hj)
    have hall := h (i :: ids) (List.nodup_cons.mpr ⟨hnotMem, hnodup⟩) fun j hj => by
      rcases List.mem_cons.mp hj with rfl | hj
      · exact (hopen j).mpr (.inr rfl)
      · exact (hopen j).mpr (.inl (hids j hj))
    rw [List.map_cons, List.sum_cons, hamount, hsame, add_comm pool] at hall
    exact le_of_add_le_add_left hall
  · intro h ids hnodup hids
    by_cases hi : i ∈ ids
    · have hrest : ∀ j ∈ ids.erase i, isOpen j := by
        intro j hj
        obtain ⟨hne, hmem⟩ := hnodup.mem_erase_iff.mp hj
        exact ((hopen j).mp (hids j hmem)).resolve_right hne
      have hsame : (ids.erase i).map amount' = (ids.erase i).map amount :=
        List.map_congr_left fun j hj => hold j (hrest j hj)
      rw [sum_eq_add_sum_erase hi, hamount, hsame, add_comm]
      exact add_le_add_left (h _ (hnodup.erase i) hrest) a
    · have hrest : ∀ j ∈ ids, isOpen j := fun j hj =>
        ((hopen j).mp (hids j hj)).resolve_right fun heq => hi (heq ▸ hj)
      have hsame : ids.map amount' = ids.map amount :=
        List.map_congr_left fun j hj => hold j (hrest j hj)
      rw [hsame]
      exact (h ids hnodup hrest).trans (le_add_of_nonneg_right ha)

/-- A claim that is paid from the pool and closed. -/
theorem Covers.closed (h : Covers isOpen amount pool) (hi : isOpen i)
    (hopen : ∀ j, isOpen' j → isOpen j ∧ j ≠ i) (hamount : ∀ j, isOpen' j → amount' j = amount j)
    (hpool : pool ≤ pool' + amount i) : Covers isOpen' amount' pool' := by
  intro ids hnodup hids
  have hnotMem : i ∉ ids := fun hmem => (hopen i (hids i hmem)).2 rfl
  have hsame : ids.map amount' = ids.map amount :=
    List.map_congr_left fun j hj => hamount j (hids j hj)
  have hall := h (i :: ids) (List.nodup_cons.mpr ⟨hnotMem, hnodup⟩) fun j hj => by
    rcases List.mem_cons.mp hj with rfl | hj
    · exact hi
    · exact (hopen j (hids j hj)).1
  rw [List.map_cons, List.sum_cons] at hall
  rw [hsame]
  refine le_of_add_le_add_left (a := amount i) (hall.trans ?_)
  rw [add_comm (amount i)]
  exact hpool

end OverSync.Library
