import Mathlib.Data.List.Sort

/-! # What a stable sort keeps

A stable sort leaves the elements that tie in their order, and nothing else of the order. Two
lists are sorted to the same list exactly if they agree on the elements of each tie. -/

namespace OverSync.Library

open List

variable {α : Type*} (r : α → α → Prop)

/-- Neither of `a` and `b` has to come after the other. -/
def Ties (a b : α) : Prop :=
  r a b ∧ r b a

instance [DecidableRel r] : DecidableRel (Ties r) :=
  fun _ _ => inferInstanceAs (Decidable (_ ∧ _))

variable {r}

theorem ties_self [Std.Total r] (a : α) : Ties r a a :=
  ⟨refl_of r a, refl_of r a⟩

variable [DecidableRel r]

/-- Sorting leaves the elements that tie with `a` as they were. -/
theorem filter_ties_insertionSort [IsTrans α r] (xs : List α) (a : α) :
    (xs.insertionSort r).filter (Ties r a) = xs.filter (Ties r a) := by
  have hsorted : (xs.filter (Ties r a)).Pairwise r := by
    refine pairwise_of_forall_mem_list fun x hx y hy => ?_
    have hxa : Ties r a x := of_decide_eq_true (mem_filter.mp hx).2
    have hay : Ties r a y := of_decide_eq_true (mem_filter.mp hy).2
    exact trans_of r hxa.2 hay.1
  have hsub : xs.filter (Ties r a) <+ xs.insertionSort r :=
    sublist_insertionSort hsorted filter_sublist
  have hfilter := hsub.filter fun x => decide (Ties r a x)
  rw [filter_filter] at hfilter
  simp only [Bool.and_self] at hfilter
  exact (hfilter.eq_of_length ((perm_insertionSort r xs).filter _).length_eq.symm).symm

/-- Sorted lists that agree on every tie are equal. -/
theorem eq_of_filter_ties [Std.Total r] {xs ys : List α} (hxs : xs.Pairwise r)
    (hys : ys.Pairwise r) (heq : ∀ a, xs.filter (Ties r a) = ys.filter (Ties r a)) : xs = ys := by
  induction xs generalizing ys with
  | nil =>
      cases ys with
      | nil => rfl
      | cons y ys =>
          have hy : y ∈ (y :: ys).filter (Ties r y) :=
            mem_filter.mpr ⟨mem_cons_self, decide_eq_true (ties_self y)⟩
          rw [← heq y] at hy
          cases hy
  | cons x xs ih =>
      have hmem : ∀ {b : α}, b ∈ x :: xs ↔ b ∈ ys := by
        intro b
        have hb := congrArg (b ∈ ·) (heq b)
        simpa [mem_filter, ties_self b] using hb
      cases ys with
      | nil => exact absurd (hmem.mp mem_cons_self) not_mem_nil
      | cons y ys =>
          have hfirst : ∀ {b c : α} {cs : List α}, (c :: cs).Pairwise r → b ∈ c :: cs → r c b := by
            intro b c cs hcs hb
            rcases mem_cons.mp hb with rfl | hb
            · exact refl_of r b
            · exact rel_of_pairwise_cons hcs hb
          have htie : Ties r x y :=
            ⟨hfirst hxs (hmem.mpr mem_cons_self), hfirst hys (hmem.mp mem_cons_self)⟩
          have hhead : x = y := by
            have hcons := heq x
            rw [filter_cons_of_pos (by simpa using ties_self x),
              filter_cons_of_pos (by simpa using htie)] at hcons
            exact (cons.inj hcons).1
          subst hhead
          refine congrArg _ (ih hxs.tail hys.tail fun a => ?_)
          have hrest := heq a
          simp only [filter_cons] at hrest
          split at hrest
          · exact (cons.inj hrest).2
          · exact hrest

variable [Std.Total r] [IsTrans α r]

section Picking

variable {β : Type*} {s : β → β → Prop} [DecidableRel s] {f : α → Option β}
  (hf : ∀ {a b c d}, f a = some c → f b = some d → (r a b ↔ s c d))

include hf

omit [Std.Total r] in
theorem filterMap_orderedInsert (a : α) {xs : List α} (hxs : xs.Pairwise r) :
    (xs.orderedInsert r a).filterMap f =
      match f a with
      | none => xs.filterMap f
      | some c => (xs.filterMap f).orderedInsert s c := by
  induction xs with
  | nil => cases hfa : f a <;> simp [hfa]
  | cons b xs ih =>
      by_cases hab : r a b
      · rw [orderedInsert_cons_of_le r xs hab]
        cases hfa : f a with
        | none => exact filterMap_cons_none hfa
        | some c =>
            rw [filterMap_cons_some hfa]
            have hbelow : ∀ d ∈ (b :: xs).filterMap f, s c d := by
              intro d hd
              obtain ⟨e, he, hfe⟩ := mem_filterMap.mp hd
              refine (hf hfa hfe).mp ?_
              rcases mem_cons.mp he with rfl | he
              · exact hab
              · exact trans_of r hab (rel_of_pairwise_cons hxs he)
            cases hpicked : (b :: xs).filterMap f with
            | nil => rfl
            | cons d ds =>
                rw [hpicked] at hbelow
                exact (orderedInsert_cons_of_le s ds (hbelow d mem_cons_self)).symm
      · rw [orderedInsert_of_not_le r xs hab]
        have hrest := ih hxs.tail
        cases hfb : f b with
        | none => rw [filterMap_cons_none hfb, filterMap_cons_none hfb, hrest]
        | some d =>
            rw [filterMap_cons_some hfb, filterMap_cons_some hfb, hrest]
            cases hfa : f a with
            | none => rfl
            | some c =>
                have hcd : ¬ s c d := fun h => hab ((hf hfa hfb).mpr h)
                exact (orderedInsert_of_not_le s _ hcd).symm

/-- Picking from a sorted list is sorting what is picked. -/
theorem filterMap_insertionSort (xs : List α) :
    (xs.insertionSort r).filterMap f = (xs.filterMap f).insertionSort s := by
  induction xs with
  | nil => rfl
  | cons a xs ih =>
      rw [insertionSort_cons, filterMap_orderedInsert hf a (pairwise_insertionSort r xs), ih]
      cases hfa : f a with
      | none => rw [filterMap_cons_none hfa]
      | some c => rw [filterMap_cons_some hfa, insertionSort_cons]

end Picking

/-- Sorting keeps the sequence of distinct labels only of a list that is sorted already. -/
theorem map_insertionSort_eq_iff {β : Type*} {g : α → β} {xs : List α} (hnodup : (xs.map g).Nodup) :
    (xs.insertionSort r).map g = xs.map g ↔ xs.Pairwise r := by
  constructor
  · intro hmap
    have hsame : xs.insertionSort r = xs := by
      refine ext_getElem (length_insertionSort r xs) fun n h h' => ?_
      have hlabel := congrArg (·[n]?) hmap
      simp only [getElem?_map, getElem?_eq_getElem h, getElem?_eq_getElem h', Option.map_some,
        Option.some.injEq] at hlabel
      have hmem : (xs.insertionSort r)[n] ∈ xs := (mem_insertionSort r).mp (getElem_mem h)
      exact inj_on_of_nodup_map hnodup hmem (getElem_mem h') hlabel
    rw [← hsame]
    exact pairwise_insertionSort r xs
  · intro hsorted
    rw [hsorted.insertionSort_eq]

theorem insertionSort_eq_iff (xs ys : List α) :
    xs.insertionSort r = ys.insertionSort r ↔
      ∀ a, xs.filter (Ties r a) = ys.filter (Ties r a) := by
  constructor
  · intro heq a
    rw [← filter_ties_insertionSort xs a, heq, filter_ties_insertionSort ys a]
  · intro heq
    refine eq_of_filter_ties (pairwise_insertionSort r xs) (pairwise_insertionSort r ys)
      fun a => ?_
    rw [filter_ties_insertionSort, filter_ties_insertionSort, heq a]

end OverSync.Library
