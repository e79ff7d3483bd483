import Mathlib.Data.List.Basic
import Mathlib.Data.List.Count
import Mathlib.Tactic.Common

/-! # Gathering by keys

`gather r ks xs` lists, for one key after the other, the elements of `xs` that have it. -/

namespace OverSync.Library

variable {α κ : Type*} {r : κ → α → Bool} {ks : List κ} {xs : List α}

def gather (r : κ → α → Bool) (ks : List κ) (xs : List α) : List α :=
  ks.flatMap fun k => xs.filter (r k)

/-- The place of the first key that `x` has. -/
def rank (r : κ → α → Bool) (ks : List κ) (x : α) : ℕ :=
  ks.findIdx fun k => r k x

/-- The number of keys that `x` has. -/
def hits (r : κ → α → Bool) (ks : List κ) (x : α) : ℕ :=
  ks.countP fun k => r k x

theorem gather_cons (k : κ) (ks : List κ) (xs : List α) :
    gather r (k :: ks) xs = xs.filter (r k) ++ gather r ks xs :=
  List.flatMap_cons

theorem mem_gather {x : α} : x ∈ gather r ks xs ↔ x ∈ xs ∧ ∃ k ∈ ks, r k x = true := by
  simp only [gather, List.mem_flatMap, List.mem_filter]
  constructor
  · rintro ⟨k, hk, hx, hr⟩
    exact ⟨hx, k, hk, hr⟩
  · rintro ⟨hx, k, hk, hr⟩
    exact ⟨k, hk, hx, hr⟩

theorem filter_gather (p : α → Bool) (ks : List κ) (xs : List α) :
    (gather r ks xs).filter p = gather r ks (xs.filter p) := by
  induction ks with
  | nil => rfl
  | cons k ks ih =>
      rw [gather_cons, gather_cons, List.filter_append, ih, List.filter_filter, List.filter_filter]
      simp only [Bool.and_comm]

/-- Elements without any of the keys do not matter. -/
theorem gather_filter_any (ks : List κ) (xs : List α) :
    gather r ks (xs.filter fun x => ks.any fun k => r k x) = gather r ks xs := by
  rw [← filter_gather]
  refine List.filter_eq_self.mpr fun x hx => ?_
  obtain ⟨-, k, hk, hr⟩ := mem_gather.mp hx
  exact List.any_eq_true.mpr ⟨k, hk, hr⟩

theorem count_gather [DecidableEq α] (ks : List κ) (xs : List α) (x : α) :
    (gather r ks xs).count x = hits r ks x * xs.count x := by
  induction ks with
  | nil => simp [gather, hits]
  | cons k ks ih =>
      rw [gather_cons, List.count_append, ih, hits, hits, List.countP_cons]
      cases hr : r k x with
      | true => rw [List.count_filter hr, if_pos rfl, Nat.add_mul, Nat.one_mul, Nat.add_comm]
      | false =>
          have hnone : x ∉ xs.filter (r k) := by simp [hr]
          rw [List.count_eq_zero_of_not_mem hnone, if_neg Bool.false_ne_true, Nat.zero_add,
            Nat.add_zero]

theorem rank_cons (k : κ) (ks : List κ) (x : α) :
    rank r (k :: ks) x = if r k x then 0 else rank r ks x + 1 := by
  rw [rank, List.findIdx_cons]
  cases r k x <;> rfl

/-- What is gathered comes in the order of the keys. -/
theorem gather_pairwise (h : ∀ x ∈ xs, hits r ks x ≤ 1) :
    (gather r ks xs).Pairwise fun x y => rank r ks x ≤ rank r ks y := by
  induction ks with
  | nil => exact .nil
  | cons k ks ih =>
      rw [gather_cons]
      have hrest : ∀ x ∈ xs, hits r ks x ≤ 1 := fun x hx =>
        Nat.le_trans (List.Sublist.countP_le (List.sublist_cons_self k ks)) (h x hx)
      have hlater : ∀ x ∈ gather r ks xs, rank r (k :: ks) x = rank r ks x + 1 := by
        intro x hx
        obtain ⟨hmem, k', hk', hr'⟩ := mem_gather.mp hx
        rw [rank_cons]
        refine if_neg fun hr => ?_
        -- a second key would count twice
        have htwo := h x hmem
        rw [hits, List.countP_cons, if_pos hr] at htwo
        have hone : 0 < ks.countP fun k => r k x := List.countP_pos_iff.mpr ⟨k', hk', hr'⟩
        omega
      refine List.pairwise_append.mpr ⟨?_, ?_, ?_⟩
      · refine List.pairwise_of_forall_mem_list fun x hx y _ => ?_
        rw [rank_cons, if_pos (List.of_mem_filter hx)]
        exact Nat.zero_le _
      · refine (ih hrest).imp_of_mem fun hx hy hle => ?_
        rw [hlater _ hx, hlater _ hy]
        exact Nat.succ_le_succ hle
      · intro x hx y _
        rw [rank_cons, if_pos (List.of_mem_filter hx)]
        exact Nat.zero_le _

theorem filter_append_filter_not {p : α → Bool} (h : xs.Pairwise fun x y => p y → p x) :
    xs.filter p ++ xs.filter (fun x => !p x) = xs := by
  induction xs with
  | nil => rfl
  | cons x xs ih =>
      obtain ⟨hx, hxs⟩ := List.pairwise_cons.mp h
      cases hp : p x with
      | true =>
          rw [List.filter_cons_of_pos hp, List.filter_cons_of_neg (by simp [hp]),
            List.cons_append, ih hxs]
      | false =>
          have hnone : ∀ y ∈ xs, p y = false := by
            intro y hy
            have hback := hx y hy
            rw [hp] at hback
            simpa using hback
          rw [List.filter_eq_nil_iff.mpr, List.nil_append, List.filter_eq_self.mpr]
          · intro y hy
            rcases List.mem_cons.mp hy with rfl | hy
            · rw [hp]; rfl
            · rw [hnone y hy]; rfl
          · intro y hy
            rcases List.mem_cons.mp hy with rfl | hy
            · rw [hp]; exact Bool.false_ne_true
            · rw [hnone y hy]; exact Bool.false_ne_true

/-- A list in the order of the keys, each element with one key, is gathered as it is. -/
theorem gather_of_pairwise (hone : ∀ x ∈ xs, hits r ks x = 1)
    (horder : xs.Pairwise fun x y => rank r ks x ≤ rank r ks y) : gather r ks xs = xs := by
  induction ks generalizing xs with
  | nil =>
      cases xs with
      | nil => rfl
      | cons x xs => exact absurd (hone x List.mem_cons_self) (by simp [hits])
  | cons k ks ih =>
      have hsplit : xs.filter (r k) ++ xs.filter (fun x => !r k x) = xs := by
        refine filter_append_filter_not (horder.imp fun {x y} hle hy => ?_)
        rw [rank_cons, rank_cons, if_pos hy] at hle
        by_contra hx
        rw [if_neg hx] at hle
        omega
      have hothers : gather r ks xs = gather r ks (xs.filter fun x => !r k x) := by
        rw [← filter_gather]
        refine (List.filter_eq_self.mpr fun x hx => ?_).symm
        obtain ⟨hmem, k', hk', hr'⟩ := mem_gather.mp hx
        have hone' := hone x hmem
        have hpos : 0 < ks.countP fun k => r k x := List.countP_pos_iff.mpr ⟨k', hk', hr'⟩
        rw [hits, List.countP_cons] at hone'
        cases hr : r k x with
        | true =>
            rw [hr, if_pos rfl] at hone'
            omega
        | false => rfl
      rw [gather_cons, hothers]
      refine Eq.trans (congrArg _ (ih (fun x hx => ?_) ?_)) hsplit
      · have hr : r k x = false := by simpa using List.of_mem_filter hx
        have hone' := hone x (List.mem_of_mem_filter hx)
        rwa [hits, List.countP_cons, hr, if_neg Bool.false_ne_true, Nat.add_zero] at hone'
      · refine (horder.filter _).imp_of_mem fun {x y} hx hy hle => ?_
        have hrx : r k x = false := by simpa using List.of_mem_filter hx
        have hry : r k y = false := by simpa using List.of_mem_filter hy
        rw [rank_cons, rank_cons, hrx, hry, if_neg Bool.false_ne_true,
          if_neg Bool.false_ne_true] at hle
        exact Nat.le_of_succ_le_succ hle

/-- Gathering changes nothing exactly if each element has one of the keys, once, and the elements
come in the order of the keys. -/
theorem gather_eq_self_iff [DecidableEq α] :
    gather r ks xs = xs ↔ (∀ x ∈ xs, hits r ks x = 1) ∧
      xs.Pairwise fun x y => rank r ks x ≤ rank r ks y := by
  constructor
  · intro hself
    have hone : ∀ x ∈ xs, hits r ks x = 1 := by
      intro x hx
      have hcount := count_gather (r := r) ks xs x
      rw [hself] at hcount
      have hpos : 0 < xs.count x := List.count_pos_iff.mpr hx
      exact Nat.eq_of_mul_eq_mul_right hpos (by rw [← hcount, Nat.one_mul])
    refine ⟨hone, ?_⟩
    have hordered := gather_pairwise fun x hx => Nat.le_of_eq (hone x hx)
    rwa [hself] at hordered
  · rintro ⟨hone, horder⟩
    exact gather_of_pairwise hone horder

end OverSync.Library
