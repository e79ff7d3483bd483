import OverSync.Library.Execution
import Mathlib.Algebra.BigOperators.Group.List.Basic
import Mathlib.Algebra.Order.BigOperators.Group.List
import Mathlib.Algebra.Order.Monoid.Defs
import Mathlib.Logic.Function.Basic

/-! # Stakes in one pool

Members join with a stake, raise it, have it cut and leave with what is left. The pool never
gives out more than the stakes lose, so it covers the stakes of all members at any time. -/

namespace OverSync.Library

open Function

variable {Member Money : Type*}

/-- The members, what each has at stake, and the pool the stakes lie in. -/
structure Stakes (Member Money : Type*) where
  members : List Member
  stake : Member → Money
  pool : Money

namespace Stakes

def empty [Zero Money] : Stakes Member Money where
  members := []
  stake := fun _ => 0
  pool := 0

inductive Movement (Member Money : Type*) where
  | joined (member : Member) (amount : Money)
  | raised (member : Member) (amount : Money)
  | cut (member : Member) (amount : Money)
  | left (member : Member)
  | gift

/-! ## Totals -/

section Totals

variable [AddCommMonoid Money]

/-- What all members have at stake together. -/
def total (b : Stakes Member Money) : Money :=
  (b.members.map b.stake).sum

theorem total_of_perm {b : Stakes Member Money} {member : Member} {members : List Member}
    (h : b.members.Perm (member :: members)) :
    b.total = b.stake member + (members.map b.stake).sum := by
  rw [total, (h.map b.stake).sum_eq, List.map_cons, List.sum_cons]

theorem sum_update_of_notMem [DecidableEq Member] {member : Member} {members : List Member}
    (h : member ∉ members) (stake : Member → Money) (amount : Money) :
    (members.map (update stake member amount)).sum = (members.map stake).sum := by
  congr 1
  refine List.map_congr_left fun other hother => ?_
  have hne : other ≠ member := by
    rintro rfl
    exact h hother
  rw [update_of_ne hne]

/-- Changing the stake of one member moves the total by as much. -/
theorem sum_update [DecidableEq Member] {member : Member} {members : List Member}
    (hnodup : members.Nodup) (h : member ∈ members) (stake : Member → Money) (amount : Money) :
    (members.map (update stake member amount)).sum + stake member =
      (members.map stake).sum + amount := by
  induction members with
  | nil => simp at h
  | cons head tail ih =>
      obtain ⟨hhead, htail⟩ := List.nodup_cons.mp hnodup
      rw [List.map_cons, List.map_cons, List.sum_cons, List.sum_cons]
      by_cases heq : head = member
      · subst heq
        rw [update_self, sum_update_of_notMem hhead]
        ac_rfl
      · have hmem : member ∈ tail := by
          rcases List.mem_cons.mp h with h | h
          · exact absurd h.symm heq
          · exact h
        rw [update_of_ne heq, add_assoc, ih htail hmem, add_assoc]

end Totals

/-! ## Movements -/

variable [AddCommMonoid Money] [PartialOrder Money]

/-- The pool covers the stakes, none of which is negative. -/
structure Backed (b : Stakes Member Money) : Prop where
  nodup : b.members.Nodup
  nonneg : ∀ member ∈ b.members, 0 ≤ b.stake member
  covered : b.total ≤ b.pool

section Movements

variable [DecidableEq Member]

/-- One movement. The order of the members does not matter, nor does what the map of stakes
says of others. -/
inductive Step (b : Stakes Member Money) :
    Movement Member Money → Stakes Member Money → Prop where
  | joined {member amount c} : member ∉ b.members → 0 ≤ amount →
      c.members.Perm (member :: b.members) → c.stake = update b.stake member amount →
      b.pool + amount ≤ c.pool → Step b (.joined member amount) c
  | raised {member amount c} : member ∈ b.members → 0 ≤ amount → c.members = b.members →
      c.stake = update b.stake member (b.stake member + amount) →
      b.pool + amount ≤ c.pool → Step b (.raised member amount) c
  | cut {member amount rest c} : member ∈ b.members → 0 ≤ rest → c.members = b.members →
      b.stake member = rest + amount → c.stake = update b.stake member rest →
      b.pool ≤ c.pool + amount → Step b (.cut member amount) c
  | left {member c} : b.members.Perm (member :: c.members) →
      (∀ other, other ≠ member → c.stake other = b.stake other) →
      b.pool ≤ c.pool + b.stake member → Step b (.left member) c
  | gift {c} : c.members = b.members → c.stake = b.stake → b.pool ≤ c.pool → Step b .gift c

end Movements

variable {b c : Stakes Member Money} {movement : Movement Member Money} {member : Member}

theorem Backed.empty : (Stakes.empty : Stakes Member Money).Backed where
  nodup := List.nodup_nil
  nonneg := nofun
  covered := le_rfl

theorem Backed.stake_le_pool [IsOrderedCancelAddMonoid Money] (h : b.Backed)
    (hmem : member ∈ b.members) : b.stake member ≤ b.pool := by
  refine le_trans ?_ h.covered
  refine List.single_le_sum ?_ _ (List.mem_map_of_mem hmem)
  intro amount hamount
  obtain ⟨other, hother, rfl⟩ := List.mem_map.mp hamount
  exact h.nonneg other hother

section Runs

variable [DecidableEq Member] [IsOrderedCancelAddMonoid Money]

theorem Step.backed (hstep : Step b movement c) (h : b.Backed) : c.Backed := by
  cases hstep with
  | @joined member amount c hnew hamount hmembers hstake hpool =>
      have hnodup : c.members.Nodup :=
        hmembers.nodup_iff.mpr (List.nodup_cons.mpr ⟨hnew, h.nodup⟩)
      refine ⟨hnodup, fun other hother => ?_, ?_⟩
      · rw [hstake]
        by_cases heq : other = member
        · rw [heq, update_self]
          exact hamount
        · rw [update_of_ne heq]
          have hmem := (List.mem_cons.mp (hmembers.mem_iff.mp hother)).resolve_left heq
          exact h.nonneg other hmem
      · have htotal : c.total = amount + b.total := by
          rw [total_of_perm hmembers, hstake, update_self, sum_update_of_notMem hnew]
          rfl
        rw [htotal, add_comm]
        exact (add_le_add_left h.covered amount).trans hpool
  | @raised member amount c hmem hamount hmembers hstake hpool =>
      refine ⟨hmembers ▸ h.nodup, fun other hother => ?_, ?_⟩
      · rw [hmembers] at hother
        rw [hstake]
        by_cases heq : other = member
        · rw [heq, update_self]
          exact add_nonneg (h.nonneg member hmem) hamount
        · rw [update_of_ne heq]
          exact h.nonneg other hother
      · have hsum := sum_update h.nodup hmem b.stake (b.stake member + amount)
        have htotal : c.total = b.total + amount := by
          refine add_right_cancel (b := b.stake member) ?_
          rw [total, hmembers, hstake, hsum, total]
          ac_rfl
        rw [htotal]
        exact (add_le_add_left h.covered amount).trans hpool
  | @cut member amount rest c hmem hrest hmembers hsplit hstake hpool =>
      refine ⟨hmembers ▸ h.nodup, fun other hother => ?_, ?_⟩
      · rw [hmembers] at hother
        rw [hstake]
        by_cases heq : other = member
        · rw [heq, update_self]
          exact hrest
        · rw [update_of_ne heq]
          exact h.nonneg other hother
      · have hsum := sum_update h.nodup hmem b.stake rest
        have htotal : c.total + amount = b.total := by
          refine add_right_cancel (b := rest) ?_
          rw [hsplit] at hsum
          rw [total, hmembers, hstake, add_assoc, add_comm amount, hsum, total]
        refine le_of_add_le_add_right (a := amount) ?_
        rw [htotal]
        exact h.covered.trans hpool
  | @left member c hmembers hstake hpool =>
      have hnodup := List.nodup_cons.mp (hmembers.nodup_iff.mp h.nodup)
      have hother : ∀ other ∈ c.members, other ≠ member := by
        rintro other hother rfl
        exact hnodup.1 hother
      refine ⟨hnodup.2, fun other hmem => ?_, ?_⟩
      · rw [hstake other (hother other hmem)]
        exact h.nonneg other (hmembers.mem_iff.mpr (List.mem_cons_of_mem _ hmem))
      · have hsame : c.members.map c.stake = c.members.map b.stake :=
          List.map_congr_left fun other hmem => hstake other (hother other hmem)
        have htotal : c.total + b.stake member = b.total := by
          rw [total_of_perm hmembers, total, hsame, add_comm]
        refine le_of_add_le_add_right (a := b.stake member) ?_
        rw [htotal]
        exact h.covered.trans hpool
  | @gift c hmembers hstake hpool =>
      refine ⟨hmembers ▸ h.nodup, fun other hother => ?_, ?_⟩
      · rw [hstake]
        exact h.nonneg other (hmembers ▸ hother)
      · rw [total, hmembers, hstake]
        exact h.covered.trans hpool

/-- Whatever the members do, the pool covers their stakes. -/
theorem backed_of_execution {movements : List (Movement Member Money)}
    (h : Execution Step b movements c) (hb : b.Backed) : c.Backed :=
  h.invariant hb fun hu hstep => hstep.backed hu

end Runs

end Stakes

end OverSync.Library
