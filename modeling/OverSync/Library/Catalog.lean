import Mathlib.Data.List.Induction
import Mathlib.Data.List.Nodup
import Mathlib.Logic.Function.Basic
import Mathlib.Tactic.Common

/-! # Catalogues

Entries get the ids 1, 2, … in the order they come in. An index tells the ids by a key of the
entries: all of them, their number, or the latest. -/

namespace OverSync.Library.Catalog

open Function

variable {Entry Key : Type*} {entries : List Entry} {entry : Entry} {id : ℕ}

/-- The entry under an id. -/
def listed? (entries : List Entry) : ℕ → Option Entry
  | 0 => none
  | id + 1 => entries[id]?

theorem listed?_eq_none : listed? entries id = none ↔ id = 0 ∨ entries.length < id := by
  cases id with
  | zero => simp [listed?]
  | succ id =>
      simp only [listed?, List.getElem?_eq_none_iff]
      omega

theorem listed?_snoc (entries : List Entry) (entry : Entry) (id : ℕ) :
    listed? (entries ++ [entry]) id =
      if id = entries.length + 1 then some entry else listed? entries id := by
  cases id with
  | zero => simp [listed?]
  | succ id =>
      simp only [listed?, Nat.add_right_cancel_iff]
      by_cases hid : id = entries.length
      · rw [if_pos hid, hid]
        simp
      · rw [if_neg hid]
        rcases Nat.lt_or_gt_of_ne hid with hlt | hgt
        · exact List.getElem?_append_left hlt
        · rw [List.getElem?_eq_none (by simp; omega), List.getElem?_eq_none (by omega)]

variable [DecidableEq Key] {key : Entry → Key} {k : Key}

/-- The ids of the entries with a key, oldest first. -/
def filed (key : Entry → Key) (entries : List Entry) (k : Key) : List ℕ :=
  ((entries.zipIdx 1).filter fun numbered => key numbered.1 = k).map Prod.snd

/-- The id of the latest entry with a key, zero where there is none. -/
def latest (key : Entry → Key) (entries : List Entry) (k : Key) : ℕ :=
  (filed key entries k).getLastD 0

/-- A new entry is filed under its key. -/
theorem filed_snoc (key : Entry → Key) (entries : List Entry) (entry : Entry) :
    filed key (entries ++ [entry]) = update (filed key entries) (key entry)
      (filed key entries (key entry) ++ [entries.length + 1]) := by
  funext k
  have hlast : filed key (entries ++ [entry]) k = filed key entries k ++
      if key entry = k then [entries.length + 1] else [] := by
    rw [filed, List.zipIdx_append, List.filter_append, List.map_append, filed]
    by_cases hk : key entry = k
    · simp [hk, Nat.add_comm]
    · simp [hk]
  rw [hlast]
  by_cases hk : key entry = k
  · subst hk
    rw [if_pos rfl, update_self]
  · rw [if_neg hk, update_of_ne (Ne.symm hk), List.append_nil]

theorem length_filed_snoc (key : Entry → Key) (entries : List Entry) (entry : Entry) :
    (fun k => (filed key (entries ++ [entry]) k).length) =
      update (fun k => (filed key entries k).length) (key entry)
        ((filed key entries (key entry)).length + 1) := by
  funext k
  rw [filed_snoc]
  by_cases hk : k = key entry
  · subst hk
    simp
  · simp [update_of_ne hk]

theorem latest_snoc (key : Entry → Key) (entries : List Entry) (entry : Entry) :
    latest key (entries ++ [entry]) =
      update (latest key entries) (key entry) (entries.length + 1) := by
  funext k
  rw [latest, filed_snoc]
  by_cases hk : k = key entry
  · subst hk
    simp
  · simp [update_of_ne hk, latest]

theorem mem_filed : id ∈ filed key entries k ↔
    ∃ entry, listed? entries id = some entry ∧ key entry = k := by
  induction entries using List.reverseRecOn with
  | nil => cases id <;> simp [filed, listed?]
  | append_singleton entries entry ih =>
      rw [filed_snoc, listed?_snoc]
      by_cases hk : k = key entry
      · subst hk
        rw [update_self, List.mem_append, List.mem_singleton, ih]
        by_cases hid : id = entries.length + 1
        · simp [hid]
        · simp [hid]
      · rw [update_of_ne hk, ih]
        by_cases hid : id = entries.length + 1
        · have hnone : listed? entries id = none := listed?_eq_none.mpr (by omega)
          simp [hid, Ne.symm hk, hid ▸ hnone]
        · simp [hid]

theorem filed_increasing (key : Entry → Key) (entries : List Entry) (k : Key) :
    (filed key entries k).Pairwise (· < ·) := by
  induction entries using List.reverseRecOn with
  | nil => exact .nil
  | append_singleton entries entry ih =>
      rw [filed_snoc]
      by_cases hk : k = key entry
      · subst hk
        rw [update_self, List.pairwise_append]
        refine ⟨ih, List.pairwise_singleton _ _, fun id hid last hlast => ?_⟩
        obtain ⟨other, hother, -⟩ := mem_filed.mp hid
        have hbound : ¬entries.length < id := fun hlt => by
          rw [listed?_eq_none.mpr (.inr hlt)] at hother
          cases hother
        rw [List.mem_singleton.mp hlast]
        omega
      · rw [update_of_ne hk]
        exact ih

theorem length_filed (key : Entry → Key) (entries : List Entry) (k : Key) :
    (filed key entries k).length = entries.countP fun entry => key entry = k := by
  induction entries using List.reverseRecOn with
  | nil => rfl
  | append_singleton entries entry ih =>
      rw [congrFun (length_filed_snoc key entries entry) k, List.countP_append, ← ih]
      by_cases hk : k = key entry
      · subst hk
        simp
      · simp [update_of_ne hk, Ne.symm hk]

theorem latest_eq_zero : latest key entries k = 0 ↔ ∀ entry ∈ entries, key entry ≠ k := by
  induction entries using List.reverseRecOn with
  | nil => simp [latest, filed]
  | append_singleton entries entry ih =>
      rw [latest_snoc]
      by_cases hk : k = key entry
      · simp [hk]
      · rw [update_of_ne hk, ih]
        simp [or_imp, forall_and, Ne.symm hk]

/-- Where no two entries share a key, the latest is the only one. -/
theorem latest_eq_iff (hnodup : (entries.map key).Nodup) (hid : id ≠ 0) :
    latest key entries k = id ↔ ∃ entry, listed? entries id = some entry ∧ key entry = k := by
  induction entries using List.reverseRecOn with
  | nil => cases id <;> simp_all [latest, filed, listed?]
  | append_singleton entries entry ih =>
      rw [List.map_append, List.nodup_append] at hnodup
      obtain ⟨hold, -, hdisjoint⟩ := hnodup
      have hfresh : ∀ other ∈ entries, key other ≠ key entry := fun other hother =>
        hdisjoint _ (List.mem_map_of_mem hother) _ (by simp)
      have hlatest := ih hold
      rw [latest_snoc, listed?_snoc]
      by_cases hk : k = key entry
      · subst hk
        rw [update_self]
        by_cases hlast : id = entries.length + 1
        · simp [hlast]
        · rw [if_neg hlast, ← hlatest, latest_eq_zero.mpr hfresh]
          omega
      · rw [update_of_ne hk, hlatest]
        by_cases hlast : id = entries.length + 1
        · have hnone : listed? entries id = none := listed?_eq_none.mpr (by omega)
          simp [hlast, Ne.symm hk, hlast ▸ hnone]
        · simp [hlast]

end OverSync.Library.Catalog
