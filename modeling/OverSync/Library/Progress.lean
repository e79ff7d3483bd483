import OverSync.Library.Execution
import Mathlib.Data.Finset.Card

/-! # Runs that finish what is open

Where every open item can be finished by one step that leaves the other items as they are, a
run finishes all of them, one step for each. -/

namespace OverSync.Library

variable {State Label Id : Type*} {step : State → Label → State → Prop}

theorem Execution.drain [DecidableEq Id] {openIds : State → Finset Id} {Inv : State → Prop}
    {Finishes : Id → Label → Prop}
    (hfinish : ∀ {s id}, Inv s → id ∈ openIds s → ∃ label t, step s label t ∧
      Finishes id label ∧ Inv t ∧ openIds t = (openIds s).erase id)
    {s : State} (hs : Inv s) : ∃ labels t, Execution step s labels t ∧ Inv t ∧
      openIds t = ∅ ∧ labels.length = (openIds s).card ∧
      (∀ label ∈ labels, ∃ id ∈ openIds s, Finishes id label) ∧
      ∀ id ∈ openIds s, ∃ label ∈ labels, Finishes id label := by
  induction hcard : (openIds s).card generalizing s with
  | zero =>
      have hempty : openIds s = ∅ := Finset.card_eq_zero.mp hcard
      refine ⟨[], s, .refl, hs, hempty, rfl, by simp, ?_⟩
      rw [hempty]
      simp
  | succ n ih =>
      obtain ⟨id, hid⟩ : (openIds s).Nonempty := by
        rw [← Finset.card_pos, hcard]
        exact Nat.succ_pos n
      obtain ⟨label, t, hstep, hlabel, ht, hopen⟩ := hfinish hs hid
      have hn : (openIds t).card = n := by
        rw [hopen, Finset.card_erase_of_mem hid, hcard, Nat.add_sub_cancel]
      obtain ⟨labels, u, hrun, hu, hnone, hlength, hall, hevery⟩ := ih ht hn
      refine ⟨label :: labels, u, .cons hstep hrun, hu, hnone, by simp [hlength], ?_, ?_⟩
      · intro other hother
        rcases List.mem_cons.mp hother with rfl | hother
        · exact ⟨id, hid, hlabel⟩
        · obtain ⟨i, hi, hfinishes⟩ := hall other hother
          rw [hopen] at hi
          exact ⟨i, Finset.mem_of_mem_erase hi, hfinishes⟩
      · intro i hi
        by_cases heq : i = id
        · subst heq
          exact ⟨label, by simp, hlabel⟩
        · have hmem : i ∈ openIds t := by
            rw [hopen]
            exact Finset.mem_erase.mpr ⟨heq, hi⟩
          obtain ⟨other, hother, hfinishes⟩ := hevery i hmem
          exact ⟨other, by simp [hother], hfinishes⟩

end OverSync.Library
