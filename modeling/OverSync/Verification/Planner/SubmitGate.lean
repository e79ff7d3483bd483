import OverSync.Model.Planner
import Mathlib.Data.Int.Order.Basic
import Mathlib.Order.MinMax

/-! # The gate before a submission

A plan is submitted when it agrees with the order and its own deadline has not passed. The
deadline need not have to do with the timelocks, and the timelocks are not compared with each
other. -/

namespace OverSync.Planner

open Library

variable {toLowerCase : String → String} {plan : ResolverPlan} {order : ResolverOrder} {now : ℤ}

/-! ## What the issues are -/

theorem compareLegs_eq_nil {kind : String} {planLeg orderLeg : PlanLeg} :
    compareLegs kind planLeg orderLeg = [] ↔ planLeg = orderLeg := by
  simp only [compareLegs, List.append_eq_nil_iff, noteIf_eq_nil, not_not]
  constructor
  · rintro ⟨⟨⟨hchain, hasset⟩, hamount⟩, htimelock⟩
    cases planLeg
    cases orderLeg
    congr
  · rintro rfl
    exact ⟨⟨⟨rfl, rfl⟩, rfl⟩, rfl⟩

/-- The plan targets the order and mirrors it; hashlocks are compared up to letter case. -/
structure Agrees (toLowerCase : String → String) (plan : ResolverPlan) (order : ResolverOrder) :
    Prop where
  publicId : plan.publicId = order.publicId
  hashlock : toLowerCase plan.hashlock = toLowerCase order.hashlock
  src : plan.src = order.src
  dst : plan.dst = order.dst

theorem planIssues_eq_nil : planIssues toLowerCase plan order now = [] ↔
    Agrees toLowerCase plan order ∧ now ≤ plan.expiresAt := by
  simp only [planIssues, List.append_eq_nil_iff, noteIf_eq_nil, not_not, compareLegs_eq_nil, not_lt]
  constructor
  · rintro ⟨⟨⟨⟨hid, hhashlock⟩, hsrc⟩, hdst⟩, hdeadline⟩
    exact ⟨⟨hid, hhashlock, hsrc, hdst⟩, hdeadline⟩
  · rintro ⟨⟨hid, hhashlock, hsrc, hdst⟩, hdeadline⟩
    exact ⟨⟨⟨⟨hid, hhashlock⟩, hsrc⟩, hdst⟩, hdeadline⟩

theorem validatePlan_eq_ok : validatePlan toLowerCase plan order now = .ok () ↔
    Agrees toLowerCase plan order ∧ now ≤ plan.expiresAt := by
  rw [← planIssues_eq_nil]
  unfold validatePlan
  cases planIssues toLowerCase plan order now <;> simp

/-- Every refusal names the first of its issues. -/
theorem validatePlan_error {e : PlanValidationError}
    (h : validatePlan toLowerCase plan order now = .error e) :
    ∃ primary rest, e.issues = primary :: rest ∧ e.code = primary.code ∧
      e.issues = planIssues toLowerCase plan order now := by
  unfold validatePlan at h
  cases hissues : planIssues toLowerCase plan order now with
  | nil =>
      rw [hissues] at h
      cases h
  | cons primary rest =>
      rw [hissues] at h
      cases h
      exact ⟨primary, rest, rfl, rfl, rfl⟩

/-! ## Submissions -/

/-- The callback is invoked. -/
def Submits (toLowerCase : String → String) (plan : ResolverPlan) (order : ResolverOrder)
    (now : ℤ) : Prop :=
  ∃ submitted, submitValidatedPlan toLowerCase plan order (fun plan => plan) now = .ok submitted

theorem submits_iff : Submits toLowerCase plan order now ↔
    Agrees toLowerCase plan order ∧ now ≤ plan.expiresAt := by
  rw [← validatePlan_eq_ok]
  unfold Submits submitValidatedPlan validatePlanForSubmit
  cases hvalid : validatePlan toLowerCase plan order now with
  | ok _ => exact iff_of_true ⟨plan, rfl⟩ rfl
  | error e => exact iff_of_false (by rintro ⟨submitted, h⟩; cases h) (by rintro ⟨⟩)

/-- Nobody can be left behind: both windows are open, and a fill runs out before the source. -/
structure Timely (action : PlanAction) (order : ResolverOrder) (now : ℤ) : Prop where
  src : now ≤ order.src.timelock
  dst : now ≤ order.dst.timelock
  fill : action = .fill → order.dst.timelock < order.src.timelock

/-- What is submitted agrees with the order and is in time, unless an agreeing plan carries a
deadline that lets it through too late, or its order has the timelocks the wrong way round. -/
theorem submit_gate_iff (toLowerCase : String → String) (plan : ResolverPlan)
    (order : ResolverOrder) (now : ℤ) :
    (Submits toLowerCase plan order now →
        Agrees toLowerCase plan order ∧ Timely plan.action order now) ↔
      ¬(Agrees toLowerCase plan order ∧ now ≤ plan.expiresAt ∧
        (order.src.timelock < now ∨ order.dst.timelock < now ∨
          (plan.action = .fill ∧ order.src.timelock ≤ order.dst.timelock))) := by
  rw [submits_iff]
  constructor
  · rintro h ⟨hagrees, hdeadline, hlate⟩
    obtain ⟨-, hsrc, hdst, hfill⟩ := h ⟨hagrees, hdeadline⟩
    rcases hlate with hlate | hlate | ⟨haction, hreversed⟩
    · exact absurd hsrc (not_le.mpr hlate)
    · exact absurd hdst (not_le.mpr hlate)
    · exact absurd (hfill haction) (not_lt.mpr hreversed)
  · rintro h ⟨hagrees, hdeadline⟩
    refine ⟨hagrees, ?_, ?_, fun haction => ?_⟩
    · exact not_lt.mp fun hlate => h ⟨hagrees, hdeadline, .inl hlate⟩
    · exact not_lt.mp fun hlate => h ⟨hagrees, hdeadline, .inr (.inl hlate)⟩
    · exact not_le.mp fun hreversed =>
        h ⟨hagrees, hdeadline, .inr (.inr ⟨haction, hreversed⟩)⟩

/-! ## Order 7 with its timelocks reversed -/

def order7 : ResolverOrder where
  publicId := "7"
  direction := .ethToXlm
  hashlock := "0xab"
  src := ⟨.ethereum, "0x0", "100", 2000⟩
  dst := ⟨.stellar, "native", "99", 3000⟩

/-- The fill of an order whose source lock runs out first is submitted. -/
theorem reversed_fill_submitted :
    ¬ ∀ (toLowerCase : String → String) (plan : ResolverPlan) (order : ResolverOrder) (now : ℤ),
      Submits toLowerCase plan order now →
        Agrees toLowerCase plan order ∧ Timely plan.action order now := by
  intro h
  have hsubmits : Submits (fun s => s) (buildOrderPlan order7 ⟨none, none, none⟩ 1000) order7 1000 :=
    submits_iff.mpr ⟨⟨rfl, rfl, rfl, rfl⟩, by decide⟩
  have hreversed := (h _ _ _ _ hsubmits).2.fill rfl
  revert hreversed
  decide

end OverSync.Planner
