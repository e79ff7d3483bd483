import OverSync.Library.Execution
import Mathlib.Algebra.BigOperators.Group.Finset.Piecewise
import Mathlib.Algebra.Order.BigOperators.Group.Finset
import Mathlib.Data.Fintype.Basic
import Mathlib.Data.List.Nodup
import Mathlib.Tactic.Abel

/-! # Pooled escrow accounts

Many positions share one pool of funds per asset. A position is opened once against its
cost, closed once by an allowed outcome, and never reopened. The pool covers the open
positions in every reachable book, and the actions so far determine every position. -/

namespace OverSync.Library.Escrow

open Function

/-- One position: nothing yet, funds held under some terms, or a finished deal. -/
inductive Slot (Terms Outcome : Type*) where
  | vacant
  | held (terms : Terms)
  | closed (terms : Terms) (outcome : Outcome)

/-- The terms a position may have, what it costs in each asset, which outcomes may close it,
and what an outcome pays back into the pool itself. -/
structure Policy (Asset Terms Outcome Money : Type*) [Zero Money] [LE Money] where
  valid : Terms → Prop
  cost : Terms → Asset → Money
  allowed : Terms → Outcome → Prop
  kept : Outcome → Asset → Money
  cost_nonneg : ∀ {terms}, valid terms → ∀ asset, 0 ≤ cost terms asset
  kept_nonneg : ∀ {terms outcome}, valid terms → allowed terms outcome →
    ∀ asset, 0 ≤ kept outcome asset

structure Book (Id Asset Terms Outcome Money : Type*) where
  slots : Id → Slot Terms Outcome
  pool : Asset → Money

inductive Action (Id Asset Terms Outcome : Type*) where
  | opened (id : Id) (terms : Terms)
  | closed (id : Id) (outcome : Outcome)
  | gift (asset : Asset)

variable {Id Asset Terms Outcome Money : Type*}

def Book.empty [Zero Money] : Book Id Asset Terms Outcome Money :=
  ⟨fun _ => .vacant, fun _ => 0⟩

/-! ## Reading off what happened to one position -/

/-- The position an action opens and its terms, if it opens one. -/
def Action.opening : Action Id Asset Terms Outcome → Option (Id × Terms)
  | .opened id terms => some (id, terms)
  | _ => none

/-- The position an action closes and the outcome, if it closes one. -/
def Action.closing : Action Id Asset Terms Outcome → Option (Id × Outcome)
  | .closed id outcome => some (id, outcome)
  | _ => none

/-- The positions opened by some actions and their terms, oldest first. -/
def openings (acts : List (Action Id Asset Terms Outcome)) : List (Id × Terms) :=
  acts.filterMap Action.opening

/-- The positions closed by some actions and their outcomes, oldest first. -/
def closings (acts : List (Action Id Asset Terms Outcome)) : List (Id × Outcome) :=
  acts.filterMap Action.closing

@[simp] theorem openings_append (front back : List (Action Id Asset Terms Outcome)) :
    openings (front ++ back) = openings front ++ openings back :=
  List.filterMap_append

@[simp] theorem openings_opened (id : Id) (terms : Terms) :
    openings [(.opened id terms : Action Id Asset Terms Outcome)] = [(id, terms)] := rfl

@[simp] theorem openings_closed (id : Id) (outcome : Outcome) :
    openings [(.closed id outcome : Action Id Asset Terms Outcome)] = [] := rfl

@[simp] theorem openings_gift (asset : Asset) :
    openings [(.gift asset : Action Id Asset Terms Outcome)] = [] := rfl

@[simp] theorem closings_append (front back : List (Action Id Asset Terms Outcome)) :
    closings (front ++ back) = closings front ++ closings back :=
  List.filterMap_append

@[simp] theorem closings_opened (id : Id) (terms : Terms) :
    closings [(.opened id terms : Action Id Asset Terms Outcome)] = [] := rfl

@[simp] theorem closings_closed (id : Id) (outcome : Outcome) :
    closings [(.closed id outcome : Action Id Asset Terms Outcome)] = [(id, outcome)] := rfl

@[simp] theorem closings_gift (asset : Asset) :
    closings [(.gift asset : Action Id Asset Terms Outcome)] = [] := rfl

/-- The actions of one label: an opening, a closing and a gift, each at most once. -/
def actionsOf (opened : Option (Id × Terms)) (closed : Option (Id × Outcome))
    (gift : Option Asset) : List (Action Id Asset Terms Outcome) :=
  opened.toList.map (fun entry => .opened entry.1 entry.2) ++
    closed.toList.map (fun entry => .closed entry.1 entry.2) ++ gift.toList.map .gift

theorem openings_flatMap {Label : Type*} (opened : Label → Option (Id × Terms))
    (closed : Label → Option (Id × Outcome)) (gift : Label → Option Asset)
    (labels : List Label) :
    openings (labels.flatMap fun label => actionsOf (opened label) (closed label) (gift label)) =
      labels.filterMap opened := by
  induction labels with
  | nil => rfl
  | cons label labels ih =>
      rw [List.flatMap_cons, openings_append, ih, List.filterMap_cons]
      cases opened label <;> cases closed label <;> cases gift label <;> rfl

theorem closings_flatMap {Label : Type*} (opened : Label → Option (Id × Terms))
    (closed : Label → Option (Id × Outcome)) (gift : Label → Option Asset)
    (labels : List Label) :
    closings (labels.flatMap fun label => actionsOf (opened label) (closed label) (gift label)) =
      labels.filterMap closed := by
  induction labels with
  | nil => rfl
  | cons label labels ih =>
      rw [List.flatMap_cons, closings_append, ih, List.filterMap_cons]
      cases opened label <;> cases closed label <;> cases gift label <;> rfl

theorem mem_closings {id : Id} {outcome : Outcome}
    {acts : List (Action Id Asset Terms Outcome)} (h : .closed id outcome ∈ acts) :
    (id, outcome) ∈ closings acts :=
  List.mem_filterMap.mpr ⟨_, h, rfl⟩

section Actions

variable [DecidableEq Id]

/-- The values listed under one key. -/
def valuesAt {α : Type*} (id : Id) (entries : List (Id × α)) : List α :=
  entries.filterMap fun entry => if entry.1 = id then some entry.2 else none

@[simp] theorem valuesAt_nil {α : Type*} (id : Id) :
    valuesAt id ([] : List (Id × α)) = [] := rfl

@[simp] theorem valuesAt_append {α : Type*} (id : Id) (front back : List (Id × α)) :
    valuesAt id (front ++ back) = valuesAt id front ++ valuesAt id back :=
  List.filterMap_append

@[simp] theorem valuesAt_singleton {α : Type*} (id key : Id) (value : α) :
    valuesAt id [(key, value)] = if key = id then [value] else [] := by
  by_cases h : key = id
  · simp [valuesAt, h]
  · simp [valuesAt, h]

theorem mem_valuesAt {α : Type*} {id : Id} {value : α} {entries : List (Id × α)} :
    value ∈ valuesAt id entries ↔ (id, value) ∈ entries := by
  unfold valuesAt
  rw [List.mem_filterMap]
  constructor
  · rintro ⟨entry, hentry, hvalue⟩
    split at hvalue
    · cases hvalue
      cases ‹entry.1 = id›
      exact hentry
    · cases hvalue
  · exact fun h => ⟨(id, value), h, if_pos rfl⟩

/-- Keys with at most one value each are distinct. -/
theorem nodup_keys {α : Type*} {entries : List (Id × α)}
    (h : ∀ id, (valuesAt id entries).length ≤ 1) : (entries.map Prod.fst).Nodup := by
  rw [List.nodup_iff_count_le_one]
  intro id
  have hcount : (entries.map Prod.fst).count id = (valuesAt id entries).length := by
    induction entries with
    | nil => rfl
    | cons entry entries ih =>
        rw [← List.singleton_append, List.map_append, List.count_append, ih fun i => ?_,
          valuesAt_append, List.length_append]
        · by_cases hid : entry.1 = id
          · simp [valuesAt, hid]
          · simp [valuesAt, hid]
        · have hi := h i
          rw [← List.singleton_append, valuesAt_append, List.length_append] at hi
          omega
  rw [hcount]
  exact h id

/-- The actions on one position, read off the position they lead to. -/
inductive History (valid : Terms → Prop) (allowed : Terms → Outcome → Prop) (id : Id)
    (acts : List (Action Id Asset Terms Outcome)) : Slot Terms Outcome → Prop where
  | vacant : valuesAt id (openings acts) = [] → valuesAt id (closings acts) = [] →
      History valid allowed id acts .vacant
  | held {terms} : valuesAt id (openings acts) = [terms] → valuesAt id (closings acts) = [] →
      valid terms → History valid allowed id acts (.held terms)
  | closed {terms outcome} : valuesAt id (openings acts) = [terms] →
      valuesAt id (closings acts) = [outcome] → valid terms → allowed terms outcome →
      History valid allowed id acts (.closed terms outcome)

variable {valid : Terms → Prop} {allowed : Terms → Outcome → Prop} {id : Id}
  {acts : List (Action Id Asset Terms Outcome)} {act : Action Id Asset Terms Outcome}

/-- An action that is not on a position leaves the history of the position as it is. -/
theorem History.frame {slot : Slot Terms Outcome} (h : History valid allowed id acts slot)
    (hopens : valuesAt id (openings [act]) = []) (hcloses : valuesAt id (closings [act]) = []) :
    History valid allowed id (acts ++ [act]) slot := by
  cases h with
  | vacant ho hc => exact .vacant (by simp [ho, hopens]) (by simp [hc, hcloses])
  | held ho hc hv => exact .held (by simp [ho, hopens]) (by simp [hc, hcloses]) hv
  | closed ho hc hv ha =>
      exact .closed (by simp [ho, hopens]) (by simp [hc, hcloses]) hv ha

theorem History.open {terms : Terms} (h : History valid allowed id acts .vacant)
    (hv : valid terms) :
    History valid allowed id (acts ++ [.opened id terms]) (.held terms) := by
  cases h with
  | vacant ho hc => exact .held (by simp [ho]) (by simp [hc]) hv

theorem History.close {terms : Terms} {outcome : Outcome}
    (h : History valid allowed id acts (.held terms)) (ha : allowed terms outcome) :
    History valid allowed id (acts ++ [.closed id outcome]) (.closed terms outcome) := by
  cases h with
  | held ho hc hv => exact .closed (by simp [ho]) (by simp [hc]) hv ha

theorem History.opened_once {slot : Slot Terms Outcome} (h : History valid allowed id acts slot) :
    (valuesAt id (openings acts)).length ≤ 1 := by
  cases h with
  | vacant ho hc => simp [ho]
  | held ho hc hv => simp [ho]
  | closed ho hc hv ha => simp [ho]

end Actions

variable [AddCommMonoid Money] [PartialOrder Money] (P : Policy Asset Terms Outcome Money)

/-- Only a held position owes its cost. -/
def Policy.due (asset : Asset) : Slot Terms Outcome → Money
  | .held terms => P.cost terms asset
  | _ => 0

/-- A position is under valid terms. -/
def Policy.SlotValid : Slot Terms Outcome → Prop
  | .vacant => True
  | .held terms => P.valid terms
  | .closed terms _ => P.valid terms

theorem Policy.due_nonneg (asset : Asset) {slot : Slot Terms Outcome} (h : P.SlotValid slot) :
    0 ≤ P.due asset slot := by
  cases slot with
  | vacant => exact le_rfl
  | held terms => exact P.cost_nonneg h asset
  | closed terms outcome => exact le_rfl

/-- What all positions together owe in one asset. -/
def Policy.liabilities [Fintype Id] (slots : Id → Slot Terms Outcome) (asset : Asset) : Money :=
  ∑ id, P.due asset (slots id)

section Steps

variable [DecidableEq Id]

/-- Opening takes a vacant position, valid terms and their cost; closing takes a held position and an
allowed outcome; a gift only adds to one asset of the pool. -/
inductive Policy.Step : Book Id Asset Terms Outcome Money →
    Action Id Asset Terms Outcome → Book Id Asset Terms Outcome Money → Prop where
  | opened {b : Book Id Asset Terms Outcome Money} {id terms pool} :
      b.slots id = .vacant → P.valid terms →
      (∀ asset, pool asset = b.pool asset + P.cost terms asset) →
      Step b (.opened id terms) ⟨update b.slots id (.held terms), pool⟩
  | closed {b : Book Id Asset Terms Outcome Money} {id terms outcome pool} :
      b.slots id = .held terms → P.valid terms → P.allowed terms outcome →
      (∀ asset, pool asset + P.cost terms asset =
        b.pool asset + P.kept outcome asset) →
      Step b (.closed id outcome) ⟨update b.slots id (.closed terms outcome), pool⟩
  | gift {b : Book Id Asset Terms Outcome Money} {asset pool} :
      (∀ other, other ≠ asset → pool other = b.pool other) →
      b.pool asset ≤ pool asset →
      Step b (.gift asset) ⟨b.slots, pool⟩

variable {P} {b c : Book Id Asset Terms Outcome Money}
  {act : Action Id Asset Terms Outcome} {acts : List (Action Id Asset Terms Outcome)}

/-! ## Every position is opened and closed at most once -/

theorem Policy.Step.history (hstep : P.Step b act c)
    (h : ∀ id, History P.valid P.allowed id acts (b.slots id)) (id : Id) :
    History P.valid P.allowed id (acts ++ [act]) (c.slots id) := by
  cases hstep with
  | @opened i terms pool hvacant hvalid hpool =>
      by_cases hi : i = id
      · subst hi
        simpa using (hvacant ▸ h i).open hvalid
      · simp only [update_of_ne (Ne.symm hi)]
        exact (h id).frame (by simp [hi]) (by simp)
  | @closed i terms outcome pool hheld hvalid hallowed hpool =>
      by_cases hi : i = id
      · subst hi
        simpa using (hheld ▸ h i).close hallowed
      · simp only [update_of_ne (Ne.symm hi)]
        exact (h id).frame (by simp) (by simp [hi])
  | gift hother hpool => exact (h id).frame rfl rfl

/-- From the empty book, the position reached tells every action taken on it. -/
theorem history_of_execution (h : Execution P.Step Book.empty acts b) (id : Id) :
    History P.valid P.allowed id acts (b.slots id) := by
  refine Execution.history
    (P := fun acts b => ∀ id, History P.valid P.allowed id acts (b.slots id)) h ?_ ?_ id
  · intro id
    exact .vacant rfl rfl
  · intro past u label v hu hstep id
    exact hstep.history hu id

theorem History.slotValid {id : Id} {slot : Slot Terms Outcome}
    (h : History P.valid P.allowed id acts slot) : P.SlotValid slot := by
  cases h with
  | vacant ho hc => trivial
  | held ho hc hv => exact hv
  | closed ho hc hv ha => exact hv

/-- What was closed had been opened, and its terms allowed the outcome. -/
theorem terms_of_closed {id : Id} {outcome : Outcome}
    (h : Execution P.Step Book.empty acts b) (hact : .closed id outcome ∈ acts) :
    ∃ terms, (id, terms) ∈ openings acts ∧ P.valid terms ∧ P.allowed terms outcome := by
  have hmem := mem_valuesAt.mpr (mem_closings hact)
  have hhistory := history_of_execution h id
  generalize b.slots id = slot at hhistory
  cases hhistory with
  | vacant ho hc => simp [hc] at hmem
  | held ho hc hv => simp [hc] at hmem
  | @closed terms last ho hc hv ha =>
      rw [hc, List.mem_singleton] at hmem
      subst hmem
      exact ⟨terms, mem_valuesAt.mp (by simp [ho]), hv, ha⟩

theorem Policy.Step.closed_stays {id : Id} {terms : Terms} {outcome : Outcome}
    (hstep : P.Step b act c) (h : b.slots id = .closed terms outcome) :
    c.slots id = .closed terms outcome := by
  cases hstep with
  | @opened i terms pool hvacant hvalid hpool =>
      have hi : id ≠ i := by
        rintro rfl
        simp [hvacant] at h
      simpa [update_of_ne hi] using h
  | @closed i terms outcome pool hheld hvalid hallowed hpool =>
      have hi : id ≠ i := by
        rintro rfl
        simp [hheld] at h
      simpa [update_of_ne hi] using h
  | gift hother hpool => exact h

/-- A closed position never changes again. -/
theorem closed_stays {id : Id} {terms : Terms} {outcome : Outcome}
    (h : Execution P.Step b acts c) (hclosed : b.slots id = .closed terms outcome) :
    c.slots id = .closed terms outcome :=
  Execution.invariant (P := fun d : Book Id Asset Terms Outcome Money =>
    d.slots id = .closed terms outcome) h hclosed (fun hu hstep => hstep.closed_stays hu)

theorem Policy.Step.held_stays {id : Id} {terms : Terms} (hstep : P.Step b act c)
    (h : b.slots id = .held terms) : c.slots id = .held terms ∨
      ∃ outcome, act = .closed id outcome ∧ P.allowed terms outcome ∧
        c.slots id = .closed terms outcome := by
  cases hstep with
  | @opened i terms' pool hvacant hvalid hpool =>
      have hi : id ≠ i := by
        rintro rfl
        simp [hvacant] at h
      left
      simpa [update_of_ne hi] using h
  | @closed i terms' outcome pool hheld hvalid hallowed hpool =>
      by_cases hi : id = i
      · subst hi
        obtain rfl : terms = terms' := by simpa [hheld] using h.symm
        exact .inr ⟨outcome, rfl, hallowed, by simp⟩
      · left
        simpa [update_of_ne hi] using h
  | gift hother hpool => exact .inl h

/-- A held position is still held, or one of the actions since has closed it. -/
theorem held_or_closed {id : Id} {terms : Terms} (h : Execution P.Step b acts c)
    (hheld : b.slots id = .held terms) : c.slots id = .held terms ∨
      ∃ outcome, .closed id outcome ∈ acts ∧ P.allowed terms outcome ∧
        c.slots id = .closed terms outcome := by
  refine h.history (P := fun acts d => d.slots id = .held terms ∨
    ∃ outcome, .closed id outcome ∈ acts ∧ P.allowed terms outcome ∧
      d.slots id = .closed terms outcome) (.inl hheld) ?_
  intro past d act e hd hstep
  rcases hd with hd | ⟨outcome, hmem, hallowed, hd⟩
  · rcases hstep.held_stays hd with he | ⟨outcome, rfl, hallowed, he⟩
    · exact .inl he
    · exact .inr ⟨outcome, by simp, hallowed, he⟩
  · exact .inr ⟨outcome, by simp [hmem], hallowed, hstep.closed_stays hd⟩

/-! ## The pool covers the open positions -/

variable [Fintype Id]

theorem liabilities_update (slots : Id → Slot Terms Outcome) (id : Id)
    (slot : Slot Terms Outcome) (asset : Asset) :
    P.liabilities (update slots id slot) asset + P.due asset (slots id) =
      P.liabilities slots asset + P.due asset slot := by
  have hsum (f : Id → Money) : ∑ i, f i = f id + ∑ i ∈ Finset.univ \ {id}, f i := by
    simpa using Finset.sum_update_of_mem (Finset.mem_univ id) f (f id)
  have hrest : ∑ i ∈ Finset.univ \ {id}, P.due asset (update slots id slot i) =
      ∑ i ∈ Finset.univ \ {id}, P.due asset (slots i) := by
    refine Finset.sum_congr rfl fun i hi => ?_
    have hne : i ≠ id := by simpa using hi
    rw [update_of_ne hne]
  unfold Policy.liabilities
  rw [hsum, hsum (fun i => P.due asset (slots i)), hrest, update_self]
  abel

variable [IsOrderedCancelAddMonoid Money]

/-- The pool holds at least what the open positions cost. -/
def Policy.Solvent (P : Policy Asset Terms Outcome Money)
    (b : Book Id Asset Terms Outcome Money) : Prop :=
  ∀ asset, P.liabilities b.slots asset ≤ b.pool asset

/-- The action adds to an asset only what it makes the pool owe. -/
def Policy.Exact (P : Policy Asset Terms Outcome Money) (asset : Asset) :
    Action Id Asset Terms Outcome → Prop
  | .opened _ _ => True
  | .closed _ outcome => P.kept outcome asset = 0
  | .gift other => other ≠ asset

theorem Policy.Step.solvent (hstep : P.Step b act c) (h : P.Solvent b) : P.Solvent c := by
  intro asset
  have hb := h asset
  cases hstep with
  | @opened id terms pool hvacant hvalid hpool =>
      have hsum := liabilities_update (P := P) b.slots id (.held terms) asset
      rw [hvacant] at hsum
      simp only [Policy.due, add_zero] at hsum
      simp only [hsum, hpool asset]
      exact add_le_add_left hb _
  | @closed id terms outcome pool hheld hvalid hallowed hpool =>
      have hsum := liabilities_update (P := P) b.slots id (.closed terms outcome) asset
      rw [hheld] at hsum
      simp only [Policy.due, add_zero] at hsum
      refine le_of_add_le_add_right (a := P.cost terms asset) ?_
      rw [hsum, hpool asset]
      exact hb.trans (le_add_of_nonneg_right (P.kept_nonneg hvalid hallowed asset))
  | @gift other pool hother hpool =>
      by_cases ho : asset = other
      · subst ho
        exact hb.trans hpool
      · simpa [hother asset ho] using hb

theorem Policy.Step.exact {asset : Asset} (hstep : P.Step b act c) (hact : P.Exact asset act)
    (h : b.pool asset = P.liabilities b.slots asset) :
    c.pool asset = P.liabilities c.slots asset := by
  cases hstep with
  | @opened id terms pool hvacant hvalid hpool =>
      have hsum := liabilities_update (P := P) b.slots id (.held terms) asset
      rw [hvacant] at hsum
      simp only [Policy.due, add_zero] at hsum
      simp only [hsum, hpool asset, h]
  | @closed id terms outcome pool hheld hvalid hallowed hpool =>
      have hsum := liabilities_update (P := P) b.slots id (.closed terms outcome) asset
      rw [hheld] at hsum
      simp only [Policy.due, add_zero] at hsum
      have hkept : P.kept outcome asset = 0 := hact
      refine add_right_cancel (b := P.cost terms asset) ?_
      simp only [hsum, hpool asset, hkept, add_zero, h]
  | @gift other pool hother hpool =>
      simpa only [hother asset (Ne.symm hact)] using h

theorem solvent_of_execution (h : Execution P.Step Book.empty acts b) : P.Solvent b := by
  refine h.invariant ?_ (fun hu hstep => hstep.solvent hu)
  intro asset
  simp [Policy.liabilities, Book.empty, Policy.due]

/-- Without gifts and payments back into the pool, it holds exactly what it owes. -/
theorem exact_of_execution {asset : Asset} (h : Execution P.Step Book.empty acts b)
    (hexact : ∀ act ∈ acts, P.Exact asset act) :
    b.pool asset = P.liabilities b.slots asset := by
  refine Execution.history (P := fun acts b => (∀ act ∈ acts, P.Exact asset act) →
    b.pool asset = P.liabilities b.slots asset) h ?_ ?_ hexact
  · intro _
    simp [Policy.liabilities, Book.empty, Policy.due]
  · intro past u label v hu hstep hall
    simp only [List.mem_append, List.mem_singleton] at hall
    exact hstep.exact (hall label (.inr rfl)) (hu fun act hact => hall act (.inl hact))

/-- The pool can pay out any held position. -/
theorem cost_le_pool {id : Id} {terms : Terms} (h : Execution P.Step Book.empty acts b)
    (hheld : b.slots id = .held terms) (asset : Asset) : P.cost terms asset ≤ b.pool asset := by
  have hdue : P.due asset (b.slots id) = P.cost terms asset := by rw [hheld]; rfl
  rw [← hdue]
  refine le_trans ?_ (solvent_of_execution h asset)
  exact Finset.single_le_sum (f := fun i => P.due asset (b.slots i))
    (fun i _ => P.due_nonneg asset (history_of_execution h i).slotValid) (Finset.mem_univ id)

end Steps

end OverSync.Library.Escrow
