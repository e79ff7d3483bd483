import OverSync.Library.Escrow

/-! # Contracts that keep a pooled escrow account

A contract stores one entry per position under ids from a counter. When each of its steps has
one of the effects below, its runs are runs of the account, as long as the counter has not
come round. -/

namespace OverSync.Library.Escrow

open Function

variable {S Id Asset Terms Outcome Money Entry : Type*}
  [AddCommMonoid Money] [PartialOrder Money]

/-- How the state of a contract shows an account: the entry of every position, the balance of
every asset, and the next id of the counter. The first `capacity` ids are distinct. -/
structure Storage (S Id Asset Entry : Type*) {Terms Outcome Money : Type*}
    [Zero Money] [LE Money] (P : Policy Asset Terms Outcome Money) where
  entry : S → Id → Entry
  balance : S → Asset → Money
  next : S → Id
  entryOf : Slot Terms Outcome → Entry
  nthId : ℕ → Id
  capacity : ℕ
  nthId_ne : ∀ {j k}, 0 < j → j < k → k ≤ capacity → nthId k ≠ nthId j
  held_of_entry : ∀ {terms slot}, P.valid terms → entryOf slot = entryOf (.held terms) →
    slot = .held terms

variable {P : Policy Asset Terms Outcome Money} {V : Storage S Id Asset Entry P}

section Effects

variable [DecidableEq Id]

/-- What a step of a contract may do to its account. -/
inductive Effect (V : Storage S Id Asset Entry P) (s : S) :
    List (Action Id Asset Terms Outcome) → S → Prop where
  | opened {terms s'} : P.valid terms →
      V.entry s' = update (V.entry s) (V.next s) (V.entryOf (.held terms)) →
      (∀ k, V.next s = V.nthId k → V.next s' = V.nthId (k + 1)) →
      (∀ asset, V.balance s' asset = V.balance s asset + P.cost terms asset) →
      Effect V s [.opened (V.next s) terms] s'
  | closed {id terms outcome s'} : P.valid terms → V.entry s id = V.entryOf (.held terms) →
      P.allowed terms outcome →
      V.entry s' = update (V.entry s) id (V.entryOf (.closed terms outcome)) →
      V.next s' = V.next s →
      (∀ asset, V.balance s' asset + P.cost terms asset =
        V.balance s asset + P.kept outcome asset) →
      Effect V s [.closed id outcome] s'
  | gift {s'} (asset : Asset) : V.entry s' = V.entry s → V.next s' = V.next s →
      (∀ other, other ≠ asset → V.balance s' other = V.balance s other) →
      V.balance s asset ≤ V.balance s' asset → Effect V s [.gift asset] s'
  | silent {s'} : V.entry s' = V.entry s → V.next s' = V.next s →
      (∀ asset, V.balance s' asset = V.balance s asset) → Effect V s [] s'

/-- The account `b` is what the contract shows in state `s`, reached by `acts`. -/
structure Represents (V : Storage S Id Asset Entry P)
    (acts : List (Action Id Asset Terms Outcome)) (s : S)
    (b : Book Id Asset Terms Outcome Money) : Prop where
  pool : ∀ asset, b.pool asset = V.balance s asset
  entries : ∀ id, V.entry s id = V.entryOf (b.slots id)
  next : V.next s = V.nthId ((openings acts).length + 1)
  vacant : ∀ k, (openings acts).length < k → k ≤ V.capacity → b.slots (V.nthId k) = .vacant

variable {acts acts' : List (Action Id Asset Terms Outcome)} {s s' : S}
  {b : Book Id Asset Terms Outcome Money}

/-- Changing one entry with its position keeps the entries in step. -/
theorem entries_update {id : Id} {slot : Slot Terms Outcome}
    (h : ∀ i, V.entry s i = V.entryOf (b.slots i)) (i : Id) :
    update (V.entry s) id (V.entryOf slot) i = V.entryOf (update b.slots id slot i) := by
  by_cases hi : i = id
  · subst hi
    simp
  · simpa [update_of_ne hi] using h i

theorem Effect.simulates (h : Effect V s acts' s') (hb : Represents V acts s b)
    (hcapacity : (openings (acts ++ acts')).length ≤ V.capacity) :
    ∃ c, Execution P.Step b acts' c ∧ Represents V (acts ++ acts') s' c := by
  cases h with
  | @opened terms _ hvalid hentry hnext hbalance =>
      simp only [openings_append, openings_opened, List.length_append, List.length_singleton]
        at hcapacity
      have hvacant : b.slots (V.next s) = .vacant := by
        rw [hb.next]
        exact hb.vacant _ (Nat.lt_succ_self _) hcapacity
      refine ⟨⟨update b.slots (V.next s) (.held terms), V.balance s'⟩,
        .single (.opened hvacant hvalid fun asset => ?_), fun _ => rfl, fun id => ?_, ?_,
        fun k hlt hle => ?_⟩
      · rw [hbalance asset, hb.pool asset]
      · rw [hentry]
        exact entries_update hb.entries id
      · simpa using hnext _ hb.next
      · simp only [openings_append, openings_opened, List.length_append,
          List.length_singleton] at hlt
        have hne : V.nthId k ≠ V.next s := by
          rw [hb.next]
          exact V.nthId_ne (Nat.succ_pos _) hlt hle
        simpa [update_of_ne hne] using hb.vacant k (by omega) hle
  | @closed id terms outcome _ hvalid hheld hallowed hentry hnext hbalance =>
      have hslot : b.slots id = .held terms :=
        V.held_of_entry hvalid ((hb.entries id).symm.trans hheld)
      refine ⟨⟨update b.slots id (.closed terms outcome), V.balance s'⟩,
        .single (.closed hslot hvalid hallowed fun asset => ?_), fun _ => rfl, fun id => ?_, ?_,
        fun k hlt hle => ?_⟩
      · rw [hb.pool asset]
        exact hbalance asset
      · rw [hentry]
        exact entries_update hb.entries id
      · rw [hnext]
        simpa using hb.next
      · have hvacant := hb.vacant k (by simpa using hlt) hle
        have hne : V.nthId k ≠ id := by
          rintro rfl
          simp [hvacant] at hslot
        simpa [update_of_ne hne] using hvacant
  | gift asset hentry hnext hother hle =>
      refine ⟨⟨b.slots, V.balance s'⟩, .single (.gift (fun other hne => ?_) ?_),
        fun _ => rfl, fun id => ?_, ?_, fun k hlt hle => ?_⟩
      · rw [hother other hne, hb.pool other]
      · rw [hb.pool asset]
        exact hle
      · rw [hentry]
        exact hb.entries id
      · rw [hnext]
        simpa using hb.next
      · exact hb.vacant k (by simpa using hlt) hle
  | silent hentry hnext hbalance =>
      refine ⟨b, .refl, fun asset => ?_, fun id => ?_, ?_, ?_⟩
      · rw [hbalance asset]
        exact hb.pool asset
      · rw [hentry]
        exact hb.entries id
      · rw [hnext]
        simpa using hb.next
      · simpa using hb.vacant

/-! ## Runs -/

variable {Label : Type*} {step : S → Label → S → Prop}
  {actions : Label → List (Action Id Asset Terms Outcome)} {past labels : List Label}

/-- A run is matched by a run of the account, from any state the account represents. -/
theorem Represents.run (hb : Represents V (past.flatMap actions) s b)
    (hstep : ∀ {u label v}, step u label v → Effect V u (actions label) v)
    (h : Execution step s labels s')
    (hcapacity : (openings ((past ++ labels).flatMap actions)).length ≤ V.capacity) :
    ∃ c, Execution P.Step b (labels.flatMap actions) c ∧
      Represents V ((past ++ labels).flatMap actions) s' c := by
  refine h.simulate (R := fun front u c => Represents V ((past ++ front).flatMap actions) u c)
    (by simpa using hb) ?_
  intro front u label v c hprefix hu hlabel
  have hsnoc : (past ++ (front ++ [label])).flatMap actions =
      (past ++ front).flatMap actions ++ actions label := by
    simp
  rw [hsnoc]
  refine (hstep hlabel).simulates hu ?_
  rw [← hsnoc]
  obtain ⟨rest, rfl⟩ := hprefix
  refine le_trans ?_ hcapacity
  simp only [List.flatMap_append, openings_append, List.length_append]
  omega

/-- A run from a state that shows the empty account. -/
theorem Represents.run_empty (hb : Represents V [] s Book.empty)
    (hstep : ∀ {u label v}, step u label v → Effect V u (actions label) v)
    (h : Execution step s labels s')
    (hcapacity : (openings (labels.flatMap actions)).length ≤ V.capacity) :
    ∃ c, Execution P.Step Book.empty (labels.flatMap actions) c ∧
      Represents V (labels.flatMap actions) s' c := by
  have hstart : Represents V (([] : List Label).flatMap actions) s Book.empty := hb
  simpa using hstart.run hstep h (by simpa using hcapacity)

/-- An entry of a closed position stays as it is. -/
theorem Represents.entry_stays (hb : Represents V (past.flatMap actions) s b)
    (hstep : ∀ {u label v}, step u label v → Effect V u (actions label) v)
    (h : Execution step s labels s')
    (hcapacity : (openings ((past ++ labels).flatMap actions)).length ≤ V.capacity)
    {id : Id} {terms : Terms} {outcome : Outcome} (hclosed : b.slots id = .closed terms outcome) :
    V.entry s' id = V.entry s id := by
  obtain ⟨c, hc, hs'⟩ := hb.run hstep h hcapacity
  rw [hs'.entries, hb.entries, closed_stays hc hclosed, hclosed]

/-- The entry of a held position stays as it is until an action closes the position. -/
theorem Represents.entry_held (hb : Represents V (past.flatMap actions) s b)
    (hstep : ∀ {u label v}, step u label v → Effect V u (actions label) v)
    (h : Execution step s labels s')
    (hcapacity : (openings ((past ++ labels).flatMap actions)).length ≤ V.capacity)
    {id : Id} {terms : Terms} (hvalid : P.valid terms)
    (hheld : V.entry s id = V.entryOf (.held terms)) :
    V.entry s' id = V.entry s id ∨ ∃ outcome, .closed id outcome ∈ labels.flatMap actions ∧
      P.allowed terms outcome ∧ V.entry s' id = V.entryOf (.closed terms outcome) := by
  have hslot : b.slots id = .held terms :=
    V.held_of_entry hvalid ((hb.entries id).symm.trans hheld)
  obtain ⟨c, hc, hs'⟩ := hb.run hstep h hcapacity
  rcases held_or_closed hc hslot with hslot' | ⟨outcome, hmem, hallowed, hslot'⟩
  · left
    rw [hs'.entries, hslot', hheld]
  · right
    exact ⟨outcome, hmem, hallowed, by rw [hs'.entries, hslot']⟩

end Effects

end OverSync.Library.Escrow
