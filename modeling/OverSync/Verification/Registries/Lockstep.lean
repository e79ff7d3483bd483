import OverSync.Verification.ResolverRegistry.Refinement
import OverSync.Verification.SorobanRegistry.Refinement

/-! # The two registries side by side

The same actions of the same callers on a fresh registry of each chain. Both keep one roll as
long as nobody comes back by a top-up and the minimum is not lifted over the stake of an active
resolver; the first action that does either drives them apart. -/

namespace OverSync.Registries

open Function Library

/-- The addresses of the two contracts. -/
structure Chains where
  eth : Address
  stellar : Address

structure Pair where
  eth : ResolverRegistry.State
  stellar : SorobanRegistry.State

/-- An action, its caller, and the times of the two chains. -/
structure Op where
  caller : Address
  action : Action
  ethTime : ℕ
  stellarTime : ℕ

/-- The state a call leaves behind; a failed one changes nothing. -/
def after {ε σ α : Type} (result : Except ε (σ × α)) (s : σ) : σ :=
  match result with
  | .ok r => r.1
  | .error _ => s

variable (C : Chains)

def Pair.onEth (p : Pair) (op : Op) :
    Except ResolverRegistry.Error (ResolverRegistry.State × ResolverRegistry.Event) :=
  ResolverRegistry.exec C.eth op.ethTime (ResolverRegistry.call op.caller op.action) p.eth

def Pair.onStellar (p : Pair) (op : Op) : Except SorobanRegistry.Failure
    (SorobanRegistry.State × Option SorobanRegistry.Event) :=
  SorobanRegistry.exec (.by C.stellar op.stellarTime op.caller) p.stellar
    (SorobanRegistry.call op.caller op.action)

/-- One action on both registries. -/
def Pair.run (op : Op) (p : Pair) : Pair where
  eth := after (p.onEth C op) p.eth
  stellar := after (p.onStellar C op) p.stellar

/-- The registries give the same answers. -/
def Pair.SameAnswers (p : Pair) : Prop :=
  ∀ a, p.eth.isActive a = p.stellar.isActive a ∧
    ((p.eth.resolvers a).stake : ℤ) = p.stellar.stake a

/-- The action succeeds on both or on none, and afterwards the registries answer alike. -/
def Pair.Agrees (p : Pair) (op : Op) : Prop :=
  ((∃ r, p.onEth C op = .ok r) ↔ ∃ r, p.onStellar C op = .ok r) ∧ (p.run C op).SameAnswers

/-- The caller is an account, and no number gets out of range. -/
structure Pair.Admissible (p : Pair) (op : Op) : Prop where
  caller_ne : op.caller ≠ ResolverRegistry.zeroAddress
  caller_eth : op.caller ≠ C.eth
  caller_stellar : op.caller ≠ C.stellar
  fits : p.eth.roll.Fits op.caller op.action

/-- No inactive resolver comes back by a top-up, and the minimum is not lifted over the stake
of an active one. -/
def Pair.KeepsActivity (p : Pair) (op : Op) : Prop :=
  p.eth.roll.KeepsActivity op.caller op.action

/-- Just constructed and just initialized, with the same minimum and the same owner. -/
inductive Pair.Fresh (p : Pair) : Prop where
  | intro {minStake : ℕ} {owner ethAsset ethBeneficiary asset beneficiary : Address}
      {env : SorobanRegistry.Env} :
      env.self = C.stellar → asset ≠ C.stellar →
      ResolverRegistry.construct ethAsset minStake ethBeneficiary owner = .ok p.eth →
      SorobanRegistry.initialise env owner asset minStake beneficiary .deployed =
        .ok (p.stellar, none) →
      Pair.Fresh p

/-! ## While both keep one roll -/

/-- Both registries are in order and keep the same roll, with the minimum behind every flag. -/
structure Pair.InStep (p : Pair) : Prop where
  eth : ResolverRegistry.WellFormed p.eth
  ethBacked : p.eth.stakes.Backed
  stellar : SorobanRegistry.WellFormed p.stellar
  stellarBacked : p.stellar.stakes.Backed
  ready : SorobanRegistry.Ready C.stellar p.stellar
  roll : p.eth.roll = p.stellar.roll
  bounded : p.eth.roll.Bounded
  supported : p.eth.roll.Supported

variable {C} {p : Pair} {op : Op}

theorem Pair.Fresh.inStep (h : p.Fresh C) : p.InStep C := by
  obtain ⟨-, hasset, heth, hstellar⟩ := h
  obtain ⟨hethFormed, hethStakes⟩ := ResolverRegistry.construct_eq_ok heth
  have hethBacked : p.eth.stakes.Backed := hethStakes ▸ Stakes.Backed.empty
  have hdeployed : SorobanRegistry.State.deployed.stakes.Backed := Stakes.Backed.empty
  obtain ⟨hformed, hmove⟩ :=
    SorobanRegistry.initialise_moves SorobanRegistry.wellFormed_deployed hstellar
  obtain ⟨-, -, hs⟩ := SorobanRegistry.initialise_eq_ok hstellar
  simp only [ResolverRegistry.construct, require_bind_eq_ok] at heth
  have hp := (Except.ok.inj heth.2).symm
  have hroll : p.eth.roll.entry = fun _ => none := by
    rw [hp]
    rfl
  refine ⟨hethFormed, hethBacked, hformed, hmove.backed hdeployed, ?_, ?_, ?_, ?_⟩
  · rw [hs]
    exact ⟨by simp, ⟨_, rfl, hasset⟩, ⟨_, rfl⟩⟩
  · rw [hs, hp]
    rfl
  · intro a e he
    simp [hroll] at he
  · intro a e he
    simp [hroll] at he

theorem eth_roll_after {result : Except ResolverRegistry.Error
    (ResolverRegistry.State × ResolverRegistry.Event)} {s : ResolverRegistry.State} :
    (after result s).roll = (ResolverRegistry.rollAfter result).getD s.roll := by
  cases result <;> rfl

theorem stellar_roll_after {result : Except SorobanRegistry.Failure
    (SorobanRegistry.State × Option SorobanRegistry.Event)} {s : SorobanRegistry.State} :
    (after result s).roll = (SorobanRegistry.rollAfter result).getD s.roll := by
  cases result <;> rfl

theorem eth_ok_iff {result : Except ResolverRegistry.Error
    (ResolverRegistry.State × ResolverRegistry.Event)} :
    (∃ r, result = .ok r) ↔ (ResolverRegistry.rollAfter result).isSome := by
  cases result <;> simp [ResolverRegistry.rollAfter, Except.toOption]

theorem stellar_ok_iff {result : Except SorobanRegistry.Failure
    (SorobanRegistry.State × Option SorobanRegistry.Event)} :
    (∃ r, result = .ok r) ↔ (SorobanRegistry.rollAfter result).isSome := by
  cases result <;> simp [SorobanRegistry.rollAfter, Except.toOption]

/-- The rolls after an action. -/
theorem Pair.InStep.rolls (h : p.InStep C) (hop : p.Admissible C op) :
    ResolverRegistry.rollAfter (p.onEth C op) = p.eth.roll.step op.caller true op.action ∧
      SorobanRegistry.rollAfter (p.onStellar C op) =
        p.eth.roll.step op.caller false op.action := by
  constructor
  · exact ResolverRegistry.exec_roll h.eth h.ethBacked hop.fits
  · have hbound : ∀ a, ∀ info ∈ p.stellar.resolvers a, info.stake < 2 ^ 127 := by
      intro a info hinfo
      have hinfo' : p.stellar.resolvers a = some info := hinfo
      have hentry : p.eth.roll.entry a = some info.entry := by
        rw [h.roll]
        simp [SorobanRegistry.State.roll, hinfo']
      exact (h.bounded a _ hentry).2
    rw [h.roll]
    exact SorobanRegistry.exec_roll h.stellar h.stellarBacked h.ready hop.caller_stellar hbound
      (h.roll ▸ hop.fits)

/-- Both contracts stay in order, whatever becomes of their rolls. -/
theorem Pair.InStep.eth_after (h : p.InStep C) (hop : p.Admissible C op) :
    ResolverRegistry.WellFormed (p.run C op).eth ∧ (p.run C op).eth.stakes.Backed := by
  simp only [Pair.run]
  cases hresult : p.onEth C op with
  | error e => exact ⟨h.eth, h.ethBacked⟩
  | ok r =>
      have hsender :
          (ResolverRegistry.call op.caller op.action).sender ≠ ResolverRegistry.zeroAddress := by
        cases op.action <;> exact hop.caller_ne
      obtain ⟨hformed, movement, hmove⟩ := ResolverRegistry.exec_moves h.eth hsender hresult
      exact ⟨hformed, hmove.backed h.ethBacked⟩

variable (op) in
theorem Pair.InStep.stellar_after (h : p.InStep C) :
    SorobanRegistry.WellFormed (p.run C op).stellar ∧ (p.run C op).stellar.stakes.Backed ∧
      SorobanRegistry.Ready C.stellar (p.run C op).stellar := by
  simp only [Pair.run]
  cases hresult : p.onStellar C op with
  | error e => exact ⟨h.stellar, h.stellarBacked, h.ready⟩
  | ok r =>
      obtain ⟨hformed, movement, hmove⟩ :=
        SorobanRegistry.exec_moves h.stellar h.stellarBacked hresult
      exact ⟨hformed, hmove.backed h.stellarBacked,
        h.ready.exec h.stellar h.stellarBacked hresult⟩

theorem Pair.InStep.agrees_iff (h : p.InStep C) (hop : p.Admissible C op) :
    p.Agrees C op ↔ p.KeepsActivity op := by
  obtain ⟨heth, hstellar⟩ := h.rolls hop
  have hsucceeds : (∃ r, p.onEth C op = .ok r) ↔ ∃ r, p.onStellar C op = .ok r := by
    rw [eth_ok_iff, stellar_ok_iff, heth, hstellar, Roll.step_isSome]
  have hethRoll : (p.run C op).eth.roll =
      (p.eth.roll.step op.caller true op.action).getD p.eth.roll := by
    rw [Pair.run, eth_roll_after, heth]
  have hstellarRoll : (p.run C op).stellar.roll =
      (p.eth.roll.step op.caller false op.action).getD p.eth.roll := by
    rw [Pair.run, stellar_roll_after, hstellar, h.roll]
  have hformed := (h.eth_after hop).1
  rw [Pair.Agrees, and_iff_right hsucceeds, Pair.KeepsActivity, ← Roll.agree_iff h.supported,
    ← hethRoll, ← hstellarRoll]
  refine forall_congr' fun a => ?_
  rw [ResolverRegistry.roll_staked hformed, SorobanRegistry.roll_flag,
    ResolverRegistry.roll_stake hformed, SorobanRegistry.roll_stake]

theorem Pair.InStep.run (h : p.InStep C) (hop : p.Admissible C op)
    (hkeeps : p.KeepsActivity op) : (p.run C op).InStep C := by
  obtain ⟨heth, hstellar⟩ := h.rolls hop
  obtain ⟨hethFormed, hethBacked⟩ := h.eth_after hop
  obtain ⟨hformed, hbacked, hready⟩ := h.stellar_after op
  have hethRoll : (p.run C op).eth.roll =
      (p.eth.roll.step op.caller true op.action).getD p.eth.roll := by
    rw [Pair.run, eth_roll_after, heth]
  have hstellarRoll : (p.run C op).stellar.roll =
      (p.eth.roll.step op.caller false op.action).getD p.eth.roll := by
    rw [Pair.run, stellar_roll_after, hstellar, h.roll]
  refine ⟨hethFormed, hethBacked, hformed, hbacked, hready, ?_, ?_, ?_⟩
  · rw [hethRoll, hstellarRoll, Roll.step_eq hkeeps]
  · rw [hethRoll]
    cases hstep : p.eth.roll.step op.caller true op.action with
    | none => exact h.bounded
    | some r => exact h.bounded.step hop.fits hstep
  · rw [hethRoll]
    cases hstep : p.eth.roll.step op.caller true op.action with
    | none => exact h.supported
    | some r => exact h.supported.step hkeeps hstep

/-- From registries in step, the actions agree exactly when each keeps activity. -/
theorem Pair.InStep.allOk_iff (h : p.InStep C) {ops : List Op}
    (hops : AllOk (Pair.run C) (Pair.Admissible C) ops p) :
    AllOk (Pair.run C) (Pair.Agrees C) ops p ↔ AllOk (Pair.run C) Pair.KeepsActivity ops p :=
  allOk_iff_of_invariant (Pair.InStep C) (fun _ _ hp hop => hp.agrees_iff hop)
    (fun _ _ hp hop hkeeps => hp.run hop hkeeps) ops p h hops

/-- Two fresh registries agree on every action exactly when no action brings a resolver back by
a top-up or lifts the minimum over the stake of an active one. -/
theorem registries_agree_iff {ops : List Op} (hfresh : p.Fresh C)
    (hops : AllOk (Pair.run C) (Pair.Admissible C) ops p) :
    AllOk (Pair.run C) (Pair.Agrees C) ops p ↔ AllOk (Pair.run C) Pair.KeepsActivity ops p :=
  hfresh.inStep.allOk_iff hops

/-! ## A slashed resolver tops its stake up -/

def chains : Chains where
  eth := 50
  stellar := 60

/-- Registries of the owner 9 with a minimum of 100. -/
def freshPair : Pair where
  eth := {
    owner := 9
    minStake := 100
    slashBeneficiary := 12
    resolvers := fun _ => .unset
    resolverList := []
    resolverIndex := fun _ => 0
    entered := false
    balance := 0 }
  stellar := {
    inst := ⟨some 9, some 11, some 100, some 12, some []⟩
    resolvers := fun _ => none
    balance := fun _ => 0 }

theorem freshPair_fresh : freshPair.Fresh chains := by
  have heth : ResolverRegistry.construct 11 100 12 9 = .ok freshPair.eth := rfl
  have hstellar : SorobanRegistry.initialise (.by 60 1 9) 9 11 100 12 .deployed =
      .ok (freshPair.stellar, none) := rfl
  exact .intro rfl (by decide) heth hstellar

theorem registries_agree_left :
    AllOk (Pair.run chains) (Pair.Agrees chains)
      [⟨2, .register 100, 1, 1⟩, ⟨3, .register 150, 2, 2⟩, ⟨2, .unregister, 3, 3⟩] freshPair := by
  refine (registries_agree_iff freshPair_fresh ?_).mpr ⟨trivial, trivial, trivial, trivial⟩
  refine ⟨⟨by decide, by decide, by decide, ?_⟩, ⟨by decide, by decide, by decide, ?_⟩,
    ⟨by decide, by decide, by decide, trivial⟩, trivial⟩
  · simp [Roll.Fits, Roll.InRange]
  · simp [Roll.Fits, Roll.InRange]

/-- Half the stake is slashed and put back. -/
def topUp : List Op :=
  [⟨2, .register 100, 1, 1⟩, ⟨9, .slash 2 50, 2, 2⟩, ⟨2, .increaseStake 50, 3, 3⟩]

theorem topUp_answers : (runAll (Pair.run chains) topUp freshPair).eth.isActive 2 = true ∧
    (runAll (Pair.run chains) topUp freshPair).stellar.isActive 2 = false := by
  decide

theorem topUp_admissible : AllOk (Pair.run chains) (Pair.Admissible chains) topUp freshPair := by
  refine ⟨⟨by decide, by decide, by decide, ?_⟩, ⟨by decide, by decide, by decide, ?_⟩,
    ⟨by decide, by decide, by decide, ?_⟩, trivial⟩
  · simp [Roll.Fits, Roll.InRange]
  · intro e he
    have hentry : (freshPair.run chains ⟨2, .register 100, 1, 1⟩).eth.roll.entry 2 =
        some ⟨100, 0, true⟩ := by decide
    obtain rfl := Option.some.inj (hentry.symm.trans he)
    simp [Roll.InRange]
  · intro e he
    have hentry : ((freshPair.run chains ⟨2, .register 100, 1, 1⟩).run chains
        ⟨9, .slash 2 50, 2, 2⟩).eth.roll.entry 2 = some ⟨50, 50, false⟩ := by decide
    obtain rfl := Option.some.inj (hentry.symm.trans he)
    simp [Roll.InRange]

/-- The Ethereum registry counts the resolver as active again, the Stellar one does not. -/
theorem registries_part : freshPair.Fresh chains ∧
    AllOk (Pair.run chains) (Pair.Admissible chains) topUp freshPair ∧
    ¬AllOk (Pair.run chains) (Pair.Agrees chains) topUp freshPair := by
  refine ⟨freshPair_fresh, topUp_admissible, fun h => ?_⟩
  obtain ⟨heth, hstellar⟩ := topUp_answers
  have hsame := (h.2.2.1.2 2).1
  exact Bool.noConfusion (heth.symm.trans (hsame.trans hstellar))

end OverSync.Registries
