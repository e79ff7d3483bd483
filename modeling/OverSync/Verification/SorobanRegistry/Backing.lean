import OverSync.Library.Stakes
import OverSync.Verification.SorobanRegistry.Equations
import Mathlib.Algebra.Order.Group.Defs
import Mathlib.Algebra.Order.Group.Int
import Mathlib.Data.Int.ConditionallyCompleteOrder
import Mathlib.Order.ConditionallyCompleteLattice.Basic

/-! # Records, list and stakes of `resolver-registry`

The list in instance storage and the records in persistent storage name the same resolvers.
Every step is a movement of their stakes, so that the balance of the stake asset covers them. -/

namespace OverSync.SorobanRegistry

open Function Library

variable {env : Env} {current resolver : Address} {s s' : State} {event : Option Event}

/-- What is recorded of a resolver; nothing counts as zero. -/
def State.stake (s : State) (a : Address) : ℤ :=
  ((s.resolvers a).map ResolverInfo.stake).getD 0

/-- The balance of the stake asset. -/
def State.pool (s : State) : ℤ :=
  (s.inst.stakeAsset.map s.balance).getD 0

/-- The stakes of the resolvers and the balance they lie in. -/
def State.stakes (s : State) : Stakes Address ℤ where
  members := s.list
  stake := s.stake
  pool := s.pool

/-- The list names exactly the recorded resolvers; before `initialize` there is nothing. -/
structure WellFormed (s : State) : Prop where
  minStake : 0 ≤ s.minStake
  fresh : s.inst.admin = none → s.inst.stakeAsset = none ∧ s.list = [] ∧
    (∀ a, s.resolvers a = none) ∧ ∀ asset, 0 ≤ s.balance asset
  nodup : s.list.Nodup
  listed : ∀ a, a ∈ s.list ↔ s.resolvers a ≠ none

theorem State.stake_of {info : ResolverInfo} (h : s.resolvers resolver = some info) :
    s.stake resolver = info.stake := by
  simp [State.stake, h]

theorem WellFormed.mem_of {info : ResolverInfo} (hs : WellFormed s)
    (h : s.resolvers resolver = some info) : resolver ∈ s.list := by
  rw [hs.listed, h]
  simp

theorem stake_nonneg (hs : WellFormed s) (hb : s.stakes.Backed) :
    ∀ info ∈ s.resolvers resolver, 0 ≤ info.stake := by
  intro info hinfo
  rw [← State.stake_of hinfo]
  exact hb.nonneg resolver (hs.mem_of hinfo)

theorem stake_update_some {records : Address → Option ResolverInfo} {info : ResolverInfo} :
    (fun a => ((update records resolver (some info) a).map ResolverInfo.stake).getD 0) =
      update (fun a => ((records a).map ResolverInfo.stake).getD 0) resolver info.stake := by
  funext a
  by_cases ha : a = resolver
  · subst ha
    simp
  · simp [ha]

/-! ## What one call does to the stakes -/

theorem initialise_moves {admin stakeAsset : Address} {minStake : ℤ} {beneficiary : Address}
    (hs : WellFormed s)
    (h : initialise env admin stakeAsset minStake beneficiary s = .ok (s', event)) :
    WellFormed s' ∧ Stakes.Step s.stakes .gift s'.stakes := by
  obtain ⟨hadmin, hmin, rfl⟩ := initialise_eq_ok h
  obtain ⟨hasset, hlist, hresolvers, hbalance⟩ := hs.fresh hadmin
  constructor
  · refine ⟨hmin, fun hnone => by simp at hnone, List.nodup_nil, fun a => ?_⟩
    simp [State.list, hresolvers a]
  · refine .gift ?_ rfl ?_
    · simpa [State.stakes, State.list] using hlist.symm
    · simpa [State.stakes, State.pool, hasset] using hbalance stakeAsset

theorem register_moves {stake : ℤ} {pull : Bool} (hs : WellFormed s)
    (h : register env resolver stake pull s = .ok (s', event)) :
    WellFormed s' ∧ Stakes.Step s.stakes (.joined resolver stake) s'.stakes := by
  obtain ⟨hadmin, hmin, hnew, asset, hasset, rfl⟩ := register_eq_ok h
  have hnotMem : resolver ∉ s.list := fun hmem => (hs.listed resolver).mp hmem hnew
  have hperm : (s.list ++ [resolver]).Perm (resolver :: s.list) :=
    List.perm_append_singleton resolver s.list
  constructor
  · refine ⟨hs.minStake, fun hnone => absurd hnone hadmin, ?_, fun a => ?_⟩
    · exact hperm.nodup_iff.mpr (List.nodup_cons.mpr ⟨hnotMem, hs.nodup⟩)
    · by_cases ha : a = resolver
      · simp [State.list, ha]
      · have hlisted := hs.listed a
        simpa [State.list, ha] using hlisted
  · refine .joined hnotMem (hs.minStake.trans hmin) hperm stake_update_some ?_
    simp [State.stakes, State.pool, hasset]

/-- Changing the record of a recorded resolver keeps the list. -/
theorem WellFormed.rewrite {old info : ResolverInfo} {balance : Address → ℤ} (hs : WellFormed s)
    (hadmin : s.inst.admin ≠ none) (hinfo : s.resolvers resolver = some old) :
    WellFormed { s with
      resolvers := update s.resolvers resolver (some info)
      balance := balance } := by
  refine ⟨hs.minStake, fun hnone => absurd hnone hadmin, hs.nodup, fun a => ?_⟩
  by_cases ha : a = resolver
  · subst ha
    simpa [State.list] using hs.mem_of hinfo
  · have hlisted := hs.listed a
    simpa [State.list, ha] using hlisted

theorem increaseStake_moves {additional : ℤ} {pull : Bool} (hs : WellFormed s)
    (h : increaseStake env resolver additional pull s = .ok (s', event)) :
    WellFormed s' ∧ Stakes.Step s.stakes (.raised resolver additional) s'.stakes := by
  obtain ⟨hadmin, hpos, info, asset, hinfo, hasset, rfl⟩ := increaseStake_eq_ok h
  refine ⟨hs.rewrite hadmin hinfo, .raised (hs.mem_of hinfo) hpos.le rfl ?_ ?_⟩
  · rw [show s.stakes.stake resolver = info.stake from State.stake_of hinfo]
    exact stake_update_some
  · simp [State.stakes, State.pool, hasset]

theorem unregister_moves {pay : Bool} (hs : WellFormed s) (hb : s.stakes.Backed)
    (h : unregister env resolver pay s = .ok (s', event)) :
    WellFormed s' ∧ Stakes.Step s.stakes (.left resolver) s'.stakes := by
  obtain ⟨hadmin, info, asset, hinfo, hasset, hs', hbalance⟩ :=
    unregister_eq_ok (stake_nonneg hs hb) h
  have hmem := hs.mem_of hinfo
  rw [hs']
  constructor
  · refine ⟨hs.minStake, fun hnone => absurd hnone hadmin, hs.nodup.filter _, fun a => ?_⟩
    by_cases ha : a = resolver
    · simp [State.list, ha]
    · have hlisted := hs.listed a
      simpa [State.list, ha] using hlisted
  · refine .left ?_ (fun a ha => ?_) ?_
    · have herase : (s.list.filter fun addr => addr ≠ resolver) = s.list.erase resolver := by
        rw [hs.nodup.erase_eq_filter]
        exact List.filter_congr fun a _ => by by_cases ha : a = resolver <;> simp [ha]
      exact herase ▸ List.perm_cons_erase hmem
    · simp [State.stakes, State.stake, update_of_ne ha]
    · simpa [State.stakes, State.pool, hasset, State.stake_of hinfo] using hbalance

theorem slash_moves {amount : ℤ} {pay : Bool} (hs : WellFormed s) (hb : s.stakes.Backed)
    (h : slash env resolver amount pay s = .ok (s', event)) :
    WellFormed s' ∧ ∃ take, Stakes.Step s.stakes (.cut resolver take) s'.stakes := by
  obtain ⟨hadmin, hpos, info, asset, hinfo, hasset, hs', hbalance⟩ :=
    slash_eq_ok (stake_nonneg hs hb) h
  rw [hs']
  have hrest : 0 ≤ info.stake - min amount info.stake := by omega
  refine ⟨hs.rewrite hadmin hinfo, min amount info.stake,
    .cut (hs.mem_of hinfo) hrest rfl ?_ ?_ ?_⟩
  · rw [show s.stakes.stake resolver = s.stake resolver from rfl, State.stake_of hinfo]
    omega
  · exact stake_update_some
  · simpa [State.stakes, State.pool, hasset] using hbalance

theorem SetSpec.moves (h : SetSpec s s') (hs : WellFormed s) :
    WellFormed s' ∧ Stakes.Step s.stakes .gift s'.stakes := by
  have hlist : s'.list = s.list := by rw [State.list, State.list, h.resolverList]
  constructor
  · refine ⟨h.minStake hs.minStake, fun hnone => absurd hnone h.admin.2, hlist ▸ hs.nodup, ?_⟩
    rw [hlist, h.resolvers]
    exact hs.listed
  · refine .gift hlist ?_ ?_
    · funext a
      simp [State.stakes, State.stake, h.resolvers]
    · simp [State.stakes, State.pool, h.stakeAsset, h.balance]

theorem exec_moves {call : Call} (hs : WellFormed s) (hb : s.stakes.Backed)
    (h : exec env s call = .ok (s', event)) :
    WellFormed s' ∧ ∃ movement, Stakes.Step s.stakes movement s'.stakes := by
  cases call with
  | initialise admin stakeAsset minStake beneficiary =>
      obtain ⟨hs', hstep⟩ := initialise_moves hs h
      exact ⟨hs', _, hstep⟩
  | register resolver stake pull =>
      obtain ⟨hs', hstep⟩ := register_moves hs h
      exact ⟨hs', _, hstep⟩
  | increaseStake resolver additional pull =>
      obtain ⟨hs', hstep⟩ := increaseStake_moves hs h
      exact ⟨hs', _, hstep⟩
  | unregister resolver pay =>
      obtain ⟨hs', hstep⟩ := unregister_moves hs hb h
      exact ⟨hs', _, hstep⟩
  | slash resolver amount pay =>
      obtain ⟨hs', take, hstep⟩ := slash_moves hs hb h
      exact ⟨hs', _, hstep⟩
  | setMinStake newMinimum =>
      obtain ⟨hs', hstep⟩ := (setMinStake_eq_ok h).moves hs
      exact ⟨hs', _, hstep⟩
  | setAdmin newAdmin =>
      obtain ⟨hs', hstep⟩ := (setAdmin_eq_ok h).moves hs
      exact ⟨hs', _, hstep⟩
  | setSlashBeneficiary newBeneficiary =>
      obtain ⟨hs', hstep⟩ := (setSlashBeneficiary_eq_ok h).moves hs
      exact ⟨hs', _, hstep⟩

theorem Step.moves {record : Record} (hs : WellFormed s) (hb : s.stakes.Backed)
    (h : Step current s record s') :
    WellFormed s' ∧ ∃ movement, Stakes.Step s.stakes movement s'.stakes := by
  cases h with
  | success _ hexec => exact exec_moves hs hb hexec
  | panic _ _ => exact ⟨hs, .gift, .gift rfl rfl le_rfl⟩
  | @donation asset amount hamount =>
      have hle : ∀ other, s.balance other ≤
          update s.balance asset (s.balance asset + amount) other := by
        intro other
        by_cases ho : other = asset
        · subst ho
          simpa using hamount
        · simp [ho]
      constructor
      · refine ⟨hs.minStake, fun hnone => ?_, hs.nodup, hs.listed⟩
        obtain ⟨hasset, hlist, hresolvers, hbalance⟩ := hs.fresh hnone
        exact ⟨hasset, hlist, hresolvers, fun other => (hbalance other).trans (hle other)⟩
      · refine ⟨.gift, .gift rfl rfl ?_⟩
        cases hasset : s.inst.stakeAsset with
        | none => simp [State.stakes, State.pool, hasset]
        | some stakeAsset => simpa [State.stakes, State.pool, hasset] using hle stakeAsset

/-! ## Runs -/

variable {records : List Record}

theorem wellFormed_deployed : WellFormed .deployed where
  minStake := le_rfl
  fresh := fun _ => ⟨rfl, rfl, fun _ => rfl, fun _ => le_rfl⟩
  nodup := List.nodup_nil
  listed := fun a => by simp [State.deployed, State.list]

/-- Runs of the registry are runs of its stakes. -/
theorem execution_moves (h : Execution (Step current) .deployed records s) :
    WellFormed s ∧ ∃ movements, Execution Stakes.Step Stakes.empty movements s.stakes := by
  refine h.invariant (P := fun s => WellFormed s ∧
    ∃ movements, Execution Stakes.Step Stakes.empty movements s.stakes) ?_ ?_
  · exact ⟨wellFormed_deployed, [], .refl⟩
  · rintro u record v ⟨hu, movements, hmoves⟩ hstep
    have hbacked := Stakes.backed_of_execution hmoves Stakes.Backed.empty
    obtain ⟨hv, movement, hmove⟩ := hstep.moves hu hbacked
    exact ⟨hv, _, .snoc hmoves hmove⟩

/-! ## What has been slashed -/

/-- Rewriting one record, without lowering what was slashed, lowers it for nobody. -/
theorem totalSlashed_update {a : Address} (info : ResolverInfo) {old now later : ResolverInfo}
    (hold : s.resolvers resolver = some old) (hle : old.totalSlashed ≤ info.totalSlashed)
    (hnow : s.resolvers a = some now)
    (hlater : update s.resolvers resolver (some info) a = some later) :
    now.totalSlashed ≤ later.totalSlashed := by
  by_cases ha : a = resolver
  · subst ha
    rw [update_self] at hlater
    cases hlater
    obtain rfl := Option.some.inj (hold.symm.trans hnow)
    exact hle
  · rw [update_of_ne ha, hnow] at hlater
    cases hlater
    exact le_rfl

theorem exec_totalSlashed {call : Call} {a : Address} {now later : ResolverInfo}
    (hs : WellFormed s) (hb : s.stakes.Backed) (h : exec env s call = .ok (s', event))
    (hnow : s.resolvers a = some now) (hlater : s'.resolvers a = some later) :
    now.totalSlashed ≤ later.totalSlashed := by
  have hsame (hresolvers : s'.resolvers = s.resolvers) :
      now.totalSlashed ≤ later.totalSlashed := by
    rw [hresolvers, hnow] at hlater
    cases hlater
    exact le_rfl
  cases call with
  | initialise admin stakeAsset minStake beneficiary =>
      obtain ⟨-, -, hs'⟩ := initialise_eq_ok h
      exact hsame (by rw [hs'])
  | register resolver stake pull =>
      obtain ⟨-, -, hnew, asset, -, rfl⟩ := register_eq_ok h
      have ha : a ≠ resolver := by
        rintro rfl
        simp [hnew] at hnow
      simp only [update_of_ne ha, hnow] at hlater
      cases hlater
      exact le_rfl
  | increaseStake resolver additional pull =>
      obtain ⟨-, -, info, asset, hinfo, -, rfl⟩ := increaseStake_eq_ok h
      exact totalSlashed_update { info with stake := info.stake + additional }
        hinfo le_rfl hnow hlater
  | unregister resolver pay =>
      obtain ⟨-, info, asset, -, -, hs', -⟩ := unregister_eq_ok (stake_nonneg hs hb) h
      rw [hs'] at hlater
      by_cases ha : a = resolver
      · simp [ha] at hlater
      · simp only [update_of_ne ha, hnow] at hlater
        cases hlater
        exact le_rfl
  | slash resolver amount pay =>
      obtain ⟨-, hpos, info, asset, hinfo, -, hs', -⟩ := slash_eq_ok (stake_nonneg hs hb) h
      have hstake := stake_nonneg hs hb info hinfo
      rw [hs'] at hlater
      refine totalSlashed_update _ hinfo ?_ hnow hlater
      simp only [ResolverInfo.slashed]
      omega
  | setMinStake newMinimum => exact hsame (setMinStake_eq_ok h).resolvers
  | setAdmin newAdmin => exact hsame (setAdmin_eq_ok h).resolvers
  | setSlashBeneficiary newBeneficiary => exact hsame (setSlashBeneficiary_eq_ok h).resolvers

theorem Step.totalSlashed {record : Record} {a : Address} {now later : ResolverInfo}
    (hs : WellFormed s) (hb : s.stakes.Backed) (h : Step current s record s')
    (hnow : s.resolvers a = some now) (hlater : s'.resolvers a = some later) :
    now.totalSlashed ≤ later.totalSlashed := by
  cases h with
  | success _ hexec => exact exec_totalSlashed hs hb hexec hnow hlater
  | panic _ _ =>
      obtain rfl := Option.some.inj (hnow.symm.trans hlater)
      exact le_rfl
  | donation _ =>
      obtain rfl := Option.some.inj (hnow.symm.trans hlater)
      exact le_rfl

/-- One step after which the resolver `a` is registered. -/
def StaysRegistered (current a : Address) (s : State) (record : Record) (s' : State) : Prop :=
  Step current s record s' ∧ s'.resolvers a ≠ none

theorem execution_totalSlashed {a : Address} {now : ResolverInfo} (hs : WellFormed s)
    (hb : s.stakes.Backed) (h : Execution (StaysRegistered current a) s records s')
    (hnow : s.resolvers a = some now) :
    ∃ later, s'.resolvers a = some later ∧ now.totalSlashed ≤ later.totalSlashed := by
  have hrun := h.invariant (P := fun t => (WellFormed t ∧ t.stakes.Backed) ∧
    ∃ later, t.resolvers a = some later ∧ now.totalSlashed ≤ later.totalSlashed)
    ⟨⟨hs, hb⟩, now, hnow, le_rfl⟩ ?_
  · exact hrun.2
  · rintro u record v ⟨⟨hu, hbacked⟩, info, hinfo, hle⟩ ⟨hstep, hregistered⟩
    obtain ⟨later, hlater⟩ := Option.ne_none_iff_exists'.mp hregistered
    obtain ⟨hv, movement, hmove⟩ := hstep.moves hu hbacked
    exact ⟨⟨hv, hmove.backed hbacked⟩, later, hlater,
      hle.trans (hstep.totalSlashed hu hbacked hinfo hlater)⟩

/-! ## Funds -/

theorem pool_covers {info : ResolverInfo} {asset : Address} (hs : WellFormed s)
    (hb : s.stakes.Backed) (hinfo : s.resolvers resolver = some info)
    (hasset : s.inst.stakeAsset = some asset) : info.stake ≤ s.balance asset := by
  have hle : s.stake resolver ≤ s.pool := hb.stake_le_pool (hs.mem_of hinfo)
  simpa [State.stake_of hinfo, State.pool, hasset] using hle

theorem requireAuth_funds {address : Address} :
    requireAuth env address ≠ .error .insufficientBalance :=
  require_ne_error (by simp)

theorem getResolver_funds : getResolver s resolver ≠ .error .insufficientBalance := by
  unfold getResolver
  cases s.resolvers resolver <;> simp

theorem unwrap_funds {α : Type} {o : Option α} :
    unwrap o ≠ .error .insufficientBalance := by
  cases o <;> simp [unwrap]

theorem unregister_funds {pay : Bool} (hs : WellFormed s) (hb : s.stakes.Backed) :
    unregister env resolver pay s ≠ .error .insufficientBalance := by
  unfold unregister
  refine bind_ne_error (require_ne_error (by simp)) fun _ _ => ?_
  refine bind_ne_error requireAuth_funds fun _ _ => ?_
  refine bind_ne_error getResolver_funds fun info hinfo => ?_
  refine bind_ne_error unwrap_funds fun asset hasset => ?_
  refine bind_ne_error (fun h => ?_) fun _ _ => by simp [pure, Except.pure]
  have hcovers := pool_covers hs hb (getResolver_eq_ok.mp hinfo) (unwrap_eq_ok.mp hasset)
  exact absurd (payTransfer_funds h) (by omega)

theorem slash_funds {amount : ℤ} {pay : Bool} (hs : WellFormed s) (hb : s.stakes.Backed) :
    slash env resolver amount pay s ≠ .error .insufficientBalance := by
  unfold slash requireAdmin
  refine bind_ne_error ?_ fun _ _ => ?_
  · cases s.inst.admin with
    | none => simp
    | some admin => exact requireAuth_funds
  refine bind_ne_error (require_ne_error (by simp)) fun _ _ => ?_
  refine bind_ne_error getResolver_funds fun info hinfo => ?_
  refine bind_ne_error unwrap_funds fun asset hasset => ?_
  refine bind_ne_error unwrap_funds fun beneficiary _ => ?_
  refine bind_ne_error (fun h => ?_) fun _ _ => ?_
  · have hcovers := pool_covers hs hb (getResolver_eq_ok.mp hinfo) (unwrap_eq_ok.mp hasset)
    have hlt := payTransfer_funds h
    omega
  refine bind_ne_error ?_ fun _ _ => bind_ne_error ?_ fun _ _ => by simp [pure, Except.pure]
  · unfold sub
    split <;> simp
  · unfold checkedAdd
    split <;> simp

/-- In every reachable state, list and records name the same resolvers, the balance covers
their stakes, what was slashed of a registered resolver never shrinks, and neither
unregistering nor slashing fails for lack of funds. -/
theorem stakes_backed (h : Execution (Step current) .deployed records s) :
    s.list.Nodup ∧
      (∀ a, a ∈ s.list ↔ s.resolvers a ≠ none) ∧
      (∀ a info, s.resolvers a = some info → 0 ≤ info.stake) ∧
      (∀ asset, s.inst.stakeAsset = some asset → (s.list.map s.stake).sum ≤ s.balance asset) ∧
      (∀ a now later more t, s.resolvers a = some now →
        Execution (StaysRegistered current a) s more t → t.resolvers a = some later →
        now.totalSlashed ≤ later.totalSlashed) ∧
      ∀ env a pay, unregister env a pay s ≠ .error .insufficientBalance ∧
        ∀ amount, slash env a amount pay s ≠ .error .insufficientBalance := by
  obtain ⟨hs, movements, hmoves⟩ := execution_moves h
  have hb := Stakes.backed_of_execution hmoves Stakes.Backed.empty
  refine ⟨hs.nodup, hs.listed, fun a info hinfo => stake_nonneg hs hb info hinfo,
    fun asset hasset => ?_, fun a now later more t hnow hmore hlater => ?_,
    fun env a pay => ⟨unregister_funds hs hb, fun amount => slash_funds hs hb⟩⟩
  · have hcovered : (s.list.map s.stake).sum ≤ s.pool := hb.covered
    simpa [State.pool, hasset] using hcovered
  · obtain ⟨last, hlast, hle⟩ := execution_totalSlashed hs hb hmore hnow
    obtain rfl := Option.some.inj (hlast.symm.trans hlater)
    exact hle

/-- A call at time 1 that everyone authorised. -/
def genesis : Env where
  self := 50
  timestamp := 1
  auth := fun _ => true

/-- The registry of the admin 9 takes in three resolvers; the first leaves, and another is
slashed. -/
def slashRecords : List Record :=
  [.invocation genesis (.initialise 9 7 100 12) (.ok none),
    .invocation genesis (.register 2 100 true) (.ok (some (.register 2 100))),
    .invocation genesis (.register 3 110 true) (.ok (some (.register 3 110))),
    .invocation genesis (.register 4 120 true) (.ok (some (.register 4 120))),
    .invocation genesis (.unregister 2 true) (.ok (some (.unreg 2 100))),
    .invocation genesis (.slash 4 30 true) (.ok (some (.slashed 4 30)))]

theorem slashRecords_run : ∃ s, Execution (Step 50) .deployed slashRecords s ∧
    s.list = [3, 4] ∧ s.inst.stakeAsset = some 7 ∧ s.balance 7 = 200 :=
  ⟨_, .cons (.success rfl rfl) (.cons (.success rfl rfl) (.cons (.success rfl rfl)
    (.cons (.success rfl rfl) (.cons (.success rfl rfl) (.cons (.success rfl rfl) .refl))))),
    rfl, rfl, rfl⟩

theorem stakes_backed_slashed : ∃ s, Execution (Step 50) .deployed slashRecords s ∧
    s.list = [3, 4] ∧ s.resolvers 2 = none ∧ s.resolvers 3 ≠ none ∧
    (s.list.map s.stake).sum ≤ 200 ∧
    unregister genesis 4 true s ≠ .error .insufficientBalance ∧
    slash genesis 3 500 true s ≠ .error .insufficientBalance := by
  obtain ⟨s, hrun, hlist, hasset, hbalance⟩ := slashRecords_run
  obtain ⟨-, hlisted, -, hcovered, -, hfunds⟩ := stakes_backed hrun
  have hleft : s.resolvers 2 = none := by
    by_contra hset
    have hmem := (hlisted 2).mpr hset
    simp [hlist] at hmem
  exact ⟨s, hrun, hlist, hleft, (hlisted 3).mp (by simp [hlist]), hbalance ▸ hcovered 7 hasset,
    (hfunds genesis 4 true).1, (hfunds genesis 3 true).2 500⟩

end OverSync.SorobanRegistry
