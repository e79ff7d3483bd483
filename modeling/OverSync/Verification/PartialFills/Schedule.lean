import OverSync.Model.PartialFills
import Mathlib.Algebra.BigOperators.Group.List.Basic
import Mathlib.Algebra.Order.Group.Int
import Mathlib.Data.Rat.Lemmas
import Mathlib.Tactic.Common
import Mathlib.Tactic.Positivity

/-! # The schedule of secrets

The leaves of a tree of secrets: their fill amounts and running sums. -/

namespace OverSync.PartialFills

open Library

theorem bigInt_eq_ok {a : String} {n : ℤ} : bigInt a = .ok n ↔ parseBigInt a = some n := by
  unfold bigInt
  cases parseBigInt a with
  | none => simp
  | some m => simp

/-! ## Leaves -/

/-- The fill amount of a secret. -/
def shareOf (total : ℤ) (percentage : ℤ) : ℤ :=
  (total * percentage).tdiv 100

/-- The leaves that `makeLeaves` makes when nothing throws. -/
def scheduled (total : ℤ) : ℕ → ℤ → List Secret → List MerkleLeaf
  | _, _, [] => []
  | i, cumulative, secret :: secrets =>
    let fillAmount := shareOf total secret.fillPercentage.num
    ⟨i, secret.hash, fillAmount, cumulative + fillAmount, []⟩ ::
      scheduled total (i + 1) (cumulative + fillAmount) secrets

/-- Making the leaves throws exactly if a percentage is no integer. -/
theorem makeLeaves_eq_ok {total : ℤ} {i : ℕ} {cumulative : ℤ} {secrets : List Secret}
    {leaves : List MerkleLeaf} :
    makeLeaves total i cumulative secrets = .ok leaves ↔
      (∀ secret ∈ secrets, secret.fillPercentage.den = 1) ∧
        leaves = scheduled total i cumulative secrets := by
  induction secrets generalizing i cumulative leaves with
  | nil =>
      rw [makeLeaves, scheduled, Except.ok.injEq]
      simp [eq_comm]
  | cons secret secrets ih =>
      rw [makeLeaves, List.forall_mem_cons, bigIntOfNumber]
      by_cases hwhole : secret.fillPercentage.den = 1
      · have hdivide : divide (total * secret.fillPercentage.num) 100 =
            .ok (shareOf total secret.fillPercentage.num) :=
          if_neg (by decide)
        rw [if_pos hwhole, ok_bind, hdivide, ok_bind, bind_eq_ok, scheduled]
        constructor
        · rintro ⟨rest, hrest, hleaves⟩
          obtain ⟨hpercentages, rfl⟩ := ih.mp hrest
          exact ⟨⟨hwhole, hpercentages⟩, (Except.ok.inj hleaves).symm⟩
        · rintro ⟨⟨-, hpercentages⟩, rfl⟩
          exact ⟨_, ih.mpr ⟨hpercentages, rfl⟩, rfl⟩
      · rw [if_neg hwhole, error_bind]
        exact iff_of_false (by simp) fun h => hwhole h.1.1

@[simp] theorem length_scheduled (total : ℤ) (i : ℕ) (cumulative : ℤ) (secrets : List Secret) :
    (scheduled total i cumulative secrets).length = secrets.length := by
  induction secrets generalizing i cumulative with
  | nil => rfl
  | cons secret secrets ih => rw [scheduled, List.length_cons, List.length_cons, ih]

theorem map_secretHash_scheduled (total : ℤ) (i : ℕ) (cumulative : ℤ) (secrets : List Secret) :
    (scheduled total i cumulative secrets).map MerkleLeaf.secretHash =
      secrets.map Secret.hash := by
  induction secrets generalizing i cumulative with
  | nil => rfl
  | cons secret secrets ih => rw [scheduled, List.map_cons, List.map_cons, ih]

theorem map_fillAmount_scheduled (total : ℤ) (i : ℕ) (cumulative : ℤ) (secrets : List Secret) :
    (scheduled total i cumulative secrets).map MerkleLeaf.fillAmount =
      secrets.map fun secret => shareOf total secret.fillPercentage.num := by
  induction secrets generalizing i cumulative with
  | nil => rfl
  | cons secret secrets ih => rw [scheduled, List.map_cons, List.map_cons, ih]

/-- The cumulative amounts are running sums of the fill amounts. -/
theorem cumulative_scheduled (total : ℤ) (i : ℕ) (cumulative : ℤ) (secrets : List Secret)
    {j : ℕ} (hj : j < secrets.length) :
    ((scheduled total i cumulative secrets).map MerkleLeaf.cumulativeAmount)[j]? =
      some (cumulative +
        (((scheduled total i cumulative secrets).map MerkleLeaf.fillAmount).take (j + 1)).sum) := by
  induction secrets generalizing i cumulative j with
  | nil => cases hj
  | cons secret secrets ih =>
      rw [scheduled]
      cases j with
      | zero => simp
      | succ j =>
          rw [List.map_cons, List.getElem?_cons_succ, ih _ _ (Nat.lt_of_succ_lt_succ hj),
            List.map_cons, List.take_succ_cons, List.sum_cons, add_assoc]

theorem nondecreasing_scheduled (total : ℤ) (i : ℕ) (cumulative : ℤ) (secrets : List Secret)
    (hshares : ∀ secret ∈ secrets, 0 ≤ shareOf total secret.fillPercentage.num) :
    (cumulative :: (scheduled total i cumulative secrets).map
      MerkleLeaf.cumulativeAmount).IsChain (· ≤ ·) := by
  induction secrets generalizing i cumulative with
  | nil => exact .singleton cumulative
  | cons secret secrets ih =>
      rw [List.forall_mem_cons] at hshares
      rw [scheduled, List.map_cons, List.isChain_cons_cons]
      exact ⟨Int.le_add_of_nonneg_right hshares.1, ih _ _ hshares.2⟩

/-! ## Trees -/

/-- The tree of a schedule. -/
def scheduledTree (E : Environment) (config : PartialFillConfig) (secrets : List Secret)
    (total : ℤ) : MerkleTreeSecrets :=
  let leaves := scheduled total 0 0 secrets
  let root := buildTree E leaves
  { config := config
    leaves := leaves.map fun leaf => { leaf with proof := match root with
      | some root => generateProof root leaf.index 0 (leaves.length - 1)
      | none => [] }
    root := root }

/-- A tree is created of secrets with integer percentages, and of no others. -/
theorem createMerkleTree_eq_ok {E : Environment} {config : PartialFillConfig}
    {secrets : List Secret} {totalAmount : String} {total : ℤ} {tree : MerkleTreeSecrets}
    (htotal : parseBigInt totalAmount = some total) :
    createMerkleTree E config secrets totalAmount = .ok tree ↔
      (∀ secret ∈ secrets, secret.fillPercentage.den = 1) ∧
        tree = scheduledTree E config secrets total := by
  rw [createMerkleTree, bigInt_eq_ok.mpr htotal, ok_bind, bind_eq_ok]
  constructor
  · rintro ⟨leaves, hleaves, htree⟩
    obtain ⟨hwhole, rfl⟩ := makeLeaves_eq_ok.mp hleaves
    exact ⟨hwhole, (Except.ok.inj htree).symm⟩
  · rintro ⟨hwhole, rfl⟩
    exact ⟨_, makeLeaves_eq_ok.mpr ⟨hwhole, rfl⟩, rfl⟩

/-! ## Covering the order -/

/-- The fills of the leaves add up to the whole order, step by step. -/
structure CoversOrder (total : ℤ) (leaves : List MerkleLeaf) : Prop where
  sums : ∀ j < leaves.length, (leaves.map MerkleLeaf.cumulativeAmount)[j]? =
    some ((leaves.map MerkleLeaf.fillAmount).take (j + 1)).sum
  nondecreasing : (leaves.map MerkleLeaf.cumulativeAmount).Pairwise (· ≤ ·)
  complete : (leaves.map MerkleLeaf.cumulativeAmount).getLast? = some total

/-- Of a schedule with nonnegative shares only the sum of the shares matters. -/
theorem coversOrder_scheduled_iff {total : ℤ} {secrets : List Secret} (hne : secrets ≠ [])
    (hshares : ∀ secret ∈ secrets, 0 ≤ shareOf total secret.fillPercentage.num) :
    CoversOrder total (scheduled total 0 0 secrets) ↔
      (secrets.map fun secret => shareOf total secret.fillPercentage.num).sum = total := by
  have hpos : 0 < secrets.length := List.length_pos_of_ne_nil hne
  have hsums : ∀ j < secrets.length,
      ((scheduled total 0 0 secrets).map MerkleLeaf.cumulativeAmount)[j]? =
        some (((scheduled total 0 0 secrets).map MerkleLeaf.fillAmount).take (j + 1)).sum := by
    intro j hj
    rw [cumulative_scheduled total 0 0 secrets hj, zero_add]
  have hlast : ((scheduled total 0 0 secrets).map MerkleLeaf.cumulativeAmount).getLast? =
      some (secrets.map fun secret => shareOf total secret.fillPercentage.num).sum := by
    rw [List.getLast?_eq_getElem?, List.length_map, length_scheduled,
      hsums _ (Nat.sub_one_lt_of_lt hpos), map_fillAmount_scheduled, Nat.sub_add_cancel hpos,
      List.take_of_length_le (by rw [List.length_map])]
  constructor
  · intro h
    exact Option.some.inj (hlast.symm.trans h.complete)
  · intro hsum
    refine ⟨fun j hj => hsums j (by rwa [length_scheduled] at hj), ?_, by rw [hlast, hsum]⟩
    exact (List.isChain_iff_pairwise.mp
      (nondecreasing_scheduled total 0 0 secrets hshares)).of_cons

theorem coversOrder_scheduledTree_iff (E : Environment) (config : PartialFillConfig)
    (secrets : List Secret) (total : ℤ) :
    CoversOrder total (scheduledTree E config secrets total).leaves ↔
      CoversOrder total (scheduled total 0 0 secrets) := by
  have hlength : (scheduledTree E config secrets total).leaves.length =
      (scheduled total 0 0 secrets).length := List.length_map _
  have hfill : (scheduledTree E config secrets total).leaves.map MerkleLeaf.fillAmount =
      (scheduled total 0 0 secrets).map MerkleLeaf.fillAmount := List.map_map
  have hcumulative :
      (scheduledTree E config secrets total).leaves.map MerkleLeaf.cumulativeAmount =
        (scheduled total 0 0 secrets).map MerkleLeaf.cumulativeAmount := List.map_map
  constructor
  · rintro ⟨hsums, hmono, hcomplete⟩
    rw [hlength, hfill, hcumulative] at hsums
    rw [hcumulative] at hmono hcomplete
    exact ⟨hsums, hmono, hcomplete⟩
  · rintro ⟨hsums, hmono, hcomplete⟩
    rw [← hlength, ← hfill, ← hcumulative] at hsums
    rw [← hcumulative] at hmono hcomplete
    exact ⟨hsums, hmono, hcomplete⟩

/-! ## Equal parts -/

/-- With `n` equal parts of an integer percentage each part is `total / n` rounded down. -/
theorem shareOf_equal_part {total : ℤ} (hnonneg : 0 ≤ total) {n k : ℕ} (hpercent : 100 = n * k) :
    shareOf total k = total / n := by
  have hk : 0 < (k : ℤ) := by
    rcases Nat.eq_zero_or_pos k with rfl | hk
    · cases hpercent
    · exact Int.natCast_pos.mpr hk
  have hcast : (100 : ℤ) = n * k := by exact_mod_cast hpercent
  calc
    shareOf total k = (total * k).tdiv 100 := rfl
    _ = total * k / (n * k) := by
      rw [Int.tdiv_eq_ediv_of_nonneg (Int.mul_nonneg hnonneg hk.le), hcast]
    _ = total / n := Int.mul_ediv_mul_of_pos_left total n hk

theorem generateSecrets_percentage (E : Environment) (now : ℚ) (orderId : String)
    (config : PartialFillConfig) :
    ∀ secret ∈ generateSecrets E now orderId config,
      secret.fillPercentage = 100 / config.secretsCount := by
  intro secret hsecret
  obtain ⟨i, -, rfl⟩ := List.mem_map.mp hsecret
  rfl

theorem length_generateSecrets (E : Environment) (now : ℚ) (orderId : String)
    {config : PartialFillConfig} {n : ℕ} (hcount : config.secretsCount = n) :
    (generateSecrets E now orderId config).length = n := by
  rw [generateSecrets, List.length_map, List.length_range, hcount, Int.ceil_natCast,
    Int.toNat_natCast]

/-- For `n` secrets and any total the tree is created and its leaves cover the order, exactly if
`n` divides 100 and the total. -/
theorem schedule_covers_iff (E : Environment) (now : ℚ) (orderId : String)
    (config : PartialFillConfig) (n : ℕ) (hn : 1 ≤ n) (hcount : config.secretsCount = n)
    (totalAmount : String) (total : ℤ) (htotal : parseBigInt totalAmount = some total)
    (hnonneg : 0 ≤ total) :
    (∃ tree, createMerkleTree E config (generateSecrets E now orderId config) totalAmount =
      .ok tree ∧ CoversOrder total tree.leaves) ↔ n ∣ 100 ∧ (n : ℤ) ∣ total := by
  have hpercentage := generateSecrets_percentage E now orderId config
  have hlength := length_generateSecrets E now orderId hcount
  generalize generateSecrets E now orderId config = secrets at hpercentage hlength
  have hne : secrets ≠ [] := List.ne_nil_of_length_pos (by omega)
  have hwhole : (∀ secret ∈ secrets, secret.fillPercentage.den = 1) ↔ n ∣ 100 := by
    rw [← Rat.den_div_natCast_eq_one_iff 100 n (by omega)]
    constructor
    · intro h
      obtain ⟨secret, hsecret⟩ := List.exists_mem_of_ne_nil secrets hne
      have hden := h secret hsecret
      rwa [hpercentage secret hsecret, hcount] at hden
    · intro hden secret hsecret
      rwa [hpercentage secret hsecret, hcount]
  have hcovers : n ∣ 100 → (CoversOrder total (scheduled total 0 0 secrets) ↔ (n : ℤ) ∣ total) := by
    rintro ⟨k, hk⟩
    have hshare : ∀ secret ∈ secrets, shareOf total secret.fillPercentage.num = total / n := by
      intro secret hsecret
      have hquotient : (100 : ℚ) / n = k := by
        rw [div_eq_iff (by positivity), mul_comm]
        exact_mod_cast hk
      rw [hpercentage secret hsecret, hcount, hquotient, Rat.num_natCast]
      exact shareOf_equal_part hnonneg hk
    have hsum : (secrets.map fun secret => shareOf total secret.fillPercentage.num).sum =
        n * (total / n) := by
      rw [List.map_congr_left hshare, List.map_const', hlength, List.sum_replicate, nsmul_eq_mul]
    rw [coversOrder_scheduled_iff hne fun secret hsecret => ?_, hsum]
    · exact ⟨fun h => ⟨_, h.symm⟩, fun h => Int.mul_ediv_cancel' h⟩
    · rw [hshare secret hsecret]
      exact Int.ediv_nonneg hnonneg (Int.natCast_nonneg n)
  constructor
  · rintro ⟨tree, htree, hleaves⟩
    obtain ⟨hpercent, rfl⟩ := (createMerkleTree_eq_ok htotal).mp htree
    have hdvd := hwhole.mp hpercent
    exact ⟨hdvd, (hcovers hdvd).mp ((coversOrder_scheduledTree_iff E config secrets total).mp
      hleaves)⟩
  · rintro ⟨hdvd, htotal'⟩
    refine ⟨_, (createMerkleTree_eq_ok htotal).mpr ⟨hwhole.mpr hdvd, rfl⟩, ?_⟩
    exact (coversOrder_scheduledTree_iff E config secrets total).mpr ((hcovers hdvd).mpr htotal')

/-! Orders in three and in four parts. -/

def fixedSecret : Environment where
  keccak256 := fun _ => "0x01"
  cryptoSecret := fun _ _ => "0x2a"

def inParts (n : ℕ) : PartialFillConfig where
  secretsCount := n
  allowPartialFills := true
  allowMultipleFills := true
  minFillAmount := "1"
  maxFillAmount := "100"
  fragmentSize := 25

/-- The cumulative amounts of the tree, or nothing if creating it throws. -/
def cumulativeAmounts (n : ℕ) (totalAmount : String) : Option (List ℤ) :=
  (createMerkleTree fixedSecret (inParts n)
    (generateSecrets fixedSecret 0 "order" (inParts n)) totalAmount).toOption.map
      fun tree => tree.leaves.map MerkleLeaf.cumulativeAmount

theorem schedule_covers_four :
    (∃ tree, createMerkleTree fixedSecret (inParts 4)
        (generateSecrets fixedSecret 0 "order" (inParts 4)) "100" = .ok tree ∧
      CoversOrder 100 tree.leaves) ↔ 4 ∣ 100 ∧ ((4 : ℕ) : ℤ) ∣ 100 :=
  schedule_covers_iff fixedSecret 0 "order" (inParts 4) 4 (by decide) rfl "100" 100
    (by decide +kernel) (by decide)

/-- Three parts throw; four parts of 3 are four times nothing. -/
theorem schedule_falls_short :
    cumulativeAmounts 3 "9" = none ∧ cumulativeAmounts 4 "3" = some [0, 0, 0, 0] ∧
    ¬∃ tree, createMerkleTree fixedSecret (inParts 3)
        (generateSecrets fixedSecret 0 "order" (inParts 3)) "9" = .ok tree ∧
      CoversOrder 9 tree.leaves := by
  have hthrows : cumulativeAmounts 3 "9" = none := by decide +kernel
  refine ⟨hthrows, by decide +kernel, ?_⟩
  rintro ⟨tree, htree, -⟩
  rw [cumulativeAmounts, htree] at hthrows
  cases hthrows

end OverSync.PartialFills
