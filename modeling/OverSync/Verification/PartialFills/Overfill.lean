import OverSync.Verification.PartialFills.Schedule
import Mathlib.Algebra.Order.BigOperators.Group.List
import Mathlib.Algebra.Order.Group.Int
import Mathlib.Tactic.Common

/-! # Fills beyond the order

No fill on record is ever executed, and the check of a fill counts executed ones only. So a fill
is checked against the whole order each time. -/

namespace OverSync.PartialFills

open Function Library

variable {E : Environment} {s s' : State} {call : Call} {orderId : String} {total : ℤ}
  {fills : List Call} {order : PartialFillOrder} {tree : MerkleTreeSecrets}

/-! ## Sums of records -/

theorem sumOf_from {f : FillExecution → String} (executions : List FillExecution)
    (h : ∀ exec ∈ executions, (parseBigInt (f exec)).isSome) (start : ℤ) :
    executions.foldlM (fun sum exec => do return sum + (← bigInt (f exec))) start =
      (.ok (start + (executions.map fun exec => (parseBigInt (f exec)).getD 0).sum) :
        Except Error ℤ) := by
  induction executions generalizing start with
  | nil => simp [pure, Except.pure]
  | cons exec executions ih =>
      obtain ⟨n, hn⟩ := Option.isSome_iff_exists.mp (h exec List.mem_cons_self)
      rw [List.foldlM_cons, bigInt_eq_ok.mpr hn]
      refine (ih (fun e he => h e (List.mem_cons_of_mem _ he)) (start + n)).trans ?_
      rw [List.map_cons, List.sum_cons, hn, Option.getD_some, add_assoc]

theorem sumOf_eq {f : FillExecution → String} {executions : List FillExecution}
    (h : ∀ exec ∈ executions, (parseBigInt (f exec)).isSome) :
    sumOf f executions =
      .ok (executions.map fun exec => (parseBigInt (f exec)).getD 0).sum := by
  rw [sumOf, sumOf_from executions h, zero_add]

/-! ## The check of a fill -/

/-- What a fill is checked for before other fills matter. -/
def Passes (E : Environment) (order : PartialFillOrder) (tree : MerkleTreeSecrets)
    (call : Call) : Prop :=
  order.status = .active ∧ order.auctionStartTime ≤ call.now ∧
    call.now ≤ order.auctionEndTime ∧
    (order.allowPartialFills = true ∨ call.fillAmount = order.makingAmount) ∧
    verifyProof E tree call.fragmentIndex call.secretHash call.merkleProof order.merkleRoot = true

def Valid (E : Environment) (s : State) (call : Call) : Prop :=
  ∃ gas impact next, validateFill E s call = .ok (.valid gas impact next)

theorem priceImpact_ok (fill total : ℤ) : ∃ impact, priceImpact fill total = .ok impact := by
  by_cases hzero : total = 0
  · exact ⟨0, if_pos hzero⟩
  · exact ⟨_, by rw [priceImpact, if_neg hzero, divide, if_neg hzero]⟩

theorem calculatePriceImpact_ok {fillAmount totalAmount : String} {fill total : ℤ}
    (hfill : parseBigInt fillAmount = some fill) (htotal : parseBigInt totalAmount = some total) :
    ∃ impact, calculatePriceImpact fillAmount totalAmount = .ok impact := by
  rw [calculatePriceImpact, bigInt_eq_ok.mpr hfill, ok_bind, bigInt_eq_ok.mpr htotal, ok_bind]
  exact priceImpact_ok fill total

/-- A check that stops with an error does not stop a fill that passes. -/
theorem unless_invalid {p : Prop} [Decidable p] {error gas : String} {impact : ℤ} {next : ℚ}
    {x : Except Error FillValidation} :
    (if p then .ok (.invalid error) else x) = .ok (.valid gas impact next) ↔
      ¬p ∧ x = .ok (.valid gas impact next) := by
  split
  case isTrue h => simp [h]
  case isFalse h => simp [h]

/-- A fill passes iff no executed fill has its fragment and the executed ones leave enough. -/
theorem valid_iff {filled : ℤ} (horder : s.orders call.orderId = some order)
    (htree : s.merkleManagers call.orderId = some tree)
    (hfilled : sumOf (·.fillAmount) (executedFills (s.fillExecutions call.orderId)) = .ok filled)
    (htotal : parseBigInt order.makingAmount = some total) :
    Valid E s call ↔ Passes E order tree call ∧
      (∀ exec ∈ executedFills (s.fillExecutions call.orderId),
        exec.fragmentIndex ≠ call.fragmentIndex) ∧
      ∃ amount, parseBigInt call.fillAmount = some amount ∧ filled + amount ≤ total := by
  unfold Valid validateFill Passes
  rw [horder, htree]
  simp only [unless_invalid, exists_and_left]
  have hamount : (∃ gas impact next, (do
      let totalFilled ← sumOf (·.fillAmount) (executedFills (s.fillExecutions call.orderId))
      let making ← bigInt order.makingAmount
      let fillAmount ← bigInt call.fillAmount
      if making - totalFilled < fillAmount then
        return .invalid "Fill amount exceeds remaining amount"
      let priceImpact ← calculatePriceImpact call.fillAmount order.makingAmount
      return .valid gasEstimate priceImpact (call.fragmentIndex + 1) : Except Error FillValidation) =
        .ok (.valid gas impact next)) ↔
      ∃ amount, parseBigInt call.fillAmount = some amount ∧ filled + amount ≤ total := by
    rw [hfilled, bigInt_eq_ok.mpr htotal]
    simp only [ok_bind]
    cases hparse : parseBigInt call.fillAmount with
    | none => simp [bigInt, hparse]
    | some amount =>
        obtain ⟨impact, himpact⟩ := calculatePriceImpact_ok hparse htotal
        simp only [bigInt_eq_ok.mpr hparse, ok_bind, himpact, pure, Except.pure, unless_invalid]
        simp
        omega
  simp only [hamount, not_lt, ne_eq, not_not, not_and, Bool.not_eq_false, List.any_eq_true,
    decide_eq_true_eq, not_exists, and_assoc]
  have hwhole : (order.allowPartialFills = false → call.fillAmount = order.makingAmount) ↔
      order.allowPartialFills = true ∨ call.fillAmount = order.makingAmount := by
    cases order.allowPartialFills with
    | false => simp
    | true => simp
  rw [hwhole]

/-! ## Fills on record -/

/-- The order under `orderId` with the fills that have been recorded for it. -/
structure Opened (orderId : String) (total : ℤ) (fills : List Call) (s : State) : Prop where
  order : ∃ order, s.orders orderId = some order ∧ parseBigInt order.makingAmount = some total
  tree : ∃ tree, s.merkleManagers orderId = some tree
  executions : s.fillExecutions orderId = fills.map Call.execution
  integers : ∀ call ∈ fills, (parseBigInt call.fillAmount).isSome

/-- No fill on record is executed. -/
theorem Opened.executedFills (h : Opened orderId total fills s) :
    executedFills (s.fillExecutions orderId) = [] := by
  rw [h.executions, PartialFills.executedFills, List.filter_eq_nil_iff]
  intro exec hexec
  obtain ⟨call, -, rfl⟩ := List.mem_map.mp hexec
  simp [Call.execution]

/-- The manager with every fill on record of the order counted as executed. -/
def State.counting (s : State) (orderId : String) : State :=
  { s with
    fillExecutions := update s.fillExecutions orderId
      ((s.fillExecutions orderId).map fun exec => { exec with status := .executed }) }

theorem Opened.counted (h : Opened orderId total fills s) :
    PartialFills.executedFills ((s.counting orderId).fillExecutions orderId) =
      fills.map fun call => { call.execution with status := .executed } := by
  simp only [State.counting, update_self, h.executions, List.map_map,
    PartialFills.executedFills]
  rw [List.filter_eq_self.mpr]
  · rfl
  · intro exec hexec
    obtain ⟨call, -, rfl⟩ := List.mem_map.mp hexec
    rfl

/-- With the fills on record counted, the check also refuses their fragments and what they do
not leave. -/
theorem Opened.valid_counting_iff (h : Opened call.orderId total fills s)
    (hvalid : Valid E s call) :
    Valid E (s.counting call.orderId) call ↔
      call.fragmentIndex ∉ fills.map Call.fragmentIndex ∧
      (fills.map Call.amount).sum + call.amount ≤ total := by
  obtain ⟨order, horder, htotal⟩ := h.order
  obtain ⟨tree, htree⟩ := h.tree
  have hnone : sumOf (·.fillAmount) (PartialFills.executedFills
      (s.fillExecutions call.orderId)) = .ok 0 := by
    rw [h.executedFills]
    rfl
  obtain ⟨hpasses, -, amount, hamount, -⟩ := (valid_iff horder htree hnone htotal).mp hvalid
  have hcounted : sumOf (·.fillAmount) (PartialFills.executedFills
      ((s.counting call.orderId).fillExecutions call.orderId)) =
      .ok (fills.map Call.amount).sum := by
    rw [h.counted, sumOf_eq]
    · rw [List.map_map]
      rfl
    · intro exec hexec
      obtain ⟨fill, hfill, rfl⟩ := List.mem_map.mp hexec
      exact h.integers fill hfill
  rw [valid_iff (s := s.counting call.orderId) horder htree hcounted htotal, and_iff_right hpasses, h.counted, Call.amount,
    hamount]
  refine and_congr ?_ ?_
  · simp [Call.execution]
  · simp

/-! ## What a call leaves behind -/

theorem gasCost_isSome : (parseBigInt gasEstimate).isSome := by decide +kernel

theorem Opened.record (h : Opened call.orderId total fills s)
    (hinteger : (parseBigInt call.fillAmount).isSome) :
    Opened call.orderId total (fills ++ [call]) (s.record call) := by
  refine ⟨h.order, h.tree, ?_, fun fill hfill => ?_⟩
  · simp [State.record, h.executions]
  · rcases List.mem_append.mp hfill with hold | hnew
    · exact h.integers fill hold
    · rw [List.mem_singleton.mp hnew]
      exact hinteger

/-- Other orders are left alone. -/
theorem Opened.other (h : Opened orderId total fills s) (hother : call.orderId ≠ orderId) :
    Opened orderId total fills (run E call s) := by
  have hcomplete : ∀ s : State, (s.complete call.orderId call.now).orders orderId =
      s.orders orderId ∧ (s.complete call.orderId call.now).fillExecutions = s.fillExecutions ∧
      (s.complete call.orderId call.now).merkleManagers = s.merkleManagers := by
    intro s
    unfold State.complete
    split
    · exact ⟨update_of_ne hother.symm _ _, rfl, rfl⟩
    · exact ⟨rfl, rfl, rfl⟩
  have hrecord : (s.record call).fillExecutions orderId = s.fillExecutions orderId :=
    update_of_ne hother.symm _ _
  have hkept : (run E call s).orders orderId = s.orders orderId ∧
      (run E call s).fillExecutions orderId = s.fillExecutions orderId ∧
      (run E call s).merkleManagers orderId = s.merkleManagers orderId := by
    unfold run executePartialFill
    split
    · split
      · exact ⟨rfl, rfl, rfl⟩
      · exact ⟨rfl, rfl, rfl⟩
      · simp only
        split
        · exact ⟨rfl, hrecord, rfl⟩
        · simp only
          split
          · obtain ⟨horders, hfills, hmanagers⟩ := hcomplete (s.record call)
            exact ⟨horders, by rw [hfills, hrecord], by rw [hmanagers]; rfl⟩
          · exact ⟨rfl, hrecord, rfl⟩
    · exact ⟨rfl, rfl, rfl⟩
  obtain ⟨horders, hfills, hmanagers⟩ := hkept
  exact ⟨horders ▸ h.order, hmanagers ▸ h.tree, hfills.trans h.executions, h.integers⟩

/-- Nothing is executed, so the progress is zero. -/
theorem Opened.progress_ok (h : Opened orderId total fills s) (htotal : total ≠ 0) (now : ℚ) :
    ∃ progress, calculateFillProgress now orderId s = .ok progress ∧
      progress.fillPercentage = 0 ∧ progress.fragmentsFilled = 0 ∧
      ∃ tree, s.merkleManagers orderId = some tree ∧
        progress.totalFragments = tree.leaves.length := by
  obtain ⟨order, horder, hmaking⟩ := h.order
  obtain ⟨tree, htree⟩ := h.tree
  have hgas : ∃ total, sumOf (·.gasCost) (s.fillExecutions orderId) = .ok total := by
    rw [h.executions]
    refine ⟨_, sumOf_eq fun exec hexec => ?_⟩
    obtain ⟨fill, -, rfl⟩ := List.mem_map.mp hexec
    exact gasCost_isSome
  obtain ⟨gas, hgas⟩ := hgas
  have hfilled : sumOf (·.fillAmount) [] = .ok 0 := rfl
  have hzero : divide (0 * 100) total = .ok 0 := by simp [divide, htotal]
  have hindex : ∃ index, nextSecretIndex tree ((0 : ℤ) : ℚ) = .ok index := by
    unfold nextSecretIndex
    split
    · exact ⟨none, by simp⟩
    · exact ⟨some 0, by simp⟩
  obtain ⟨index, hindex⟩ := hindex
  have haverage : ∃ average, averageGasPrice (s.fillExecutions orderId) gas = .ok average := by
    unfold averageGasPrice
    split
    · exact ⟨0, rfl⟩
    · rename_i hne
      have hlength : ((s.fillExecutions orderId).length : ℤ) ≠ 0 := by
        simpa using hne
      exact ⟨_, by rw [divide, if_neg hlength]⟩
  obtain ⟨average, haverage⟩ := haverage
  refine ⟨{
      orderId := orderId
      totalAmount := total
      filledAmount := 0
      remainingAmount := total - 0
      fillPercentage := 0
      fragmentsFilled := 0
      totalFragments := (generateOrderFragments tree orderId).length
      currentAuctionPrice := 0
      nextSecretIndex := index
      estimatedCompletion := now + calculateAverageFillTime (s.fillExecutions orderId) *
        (((generateOrderFragments tree orderId).length : ℚ) - ((0 : ℕ) : ℚ))
      averageGasPrice := average
      totalGasCost := gas }, ?_, rfl, rfl, tree, htree, by simp [generateOrderFragments]⟩
  rw [calculateFillProgress, horder, htree]
  simp only [h.executedFills, bigInt_eq_ok.mpr hmaking, ok_bind, hfilled, hzero, hindex, hgas,
    haverage]
  rfl

theorem recommendation_ok {progress : FillProgress} {now : ℚ}
    (horder : s.orders orderId = some order) (hmaking : parseBigInt order.makingAmount = some total)
    (htotal : total ≠ 0)
    (hleft : (progress.totalFragments : ℤ) - progress.fragmentsFilled ≠ 0) :
    ∃ recommendation, generateFillRecommendation now orderId progress s = .ok recommendation := by
  unfold generateFillRecommendation
  rw [horder]
  split
  · rename_i order' tree horder' htree
    obtain rfl := Option.some.inj horder'
    split
    · exact ⟨none, rfl⟩
    · obtain ⟨impact, himpact⟩ := priceImpact_ok
        (progress.remainingAmount.tdiv (progress.totalFragments - progress.fragmentsFilled)) total
      simp only [divide, if_neg hleft, bigInt_eq_ok.mpr hmaking, ok_bind, if_neg htotal, himpact]
      exact ⟨_, rfl⟩
  · exact ⟨none, rfl⟩

/-- A fill that passes has a leaf in the tree. -/
theorem verifyProof_leaf {leafIndex : ℚ} {secretHash merkleRoot : String} {proof : List String}
    (h : verifyProof E tree leafIndex secretHash proof merkleRoot = true) : tree.leaves ≠ [] := by
  intro hnil
  unfold verifyProof element at h
  rw [hnil] at h
  split at h
  · rename_i leaf hleaf
    split at hleaf
    · simp at hleaf
    · cases hleaf
  · cases h

/-- What follows the record of a fill does not throw and completes nothing. -/
theorem afterFill_ok (h : Opened call.orderId total fills s) (htotal : total ≠ 0)
    (hvalid : Valid E s call) :
    ∃ result, afterFill call (s.record call) = .ok result ∧
      result.progress.fillPercentage = 0 := by
  obtain ⟨order, horder, hmaking⟩ := h.order
  obtain ⟨tree, htree⟩ := h.tree
  have hnone : sumOf (·.fillAmount) (PartialFills.executedFills
      (s.fillExecutions call.orderId)) = .ok 0 := by
    rw [h.executedFills]
    rfl
  obtain ⟨hpasses, -, amount, hamount, -⟩ := (valid_iff horder htree hnone hmaking).mp hvalid
  have hrecord := h.record (by rw [hamount]; rfl)
  obtain ⟨progress, hprogress, hpercentage, hfragments, tree', htree', hlength⟩ :=
    hrecord.progress_ok htotal call.now
  obtain rfl := Option.some.inj (htree.symm.trans htree')
  have hleft : (progress.totalFragments : ℤ) - progress.fragmentsFilled ≠ 0 := by
    have hleaf := List.length_pos_of_ne_nil (verifyProof_leaf hpasses.2.2.2.2)
    omega
  obtain ⟨recommendation, hrecommendation⟩ :=
    recommendation_ok (s := s.record call) horder hmaking htotal hleft
  refine ⟨⟨call.execution, progress, recommendation⟩, ?_, hpercentage⟩
  rw [afterFill, hprogress, ok_bind, hrecommendation]
  rfl

/-- A call is accepted iff its fill passes, and then leaves its record. -/
theorem Opened.executePartialFill (h : Opened call.orderId total fills s) (htotal : total ≠ 0) :
    Valid E s call ∧ accepts E s call = true ∧ run E call s = s.record call ∨
      ¬Valid E s call ∧ accepts E s call = false ∧ run E call s = s := by
  obtain ⟨order, horder, hmaking⟩ := h.order
  obtain ⟨tree, htree⟩ := h.tree
  by_cases hvalid : Valid E s call
  · refine .inl ⟨hvalid, ?_⟩
    obtain ⟨result, hresult, hpercentage⟩ := afterFill_ok h htotal hvalid
    obtain ⟨gas, impact, next, hcheck⟩ := hvalid
    have hexecute : PartialFills.executePartialFill E call s = (s.record call, .ok result) := by
      rw [PartialFills.executePartialFill, horder, htree]
      simp only [hcheck, hresult, hpercentage]
      rfl
    rw [accepts, run, hexecute]
    exact ⟨rfl, rfl⟩
  · refine .inr ⟨hvalid, ?_⟩
    have hexecute : ∃ e, PartialFills.executePartialFill E call s = (s, .error e) := by
      rw [PartialFills.executePartialFill, horder, htree]
      simp only
      cases hcheck : validateFill E s call with
      | error e => exact ⟨e, rfl⟩
      | ok validation =>
          cases validation with
          | invalid error => exact ⟨_, rfl⟩
          | valid gas impact next => exact absurd ⟨gas, impact, next, hcheck⟩ hvalid
    obtain ⟨e, hexecute⟩ := hexecute
    rw [accepts, run, hexecute]
    exact ⟨rfl, rfl⟩

/-! ## Runs -/

/-- A fill of the order that passes is positive and would also pass if the fills on record
counted. -/
def CountsRecords (E : Environment) (orderId : String) (s : State) (call : Call) : Prop :=
  call.orderId = orderId → Valid E s call →
    0 < call.amount ∧ Valid E (s.counting orderId) call

theorem WithinOrder.front {rest : List Call} (h : WithinOrder total (fills ++ rest)) :
    WithinOrder total fills := by
  refine ⟨fun call hcall => h.positive call (List.mem_append_left _ hcall), ?_, ?_⟩
  · have hrest : 0 ≤ (rest.map Call.amount).sum := by
      refine List.sum_nonneg fun amount hamount => ?_
      obtain ⟨call, hcall, rfl⟩ := List.mem_map.mp hamount
      exact (h.positive call (List.mem_append_right _ hcall)).le
    have hsum := h.bounded
    rw [List.map_append, List.sum_append] at hsum
    omega
  · have hdistinct := h.distinct
    rw [List.map_append] at hdistinct
    exact (List.nodup_append.mp hdistinct).1

theorem withinOrder_snoc (h : WithinOrder total fills) :
    WithinOrder total (fills ++ [call]) ↔ 0 < call.amount ∧
      call.fragmentIndex ∉ fills.map Call.fragmentIndex ∧
      (fills.map Call.amount).sum + call.amount ≤ total := by
  constructor
  · intro hall
    refine ⟨hall.positive call (by simp), ?_, ?_⟩
    · have hdistinct := hall.distinct
      rw [List.map_append, List.map_singleton, List.nodup_append] at hdistinct
      exact fun hmem => hdistinct.2.2 _ hmem _ (List.mem_singleton_self _) rfl
    · simpa using hall.bounded
  · rintro ⟨hpositive, hnew, hbounded⟩
    refine ⟨fun fill hfill => ?_, by simpa using hbounded, ?_⟩
    · rcases List.mem_append.mp hfill with hold | hlast
      · exact h.positive fill hold
      · rw [List.mem_singleton.mp hlast]
        exact hpositive
    · rw [List.map_append, List.map_singleton, List.nodup_append]
      refine ⟨h.distinct, by simp, fun i hi j hj heq => ?_⟩
      rw [List.mem_singleton.mp hj] at heq
      exact hnew (heq ▸ hi)

/-- From any state of an order: the fills stay within it exactly if the calls count what is on
record. -/
theorem Opened.withinOrder_iff (h : Opened orderId total fills s) (htotal : 0 < total)
    (hfills : WithinOrder total fills) (calls : List Call) :
    WithinOrder total
        (fills ++ (acceptedCalls E calls s).filter fun call => call.orderId = orderId) ↔
      AllOk (run E) (CountsRecords E orderId) calls s := by
  induction calls generalizing s fills with
  | nil => simpa [acceptedCalls, AllOk] using hfills
  | cons call calls ih =>
      rw [acceptedCalls, AllOk]
      by_cases horder : call.orderId = orderId
      · subst horder
        rcases h.executePartialFill (E := E) htotal.ne' with
          ⟨hvalid, haccepts, hrun⟩ | ⟨hinvalid, haccepts, hrun⟩
        · have hcounts : CountsRecords E call.orderId s call ↔
              WithinOrder total (fills ++ [call]) := by
            rw [withinOrder_snoc hfills, ← h.valid_counting_iff hvalid]
            exact ⟨fun hcall => hcall rfl hvalid, fun hcall _ _ => hcall⟩
          obtain ⟨order, hord, hmaking⟩ := h.order
          obtain ⟨tree, htree⟩ := h.tree
          have hnone : sumOf (·.fillAmount) (PartialFills.executedFills
              (s.fillExecutions call.orderId)) = .ok 0 := by
            rw [h.executedFills]
            rfl
          obtain ⟨-, -, amount, hamount, -⟩ := (valid_iff hord htree hnone hmaking).mp hvalid
          have hnext := h.record (by rw [hamount]; rfl)
          rw [hrun]
          simp only [haccepts, if_true, List.filter_cons_of_pos, decide_true]
          rw [hcounts, List.append_cons]
          constructor
          · intro hall
            exact ⟨hall.front, (ih hnext hall.front).mp hall⟩
          · rintro ⟨hcall, hrest⟩
            exact (ih hnext hcall).mpr hrest
        · have hcounts : CountsRecords E call.orderId s call := by
            intro _ hyes
            exact absurd hyes hinvalid
          rw [hrun, and_iff_right hcounts]
          simp only [haccepts, Bool.false_eq_true, if_false]
          exact ih h hfills
      · have hcounts : CountsRecords E orderId s call := fun heq => absurd heq horder
        rw [and_iff_right hcounts, ← ih (h.other horder) hfills]
        split
        · rw [List.filter_cons_of_neg (by simpa using horder)]
        · rfl

theorem initialize_opened {now : ℚ} {orderData : OrderData} {config : PartialFillConfig}
    {initialized : Initialized} (hmaking : parseBigInt orderData.makingAmount = some total)
    (h : initializePartialFillOrder E now orderData config s = .ok (s', initialized)) :
    Opened orderData.orderId total [] s' := by
  unfold initializePartialFillOrder at h
  obtain ⟨tree, -, h⟩ := bind_eq_ok.mp h
  cases h
  refine ⟨⟨_, update_self _ _ _, hmaking⟩, ⟨tree, update_self _ _ _⟩, ?_, by simp⟩
  exact update_self _ _ _

/-- The fills that are accepted for an order are positive, of different fragments and not more
than its making amount, exactly if each of them would also pass with the fills on record
counted as executed. -/
theorem accepted_fills_iff (E : Environment) (now : ℚ) (orderData : OrderData)
    (config : PartialFillConfig) (s s' : State) (initialized : Initialized) (total : ℤ)
    (h : initializePartialFillOrder E now orderData config s = .ok (s', initialized))
    (hmaking : parseBigInt orderData.makingAmount = some total) (htotal : 0 < total)
    (calls : List Call) :
    WithinOrder total ((acceptedCalls E calls s').filter
        fun call => call.orderId = orderData.orderId) ↔
      AllOk (run E) (CountsRecords E orderData.orderId) calls s' := by
  have hopened := initialize_opened hmaking h
  have hnone : WithinOrder total [] := ⟨by simp, by simpa using htotal.le, by simp⟩
  exact hopened.withinOrder_iff htotal hnone calls

/-! ## An order over a hundred -/

def hundred : OrderData where
  orderId := "order"
  maker := "maker"
  makerAsset := "ETH"
  takerAsset := "XLM"
  makingAmount := "100"
  takingAmount := "7"
  srcChainId := 1
  dstChainId := 2
  allowPartialFills := true
  allowMultipleFills := true
  auctionStartTime := 0
  auctionEndTime := 1000
  timeLocks := ⟨0, 0, 0, 0⟩

def State.empty : State where
  orders := fun _ => none
  fillExecutions := fun _ => []
  merkleManagers := fun _ => none

theorem hundred_opened {E : Environment} {config : PartialFillConfig}
    (h : (initializePartialFillOrder E 0 hundred config .empty).isOk = true) :
    ∃ initialized, initializePartialFillOrder E 0 hundred config .empty =
      .ok (((initializePartialFillOrder E 0 hundred config .empty).toOption.map
        Prod.fst).getD .empty, initialized) := by
  cases hinit : initializePartialFillOrder E 0 hundred config .empty with
  | error e => simp [hinit, Except.isOk, Except.toBool] at h
  | ok result => exact ⟨result.2, rfl⟩

/-! In two fragments, with a digest that does not see the order of the bytes, so that the proof
of either fragment verifies. -/

def twoSecrets : Environment where
  keccak256 := fun bytes =>
    let total : UInt8 := bytes.foldr (· + ·) 0
    if total = 42 then "0x01"
    else if total = 43 then "0x02"
    else if total = 3 then "0x03"
    else "0x04"
  cryptoSecret := fun _ i => if i = 0 then "0x2a" else "0x2b"

def inTwoPieces : PartialFillConfig where
  secretsCount := 2
  allowPartialFills := true
  allowMultipleFills := true
  minFillAmount := "1"
  maxFillAmount := "100"
  fragmentSize := 50

def halvesOpened : State :=
  ((initializePartialFillOrder twoSecrets 0 hundred inTwoPieces .empty).toOption.map
    Prod.fst).getD .empty

/-- A fill of either fragment, and one that comes too late. -/
def halves : List Call :=
  [⟨"order", 0, "40", "resolver", "0x01", ["0x02"], 5⟩,
    ⟨"order", 1, "60", "resolver", "0x02", ["0x01"], 6⟩,
    ⟨"order", 1, "60", "resolver", "0x02", ["0x01"], 1001⟩]

theorem halves_filled :
    acceptedCalls twoSecrets halves halvesOpened = halves.take 2 ∧
      AllOk (run twoSecrets) (CountsRecords twoSecrets "order") halves halvesOpened := by
  have hok : (initializePartialFillOrder twoSecrets 0 hundred inTwoPieces .empty).isOk = true := by
    decide +kernel
  obtain ⟨initialized, hinit⟩ := hundred_opened hok
  have haccepted : acceptedCalls twoSecrets halves halvesOpened = halves.take 2 := by
    decide +kernel
  refine ⟨haccepted, (accepted_fills_iff twoSecrets 0 hundred inTwoPieces .empty halvesOpened
    initialized 100 hinit (by decide +kernel) (by decide) halves).mp ?_⟩
  rw [haccepted]
  exact ⟨by decide +kernel, by decide +kernel, by decide +kernel⟩

/-! In one fragment, which is filled with all of the order. -/

def oneSecret : Environment where
  keccak256 := fun bytes => if bytes = [42] then "0x01" else "0x02"
  cryptoSecret := fun _ _ => "0x2a"

def inOnePiece : PartialFillConfig where
  secretsCount := 1
  allowPartialFills := true
  allowMultipleFills := true
  minFillAmount := "1"
  maxFillAmount := "100"
  fragmentSize := 100

def hundredOpened : State :=
  ((initializePartialFillOrder oneSecret 0 hundred inOnePiece .empty).toOption.map
    Prod.fst).getD .empty

def fillHundred (now : ℚ) : Call :=
  ⟨"order", 0, "100", "resolver", "0x01", [], now⟩

/-- The order is filled twice. -/
theorem hundred_filled_twice :
    (∃ initialized, initializePartialFillOrder oneSecret 0 hundred inOnePiece .empty =
      .ok (hundredOpened, initialized)) ∧
    parseBigInt hundred.makingAmount = some 100 ∧
    acceptedCalls oneSecret [fillHundred 5, fillHundred 6] hundredOpened =
      [fillHundred 5, fillHundred 6] ∧
    ¬WithinOrder 100 (acceptedCalls oneSecret [fillHundred 5, fillHundred 6] hundredOpened) := by
  have haccepted : acceptedCalls oneSecret [fillHundred 5, fillHundred 6] hundredOpened =
      [fillHundred 5, fillHundred 6] := by
    decide +kernel
  refine ⟨hundred_opened (by decide +kernel), by decide +kernel, haccepted, fun hwithin => ?_⟩
  rw [haccepted] at hwithin
  exact absurd hwithin.distinct (by decide +kernel)

end OverSync.PartialFills
