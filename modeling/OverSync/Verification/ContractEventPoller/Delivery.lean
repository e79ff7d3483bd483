import OverSync.Model.ContractEventPoller
import Mathlib.Data.List.Pairwise
import Mathlib.Tactic.Common

/-! # What the poller hands over

Every walk over the bindings starts right after the cursor. A complete one has handed over all
that its window holds, so the complete walks tile the blocks up to the cursor; a failed one has
handed over a first part, which the next walk hands over again. -/

namespace OverSync.ContractEventPoller

open Library

variable {contract : Contract} {bindings : List ContractEventBinding} {maxWindow start : ℤ}
  {s : State}

/-! ## What a window holds -/

/-- The calls of the handlers that a window asks for, in the order of the walk. -/
def Contract.due (contract : Contract) (fromBlock toBlock : ℤ)
    (bindings : List (ContractEventBinding × ℕ)) : List Delivery :=
  bindings.flatMap fun p =>
    (contract.queryFilter p.1.eventName fromBlock toBlock).filterMap (Log.delivery p.2)

/-- The order of the calls within a walk. -/
def Delivery.Before (d d' : Delivery) : Prop :=
  d.binding < d'.binding ∨ d.binding = d'.binding ∧ d.event.Before d'.event

theorem Log.not_before_self (log : Log) : ¬log.Before log := by
  unfold Log.Before
  omega

theorem Delivery.not_before_self (d : Delivery) : ¬d.Before d := by
  rintro (hlt | ⟨-, hbefore⟩)
  · exact Nat.lt_irrefl _ hlt
  · exact d.event.not_before_self hbefore

theorem Log.delivery_eq_some {log : Log} {i : ℕ} {d : Delivery} :
    log.delivery i = some d ↔ d.binding = i ∧ log.args = some d.args ∧ d.event = log := by
  obtain ⟨binding, args, event⟩ := d
  simp only [Log.delivery, Option.map_eq_some_iff, Delivery.mk.injEq]
  constructor
  · rintro ⟨args', hargs, rfl, rfl, rfl⟩
    exact ⟨rfl, hargs, rfl⟩
  · rintro ⟨rfl, hargs, rfl⟩
    exact ⟨args, hargs, rfl, rfl, rfl⟩

theorem mem_queryFilter {eventName : String} {fromBlock toBlock : ℤ} {log : Log} :
    log ∈ contract.queryFilter eventName fromBlock toBlock ↔ log ∈ contract.logs ∧
      log.eventName = eventName ∧ fromBlock ≤ log.blockNumber ∧ log.blockNumber ≤ toBlock := by
  rw [Contract.queryFilter, List.mem_filter, decide_eq_true_iff]

/-- A delivery is due to a binding for each log of its event in the window that decodes. -/
theorem mem_due {fromBlock toBlock : ℤ} {d : Delivery} :
    d ∈ contract.due fromBlock toBlock bindings.zipIdx ↔
      ∃ binding, bindings[d.binding]? = some binding ∧ d.event ∈ contract.logs ∧
        d.event.eventName = binding.eventName ∧ d.event.args = some d.args ∧
        fromBlock ≤ d.event.blockNumber ∧ d.event.blockNumber ≤ toBlock := by
  simp only [Contract.due, List.mem_flatMap, List.mem_filterMap, mem_queryFilter,
    Log.delivery_eq_some]
  constructor
  · rintro ⟨⟨binding, i⟩, hbinding, log, ⟨hlog, hname, hwindow⟩, rfl, hargs, rfl⟩
    exact ⟨binding, List.mem_zipIdx_iff_getElem?.mp hbinding, hlog, hname, hargs, hwindow⟩
  · rintro ⟨binding, hbinding, hlog, hname, hargs, hwindow⟩
    exact ⟨(binding, d.binding), List.mem_zipIdx_iff_getElem?.mpr hbinding, d.event,
      ⟨hlog, hname, hwindow⟩, rfl, hargs, rfl⟩

theorem due_ordered (fromBlock toBlock : ℤ) :
    (contract.due fromBlock toBlock bindings.zipIdx).Pairwise Delivery.Before := by
  have hindices : bindings.zipIdx.Pairwise fun p p' => p.2 < p'.2 := by
    have hrange : (bindings.zipIdx.map Prod.snd).Pairwise (· < ·) := by
      rw [List.zipIdx_map_snd]
      exact List.pairwise_lt_range'
    exact List.pairwise_map.mp hrange
  refine List.pairwise_flatMap.mpr ⟨?_, ?_⟩
  · rintro ⟨binding, i⟩ -
    rw [List.pairwise_filterMap]
    refine (contract.ordered.filter _).imp ?_
    intro log log' hbefore d hd d' hd'
    obtain ⟨hbinding, -, rfl⟩ := Log.delivery_eq_some.mp hd
    obtain ⟨hbinding', -, rfl⟩ := Log.delivery_eq_some.mp hd'
    exact Or.inr ⟨hbinding.trans hbinding'.symm, hbefore⟩
  · refine hindices.imp ?_
    intro p p' hlt d hd d' hd'
    obtain ⟨log, -, hdelivery⟩ := List.mem_filterMap.mp hd
    obtain ⟨log', -, hdelivery'⟩ := List.mem_filterMap.mp hd'
    obtain ⟨hbinding, -, -⟩ := Log.delivery_eq_some.mp hdelivery
    obtain ⟨hbinding', -, -⟩ := Log.delivery_eq_some.mp hdelivery'
    left
    rw [hbinding, hbinding']
    exact hlt

theorem due_nodup (fromBlock toBlock : ℤ) :
    (contract.due fromBlock toBlock bindings.zipIdx).Nodup := by
  refine (due_ordered fromBlock toBlock).imp ?_
  rintro d d' hbefore rfl
  exact d.not_before_self hbefore

theorem due_cons (fromBlock toBlock : ℤ) (binding : ContractEventBinding) (i : ℕ)
    (rest : List (ContractEventBinding × ℕ)) :
    contract.due fromBlock toBlock ((binding, i) :: rest) =
      (contract.queryFilter binding.eventName fromBlock toBlock).filterMap (Log.delivery i) ++
        contract.due fromBlock toBlock rest :=
  rfl

/-- Nothing is due to a binding whose event the interface does not have. -/
theorem due_cons_of_no_filter {binding : ContractEventBinding} {i : ℕ}
    {rest : List (ContractEventBinding × ℕ)} (hfilter : contract.filters binding.eventName = false)
    (fromBlock toBlock : ℤ) :
    contract.due fromBlock toBlock ((binding, i) :: rest) =
      contract.due fromBlock toBlock rest := by
  have hnone : (contract.queryFilter binding.eventName fromBlock toBlock).filterMap
      (Log.delivery i) = [] := by
    refine List.filterMap_eq_nil_iff.mpr fun log hlog => ?_
    obtain ⟨hmem, hname, -⟩ := mem_queryFilter.mp hlog
    cases hargs : log.args with
    | none => rw [Log.delivery, hargs, Option.map_none]
    | some args =>
        have hdecodes := contract.decodes log hmem (by rw [hargs]; rfl)
        rw [hname, hfilter] at hdecodes
        cases hdecodes
  rw [due_cons, hnone, List.nil_append]

/-! ## Walks -/

def Pass.Over (pass : Pass) (block : ℤ) : Prop :=
  pass.fromBlock ≤ block ∧ block ≤ pass.toBlock

/-- A walk that is over has handed over a first part of what was due, and all of it if it is
complete. -/
structure Pass.Settled (contract : Contract) (bindings : List ContractEventBinding)
    (pass : Pass) : Prop where
  ended : pass.outcome ≠ .underWay
  handed : pass.handed <+: contract.due pass.fromBlock pass.toBlock bindings.zipIdx
  complete : pass.outcome = .complete →
    pass.handed = contract.due pass.fromBlock pass.toBlock bindings.zipIdx

/-- `Tiles start passes cursor`: each walk, the newest first, starts after the cursor of its
time, and the complete ones have moved it from `start` to `cursor`. -/
inductive Tiles (start : ℤ) : List Pass → ℤ → Prop where
  | nil : Tiles start [] start
  | complete {passes : List Pass} {cursor : ℤ} {pass : Pass} : Tiles start passes cursor →
      pass.fromBlock = cursor + 1 → cursor < pass.toBlock → pass.outcome = .complete →
      Tiles start (pass :: passes) pass.toBlock
  | incomplete {passes : List Pass} {cursor : ℤ} {pass : Pass} : Tiles start passes cursor →
      pass.fromBlock = cursor + 1 → pass.outcome ≠ .complete →
      Tiles start (pass :: passes) cursor

/-- The last blocks of the windows, the newest first. -/
def State.ends (s : State) : List ℤ :=
  s.passes.map Pass.toBlock

theorem ends_record (edit : Pass → Pass) (hedit : ∀ pass, (edit pass).toBlock = pass.toBlock)
    (s : State) : (s.record edit).ends = s.ends := by
  unfold State.ends State.record
  cases s.passes with
  | nil => rfl
  | cons pass passes => simp [hedit]

@[simp] theorem ends_close (outcome : Outcome) (s : State) :
    (s.record (Pass.close outcome)).ends = s.ends :=
  ends_record (Pass.close outcome) (fun _ => rfl) s

@[simp] theorem ends_hand (delivery : Delivery) (s : State) :
    (s.record (Pass.hand delivery)).ends = s.ends :=
  ends_record (Pass.hand delivery) (fun _ => rfl) s

/-- The windows end at the head and within reach of the cursor, none before an older one. -/
structure Bounds (maxWindow head cursor : ℤ) (ends : List ℤ) : Prop where
  head : ∀ toBlock ∈ ends, toBlock ≤ head
  reach : ∀ toBlock ∈ ends, toBlock ≤ cursor + maxWindow
  growing : ends.Pairwise fun toBlock older => older ≤ toBlock

theorem Bounds.mono {head head' cursor cursor' : ℤ} {ends : List ℤ}
    (h : Bounds maxWindow head cursor ends) (hhead : head ≤ head') (hcursor : cursor ≤ cursor') :
    Bounds maxWindow head' cursor' ends := by
  refine ⟨fun toBlock hto => (h.head toBlock hto).trans hhead, fun toBlock hto => ?_, h.growing⟩
  have := h.reach toBlock hto
  omega

/-- No walk is under way. -/
structure Resting (contract : Contract) (bindings : List ContractEventBinding)
    (maxWindow start : ℤ) (s : State) : Prop where
  settled : ∀ pass ∈ s.passes, pass.Settled contract bindings
  tiles : Tiles start s.passes s.lastProcessed
  bounds : Bounds maxWindow s.head s.lastProcessed s.ends

/-- The newest walk is under way and has the calls `left` before it. -/
structure Walking (contract : Contract) (bindings : List ContractEventBinding)
    (maxWindow start fromBlock toBlock : ℤ) (left : List Delivery) (s : State) : Prop where
  passes : ∃ handed older, s.passes = ⟨fromBlock, toBlock, handed, .underWay⟩ :: older ∧
    handed ++ left = contract.due fromBlock toBlock bindings.zipIdx ∧
    (∀ pass ∈ older, pass.Settled contract bindings) ∧ Tiles start older s.lastProcessed
  fromBlock_eq : fromBlock = s.lastProcessed + 1
  lt_toBlock : s.lastProcessed < toBlock
  bounds : Bounds maxWindow s.head s.lastProcessed s.ends

/-- What the phase of a state says about its walks. -/
def Sound (contract : Contract) (bindings : List ContractEventBinding) (maxWindow start : ℤ)
    (s : State) : Prop :=
  match s.phase with
  | .idle | .head => Resting contract bindings maxWindow start s
  | .query fromBlock toBlock binding i rest =>
      Walking contract bindings maxWindow start fromBlock toBlock
        (contract.due fromBlock toBlock ((binding, i) :: rest)) s
  | .handler fromBlock toBlock i events rest =>
      Walking contract bindings maxWindow start fromBlock toBlock
        (events.filterMap (Log.delivery i) ++ contract.due fromBlock toBlock rest) s

/-! ## The loops of a tick -/

theorem nextBinding_sound {fromBlock toBlock : ℤ} {rest : List (ContractEventBinding × ℕ)}
    (hs : Walking contract bindings maxWindow start fromBlock toBlock
      (contract.due fromBlock toBlock rest) s) :
    Sound contract bindings maxWindow start (s.nextBinding contract fromBlock toBlock rest) := by
  induction rest with
  | nil =>
      obtain ⟨⟨handed, older, hpasses, hdue, hsettled, htiles⟩, hfrom, hto, hbounds⟩ := hs
      have hall : handed = contract.due fromBlock toBlock bindings.zipIdx := by
        rw [← hdue]
        exact (List.append_nil handed).symm
      rw [State.nextBinding]
      refine ⟨?_, ?_, ?_⟩
      · simp only [State.record, hpasses, List.modifyHead_cons, List.forall_mem_cons]
        exact ⟨⟨Outcome.noConfusion, hall ▸ List.prefix_refl _, fun _ => hall⟩, hsettled⟩
      · simp only [State.record, hpasses, List.modifyHead_cons]
        exact .complete htiles hfrom hto rfl
      · change Bounds maxWindow s.head toBlock (s.record (Pass.close .complete)).ends
        rw [ends_close]
        exact hbounds.mono le_rfl hto.le
  | cons p rest ih =>
      obtain ⟨binding, i⟩ := p
      rw [State.nextBinding]
      cases hfilter : contract.filters binding.eventName with
      | true =>
          rw [if_pos rfl]
          exact ⟨hs.passes, hs.fromBlock_eq, hs.lt_toBlock, hs.bounds⟩
      | false =>
          rw [if_neg Bool.false_ne_true]
          rw [due_cons_of_no_filter hfilter] at hs
          exact ih hs

theorem nextEvent_sound {fromBlock toBlock : ℤ} {i : ℕ} {events : List Log}
    {rest : List (ContractEventBinding × ℕ)}
    (hs : Walking contract bindings maxWindow start fromBlock toBlock
      (events.filterMap (Log.delivery i) ++ contract.due fromBlock toBlock rest) s) :
    Sound contract bindings maxWindow start
      (s.nextEvent contract fromBlock toBlock i rest events) := by
  induction events with
  | nil => exact nextBinding_sound hs
  | cons ev events ih =>
      rw [State.nextEvent]
      cases hdelivery : ev.delivery i with
      | none =>
          rw [List.filterMap_cons_none hdelivery] at hs
          exact ih hs
      | some delivery =>
          rw [List.filterMap_cons_some hdelivery] at hs
          obtain ⟨⟨handed, older, hpasses, hdue, hsettled, htiles⟩, hfrom, hto, hbounds⟩ := hs
          refine ⟨⟨handed ++ [delivery], older, ?_, ?_, hsettled, htiles⟩, hfrom, hto, ?_⟩
          · simp only [State.record, hpasses, List.modifyHead_cons, Pass.hand]
          · rw [← hdue, List.append_assoc, List.singleton_append, List.cons_append]
          · change Bounds maxWindow s.head s.lastProcessed (s.record (Pass.hand delivery)).ends
            rw [ends_hand]
            exact hbounds

/-! ## One event -/

theorem onHead_sound (hwindow : 1 ≤ maxWindow)
    (hs : Resting contract bindings maxWindow start s) :
    Sound contract bindings maxWindow start (s.onHead contract bindings maxWindow) := by
  obtain ⟨hsettled, htiles, hhead, hreach, hgrowing⟩ := hs
  unfold State.onHead
  by_cases hle : s.head ≤ s.lastProcessed
  · rw [if_pos hle]
    exact ⟨hsettled, htiles, hhead, hreach, hgrowing⟩
  · rw [if_neg hle]
    refine nextBinding_sound ⟨⟨[], s.passes, rfl, rfl, hsettled, htiles⟩, rfl, ?_, ?_, ?_, ?_⟩
    · simp only
      omega
    · exact List.forall_mem_cons.mpr ⟨min_le_left _ _, hhead⟩
    · refine List.forall_mem_cons.mpr ⟨?_, hreach⟩
      simp only
      omega
    · refine List.pairwise_cons.mpr ⟨fun toBlock hto => ?_, hgrowing⟩
      have hhead' := hhead toBlock hto
      have hreach' := hreach toBlock hto
      simp only
      omega

theorem onThrow_query_sound {fromBlock toBlock : ℤ} {left : List Delivery}
    (hs : Walking contract bindings maxWindow start fromBlock toBlock left s) :
    Resting contract bindings maxWindow start
      { s.record (Pass.close .failed) with phase := .idle } := by
  obtain ⟨⟨handed, older, hpasses, hdue, hsettled, htiles⟩, hfrom, hto, hbounds⟩ := hs
  refine ⟨?_, ?_, ?_⟩
  · simp only [State.record, hpasses, List.modifyHead_cons, List.forall_mem_cons]
    exact ⟨⟨Outcome.noConfusion, hdue ▸ List.prefix_append handed left, Outcome.noConfusion⟩,
      hsettled⟩
  · simp only [State.record, hpasses, List.modifyHead_cons]
    exact .incomplete htiles hfrom Outcome.noConfusion
  · change Bounds maxWindow s.head s.lastProcessed (s.record (Pass.close .failed)).ends
    rw [ends_close]
    exact hbounds

theorem run_sound (hwindow : 1 ≤ maxWindow) (event : Event)
    (hs : Sound contract bindings maxWindow start s) :
    Sound contract bindings maxWindow start (run contract bindings maxWindow event s) := by
  cases event with
  | mined blocks =>
      have hgrows : s.head ≤ s.head + blocks := by omega
      rw [run, Sound]
      rw [Sound] at hs
      cases hphase : s.phase with
      | idle | head =>
          rw [hphase] at hs
          exact ⟨hs.settled, hs.tiles, hs.bounds.mono hgrows le_rfl⟩
      | query | handler =>
          rw [hphase] at hs
          exact ⟨hs.passes, hs.fromBlock_eq, hs.lt_toBlock, hs.bounds.mono hgrows le_rfl⟩
  | tick =>
      rw [run]
      cases hphase : s.phase with
      | idle =>
          rw [Sound, hphase] at hs
          rw [State.isPolling, hphase, if_neg Bool.false_ne_true]
          exact ⟨hs.settled, hs.tiles, hs.bounds⟩
      | head | query | handler =>
          rw [State.isPolling, hphase, if_pos rfl]
          exact hs
  | returned =>
      rw [run, State.onReturn]
      cases hphase : s.phase with
      | idle => exact hs
      | head =>
          rw [Sound, hphase] at hs
          exact onHead_sound hwindow hs
      | query fromBlock toBlock binding i rest =>
          rw [Sound, hphase] at hs
          exact nextEvent_sound hs
      | handler fromBlock toBlock i events rest =>
          rw [Sound, hphase] at hs
          exact nextEvent_sound hs
  | threw =>
      rw [run, State.onThrow]
      cases hphase : s.phase with
      | idle => exact hs
      | head =>
          rw [Sound, hphase] at hs
          exact ⟨hs.settled, hs.tiles, hs.bounds⟩
      | query fromBlock toBlock binding i rest =>
          rw [Sound, hphase] at hs
          exact onThrow_query_sound hs
      | handler fromBlock toBlock i events rest =>
          rw [Sound, hphase] at hs
          exact nextEvent_sound hs

/-! ## The cursor -/

theorem nextBinding_cursor {fromBlock toBlock : ℤ} (hto : s.lastProcessed ≤ toBlock)
    (rest : List (ContractEventBinding × ℕ)) :
    s.lastProcessed ≤ (s.nextBinding contract fromBlock toBlock rest).lastProcessed := by
  induction rest with
  | nil => exact hto
  | cons p rest ih =>
      rw [State.nextBinding]
      split
      · exact le_rfl
      · exact ih

theorem nextEvent_cursor {fromBlock toBlock : ℤ} (hto : s.lastProcessed ≤ toBlock) (i : ℕ)
    (rest : List (ContractEventBinding × ℕ)) (events : List Log) :
    s.lastProcessed ≤ (s.nextEvent contract fromBlock toBlock i rest events).lastProcessed := by
  induction events with
  | nil => exact nextBinding_cursor hto rest
  | cons ev events ih =>
      rw [State.nextEvent]
      split
      · exact ih
      · exact le_rfl

/-- No event moves the cursor back. -/
theorem run_cursor (hwindow : 1 ≤ maxWindow) (event : Event)
    (hs : Sound contract bindings maxWindow start s) :
    s.cursor ≤ (run contract bindings maxWindow event s).cursor := by
  unfold State.cursor
  cases event with
  | mined blocks => exact le_rfl
  | tick =>
      rw [run]
      split <;> exact le_rfl
  | returned =>
      rw [run, State.onReturn]
      cases hphase : s.phase with
      | idle => exact le_rfl
      | head =>
          simp only [State.onHead]
          split
          · exact le_rfl
          · exact nextBinding_cursor (s := { s with passes := _ :: s.passes })
              (by simp only; omega) _
      | query fromBlock toBlock binding i rest =>
          rw [Sound, hphase] at hs
          exact nextEvent_cursor hs.lt_toBlock.le i rest _
      | handler fromBlock toBlock i events rest =>
          rw [Sound, hphase] at hs
          exact nextEvent_cursor hs.lt_toBlock.le i rest events
  | threw =>
      rw [run, State.onThrow]
      cases hphase : s.phase with
      | idle | head | query => exact le_rfl
      | handler fromBlock toBlock i events rest =>
          rw [Sound, hphase] at hs
          exact nextEvent_cursor hs.lt_toBlock.le i rest events

theorem runAll_sound (hwindow : 1 ≤ maxWindow) (events : List Event)
    (hs : Sound contract bindings maxWindow start s) :
    Sound contract bindings maxWindow start
        (runAll (run contract bindings maxWindow) events s) ∧
      s.cursor ≤ (runAll (run contract bindings maxWindow) events s).cursor := by
  induction events generalizing s with
  | nil => exact ⟨hs, le_rfl⟩
  | cons event events ih =>
      obtain ⟨hsound, hcursor⟩ := ih (run_sound hwindow event hs)
      exact ⟨hsound, (run_cursor hwindow event hs).trans hcursor⟩

/-! ## What has been handed over -/

/-- The call by which a log of a binding, decoded as its event, is handed over. -/
def Delivery.Wanted (contract : Contract) (bindings : List ContractEventBinding)
    (d : Delivery) : Prop :=
  ∃ binding, bindings[d.binding]? = some binding ∧ d.event ∈ contract.logs ∧
    d.event.eventName = binding.eventName ∧ d.event.args = some d.args

theorem mem_due_iff_wanted {fromBlock toBlock : ℤ} {d : Delivery} :
    d ∈ contract.due fromBlock toBlock bindings.zipIdx ↔ d.Wanted contract bindings ∧
      fromBlock ≤ d.event.blockNumber ∧ d.event.blockNumber ≤ toBlock := by
  rw [mem_due]
  constructor
  · rintro ⟨binding, hbinding, hlog, hname, hargs, hwindow⟩
    exact ⟨⟨binding, hbinding, hlog, hname, hargs⟩, hwindow⟩
  · rintro ⟨⟨binding, hbinding, hlog, hname, hargs⟩, hwindow⟩
    exact ⟨binding, hbinding, hlog, hname, hargs, hwindow⟩

theorem count_due {fromBlock toBlock : ℤ} {d : Delivery} (hd : d.Wanted contract bindings)
    (hover : fromBlock ≤ d.event.blockNumber ∧ d.event.blockNumber ≤ toBlock) :
    (contract.due fromBlock toBlock bindings.zipIdx).count d = 1 :=
  List.count_eq_one_of_mem (due_nodup fromBlock toBlock) (mem_due_iff_wanted.mpr ⟨hd, hover⟩)

theorem Tiles.start_le {passes : List Pass} {cursor : ℤ} (h : Tiles start passes cursor) :
    start ≤ cursor := by
  induction h with
  | nil => exact le_rfl
  | complete _ _ hlt _ ih => exact ih.trans hlt.le
  | incomplete _ _ _ ih => exact ih

/-- Every block up to the cursor lies in the window of a complete walk. -/
theorem Tiles.exists_over {passes : List Pass} {cursor block : ℤ}
    (h : Tiles start passes cursor) (hafter : start < block) (hle : block ≤ cursor) :
    ∃ pass ∈ passes, pass.outcome = .complete ∧ pass.Over block := by
  induction h with
  | nil => omega
  | @complete passes cursor pass _ hfrom _ hcomplete ih =>
      by_cases hold : block ≤ cursor
      · obtain ⟨older, hmem, holder⟩ := ih hold
        exact ⟨older, List.mem_cons_of_mem _ hmem, holder⟩
      · exact ⟨pass, List.mem_cons_self, hcomplete, by omega, hle⟩
  | incomplete _ _ _ ih =>
      obtain ⟨older, hmem, holder⟩ := ih hle
      exact ⟨older, List.mem_cons_of_mem _ hmem, holder⟩

/-- If only complete walks come over its block, a call is made once up to the cursor and not at
all beyond it. -/
theorem Tiles.count {passes : List Pass} {cursor : ℤ} (h : Tiles start passes cursor)
    (hhanded : ∀ pass ∈ passes,
      pass.handed <+: contract.due pass.fromBlock pass.toBlock bindings.zipIdx)
    (hall : ∀ pass ∈ passes, pass.outcome = .complete →
      pass.handed = contract.due pass.fromBlock pass.toBlock bindings.zipIdx)
    {d : Delivery} (hd : d.Wanted contract bindings)
    (honly : ∀ pass ∈ passes, pass.Over d.event.blockNumber → pass.outcome = .complete) :
    (passes.flatMap Pass.handed).count d =
      if start < d.event.blockNumber ∧ d.event.blockNumber ≤ cursor then 1 else 0 := by
  have hnone : ∀ pass ∈ passes, ¬pass.Over d.event.blockNumber → pass.handed.count d = 0 := by
    intro pass hpass hover
    refine List.count_eq_zero.mpr fun hmem => hover ?_
    exact (mem_due_iff_wanted.mp ((hhanded pass hpass).subset hmem)).2
  induction h with
  | nil =>
      rw [if_neg (by omega)]
      rfl
  | @complete passes cursor pass htiles hfrom hto hcomplete ih =>
      rw [List.forall_mem_cons] at hhanded hall honly hnone
      rw [List.flatMap_cons, List.count_append, ih hhanded.2 hall.2 honly.2 hnone.2]
      have hstart := htiles.start_le
      by_cases hover : pass.Over d.event.blockNumber
      · have hone : pass.handed.count d = 1 := by
          rw [hall.1 hcomplete]
          exact count_due hd hover
        obtain ⟨hlow, hhigh⟩ := hover
        rw [hone, if_neg (by omega), if_pos (by omega)]
      · rw [hnone.1 hover, Nat.zero_add]
        unfold Pass.Over at hover
        congr 1
        exact propext (by omega)
  | @incomplete passes cursor pass _ _ hopen ih =>
      rw [List.forall_mem_cons] at hhanded hall honly hnone
      have hover : ¬pass.Over d.event.blockNumber := fun hover => hopen (honly.1 hover)
      rw [List.flatMap_cons, List.count_append, hnone.1 hover, Nat.zero_add,
        ih hhanded.2 hall.2 honly.2 hnone.2]

/-- What is known of the walks whether or not one is under way. -/
structure Walks (contract : Contract) (bindings : List ContractEventBinding) (start : ℤ)
    (s : State) : Prop where
  tiles : Tiles start s.passes s.cursor
  handed : ∀ pass ∈ s.passes,
    pass.handed <+: contract.due pass.fromBlock pass.toBlock bindings.zipIdx
  all : ∀ pass ∈ s.passes, pass.outcome = .complete →
    pass.handed = contract.due pass.fromBlock pass.toBlock bindings.zipIdx
  underWay : ∀ pass ∈ s.passes, pass.outcome = .underWay → pass.fromBlock = s.cursor + 1
  growing : s.ends.Pairwise fun toBlock older => older ≤ toBlock

theorem Resting.walks (h : Resting contract bindings maxWindow start s) :
    Walks contract bindings start s where
  tiles := h.tiles
  handed := fun pass hpass => (h.settled pass hpass).handed
  all := fun pass hpass => (h.settled pass hpass).complete
  underWay := fun pass hpass hunder => absurd hunder (h.settled pass hpass).ended
  growing := h.bounds.growing

theorem Walking.walks {fromBlock toBlock : ℤ} {left : List Delivery}
    (h : Walking contract bindings maxWindow start fromBlock toBlock left s) :
    Walks contract bindings start s := by
  obtain ⟨⟨handed, older, hpasses, hdue, hsettled, htiles⟩, hfrom, -, hbounds⟩ := h
  refine ⟨?_, ?_, ?_, ?_, hbounds.growing⟩
  · rw [hpasses]
    exact .incomplete htiles hfrom Outcome.noConfusion
  · rw [hpasses]
    exact List.forall_mem_cons.mpr ⟨hdue ▸ List.prefix_append handed left,
      fun pass hpass => (hsettled pass hpass).handed⟩
  · rw [hpasses]
    exact List.forall_mem_cons.mpr ⟨Outcome.noConfusion,
      fun pass hpass => (hsettled pass hpass).complete⟩
  · rw [hpasses]
    exact List.forall_mem_cons.mpr ⟨fun _ => hfrom,
      fun pass hpass hunder => absurd hunder (hsettled pass hpass).ended⟩

theorem Sound.walks (h : Sound contract bindings maxWindow start s) :
    Walks contract bindings start s := by
  unfold Sound at h
  split at h
  · exact h.walks
  · exact h.walks
  · exact h.walks
  · exact h.walks

/-- What is asked of the poller in every state. -/
structure MissesNothing (contract : Contract) (bindings : List ContractEventBinding) (start : ℤ)
    (s : State) : Prop where
  atLeastOnce : ∀ d : Delivery, d.Wanted contract bindings → start < d.event.blockNumber →
    d.event.blockNumber ≤ s.cursor → d ∈ s.handed
  exactlyOnce : ∀ d : Delivery, d.Wanted contract bindings → start < d.event.blockNumber →
    d.event.blockNumber ≤ s.cursor →
    (∀ pass ∈ s.passes, pass.Over d.event.blockNumber → pass.outcome ≠ .failed) →
    s.handed.count d = 1
  onceInPass : ∀ pass ∈ s.passes, pass.outcome = .complete → ∀ d : Delivery,
    d.Wanted contract bindings → pass.Over d.event.blockNumber → pass.handed.count d = 1
  inOrder : ∀ pass ∈ s.passes, pass.handed.Pairwise Delivery.Before
  nothingElse : ∀ pass ∈ s.passes, ∀ d ∈ pass.handed,
    d.Wanted contract bindings ∧ pass.Over d.event.blockNumber
  noneBeyond : ∀ last ∈ s.passes.head?, ∀ d ∈ s.handed, d.event.blockNumber ≤ last.toBlock
  noneSkipped : Tiles start s.passes s.cursor

theorem Walks.missesNothing (h : Walks contract bindings start s) :
    MissesNothing contract bindings start s := by
  have helse : ∀ pass ∈ s.passes, ∀ d ∈ pass.handed,
      d.Wanted contract bindings ∧ pass.Over d.event.blockNumber :=
    fun pass hpass d hd => mem_due_iff_wanted.mp ((h.handed pass hpass).subset hd)
  refine ⟨?_, ?_, ?_, ?_, helse, ?_, h.tiles⟩
  · intro d hd hafter hle
    obtain ⟨pass, hpass, hcomplete, hover⟩ := h.tiles.exists_over hafter hle
    refine List.mem_flatMap.mpr ⟨pass, hpass, ?_⟩
    rw [h.all pass hpass hcomplete]
    exact mem_due_iff_wanted.mpr ⟨hd, hover⟩
  · intro d hd hafter hle hclean
    have honly : ∀ pass ∈ s.passes, pass.Over d.event.blockNumber →
        pass.outcome = .complete := by
      intro pass hpass hover
      cases houtcome : pass.outcome with
      | complete => rfl
      | failed => exact absurd houtcome (hclean pass hpass hover)
      | underWay =>
          -- the walk under way starts after the cursor
          have hfrom := h.underWay pass hpass houtcome
          obtain ⟨hlow, -⟩ := hover
          omega
    rw [State.handed, h.tiles.count h.handed h.all hd honly, if_pos ⟨hafter, hle⟩]
  · intro pass hpass hcomplete d hd hover
    rw [h.all pass hpass hcomplete]
    exact count_due hd hover
  · intro pass hpass
    exact (due_ordered _ _).sublist (h.handed pass hpass).sublist
  · intro last hlast d hd
    obtain ⟨pass, hpass, hmem⟩ := List.mem_flatMap.mp hd
    have hle : d.event.blockNumber ≤ pass.toBlock := (helse pass hpass d hmem).2.2
    have hgrowing := h.growing
    cases hpasses : s.passes with
    | nil =>
        rw [hpasses] at hpass
        cases hpass
    | cons newest older =>
        rw [hpasses] at hlast hpass
        cases hlast
        rw [State.ends, hpasses, List.map_cons, List.pairwise_cons] at hgrowing
        rcases List.mem_cons.mp hpass with rfl | hold
        · exact hle
        · exact hle.trans (hgrowing.1 pass.toBlock (List.mem_map_of_mem hold))

/-- From its start on the poller misses nothing, whatever fails and whenever ticks fire, and its
cursor never goes back. -/
theorem poller_misses_nothing (contract : Contract) (bindings : List ContractEventBinding)
    (options : ContractEventPollerOptions) (hwindow : 1 ≤ options.maxWindow) (head : ℤ)
    (answer : Option ℤ) (events : List Event) :
    ∀ s ∈ startContractEventPoller options head answer,
      MissesNothing contract bindings s.cursor
        (runAll (run contract bindings options.maxWindow) events s) ∧
      ∀ front, front <+: events →
        (runAll (run contract bindings options.maxWindow) front s).cursor ≤
          (runAll (run contract bindings options.maxWindow) events s).cursor := by
  intro s hs
  obtain ⟨startBlock, -, rfl⟩ := Option.map_eq_some_iff.mp hs
  have hstart : Sound contract bindings options.maxWindow startBlock
      ⟨head, startBlock, .idle, []⟩ :=
    ⟨by simp, .nil, ⟨by simp [State.ends], by simp [State.ends], .nil⟩⟩
  refine ⟨(runAll_sound hwindow events hstart).1.walks.missesNothing, ?_⟩
  rintro front ⟨back, rfl⟩
  rw [runAll_append]
  exact (runAll_sound hwindow back (runAll_sound hwindow front hstart).1).2

/-! Two bindings, an event each: the first handler throws, the query of the second binding
fails, and the next walk goes over the same window. -/

def twoOrders : Contract where
  filters := fun _ => true
  logs := [⟨1, 0, "OrderCreated", some ["7"]⟩, ⟨2, 0, "OrderFilled", some ["7"]⟩]
  ordered := by simp [Log.Before]
  decodes := fun _ _ _ => rfl

def retriedWindow : List Event :=
  [.tick, .returned, .returned, .tick, .threw, .threw] ++
    [.tick, .returned, .returned, .returned, .returned, .returned]

theorem poller_misses_nothing_twoOrders :
    let s := runAll (run twoOrders [⟨"OrderCreated"⟩, ⟨"OrderFilled"⟩] 500) retriedWindow
      ⟨2, 0, .idle, []⟩
    MissesNothing twoOrders [⟨"OrderCreated"⟩, ⟨"OrderFilled"⟩] 0 s ∧
      s.cursor = 2 ∧ s.handed.map Delivery.binding = [0, 1, 0] :=
  ⟨(poller_misses_nothing twoOrders [⟨"OrderCreated"⟩, ⟨"OrderFilled"⟩] ⟨none, some 0⟩ (by decide)
    2 none retriedWindow _ rfl).1, by decide, by decide⟩

end OverSync.ContractEventPoller
