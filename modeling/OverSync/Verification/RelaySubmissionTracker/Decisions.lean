import OverSync.Verification.RelaySubmissionTracker.Idle
import Mathlib.Data.List.Find

/-! # Decisions across a restart

What `submit` decides while no submission runs depends on the records only, and a restart keeps
of most records what the decision reads. -/

namespace OverSync.RelaySubmissionTracker

open Library Machine

variable {R : Type} {cfg : RelayTrackerConfig R} {t : Tracker R} {now now' : ℕ}
  {action : RelayAction} {stored : List (PersistedSubmission R)}

/-! ## Decisions -/

/-- What a `submit` call decides to do. -/
inductive Decision where
  | returnStored (txHash : Option String)
  | refuse (error : SubmitError)
  | stage
  | reconcile (txHash : Option String)
  | join
  deriving DecidableEq, Repr

/-- The decision an effect of `submit` shows. Without a confirmer `reconcile` throws at once. -/
def Effect.decision : Effect R → Option Decision
  | .reply (.ok outcome) => some (.returnStored outcome.txHash)
  | .reply (.error error) => some (.refuse error)
  | .stage .. => some .stage
  | .confirm _ ref => some (.reconcile ref.txHash)
  | .settle _ (.error (.confirmationTimeout _ txHash _ _)) => some (.reconcile txHash)
  | .settle _ (.error error) => some (.refuse error)
  | .settle _ (.ok outcome) => some (.returnStored outcome.txHash)
  | .join _ => some .join
  | .save _ | .broadcast .. | .sleep _ => none

variable (cfg) in
def Tracker.decision (t : Tracker R) (now : ℕ) (action : RelayAction) : Option Decision :=
  (t.submit cfg now action).2.findSome? Effect.decision

variable (cfg) in
/-- The tracker of a new process that loads what this one would persist. -/
def Tracker.restarted (t : Tracker R) : Tracker R :=
  Tracker.empty.restore cfg (t.snapshot cfg)

/-! ## What a decision reads -/

/-- What `submit` decides for a key without a record. -/
def admission (blocking : Option (SubmissionRecord R)) (action : RelayAction) : Decision :=
  match blocking with
  | some record =>
    .refuse (.orderBusy record.key record.action.action record.status action)
  | none => .stage

/-- What `submit` decides for a key with a record, if no submission runs. -/
def SubmissionRecord.decision (r : SubmissionRecord R) (fresh : Decision) : Decision :=
  match r.status with
  | .succeeded => .returnStored r.txHash
  | .failed =>
    if r.terminalReason = some .stagingFailed then fresh
    else .refuse (.terminal r.key r.attempts r.lastError (r.terminalReason.getD .failed))
  | .inFlight => .refuse (.inFlight r.key)
  | .pending => .reconcile r.txHash

/-- The record under a key. -/
def Tracker.lookup (t : Tracker R) (key : String) : Option (SubmissionRecord R) :=
  t.list.find? fun r => r.key = key

theorem Tracker.WellFormed.lookup_eq (h : t.WellFormed cfg) (key : String) :
    t.lookup key = (t.get key).map t.heap := by
  have hsame : t.records.find? ((fun r => decide (r.key = key)) ∘ fun ref => t.heap ref.2) =
      t.records.find? fun ref => decide (ref.1 = key) := by
    apply List.find?_congr
    intro ref href
    simp [(h.refs ref href).2]
  rw [Tracker.lookup, Tracker.list, List.find?_map, hsame, Tracker.get, Option.map_map]
  rfl

/-- The slot of the action itself does not block it. -/
theorem Tracker.WellFormed.blocking_delete (h : t.WellFormed cfg) (action : RelayAction) :
    (t.delete (computeSubmissionKey cfg.shortDigest action)).getBlockingRecord cfg action =
      t.getBlockingRecord cfg action := by
  simp only [Tracker.getBlockingRecord, Tracker.list, Tracker.delete, List.find?_map,
    List.find?_filter]
  congr 1
  apply List.find?_congr
  intro ref href
  have hkey := (h.refs ref href).2
  simp only [Function.comp_apply, hkey]
  by_cases hown : ref.1 = computeSubmissionKey cfg.shortDigest action
  · simp [hown]
  · simp [hown]

theorem submitNew_decision :
    (t.submitNew cfg now action).2.findSome? Effect.decision =
      some (admission (t.getBlockingRecord cfg action) action) := by
  simp only [Tracker.submitNew]
  cases t.getBlockingRecord cfg action with
  | some blocking => rfl
  | none => rfl

theorem reconcile_decision {id obj : ℕ} {duplicate : Bool}
    (hfree : t.reconciling (t.heap obj).key = false) :
    (t.reconcile cfg now id obj duplicate).2.findSome? Effect.decision =
      some (.reconcile (t.heap obj).txHash) := by
  simp only [Tracker.reconcile, hfree, Bool.false_eq_true, if_false]
  split_ifs
  · rfl
  · simp [Tracker.poll, Effect.decision, confirmationRef, SubmissionRecord.attempted]

/-- While no submission runs, the decision depends on the record of the action and on the record
that blocks it. -/
theorem decision_eq (h : t.WellFormed cfg) (hdriven : t.Driven) (hidle : t.Idle) :
    t.decision cfg now action =
      let fresh := admission (t.getBlockingRecord cfg action) action
      some (((t.lookup (computeSubmissionKey cfg.shortDigest action)).map
        (·.decision fresh)).getD fresh) := by
  rw [h.lookup_eq]
  simp only [Tracker.decision, Tracker.submit]
  cases hget : t.get (computeSubmissionKey cfg.shortDigest action) with
  | none => exact submitNew_decision
  | some obj =>
      have hkey := (h.refs _ (Tracker.get_eq_some hget)).2
      simp only [Option.map_some, Option.getD_some, SubmissionRecord.decision] at hkey ⊢
      cases (t.heap obj).status with
      | succeeded => rfl
      | failed =>
          simp only
          split_ifs
          · rw [← h.blocking_delete]
            exact submitNew_decision
          · simp [Effect.decision, hkey]
      | inFlight =>
          simp only [hidle (computeSubmissionKey cfg.shortDigest action)]
          simp [Effect.decision, hkey]
      | pending =>
          simp only [hidle (computeSubmissionKey cfg.shortDigest action)]
          exact reconcile_decision (hdriven.unreconciled_of_idle h hidle _)

/-! ## What a restart keeps -/

variable (cfg) in
/-- A record after a restart. -/
def SubmissionRecord.reloaded (r : SubmissionRecord R) : SubmissionRecord R :=
  restoredRecord cfg (toPersistedSubmission cfg r)

theorem SubmissionRecord.Coherent.reloaded_orderKey {r : SubmissionRecord R} (h : r.Coherent cfg) :
    (r.reloaded cfg).orderKey = r.orderKey :=
  if_neg h.persisted.orderKey_ne

theorem SubmissionRecord.Coherent.reloaded_normalized {r : SubmissionRecord R}
    (h : r.Coherent cfg) (hstatus : r.status ≠ .inFlight) :
    normalizePersistedStatus r.status r.txHash r.lastError = (r.status, r.lastError) := by
  have hhash := h.hash
  cases hr : r.status with
  | inFlight => contradiction
  | pending => simp [normalizePersistedStatus, hhash hr]
  | succeeded | failed => rfl

theorem SubmissionRecord.Coherent.reloaded_status {r : SubmissionRecord R} (h : r.Coherent cfg)
    (hstatus : r.status ≠ .inFlight) : (r.reloaded cfg).status = r.status :=
  congrArg Prod.fst (h.reloaded_normalized hstatus)

theorem SubmissionRecord.Coherent.reloaded_lastError {r : SubmissionRecord R}
    (h : r.Coherent cfg) (hstatus : r.status ≠ .inFlight) :
    (r.reloaded cfg).lastError = r.lastError :=
  congrArg Prod.snd (h.reloaded_normalized hstatus)

theorem SubmissionRecord.Coherent.reloaded_terminalReason {r : SubmissionRecord R}
    (h : r.Coherent cfg) (hstatus : r.status ≠ .inFlight) :
    (r.reloaded cfg).terminalReason =
      if r.status = .failed ∧ (r.terminalReason = some .stagingFailed ∨ truthy r.txHash = false)
      then some .stagingFailed else r.terminalReason := by
  simp only [SubmissionRecord.reloaded, restoredRecord, toPersistedSubmission,
    h.reloaded_normalized hstatus]

/-- A failed submission without a hash that may not be staged again. -/
def SubmissionRecord.hashlessTombstone (r : SubmissionRecord R) : Prop :=
  r.status = .failed ∧ truthy r.txHash = false ∧ r.terminalReason ≠ some .stagingFailed

/-- A record decides the same after a restart, unless it is a tombstone without a hash. -/
theorem SubmissionRecord.Coherent.reloaded_decision {r : SubmissionRecord R} (h : r.Coherent cfg)
    (hstatus : r.status ≠ .inFlight) (blocking : Option (SubmissionRecord R))
    (action : RelayAction) :
    (r.reloaded cfg).decision (admission blocking action) = r.decision (admission blocking action) ↔
      ¬ r.hashlessTombstone := by
  have hreason := h.reloaded_terminalReason hstatus
  have hlastError := h.reloaded_lastError hstatus
  simp only [SubmissionRecord.decision, h.reloaded_status hstatus, hreason, hlastError,
    SubmissionRecord.hashlessTombstone]
  cases hr : r.status with
  | succeeded => simp [SubmissionRecord.reloaded, restoredRecord, toPersistedSubmission]
  | inFlight => contradiction
  | pending => simp [SubmissionRecord.reloaded, restoredRecord, toPersistedSubmission]
  | failed =>
      by_cases hstaging : r.terminalReason = some .stagingFailed
      · simp [hstaging]
      · cases htruthy : truthy r.txHash with
        | true =>
            simp [hstaging, SubmissionRecord.reloaded, restoredRecord, toPersistedSubmission]
        | false =>
            -- a terminal error before, the admission of a new submission after
            cases blocking with
            | none => simp [hstaging, admission]
            | some blocking => simp [hstaging, admission]

/-! ## The restarted tracker -/

theorem Tracker.WellFormed.restart_spec (h : t.WellFormed cfg) :
    (t.restarted cfg).WellFormed cfg ∧
      (t.restarted cfg).list = t.list.map (·.reloaded cfg) := by
  have hcoherent : ∀ p ∈ t.snapshot cfg, p.Coherent cfg := by
    intro p hp
    obtain ⟨r, hr, rfl⟩ := List.mem_map.mp hp
    exact (h.coherent r hr).persisted
  have hkeys : ((t.snapshot cfg).map PersistedSubmission.key).Nodup := by
    have hsame : (t.snapshot cfg).map PersistedSubmission.key = t.records.map Prod.fst := by
      simp only [Tracker.snapshot, Tracker.list, List.map_map]
      exact List.map_congr_left fun ref href => (h.refs ref href).2
    rw [hsame]
    exact h.nodup
  have hrestored := restore_spec (t.snapshot cfg) Tracker.WellFormed.empty hcoherent hkeys
    (by simp [Tracker.empty])
  refine ⟨hrestored.1, hrestored.2.trans ?_⟩
  rw [Tracker.snapshot, List.map_map]
  rfl

theorem Tracker.WellFormed.restart_driven (h : t.WellFormed cfg) : (t.restarted cfg).Driven := by
  apply restore_driven
  refine h.restart_spec.2.trans ?_
  rw [Tracker.snapshot, List.map_map]
  rfl

theorem restart_idle : (t.restarted cfg).Idle := by
  intro key
  exact congrFun (restore_operations (t.snapshot cfg)).1 key

theorem Tracker.WellFormed.restart_lookup (h : t.WellFormed cfg) (key : String) :
    (t.restarted cfg).lookup key = (t.lookup key).map (·.reloaded cfg) := by
  rw [Tracker.lookup, h.restart_spec.2, List.find?_map]
  rfl

theorem Tracker.WellFormed.restart_blocking (h : t.WellFormed cfg)
    (hstatus : ∀ r ∈ t.list, r.status ≠ .inFlight) (action : RelayAction) :
    (t.restarted cfg).getBlockingRecord cfg action =
      (t.getBlockingRecord cfg action).map (·.reloaded cfg) := by
  simp only [Tracker.getBlockingRecord, h.restart_spec.2, List.find?_map]
  congr 1
  apply List.find?_congr
  intro r hr
  have hr' := h.coherent r hr
  have hkey : (r.reloaded cfg).key = r.key := rfl
  simp only [Function.comp_apply, hkey, hr'.reloaded_orderKey, hr'.reloaded_status (hstatus r hr)]

/-- A blocking record is named the same after a restart. -/
theorem Tracker.WellFormed.restart_admission (h : t.WellFormed cfg)
    (hstatus : ∀ r ∈ t.list, r.status ≠ .inFlight) (action : RelayAction) :
    admission ((t.restarted cfg).getBlockingRecord cfg action) action =
      admission (t.getBlockingRecord cfg action) action := by
  rw [h.restart_blocking hstatus]
  cases hblocking : t.getBlockingRecord cfg action with
  | none => rfl
  | some blocking =>
      have hmem : blocking ∈ t.list := List.mem_of_find?_eq_some hblocking
      have hkept := (h.coherent _ hmem).reloaded_status (hstatus _ hmem)
      simp only [Option.map_some, admission, hkept]
      rfl

/-- While no submission runs, `submit` decides after a restart as it would have decided before,
exactly if the action's own record is not a failed one that has no hash and was not allowed to
be staged again. -/
theorem restart_keeps_decisions {labels : List (Machine.Label (ℕ × Event R) (Effect R))}
    (h : Execution (process cfg).Step (Tracker.empty, []) labels (t, stored)) (hidle : t.Idle)
    (action : RelayAction) (now now' : ℕ) :
    (t.restarted cfg).decision cfg now' action = t.decision cfg now action ↔
      ∀ r ∈ t.list, r.key = computeSubmissionKey cfg.shortDigest action →
        ¬ r.hashlessTombstone := by
  obtain ⟨hlive, hdriven⟩ := process_driven h
  have hwf := hlive.wellFormed
  have hstatus := hdriven.status_ne_of_idle hidle
  rw [decision_eq hwf hdriven hidle, decision_eq hwf.restart_spec.1 hwf.restart_driven restart_idle,
    hwf.restart_lookup, hwf.restart_admission hstatus]
  cases hlookup : t.lookup (computeSubmissionKey cfg.shortDigest action) with
  | none =>
      have hnone : ∀ r ∈ t.list, r.key ≠ computeSubmissionKey cfg.shortDigest action := by
        simpa [Tracker.lookup] using hlookup
      simp only [Option.map_none, true_iff]
      intro r hr hkey
      exact absurd hkey (hnone r hr)
  | some r =>
      have hmem : r ∈ t.list := List.mem_of_find?_eq_some hlookup
      have hkey : r.key = computeSubmissionKey cfg.shortDigest action := by
        simpa using List.find?_some hlookup
      have hkept := (hwf.coherent r hmem).reloaded_decision (hstatus r hmem)
        (t.getBlockingRecord cfg action) action
      simp only [Option.map_some, Option.getD_some, Option.some.injEq, hkept]
      constructor
      · intro htombstone r' hr' hkey'
        rw [hwf.record_unique hmem hr' (hkey'.trans hkey.symm)]
        exact htombstone
      · intro htombstone
        exact htombstone r hmem hkey

/-! ## Order 7 -/

/-- The process is killed between the save and the broadcast of a claim. -/
def killedScript : List (Machine.Command (ℕ × Event String)) :=
  [.run (0, .submit (order7 "claim")), .cut (1, .staged 0 (.resolved (some "0xc") none)) 1]

theorem restart_keeps_decisions_order7 :
    let run := (process order7Config).play killedScript (Tracker.empty, [])
    run.2.1.decision order7Config 2 (order7 "claim") = some (.reconcile (some "0xc")) ∧
      ((run.2.1.restarted order7Config).decision order7Config 3 (order7 "claim") =
          run.2.1.decision order7Config 2 (order7 "claim") ↔
        ∀ r ∈ run.2.1.list,
          r.key = computeSubmissionKey order7Config.shortDigest (order7 "claim") →
            ¬ r.hashlessTombstone) :=
  ⟨by decide, restart_keeps_decisions (play_execution killedScript _) (fun _ => rfl) _ _ _⟩

/-- A configuration that takes every staging error for final. -/
def strictConfig : RelayTrackerConfig String :=
  { order7Config with isRetryable := fun _ => false }

/-- The stager of the claim rejects. -/
def rejectedScript : List (Machine.Command (ℕ × Event String)) :=
  [.run (0, .submit (order7 "claim")), .run (1, .staged 0 (.rejected (.other "no funds")))]

def rejectedRun := (process strictConfig).play rejectedScript (Tracker.empty, [])

theorem rejectedRun_idle : rejectedRun.2.1.Idle := by
  have hinflight : rejectedRun.2.1.inflight =
      Function.update (Function.update (fun _ => none) "xlm_to_eth:claim:7#266aa588" (some 0))
        "xlm_to_eth:claim:7#266aa588" none := rfl
  intro key
  rw [hinflight]
  simp

/-- The claim is a tombstone before the restart and is staged again after it. -/
theorem tombstone_restaged :
    ¬ ∀ labels t stored, Execution (process strictConfig).Step (Tracker.empty, []) labels
        (t, stored) → t.Idle → ∀ action now now',
      (t.restarted strictConfig).decision strictConfig now' action =
        t.decision strictConfig now action := by
  intro h
  have hrun := play_execution (M := process strictConfig) rejectedScript (Tracker.empty, [])
  have hsame := h _ _ _ hrun rejectedRun_idle (order7 "claim") 2 3
  have hbefore : rejectedRun.2.1.decision strictConfig 2 (order7 "claim") =
      some (.refuse (.terminal "xlm_to_eth:claim:7#266aa588" 1 (some "no funds")
        .nonRetryable)) := by decide
  have hafter : (rejectedRun.2.1.restarted strictConfig).decision strictConfig 3
      (order7 "claim") = some .stage := by decide
  have hdiffer := hafter.symm.trans (hsame.trans hbefore)
  contradiction

end OverSync.RelaySubmissionTracker
