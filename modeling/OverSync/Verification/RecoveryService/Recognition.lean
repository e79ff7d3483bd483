import OverSync.Model.RecoveryService
import OverSync.Verification.RelaySubmissionTracker.Results

/-! # What the recovery service recognises

`recoverPendingRows` looks for hashes in results, and none of the rows it selects has one. -/

namespace OverSync.RecoveryService

open Library Machine RelaySubmissionTracker

variable {R : Type} {cfg : RelayTrackerConfig R} {value : R → ResultValue} {t : Tracker R}
  {calls : List Recovery} {stored : List (PersistedSubmission R)}

/-! ## Calls without rows -/

theorem observe_rows {call : Recovery} (h : call.rows = []) (effects : List (Effect R)) :
    (call.observe t effects).rows = [] := by
  induction effects generalizing call with
  | nil => exact h
  | cons effect effects ih =>
      simp only [Recovery.observe, List.foldl_cons] at ih ⊢
      apply ih
      cases effect <;> simp [Recovery.settle, h]

/-- No call has a row that waits. -/
def Finished (calls : List Recovery) : Prop := ∀ call ∈ calls, call.rows = []

theorem Finished.rowState (h : Finished calls) (call obj : ℕ) : rowState calls call obj = none := by
  cases hcall : calls[call]? with
  | none => simp [RecoveryService.rowState, hcall]
  | some recovery =>
      have hrows := h recovery (List.mem_of_getElem? hcall)
      simp [RecoveryService.rowState, hcall, hrows]

theorem Finished.observe (h : Finished calls) (effects : List (Effect R)) :
    Finished (calls.map (Recovery.observe t effects)) := by
  intro call hcall
  obtain ⟨before, hbefore, rfl⟩ := List.mem_map.mp hcall
  exact observe_rows (h before hbefore) effects

variable (value) in
/-- A row without a result has no hash for the provider. -/
theorem rowHash_pending (h : t.ResultsSound) {obj : ℕ} (hobj : obj ∈ pendingRows t) :
    rowHash value t obj = none := by
  have hstatus := of_decide_eq_true (List.mem_filter.mp hobj).2
  have hresult : (t.heap obj).result = none := by
    apply h
    rcases hstatus with hstatus | hstatus
    · simp [hstatus]
    · simp [hstatus]
  simp [rowHash, hresult, extractTxHash]

variable (value) in
/-- Every selected row is reported as unknown, at once. -/
theorem recoverPendingRows_spec (h : t.ResultsSound) :
    (recoverPendingRows value t).rows = [] ∧
      (recoverPendingRows value t).report.unknown =
        (pendingRows t).map fun obj => (t.heap obj).key := by
  constructor
  · rw [recoverPendingRows, List.filterMap_eq_nil_iff]
    intro obj hobj
    rw [rowHash_pending value h hobj]
    rfl
  · have hall : (pendingRows t).filter (fun obj => rowHash value t obj = none) = pendingRows t :=
      List.filter_eq_self.mpr fun obj hobj => by simp [rowHash_pending value h hobj]
    simp only [recoverPendingRows, hall]

theorem recover_handle (h : t.ResultsSound) :
    (service cfg value).handle .recover (t, calls) stored =
      some ((t, calls ++ [recoverPendingRows value t]), []) := by
  simp [service, queries, (recoverPendingRows_spec value h).1]

/-- Where a result has a hash but no `txHash` field, the row's own submission fails before it is
broadcast: its stager resolves with something that is not a staged submission. -/
theorem stagedRow_fails {now obj obj' task : ℕ} {network : Option String}
    (htask : t.tasks task = some (.staging obj'))
    (hvalue : stagedResult ((t.heap obj).result.map value) = .resolved none network) :
    ∃ result, stagedRow cfg value t now obj task = some result ∧
      (result.1.heap obj').status = .failed ∧
      (result.1.heap obj').terminalReason = some .stagingFailed := by
  have hover : (t.missingHash cfg now task obj').1.tasks task = none := Function.update_self ..
  refine ⟨t.missingHash cfg now task obj', ?_, ?_, ?_⟩
  · simp [stagedRow, Tracker.handle, htask, hvalue, Tracker.staged, hover]
  · simp [Tracker.missingHash, Tracker.failTask, Tracker.finish, SubmissionRecord.failedWith]
  · simp [Tracker.missingHash, Tracker.failTask, Tracker.finish, SubmissionRecord.failedWith]

/-! ## Runs -/

variable {past : List (SystemEffect R Query)}
  {labels : List (Label (ServiceEvent R) (SystemEffect R Query))}

variable (cfg) in
/-- Only a record that succeeded has a result, and no call waits. -/
structure Idles (v : Tracker R × List Recovery) (stored : List (PersistedSubmission R))
    (past : List (SystemEffect R Query)) : Prop where
  live : Live cfg v.1 stored (relayed past)
  results : v.1.ResultsSound
  kept : ∀ p ∈ stored, p.ResultSound
  finished : Finished v.2

theorem applyAll_relay (effects : List (Effect R)) :
    (service cfg value).applyAll stored (effects.map .relay) =
      (RelaySubmissionTracker.process cfg).applyAll stored effects := by
  induction effects generalizing stored with
  | nil => rfl
  | cons effect effects ih => exact ih

/-- What the service does beside the tracker. -/
theorem Idles.handle {v v' : Tracker R × List Recovery} {event : ServiceEvent R}
    {effects : List (SystemEffect R Query)} (h : Idles cfg v stored past)
    (hhandle : (service cfg value).handle event v stored = some (v', effects)) :
    (∃ now event' result, event = .relay now event' ∧ v.1.handle cfg now event' = some result ∧
      v'.1 = result.1 ∧ effects = result.2.map .relay ∧ Finished v'.2) ∨
    (event = .recover ∧ v'.1 = v.1 ∧ effects = [] ∧ Finished v'.2) := by
  obtain ⟨t, calls⟩ := v
  have hfinished : Finished calls := h.finished
  cases event with
  | relay now event =>
      left
      simp only [service] at hhandle
      split_ifs at hhandle
      obtain ⟨result, hresult, heq⟩ := Option.map_eq_some_iff.mp hhandle
      cases heq
      exact ⟨now, event, result, rfl, hresult, rfl, rfl, hfinished.observe result.2⟩
  | recover =>
      right
      rw [recover_handle h.results] at hhandle
      cases hhandle
      refine ⟨rfl, rfl, rfl, fun call hcall => ?_⟩
      rcases List.mem_append.mp hcall with hold | hnew
      · exact hfinished call hold
      · rw [List.mem_singleton.mp hnew]
        exact (recoverPendingRows_spec value h.results).1
  | answered now call obj answer =>
      simp [service, hfinished.rowState] at hhandle
  | stagerResolved now call obj =>
      simp [service, hfinished.rowState] at hhandle

variable (value) in
theorem service_runs (h : Execution (service cfg value).Step ((Tracker.empty, []), []) labels
    ((t, calls), stored)) : Idles cfg (t, calls) stored (issued labels) := by
  apply Machine.invariant (Idles cfg)
    (fun stored past => Saved cfg stored (relayed past) ∧ ∀ p ∈ stored, p.ResultSound) h
  · exact ⟨Live.start, fun _ _ => rfl, by simp, by simp [Finished]⟩
  · exact fun hidles => ⟨hidles.live.saved, hidles.kept⟩
  · intro stored past hsaved
    exact ⟨hsaved.1.recover, Tracker.ResultsSound.restore (fun _ _ => rfl) hsaved.2, hsaved.2,
      by simp [service, Finished]⟩
  · intro event v stored past v' effects hidles hhandle
    rcases hidles.handle hhandle with ⟨now, event', result, -, hresult, hv, rfl, hfinished⟩ |
        ⟨-, hv, rfl, hfinished⟩
    · have hkeeps := handle_keeps hidles.results hidles.live.wellFormed hresult
      refine ⟨?_, hv ▸ hkeeps.1, ?_, hfinished⟩
      · rw [hv, applyAll_relay, relayed_append, relayed_map]
        exact hidles.live.handle hresult
      · rw [applyAll_relay]
        exact hkeeps.cut (List.prefix_refl _) hidles.kept
    · rw [List.append_nil]
      exact ⟨hv ▸ hidles.live, hv ▸ hidles.results, hidles.kept, hfinished⟩
  · intro event v stored past v' effects front hidles hhandle hfront
    rcases hidles.handle hhandle with ⟨now, event', result, -, hresult, hv, rfl, hfinished⟩ |
        ⟨-, hv, rfl, hfinished⟩
    · rcases List.prefix_map_iff.mp hfront with ⟨front', hcut, rfl⟩
      have hkeeps := handle_keeps hidles.results hidles.live.wellFormed hresult
      rw [applyAll_relay, relayed_append, relayed_map]
      exact ⟨hidles.live.cut hresult hcut, hkeeps.cut hcut hidles.kept⟩
    · rw [List.prefix_nil.mp hfront, List.append_nil]
      exact ⟨hidles.live.saved, hidles.kept⟩

/-! ## Recognition -/

/-- The service acts alone, and the provider reports `confirmed` whenever it is asked. -/
def confirming : Label (ServiceEvent R) (SystemEffect R Query) → Bool
  | .ran .recover _ | .ran (.stagerResolved ..) _ => true
  | .ran (.answered _ _ _ (.ok .confirmed)) _ => true
  | _ => false

variable (cfg value) in
/-- What recovery owes to a record: once the provider has confirmed whatever a call of
`recoverPendingRows` asked, and the call is complete, the record has succeeded with its hash, and
nothing that happens later broadcasts under its key. -/
def Recognises (t : Tracker R) (calls : List Recovery) (stored : List (PersistedSubmission R))
    (r : SubmissionRecord R) : Prop :=
  ∀ effects labels t' calls' stored',
    Execution (service cfg value).Step ((t, calls), stored) (.ran .recover effects :: labels)
      ((t', calls'), stored') →
    (∀ label ∈ labels, confirming label) → Finished calls' →
    (∃ r' ∈ t'.list, r'.key = r.key ∧ r'.status = .succeeded ∧ r'.txHash = r.txHash) ∧
      ∀ later w, Execution (service cfg value).Step ((t', calls'), stored') later w →
        r.key ∉ broadcastKeys (relayed (issued later))

/-- A call is complete at once and leaves everything as it is. -/
theorem Idles.not_recognises {r : SubmissionRecord R} (h : Idles cfg (t, calls) stored past)
    (hr : r ∈ t.list) (hstatus : r.status ≠ .succeeded) :
    ¬ Recognises cfg value t calls stored r := by
  intro hrecognises
  have hstep : Execution (service cfg value).Step ((t, calls), stored) [.ran .recover []]
      ((t, calls ++ [recoverPendingRows value t]), stored) :=
    Execution.cons (.ran (recover_handle h.results)) .refl
  have hfinished : Finished (calls ++ [recoverPendingRows value t]) := by
    intro call hcall
    rcases List.mem_append.mp hcall with hold | hnew
    · exact h.finished call hold
    · rw [List.mem_singleton.mp hnew]
      exact (recoverPendingRows_spec value h.results).1
  obtain ⟨⟨r', hr', hkey, hsucceeded, -⟩, -⟩ :=
    hrecognises [] [] _ _ _ hstep (by simp) hfinished
  have hsame := h.live.wellFormed.record_unique hr hr' hkey
  rw [hsame] at hsucceeded
  exact hstatus hsucceeded

/-- No record that has not succeeded is recognised, with a broadcast hash or without, in any state
that the relayer reaches: the call is complete at once, asks the provider nothing and leaves the
tracker as it is. -/
theorem recovery_recognises_nothing
    (h : Execution (service cfg value).Step ((Tracker.empty, []), []) labels ((t, calls), stored)) :
    (service cfg value).handle .recover (t, calls) stored =
        some ((t, calls ++ [recoverPendingRows value t]), []) ∧
      (recoverPendingRows value t).rows = [] ∧
      ∀ r ∈ t.list, r.status ≠ .succeeded → ¬ Recognises cfg value t calls stored r := by
  have hidles := service_runs value h
  exact ⟨recover_handle hidles.results, (recoverPendingRows_spec value hidles.results).1,
    fun r hr hstatus => hidles.not_recognises hr hstatus⟩

/-! ## Order 7 -/

/-- The process is killed between the save and the broadcast of a claim. -/
def killedService : List (Command (ServiceEvent String)) :=
  [.run (.relay 0 (.submit (order7 "claim"))),
    .cut (.relay 1 (.staged 0 (.resolved (some "0xc") none))) 1]

theorem recovery_recognises_nothing_order7 :
    let run := (service order7Config .text).play killedService ((Tracker.empty, []), [])
    run.2.1.1.list.map (fun r => (r.txHash, r.status)) = [(some "0xc", .pending)] ∧
      (service order7Config .text).handle .recover run.2.1 run.2.2 =
        some ((run.2.1.1, run.2.1.2 ++ [recoverPendingRows .text run.2.1.1]), []) ∧
      (recoverPendingRows .text run.2.1.1).rows = [] ∧
      ∀ r ∈ run.2.1.1.list, r.status ≠ .succeeded →
        ¬ Recognises order7Config .text run.2.1.1 run.2.1.2 run.2.2 r :=
  ⟨by decide, recovery_recognises_nothing (play_execution killedService _)⟩

/-- The restored claim of order 7 has a broadcast hash and is not recognised. -/
theorem pending_claim_unrecognised :
    ¬ ∀ labels t calls stored,
      Execution (service order7Config .text).Step ((Tracker.empty, []), []) labels
        ((t, calls), stored) →
      ∀ r ∈ t.list, truthy r.txHash → r.status ≠ .succeeded →
        Recognises order7Config .text t calls stored r := by
  intro h
  have hrun := play_execution (M := service order7Config .text) killedService
    ((Tracker.empty, []), [])
  have hclaim : ∃ r ∈ ((service order7Config .text).play killedService
      ((Tracker.empty, []), [])).2.1.1.list, truthy r.txHash ∧ r.status ≠ .succeeded := by
    decide
  obtain ⟨r, hr, hhash, hstatus⟩ := hclaim
  exact (service_runs .text hrun).not_recognises hr hstatus (h _ _ _ _ hrun r hr hhash hstatus)

end OverSync.RecoveryService
