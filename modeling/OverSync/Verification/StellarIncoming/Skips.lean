import OverSync.Model.StellarIncoming
import Mathlib.Data.List.Nodup
import Mathlib.Tactic.Common

/-! # Payments the poller passes over

A tick reads one page after its cursor and then moves the cursor to the last ledger, however
full the page was. What lies behind the page is never read. -/

namespace OverSync.StellarIncoming

open Library

variable {E : Environment} {history : History} {answers : Answers} {s : State}

/-- A full page leaves nothing new behind, and so does a restart of the monitoring. -/
def LeavesNothing (E : Environment) (history : History) (s : State) (event : Event) : Prop :=
  match event with
  | .orders _ => True
  | .poll answers =>
      hasAwaitingXlmPayment s.activeOrders = true → ∀ start ∈ s.initialPosition,
      ∀ currentLedger ∈ answers.lastLedger,
      if s.lastProcessedStellarLedger = 0 then
        ∀ record ∈ history.1, record.IsPayment E → start < record.ledger →
          (record.ledger : ℤ) ≤ currentLedger - 10 → record ∈ s.examined
      else
        ∀ upTo ∈ answers.paymentsUpTo,
          let records := recordsAfter history s.lastProcessedStellarLedger upTo
          (examinePage E answers (records.take pageLimit) s).2 = true →
          ∀ record ∈ records.drop pageLimit, record.IsPayment E → start < record.ledger →
            (record.ledger : ℤ) ≤ currentLedger → record ∈ s.examined

/-! ## One page -/

/-- What the loop over a page changes. -/
structure Examined (E : Environment) (records : List Record) (s s' : State) (done : Bool) :
    Prop where
  position : s'.lastProcessedStellarLedger = s.lastProcessedStellarLedger
  initial : s'.initialPosition = s.initialPosition
  taken : ∃ taken, s'.examined = s.examined ++ taken ∧ (∀ record ∈ taken, record ∈ records) ∧
    (done = true → ∀ record ∈ records, record.IsPayment E → record ∈ taken)

theorem examinePage_spec (answers : Answers) (records : List Record) (s : State) :
    Examined E records s (examinePage E answers records s).1
      (examinePage E answers records s).2 := by
  induction records generalizing s with
  | nil => exact ⟨rfl, rfl, [], by simp [examinePage], by simp, by simp⟩
  | cons record records ih =>
      rw [examinePage]
      by_cases hpayment : record.IsPayment E
      · rw [if_pos hpayment]
        cases hexamine : examinePayment E answers record s.activeOrders with
        | none => exact ⟨rfl, rfl, [], by simp, by simp, by simp⟩
        | some orders =>
            obtain ⟨hposition, hinitial, taken, htaken, hpage, hdone⟩ :=
              ih { s with activeOrders := orders, examined := s.examined ++ [record] }
            refine ⟨hposition, hinitial, record :: taken, ?_, ?_, ?_⟩
            · simpa using htaken
            · intro r hr
              rcases List.mem_cons.mp hr with rfl | hr
              · exact List.mem_cons_self
              · exact List.mem_cons_of_mem _ (hpage r hr)
            · intro hall r hr hrpayment
              rcases List.mem_cons.mp hr with rfl | hr
              · exact List.mem_cons_self
              · exact List.mem_cons_of_mem _ (hdone hall r hr hrpayment)
      · rw [if_neg hpayment]
        obtain ⟨hposition, hinitial, taken, htaken, hpage, hdone⟩ := ih s
        refine ⟨hposition, hinitial, taken, htaken,
          fun r hr => List.mem_cons_of_mem _ (hpage r hr), fun hall r hr hrpayment => ?_⟩
        rcases List.mem_cons.mp hr with rfl | hr
        · exact absurd hrpayment hpayment
        · exact hdone hall r hr hrpayment

/-! ## Records after the cursor -/

theorem recordsAfter_nodup (history : History) (position upTo : ℤ) :
    (recordsAfter history position upTo).Nodup := by
  refine List.Nodup.filter _ (history.2.imp ?_)
  rintro r r' hlt rfl
  exact Nat.lt_irrefl _ hlt

/-- Every record of a later ledger is after the cursor. -/
theorem mem_recordsAfter {record : Record} {position upTo : ℤ} (hrecord : record ∈ history.1)
    (hlater : position < record.ledger) (hseen : (record.ledger : ℤ) ≤ upTo) :
    record ∈ recordsAfter history position upTo := by
  have hid : record.ledger * 2 ^ 32 ≤ record.id := Nat.div_mul_le_self _ _
  refine List.mem_filter.mpr ⟨hrecord, decide_eq_true ⟨?_, hseen⟩⟩
  rw [cursor]
  omega

/-! ## One event -/

/-- A tick at position zero starts the monitoring, or starts it once more. -/
theorem restart_iff {currentLedger : ℤ} (hzero : s.lastProcessedStellarLedger = 0)
    (hactive : hasAwaitingXlmPayment s.activeOrders = true)
    (hlast : answers.lastLedger = some currentLedger) :
    LeavesNothing E history s (.poll answers) ↔ NoneSkipped E history
      { s with
        lastProcessedStellarLedger := currentLedger - 10
        initialPosition := s.initialPosition <|> some (currentLedger - 10) } := by
  rw [LeavesNothing, NoneSkipped, hlast]
  simp only [hzero, if_true, hactive, forall_const, Option.mem_some_iff]
  cases s.initialPosition with
  | none =>
      refine iff_of_true (by simp) fun start hstart record _ _ hafter hle => ?_
      have hstart' : currentLedger - 10 = start := Option.some.inj hstart
      omega
  | some start => simp

/-- A tick that reads a page. -/
theorem page_iff {currentLedger upTo : ℤ} (hs : NoneSkipped E history s)
    (hzero : s.lastProcessedStellarLedger ≠ 0)
    (hactive : hasAwaitingXlmPayment s.activeOrders = true)
    (hlast : answers.lastLedger = some currentLedger) (hupTo : answers.paymentsUpTo = some upTo) :
    NoneSkipped E history
        (match examinePage E answers
            ((recordsAfter history s.lastProcessedStellarLedger upTo).take pageLimit) s with
        | (s, true) => { s with lastProcessedStellarLedger := currentLedger }
        | (s, false) => s) ↔
      LeavesNothing E history s (.poll answers) := by
  have hseen : currentLedger ≤ upTo := answers.seen _ hlast _ hupTo
  have hnodup := recordsAfter_nodup history s.lastProcessedStellarLedger upTo
  have hspec := examinePage_spec (E := E) answers
    ((recordsAfter history s.lastProcessedStellarLedger upTo).take pageLimit) s
  rw [LeavesNothing, hlast, hupTo]
  simp only [hzero, if_false, hactive, forall_const, Option.mem_some_iff, forall_eq']
  cases hpage : examinePage E answers
      ((recordsAfter history s.lastProcessedStellarLedger upTo).take pageLimit) s with
  | mk s' done =>
  rw [hpage] at hspec
  obtain ⟨hposition, hinitial, taken, htaken, hfrom, hall⟩ := hspec
  simp only at hposition hinitial htaken hfrom hall
  cases done with
  | false =>
      -- the position has not moved
      refine iff_of_true (fun start hstart record hrecord hpayment hafter hle => ?_) (by simp)
      rw [hinitial] at hstart
      rw [hposition] at hle
      rw [htaken]
      exact List.mem_append_left _ (hs start hstart record hrecord hpayment hafter hle)
  | true =>
      simp only [NoneSkipped, hinitial, htaken, forall_const]
      constructor
      · intro hnone start hstart record hdrop hpayment hafter hle
        have hmem := (List.mem_filter.mp (List.mem_of_mem_drop hdrop)).1
        rcases List.mem_append.mp (hnone start hstart record hmem hpayment hafter hle) with
          hold | hnew
        · exact hold
        · exact absurd hdrop (List.disjoint_take_drop hnodup le_rfl (hfrom record hnew))
      · intro hleaves start hstart record hrecord hpayment hafter hle
        by_cases hlater : s.lastProcessedStellarLedger < record.ledger
        · have hmem := mem_recordsAfter hrecord hlater (Int.le_trans hle hseen)
          rw [← List.take_append_drop pageLimit (recordsAfter history _ upTo)] at hmem
          rcases List.mem_append.mp hmem with htake | hdrop
          · exact List.mem_append_right _ (hall rfl record htake hpayment)
          · exact List.mem_append_left _ (hleaves start hstart record hdrop hpayment hafter hle)
        · refine List.mem_append_left _ (hs start hstart record hrecord hpayment hafter ?_)
          omega

theorem noneSkipped_tick (hs : NoneSkipped E history s)
    (hactive : hasAwaitingXlmPayment s.activeOrders = true) :
    NoneSkipped E history (tick E history answers s) ↔
      LeavesNothing E history s (.poll answers) := by
  unfold tick
  cases hlast : answers.lastLedger with
  | none =>
      refine iff_of_true hs fun _ start _ currentLedger hmem => ?_
      rw [hlast] at hmem
      cases hmem
  | some currentLedger =>
      simp only
      by_cases hzero : s.lastProcessedStellarLedger = 0
      · rw [if_pos hzero, restart_iff hzero hactive hlast]
      · rw [if_neg hzero]
        cases hupTo : answers.paymentsUpTo with
        | none =>
            refine iff_of_true hs fun _ start _ last hmem => ?_
            rw [if_neg hzero]
            intro upTo hupTo'
            rw [hupTo] at hupTo'
            cases hupTo'
        | some upTo => exact page_iff hs hzero hactive hlast hupTo

theorem noneSkipped_run (hs : NoneSkipped E history s) (event : Event) :
    NoneSkipped E history (run E history event s) ↔ LeavesNothing E history s event := by
  cases event with
  | orders activeOrders => exact iff_of_true hs trivial
  | poll answers =>
      by_cases hactive : hasAwaitingXlmPayment s.activeOrders = true
      · rw [run, if_pos hactive]
        exact noneSkipped_tick hs hactive
      · rw [run, if_neg hactive]
        exact iff_of_true hs fun h => absurd h hactive

/-! ## Runs -/

/-- No payment is skipped in any state of a run, exactly if no poll leaves payments behind that
have not been examined: beyond its page of fifty, or in starting over. -/
theorem none_skipped_iff (E : Environment) (history : History) (activeOrders : List ActiveOrder)
    (events : List Event) :
    (∀ front, front <+: events →
      NoneSkipped E history (runAll (run E history) front (.start activeOrders))) ↔
      AllOk (run E history) (LeavesNothing E history) events (.start activeOrders) := by
  have hstart : NoneSkipped E history (.start activeOrders) := by
    intro start hmem
    cases hmem
  exact forall_front_iff_allOk (NoneSkipped E history) (fun s event hs => noneSkipped_run hs event)
    (fun s event hs hleaves => (noneSkipped_run hs event).mpr hleaves) events _ hstart hstart

/-! Fifty-one payments in ledger 100, monitored from ledger 90 on. -/

def payment (i : ℕ) : Record where
  id := 100 * 2 ^ 32 + 4096 * (i + 1)
  type := "payment"
  assetType := "native"
  sender := "user"
  recipient := "relayer"
  amount := "5"
  transactionHash := "hash"

def oneBusyLedger : History :=
  ⟨(List.range 51).map payment, by
    rw [List.pairwise_map]
    refine List.pairwise_lt_range.imp fun {i j} hlt => ?_
    change 100 * 2 ^ 32 + 4096 * (i + 1) < 100 * 2 ^ 32 + 4096 * (j + 1)
    omega⟩

def answersAt (ledger : ℤ) : Answers where
  lastLedger := some ledger
  paymentsUpTo := some ledger
  seen := by
    intro last hlast upTo hupTo
    have hlast := Option.some.inj hlast
    have hupTo := Option.some.inj hupTo
    omega
  memo := fun _ => some none
  createETHHTLC := fun _ => false

/-- The last of the payments is never examined. -/
theorem payment_skipped : ∃ (E : Environment) (orders : List ActiveOrder) (events : List Event),
    payment 50 ∈ oneBusyLedger.1 ∧ (payment 50).IsPayment E ∧
    (runAll (run E oneBusyLedger) events (.start orders)).initialPosition = some 90 ∧
    (runAll (run E oneBusyLedger) events (.start orders)).lastProcessedStellarLedger = 101 ∧
    ¬NoneSkipped E oneBusyLedger (runAll (run E oneBusyLedger) events (.start orders)) := by
  let E : Environment := ⟨"relayer", fun _ _ => false⟩
  let orders : List ActiveOrder := [⟨"order", "awaiting_xlm_payment", some "5"⟩]
  let events : List Event := [.poll (answersAt 100), .poll (answersAt 101)]
  have hmem : payment 50 ∈ oneBusyLedger.1 :=
    List.mem_map.mpr ⟨50, List.mem_range.mpr (by decide), rfl⟩
  have hpayment : (payment 50).IsPayment E := ⟨rfl, rfl, rfl⟩
  have hinitial : (runAll (run E oneBusyLedger) events (.start orders)).initialPosition =
      some 90 := by decide
  have hlast : (runAll (run E oneBusyLedger) events
      (.start orders)).lastProcessedStellarLedger = 101 := by decide
  have hexamined : payment 50 ∉
      (runAll (run E oneBusyLedger) events (.start orders)).examined := by decide
  refine ⟨E, orders, events, hmem, hpayment, hinitial, hlast, fun hnone => ?_⟩
  refine hexamined (hnone 90 hinitial (payment 50) hmem hpayment (by decide) ?_)
  rw [hlast]
  decide

end OverSync.StellarIncoming
