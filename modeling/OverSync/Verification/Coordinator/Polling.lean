import OverSync.Verification.Coordinator.LegRouting
import OverSync.Verification.Coordinator.LiveEvents

/-! # The positions of the Soroban listener

A turn of the loop applies the events of a page and moves on, whatever became of them. An event
is applied with an error if and only if a statement fails. -/

namespace OverSync.Coordinator

open Library Library.Procedure
open SorobanListener (Position Page EventsRequest eventsRequest applyAll poll)

variable {D : Deployment} {cond : Conditions} {networkId : String} {db u v : Database}
  {event : BridgeOrderEvent} {α : Type}

/-! ## Errors -/

theorem apply_answered (cond : Conditions) (writer : String) (event : BridgeOrderEvent)
    (db : Database) :
    ∃ outcome u, run (exec cond) (OrderEventApplier.apply D writer event) db = (.ok outcome, u) ∧
      ((∃ message, outcome = .error message) ↔
        answered (exec cond) (OrderEventApplier.apply D writer event) db = false) := by
  have hplain : ∃ p : Task BridgeEventOutcome, Plain .database (fun _ => True) p ∧
      OrderEventApplier.apply D writer event =
        tryCatch p fun e => pure (OrderEventApplier.outcomeOf e) := by
    unfold OrderEventApplier.apply
    cases event.kind with
    | lock => exact ⟨_, applyLock_plain (fun _ _ => trivial) (fun _ => trivial) writer event, rfl⟩
    | claim => exact ⟨_, applyClaim_plain (fun _ _ => trivial) (fun _ => trivial) writer event, rfl⟩
    | refund => exact ⟨_, applyRefund_plain (fun _ _ => trivial) (fun _ => trivial) writer event, rfl⟩
  obtain ⟨p, hplain, happly⟩ := hplain
  cases hanswered : answered (exec cond) (OrderEventApplier.apply D writer event) db with
  | true =>
      obtain ⟨outcome, u, hrun, hnot, _⟩ := apply_live D cond.clock writer event db
      refine ⟨outcome, u, ?_, ?_⟩
      · rw [← hrun]
        exact run_answered hanswered fun stmt w =>
          (exec_or_fails cond stmt w).imp_right fun hfails => by rw [hfails]
      · exact ⟨fun ⟨message, h⟩ => absurd h (hnot message), fun h => by cases h⟩
  | false =>
      rw [happly, answered_tryCatch] at hanswered
      have hfailed : answered (exec cond) p db = false := by
        split at hanswered
        · simpa using hanswered
        · simpa [answered, pure] using hanswered
      rw [happly, run_tryCatch]
      cases hrun : run (exec cond) p db with
      | mk r u =>
          have hresult := hplain.run_unanswered hfailed
          rw [hrun] at hresult
          obtain rfl : r = .error .database := hresult
          exact ⟨_, u, rfl, ⟨fun _ => rfl, fun _ => ⟨_, rfl⟩⟩⟩

/-- An event of a page ends in an error if and only if a statement fails while the page is
applied. -/
theorem applyAll_answered (cond : Conditions) (events : List (Option BridgeOrderEvent))
    (db : Database) :
    ∃ outcomes u, run (exec cond) (applyAll D events) db = (.ok outcomes, u) ∧
      ((∃ event message, (event, BridgeEventOutcome.error message) ∈ outcomes) ↔
        answered (exec cond) (applyAll D events) db = false) := by
  induction events generalizing db with
  | nil => exact ⟨[], db, rfl, by simp [applyAll, answered, pure]⟩
  | cons event events ih =>
      cases event with
      | none => exact ih db
      | some event =>
          obtain ⟨outcome, u, hrun, hone⟩ :=
            apply_answered (D := D) cond SorobanListener.writer event db
          obtain ⟨outcomes, v, hrest, hothers⟩ := ih u
          refine ⟨(event, outcome) :: outcomes, v, ?_, ?_⟩
          · rw [applyAll, run_bind, hrun]
            dsimp only
            rw [run_bind, hrest]
            rfl
          · have hsplit : answered (exec cond) (applyAll D (some event :: events)) db =
                (answered (exec cond) (OrderEventApplier.apply D SorobanListener.writer event) db &&
                  answered (exec cond) (applyAll D events) u) := by
              rw [applyAll, answered_bind, hrun]
              dsimp only
              rw [answered_bind, hrest]
              simp [answered, pure]
            rw [hsplit, Bool.and_eq_false_iff, ← hone, ← hothers]
            constructor
            · rintro ⟨other, message, hmem⟩
              rcases List.mem_cons.mp hmem with heq | hlater
              · exact .inl ⟨message, (congrArg Prod.snd heq).symm⟩
              · exact .inr ⟨other, message, hlater⟩
            · rintro (⟨message, rfl⟩ | ⟨other, message, hlater⟩)
              · exact ⟨event, message, List.mem_cons_self⟩
              · exact ⟨other, message, List.mem_cons_of_mem _ hlater⟩

/-! ## Turns -/

structure Listening where
  position : Position
  db : Database

/-- The listener after a turn of the loop. -/
def turn (D : Deployment) (cond : Conditions) (networkId : String) (page : Page) (s : Listening) :
    Listening :=
  match run (exec cond) (poll D networkId page s.position) s.db with
  | (.ok (position, _), u) => ⟨position, u⟩
  | (.error _, u) => ⟨s.position, u⟩

/-- The cursor held after a page. -/
def nextCursor (page : Page) (position : Position) : Option String :=
  match truthy page.cursor with
  | some cursor => some cursor
  | none => position.cursor

/-- A turn applies the events, moves on in memory, and tries to save. -/
theorem run_poll (networkId : String) (position : Position)
    {outcomes : List (BridgeOrderEvent × BridgeEventOutcome)}
    (h : run (exec cond) (applyAll D page.events) db = (.ok outcomes, u)) :
    run (exec cond) (poll D networkId page position) db =
      (.ok ({ position with cursor := nextCursor page position, resumeLedger := none }, outcomes),
        (run (exec cond) (ChainEventProcessor.advance .soroban networkId
          (max position.lastLedger page.latest) (nextCursor page position)) u).2) := by
  rw [poll, run_bind, h]
  dsimp only
  rw [run_bind, run_tryCatch]
  unfold nextCursor
  cases hadvance : run (exec cond) (ChainEventProcessor.advance .soroban networkId
      (max position.lastLedger page.latest)
      (match truthy page.cursor with
        | some cursor => some cursor
        | none => position.cursor)) u with
  | mk r v => cases r <;> rfl

/-! ## Places in the sequence of events -/

/-- The number of contract events before what a request asks for, as the RPC server counts. -/
abbrev Places := EventsRequest → ℕ

/-- The lifecycle events of a page by their places, when the page begins at one. -/
def eventPlaces (begin : ℕ) : List (Option BridgeOrderEvent) → List ℕ
  | [] => []
  | none :: events => eventPlaces (begin + 1) events
  | some _ :: events => begin :: eventPlaces (begin + 1) events

/-- A page with events on it comes with a cursor, from which the server goes on behind them. -/
def Places.Answers (place : Places) (s : Listening) (page : Page) : Prop :=
  page.events ≠ [] → ∃ cursor, truthy page.cursor = some cursor ∧
    place (eventsRequest page.latest s.position) + page.events.length ≤ place (.cursor cursor)

/-- Every later request from the position reaches back to the place. -/
def Places.Reaches (place : Places) (latest : ℕ) (position : Position) (n : ℕ) : Prop :=
  ∀ later, latest ≤ later → place (eventsRequest later position) ≤ n

/-- Where an event ends in an error, the next request reaches back to it, and so does the one
after a restart from what the turn has saved. -/
def HeldBack (D : Deployment) (cond : Conditions) (networkId : String) (place : Places)
    (s : Listening) (page : Page) : Prop :=
  ∀ position outcomes u,
    run (exec cond) (poll D networkId page s.position) s.db = (.ok (position, outcomes), u) →
    ∀ n event message, (n, (event, BridgeEventOutcome.error message)) ∈
      (eventPlaces (place (eventsRequest page.latest s.position)) page.events).zip outcomes →
    place.Reaches page.latest position n ∧
      ∀ saved, u.cursors .soroban = some saved → s.db.cursors .soroban ≠ some saved →
        place.Reaches page.latest (SorobanListener.resumed saved) n

/-- No statement fails while the events of the page are applied. -/
def Uninterrupted (D : Deployment) (cond : Conditions) (s : Listening) (page : Page) : Prop :=
  answered (exec cond) (applyAll D page.events) s.db = true

theorem lt_of_mem_eventPlaces {begin n : ℕ} {events : List (Option BridgeOrderEvent)}
    (h : n ∈ eventPlaces begin events) : n < begin + events.length := by
  induction events generalizing begin with
  | nil => simp [eventPlaces] at h
  | cons event events ih =>
      rw [List.length_cons]
      cases event with
      | none =>
          have hlater := ih h
          omega
      | some event =>
          rcases List.mem_cons.mp h with rfl | hmem
          · omega
          · have hlater := ih hmem
            omega

theorem length_applyAll {outcomes : List (BridgeOrderEvent × BridgeEventOutcome)}
    {events : List (Option BridgeOrderEvent)} (begin : ℕ)
    (h : run (exec cond) (applyAll D events) db = (.ok outcomes, u)) :
    outcomes.length = (eventPlaces begin events).length := by
  induction events generalizing begin db u outcomes with
  | nil =>
      obtain ⟨hok, -⟩ := Prod.mk.inj h
      rw [← Except.ok.inj hok]
      rfl
  | cons event events ih =>
      cases event with
      | none => exact ih (begin + 1) h
      | some event =>
          obtain ⟨outcome, v, hrun, -⟩ :=
            apply_answered (D := D) cond SorobanListener.writer event db
          obtain ⟨rest, w, hrest, -⟩ := applyAll_answered (D := D) cond events v
          rw [applyAll, run_bind, hrun] at h
          dsimp only at h
          rw [run_bind, hrest] at h
          obtain ⟨hok, -⟩ := Prod.mk.inj h
          rw [← Except.ok.inj hok, List.length_cons, eventPlaces, List.length_cons,
            ih (begin + 1) hrest]

/-- A turn moves past the events of its page whatever became of them, so that it holds back exactly
if there was no error. -/
theorem heldBack_iff {place : Places} (h : place.Answers s page) :
    HeldBack D cond networkId place s page ↔ Uninterrupted D cond s page := by
  obtain ⟨outcomes, u, happly, herror⟩ := applyAll_answered (D := D) cond page.events s.db
  have hpoll := run_poll networkId s.position happly
  constructor
  · intro hheld
    by_contra hnot
    obtain ⟨event, message, hmem⟩ := herror.mpr (by simpa [Uninterrupted] using hnot)
    have hlength := length_applyAll (place (eventsRequest page.latest s.position)) happly
    rw [← List.map_snd_zip hlength.le, List.mem_map] at hmem
    obtain ⟨⟨n, _⟩, hn, rfl⟩ := hmem
    obtain ⟨hreaches, -⟩ := hheld _ _ _ hpoll n event message hn
    have hlt := lt_of_mem_eventPlaces (List.of_mem_zip hn).1
    have hevents : page.events ≠ [] := by
      intro hnil
      rw [hnil] at hn
      simp [eventPlaces] at hn
    obtain ⟨cursor, hcursor, hbehind⟩ := h hevents
    have hnext := hreaches page.latest le_rfl
    simp only [eventsRequest, nextCursor, hcursor] at hnext hbehind hlt
    omega
  · intro hanswered position outcomes' v hrun n event message hmem
    rw [hpoll] at hrun
    obtain ⟨-, rfl⟩ := Prod.mk.inj (Except.ok.inj (Prod.mk.inj hrun).1)
    have hfails := herror.mp ⟨event, message, (List.of_mem_zip hmem).2⟩
    rw [Uninterrupted, hfails] at hanswered
    cases hanswered

/-- Over a run of the loop, no position moves past an event that ended in an error if and only if
no statement fails while a page is applied. -/
theorem positions_held_iff (D : Deployment) (cond : Conditions) (networkId : String)
    (place : Places) (pages : List Page) (s : Listening)
    (hpages : AllOk (turn D cond networkId) place.Answers pages s) :
    AllOk (turn D cond networkId) (HeldBack D cond networkId place) pages s ↔
      AllOk (turn D cond networkId) (Uninterrupted D cond) pages s :=
  allOk_iff_of_invariant (fun _ => True) (fun _ _ _ hpage => heldBack_iff hpage)
    (fun _ _ _ _ _ => trivial) pages s trivial hpages

/-! ## A lock that is lost -/

/-- The source lock of the order that begins on Stellar. -/
def sorobanLock7 : BridgeOrderEvent where
  kind := .lock
  chain := .stellar
  txHash := "0xcc"
  blockNumber := 55
  orderId := some "7"
  hashlock := some hashlock7
  timelock := some 1700010000
  preimage := none

def lockPage7 : Page where
  latest := 55
  events := [some sorobanLock7]
  cursor := some "55-1"

/-- A page without events, after the lock. -/
def quietPage7 : Page where
  latest := 60
  events := []
  cursor := none

/-- The lock is the only event of the contract. -/
def places7 : Places
  | .startLedger ledger => if ledger ≤ 55 then 0 else 1
  | .cursor cursor => if cursor = "55-1" then 1 else 0

/-- A listener that holds no cursor, with the announced order in its database. -/
def listening7 : Listening := ⟨⟨none, none, 0⟩, announced7 returnInput7⟩

def pollingConditions7 (fails : ℕ → Bool) : Conditions := ⟨fun _ => 1700000000, fails⟩

theorem lockPage7_answers : places7.Answers listening7 lockPage7 :=
  fun _ => ⟨"55-1", by decide, by decide⟩

/-- Without a failure the lock is applied, and nothing is lost. -/
theorem positions_held_order7 :
    AllOk (turn deployment7 (pollingConditions7 fun _ => false) "Test SDF Network")
      (HeldBack deployment7 (pollingConditions7 fun _ => false) "Test SDF Network" places7)
      [lockPage7, quietPage7] listening7 :=
  (positions_held_iff _ _ _ places7 [lockPage7, quietPage7] _
    ⟨lockPage7_answers, fun hevents => absurd rfl hevents, trivial⟩).mpr
    ⟨by unfold Uninterrupted; decide, by unfold Uninterrupted; decide, trivial⟩

/-- The first statement of the lock fails, and the listener moves on. -/
theorem position_passes_lock :
    ¬ ∀ (D : Deployment) (cond : Conditions) (networkId : String) (place : Places)
        (pages : List Page) (s : Listening), AllOk (turn D cond networkId) place.Answers pages s →
      AllOk (turn D cond networkId) (HeldBack D cond networkId place) pages s := by
  intro h
  have hheld := (h deployment7 (pollingConditions7 fun i => i = 4) "Test SDF Network" places7
    [lockPage7] listening7 ⟨lockPage7_answers, trivial⟩).1
  have hpolled : (run (exec (pollingConditions7 fun i => i = 4))
      (poll deployment7 "Test SDF Network" lockPage7 listening7.position) listening7.db).1 =
        .ok (⟨some "55-1", none, 0⟩, [(sorobanLock7, .error CoordinatorError.database.message)]) := by
    decide
  obtain ⟨hreaches, -⟩ := hheld _ _ _ (Prod.ext hpolled rfl) 0 _ _ (List.mem_singleton_self _)
  exact absurd (hreaches 55 le_rfl) (by decide)

end OverSync.Coordinator
