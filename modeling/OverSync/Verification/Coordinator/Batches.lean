import OverSync.Verification.Coordinator.Settlements

/-! # When a batch of settlement events moves the cursor

The processor stops at the first event whose error it takes for a temporary one. Two errors of
`reveal` are taken so although they are raised again at every delivery. -/

namespace OverSync.Coordinator

open Library Library.Procedure

variable {D : Deployment} {clock : ℕ → ℕ} {nowSec : ℤ} {networkId : String} {db : Database}
  {ev : SettlementEvent}

/-! ## Events that are refused for good -/

/-- A reveal that is refused with an error other than the permanent ones: the recorded on-chain
id does not fit, another preimage is stored, or the window is closed. -/
def RefusedLoudly (D : Deployment) (nowSec : ℤ) (orders : List StoredOrder) (row : OrderRow)
    (canonical : String) : Prop :=
  (∃ e, matchesKnownOrders D row canonical = .error e ∧
    ChainEventProcessor.isPermanent e = false) ∨
  matchesKnownOrders D row canonical = .ok true ∧
    ((∃ stored, row.preimage = some stored ∧ stored ≠ canonical) ∨
      row.preimage = none ∧
        ¬ (findPreimage orders canonical).any (·.publicId ≠ row.publicId) ∧
        evaluateSecretWindow row.srcTimelock row.dstTimelock nowSec ≠ none)

/-- A claim of a known order, not processed yet and not a repeat, whose preimage has the right
format and is refused loudly. -/
def Wedges (D : Deployment) (nowSec : ℤ) (networkId : String) (db : Database)
    (ev : SettlementEvent) : Prop :=
  db.seen (ChainEventProcessor.eventKey D networkId ev) = false ∧ ev.kind = .claimed ∧
  ∃ order preimage row, findSettled db.orders ev = some order ∧
    truthy ev.preimage = some preimage ∧
    ¬ (order.secretRevealedTx = some ev.txHash ∧ truthy order.preimage ≠ none) ∧
    assertValidSecretFormat preimage "preimage" = .ok () ∧
    findId db.orders order.publicId = some row ∧
    RefusedLoudly D nowSec db.orders row (D.toLowerCase preimage)

theorem editVerdict_not_stuck {orders : List StoredOrder} {edit : Edit} {e : CoordinatorError} :
    editVerdict orders edit ≠ .stuck e := by
  unfold editVerdict
  cases findId orders edit.publicId with
  | none => nofun
  | some row =>
      dsimp only
      split <;> nofun

theorem window_open {srcTimelock dstTimelock : Option ℤ} :
    SecretService.assertInsideTimelockWindow srcTimelock dstTimelock nowSec = .ok () ↔
      evaluateSecretWindow srcTimelock dstTimelock nowSec = none := by
  unfold SecretService.assertInsideTimelockWindow
  cases evaluateSecretWindow srcTimelock dstTimelock nowSec with
  | none => simp
  | some closed => cases closed <;> simp

theorem rowVerdict_stuck {orders : List StoredOrder} {row : OrderRow} {canonical txHash : String} :
    (∃ e, rowVerdict D nowSec orders row row.publicId canonical txHash = .stuck e) ↔
      RefusedLoudly D nowSec orders row canonical := by
  unfold rowVerdict RefusedLoudly
  cases hmatch : matchesKnownOrders D row canonical with
  | error e =>
      dsimp only
      cases hpermanent : ChainEventProcessor.isPermanent e with
      | true => simp [hpermanent]
      | false => simp [hpermanent]
  | ok known =>
      cases known with
      | false => simp
      | true =>
          cases row.preimage with
          | some stored =>
              by_cases hsame : stored = canonical
              · simp [hsame]
              · simp [hsame]
          | none =>
              dsimp only
              generalize (findPreimage orders canonical).any (·.publicId ≠ row.publicId) = used
              cases used with
              | true => simp
              | false =>
                  cases hwindow : SecretService.assertInsideTimelockWindow row.srcTimelock
                      row.dstTimelock nowSec with
                  | ok _ =>
                      have hopen := window_open.mp hwindow
                      simp [hopen, editVerdict_not_stuck]
                  | error e =>
                      have hclosed : evaluateSecretWindow row.srcTimelock row.dstTimelock nowSec ≠
                          none := by
                        intro hopen
                        rw [window_open.mpr hopen] at hwindow
                        cases hwindow
                      simp [hclosed]

/-- A stored order has a row under its public id. -/
theorem findSettled_row {orders : List StoredOrder} {order : OrderRow}
    (h : findSettled orders ev = some order) :
    ∃ row, findId orders order.publicId = some row ∧ row.publicId = order.publicId := by
  have hmem {p : OrderRow → Bool} (hfind : findRow orders p = some order) :
      ∃ stored ∈ orders, stored.toOrderRow = order := by
    obtain ⟨stored, hstored, heq, _⟩ := findRow_mem hfind
    exact ⟨stored, hstored, heq⟩
  have hstored : ∃ stored ∈ orders, stored.toOrderRow = order := by
    rcases orElse_eq_some.mp h with hsrc | ⟨_, hdst⟩
    · exact hmem hsrc
    · exact hmem hdst
  obtain ⟨stored, hstored, rfl⟩ := hstored
  cases hfind : findId orders stored.publicId with
  | none => exact absurd rfl (findId_eq_none.mp hfind stored hstored)
  | some row => exact ⟨row, rfl, findId_publicId hfind⟩

theorem verdict_stuck (hfresh : db.seen (ChainEventProcessor.eventKey D networkId ev) = false) :
    (∃ e, verdict D nowSec db.orders ev = .stuck e) ↔ Wedges D nowSec networkId db ev := by
  unfold verdict Wedges
  cases hfind : findSettled db.orders ev with
  | none => simp
  | some order =>
      obtain ⟨row, hrow, hid⟩ := findSettled_row hfind
      unfold settleVerdict
      cases hkind : ev.kind with
      | refunded =>
          have hnot : ¬ ∃ e, (if order.status = .refunded then Verdict.skip
              else editVerdict db.orders (.status order.publicId .refunded)) = .stuck e := by
            rintro ⟨e, he⟩
            split at he
            · cases he
            · exact editVerdict_not_stuck he
          simp [hnot]
      | claimed =>
          cases hpreimage : truthy ev.preimage with
          | none => simp
          | some preimage =>
              dsimp only
              by_cases hrepeat :
                  order.secretRevealedTx = some ev.txHash ∧ truthy order.preimage ≠ none
              · rw [if_pos hrepeat]
                simp [hrepeat.1, hrepeat.2]
              · rw [if_neg hrepeat]
                unfold revealVerdict
                cases hformat : assertValidSecretFormat preimage "preimage" with
                | error e => simp [hformat]
                | ok _ =>
                    simp only [hrow]
                    rw [← hid, rowVerdict_stuck]
                    constructor
                    · intro hrefused
                      exact ⟨hfresh, trivial, order, preimage, row, rfl, rfl, hrepeat, hformat,
                        by rw [hid] at *; exact hrow, hrefused⟩
                    · rintro ⟨_, _, order', preimage', row', horder, hpreimage', _, _, hrow', hrefused⟩
                      cases horder
                      cases hpreimage'
                      rw [hrow] at hrow'
                      cases hrow'
                      exact hrefused

/-! ## Batches -/

/-- The database after an event has been processed. -/
def processRun (D : Deployment) (clock : ℕ → ℕ) (nowSec : ℤ) (networkId : String)
    (ev : SettlementEvent) (db : Database) : Database :=
  (run (exec (.calm clock)) (ChainEventProcessor.process D nowSec networkId ev) db).2

theorem Processed.cursors {r : Except CoordinatorError ProcessOutcome} {db' : Database}
    (h : Processed D nowSec networkId ev db r db') : db'.cursors = db.cursors := by
  cases h with
  | duplicate _ hkept => exact hkept.cursors
  | done _ _ _ hcursors _ => exact hcursors
  | stuck _ _ _ hkept => exact hkept.cursors

/-- An event is processed unless it wedges. -/
theorem Processed.ok_iff {r : Except CoordinatorError ProcessOutcome} {db' : Database}
    (h : Processed D nowSec networkId ev db r db') :
    (∃ outcome, r = .ok outcome) ↔ ¬ Wedges D nowSec networkId db ev := by
  cases h with
  | duplicate hseen _ =>
      refine ⟨fun _ hwedges => ?_, fun _ => ⟨_, rfl⟩⟩
      rw [hwedges.1] at hseen
      cases hseen
  | done hfresh hcarried _ _ _ =>
      refine ⟨fun _ hwedges => ?_, fun _ => ⟨_, rfl⟩⟩
      obtain ⟨e, hstuck⟩ := (verdict_stuck hfresh).mpr hwedges
      rw [hstuck] at hcarried
      cases hcarried
  | stuck hfresh hstuck _ _ =>
      refine ⟨fun hok => ?_, fun hnot => absurd ((verdict_stuck hfresh).mp ⟨_, hstuck⟩) hnot⟩
      obtain ⟨_, hok⟩ := hok
      cases hok

/-- No event wedges when its turn comes. -/
abbrev Unwedged (D : Deployment) (clock : ℕ → ℕ) (nowSec : ℤ) (networkId : String)
    (events : List SettlementEvent) (db : Database) : Prop :=
  AllOk (processRun D clock nowSec networkId) (fun db ev => ¬ Wedges D nowSec networkId db ev)
    events db

theorem processAll_unwedged (D : Deployment) (clock : ℕ → ℕ) (nowSec : ℤ) (networkId : String)
    (events : List SettlementEvent) (counts : BatchCounts) (db : Database) :
    (Unwedged D clock nowSec networkId events db ∧ ∃ counts',
      run (exec (.calm clock)) (ChainEventProcessor.processAll D nowSec networkId events counts) db =
        (.ok counts', runAll (processRun D clock nowSec networkId) events db)) ∨
    ¬ Unwedged D clock nowSec networkId events db ∧ ∃ e,
      (run (exec (.calm clock))
        (ChainEventProcessor.processAll D nowSec networkId events counts) db).1 = .error e := by
  induction events generalizing counts db with
  | nil => exact .inl ⟨trivial, counts, rfl⟩
  | cons ev events ih =>
      have hprocessed := process_processed (D := D) clock nowSec networkId ev db
      have hok := hprocessed.ok_iff
      rw [ChainEventProcessor.processAll, run_bind]
      cases hrun : run (exec (.calm clock)) (ChainEventProcessor.process D nowSec networkId ev) db with
      | mk r u =>
          rw [hrun] at hok
          have hu : processRun D clock nowSec networkId ev db = u := congrArg Prod.snd hrun
          cases r with
          | error e =>
              refine .inr ⟨fun hall => ?_, e, rfl⟩
              obtain ⟨_, h⟩ := hok.mpr hall.1
              cases h
          | ok outcome =>
              have hnot := hok.mp ⟨outcome, rfl⟩
              rcases ih (counts.count outcome) u with ⟨hall, hrest⟩ | ⟨hall, hrest⟩
              · refine .inl ⟨⟨hnot, by rwa [hu]⟩, ?_⟩
                rw [runAll, List.foldl_cons, hu]
                exact hrest
              · refine .inr ⟨fun h => hall ?_, hrest⟩
                have hlater := h.2
                rwa [hu] at hlater

theorem runAll_cursors (events : List SettlementEvent) (db : Database) :
    (runAll (processRun D clock nowSec networkId) events db).cursors = db.cursors := by
  induction events generalizing db with
  | nil => rfl
  | cons ev events ih =>
      rw [runAll, List.foldl_cons]
      exact (ih _).trans (process_processed clock nowSec networkId ev db).cursors

/-- The cursor has been moved to a position, unless it already stood at a later one. -/
def CursorAt (before after : Option ChainCursor) (networkId : String) (upTo : ℕ) : Prop :=
  ∃ saved, after = some saved ∧ saved.networkId = networkId ∧ upTo ≤ saved.position ∧
    (saved.position = upTo ∨ before = some saved)

/-- The cursor is saved for no other network. -/
def SameNetwork (saved : Option ChainCursor) (networkId : String) : Prop :=
  ∀ cursor, saved = some cursor → cursor.networkId = networkId

/-- The database after the cursor has been checked and saved. -/
def Database.advancedTo (db : Database) (chain : ChainName) (cursor : ChainCursor) : Database :=
  { db with
    cursors := fun name =>
      if name = chain then some (cursor.upsert (db.cursors chain)) else db.cursors name
    executed := db.executed + 2 }

theorem run_cursor_advance (clock : ℕ → ℕ) (chain : ChainName) (networkId : String) (upTo : ℕ)
    (cursor : Option String) (db : Database) :
    SameNetwork (db.cursors chain) networkId ∧
        run (exec (.calm clock)) (ChainEventProcessor.advance chain networkId upTo cursor) db =
          (.ok (), db.advancedTo chain ⟨networkId, upTo, cursor⟩) ∨
      ¬ SameNetwork (db.cursors chain) networkId ∧ ∃ stored,
        run (exec (.calm clock)) (ChainEventProcessor.advance chain networkId upTo cursor) db =
          (.error (.cursorMismatch chain stored networkId), db.tick) := by
  rw [ChainEventProcessor.advance, run_bind, ChainEventProcessor.resume, run_bind,
    run_getChainCursor]
  cases hsaved : db.cursors chain with
  | none =>
      refine .inl ⟨(nofun : SameNetwork none networkId), ?_⟩
      dsimp only
      rw [run_pure]
      exact run_saveChainCursor chain _ db.tick
  | some saved =>
      dsimp only
      by_cases hnetwork : saved.networkId = networkId
      · refine .inl ⟨fun _ h => Option.some.inj h ▸ hnetwork, ?_⟩
        rw [if_neg (not_not_intro hnetwork), run_pure]
        exact run_saveChainCursor chain _ db.tick
      · refine .inr ⟨fun h => hnetwork (h saved rfl), saved.networkId, ?_⟩
        rw [if_pos hnetwork]
        rfl

theorem upsert_cursorAt {saved : Option ChainCursor} {networkId : String} (upTo : ℕ)
    (cursor : Option String) (h : SameNetwork saved networkId) :
    CursorAt saved (some (ChainCursor.upsert saved ⟨networkId, upTo, cursor⟩)) networkId upTo := by
  cases saved with
  | none => exact ⟨_, rfl, rfl, le_refl _, .inl rfl⟩
  | some old =>
      have hnetwork := h old rfl
      by_cases hlater : old.position ≤ upTo
      · refine ⟨_, rfl, ?_⟩
        simp [ChainCursor.upsert, hnetwork, hlater]
      · refine ⟨_, rfl, ?_⟩
        simp only [ChainCursor.upsert, hnetwork, hlater, and_false, if_false]
        exact ⟨trivial, by omega, .inr trivial⟩

variable (D clock nowSec networkId db)

/-- While no statement fails, a batch is processed to its end and moves the cursor if and only if
the cursor is not that of another network and no event wedges. -/
theorem batch_completes_iff (chain : ChainName) (events : List SettlementEvent) (upTo : ℕ)
    (cursor : Option String) :
    let outcome := run (exec (.calm clock))
      (ChainEventProcessor.processBatch D nowSec networkId chain events upTo cursor) db
    ((∃ counts, outcome.1 = .ok counts) ∧
        CursorAt (db.cursors chain) (outcome.2.cursors chain) networkId upTo) ↔
      SameNetwork (db.cursors chain) networkId ∧
        Unwedged D clock nowSec networkId (events.insertionSort ChainEventProcessor.NotAfter) db := by
  dsimp only
  rw [ChainEventProcessor.processBatch, run_bind]
  rcases processAll_unwedged D clock nowSec networkId
    (events.insertionSort ChainEventProcessor.NotAfter) ⟨0, 0, 0⟩ db with
    ⟨hall, counts, hrun⟩ | ⟨hnot, e, hrun⟩
  · rw [hrun]
    dsimp only
    rw [run_bind]
    rcases run_cursor_advance clock chain networkId upTo cursor
      (runAll (processRun D clock nowSec networkId)
        (events.insertionSort ChainEventProcessor.NotAfter) db) with
      ⟨hsame, hadvance⟩ | ⟨hother, stored, hadvance⟩
    · rw [runAll_cursors] at hsame
      rw [hadvance]
      refine ⟨fun _ => ⟨hsame, hall⟩, fun _ => ⟨⟨counts, rfl⟩, ?_⟩⟩
      have hcursor := upsert_cursorAt upTo cursor hsame
      simpa [Database.advancedTo, runAll_cursors] using hcursor
    · rw [runAll_cursors] at hother
      rw [hadvance]
      refine ⟨fun h => ?_, fun h => absurd h.1 hother⟩
      obtain ⟨⟨_, hok⟩, _⟩ := h
      cases hok
  · refine ⟨fun h => ?_, fun h => absurd h.2 hnot⟩
    obtain ⟨⟨_, hok⟩, _⟩ := h
    split at hok
    · rename_i hrun'
      rw [hrun'] at hrun
      cases hrun
    · cases hok

/-! ## A late claim of order 7 -/

/-- A claim of a stored order carries the preimage of its hashlock. -/
def Genuine (D : Deployment) (orders : List StoredOrder) (ev : SettlementEvent) : Prop :=
  ∀ order ∈ findSettled orders ev, ev.kind = .claimed →
    (ev.preimage.any fun preimage => Known D order preimage) = true

instance (D : Deployment) (orders : List StoredOrder) (ev : SettlementEvent) :
    Decidable (Genuine D orders ev) :=
  inferInstanceAs (Decidable (∀ order ∈ findSettled orders ev, _ → _))

def lockedDb7 : Database := runAll (Inbound.run deployment7 calm7) locked7 .empty

def claimed7 : SettlementEvent :=
  EthereumListener.toSettlement .claimed ⟨7, some preimage7, "0xbb", 3, 101⟩

/-- A genuine claim that is processed after the source timelock stops every batch. -/
theorem late_claim_wedges :
    ¬ ∀ (D : Deployment) (clock : ℕ → ℕ) (nowSec : ℤ) (networkId : String) (db : Database)
        (chain : ChainName) (events : List SettlementEvent) (upTo : ℕ) (cursor : Option String),
      SameNetwork (db.cursors chain) networkId → (∀ ev ∈ events, Genuine D db.orders ev) →
      (∃ counts, (run (exec (.calm clock))
        (ChainEventProcessor.processBatch D nowSec networkId chain events upTo cursor) db).1 =
          .ok counts) := by
  intro h
  obtain ⟨counts, hrun⟩ := h deployment7 (fun _ => 1700000000) 1700010001 "11155111" lockedDb7
    .ethereum [claimed7] 120 none (fun _ hsaved => by cases hsaved) (by decide)
  have hexpired : (run (exec (.calm fun _ => 1700000000))
      (ChainEventProcessor.processBatch deployment7 1700010001 "11155111" .ethereum [claimed7] 120
        none) lockedDb7).1 = .error (.secretExpired "the source timelock window has expired") := by
    decide
  rw [hexpired] at hrun
  cases hrun

end OverSync.Coordinator
