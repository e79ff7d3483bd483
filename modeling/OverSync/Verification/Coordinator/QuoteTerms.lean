import OverSync.Library.Execution
import OverSync.Verification.Coordinator.QuoteErrors

/-! # The terms of a quote

The gate binds the terms of an announcement to its quote before the amount, the hashlock and the
database have been asked, and binds them again for every later announcement. -/

namespace OverSync.Coordinator

open Library Library.Procedure OrderService

variable {D : Deployment} {cond : Conditions} {db : Database} {readings : GateReadings}
  {input : AnnounceInput} {quotes : QuoteService} {quoteId publicId : String} {quote : PriceQuote}

/-! ## Accepted announcements -/

theorem run_query_fails (db : Database) {stmt : Statement} (h : cond.fails db.executed = true) :
    run (exec cond) (query stmt) db = (.error .database, db.tick) := by
  rw [query, run_statement, exec, if_pos h]

theorem run_query_answers (db : Database) {stmt : Statement} {r : stmt.Response} {db' : Database}
    (h : cond.fails db.executed = false)
    (hperform : perform (cond.clock db.executed) stmt db = (some r, db')) :
    run (exec cond) (query stmt) db = (.ok r, db'.tick) := by
  rw [query, run_statement, exec, if_neg (by rw [h]; decide), hperform]

theorem run_query_violates (db : Database) {stmt : Statement} {db' : Database}
    (h : cond.fails db.executed = false)
    (hperform : perform (cond.clock db.executed) stmt db = (none, db')) :
    run (exec cond) (query stmt) db = (.error .database, db'.tick) := by
  rw [query, run_statement, exec, if_neg (by rw [h]; decide), hperform]

/-- The order is stored and returned: its id is new and none of the three statements fails. -/
theorem repo_announce_ok_iff (input : AnnounceOrderInput) :
    (∃ order, (run (exec cond) (OrdersRepository.announce publicId input) db).1 = .ok order) ↔
      db.byPublicId publicId = none ∧ ∀ k < 3, cond.fails (db.executed + k) = false := by
  have hthree : (∀ k < 3, cond.fails (db.executed + k) = false) ↔
      cond.fails db.executed = false ∧ cond.fails (db.executed + 1) = false ∧
        cond.fails (db.executed + 2) = false := by
    constructor
    · exact fun h => ⟨h 0 (by decide), h 1 (by decide), h 2 (by decide)⟩
    · rintro ⟨hzero, hone, htwo⟩ k hk
      match k, hk with
      | 0, _ => exact hzero
      | 1, _ => exact hone
      | 2, _ => exact htwo
  rw [hthree, OrdersRepository.announce, run_bind]
  cases hfirst : cond.fails db.executed with
  | true => simp [run_query_fails db hfirst]
  | false =>
      cases hid : db.byPublicId publicId with
      | some order =>
          have hperform : perform (cond.clock db.executed) (.insertOrder publicId input) db =
              (none, db) := by
            simp [perform, hid]
          simp [run_query_violates db hfirst hperform]
      | none =>
          let row := (input.row (db.lastOrderId + 1) publicId).stored (cond.clock db.executed)
          let db' : Database :=
            { db with orders := db.orders ++ [row], lastOrderId := db.lastOrderId + 1 }
          have hinsert : perform (cond.clock db.executed) (.insertOrder publicId input) db =
              (some (), db') := by
            simp only [perform, hid, Option.isSome_none, Bool.false_eq_true, if_false]
            rfl
          have hread : perform (cond.clock db'.tick.executed) (.byPublicId publicId) db'.tick =
              (some (some row.toOrderRow), db'.tick) := by
            have hfound : findId (db.orders ++ [row]) publicId = some row.toOrderRow :=
              findId_append rfl hid
            exact congrArg (fun found => (some found, db'.tick)) hfound
          rw [run_query_answers db hfirst hinsert]
          dsimp only
          rw [run_bind, OrdersRepository.findByPublicId]
          cases hsecond : cond.fails (db.executed + 1) with
          | true => simp [run_query_fails db'.tick hsecond]
          | false =>
              rw [run_query_answers db'.tick hsecond hread]
              dsimp only
              rw [run_bind, OrdersRepository.recordTransition]
              cases hthird : cond.fails (db.executed + 2) with
              | true => simp [run_query_fails db'.tick.tick hthird]
              | false =>
                  rw [run_query_answers db'.tick.tick hthird rfl]
                  simp

/-- The database takes the order: the hashlock and the id are new, and none of the four statements
fails. -/
structure Takes (D : Deployment) (cond : Conditions) (publicId : String)
    (input : AnnounceOrderInput) (db : Database) : Prop where
  hashlock : db.byHashlock (D.toLowerCase input.hashlock) = none
  publicId : db.byPublicId publicId = none
  statements : ∀ k < 4, cond.fails (db.executed + k) = false

theorem announce_ok_iff (D : Deployment) (cond : Conditions) (gate : Except CoordinatorError Unit)
    (publicId : String) (db : Database) {input : AnnounceOrderInput}
    (hvalid : validateAnnouncement input = .ok ()) :
    (∃ order, (run (exec cond) (announce D gate publicId input) db).1 = .ok order) ↔
      gate = .ok () ∧ Takes D cond publicId input db := by
  cases gate with
  | error e =>
      have hrun : run (exec cond) (announce D (.error e) publicId input) db = (.error e, db) := by
        simp [announce, hvalid, Task.ofExcept]
      simp [hrun]
  | ok _ =>
      have hlookup : perform (cond.clock db.executed)
          (.byHashlock (D.toLowerCase input.hashlock)) db =
          (some (db.byHashlock (D.toLowerCase input.hashlock)), db) := rfl
      obtain ⟨next, hstart, htaken, hfree⟩ : ∃ next : Option OrderRow → Task OrderRow,
          run (exec cond) (announce D (.ok ()) publicId input) db = run (exec cond)
            (OrdersRepository.findByHashlock (D.toLowerCase input.hashlock) >>= next) db ∧
          (∀ existing, ∃ e, next (some existing) = throw e) ∧
          next none = OrdersRepository.announce publicId
            { input with hashlock := D.toLowerCase input.hashlock } := by
        simp only [announce, hvalid, Task.ofExcept]
        exact ⟨_, rfl, fun _ => ⟨_, rfl⟩, rfl⟩
      rw [hstart, run_bind, OrdersRepository.findByHashlock, and_iff_right rfl]
      cases hfirst : cond.fails db.executed with
      | true =>
          rw [run_query_fails db hfirst]
          refine iff_of_false (by simp) fun htakes => ?_
          have hzero := htakes.statements 0 (by omega)
          rw [Nat.add_zero, hfirst] at hzero
          cases hzero
      | false =>
          rw [run_query_answers db hfirst hlookup]
          cases hhash : db.byHashlock (D.toLowerCase input.hashlock) with
          | some existing =>
              obtain ⟨e, hthrow⟩ := htaken existing
              refine iff_of_false (by simp [hthrow]) fun htakes => ?_
              have hnone := htakes.hashlock
              rw [hhash] at hnone
              cases hnone
          | none =>
              dsimp only
              rw [hfree, repo_announce_ok_iff]
              constructor
              · rintro ⟨hid, hthree⟩
                refine ⟨hhash, hid, fun k hk => ?_⟩
                cases k with
                | zero => exact hfirst
                | succ k =>
                    have hnext := hthree k (by omega)
                    rwa [Database.tick, Nat.add_assoc, Nat.add_comm 1 k] at hnext
              · intro htakes
                refine ⟨htakes.publicId, fun k hk => ?_⟩
                have hnext := htakes.statements (k + 1) (by omega)
                rwa [Database.tick, Nat.add_assoc, Nat.add_comm 1 k]

/-! ## Runs -/

/-- The quotes and the orders, with the terms of the accepted announcements that named a quote,
oldest first. -/
structure Desk where
  service : Option QuoteService
  db : Database
  accepted : List (String × OrderTerms)

/-- The arguments of `quoteEthXlm` and of `announce`. -/
inductive QuoteCall where
  | issue (amountBaseUnits : Option String) (opts : PartialTerms) (checkedAt issuedAt : ℤ)
      (fetched : Option Prices) (quoteId : String)
  | announce (readings : GateReadings) (publicId : String) (input : AnnounceInput)

def acceptedTerms (input : AnnounceInput) :
    Except CoordinatorError OrderRow → List (String × OrderTerms)
  | .ok _ => input.namedQuote.toList.map fun quoteId => (quoteId, input.orderTerms)
  | .error _ => []

def QuoteCall.run (D : Deployment) (cond : Conditions) : QuoteCall → Desk → Desk
  | issue amountBaseUnits opts checkedAt issuedAt fetched quoteId, desk =>
    { desk with
      service := desk.service.map fun quotes =>
        (quotes.quoteEthXlm amountBaseUnits opts checkedAt issuedAt fetched quoteId).2 }
  | announce readings publicId input, desk =>
    let outcome := announceQuoted D cond readings publicId input desk.service desk.db
    { service := outcome.service
      db := outcome.db
      accepted := desk.accepted ++ acceptedTerms input outcome.result }

/-- The terms of the first accepted announcement that named the quote. -/
def Desk.firstTerms (desk : Desk) (quoteId : String) : Option OrderTerms :=
  (desk.accepted.find? fun entry => entry.1 = quoteId).map (·.2)

/-- The terms of each quote are those of the first order accepted with it. -/
def TermsAccepted (desk : Desk) : Prop :=
  ∀ quotes, desk.service = some quotes → ∀ quoteId quote, quotes.getById quoteId = some quote →
    quote.terms = desk.firstTerms quoteId

/-- A quote id is drawn that belongs to no quote with terms; an announcement that binds its terms
finds them bound already, or finds none bound and is accepted. -/
def BindsOnce (D : Deployment) (cond : Conditions) (desk : Desk) : QuoteCall → Prop
  | .issue amountBaseUnits _ _ _ _ quoteId =>
    (∀ value ∈ amountBaseUnits, isBaseUnitInteger value) →
    ∀ quotes quote, desk.service = some quotes → quotes.getById quoteId = some quote →
      quote.terms = none
  | .announce readings publicId input =>
    validateAnnouncement input.toAnnounceOrderInput = .ok () →
    ∀ quotes quoteId quote, desk.service = some quotes →
      Fits readings input quotes quoteId quote →
      quote.terms = some input.orderTerms ∨ quote.terms = none ∧
        AmountAccepted readings input quote ∧
        Takes D cond publicId input.toAnnounceOrderInput desk.db

/-- What an announcement does to the quotes and to the accepted terms. -/
inductive DeskEffect (D : Deployment) (cond : Conditions) (readings : GateReadings)
    (publicId : String) (input : AnnounceInput) (desk desk' : Desk) : Prop where
  | unwired : desk.service = none → desk'.service = none →
      DeskEffect D cond readings publicId input desk desk'
  | unbound : (validateAnnouncement input.toAnnounceOrderInput = .ok () →
        ∀ quotes quoteId quote, desk.service = some quotes →
          ¬ Fits readings input quotes quoteId quote) →
      desk'.service = desk.service → desk'.accepted = desk.accepted →
      DeskEffect D cond readings publicId input desk desk'
  | bound {quotes : QuoteService} {quoteId : String} {quote : PriceQuote}
      (accepted : List (String × OrderTerms)) :
      validateAnnouncement input.toAnnounceOrderInput = .ok () → desk.service = some quotes →
      Fits readings input quotes quoteId quote →
      desk'.service = some (quotes.set { quote with terms := some input.orderTerms }) →
      desk'.accepted = desk.accepted ++ accepted →
      (accepted = [(quoteId, input.orderTerms)] ∧ AmountAccepted readings input quote ∧
          Takes D cond publicId input.toAnnounceOrderInput desk.db) ∨
        (accepted = [] ∧ ¬ (AmountAccepted readings input quote ∧
          Takes D cond publicId input.toAnnounceOrderInput desk.db)) →
      DeskEffect D cond readings publicId input desk desk'

theorem acceptedTerms_error {result : Except CoordinatorError OrderRow}
    (h : ¬ ∃ order, result = .ok order) : acceptedTerms input result = [] := by
  cases result with
  | error e => rfl
  | ok order => exact absurd ⟨order, rfl⟩ h

theorem announce_deskEffect (D : Deployment) (cond : Conditions) (readings : GateReadings)
    (publicId : String) (input : AnnounceInput) (desk : Desk) :
    DeskEffect D cond readings publicId input desk
      ((QuoteCall.announce readings publicId input).run D cond desk) := by
  cases hvalid : validateAnnouncement input.toAnnounceOrderInput with
  | error e =>
      have houtcome : announceQuoted D cond readings publicId input desk.service desk.db =
          ⟨.error e, desk.service, desk.db⟩ := by
        simp only [announceQuoted, hvalid]
      refine .unbound ?_ ?_ ?_
      · intro hvalid'
        rw [hvalid] at hvalid'
        cases hvalid'
      · simp only [QuoteCall.run, houtcome]
      · simp only [QuoteCall.run, houtcome, acceptedTerms, List.append_nil]
  | ok _ =>
      have houtcome :=
        announceQuoted_of_valid D cond readings publicId desk.service desk.db hvalid
      cases hservice : desk.service with
      | none =>
          rw [hservice, quoteGate_unwired] at houtcome
          refine .unwired hservice ?_
          simp only [QuoteCall.run, hservice, houtcome]
      | some quotes =>
          rw [hservice] at houtcome
          obtain ⟨quotes', hquotes', hgated⟩ := quoteGate_gated readings input quotes
          rw [hquotes'] at houtcome
          generalize hresult : (quoteGate readings input (some quotes)).1 = result at hgated houtcome
          have hok := announce_ok_iff D cond result publicId desk.db hvalid
          cases hgated with
          | unnamed hnamed =>
              refine .unbound ?_ ?_ ?_
              · intro _ _ quoteId quote _ hfits
                have hsome := hfits.named
                rw [hnamed] at hsome
                cases hsome
              · simp only [QuoteCall.run, hservice, houtcome]
              · simp only [QuoteCall.run, hservice, houtcome]
                cases (run (exec cond) (announce D (.ok ()) publicId
                  input.toAnnounceOrderInput) desk.db).1 <;> simp [acceptedTerms, hnamed]
          | refused message code _ hnone =>
              refine .unbound ?_ ?_ ?_
              · intro _ quotes' quoteId quote hquotes hfits
                rw [hservice] at hquotes
                obtain rfl := Option.some.inj hquotes
                exact hnone quoteId quote hfits
              · simp only [QuoteCall.run, hservice, houtcome]
              · simp only [QuoteCall.run, hservice, houtcome]
                rw [acceptedTerms_error (by simp [hok]), List.append_nil]
          | bound hfits hchecked =>
              refine .bound _ hvalid hservice hfits ?_ rfl ?_
              · simp only [QuoteCall.run, hservice, houtcome]
              · simp only [hservice, houtcome]
                rw [hchecked.ok_iff] at hok
                by_cases hreturns : ∃ order, (run (exec cond) (announce D result publicId
                    input.toAnnounceOrderInput) desk.db).1 = .ok order
                · obtain ⟨order, horder⟩ := hreturns
                  refine .inl ⟨?_, hok.mp ⟨order, horder⟩⟩
                  rw [horder, acceptedTerms, hfits.named]
                  rfl
                · exact .inr ⟨acceptedTerms_error hreturns, fun h => hreturns (hok.mpr h)⟩

/-- A quote issued under an id, without terms, or a refusal of the amount. -/
theorem quoteEthXlm_cases (quotes : QuoteService) (amountBaseUnits : Option String)
    (opts : PartialTerms) (checkedAt issuedAt : ℤ) (fetched : Option Prices) (quoteId : String) :
    ((∀ value ∈ amountBaseUnits, isBaseUnitInteger value) ∧ ∃ quote : PriceQuote,
        quote.quoteId = quoteId ∧ quote.terms = none ∧ ∀ otherId,
          (quotes.quoteEthXlm amountBaseUnits opts checkedAt issuedAt fetched quoteId).2.getById
            otherId = (quotes.set quote).getById otherId) ∨
      ((¬ ∀ value ∈ amountBaseUnits, isBaseUnitInteger value) ∧
        (quotes.quoteEthXlm amountBaseUnits opts checkedAt issuedAt fetched quoteId).2 = quotes) := by
  unfold QuoteService.quoteEthXlm
  cases hamount : amountBaseUnits.mapM parseBaseUnitInteger with
  | error e =>
      refine .inr ⟨fun hvalues => ?_, rfl⟩
      cases amountBaseUnits with
      | none => cases hamount
      | some value =>
          have hparse : parseBaseUnitInteger value = .error e := by
            cases hvalue : parseBaseUnitInteger value with
            | error e' => simp_all [Option.mapM_some, Functor.map, Except.map]
            | ok read => simp_all [Option.mapM_some, Functor.map, Except.map]
          have hunread := (parseBaseUnitInteger_error.mp hparse).1
          rw [hvalues value rfl] at hunread
          cases hunread
  | ok amount =>
      refine .inl ⟨?_, ?_⟩
      · intro value hvalue
        cases hread : isBaseUnitInteger value with
        | true => rfl
        | false =>
            have hparse := parseBaseUnitInteger_error.mpr ⟨hread, rfl⟩
            rw [Option.mem_def.mp hvalue] at hamount
            simp [Option.mapM_some, hparse, Functor.map, Except.map] at hamount
      · dsimp only
        split
        · exact ⟨_, rfl, rfl, fun _ => rfl⟩
        · exact ⟨_, rfl, rfl, fun _ => rfl⟩

theorem firstTerms_append {desk desk' : Desk} {entries : List (String × OrderTerms)}
    (h : desk'.accepted = desk.accepted ++ entries) (quoteId : String) :
    desk'.firstTerms quoteId = (desk.firstTerms quoteId).or
      ((entries.find? fun entry => entry.1 = quoteId).map (·.2)) := by
  rw [Desk.firstTerms, h, List.find?_append, Option.map_or]
  rfl

/-- The quotes with which orders were accepted are there. -/
def AcceptedKnown (desk : Desk) : Prop :=
  ∀ quotes, desk.service = some quotes → ∀ quoteId, (desk.firstTerms quoteId).isSome →
    (quotes.getById quoteId).isSome

/-- The terms are the accepted ones, and every accepted quote is there. -/
structure Orderly (desk : Desk) : Prop where
  terms : TermsAccepted desk
  known : AcceptedKnown desk

theorem orderly_unwired {desk : Desk} (h : desk.service = none) : Orderly desk := by
  refine ⟨?_, ?_⟩
  · intro quotes hquotes
    rw [h] at hquotes
    cases hquotes
  · intro quotes hquotes
    rw [h] at hquotes
    cases hquotes

theorem bindsOnce_unwired {desk : Desk} (h : desk.service = none) (call : QuoteCall) :
    BindsOnce D cond desk call := by
  cases call with
  | issue =>
      intro _ quotes _ hquotes
      rw [h] at hquotes
      cases hquotes
  | announce =>
      intro _ quotes _ _ hquotes
      rw [h] at hquotes
      cases hquotes

theorem Orderly.same {desk desk' : Desk} (h : Orderly desk) (hservice : desk'.service = desk.service)
    (hfirst : ∀ quoteId, desk'.firstTerms quoteId = desk.firstTerms quoteId) : Orderly desk' := by
  refine ⟨?_, ?_⟩
  · intro quotes hquotes quoteId quote hquote
    rw [hservice] at hquotes
    rw [hfirst]
    exact h.terms quotes hquotes quoteId quote hquote
  · intro quotes hquotes quoteId hsome
    rw [hservice] at hquotes
    rw [hfirst] at hsome
    exact h.known quotes hquotes quoteId hsome

/-- No order was accepted with an id iff the quote under it, if there is one, has no terms. -/
theorem Orderly.firstTerms_none_iff {desk : Desk} (h : Orderly desk)
    (hservice : desk.service = some quotes) (quoteId : String) :
    desk.firstTerms quoteId = none ↔
      ∀ quote, quotes.getById quoteId = some quote → quote.terms = none := by
  constructor
  · intro hfirst quote hfound
    rw [h.terms quotes hservice quoteId quote hfound]
    exact hfirst
  · intro hunbound
    cases hfound : quotes.getById quoteId with
    | some quote =>
        rw [← h.terms quotes hservice quoteId quote hfound]
        exact hunbound quote hfound
    | none =>
        by_contra hfirst
        have hknown := h.known quotes hservice quoteId (Option.isSome_iff_ne_none.mpr hfirst)
        rw [hfound] at hknown
        cases hknown

theorem termsAccepted_iff {desk : Desk} (h : desk.service = some quotes) :
    TermsAccepted desk ↔ ∀ quoteId quote, quotes.getById quoteId = some quote →
      quote.terms = desk.firstTerms quoteId := by
  refine ⟨fun hterms => hterms quotes h, ?_⟩
  intro hterms quotes' h'
  rw [h] at h'
  obtain rfl := Option.some.inj h'
  exact hterms

/-- Replacing or adding one quote keeps the terms accepted iff it carries those of its id. -/
theorem termsAccepted_set {desk desk' : Desk} (h : Orderly desk) (hservice : desk.service = some quotes)
    {quotes' : QuoteService} (hservice' : desk'.service = some quotes')
    (hset : ∀ otherId, quotes'.getById otherId = (quotes.set quote).getById otherId)
    (hfirst : ∀ otherId, quote.quoteId ≠ otherId →
      desk'.firstTerms otherId = desk.firstTerms otherId) :
    TermsAccepted desk' ↔ quote.terms = desk'.firstTerms quote.quoteId := by
  rw [termsAccepted_iff hservice']
  constructor
  · intro hterms
    refine hterms quote.quoteId quote ?_
    rw [hset, getById_set, if_pos rfl]
  · intro hterms quoteId other hother
    rw [hset, getById_set] at hother
    split at hother
    · rename_i hid
      obtain rfl := Option.some.inj hother
      rw [← hid]
      exact hterms
    · rename_i hid
      rw [hfirst quoteId hid]
      exact h.terms quotes hservice quoteId other hother

theorem known_set {desk desk' : Desk} (h : Orderly desk) (hservice : desk.service = some quotes)
    {quotes' : QuoteService} (hservice' : desk'.service = some quotes')
    (hset : ∀ otherId, quotes'.getById otherId = (quotes.set quote).getById otherId)
    (hfirst : ∀ otherId, quote.quoteId ≠ otherId →
      desk'.firstTerms otherId = desk.firstTerms otherId) : AcceptedKnown desk' := by
  intro quotes'' hquotes'' quoteId hsome
  rw [hservice'] at hquotes''
  obtain rfl := Option.some.inj hquotes''
  rw [hset, getById_set]
  split
  · rfl
  · rename_i hid
    rw [hfirst quoteId hid] at hsome
    exact h.known quotes hservice quoteId hsome

/-- A call keeps the terms accepted iff it binds once, and the quotes of accepted orders there. -/
structure Keeps (D : Deployment) (cond : Conditions) (desk : Desk) (call : QuoteCall) : Prop where
  terms : TermsAccepted (call.run D cond desk) ↔ BindsOnce D cond desk call
  known : AcceptedKnown (call.run D cond desk)

theorem keeps_of_orderly {desk : Desk} {call : QuoteCall} (h : Orderly (call.run D cond desk))
    (hbinds : BindsOnce D cond desk call) : Keeps D cond desk call :=
  ⟨iff_of_true h.terms hbinds, h.known⟩

theorem issue_keeps {desk : Desk} (h : Orderly desk) (amountBaseUnits : Option String)
    (opts : PartialTerms) (checkedAt issuedAt : ℤ) (fetched : Option Prices) (quoteId : String) :
    Keeps D cond desk (.issue amountBaseUnits opts checkedAt issuedAt fetched quoteId) := by
  cases hservice : desk.service with
  | none =>
      refine keeps_of_orderly (orderly_unwired ?_) (bindsOnce_unwired hservice _)
      rw [QuoteCall.run, hservice, Option.map_none]
  | some quotes =>
      have hservice' : ((QuoteCall.issue amountBaseUnits opts checkedAt issuedAt fetched
          quoteId).run D cond desk).service = some (quotes.quoteEthXlm amountBaseUnits opts
            checkedAt issuedAt fetched quoteId).2 := by
        rw [QuoteCall.run, hservice, Option.map_some]
      rcases quoteEthXlm_cases quotes amountBaseUnits opts checkedAt issuedAt fetched quoteId with
        ⟨hread, quote, rfl, hnone, hset⟩ | ⟨hunread, hsame⟩
      · refine ⟨?_, known_set h hservice hservice' hset fun _ _ => rfl⟩
        have hfirst := h.firstTerms_none_iff hservice quote.quoteId
        rw [termsAccepted_set h hservice hservice' hset fun _ _ => rfl, hnone, eq_comm]
        refine hfirst.trans ⟨fun hunbound _ quotes' found hquotes' hfound => ?_, fun hbinds =>
          fun found => hbinds hread quotes found hservice⟩
        rw [hservice] at hquotes'
        obtain rfl := Option.some.inj hquotes'
        exact hunbound found hfound
      · rw [hsame, ← hservice] at hservice'
        exact keeps_of_orderly (h.same hservice' fun _ => rfl) fun hread => absurd hread hunread

/-- The announcement binds its terms to `quote`; `accepted` is what it adds to the accepted
terms. -/
theorem bound_keeps {desk : Desk} (h : Orderly desk) {accepted : List (String × OrderTerms)}
    (hvalid : validateAnnouncement input.toAnnounceOrderInput = .ok ())
    (hservice : desk.service = some quotes) (hfits : Fits readings input quotes quoteId quote)
    (hservice' : ((QuoteCall.announce readings publicId input).run D cond desk).service =
      some (quotes.set { quote with terms := some input.orderTerms }))
    (haccepted : ((QuoteCall.announce readings publicId input).run D cond desk).accepted =
      desk.accepted ++ accepted)
    (hcases : (accepted = [(quoteId, input.orderTerms)] ∧ AmountAccepted readings input quote ∧
          Takes D cond publicId input.toAnnounceOrderInput desk.db) ∨
        (accepted = [] ∧ ¬ (AmountAccepted readings input quote ∧
          Takes D cond publicId input.toAnnounceOrderInput desk.db))) :
    Keeps D cond desk (.announce readings publicId input) := by
  have hid := getById_quoteId hfits.found
  have hfirst := firstTerms_append haccepted
  have hother : ∀ otherId, quote.quoteId ≠ otherId →
      ((QuoteCall.announce readings publicId input).run D cond desk).firstTerms otherId =
        desk.firstTerms otherId := by
    intro otherId hne
    rw [hfirst]
    rw [hid] at hne
    rcases hcases with ⟨rfl, -⟩ | ⟨rfl, -⟩
    · simp [hne]
    · simp
  have hbinds : BindsOnce D cond desk (.announce readings publicId input) ↔
      quote.terms = some input.orderTerms ∨ quote.terms = none ∧
        AmountAccepted readings input quote ∧
        Takes D cond publicId input.toAnnounceOrderInput desk.db := by
    refine ⟨fun hbinds => hbinds hvalid quotes quoteId quote hservice hfits, ?_⟩
    intro hterms _ quotes' quoteId' quote' hquotes' hfits'
    rw [hservice] at hquotes'
    obtain rfl := Option.some.inj hquotes'
    obtain rfl := hfits.unique hfits'
    exact hterms
  refine ⟨?_, known_set h hservice hservice' (fun _ => rfl) hother⟩
  rw [termsAccepted_set h hservice hservice' (fun _ => rfl) hother, hfirst, hbinds]
  dsimp only
  rw [hid, ← h.terms quotes hservice quoteId quote hfits.found]
  -- the first order accepted with the quote is this one, if it is accepted and none was before
  rcases hcases with ⟨rfl, hgoes⟩ | ⟨rfl, hstays⟩
  · cases hterms : quote.terms <;> simp [hgoes.1, hgoes.2, eq_comm]
  · cases hterms : quote.terms with
    | none =>
        refine iff_of_false (by simp) ?_
        rintro (hsome | ⟨-, hgoes⟩)
        · cases hsome
        · exact hstays hgoes
    | some terms => simp [eq_comm]

theorem announce_keeps {desk : Desk} (h : Orderly desk) (readings : GateReadings)
    (publicId : String) (input : AnnounceInput) :
    Keeps D cond desk (.announce readings publicId input) := by
  cases announce_deskEffect D cond readings publicId input desk with
  | unwired hservice hservice' =>
      exact keeps_of_orderly (orderly_unwired hservice') (bindsOnce_unwired hservice _)
  | unbound hnone hservice' haccepted =>
      have hfirst := firstTerms_append (haccepted.trans (List.append_nil _).symm)
      simp only [List.find?_nil, Option.map_none, Option.or_none] at hfirst
      refine keeps_of_orderly (h.same hservice' hfirst) ?_
      intro hvalid quotes quoteId quote hquotes hfits
      exact absurd hfits (hnone hvalid quotes quoteId quote hquotes)
  | bound accepted hvalid hservice hfits hservice' haccepted hcases =>
      exact bound_keeps h hvalid hservice hfits hservice' haccepted hcases

theorem call_keeps {desk : Desk} (h : Orderly desk) (call : QuoteCall) :
    Keeps D cond desk call := by
  cases call with
  | issue amountBaseUnits opts checkedAt issuedAt fetched quoteId =>
      exact issue_keeps h amountBaseUnits opts checkedAt issuedAt fetched quoteId
  | announce readings publicId input => exact announce_keeps h readings publicId input

/-- In every state of a run the terms of each quote are those of the first order accepted with it,
iff every announcement that binds its terms finds them bound already, or finds none bound and is
accepted. -/
theorem terms_of_first_order_iff (D : Deployment) (cond : Conditions) (db : Database)
    (calls : List QuoteCall) :
    (∀ front, front <+: calls →
      TermsAccepted (runAll (QuoteCall.run D cond) front ⟨some .empty, db, []⟩)) ↔
      AllOk (QuoteCall.run D cond) (BindsOnce D cond) calls ⟨some .empty, db, []⟩ := by
  have hstart : Orderly ⟨some .empty, db, []⟩ := by
    refine ⟨?_, ?_⟩
    · rintro quotes hquotes quoteId quote hquote
      obtain rfl := Option.some.inj hquotes
      cases hquote
    · intro _ _ quoteId hsome
      cases hsome
  refine forall_front_iff_allOk Orderly (fun desk call h => (call_keeps h call).terms) ?_ calls _
    hstart hstart.terms
  intro desk call h hbinds
  exact ⟨(call_keeps h call).terms.mpr hbinds, (call_keeps h call).known⟩

/-- An announcement of 2000 under a quote for 1000 is refused, and its terms are bound. -/
theorem refused_terms_bound :
    let desk := runAll (QuoteCall.run deployment7 calm7)
      [.issue (some "1000") .none 0 0 none "q1", .announce readings7 "a1" (quotedInput7 "2000")]
      ⟨some .empty, .empty, []⟩
    desk.accepted = [] ∧
      (desk.service.bind fun quotes => quotes.getById "q1").bind (·.terms) =
        some ⟨"native", "native", "2000", .ethereum, .stellar⟩ := by
  decide

end OverSync.Coordinator
