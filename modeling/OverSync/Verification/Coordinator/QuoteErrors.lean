import OverSync.Verification.Coordinator.Equations
import OverSync.Verification.Coordinator.Preimages
import OverSync.Verification.Coordinator.QuoteGate

/-! # The errors of an announcement

The schema takes amounts with leading zeros, the quote service does not, and its parse error is
not among those that an announcement reports as a bad request. -/

namespace OverSync.Coordinator

open Library Library.Procedure OrderService

variable {D : Deployment} {clock : ℕ → ℕ} {db : Database} {readings : GateReadings}
  {input : AnnounceInput} {service : Option QuoteService} {publicId : String}

/-- The announcement returns the order it has stored. -/
def ReturnsStored (outcome : AnnounceOutcome) : Prop :=
  ∃ stored ∈ outcome.db.orders, outcome.result = .ok stored.toOrderRow

/-- The announcement throws an `OrderValidationError`. -/
def ThrowsValidation (outcome : AnnounceOutcome) : Prop :=
  ∃ message code, outcome.result = .error (.validation message code)

/-- The announcement names a quote that fits it and that was issued for an amount, and its own
amount has a leading zero. -/
def AmountMisread (readings : GateReadings) (input : AnnounceInput)
    (service : Option QuoteService) : Prop :=
  validateAnnouncement input.toAnnounceOrderInput = .ok () ∧
    ∃ quotes quoteId quote, service = some quotes ∧ Fits readings input quotes quoteId quote ∧
      readings.check.now ≤ quote.expiresAt ∧ quote.amountBaseUnits.isSome ∧
      hasLeadingZero input.srcAmount

theorem validateDirection_error {input : AnnounceOrderInput} {e : CoordinatorError}
    (h : validateDirectionAgainstChains input = .error e) :
    ∃ message code, e = .validation message code := by
  cases hdirection : input.direction <;>
    simp only [validateDirectionAgainstChains, hdirection] at h
  all_goals
    split at h
    · cases h
    · cases h
      exact ⟨_, _, rfl⟩

theorem validateChainAddress_error {chain : Chain} {address : String} {e : CoordinatorError}
    (h : validateChainAddress chain address = .error e) :
    ∃ message code, e = .validation message code := by
  unfold validateChainAddress at h
  split at h
  · cases h
  · cases chain <;> cases h <;> exact ⟨_, _, rfl⟩

theorem validateAnnouncement_error {input : AnnounceOrderInput} {e : CoordinatorError}
    (h : validateAnnouncement input = .error e) : ∃ message code, e = .validation message code := by
  unfold validateAnnouncement at h
  cases hdirection : validateDirectionAgainstChains input with
  | error e' =>
      have hsame : e' = e := by
        rw [hdirection] at h
        exact Except.error.inj h
      exact hsame ▸ validateDirection_error hdirection
  | ok _ =>
      rw [hdirection] at h
      cases hsrc : validateChainAddress input.srcChain input.srcAddress with
      | error e' =>
          have hsame : e' = e := by
            rw [hsrc] at h
            exact Except.error.inj h
          exact hsame ▸ validateChainAddress_error hsrc
      | ok _ =>
          rw [hsrc] at h
          exact validateChainAddress_error h

theorem Fits.unique {quotes : QuoteService} {quoteId quoteId' : String} {quote quote' : PriceQuote}
    (h : Fits readings input quotes quoteId quote) (h' : Fits readings input quotes quoteId' quote') :
    quote = quote' := by
  have hnamed := h.named
  rw [h'.named] at hnamed
  cases hnamed
  have hfound := h.found
  rw [h'.found] at hfound
  exact (Option.some.inj hfound).symm

/-- While no statement fails, an announcement that passed the gate is stored or refused. -/
theorem announce_stored_or_refused (input : AnnounceOrderInput)
    (hvalid : validateAnnouncement input = .ok ()) (hfresh : findId db.orders publicId = none) :
    (∃ stored ∈ (run (exec (.calm clock)) (announce D (.ok ()) publicId input) db).2.orders,
        (run (exec (.calm clock)) (announce D (.ok ()) publicId input) db).1 =
          .ok stored.toOrderRow) ∨
      ∃ message code, (run (exec (.calm clock)) (announce D (.ok ()) publicId input) db).1 =
        .error (.validation message code) := by
  rw [run_announce, hvalid]
  dsimp only
  cases db.byHashlock (D.toLowerCase input.hashlock) with
  | some existing => exact .inr ⟨_, _, rfl⟩
  | none =>
      rw [hfresh]
      exact .inl ⟨(announcedRow D db publicId input).stored (clock (db.executed + 1)),
        List.mem_append_right _ List.mem_cons_self, rfl⟩

theorem announceQuoted_of_valid (D : Deployment) (cond : Conditions) (readings : GateReadings)
    (publicId : String) (service : Option QuoteService) (db : Database)
    (hvalid : validateAnnouncement input.toAnnounceOrderInput = .ok ()) :
    announceQuoted D cond readings publicId input service db =
      ⟨(run (exec cond) (announce D (quoteGate readings input service).1 publicId
          input.toAnnounceOrderInput) db).1,
        (quoteGate readings input service).2,
        (run (exec cond) (announce D (quoteGate readings input service).1 publicId
          input.toAnnounceOrderInput) db).2⟩ := by
  simp only [announceQuoted, hvalid]

theorem amountMisread_iff {quotes : QuoteService} {quoteId : String} {quote : PriceQuote}
    (hvalid : validateAnnouncement input.toAnnounceOrderInput = .ok ())
    (hdecimal : isDecimal input.srcAmount) (hfits : Fits readings input quotes quoteId quote) :
    AmountMisread readings input (some quotes) ↔ AmountUnread readings input quote := by
  have hamount := isBaseUnitInteger_of_isDecimal hdecimal
  constructor
  · rintro ⟨-, quotes', quoteId', quote', hservice, hfits', hcheck, hbound, hzero⟩
    obtain rfl := Option.some.inj hservice
    obtain rfl := hfits.unique hfits'
    exact ⟨hcheck, hbound, by rw [hamount, hzero]; rfl⟩
  · rintro ⟨hcheck, hbound, hunread⟩
    refine ⟨hvalid, quotes, quoteId, quote, rfl, hfits, hcheck, hbound, ?_⟩
    rw [hamount] at hunread
    simpa using hunread

/-- Every input of the schema is stored or refused as a bad request, but for an amount with a
leading zero under a quote that was issued for an amount. -/
theorem announce_classified_iff (D : Deployment) (clock : ℕ → ℕ) (readings : GateReadings)
    (publicId : String) (input : AnnounceInput) (service : Option QuoteService) (db : Database)
    (hschema : announceSchema D input) (hfresh : db.byPublicId publicId = none) :
    let outcome := announceQuoted D (.calm clock) readings publicId input service db
    (ReturnsStored outcome ∨ ThrowsValidation outcome) ↔ ¬ AmountMisread readings input service := by
  intro outcome
  have hdecimal : isDecimal input.srcAmount := by
    simp only [announceSchema, Bool.and_eq_true] at hschema
    exact hschema.1.1.1.2
  cases hvalid : validateAnnouncement input.toAnnounceOrderInput with
  | error e =>
      obtain ⟨message, code, rfl⟩ := validateAnnouncement_error hvalid
      have houtcome : outcome = ⟨.error (.validation message code), service, db⟩ := by
        simp only [outcome, announceQuoted, hvalid]
      refine iff_of_true (.inr ⟨message, code, by rw [houtcome]⟩) ?_
      rintro ⟨hvalid', -⟩
      rw [hvalid] at hvalid'
      cases hvalid'
  | ok _ =>
      have houtcome : outcome = _ :=
        announceQuoted_of_valid D (.calm clock) readings publicId service db hvalid
      have hpassed (hgate : (quoteGate readings input service).1 = .ok ()) :
          ReturnsStored outcome ∨ ThrowsValidation outcome := by
        rw [houtcome, hgate]
        exact announce_stored_or_refused _ hvalid hfresh
      have hrefused {e : CoordinatorError} (hgate : (quoteGate readings input service).1 = .error e) :
          outcome.result = .error e := by
        rw [houtcome, hgate, run_announce, hvalid]
      cases service with
      | none =>
          refine iff_of_true (hpassed (by rw [quoteGate_unwired])) ?_
          rintro ⟨-, _, _, _, hservice, -⟩
          cases hservice
      | some quotes =>
          obtain ⟨quotes', -, hgated⟩ := quoteGate_gated readings input quotes
          generalize hresult : (quoteGate readings input (some quotes)).1 = result at hgated
          cases hgated with
          | unnamed hnamed =>
              refine iff_of_true (hpassed hresult) ?_
              rintro ⟨-, _, _, _, -, hfits, -⟩
              have hsome := hfits.named
              rw [hnamed] at hsome
              cases hsome
          | refused message code _ hnone =>
              refine iff_of_true (.inr ⟨message, code, hrefused hresult⟩) ?_
              rintro ⟨-, _, quoteId, quote, hservice, hfits, -⟩
              obtain rfl := Option.some.inj hservice
              exact hnone quoteId quote hfits
          | bound hfits hchecked =>
              rw [amountMisread_iff hvalid hdecimal hfits]
              cases hchecked with
              | accepted haccepted =>
                  refine iff_of_true (hpassed hresult) ?_
                  exact haccepted.not_unread
              | unread message hunread =>
                  refine iff_of_false ?_ (not_not_intro hunread)
                  rintro (⟨stored, -, hstored⟩ | ⟨_, _, hvalidation⟩)
                  · rw [hrefused hresult] at hstored
                    cases hstored
                  · rw [hrefused hresult] at hvalidation
                    cases hvalidation
              | refused message code _ hread =>
                  exact iff_of_true (.inr ⟨message, code, hrefused hresult⟩) hread

/-- A service that has issued the quote `q1` for the amount 1000. -/
def quotes7 : QuoteService :=
  (QuoteService.empty.quoteEthXlm (some "1000") .none 0 0 none "q1").2

def readings7 : GateReadings := ⟨⟨0, 0⟩, ⟨0, 0⟩⟩

/-- Order 7 announced under the quote `q1`. -/
def quotedInput7 (srcAmount : String) : AnnounceInput where
  toAnnounceOrderInput := { input7 with srcAmount := srcAmount }
  quoteId := some "q1"

theorem announce_classified_quoted7 :
    let outcome := announceQuoted deployment7 calm7 readings7 "a1" (quotedInput7 "1000")
      (some quotes7) .empty
    ReturnsStored outcome ∨ ThrowsValidation outcome := by
  refine (announce_classified_iff deployment7 _ readings7 "a1" (quotedInput7 "1000") (some quotes7)
    .empty (by decide) (by decide)).mpr ?_
  rintro ⟨-, _, _, _, -, -, -, -, hzero⟩
  revert hzero
  decide

/-- An announcement of the schema, under a quote for 1000, of the amount 01000. -/
theorem amount_error_escapes :
    announceSchema deployment7 (quotedInput7 "01000") = true ∧
      (announceQuoted deployment7 calm7 readings7 "a1" (quotedInput7 "01000") (some quotes7)
          .empty).result =
        .error (.error "amount must be a base-unit integer string: \"01000\"") := by
  decide

end OverSync.Coordinator
