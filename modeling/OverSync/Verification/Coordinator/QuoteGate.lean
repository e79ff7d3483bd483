import OverSync.Model.Coordinator.Quotes
import OverSync.Verification.Coordinator.Calls

/-! # The quote gate of an announcement

An announcement that names a quote is refused, or binds its terms to the quote; then the amount
is checked, and the database is asked. -/

namespace OverSync.Coordinator

open Library Library.Procedure OrderService

variable {D : Deployment} {cond : Conditions} {db : Database} {readings : GateReadings}
  {input : AnnounceInput} {quotes : QuoteService} {quoteId publicId : String} {quote : PriceQuote}

/-! ## The map of quotes -/

theorem getById_quoteId (h : quotes.getById quoteId = some quote) : quote.quoteId = quoteId := by
  simpa using List.find?_some h

/-- Looking a quote up after another one has been replaced. -/
theorem find_replace (old : List PriceQuote) (quote : PriceQuote) (quoteId : String) :
    (old.map fun other => if other.quoteId = quote.quoteId then quote else other).find?
        (fun other => other.quoteId = quoteId) =
      if quote.quoteId = quoteId then
        (old.find? fun other => other.quoteId = quoteId).map fun _ => quote
      else old.find? fun other => other.quoteId = quoteId := by
  induction old with
  | nil => simp
  | cons other old ih =>
      rw [List.map_cons, List.find?_cons, List.find?_cons, ih]
      by_cases hother : other.quoteId = quote.quoteId <;>
        by_cases hquote : quote.quoteId = quoteId <;> simp_all

theorem getById_set : (quotes.set quote).getById quoteId =
    if quote.quoteId = quoteId then some quote else quotes.getById quoteId := by
  unfold QuoteService.set QuoteService.getById
  dsimp only
  split
  · rename_i hany
    rw [find_replace]
    split
    · rename_i hquote
      obtain ⟨other, hmem, hother⟩ := List.any_eq_true.mp hany
      cases hfind : quotes.quotes.find? fun other => other.quoteId = quoteId with
      | some found => rfl
      | none =>
          have hnone := List.find?_eq_none.mp hfind other hmem
          rw [← hquote] at hnone
          exact absurd hother hnone
    · rfl
  · rename_i hany
    rw [List.find?_append]
    by_cases hquote : quote.quoteId = quoteId
    · have hnone : (quotes.quotes.find? fun other => other.quoteId = quoteId) = none := by
        refine List.find?_eq_none.mpr ?_
        intro other hmem hother
        exact hany (List.any_eq_true.mpr ⟨other, hmem, by rwa [hquote]⟩)
      rw [hnone, if_pos hquote]
      simp [hquote]
    · rw [if_neg hquote]
      simp [hquote]

/-! ## Amounts -/

def hasLeadingZero (value : String) : Bool :=
  match value.toList with
  | '0' :: _ :: _ => true
  | _ => false

theorem isDigit_cases {c : Char} :
    c.isDigit = true ↔ c = '0' ∨ '1' ≤ c ∧ c ≤ '9' := by
  have hzero : c = '0' ↔ c.toNat = 48 := ⟨fun h => by rw [h]; rfl, fun h => Char.toNat_inj.mp h⟩
  have hone : '1' ≤ c ↔ 49 ≤ c.toNat := by rw [Char.le_def, UInt32.le_iff_toNat_le]; rfl
  have hnine : c ≤ '9' ↔ c.toNat ≤ 57 := by rw [Char.le_def, UInt32.le_iff_toNat_le]; rfl
  have hdigit : c.isDigit = true ↔ 48 ≤ c.toNat ∧ c.toNat ≤ 57 := by
    simp only [Char.isDigit, Bool.and_eq_true, decide_eq_true_eq, UInt32.le_iff_toNat_le, ge_iff_le]
    rfl
  rw [hzero, hone, hnine, hdigit]
  omega

/-- Of the strings of digits those with a leading zero are not base-unit integers. -/
theorem isBaseUnitInteger_of_isDecimal {value : String} (h : isDecimal value) :
    isBaseUnitInteger value = !hasLeadingZero value := by
  unfold isDecimal at h
  unfold isBaseUnitInteger hasLeadingZero
  generalize value.toList = digits at h ⊢
  cases digits with
  | nil => simp at h
  | cons c rest =>
      have hall : c.isDigit = true ∧ rest.all Char.isDigit = true := by simpa using h
      rcases isDigit_cases.mp hall.1 with rfl | ⟨hone, hnine⟩
      · cases rest <;> simp
      · have hne : c ≠ '0' := by
          rintro rfl
          exact absurd hone (by decide)
        cases rest with
        | nil => simp [hne, hone, hnine]
        | cons d rest => simp_all

theorem isDecimal_of_isBaseUnitInteger {value : String} (h : isBaseUnitInteger value) :
    isDecimal value := by
  unfold isBaseUnitInteger at h
  unfold isDecimal
  generalize value.toList = digits at h ⊢
  split at h
  · decide
  · simp only [Bool.and_eq_true, decide_eq_true_eq] at h
    have hdigit := isDigit_cases.mpr (.inr h.1)
    simp [hdigit, h.2]
  · cases h

/-- Parsing refuses just the strings that are not base-unit integers. -/
theorem parseBaseUnitInteger_error {value : String} {e : QuoteError} :
    parseBaseUnitInteger value = .error e ↔
      isBaseUnitInteger value = false ∧ e = .amountParse value := by
  unfold parseBaseUnitInteger
  cases hvalue : isBaseUnitInteger value with
  | false => simp [eq_comm]
  | true =>
      have hdecimal := isDecimal_of_isBaseUnitInteger hvalue
      obtain ⟨amount, hamount⟩ : ∃ amount, decimalId value = some amount := by
        unfold isDecimal at hdecimal
        unfold decimalId
        simp_all
      simp [hamount]

/-! ## The gate -/

/-- The quote that the announcement names is there, fresh, and not issued for other terms. -/
structure Fits (readings : GateReadings) (input : AnnounceInput) (quotes : QuoteService)
    (quoteId : String) (quote : PriceQuote) : Prop where
  named : input.namedQuote = some quoteId
  found : quotes.getById quoteId = some quote
  fresh : readings.bind.now ≤ quote.expiresAt
  follows : QuoteService.drifts quote input.orderTerms = false

/-- The announced amount is the one that the quote was issued for, if it was for one. -/
structure AmountAccepted (readings : GateReadings) (input : AnnounceInput) (quote : PriceQuote) :
    Prop where
  fresh : readings.check.now ≤ quote.expiresAt
  amount : ∀ amount, quote.amountBaseUnits = some amount →
    parseBaseUnitInteger input.srcAmount = .ok amount

/-- The announced amount has to be read and cannot be. -/
structure AmountUnread (readings : GateReadings) (input : AnnounceInput) (quote : PriceQuote) :
    Prop where
  fresh : readings.check.now ≤ quote.expiresAt
  bound : quote.amountBaseUnits.isSome
  unread : isBaseUnitInteger input.srcAmount = false

/-- How the check of the amount ends. -/
inductive Checked (readings : GateReadings) (input : AnnounceInput) (quote : PriceQuote) :
    Except CoordinatorError Unit → Prop where
  | accepted : AmountAccepted readings input quote → Checked readings input quote (.ok ())
  | unread (message : String) : AmountUnread readings input quote →
      Checked readings input quote (.error (.error message))
  | refused (message : String) (code : Option OrderErrorCode) :
      ¬ AmountAccepted readings input quote → ¬ AmountUnread readings input quote →
      Checked readings input quote (.error (.validation message code))

/-- How the gate ends and which quotes it leaves. -/
inductive Gated (readings : GateReadings) (input : AnnounceInput) (quotes : QuoteService) :
    Except CoordinatorError Unit → QuoteService → Prop where
  | unnamed : input.namedQuote = none → Gated readings input quotes (.ok ()) quotes
  | refused (message : String) (code : Option OrderErrorCode) : input.namedQuote.isSome →
      (∀ quoteId quote, ¬ Fits readings input quotes quoteId quote) →
      Gated readings input quotes (.error (.validation message code)) quotes
  | bound {quoteId : String} {quote : PriceQuote} {result : Except CoordinatorError Unit} :
      Fits readings input quotes quoteId quote → Checked readings input quote result →
      Gated readings input quotes result
        (quotes.set { quote with terms := some input.orderTerms })

theorem assertFresh_checked (readings : GateReadings) (input : AnnounceInput) (quote : PriceQuote)
    {bound : PriceQuote} (hfound : quotes.getById quoteId = some bound)
    (hexpires : bound.expiresAt = quote.expiresAt)
    (hbound : bound.amountBaseUnits = quote.amountBaseUnits) :
    Checked readings input quote
      (match quotes.assertFresh readings.check quoteId (some input.srcAmount) with
        | .error e => .error (quoteFailure e)
        | .ok _ => .ok ()) := by
  by_cases hfresh : readings.check.now ≤ quote.expiresAt
  · cases hamount : quote.amountBaseUnits with
    | none =>
        have hok : quotes.assertFresh readings.check quoteId (some input.srcAmount) = .ok bound := by
          simp [QuoteService.assertFresh, hfound, hexpires, hbound, hamount, hfresh.not_gt]
        rw [hok]
        exact .accepted ⟨hfresh, fun amount h => by rw [hamount] at h; cases h⟩
    | some amount =>
        cases hparse : parseBaseUnitInteger input.srcAmount with
        | error e =>
            have herror : quotes.assertFresh readings.check quoteId (some input.srcAmount) =
                .error e := by
              simp [QuoteService.assertFresh, hfound, hexpires, hbound, hamount, hfresh.not_gt,
                hparse]
            obtain ⟨hunread, rfl⟩ := parseBaseUnitInteger_error.mp hparse
            rw [herror]
            exact .unread _ ⟨hfresh, by rw [hamount]; rfl, hunread⟩
        | ok read =>
            have hread : ¬ AmountUnread readings input quote := by
              intro hunread
              have herror := parseBaseUnitInteger_error.mpr ⟨hunread.unread, rfl⟩
              rw [hparse] at herror
              cases herror
            by_cases hsame : read = amount
            · have hok : quotes.assertFresh readings.check quoteId (some input.srcAmount) =
                  .ok bound := by
                simp [QuoteService.assertFresh, hfound, hexpires, hbound, hamount, hfresh.not_gt,
                  hparse, hsame]
              rw [hok]
              refine .accepted ⟨hfresh, fun other h => ?_⟩
              rw [hamount] at h
              cases h
              rw [hparse, hsame]
            · have herror : quotes.assertFresh readings.check quoteId (some input.srcAmount) =
                  .error (.amountMismatch quoteId amount read) := by
                simp [QuoteService.assertFresh, hfound, hexpires, hbound, hamount, hfresh.not_gt,
                  hparse, hsame]
              rw [herror]
              refine .refused _ _ (fun haccepted => hsame ?_) hread
              have hother := haccepted.amount amount hamount
              rw [hparse] at hother
              exact Except.ok.inj hother
  · have herror : quotes.assertFresh readings.check quoteId (some input.srcAmount) =
        .error (.expired quoteId (readings.check.dateNow - quote.expiresAt)) := by
      simp [QuoteService.assertFresh, hfound, hexpires, not_le.mp hfresh]
    rw [herror]
    exact .refused _ _ (fun haccepted => hfresh haccepted.fresh) fun hunread => hfresh hunread.fresh

theorem bindOrderTerms_of_fits (h : Fits readings input quotes quoteId quote) :
    quotes.bindOrderTerms readings.bind quoteId input.orderTerms =
      .ok ({ quote with terms := some input.orderTerms },
        quotes.set { quote with terms := some input.orderTerms }) := by
  simp [QuoteService.bindOrderTerms, QuoteService.assertFresh, h.found, h.fresh.not_gt, h.follows]

/-- A quote that does not fit is refused with an error that announcements report. -/
theorem bindOrderTerms_of_not_fits (hnamed : input.namedQuote = some quoteId)
    (h : ∀ quote, ¬ Fits readings input quotes quoteId quote) :
    ∃ e message code,
      quotes.bindOrderTerms readings.bind quoteId input.orderTerms = .error e ∧
        quoteFailure e = .validation message code := by
  unfold QuoteService.bindOrderTerms QuoteService.assertFresh
  cases hfound : quotes.getById quoteId with
  | none => exact ⟨_, _, _, rfl, rfl⟩
  | some quote =>
      by_cases hfresh : readings.bind.now ≤ quote.expiresAt
      · cases hdrifts : QuoteService.drifts quote input.orderTerms with
        | false => exact absurd ⟨hnamed, hfound, hfresh, hdrifts⟩ (h quote)
        | true =>
            refine ⟨.termsMismatch quoteId, _, _, ?_, rfl⟩
            simp [hfresh.not_gt, hdrifts]
      · refine ⟨.expired quoteId (readings.bind.dateNow - quote.expiresAt), _, _, ?_, rfl⟩
        simp [not_le.mp hfresh]

theorem AmountAccepted.not_unread (h : AmountAccepted readings input quote) :
    ¬ AmountUnread readings input quote := by
  intro hunread
  obtain ⟨amount, hamount⟩ := Option.isSome_iff_exists.mp hunread.bound
  have hparsed := h.amount amount hamount
  rw [parseBaseUnitInteger_error.mpr ⟨hunread.unread, rfl⟩] at hparsed
  cases hparsed

theorem Checked.ok_iff {result : Except CoordinatorError Unit}
    (h : Checked readings input quote result) :
    result = .ok () ↔ AmountAccepted readings input quote := by
  cases h with
  | accepted haccepted => exact iff_of_true rfl haccepted
  | unread message hunread =>
      exact iff_of_false (fun h => by cases h) fun haccepted => haccepted.not_unread hunread
  | refused message code haccepted _ => exact iff_of_false (fun h => by cases h) haccepted

theorem quoteGate_unwired (readings : GateReadings) (input : AnnounceInput) :
    quoteGate readings input none = (.ok (), none) := by
  unfold quoteGate
  split
  · rename_i hnone
    cases hnone
  · rfl

theorem quoteGate_gated (readings : GateReadings) (input : AnnounceInput) (quotes : QuoteService) :
    ∃ quotes', (quoteGate readings input (some quotes)).2 = some quotes' ∧
      Gated readings input quotes (quoteGate readings input (some quotes)).1 quotes' := by
  unfold quoteGate
  cases hnamed : input.namedQuote with
  | none => exact ⟨quotes, rfl, .unnamed hnamed⟩
  | some quoteId =>
      by_cases hfits : ∃ quote, Fits readings input quotes quoteId quote
      · obtain ⟨quote, hquote⟩ := hfits
        have hid := getById_quoteId hquote.found
        have hfound : (quotes.set { quote with terms := some input.orderTerms }).getById quoteId =
            some { quote with terms := some input.orderTerms } := by
          rw [getById_set, if_pos hid]
        have hchecked := assertFresh_checked readings input quote hfound rfl rfl
        simp only [bindOrderTerms_of_fits hquote]
        cases hcheck : QuoteService.assertFresh _ readings.check quoteId (some input.srcAmount) with
        | error e =>
            rw [hcheck] at hchecked
            exact ⟨_, rfl, .bound hquote hchecked⟩
        | ok found =>
            rw [hcheck] at hchecked
            exact ⟨_, rfl, .bound hquote hchecked⟩
      · have hnone : ∀ quote, ¬ Fits readings input quotes quoteId quote :=
          fun quote hquote => hfits ⟨quote, hquote⟩
        obtain ⟨e, message, code, hbind, hfailure⟩ := bindOrderTerms_of_not_fits hnamed hnone
        simp only [hbind, hfailure]
        refine ⟨quotes, rfl, .refused message code (by rw [hnamed]; rfl) ?_⟩
        intro otherId quote hquote
        have hother := hquote.named
        rw [hnamed] at hother
        cases hother
        exact hnone quote hquote

end OverSync.Coordinator
