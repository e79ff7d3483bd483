import OverSync.Model.Coordinator.Services

/-! # Quotes

`QuoteService` and what `OrderService.announce` does with the quote an announcement names. Times
are in milliseconds; every call of the clock is a reading of its own. -/

namespace OverSync.Coordinator

open Library

/-! ## Quotes -/

/-- `terms` of a `PriceQuote`. -/
structure OrderTerms where
  fromAsset : String
  toAsset : String
  amount : String
  fromNetwork : Chain
  toNetwork : Chain
  deriving DecidableEq, Repr

inductive PriceSource where
  | coingecko
  | oneinch
  | cache
  | unknown
  deriving DecidableEq, Repr

structure Prices where
  srcUsd : Option String
  dstUsd : Option String
  deriving DecidableEq, Repr

/-- `Partial<QuoteTerms>` -/
structure PartialTerms where
  srcChain : Option Chain
  srcAsset : Option String
  srcAmount : Option String
  dstChain : Option Chain
  dstAsset : Option String
  dstAmount : Option String
  deriving DecidableEq, Repr

def PartialTerms.none : PartialTerms := ⟨.none, .none, .none, .none, .none, .none⟩

structure PriceQuote extends PartialTerms, Prices where
  quoteId : String
  pair : String
  source : PriceSource
  issuedAt : ℤ
  expiresAt : ℤ
  amountBaseUnits : Option String
  terms : Option OrderTerms
  deriving DecidableEq, Repr

inductive QuoteError where
  /-- `QuoteExpiredError` -/
  | expired (quoteId : String) (staleMs : ℤ)
  /-- `QuoteNotFoundError` -/
  | notFound (quoteId : String)
  /-- `QuoteTermsMismatchError` -/
  | termsMismatch (quoteId : String)
  /-- `AmountParseError` -/
  | amountParse (value : String)
  /-- `QuoteAmountMismatchError` -/
  | amountMismatch (quoteId quotedAmount orderAmount : String)
  deriving DecidableEq, Repr

def QuoteError.message : QuoteError → String
  | .expired quoteId staleMs => "Quote " ++ quoteId ++ " expired " ++ toString staleMs ++ " ms ago"
  | .notFound quoteId => "Quote " ++ quoteId ++ " not found or already evicted"
  | .termsMismatch quoteId => "Order terms do not match quote " ++ quoteId
  | .amountParse value => "amount must be a base-unit integer string: \"" ++ value ++ "\""
  | .amountMismatch quoteId quotedAmount orderAmount =>
    "Quote " ++ quoteId ++ " was issued for " ++ quotedAmount ++ " base units, order announced " ++
      orderAmount

/-- `BASE_UNIT_INTEGER` -/
def isBaseUnitInteger (value : String) : Bool :=
  match value.toList with
  | ['0'] => true
  | c :: rest => '1' ≤ c && c ≤ '9' && rest.all Char.isDigit
  | [] => false

def parseBaseUnitInteger (value : String) : Except QuoteError String :=
  match isBaseUnitInteger value, decimalId value with
  | true, some amount => .ok (toString amount)
  | _, _ => .error (.amountParse value)

/-! ## `QuoteService` -/

structure CachedPrices extends Prices where
  expiresAt : ℤ

structure QuoteService where
  quotes : List PriceQuote
  priceCache : Option CachedPrices

/-- The service's clock and the platform's, which the text of an error reads. -/
structure ClockReading where
  now : ℤ
  dateNow : ℤ

namespace QuoteService

def cacheTtlMs : ℤ := 30000

def empty : QuoteService := ⟨[], none⟩

def getById (service : QuoteService) (quoteId : String) : Option PriceQuote :=
  service.quotes.find? fun quote => quote.quoteId = quoteId

/-- `this.quotes.set(quote.quoteId, quote)`, and the effect of a write to a quote of the map. -/
def set (service : QuoteService) (quote : PriceQuote) : QuoteService :=
  { service with
    quotes :=
      if service.quotes.any (·.quoteId = quote.quoteId) then
        service.quotes.map fun old => if old.quoteId = quote.quoteId then quote else old
      else service.quotes ++ [quote] }

/-- `opts` without its amount carries all six terms. -/
def hasTerms (opts : PartialTerms) : Bool :=
  opts.srcChain.isSome && opts.srcAsset.isSome && opts.srcAmount.isSome && opts.dstChain.isSome &&
    opts.dstAsset.isSome && opts.dstAmount.isSome

/-- `checkedAt` and `issuedAt` are the readings of the clock, `fetched` what the price feed
answered, if it did, and `quoteId` the random id drawn for the quote. -/
def quoteEthXlm (service : QuoteService) (amountBaseUnits : Option String) (opts : PartialTerms)
    (checkedAt issuedAt : ℤ) (fetched : Option Prices) (quoteId : String) :
    Except QuoteError PriceQuote × QuoteService :=
  match amountBaseUnits.mapM parseBaseUnitInteger with
  | .error e => (.error e, service)
  | .ok amount =>
    let terms := if hasTerms opts then opts else .none
    let issueQuote (service : QuoteService) (prices : Prices) (source : PriceSource)
        (expiresAt : ℤ) : Except QuoteError PriceQuote × QuoteService :=
      let quote : PriceQuote :=
        { toPartialTerms := terms
          toPrices := prices
          quoteId := quoteId
          pair := "ETH-XLM"
          source := source
          issuedAt := issuedAt
          expiresAt := expiresAt
          amountBaseUnits := amount
          terms := none }
      (.ok quote, service.set quote)
    match service.priceCache.filter fun cached => checkedAt < cached.expiresAt with
    | some cached => issueQuote service cached.toPrices .cache cached.expiresAt
    | none =>
      let prices := fetched.getD ⟨none, none⟩
      let expiresAt := issuedAt + cacheTtlMs
      issueQuote { service with priceCache := some ⟨prices, expiresAt⟩ } prices
        (if fetched.isSome then .coingecko else .unknown) expiresAt

def assertFresh (service : QuoteService) (reading : ClockReading) (quoteId : String)
    (orderAmountBaseUnits : Option String) : Except QuoteError PriceQuote :=
  match service.getById quoteId with
  | none => .error (.notFound quoteId)
  | some quote =>
    if reading.now > quote.expiresAt then
      .error (.expired quoteId (reading.dateNow - quote.expiresAt))
    else
      match quote.amountBaseUnits, orderAmountBaseUnits with
      | some quotedAmount, some value =>
        match parseBaseUnitInteger value with
        | .error e => .error e
        | .ok orderAmount =>
          if orderAmount ≠ quotedAmount then
            .error (.amountMismatch quoteId quotedAmount orderAmount)
          else .ok quote
      | _, _ => .ok quote

/-- The quote was issued for terms, and these are others. -/
def drifts (quote : PriceQuote) (terms : OrderTerms) : Bool :=
  match quote.srcChain, quote.srcAsset, quote.srcAmount, quote.dstChain, quote.dstAsset with
  | some srcChain, some srcAsset, some srcAmount, some dstChain, some dstAsset =>
    srcChain ≠ terms.fromNetwork || srcAsset ≠ terms.fromAsset || srcAmount ≠ terms.amount ||
      dstChain ≠ terms.toNetwork || dstAsset ≠ terms.toAsset
  | _, _, _, _, _ => false

def bindOrderTerms (service : QuoteService) (reading : ClockReading) (quoteId : String)
    (terms : OrderTerms) : Except QuoteError (PriceQuote × QuoteService) :=
  match service.assertFresh reading quoteId none with
  | .error e => .error e
  | .ok quote =>
    if drifts quote terms then .error (.termsMismatch quoteId)
    else
      let bound := { quote with terms := some terms }
      .ok (bound, service.set bound)

end QuoteService

/-! ## Announcements -/

/-- The body of an announcement. -/
structure AnnounceInput extends AnnounceOrderInput where
  quoteId : Option String
  deriving DecidableEq, Repr

/-- `HEX32` -/
def isHex32 (value : String) : Bool :=
  match value.toList with
  | '0' :: 'x' :: hex => hex.length = 64 && hex.all isHexDigit
  | _ => false

/-- `ZERO_HASHLOCK` -/
def zeroHashlock : String :=
  "0x0000000000000000000000000000000000000000000000000000000000000000"

/-- `/^\d+$/` -/
def isDecimal (value : String) : Bool :=
  value.toList ≠ [] && value.toList.all Char.isDigit

/-- What the schema asks beyond the types of the fields. -/
def announceSchema (D : Deployment) (input : AnnounceInput) : Bool :=
  isHex32 input.hashlock && D.toLowerCase input.hashlock ≠ D.toLowerCase zeroHashlock &&
    input.srcAsset ≠ "" && isDecimal input.srcAmount && isDecimal input.srcSafetyDeposit &&
    input.dstAsset ≠ "" && isDecimal input.dstAmount

/-- The quote an announcement names; an empty `quoteId` names none. -/
def AnnounceInput.namedQuote (input : AnnounceInput) : Option String :=
  input.quoteId.filter fun quoteId => quoteId ≠ ""

def AnnounceInput.orderTerms (input : AnnounceInput) : OrderTerms where
  fromAsset := input.srcAsset
  toAsset := input.dstAsset
  amount := input.srcAmount
  fromNetwork := input.srcChain
  toNetwork := input.dstChain

namespace OrderService

/-- The errors of the quote service that an announcement reports as its own; the others are
thrown on as they are. -/
def quoteFailure (e : QuoteError) : CoordinatorError :=
  match e with
  | .expired _ _ => .validation e.message (some .quoteExpired)
  | .notFound _ => .validation e.message (some .quoteNotFound)
  | .termsMismatch _ | .amountMismatch _ _ _ => .validation e.message (some .quoteMismatch)
  | .amountParse _ => .error e.message

/-- The readings of the clock for `bindOrderTerms` and for `assertFresh`. -/
structure GateReadings where
  bind : ClockReading
  check : ClockReading

/-- The quote freshness gate. The terms stay bound where the amount is refused. -/
def quoteGate (readings : GateReadings) (input : AnnounceInput) (service : Option QuoteService) :
    Except CoordinatorError Unit × Option QuoteService :=
  match input.namedQuote, service with
  | some quoteId, some quotes =>
    match quotes.bindOrderTerms readings.bind quoteId input.orderTerms with
    | .error e => (.error (quoteFailure e), some quotes)
    | .ok (_, bound) =>
      match bound.assertFresh readings.check quoteId (some input.srcAmount) with
      | .error e => (.error (quoteFailure e), some bound)
      | .ok _ => (.ok (), some bound)
  | _, _ => (.ok (), service)

/-- What an announcement ends with, and the quotes and the database it leaves. -/
structure AnnounceOutcome where
  result : Except CoordinatorError OrderRow
  service : Option QuoteService
  db : Database

/-- `announce` with the quote that its input names. -/
def announceQuoted (D : Deployment) (cond : Conditions) (readings : GateReadings)
    (publicId : String) (input : AnnounceInput) (service : Option QuoteService) (db : Database) :
    AnnounceOutcome :=
  match validateAnnouncement input.toAnnounceOrderInput with
  | .error e => ⟨.error e, service, db⟩
  | .ok () =>
    let (gate, service) := quoteGate readings input service
    let (result, db) :=
      Procedure.run (exec cond) (announce D gate publicId input.toAnnounceOrderInput) db
    ⟨result, service, db⟩

end OrderService

end OverSync.Coordinator
