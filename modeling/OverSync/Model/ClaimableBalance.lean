import OverSync.Library.Guard
import OverSync.Library.Json
import OverSync.Library.Number

/-! # The claimable-balance gate

The order's escrow terms and the balance record from Horizon, which is JSON of any shape. Every
string is one of JavaScript. The classes of the Stellar SDK are a parameter. -/

namespace OverSync.ClaimableBalance

open Library
open Json (Text)

/-- A string literal. -/
def lit (s : String) : Text := s.toList.map some

/-- `text.length` counts UTF-16 units. -/
def length (text : Text) : ℕ :=
  (text.map fun unit => match unit with
    | some c => if c.toNat < 0x10000 then 1 else 2
    | none => 1).sum

/-- `Number(text)`; half of a surrogate pair is in no number. -/
def number (text : Text) : Option ℚ := (text.mapM id).bind parseNumber

/-- The amount of a number, with the seven places of Stellar. -/
def toFixed7 (x : ℚ) : Text := (toFixed 7 x).map some

/-- `canonical network id` -/
inductive BalanceMatchNetwork where
  | testnet
  | mainnet
  deriving DecidableEq, Repr

structure EscrowTerms where
  asset : Text
  amount : Text
  claimant : Text
  deriving DecidableEq

structure Claimant where
  destination : Text
  predicate : Option Json

structure ClaimableBalanceRecord where
  id : Text
  asset : Json
  amount : Text
  claimants : List Claimant
  claimed : Option Bool

/-- The members of the object. -/
abbrev RecordedBalanceJson := List (Text × Json)

inductive LoadedBalanceResult where
  | found (balance : ClaimableBalanceRecord)
  | notFound

/-! ## Errors -/

inductive BalanceMismatchReason where
  | notFound
  | alreadyClaimed
  | assetMismatch
  | amountMismatch
  | claimantMismatch
  deriving DecidableEq, Repr

def BalanceMismatchReason.text : BalanceMismatchReason → Text
  | .notFound => lit "not_found"
  | .alreadyClaimed => lit "already_claimed"
  | .assetMismatch => lit "asset_mismatch"
  | .amountMismatch => lit "amount_mismatch"
  | .claimantMismatch => lit "claimant_mismatch"

structure BalanceMismatchError where
  code : BalanceMismatchReason
  balanceId : Option Text
  message : Text
  deriving DecidableEq

/-- `new BalanceMismatchError(code, balanceId, detail)`; an empty detail counts as none. -/
def mismatch (code : BalanceMismatchReason) (balanceId : Option Text) (detail : Text) :
    BalanceMismatchError :=
  ⟨code, balanceId, if detail = [] then code.text else code.text ++ lit ": " ++ detail⟩

/-- What is thrown. -/
inductive Failure where
  | mismatch (e : BalanceMismatchError)
  /-- a `TypeError` of the language -/
  | typeError
  /-- an `Error` of the SDK -/
  | invalidAsset
  deriving DecidableEq

/-! ## Values of any type -/

/-- `if (value)` -/
def truthy : Json → Bool
  | .null => false
  | .bool value => value
  | .num mantissa _ => mantissa ≠ 0
  | .str text => text ≠ []
  | .arr _ => true
  | .obj _ => true

section Conversion

variable (numberText : ℤ → ℤ → Text)

mutual

/-- `String(value)`; `none` is the `TypeError` for an object with a `toString` of its own. How
numbers are written is a parameter. -/
def toText : Json → Option Text
  | .null => some (lit "null")
  | .bool true => some (lit "true")
  | .bool false => some (lit "false")
  | .num mantissa exponent => some (numberText mantissa exponent)
  | .str text => some text
  | .arr items => (itemTexts items).map fun texts => List.intercalate (lit ",") texts
  | .obj members =>
    if members.any fun m => m.1 = lit "toString" then none else some (lit "[object Object]")

/-- The items of an array as `join` takes them. -/
def itemTexts : List Json → Option (List Text)
  | [] => some []
  | .null :: items => (itemTexts items).map fun texts => [] :: texts
  | item :: items => do
    let text ← toText item
    let texts ← itemTexts items
    pure (text :: texts)

end

/-- `asset` is a string or, if all is well, an object. -/
def canonicalAssetString (asset : Json) : Except Failure Text :=
  match asset with
  | .str text => .ok (if text = lit "native" then lit "XLM" else text)
  | .null => .error .typeError
  | asset =>
    if (asset.member (lit "asset_type")).bind Json.asText? = some (lit "native") then
      .ok (lit "XLM")
    else
      match (asset.member (lit "asset_code")).filter truthy,
        (asset.member (lit "asset_issuer")).filter truthy with
      | some code, some issuer =>
        match toText numberText code, toText numberText issuer with
        | some code, some issuer => .ok (code ++ lit ":" ++ issuer)
        | _, _ => .error .typeError
      | _, _ => .error (.mismatch (mismatch .assetMismatch none
          (lit "balance record has an issued asset without code or issuer")))

end Conversion

/-! ## The terms of an order -/

/-- The class `Asset` of the Stellar SDK. -/
structure StellarSdk where
  Asset : Type
  /-- `new Asset(code, issuer)`; `none` where it throws. -/
  newAsset : Text → Text → Option Asset
  isNative : Asset → Bool
  toText : Asset → Text

structure EscrowTermsInput where
  assetCode : Text
  assetIssuer : Option Text
  amount : Text
  claimant : Text
  network : Option BalanceMatchNetwork
  deriving DecidableEq

variable (S : StellarSdk)

def termsAsset (input : EscrowTermsInput) : Except Failure Text :=
  if input.assetCode = lit "XLM" then .ok (lit "XLM")
  else
    match input.assetIssuer.filter (· ≠ []) with
    | none => .error (.mismatch (mismatch .assetMismatch none
        (lit "issued asset " ++ input.assetCode ++ lit " requires an issuer")))
    | some issuer =>
      match S.newAsset input.assetCode issuer with
      | none => .error .invalidAsset
      | some sdkAsset =>
        match input.network.getD .testnet with
        | .mainnet =>
          if S.isNative sdkAsset then .ok (lit "XLM")
          else .ok (input.assetCode ++ lit ":" ++ issuer)
        | .testnet => .ok (S.toText sdkAsset)

def termsAmount (amount : Text) : Except Failure Text :=
  match number amount with
  | some parsed =>
    if parsed < 0 then .error (refused amount) else .ok (toFixed7 parsed)
  | none => .error (refused amount)
where
  refused (amount : Text) : Failure :=
    .mismatch (mismatch .amountMismatch none (lit "amount is not a positive number: " ++ amount))

def buildEscrowTerms (input : EscrowTermsInput) : Except Failure EscrowTerms := do
  let asset ← termsAsset S input
  let amount ← termsAmount input.amount
  require (length input.claimant = 56 ∧ input.claimant.head? = some (some 'G'))
    (.mismatch (mismatch .claimantMismatch none
      (lit "claimant must be a 56-character Stellar account id (G...)")))
  return { asset, amount, claimant := input.claimant }

/-! ## The record -/

def normalizeClaimant (c : Json) : Except BalanceMismatchError Claimant :=
  match c.member (lit "destination") with
  | some (.str destination) =>
    .ok { destination, predicate := (c.member (lit "predicate")).filter truthy }
  | _ => .error (mismatch .notFound none
      (lit "balance record has a claimant without a destination"))

def asBool? : Json → Option Bool
  | .bool value => some value
  | _ => none

def normalizeBalanceRecord (raw : RecordedBalanceJson) :
    Except BalanceMismatchError ClaimableBalanceRecord :=
  let record := Json.obj raw
  match record.member (lit "id"), record.member (lit "asset"), record.member (lit "amount"),
    record.member (lit "claimants") with
  | some (.str id), some asset, some (.str amount), some (.arr claimants) => do
    let claimants ← claimants.mapM normalizeClaimant
    return { id, asset, amount, claimants, claimed := (record.member (lit "claimed")).bind asBool? }
  | _, _, _, _ => .error (mismatch .notFound none
      (lit "balance record is malformed (missing id, asset, amount, or claimants)"))

/-! ## The gate -/

variable (numberText : ℤ → ℤ → Text)

def verifyBalanceMatchesEscrow (balance : ClaimableBalanceRecord) (terms : EscrowTerms) :
    Except Failure Unit := do
  require (balance.claimed ≠ some true) (.mismatch (mismatch .alreadyClaimed balance.id []))
  let balanceAsset ← canonicalAssetString numberText balance.asset
  require (balanceAsset = terms.asset) (.mismatch (mismatch .assetMismatch balance.id
    (lit "balance asset " ++ balanceAsset ++ lit " != escrow asset " ++ terms.asset)))
  require ((number balance.amount).map toFixed7 = some terms.amount)
    (.mismatch (mismatch .amountMismatch balance.id
      (lit "balance amount " ++ balance.amount ++ lit " != escrow amount " ++ terms.amount)))
  require (terms.claimant ∈ balance.claimants.map Claimant.destination)
    (.mismatch (mismatch .claimantMismatch balance.id
      (lit "claimant " ++ terms.claimant ++ lit " is not among balance claimants")))

/-- What Horizon has under a balance id. -/
inductive Lookup where
  | record (raw : RecordedBalanceJson)
  | notFound
  /-- it throws, with the message -/
  | failed (message : Text)

/-- `StellarHTLCManager.loadBalance`, with the message of what it throws. -/
def loadBalance : Lookup → Except Text LoadedBalanceResult
  | .record raw =>
    match normalizeBalanceRecord raw with
    | .ok balance => .ok (.found balance)
    | .error e => .error e.message
  | .notFound => .ok .notFound
  | .failed message => .error message

def loadAndVerifyBalance (balanceId : Text) (terms : EscrowTerms) (lookup : Lookup) :
    Except Failure ClaimableBalanceRecord := do
  require (balanceId ≠ []) (.mismatch (mismatch .notFound balanceId (lit "balance id is empty")))
  match loadBalance lookup with
  | .error detail =>
    .error (.mismatch (mismatch .notFound balanceId (lit "Horizon lookup failed: " ++ detail)))
  | .ok .notFound => .error (.mismatch (mismatch .notFound balanceId []))
  | .ok (.found balance) =>
    match verifyBalanceMatchesEscrow numberText balance terms with
    | .ok () => .ok balance
    | .error (.mismatch e) =>
      -- the detail is what stands behind the code
      .error (.mismatch (mismatch e.code balanceId (e.message.drop (e.code.text.length + 2))))
    | .error failure => .error failure

end OverSync.ClaimableBalance
