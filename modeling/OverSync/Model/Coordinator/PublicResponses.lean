import OverSync.Model.Coordinator.HistoryRoute
import OverSync.Model.Coordinator.RefundEligibility
import OverSync.Model.Coordinator.Snapshots

/-! # Public responses

What the routes about orders answer, and the redaction that every JSON body goes through. The
text that is sent in the end is made of the redacted body alone. -/

namespace OverSync.Coordinator

open Library

/-! ## `redactValue` -/

def jsonText (s : String) : Json.Text := s.toList.map some

/-- `name.toLowerCase()`, as far as the comparisons see it. -/
def lowerName (name : Json.Text) : Json.Text := name.map fun unit => unit.map Char.toLower

/-- The names that `SENSITIVE_FIELD` matches, in lower case. -/
def sensitiveNames : List String :=
  ["preimage", "authorization", "privatekey", "private_key", "private-key", "walletsecret",
    "wallet_secret", "wallet-secret", "bearertoken", "bearer_token", "bearer-token"]

def sensitiveField (name : Json.Text) : Bool :=
  sensitiveNames.any fun sensitive => lowerName name = jsonText sensitive

def isPreimageField (name : Json.Text) : Bool := lowerName name = jsonText "preimage"

section

variable (redactText : Json.Text → Json.Text) (allowPreimage : Bool)

mutual

def redactValue : Json → Json
  | .null => .null
  | .bool value => .bool value
  | .num mantissa exponent => .num mantissa exponent
  | .str text => .str (redactText text)
  | .arr items => .arr (redactItems items)
  | .obj members => .obj (redactMembers members)

def redactItems : List Json → List Json
  | [] => []
  | item :: items => redactValue item :: redactItems items

def redactMembers : List (Json.Text × Json) → List (Json.Text × Json)
  | [] => []
  | (name, item) :: members =>
    if allowPreimage && isPreimageField name then (name, item) :: redactMembers members
    else if sensitiveField name then redactMembers members
    else (name, redactValue item) :: redactMembers members

end

end

/-! ## Bodies -/

def jsonObject (members : List (String × Json)) : Json :=
  .obj (members.map fun member => (jsonText member.1, member.2))

def jsonString (s : String) : Json := .str (jsonText s)

def jsonInteger (n : ℤ) : Json := .num n 0

def jsonNullable {α : Type} (f : α → Json) : Option α → Json
  | none => .null
  | some value => f value

def LegView.json (leg : LegView) : Json :=
  jsonObject
    ([("chain", jsonString leg.chain.text), ("address", jsonString leg.address),
        ("asset", jsonString leg.asset), ("amount", jsonString leg.amount)] ++
      (leg.safetyDeposit.map fun deposit => ("safetyDeposit", jsonString deposit)).toList ++
      [("orderId", jsonNullable jsonString leg.orderId),
        ("lockTx", jsonNullable jsonString leg.lockTx),
        ("lockBlock", jsonNullable jsonInteger leg.lockBlock),
        ("timelock", jsonNullable jsonInteger leg.timelock)])

def SecretView.json (secret : SecretView) : Json :=
  jsonObject
    [("revealed", .bool secret.revealed), ("preimage", jsonNullable jsonString secret.preimage),
      ("revealedTx", jsonNullable jsonString secret.revealedTx)]

def OrderView.json (view : OrderView) : Json :=
  jsonObject
    [("id", jsonString view.id), ("direction", jsonString view.direction.text),
      ("status", jsonString view.status.text), ("hashlock", jsonString view.hashlock),
      ("src", view.src.json), ("dst", view.dst.json), ("secret", view.secret.json),
      ("resolver", jsonNullable jsonString view.resolver),
      ("createdAt", jsonInteger view.createdAt), ("updatedAt", jsonInteger view.updatedAt)]

def Pagination.json (pagination : Pagination) : Json :=
  jsonObject
    [("limit", jsonInteger pagination.limit), ("count", jsonInteger pagination.count),
      ("hasMore", .bool pagination.hasMore),
      ("nextCursor", jsonNullable jsonString pagination.nextCursor)]

def HistoryPage.json (page : HistoryPage) : Json :=
  jsonObject
    [("transactions", .arr (page.transactions.map OrderView.json)),
      ("pagination", page.pagination.json)]

def HistoryRefusal.json (refusal : HistoryRefusal) : Json :=
  jsonObject (("error", jsonString refusal.error) ::
    match refusal with
    | .addressRequired => []
    | .networkMismatch message => [("message", jsonString message)]
    | .invalidLimit message => [("message", jsonString message)]
    | .invalidCursor reason message =>
      [("reason", jsonString reason.text), ("message", jsonString message)])

def OrderSnapshot.json (snapshot : OrderSnapshot) : Json :=
  jsonObject
    [("orderId", jsonString snapshot.orderId),
      ("currentState", jsonString snapshot.currentState.text),
      ("transitions", .arr (snapshot.transitions.map jsonString)),
      ("publicTxHashes", .arr (snapshot.publicTxHashes.map jsonString)),
      ("timestamps", jsonObject
        [("createdAt", jsonInteger snapshot.timestamps.1),
          ("updatedAt", jsonInteger snapshot.timestamps.2)]),
      ("direction", jsonString snapshot.direction.text),
      ("outcomeSummary", jsonString snapshot.outcomeSummary)]

def RefundEligibility.json (eligibility : RefundEligibility) : Json :=
  jsonObject
    [("eligible", .bool eligibility.eligible),
      ("lockedSides", .arr (eligibility.lockedSides.map fun side =>
        jsonObject [("chain", jsonString side.chain.text),
          ("earliestRefundAt", jsonNullable jsonInteger side.earliestRefundAt)]))]

def errorBody (error : String) : Json := jsonObject [("error", jsonString error)]

/-- The final error handler. -/
def internalError (message : String) : Json :=
  jsonObject [("error", jsonString "internal_error"), ("message", jsonString message)]

/-! ## Routes -/

/-- The requests about orders; `fails` is the message of a query that fails. -/
inductive OrderRequest where
  | order (id : String)
  | history (query : HistoryQuery) (fails : Option String)
  | snapshot
  | refundEligibility (id : String) (clockMs : ℤ)

structure Response where
  status : ℕ
  body : Json

def Database.storedOrder (db : Database) (id : String) : Option StoredOrder :=
  db.orders.find? fun row => row.publicId = id

section

variable (C : Conversions) (network : Network)

def orderResponse (db : Database) : OrderRequest → Response
  | .order id =>
    match db.storedOrder id with
    | none => ⟨404, errorBody "not_found"⟩
    | some order => ⟨200, (serialiseOrder order).json⟩
  | .history query fails =>
    match historyRoute C network query fails.isSome db with
    | .refused refusal => ⟨400, refusal.json⟩
    | .failed => ⟨500, internalError (fails.getD "")⟩
    | .page page => ⟨200, page.json⟩
  | .snapshot =>
    let snapshots := OrdersRepository.getCompletedOrderSnapshots db
    ⟨200, jsonObject [("snapshots", .arr (snapshots.map OrderSnapshot.json))]⟩
  | .refundEligibility id clockMs =>
    match refundEligibilityRoute db id clockMs with
    | .notFound => ⟨404, errorBody "not_found"⟩
    | .answered eligibility => ⟨200, eligibility.json⟩

/-- `publicResponseRedaction`: `isSuccessfulSecretLookup` is false for these requests. -/
def publicResponse (redactText : Json.Text → Json.Text) (db : Database)
    (request : OrderRequest) : Response :=
  let response := orderResponse C network db request
  { response with body := redactValue redactText false response.body }

end

end OverSync.Coordinator
