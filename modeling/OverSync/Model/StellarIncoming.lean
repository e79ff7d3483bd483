import OverSync.Library.Execution
import Mathlib.Algebra.Group.Nat.Defs
import Mathlib.Data.Int.Notation
import Mathlib.Data.List.Infix

/-! # The poller of incoming Stellar payments

One tick of the `stellar-incoming` loop of the relayer, with the answers of Horizon as inputs.
Horizon numbers operations by ledger: the ids of ledger `n` lie between `n * 2 ^ 32` and
`(n + 1) * 2 ^ 32`. -/

namespace OverSync.StellarIncoming

open Library

/-- An operation on the account of the relayer. -/
structure Record where
  id : ℕ
  type : String
  assetType : String
  sender : String
  recipient : String
  amount : String
  transactionHash : String
  deriving DecidableEq, Repr

def Record.ledger (record : Record) : ℕ :=
  record.id / 2 ^ 32

/-- All operations on the account, in the order of the chain. -/
def History : Type :=
  { records : List Record // records.Pairwise fun r r' => r.id < r'.id }

/-- An order of the relayer; `stellarAmount` is `none` for an order without a Stellar side. -/
structure ActiveOrder where
  orderId : String
  status : String
  stellarAmount : Option String
  deriving DecidableEq, Repr

/-- The account and the comparison of two amounts as decimals. -/
structure Environment where
  relayerStellarPublic : String
  amountsAgree : String → String → Bool

variable (E : Environment)

/-- Which records the loop takes for payments. -/
def Record.IsPayment (record : Record) : Prop :=
  record.type = "payment" ∧ record.assetType = "native" ∧
    record.recipient = E.relayerStellarPublic

instance (record : Record) : Decidable (record.IsPayment E) :=
  inferInstanceAs (Decidable (_ ∧ _ ∧ _))

/-- What one tick gets from outside, `none` for a call that fails: the last closed ledger, the
ledger up to which the payments are seen, the memo of a transaction, and whether the escrow for
an order is created. -/
structure Answers where
  lastLedger : Option ℤ
  paymentsUpTo : Option ℤ
  seen : ∀ last ∈ lastLedger, ∀ upTo ∈ paymentsUpTo, last ≤ upTo
  memo : String → Option (Option String)
  createETHHTLC : String → Bool

/-- The variables of the poller: `activeOrders` is shared with the rest of the relayer. The
first initial position and the payments examined so far are kept for the record. -/
structure State where
  lastProcessedStellarLedger : ℤ
  activeOrders : List ActiveOrder
  initialPosition : Option ℤ
  examined : List Record

def State.start (activeOrders : List ActiveOrder) : State where
  lastProcessedStellarLedger := 0
  activeOrders := activeOrders
  initialPosition := none
  examined := []

/-! ## One tick -/

def pageLimit : ℕ := 50

/-- `cursor(lastProcessedStellarLedger * 4294967296)` -/
def cursor (lastProcessedStellarLedger : ℤ) : ℤ :=
  lastProcessedStellarLedger * 4294967296

/-- The records after the cursor that are seen, in ascending order. -/
def recordsAfter (history : History) (lastProcessedStellarLedger upTo : ℤ) : List Record :=
  history.1.filter fun record =>
    cursor lastProcessedStellarLedger < record.id ∧ (record.ledger : ℤ) ≤ upTo

/-- `orderId.includes(orderPrefix) && status === 'awaiting_xlm_payment'` -/
def ActiveOrder.matches (order : ActiveOrder) (orderPrefix : List Char) : Bool :=
  orderPrefix <:+: order.orderId.toList ∧ order.status = "awaiting_xlm_payment"

/-- `createETHHTLCForOrder` never throws; it leaves its outcome in the status. -/
def ActiveOrder.withHTLC (answers : Answers) (order : ActiveOrder) : ActiveOrder :=
  { order with
    status := if answers.createETHHTLC order.orderId then "eth_htlc_created"
      else "eth_htlc_failed" }

/-- The first matching order takes the payment; `none` if that throws. -/
def settleOrder (answers : Answers) (record : Record) (orderPrefix : List Char) :
    List ActiveOrder → Option (List ActiveOrder)
  | [] => some []
  | order :: orders =>
    if order.matches orderPrefix then
      match order.stellarAmount with
      | none => none
      | some expected =>
          if E.amountsAgree record.amount expected then some (order.withHTLC answers :: orders)
          else some (order :: orders)
    else (settleOrder answers record orderPrefix orders).map fun orders => order :: orders

/-- A payment is examined by its memo; `none` if that throws. -/
def examinePayment (answers : Answers) (record : Record) (orders : List ActiveOrder) :
    Option (List ActiveOrder) :=
  match answers.memo record.transactionHash with
  | none => none
  | some none => some orders
  | some (some memo) =>
      if "XLM-ETH-".toList <+: memo.toList then
        settleOrder E answers record (memo.toList.drop 8) orders
      else some orders

/-- The loop over a page, and whether it came to its end. -/
def examinePage (answers : Answers) : List Record → State → State × Bool
  | [], s => (s, true)
  | record :: records, s =>
    if record.IsPayment E then
      match examinePayment E answers record s.activeOrders with
      | none => (s, false)
      | some orders =>
          examinePage answers records
            { s with activeOrders := orders, examined := s.examined ++ [record] }
    else examinePage answers records s

def tick (history : History) (answers : Answers) (s : State) : State :=
  match answers.lastLedger with
  | none => s
  | some currentLedger =>
      if s.lastProcessedStellarLedger = 0 then
        { s with
          lastProcessedStellarLedger := currentLedger - 10
          initialPosition := s.initialPosition <|> some (currentLedger - 10) }
      else
        match answers.paymentsUpTo with
        | none => s
        | some upTo =>
            let records :=
              (recordsAfter history s.lastProcessedStellarLedger upTo).take pageLimit
            match examinePage E answers records s with
            | (s, true) => { s with lastProcessedStellarLedger := currentLedger }
            | (s, false) => s

/-- `hasAwaitingXlmPayment` -/
def hasAwaitingXlmPayment (orders : List ActiveOrder) : Bool :=
  orders.any fun order => order.status = "awaiting_xlm_payment"

/-- What happens to the poller: its timer fires, or the rest of the relayer changes the
orders. -/
inductive Event where
  | poll (answers : Answers)
  | orders (activeOrders : List ActiveOrder)

/-- Ticks are run one at a time, and only while an order awaits its payment. -/
def run (history : History) (event : Event) (s : State) : State :=
  match event with
  | .poll answers => if hasAwaitingXlmPayment s.activeOrders then tick E history answers s else s
  | .orders activeOrders => { s with activeOrders := activeOrders }

/-- Every payment in a ledger after the initial position and not after the last processed
ledger has been examined. -/
def NoneSkipped (history : History) (s : State) : Prop :=
  ∀ start ∈ s.initialPosition, ∀ record ∈ history.1, record.IsPayment E →
    start < record.ledger → (record.ledger : ℤ) ≤ s.lastProcessedStellarLedger →
    record ∈ s.examined

end OverSync.StellarIncoming
