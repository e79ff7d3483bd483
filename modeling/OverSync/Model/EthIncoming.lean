import OverSync.Library.Execution
import Mathlib.Data.Int.Notation
import Mathlib.Data.List.Forall2

/-! # The monitor of incoming ETH

`fetchIncomingEthPayments` of the relayer with the answers of the provider as inputs, and the
calls that its cursor links. -/

namespace OverSync.EthIncoming

open Library

/-- `sender` and `recipient` are `from` and `to` of the source. -/
structure Transaction where
  hash : String
  sender : String
  recipient : Option String
  value : ℕ
  deriving DecidableEq, Repr

/-- An entry of `block.transactions`: a bare hash, or the whole transaction. -/
inductive Entry where
  | hash (hash : String)
  | response (tx : Transaction)
  deriving DecidableEq, Repr

/-- The transactions of each block. -/
structure Chain where
  transactions : ℤ → List Transaction
  distinct : ∀ blockNum, ((transactions blockNum).map Transaction.hash).Nodup

structure IncomingEthPayment where
  hash : String
  sender : String
  value : ℕ
  blockNumber : ℤ
  deriving DecidableEq, Repr

/-- `toLowerCase` is the one of strings. -/
structure Environment where
  toLowerCase : String → String
  relayerAddress : String

/-- `entry` stands for `tx`, in one way or the other. -/
def Entry.Of (entry : Entry) (tx : Transaction) : Prop :=
  entry = .response tx ∨ entry = .hash tx.hash

/-- What one call gets from the provider: the head and the blocks. `none` is a request that
throws, `some none` a block answered with `null`; any other answer is the true block. -/
structure Call (chain : Chain) where
  maxBlockWindow : Option ℕ
  getBlockNumber : Option ℤ
  getBlock : ℤ → Option (Option (List Entry))
  faithful : ∀ blockNum entries, getBlock blockNum = some (some entries) →
    List.Forall₂ Entry.Of entries (chain.transactions blockNum)

def DEFAULT_MAX_BLOCK_WINDOW : ℕ := 500

def Call.window {chain : Chain} (call : Call chain) : ℕ :=
  call.maxBlockWindow.getD DEFAULT_MAX_BLOCK_WINDOW

section Fetch

variable (E : Environment)

/-- A transaction to the relayer with a positive value. -/
def Transaction.IsPayment (tx : Transaction) : Prop :=
  (∃ recipient ∈ tx.recipient, recipient ≠ "" ∧
    E.toLowerCase recipient = E.toLowerCase E.relayerAddress) ∧ 0 < tx.value

instance (tx : Transaction) : Decidable (tx.IsPayment E) :=
  match h : tx.recipient with
  | none => .isFalse (by simp [Transaction.IsPayment, h])
  | some recipient =>
      decidable_of_iff
        ((recipient ≠ "" ∧ E.toLowerCase recipient = E.toLowerCase E.relayerAddress) ∧
          0 < tx.value)
        (by simp [Transaction.IsPayment, h])

def Transaction.payment (tx : Transaction) (blockNum : ℤ) : IncomingEthPayment :=
  ⟨tx.hash, tx.sender, tx.value, blockNum⟩

/-- The loop over the entries of a block. -/
def entryPayments (blockNum : ℤ) (entries : List Entry) : List IncomingEthPayment :=
  entries.filterMap fun entry =>
    match entry with
    | .hash _ => none
    | .response tx => if tx.IsPayment E then some (tx.payment blockNum) else none

/-- `null` and an empty block are passed over alike. -/
def blockPayments (blockNum : ℤ) (block : Option (List Entry)) : List IncomingEthPayment :=
  match block with
  | none => []
  | some entries => entryPayments E blockNum entries

/-- The loop over `n` blocks from `blockNum` on; `none` if a request throws. -/
def scanBlocks (getBlock : ℤ → Option (Option (List Entry))) :
    ℕ → ℤ → Option (List IncomingEthPayment)
  | 0, _ => some []
  | n + 1, blockNum =>
    match getBlock blockNum with
    | none => none
    | some block =>
        (scanBlocks getBlock n (blockNum + 1)).map fun payments =>
          blockPayments E blockNum block ++ payments

/-- The last block of the window. -/
def Call.toBlock {chain : Chain} (call : Call chain) (head lastProcessedBlock : ℤ) : ℤ :=
  min head (lastProcessedBlock + 1 + call.window - 1)

/-- `fetchIncomingEthPayments`, with the payments and the new cursor; `none` if it throws. -/
def fetchIncomingEthPayments {chain : Chain} (call : Call chain) (lastProcessedBlock : ℤ) :
    Option (List IncomingEthPayment × ℤ) :=
  match call.getBlockNumber with
  | none => none
  | some head =>
      if head ≤ lastProcessedBlock then some ([], lastProcessedBlock)
      else
        let fromBlock := lastProcessedBlock + 1
        let toBlock := call.toBlock head lastProcessedBlock
        (scanBlocks E call.getBlock (toBlock + 1 - fromBlock).toNat fromBlock).map
          fun payments => (payments, toBlock)

/-- The cursor, and the lists of payments returned so far. -/
structure State where
  cursor : ℤ
  returned : List (List IncomingEthPayment)

def run {chain : Chain} (call : Call chain) (s : State) : State :=
  match fetchIncomingEthPayments E call s.cursor with
  | none => s
  | some (payments, cursor) => ⟨cursor, s.returned ++ [payments]⟩

/-- Every payment after `start` up to the cursor is in exactly one of the lists. -/
def ExactlyOnce (chain : Chain) (start : ℤ) (s : State) : Prop :=
  ∀ blockNum, start < blockNum → blockNum ≤ s.cursor → ∀ tx ∈ chain.transactions blockNum,
    tx.IsPayment E → s.returned.countP (fun payments => tx.payment blockNum ∈ payments) = 1

end Fetch

end OverSync.EthIncoming
