import OverSync.Model.HTLCEscrow
import OverSync.Model.SorobanHtlc

/-! # Both escrows under one clock

A swap locks one order in `HTLCEscrow` and one in `oversync-htlc` under the same hashlock. The
two contracts never talk to each other: all they share is SHA-256 and the time, which each
chain's blocks give up to some skew. -/

namespace OverSync.Swap

open Library

/-- The time of the world and the state of both contracts. -/
structure World (Digest : Type) where
  now : ℕ
  escrow : HTLCEscrow.State Digest
  htlc : SorobanHtlc.State Digest

/-- Both contracts just after their deployment. -/
def World.deployed {Digest : Type} (H : HTLCEscrow.HashFunctions Digest) (now : ℕ) :
    World Digest :=
  ⟨now, .deployed H, .deployed⟩

/-- Time passes, or one of the chains records something. -/
inductive Move (Digest : Type) where
  | wait (seconds : ℕ)
  | escrow (record : HTLCEscrow.Record Digest)
  | htlc (record : SorobanHtlc.Record Digest)

variable {Digest : Type}

/-- The block time of a move, if it is a transaction. -/
def Move.timestamp : Move Digest → Option ℕ
  | .escrow (.transaction env _ _) => some env.timestamp
  | .htlc (.invocation env _ _) => some env.timestamp
  | _ => none

def Move.escrowRecord : Move Digest → Option (HTLCEscrow.Record Digest)
  | .escrow record => some record
  | _ => none

def Move.htlcRecord : Move Digest → Option (SorobanHtlc.Record Digest)
  | .htlc record => some record
  | _ => none

/-- A block time that is off by at most `skew`. -/
def Near (skew now timestamp : ℕ) : Prop :=
  now ≤ timestamp + skew ∧ timestamp ≤ now + skew

/-- One step of either chain, at a block time near the time of the world. -/
inductive World.Step [DecidableEq Digest] (H : HTLCEscrow.HashFunctions Digest)
    (C : HTLCEscrow.Deployment) (current : SorobanHtlc.Address) (skew : ℕ) :
    World Digest → Move Digest → World Digest → Prop where
  | wait {w : World Digest} (seconds : ℕ) :
      Step H C current skew w (.wait seconds) { w with now := w.now + seconds }
  | escrow {w : World Digest} {record t} :
      (∀ timestamp ∈ (Move.escrow record).timestamp, Near skew w.now timestamp) →
      HTLCEscrow.Step H C w.escrow record t →
      Step H C current skew w (.escrow record) { w with escrow := t }
  | htlc {w : World Digest} {record t} :
      (∀ timestamp ∈ (Move.htlc record).timestamp, Near skew w.now timestamp) →
      SorobanHtlc.Step H.sha256 current w.htlc record t →
      Step H C current skew w (.htlc record) { w with htlc := t }

end OverSync.Swap
