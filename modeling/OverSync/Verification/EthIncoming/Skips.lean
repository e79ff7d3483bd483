import OverSync.Model.EthIncoming
import Mathlib.Algebra.Order.Ring.Int
import Mathlib.Data.List.Nodup
import Mathlib.Tactic.Common

/-! # Payments the monitor passes over

The windows of the calls tile the blocks up to the cursor, so a payment is returned by the call
that scans its block or never. That call passes over a block answered with `null` and over an
entry that is a bare hash, and moves the cursor all the same. -/

namespace OverSync.EthIncoming

open Library

variable {E : Environment} {chain : Chain} {start : ℤ} {s : State}

/-- A call that returns has seen each payment of its window as a whole transaction. -/
def SeesPayments (E : Environment) (s : State) (call : Call chain) : Prop :=
  ∀ head ∈ call.getBlockNumber, s.cursor < head →
    (∀ blockNum, s.cursor < blockNum → blockNum ≤ call.toBlock head s.cursor →
      call.getBlock blockNum ≠ none) →
    ∀ blockNum, s.cursor < blockNum → blockNum ≤ call.toBlock head s.cursor →
      ∀ tx ∈ chain.transactions blockNum, tx.IsPayment E →
        ∃ entries, call.getBlock blockNum = some (some entries) ∧ .response tx ∈ entries

/-! ## One block -/

theorem mem_entryPayments {blockNum : ℤ} {entries : List Entry} {p : IncomingEthPayment} :
    p ∈ entryPayments E blockNum entries ↔
      ∃ tx, .response tx ∈ entries ∧ tx.IsPayment E ∧ tx.payment blockNum = p := by
  rw [entryPayments, List.mem_filterMap]
  constructor
  · rintro ⟨entry, hentry, hp⟩
    cases entry with
    | hash hash => cases hp
    | response tx =>
        rw [Option.ite_none_right_eq_some] at hp
        exact ⟨tx, hentry, hp.1, Option.some.inj hp.2⟩
  · rintro ⟨tx, htx, hpays, rfl⟩
    exact ⟨.response tx, htx, if_pos hpays⟩

theorem mem_blockPayments {blockNum : ℤ} {block : Option (List Entry)}
    {p : IncomingEthPayment} :
    p ∈ blockPayments E blockNum block ↔
      ∃ entries tx, block = some entries ∧ .response tx ∈ entries ∧ tx.IsPayment E ∧
        tx.payment blockNum = p := by
  cases block with
  | none => simp [blockPayments]
  | some entries => simp [blockPayments, mem_entryPayments]

/-- A whole transaction in an answer is one of the block. -/
theorem mem_of_response {entries : List Entry} {txs : List Transaction} {tx : Transaction}
    (h : List.Forall₂ Entry.Of entries txs) (hmem : .response tx ∈ entries) : tx ∈ txs := by
  induction h with
  | nil => cases hmem
  | cons hof _ ih =>
      rcases List.mem_cons.mp hmem with rfl | hrest
      · rcases hof with hresponse | hhash
        · rw [Entry.response.inj hresponse]
          exact List.mem_cons_self
        · cases hhash
      · exact List.mem_cons_of_mem _ (ih hrest)

/-- Within a block a payment comes from one transaction only. -/
theorem Chain.eq_of_payment (chain : Chain) {blockNum : ℤ} {tx tx' : Transaction}
    (htx : tx ∈ chain.transactions blockNum) (htx' : tx' ∈ chain.transactions blockNum)
    (hpayment : tx.payment blockNum = tx'.payment blockNum) : tx = tx' :=
  List.inj_on_of_nodup_map (chain.distinct blockNum) htx htx'
    (congrArg IncomingEthPayment.hash hpayment)

/-! ## One scan -/

theorem scanBlocks_eq_none {getBlock : ℤ → Option (Option (List Entry))} {n : ℕ}
    {fromBlock : ℤ} :
    scanBlocks E getBlock n fromBlock = none ↔
      ∃ blockNum, fromBlock ≤ blockNum ∧ blockNum < fromBlock + n ∧ getBlock blockNum = none := by
  induction n generalizing fromBlock with
  | zero =>
      simp only [scanBlocks, reduceCtorEq, false_iff]
      rintro ⟨blockNum, hle, hlt, -⟩
      omega
  | succ n ih =>
      rw [scanBlocks]
      cases hblock : getBlock fromBlock with
      | none => exact iff_of_true rfl ⟨fromBlock, le_rfl, by omega, hblock⟩
      | some block =>
          simp only [Option.map_eq_none_iff, ih]
          constructor
          · rintro ⟨blockNum, hle, hlt, hnone⟩
            exact ⟨blockNum, by omega, by omega, hnone⟩
          · rintro ⟨blockNum, hle, hlt, hnone⟩
            refine ⟨blockNum, ?_, by omega, hnone⟩
            by_contra hbefore
            have hfirst : blockNum = fromBlock := by omega
            rw [hfirst, hblock] at hnone
            cases hnone

theorem mem_scanBlocks {getBlock : ℤ → Option (Option (List Entry))} {n : ℕ} {fromBlock : ℤ}
    {payments : List IncomingEthPayment} {p : IncomingEthPayment}
    (hscan : scanBlocks E getBlock n fromBlock = some payments) :
    p ∈ payments ↔ fromBlock ≤ p.blockNumber ∧ p.blockNumber < fromBlock + n ∧
      ∃ entries tx, getBlock p.blockNumber = some (some entries) ∧ .response tx ∈ entries ∧
        tx.IsPayment E ∧ tx.payment p.blockNumber = p := by
  induction n generalizing fromBlock payments with
  | zero =>
      rw [scanBlocks] at hscan
      rw [← Option.some.inj hscan]
      refine iff_of_false List.not_mem_nil ?_
      rintro ⟨hle, hlt, -⟩
      omega
  | succ n ih =>
      rw [scanBlocks] at hscan
      cases hblock : getBlock fromBlock with
      | none =>
          rw [hblock] at hscan
          cases hscan
      | some block =>
          simp only [hblock, Option.map_eq_some_iff] at hscan
          obtain ⟨rest, hrest, rfl⟩ := hscan
          rw [List.mem_append, mem_blockPayments, ih hrest]
          constructor
          · rintro (⟨entries, tx, rfl, htx, hpays, rfl⟩ | ⟨hle, hlt, hseen⟩)
            · exact ⟨le_rfl, by simp only [Transaction.payment]; omega, entries, tx, hblock, htx,
                hpays, rfl⟩
            · exact ⟨by omega, by omega, hseen⟩
          · rintro ⟨hle, hlt, entries, tx, hentries, htx, hpays, hp⟩
            by_cases hfirst : p.blockNumber = fromBlock
            · rw [hfirst] at hentries hp
              rw [hblock] at hentries
              exact Or.inl ⟨entries, tx, Option.some.inj hentries, htx, hpays, hp⟩
            · exact Or.inr ⟨by omega, by omega, entries, tx, hentries, htx, hpays, hp⟩

/-! ## One call -/

/-- The payments returned so far are of blocks up to the cursor. -/
structure Behind (start : ℤ) (s : State) : Prop where
  start_le : start ≤ s.cursor
  returned : ∀ payments ∈ s.returned, ∀ p ∈ payments, p.blockNumber ≤ s.cursor

/-- What a call does: it leaves the state as it is up to an empty list, or it scans a window. -/
theorem run_cases (E : Environment) (call : Call chain) (s : State) :
    (run E call s = s ∧ ∀ head ∈ call.getBlockNumber, s.cursor < head →
      ∃ blockNum, s.cursor < blockNum ∧ blockNum ≤ call.toBlock head s.cursor ∧
        call.getBlock blockNum = none) ∨
    (run E call s = ⟨s.cursor, s.returned ++ [[]]⟩ ∧
      ∃ head ∈ call.getBlockNumber, head ≤ s.cursor) ∨
    ∃ head payments, call.getBlockNumber = some head ∧ s.cursor < head ∧
      run E call s = ⟨call.toBlock head s.cursor, s.returned ++ [payments]⟩ ∧
      (∀ blockNum, s.cursor < blockNum → blockNum ≤ call.toBlock head s.cursor →
        call.getBlock blockNum ≠ none) ∧
      ∀ p, p ∈ payments ↔ s.cursor < p.blockNumber ∧
        p.blockNumber ≤ call.toBlock head s.cursor ∧
        ∃ entries tx, call.getBlock p.blockNumber = some (some entries) ∧
          .response tx ∈ entries ∧ tx.IsPayment E ∧ tx.payment p.blockNumber = p := by
  cases hhead : call.getBlockNumber with
  | none =>
      left
      refine ⟨?_, by simp⟩
      simp only [run, fetchIncomingEthPayments, hhead]
  | some head =>
      by_cases hle : head ≤ s.cursor
      · right; left
        refine ⟨?_, head, rfl, hle⟩
        simp only [run, fetchIncomingEthPayments, hhead, if_pos hle]
      · have hto : s.cursor ≤ call.toBlock head s.cursor := by
          unfold Call.toBlock
          omega
        have hfetch : fetchIncomingEthPayments E call s.cursor =
            (scanBlocks E call.getBlock
              (call.toBlock head s.cursor + 1 - (s.cursor + 1)).toNat (s.cursor + 1)).map
                fun payments => (payments, call.toBlock head s.cursor) := by
          simp only [fetchIncomingEthPayments, hhead, if_neg hle]
        cases hscan : scanBlocks E call.getBlock
            (call.toBlock head s.cursor + 1 - (s.cursor + 1)).toNat (s.cursor + 1) with
        | none =>
            left
            refine ⟨by simp only [run, hfetch, hscan, Option.map_none], ?_⟩
            rintro head' hhead' -
            cases hhead'
            obtain ⟨blockNum, hafter, hbefore, hnone⟩ := scanBlocks_eq_none.mp hscan
            exact ⟨blockNum, by omega, by omega, hnone⟩
        | some payments =>
            right; right
            refine ⟨head, payments, rfl, by omega,
              by simp only [run, hfetch, hscan, Option.map_some], ?_, ?_⟩
            · intro blockNum hafter hbefore hnone
              have hthrows : scanBlocks E call.getBlock
                  (call.toBlock head s.cursor + 1 - (s.cursor + 1)).toNat (s.cursor + 1) = none :=
                scanBlocks_eq_none.mpr ⟨blockNum, by omega, by omega, hnone⟩
              rw [hscan] at hthrows
              cases hthrows
            · intro p
              rw [mem_scanBlocks hscan]
              refine and_congr ⟨by omega, by omega⟩ (and_congr ⟨by omega, by omega⟩ Iff.rfl)

theorem run_behind (hs : Behind start s) (call : Call chain) : Behind start (run E call s) := by
  obtain ⟨hstart, hreturned⟩ := hs
  rcases run_cases E call s with ⟨hrun, -⟩ | ⟨hrun, -⟩ | ⟨head, payments, -, hlt, hrun, -, hmem⟩
  · rw [hrun]
    exact ⟨hstart, hreturned⟩
  · rw [hrun]
    refine ⟨hstart, fun list hlist p hp => ?_⟩
    rcases List.mem_append.mp hlist with hold | hnew
    · exact hreturned list hold p hp
    · rw [List.mem_singleton.mp hnew] at hp
      cases hp
  · rw [hrun]
    have hto : s.cursor ≤ call.toBlock head s.cursor := by
      unfold Call.toBlock
      omega
    refine ⟨hstart.trans hto, fun list hlist p hp => ?_⟩
    rcases List.mem_append.mp hlist with hold | hnew
    · exact (hreturned list hold p hp).trans hto
    · rw [List.mem_singleton.mp hnew] at hp
      exact ((hmem p).mp hp).2.1

theorem countP_append_single {lists : List (List IncomingEthPayment)}
    {payments : List IncomingEthPayment} {p : IncomingEthPayment} :
    (lists ++ [payments]).countP (fun payments => p ∈ payments) =
      lists.countP (fun payments => p ∈ payments) + if p ∈ payments then 1 else 0 := by
  rw [List.countP_append, List.countP_singleton]
  simp only [decide_eq_true_eq]

theorem exactlyOnce_run (hs : Behind start s) (call : Call chain) :
    ExactlyOnce E chain start (run E call s) ↔
      ExactlyOnce E chain start s ∧ SeesPayments E s call := by
  rcases run_cases E call s with ⟨hrun, hthrows⟩ | ⟨hrun, head, hhead, hle⟩ |
    ⟨head, payments, hhead, hlt, hrun, hanswered, hmem⟩
  · rw [hrun]
    refine (and_iff_left ?_).symm
    intro head hhead hlt hall
    obtain ⟨blockNum, hafter, hbefore, hnone⟩ := hthrows head hhead hlt
    exact absurd hnone (hall blockNum hafter hbefore)
  · rw [hrun]
    have hsees : SeesPayments E s call := by
      intro head' hhead' hlt
      rw [Option.mem_def.mp hhead] at hhead'
      cases hhead'
      omega
    rw [and_iff_left hsees]
    refine forall₃_congr fun blockNum _ _ => forall₃_congr fun tx _ _ => ?_
    rw [countP_append_single, if_neg List.not_mem_nil, Nat.add_zero]
  · rw [hrun]
    have hto : s.cursor ≤ call.toBlock head s.cursor := by
      unfold Call.toBlock
      omega
    -- the new list holds nothing of the blocks before, the old ones nothing of the window
    have hold : ∀ blockNum, blockNum ≤ s.cursor → ∀ tx : Transaction,
        tx.payment blockNum ∉ payments := by
      intro blockNum hbefore tx hp
      have hafter : s.cursor < blockNum := ((hmem _).mp hp).1
      omega
    have hnew : ∀ blockNum, s.cursor < blockNum → ∀ tx : Transaction,
        s.returned.countP (fun payments => tx.payment blockNum ∈ payments) = 0 := by
      intro blockNum hafter tx
      refine List.countP_eq_zero.mpr fun list hlist hp => ?_
      have hbefore : blockNum ≤ s.cursor := hs.returned list hlist _ (of_decide_eq_true hp)
      omega
    have hseen : ∀ blockNum, s.cursor < blockNum → blockNum ≤ call.toBlock head s.cursor →
        ∀ tx ∈ chain.transactions blockNum, tx.IsPayment E →
        (tx.payment blockNum ∈ payments ↔
          ∃ entries, call.getBlock blockNum = some (some entries) ∧ .response tx ∈ entries) := by
      intro blockNum hafter hbefore tx htx hpays
      rw [hmem]
      constructor
      · rintro ⟨-, -, entries, tx', hentries, htx', -, hpayment⟩
        have hmem' := mem_of_response (call.faithful blockNum entries hentries) htx'
        have heq := chain.eq_of_payment hmem' htx hpayment
        exact ⟨entries, hentries, heq ▸ htx'⟩
      · rintro ⟨entries, hentries, htx'⟩
        exact ⟨hafter, hbefore, entries, tx, hentries, htx', hpays, rfl⟩
    constructor
    · intro honce
      constructor
      · intro blockNum hstart hbefore tx htx hpays
        have hone := honce blockNum hstart (hbefore.trans hto) tx htx hpays
        rwa [countP_append_single, if_neg (hold blockNum hbefore tx), Nat.add_zero] at hone
      · intro head' hhead' _ _ blockNum hafter hbefore tx htx hpays
        rw [hhead] at hhead'
        cases hhead'
        have hone := honce blockNum (hs.start_le.trans_lt hafter) hbefore tx htx hpays
        rw [countP_append_single, hnew blockNum hafter tx, Nat.zero_add] at hone
        refine (hseen blockNum hafter hbefore tx htx hpays).mp ?_
        by_contra hmissing
        rw [if_neg hmissing] at hone
        cases hone
    · rintro ⟨honce, hsees⟩ blockNum hstart hbefore tx htx hpays
      rw [countP_append_single]
      by_cases hafter : s.cursor < blockNum
      · have hp := (hseen blockNum hafter hbefore tx htx hpays).mpr
          (hsees head hhead hlt hanswered blockNum hafter hbefore tx htx hpays)
        rw [hnew blockNum hafter tx, if_pos hp]
      · have hle : blockNum ≤ s.cursor := by omega
        rw [if_neg (hold blockNum hle tx), Nat.add_zero]
        exact honce blockNum hstart hle tx htx hpays

/-! ## Runs -/

/-- Over any sequence of calls each payment up to the cursor is returned exactly once, exactly
if no call that returns has read past a payment whose block was answered with `null` or whose
entry was a bare hash. -/
theorem incoming_exactly_once_iff (E : Environment) (chain : Chain) (start : ℤ)
    (calls : List (Call chain)) :
    ExactlyOnce E chain start (runAll (run E) calls ⟨start, []⟩) ↔
      AllOk (run E) (SeesPayments E) calls ⟨start, []⟩ := by
  have hstart : ExactlyOnce E chain start ⟨start, []⟩ := by
    intro blockNum hafter hbefore
    exact absurd hafter (not_lt.mpr hbefore)
  rw [runAll_iff_allOk (Behind start) (fun s call hs => exactlyOnce_run hs call)
    (fun s call hs => run_behind hs call) calls _ ⟨le_rfl, by simp⟩]
  exact and_iff_right hstart

/-! One payment in block 101. The node that answers the head has the block, the one asked for
the block does not have it yet. -/

def deposit : Transaction := ⟨"0xdeposit", "0xuser", some "0xrelayer", 5⟩

def oneDeposit : Chain where
  transactions := fun blockNum => if blockNum = 101 then [deposit] else []
  distinct := by
    intro blockNum
    split <;> simp

def behindHead : Call oneDeposit where
  maxBlockWindow := none
  getBlockNumber := some 101
  getBlock := fun _ => some none
  faithful := by
    intro blockNum entries h
    cases h

theorem payment_lost :
    let E : Environment := ⟨id, "0xrelayer"⟩
    let s := runAll (run E) [behindHead] ⟨100, []⟩
    deposit ∈ oneDeposit.transactions 101 ∧ deposit.IsPayment E ∧
      s.cursor = 101 ∧ s.returned = [[]] ∧ ¬ExactlyOnce E oneDeposit 100 s := by
  intro E s
  have hmem : deposit ∈ oneDeposit.transactions 101 := by decide
  have hpays : deposit.IsPayment E := by decide
  refine ⟨hmem, hpays, by decide, by decide, fun honce => ?_⟩
  have hone := honce 101 (by decide) (by decide) deposit hmem hpays
  revert hone
  decide

end OverSync.EthIncoming
