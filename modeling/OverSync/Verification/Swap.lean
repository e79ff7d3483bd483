import OverSync.Model.Swap
import OverSync.Verification.HTLCEscrow.Liveness
import OverSync.Verification.HTLCEscrow.Replay
import OverSync.Verification.SorobanHtlc.Liveness

/-! # Atomicity of a swap

Once the destination order of a swap is claimed, the source order under the same hashlock can
be claimed with what that claim revealed, until the gap between the two timelocks is used up.
A claim on Stellar always opens the Ethereum order: its preimage is the order id and the
secret. A claim on Ethereum opens the Stellar order when its preimage starts with the id of
that order. -/

namespace OverSync.Swap

open Function Library

variable {Digest : Type} [DecidableEq Digest] {H : HTLCEscrow.HashFunctions Digest}
  {C : HTLCEscrow.Deployment} {current : SorobanHtlc.Address} {skew : ℕ}
  {w w' u : World Digest} {moves : List (Move Digest)}

/-! ## Each chain by itself -/

theorem escrow_run (h : Execution (World.Step H C current skew) w moves u) :
    Execution (HTLCEscrow.Step H C) w.escrow (moves.filterMap Move.escrowRecord) u.escrow := by
  induction h with
  | refl => exact .refl
  | snoc _ hstep ih =>
      rw [List.filterMap_append]
      cases hstep with
      | wait seconds => simpa [List.filterMap_cons, Move.escrowRecord] using ih
      | escrow _ hrecord => exact .snoc ih hrecord
      | htlc _ _ => simpa [List.filterMap_cons, Move.escrowRecord] using ih

theorem htlc_run (h : Execution (World.Step H C current skew) w moves u) :
    Execution (SorobanHtlc.Step H.sha256 current) w.htlc (moves.filterMap Move.htlcRecord)
      u.htlc := by
  induction h with
  | refl => exact .refl
  | snoc _ hstep ih =>
      rw [List.filterMap_append]
      cases hstep with
      | wait seconds => simpa [List.filterMap_cons, Move.htlcRecord] using ih
      | escrow _ _ => simpa [List.filterMap_cons, Move.htlcRecord] using ih
      | htlc _ hrecord => exact .snoc ih hrecord

theorem now_le (h : Execution (World.Step H C current skew) w moves u) : w.now ≤ u.now := by
  induction h with
  | refl => exact le_rfl
  | snoc _ hstep ih =>
      cases hstep with
      | wait seconds => exact ih.trans (Nat.le_add_right _ _)
      | escrow _ _ => exact ih
      | htlc _ _ => exact ih

/-- Every move happens at a block time near some moment of the run. -/
theorem near_of_mem (h : Execution (World.Step H C current skew) w moves u) {move : Move Digest}
    (hmem : move ∈ moves) {timestamp : ℕ} (htime : move.timestamp = some timestamp) :
    timestamp ≤ u.now + skew := by
  obtain ⟨front, back, v, v', -, -, hstep, hback⟩ := h.step_of_mem hmem
  have hlater := now_le hback
  cases hstep with
  | wait seconds => cases htime
  | escrow hnear _ =>
      have hle := (hnear timestamp htime).2
      simp only at hlater
      omega
  | htlc hnear _ =>
      have hle := (hnear timestamp htime).2
      simp only at hlater
      omega

omit [DecidableEq Digest] in
theorem escrow_timestamp {record : HTLCEscrow.Record Digest} {id : HTLCEscrow.OrderId}
    {r : HTLCEscrow.Settlement} (h : record.settlement = some (id, r)) :
    (Move.escrow record).timestamp = some r.timestamp := by
  unfold HTLCEscrow.Record.settlement at h
  split at h
  · cases h
    rfl
  · cases h
    rfl
  · cases h

omit [DecidableEq Digest] in
theorem htlc_timestamp {record : SorobanHtlc.Record Digest} {id : SorobanHtlc.OrderId}
    {r : SorobanHtlc.Settlement} (h : record.settlement = some (id, r)) :
    (Move.htlc record).timestamp = some r.timestamp := by
  unfold SorobanHtlc.Record.settlement at h
  split at h
  · cases h
    rfl
  · cases h
    rfl
  · cases h

/-- A settlement of the escrow happens before the end of the run, up to the skew. -/
theorem escrow_settled_by (h : Execution (World.Step H C current skew) w moves u)
    {id : HTLCEscrow.OrderId} {r : HTLCEscrow.Settlement}
    (hmem : (id, r) ∈ HTLCEscrow.settlements (moves.filterMap Move.escrowRecord)) :
    r.timestamp ≤ u.now + skew := by
  obtain ⟨record, hrecord, hsettles⟩ := List.mem_filterMap.mp hmem
  obtain ⟨move, hmove, heq⟩ := List.mem_filterMap.mp hrecord
  cases move with
  | wait seconds => cases heq
  | escrow record' =>
      cases heq
      exact near_of_mem h hmove (escrow_timestamp hsettles)
  | htlc record' => cases heq

theorem htlc_settled_by (h : Execution (World.Step H C current skew) w moves u)
    {id : SorobanHtlc.OrderId} {r : SorobanHtlc.Settlement}
    (hmem : (id, r) ∈ SorobanHtlc.settlements (moves.filterMap Move.htlcRecord)) :
    r.timestamp ≤ u.now + skew := by
  obtain ⟨record, hrecord, hsettles⟩ := List.mem_filterMap.mp hmem
  obtain ⟨move, hmove, heq⟩ := List.mem_filterMap.mp hrecord
  cases move with
  | wait seconds => cases heq
  | escrow record' => cases heq
  | htlc record' =>
      cases heq
      exact near_of_mem h hmove (htlc_timestamp hsettles)

/-! ## Stellar reveals, Ethereum follows -/

/-- The source order on Ethereum has been claimed, and paid, or it is as it was and a claim
with `preimage` goes through at any block near now, for any caller the registry lets pass. -/
inductive EscrowFollows (H : HTLCEscrow.HashFunctions Digest) (C : HTLCEscrow.Deployment)
    (current : SorobanHtlc.Address) (skew : ℕ) (m : HTLCEscrow.OrderId)
    (src : HTLCEscrow.Order Digest) (preimage : Bytes) (since : List (Move Digest))
    (u : World Digest) : Prop where
  | claimed {r preimage'} :
      (m, r) ∈ HTLCEscrow.settlements (since.filterMap Move.escrowRecord) →
      r.release = .claim preimage' → r.transfers = src.payments src.beneficiary r.caller →
      EscrowFollows H C current skew m src preimage since u
  | claimable : u.escrow.orders m = src →
      (∀ (env : HTLCEscrow.Env) (sender : HTLCEscrow.Address)
        (payee caller : List (HTLCEscrow.Call Digest)), Near skew u.now env.timestamp →
        sender ≠ C.self → HTLCEscrow.Payable C src.token src.beneficiary →
        HTLCEscrow.requireActive C env sender .claimResolverNotRegistered = .ok () →
        ∃ receipt v, World.Step H C current skew u (.escrow (.transaction env
            (.claimOrder sender m preimage (payee, true) (caller, true)) (.ok receipt))) v ∧
          receipt.transfers = src.payments src.beneficiary sender) →
      EscrowFollows H C current skew m src preimage since u

/-- While the gap lasts, a claim on Stellar opens the order on Ethereum. -/
theorem claim_on_stellar_opens_escrow {front back : List (Move Digest)} {now : ℕ}
    {env : SorobanHtlc.Env} {n : SorobanHtlc.OrderId} {m : HTLCEscrow.OrderId} {secret : Bytes}
    {caller : SorobanHtlc.Address} {pay deposit : Bool} {receipt : SorobanHtlc.Receipt Digest}
    {dst : SorobanHtlc.Order Digest} {window : ℕ}
    (hfront : Execution (World.Step H C current skew) (World.deployed H now) front w)
    (hclaim : World.Step H C current skew w
      (.htlc (.invocation env (.claimOrder n secret caller pay deposit) (.ok receipt))) w')
    (hback : Execution (World.Step H C current skew) w' back u)
    (hids : (HTLCEscrow.creations H ((front ++ back).filterMap Move.escrowRecord)).length ≤
      2 ^ 256)
    (hdst : w.htlc.orders n = some dst) (hfunded : (w.escrow.orders m).Funded)
    (hhashlock : (w.escrow.orders m).hashlock = dst.hashlock)
    (hgap : dst.timelock + window + 2 * skew ≤ (w.escrow.orders m).timelock)
    (hnow : u.now ≤ w.now + window) :
    EscrowFollows H C current skew m (w.escrow.orders m) (SorobanHtlc.hashInput n secret) back u := by
  -- what the claim on Stellar shows: the secret, and that it was in time
  obtain ⟨t, hw', hnear, hexec⟩ : ∃ t, w' = { w with htlc := t } ∧
      Near skew w.now env.timestamp ∧
      SorobanHtlc.exec H.sha256 env w.htlc (.claimOrder n secret caller pay deposit) =
        .ok (t, receipt) := by
    cases hclaim with
    | htlc hnear hstep =>
        cases hstep with
        | success _ hexec => exact ⟨_, rfl, hnear _ rfl, hexec⟩
  obtain ⟨order, hspec, htime, -, hsha, -⟩ := SorobanHtlc.claimOrder_eq_ok
    (SorobanHtlc.inv_of_execution (htlc_run hfront)) hexec
  obtain rfl : dst = order := Option.some.inj (hdst.symm.trans hspec.entry)
  have hlate : u.now + skew ≤ (w.escrow.orders m).timelock := by
    have hle := hnear.1
    omega
  have hescrow := escrow_run hfront
  have hsince := escrow_run hback
  rw [hw'] at hsince
  rw [List.filterMap_append] at hids
  rcases HTLCEscrow.funded_or_settled hescrow hsince hids hfunded with hsame | ⟨r, hmem, hallowed, -⟩
  · refine .claimable hsame fun env' sender payee caller' hnear' hsender hpayable hactive => ?_
    have hrun := hescrow.trans hsince
    have htime' : env'.timestamp ≤ (u.escrow.orders m).timelock := by
      rw [hsame]
      exact hnear'.2.trans hlate
    have hsha' : H.sha256 (SorobanHtlc.hashInput n secret) = (u.escrow.orders m).hashlock := by
      rw [hsame, hhashlock]
      exact hsha
    obtain ⟨v, receipt', hexec'⟩ := HTLCEscrow.claimOrder_accepted hrun hids
      (by rw [hsame]; exact hfunded) htime' hactive hsha' hsender
      (by rw [hsame]; exact hpayable) payee caller'
    refine ⟨receipt', _, .escrow (fun timestamp htimestamp => ?_) (.success hsender hexec'), ?_⟩
    · cases htimestamp
      exact hnear'
    · rw [HTLCEscrow.exec_claimOrder] at hexec'
      obtain ⟨hspec', -⟩ := HTLCEscrow.claimOrder_eq_ok (HTLCEscrow.inert_answer true)
        (HTLCEscrow.inert_answer true) hexec'
      rw [hspec'.transfers_eq, hsame]
  · have hsettled := escrow_settled_by hback hmem
    unfold HTLCEscrow.Order.Allows at hallowed
    cases hrelease : r.release with
    | claim preimage' =>
        rw [hrelease] at hallowed
        exact .claimed hmem hrelease hallowed.2.2
    | refund =>
        -- a refund waits for the timelock of the source, which is beyond the window
        rw [hrelease] at hallowed
        have hafter := hallowed.1
        omega

/-! ## Ethereum reveals, Stellar follows -/

/-- The source order on Stellar has been claimed, and paid, or it is as it was and a signed
claim goes through at any block near now exactly with the secrets that spell out `preimage`
behind the order id. -/
inductive HtlcFollows (H : HTLCEscrow.HashFunctions Digest) (C : HTLCEscrow.Deployment)
    (current : SorobanHtlc.Address) (skew : ℕ) (n : SorobanHtlc.OrderId)
    (src : SorobanHtlc.Order Digest) (preimage : Bytes) (since : List (Move Digest))
    (u : World Digest) : Prop where
  | claimed {r secret} :
      (n, r) ∈ SorobanHtlc.settlements (since.filterMap Move.htlcRecord) →
      r.release = .claim secret → SorobanHtlc.hashInput n secret = preimage →
      r.transfers = src.payments current src.beneficiary r.caller →
      HtlcFollows H C current skew n src preimage since u
  | claimable : u.htlc.orders n = some src →
      (∀ (env : SorobanHtlc.Env) (caller : SorobanHtlc.Address) (secret : Bytes),
        env.self = current → Near skew u.now env.timestamp →
        caller ≠ env.self ∧ env.auth caller = true →
        ((∃ receipt v, World.Step H C current skew u (.htlc (.invocation env
            (.claimOrder n secret caller true true) (.ok receipt))) v ∧
          receipt.transfers = src.payments current src.beneficiary caller) ↔
        secret ≠ [] ∧ SorobanHtlc.hashInput n secret = preimage)) →
      HtlcFollows H C current skew n src preimage since u

/-- While the gap lasts, a claim on Ethereum opens the order on Stellar to the secrets its
preimage spells out, and to no others. -/
theorem claim_on_ethereum_opens_htlc (hinj : Injective H.sha256) {front back : List (Move Digest)}
    {now : ℕ} {env : HTLCEscrow.Env} {n : SorobanHtlc.OrderId} {m : HTLCEscrow.OrderId}
    {preimage : Bytes} {sender : HTLCEscrow.Address}
    {payee caller : List (HTLCEscrow.Call Digest) × Bool} {receipt : HTLCEscrow.Receipt Digest}
    {src : SorobanHtlc.Order Digest} {window : ℕ}
    (hfront : Execution (World.Step H C current skew) (World.deployed H now) front w)
    (hclaim : World.Step H C current skew w (.escrow (.transaction env
      (.claimOrder sender m preimage payee caller) (.ok receipt))) w')
    (hback : Execution (World.Step H C current skew) w' back u)
    (hsrc : w.htlc.orders n = some src) (hfunded : src.status = .funded)
    (hhashlock : src.hashlock = (w.escrow.orders m).hashlock)
    (hgap : (w.escrow.orders m).timelock + window + 2 * skew ≤ src.timelock)
    (hnow : u.now ≤ w.now + window) :
    HtlcFollows H C current skew n src preimage back u := by
  -- what the claim on Ethereum shows: the preimage, and that it was in time
  obtain ⟨t, hw', hnear, hexec⟩ : ∃ t, w' = { w with escrow := t } ∧
      Near skew w.now env.timestamp ∧
      HTLCEscrow.exec H C env (.claimOrder sender m preimage payee caller) w.escrow =
        .ok (t, receipt) := by
    cases hclaim with
    | escrow hnear hstep =>
        cases hstep with
        | success _ hexec => exact ⟨_, rfl, hnear _ rfl, hexec⟩
  rw [HTLCEscrow.exec_claimOrder] at hexec
  obtain ⟨-, htime, hsha, -⟩ := HTLCEscrow.claimOrder_eq_ok (HTLCEscrow.inert_answer _)
    (HTLCEscrow.inert_answer _) hexec
  have hopens (secret : Bytes) : H.sha256 (SorobanHtlc.hashInput n secret) = src.hashlock ↔
      SorobanHtlc.hashInput n secret = preimage := by
    rw [hhashlock, ← hsha]
    exact hinj.eq_iff
  have hlate : u.now + skew ≤ src.timelock := by
    have hle := hnear.1
    omega
  have hhtlc := htlc_run hfront
  have hsince := htlc_run hback
  rw [hw'] at hsince
  have hrun := hhtlc.trans hsince
  rcases SorobanHtlc.funded_or_settled hhtlc hsince hsrc hfunded with hsame | ⟨r, hmem, hallowed, -⟩
  · refine .claimable hsame fun env' caller' secret hself hnear' hsigned => ⟨?_, ?_⟩
    · rintro ⟨receipt', v, hstep, -⟩
      cases hstep with
      | htlc _ hrecord =>
          cases hrecord with
          | success _ hexec' =>
              obtain ⟨order, hspec, -, hpreimage, hsecret, -⟩ :=
                SorobanHtlc.claimOrder_eq_ok (SorobanHtlc.inv_of_execution hrun) hexec'
              obtain rfl : src = order := Option.some.inj (hsame.symm.trans hspec.entry)
              exact ⟨hpreimage, (hopens secret).mp hsecret⟩
    · rintro ⟨hpreimage, hsecret⟩
      obtain ⟨v, receipt', hexec'⟩ := SorobanHtlc.claimOrder_accepted hrun hself hsame hfunded
        (hnear'.2.trans hlate) hsigned hpreimage ((hopens secret).mpr hsecret)
      refine ⟨receipt', _, .htlc (fun timestamp htimestamp => ?_) (.success hself hexec'), ?_⟩
      · cases htimestamp
        exact hnear'
      · obtain ⟨order, hspec, -⟩ :=
          SorobanHtlc.claimOrder_eq_ok (SorobanHtlc.inv_of_execution hrun) hexec'
        obtain rfl : src = order := Option.some.inj (hsame.symm.trans hspec.entry)
        rw [hspec.transfers_eq, hself]
  · have hsettled := htlc_settled_by hback hmem
    obtain ⟨-, hallowed⟩ := hallowed
    cases hrelease : r.release with
    | claim secret =>
        rw [hrelease] at hallowed
        obtain ⟨-, -, hsecret, htransfers⟩ := hallowed
        have hid := (SorobanHtlc.inv_of_execution hhtlc).id_eq n src hsrc
        rw [hid] at hsecret
        exact .claimed hmem hrelease ((hopens secret).mp hsecret) htransfers
    | refund =>
        -- a refund waits for the timelock of the source, which is beyond the window
        rw [hrelease] at hallowed
        have hafter := hallowed.1
        omega

/-! ## Runs on fixed inputs -/

section Runs

open HTLCEscrow (taggedHash openDeployment genesis weiOrder createRecord createRecord_step)
open SorobanHtlc (hashInput ledger stroopOrder stroopRecords stroopRecords_run)

/-- The hashlock of the secret `[7]` for order 1 on Stellar. -/
def swapHashlock : Bytes := 1 :: hashInput 1 [7]

/-- Both chains at time 0, with their clocks off by at most ten seconds. -/
abbrev SwapStep : World Bytes → Move Bytes → World Bytes → Prop :=
  World.Step taggedHash openDeployment 1 10

def swapOrder (timelockSeconds : ℕ) : HTLCEscrow.CreateOrderArgs Bytes :=
  { weiOrder with hashlock := swapHashlock, timelockSeconds := timelockSeconds }

/-- The order of one wei is locked on Ethereum for 900 seconds. -/
theorem escrow_leg_step : ∃ s record,
    SwapStep (World.deployed taggedHash 0) record ⟨0, s, .deployed⟩ ∧
    s.orders 1 = (swapOrder 900).order taggedHash 2 0 := by
  refine ⟨_, .escrow (.transaction genesis (.createOrder 2 1 (swapOrder 900) ([], true)) (.ok
    ⟨.orderCreated 1 2 3 HTLCEscrow.zeroAddress 1 0 swapHashlock 900, []⟩)),
    .escrow (fun timestamp h => ?_) (.success ?_ rfl), rfl⟩
  · cases h
    exact ⟨Nat.zero_le _, Nat.zero_le _⟩
  · simp [HTLCEscrow.Call.sender, openDeployment]

/-- A run of `oversync-htlc` while the clock stands still. -/
theorem lift_htlc (now : ℕ) (e : HTLCEscrow.State Bytes) {s t : SorobanHtlc.State Bytes}
    {records : List (SorobanHtlc.Record Bytes)}
    (h : Execution (SorobanHtlc.Step taggedHash.sha256 1) s records t)
    (hnear : ∀ record ∈ records, ∀ timestamp ∈ (Move.htlc record).timestamp,
      Near 10 now timestamp) :
    Execution SwapStep ⟨now, e, s⟩ (records.map .htlc) ⟨now, e, t⟩ := by
  induction h with
  | refl => exact .refl
  | snoc _ hstep ih =>
      rw [List.map_append]
      exact .snoc (ih fun record hrecord => hnear record (by simp [hrecord]))
        (.htlc (hnear _ (by simp)) hstep)

theorem claim_on_stellar_opens_escrow_wei : ∃ src since u,
    EscrowFollows taggedHash openDeployment 1 10 1 src (hashInput 1 [7]) since u ∧
      u.now = 500 := by
  obtain ⟨e, record, hcreate, horder⟩ := escrow_leg_step
  obtain ⟨t, hrun, hadmin, hdst, hbalance⟩ := stroopRecords_run swapHashlock
  have hclaim := SorobanHtlc.claimRecord_step hadmin hdst hbalance (List.cons_ne_nil 7 [])
  have hfront := (Execution.single hcreate).trans (lift_htlc 0 e hrun
    (by simp [stroopRecords, Move.timestamp, ledger, Near]))
  have hgap : ((stroopOrder swapHashlock).order 1 0).timelock + 500 + 2 * 10 ≤
      (e.orders 1).timelock := by
    rw [horder]
    decide
  refine ⟨e.orders 1, [.wait 500], _, claim_on_stellar_opens_escrow hfront
    (.htlc (by simp [Move.timestamp, ledger, Near]) hclaim)
    (.single (.wait 500)) ?_ hdst ?_ ?_ hgap le_rfl, rfl⟩
  · have hlength : ([record] ++ (stroopRecords swapHashlock).map Move.htlc ++
        [Move.wait 500]).length ≤ 2 ^ 256 := by
      simp [stroopRecords]
    exact (List.length_filterMap_le _ _).trans ((List.length_filterMap_le _ _).trans hlength)
  · rw [horder]
    decide
  · rw [horder]
    rfl

/-- One stroop for address 3 within 400 seconds. -/
def longOrder (hashlock : Bytes) : SorobanHtlc.CreateOrderArgs Bytes :=
  ⟨2, 3, 4, 6, 1, 0, hashlock, 400⟩

def longRecords (hashlock : Bytes) : List (SorobanHtlc.Record Bytes) :=
  [.invocation ledger (.initialise 9 0) (.ok ⟨none, []⟩),
    .invocation ledger (.createOrder (longOrder hashlock) true)
      (.ok ⟨some (.created 2 3 hashlock 1 6 1 0 400), [⟨6, 2, 1, 1⟩]⟩)]

theorem longRecords_run (hashlock : Bytes) : ∃ s : SorobanHtlc.State Bytes,
    Execution (SorobanHtlc.Step taggedHash.sha256 1) .deployed (longRecords hashlock) s ∧
      s.orders 1 = some ((longOrder hashlock).order 1 0) :=
  ⟨_, .cons (.success rfl rfl) (.single (.success rfl rfl)), rfl⟩

theorem claim_on_ethereum_opens_htlc_wei : ∃ src since u,
    HtlcFollows taggedHash openDeployment 1 10 1 src (hashInput 1 [7]) since u ∧
      u.now = 80 := by
  obtain ⟨t, hrun, hsrc⟩ := longRecords_run swapHashlock
  have hnonzero : swapHashlock ≠ [0] := by decide
  have hfirst : (HTLCEscrow.State.deployed taggedHash).nextOrderId = 1 := rfl
  have hlock := createRecord_step rfl hfirst hnonzero
  have horder : update (HTLCEscrow.State.deployed taggedHash).orders 1
      ((HTLCEscrow.weiOrderUnder swapHashlock).order taggedHash 2 0) 1 =
        (HTLCEscrow.weiOrderUnder (1 :: hashInput 1 [7])).order taggedHash 2 0 := by
    simp [swapHashlock]
  have hclaim := @HTLCEscrow.claimRecord_step
    { HTLCEscrow.State.deployed taggedHash with
      nextOrderId := 1 + 1
      orders := update (HTLCEscrow.State.deployed taggedHash).orders 1
        ((HTLCEscrow.weiOrderUnder swapHashlock).order taggedHash 2 0)
      ethBalance := 0 + 1 } 1 (hashInput 1 [7]) rfl le_rfl horder
  have hfront := (lift_htlc 0 (.deployed taggedHash) hrun
    (by simp [longRecords, Move.timestamp, ledger, Near])).snoc
      (.escrow (by simp [createRecord, Move.timestamp, genesis, Near]) hlock)
  have hgap : (update (HTLCEscrow.State.deployed taggedHash).orders 1
      ((HTLCEscrow.weiOrderUnder swapHashlock).order taggedHash 2 0) 1).timelock + 80 + 2 * 10 ≤
        ((longOrder swapHashlock).order 1 0).timelock := by
    rw [horder]
    simp [HTLCEscrow.weiOrderUnder, HTLCEscrow.CreateOrderArgs.order, weiOrder,
      SorobanHtlc.CreateOrderArgs.order, longOrder, HTLCEscrow.uint64]
  refine ⟨_, [.wait 80], _, claim_on_ethereum_opens_htlc List.cons_injective hfront
    (.escrow (by simp [Move.timestamp, genesis, Near]) hclaim)
    (.single (.wait 80)) hsrc rfl ?_ hgap le_rfl, rfl⟩
  simp [swapHashlock, HTLCEscrow.weiOrderUnder, HTLCEscrow.CreateOrderArgs.order,
    SorobanHtlc.CreateOrderArgs.order, longOrder]

end Runs

end OverSync.Swap
