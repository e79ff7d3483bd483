import OverSync.Verification.HTLCEscrow.Settlement

/-! # Replay of preimages across orders

A claim hashes the bare preimage, so what keeps a preimage from opening a second order is
only that no two orders carry one hashlock. -/

namespace OverSync.HTLCEscrow

open Function Library Library.Escrow

variable {Digest : Type} {H : HashFunctions Digest} {C : Deployment}

/-- No preimage was accepted for two different orders. -/
def NoPreimageReused (records : List (Record Digest)) : Prop :=
  ∀ id₁ r₁ id₂ r₂ preimage, (id₁, r₁) ∈ settlements records → (id₂, r₂) ∈ settlements records →
    r₁.release = .claim preimage → r₂.release = .claim preimage → id₁ = id₂

/-- The empty preimage was never accepted. -/
def NoEmptyPreimage (records : List (Record Digest)) : Prop :=
  ∀ id r, (id, r) ∈ settlements records → r.release ≠ .claim []

/-- Every order was created under a hashlock of its own, none of them the digest of the
empty string. -/
def FreshHashlocks (H : HashFunctions Digest) (records : List (Record Digest)) : Prop :=
  ((creations H records).map fun created => created.2.hashlock).Nodup ∧
    ∀ created ∈ creations H records, created.2.hashlock ≠ H.sha256 []

/-- Stored hashlocks and accepted preimages go back to a creation under the same id. -/
structure Traced (H : HashFunctions Digest)
    (acts : List (Action OrderId Address (Order Digest) Settlement)) (s : State Digest) :
    Prop where
  stored : ∀ id, (s.orders id).amount ≠ 0 →
    ∃ order, (id, order) ∈ openings acts ∧ order.hashlock = (s.orders id).hashlock
  claimed : ∀ id r preimage, (id, r) ∈ closings acts → r.release = .claim preimage →
    ∃ order, (id, order) ∈ openings acts ∧ order.hashlock = H.sha256 preimage

theorem traced_deployed : Traced H [] (State.deployed H) where
  stored := fun _ hamount => absurd rfl hamount
  claimed := by simp [closings]

theorem Order.settledBy_hashlock (order : Order Digest) (r : Settlement) :
    (order.settledBy H r).hashlock = order.hashlock := by
  unfold Order.settledBy
  cases r.release <;> rfl

theorem Order.Allows.sha256_eq {order : Order Digest} {r : Settlement} {preimage : Bytes}
    (h : order.Allows H r) (hrelease : r.release = .claim preimage) :
    H.sha256 preimage = order.hashlock := by
  unfold Order.Allows at h
  rw [hrelease] at h
  exact h.2.1

theorem Traced.step {acts acts' : List (Action OrderId Address (Order Digest) Settlement)}
    {s s' : State Digest} (hs : Traced H acts s) (h : Effect (storage H C) s acts' s') :
    Traced H (acts ++ acts') s' := by
  cases h with
  | @opened order _ hvalid hentry hnext hbalance =>
      change s'.orders = update s.orders s.nextOrderId order at hentry
      refine ⟨fun id hid => ?_, fun id r preimage hmem hrelease => ?_⟩
      · rw [hentry] at hid ⊢
        by_cases hnew : id = s.nextOrderId
        · subst hnew
          exact ⟨order, by simp [storage], by simp⟩
        · simp only [update_of_ne hnew] at hid ⊢
          obtain ⟨created, hcreated, hhash⟩ := hs.stored id hid
          exact ⟨created, by simp [hcreated], hhash⟩
      · obtain ⟨created, hcreated, hhash⟩ := hs.claimed id r preimage (by simpa using hmem) hrelease
        exact ⟨created, by simp [hcreated], hhash⟩
  | @closed orderId order r _ hvalid hheld hallowed hentry hnext hbalance =>
      change s'.orders = update s.orders orderId (order.settledBy H r) at hentry
      change s.orders orderId = order at hheld
      have hamount : (s.orders orderId).amount ≠ 0 := by
        rw [hheld]
        exact hvalid.1
      obtain ⟨created, hcreated, hhash⟩ := hs.stored orderId hamount
      rw [hheld] at hhash
      refine ⟨fun id hid => ?_, fun id r' preimage hmem hrelease => ?_⟩
      · rw [hentry] at hid ⊢
        by_cases hsettled : id = orderId
        · subst hsettled
          exact ⟨created, by simp [hcreated], by simp [hhash, Order.settledBy_hashlock]⟩
        · simp only [update_of_ne hsettled] at hid ⊢
          obtain ⟨other, hother, hotherhash⟩ := hs.stored id hid
          exact ⟨other, by simp [hother], hotherhash⟩
      · rw [closings_append, List.mem_append] at hmem
        rcases hmem with hold | hnew
        · obtain ⟨other, hother, hotherhash⟩ := hs.claimed id r' preimage hold hrelease
          exact ⟨other, by simp [hother], hotherhash⟩
        · simp only [closings_closed, List.mem_singleton, Prod.mk.injEq] at hnew
          obtain ⟨rfl, rfl⟩ := hnew
          exact ⟨created, by simp [hcreated], hhash.trans (hallowed.sha256_eq hrelease).symm⟩
  | gift token hentry hnext hother hle =>
      change s'.orders = s.orders at hentry
      refine ⟨fun id hid => ?_, fun id r preimage hmem hrelease => ?_⟩
      · rw [hentry] at hid ⊢
        simpa using hs.stored id hid
      · simpa using hs.claimed id r preimage (by simpa using hmem) hrelease
  | silent hentry hnext hbalance =>
      change s'.orders = s.orders at hentry
      refine ⟨fun id hid => ?_, fun id r preimage hmem hrelease => ?_⟩
      · rw [hentry] at hid ⊢
        simpa using hs.stored id hid
      · simpa using hs.claimed id r preimage (by simpa using hmem) hrelease

variable [DecidableEq Digest]

theorem traced_of_execution {records : List (Record Digest)} {s : State Digest}
    (h : Execution (Step H C) (State.deployed H) records s) :
    Traced H (records.flatMap (Record.actions H)) s := by
  refine h.history (P := fun past u => Traced H (past.flatMap (Record.actions H)) u)
    traced_deployed ?_
  intro past u record v hu hstep
  rw [List.flatMap_append, List.flatMap_singleton]
  exact hu.step hstep.effect.1

/-- As long as hashlocks are fresh, no preimage opens two orders and none is empty. -/
theorem replay_protected {records : List (Record Digest)} {s : State Digest}
    (h : Execution (Step H C) (State.deployed H) records s) (hfresh : FreshHashlocks H records) :
    NoPreimageReused records ∧ NoEmptyPreimage records := by
  have htraced := traced_of_execution h
  have hclaimed (id : OrderId) (r : Settlement) (preimage : Bytes)
      (hmem : (id, r) ∈ settlements records) (hrelease : r.release = .claim preimage) :
      ∃ order, (id, order) ∈ creations H records ∧ order.hashlock = H.sha256 preimage := by
    rw [← closings_actions (H := H)] at hmem
    simpa [openings_actions] using htraced.claimed id r preimage hmem hrelease
  obtain ⟨hnodup, hnonempty⟩ := hfresh
  refine ⟨fun id₁ r₁ id₂ r₂ preimage h₁ h₂ hr₁ hr₂ => ?_, fun id r hmem hrelease => ?_⟩
  · obtain ⟨order₁, hc₁, hhash₁⟩ := hclaimed id₁ r₁ preimage h₁ hr₁
    obtain ⟨order₂, hc₂, hhash₂⟩ := hclaimed id₂ r₂ preimage h₂ hr₂
    have hsame := List.inj_on_of_nodup_map hnodup hc₁ hc₂ (hhash₁.trans hhash₂.symm)
    exact congrArg Prod.fst hsame
  · obtain ⟨order, hcreated, hhash⟩ := hclaimed id r [] hmem hrelease
    exact hnonempty _ hcreated hhash

/-! ## Runs on fixed inputs -/

section Runs

theorem replay_protected_weiRecords :
    NoPreimageReused weiRecords ∧ NoEmptyPreimage weiRecords := by
  obtain ⟨s, hrun⟩ := weiRecords_run
  refine replay_protected hrun ⟨?_, ?_⟩
  · decide
  · decide

/-- An order of one wei under a given hashlock. -/
def weiOrderUnder (hashlock : Bytes) : CreateOrderArgs Bytes :=
  { weiOrder with hashlock := hashlock }

def createRecord (orderId : OrderId) (hashlock : Bytes) : Record Bytes :=
  .transaction genesis (.createOrder 2 1 (weiOrderUnder hashlock) ([], true))
    (.ok ⟨.orderCreated orderId 2 3 zeroAddress 1 0 hashlock 300, []⟩)

def claimRecord (orderId : OrderId) (preimage : Bytes) : Record Bytes :=
  .transaction genesis (.claimOrder 5 orderId preimage ([], true) ([], true))
    (.ok ⟨.orderClaimed orderId 5 (bytesToBytes32 preimage) 1 0, [⟨zeroAddress, 3, 1⟩]⟩)

theorem createRecord_step {s : State Bytes} {orderId : OrderId} {hashlock : Bytes}
    (hs : s.entered = false) (hnext : s.nextOrderId = orderId) (hhashlock : hashlock ≠ [0]) :
    Step taggedHash openDeployment s (createRecord orderId hashlock) { s with
      nextOrderId := orderId + 1
      orders := update s.orders orderId ((weiOrderUnder hashlock).order taggedHash 2 0)
      ethBalance := s.ethBalance + 1 } := by
  subst hnext
  refine .success (by simp [Call.sender, openDeployment]) ?_
  simp [exec, createOrder, pullFunds, requireActive, require, hs, hhashlock, weiOrderUnder,
    weiOrder, openDeployment, genesis, minTimelock, maxTimelock, uint64, zeroAddress, taggedHash,
    CreateOrderArgs.order]

theorem claimRecord_step {s : State Bytes} {orderId : OrderId} {preimage : Bytes}
    (hs : s.entered = false) (heth : 1 ≤ s.ethBalance)
    (horder : s.orders orderId = (weiOrderUnder (1 :: preimage)).order taggedHash 2 0) :
    Step taggedHash openDeployment s (claimRecord orderId preimage) { s with
      orders := update s.orders orderId
        (((weiOrderUnder (1 :: preimage)).order taggedHash 2 0).claimedBy 0 (2 :: preimage))
      ethBalance := s.ethBalance - 1 } := by
  refine .success (by simp [Call.sender, openDeployment]) ?_
  simp [exec, claimOrder, settle, payout, execAll, requireActive, require, hs, heth, horder,
    weiOrderUnder, weiOrder, openDeployment, genesis, uint64, zeroAddress, taggedHash,
    CreateOrderArgs.order]

/-- A second order copies the hashlock of the first, and a third has the digest of the empty
string. -/
def replayRecords : List (Record Bytes) :=
  [createRecord 1 [1, 7], createRecord 2 [1, 7], claimRecord 1 [7], claimRecord 2 [7],
    createRecord 3 [1], claimRecord 3 []]

theorem replayRecords_run : ∃ s, Execution (Step taggedHash openDeployment)
    (State.deployed taggedHash) replayRecords s := by
  refine ⟨_, .cons (createRecord_step rfl rfl (by decide)) (.cons
    (createRecord_step rfl (by rfl) (by decide)) (.cons
    (claimRecord_step rfl (by simp) (by simp)) (.cons
    (claimRecord_step rfl (by simp) (by simp)) (.cons
    (createRecord_step rfl (by rfl) (by decide)) (.single
    (claimRecord_step rfl (by simp) (by simp)))))))⟩

/-- One preimage opens an order and its copy, and the empty preimage opens an order. -/
theorem copied_hashlock_replayed : ∃ records s, Execution (Step taggedHash openDeployment)
    (State.deployed taggedHash) records s ∧ Nondecreasing records ∧
      ¬NoPreimageReused records ∧ ¬NoEmptyPreimage records := by
  obtain ⟨s, hrun⟩ := replayRecords_run
  refine ⟨replayRecords, s, hrun, by unfold Nondecreasing; decide, fun h => ?_, fun h => ?_⟩
  · have hids : (1 : OrderId) = 2 :=
      h 1 ⟨5, 0, .claim [7], [⟨zeroAddress, 3, 1⟩]⟩ 2 ⟨5, 0, .claim [7], [⟨zeroAddress, 3, 1⟩]⟩
        [7] (by decide) (by decide) rfl rfl
    exact absurd hids (by decide)
  · exact h 3 ⟨5, 0, .claim [], [⟨zeroAddress, 3, 1⟩]⟩ (by decide) rfl

end Runs

end OverSync.HTLCEscrow
