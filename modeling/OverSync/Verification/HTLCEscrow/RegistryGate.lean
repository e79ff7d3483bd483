import OverSync.Verification.HTLCEscrow.Settlement
import OverSync.Verification.ResolverRegistry.Backing

/-! # What the resolver registry decides about a claim

With a registry configured, a claim asks it about its caller, once and before anything else
happens. Nothing else of the registry matters, and a refund does not ask at all. -/

namespace OverSync.HTLCEscrow

open Function Library

variable {Digest : Type} {H : HashFunctions Digest} {C : Deployment}

/-- A block at `timestamp` that finds the configured registry in the state `R`. -/
def Env.against (timestamp : ℕ) (R : ResolverRegistry.State) : Env where
  timestamp := timestamp
  isActive := fun a => some (R.isActive a)

variable {R R₁ R₂ : ResolverRegistry.State} {timestamp sender : ℕ} {e : Error}

theorem requireActive_congr
    (h : C.resolverRegistry = zeroAddress ∨ R₁.isActive sender = R₂.isActive sender) :
    requireActive C (.against timestamp R₁) sender e =
      requireActive C (.against timestamp R₂) sender e := by
  unfold requireActive
  by_cases hregistry : C.resolverRegistry = zeroAddress
  · rw [if_pos hregistry, if_pos hregistry]
  · have hsame := h.resolve_left hregistry
    simp [Env.against, hsame]

theorem requireActive_inactive (hregistry : C.resolverRegistry ≠ zeroAddress)
    (h : R.isActive sender = false) :
    requireActive C (.against timestamp R) sender e = .error e := by
  simp [requireActive, hregistry, Env.against, h, require]

variable [DecidableEq Digest] {orderId : OrderId} {preimage : Bytes}
  {payee caller : List (Call Digest) × Bool} {s : State Digest}

/-- Two registry states with the same answer about the caller are as good as one. -/
theorem claimOrder_same
    (h : C.resolverRegistry = zeroAddress ∨ R₁.isActive sender = R₂.isActive sender) :
    exec H C (.against timestamp R₁) (.claimOrder sender orderId preimage payee caller) s =
      exec H C (.against timestamp R₂) (.claimOrder sender orderId preimage payee caller) s := by
  rw [exec_claimOrder, exec_claimOrder]
  unfold claimOrder
  rw [requireActive_congr h]
  rfl

/-- The claim of an inactive caller fails, whatever its preimage. -/
theorem claimOrder_inactive (hregistry : C.resolverRegistry ≠ zeroAddress)
    (h : R.isActive sender = false) (hidle : s.entered = false)
    (hamount : (s.orders orderId).amount ≠ 0) (hfunded : (s.orders orderId).status = .funded)
    (htime : timestamp ≤ (s.orders orderId).timelock) :
    exec H C (.against timestamp R) (.claimOrder sender orderId preimage payee caller) s =
      .error .claimResolverNotRegistered := by
  have htime' : (Env.against timestamp R).timestamp ≤ (s.orders orderId).timelock := htime
  rw [exec_claimOrder]
  simp only [claimOrder, require_of hidle, require_of hamount, require_of hfunded,
    require_of htime', requireActive_inactive hregistry h, ok_bind, error_bind]

theorem refundOrder_same :
    exec H C (.against timestamp R₁) (.refundOrder sender orderId payee caller) s =
      exec H C (.against timestamp R₂) (.refundOrder sender orderId payee caller) s := by
  rw [exec_refundOrder, exec_refundOrder]
  rfl

/-- A claim on a funded order before its timelock fails for a caller that the configured
registry does not count as active; otherwise no state of the registry makes a difference to it,
and none ever does to a refund. -/
theorem claim_gated (H : HashFunctions Digest) (C : Deployment) (timestamp : ℕ)
    (sender : Address) (orderId : OrderId) (preimage : Bytes)
    (payee caller : List (Call Digest) × Bool) (s : State Digest)
    (R₁ R₂ : ResolverRegistry.State) :
    (C.resolverRegistry = zeroAddress ∨ R₁.isActive sender = R₂.isActive sender →
      exec H C (.against timestamp R₁) (.claimOrder sender orderId preimage payee caller) s =
        exec H C (.against timestamp R₂) (.claimOrder sender orderId preimage payee caller) s) ∧
    (C.resolverRegistry ≠ zeroAddress → R₁.isActive sender = false → s.entered = false →
      (s.orders orderId).amount ≠ 0 → (s.orders orderId).status = .funded →
      timestamp ≤ (s.orders orderId).timelock →
      exec H C (.against timestamp R₁) (.claimOrder sender orderId preimage payee caller) s =
        .error .claimResolverNotRegistered) ∧
    exec H C (.against timestamp R₁) (.refundOrder sender orderId payee caller) s =
      exec H C (.against timestamp R₂) (.refundOrder sender orderId payee caller) s :=
  ⟨claimOrder_same, claimOrder_inactive, refundOrder_same⟩

/-! ## A beneficiary that is slashed -/

section Runs

/-- An escrow at 1 with the registry at 50. -/
def gatedDeployment : Deployment := ⟨1, 50, 0⟩

/-- The registry after resolver 2 has registered. -/
def staked : ResolverRegistry.State :=
  { ResolverRegistry.opened with
    resolvers := update ResolverRegistry.opened.resolvers 2 (.fresh 2 100 1)
    resolverList := [2]
    resolverIndex := update ResolverRegistry.opened.resolverIndex 2 1
    balance := 100 }

/-- The registry after some of that stake has been slashed. -/
def slashed : ResolverRegistry.State :=
  { staked with
    resolvers := update staked.resolvers 2 ((staked.resolvers 2).slashed 30 100 3)
    balance := 70 }

theorem staked_run : Execution (ResolverRegistry.Step 50) ResolverRegistry.opened
    [.transaction 1 (.register 2 100 ([], true)) (.ok (.registered 2 100))] staked :=
  .single (.success (by decide) (by decide) rfl)

theorem slashed_run : Execution (ResolverRegistry.Step 50) staked
    [.transaction 3 (.slash 9 2 30 ([], true)) (.ok (.slashed 2 30 12))] slashed :=
  .single (.success (by decide) (by decide) rfl)

/-- One wei for the resolver 2 under the digest of `[7]`. -/
def gatedOrder : CreateOrderArgs Bytes := ⟨2, 4, zeroAddress, 1, 0, [1, 7], 300⟩

def gatedState : State Bytes where
  nextOrderId := 2
  orders := update (fun _ => Order.unset taggedHash) 1 (gatedOrder.order taggedHash 2 2)
  entered := false
  ethBalance := 1
  tokenBalance := fun _ => 0

theorem gatedState_run : Execution (Step taggedHash gatedDeployment) (State.deployed taggedHash)
    [.transaction (.against 2 staked) (.createOrder 2 1 gatedOrder ([], true))
      (.ok ⟨.orderCreated 1 2 2 zeroAddress 1 0 [1, 7] 302, []⟩)] gatedState :=
  .single (.success (by decide) rfl)

/-- The claim of the order by its beneficiary at time 4. -/
def gatedClaim (R : ResolverRegistry.State) : Except Error (State Bytes × Receipt Bytes) :=
  exec taggedHash gatedDeployment (.against 4 R) (.claimOrder 2 1 [7] ([], true) ([], true))
    gatedState

/-- A slash after the creation of an order keeps its beneficiary from claiming it. -/
theorem slash_blocks_claim : ∃ created more, Execution (ResolverRegistry.Step 50)
      ResolverRegistry.opened created staked ∧
    Execution (ResolverRegistry.Step 50) staked more slashed ∧
    (gatedState.orders 1).status = .funded ∧ 4 ≤ (gatedState.orders 1).timelock ∧
    taggedHash.sha256 [7] = (gatedState.orders 1).hashlock ∧
    ¬((∃ r, gatedClaim staked = .ok r) ↔ ∃ r, gatedClaim slashed = .ok r) := by
  refine ⟨_, _, staked_run, slashed_run, rfl, by decide, rfl, fun h => ?_⟩
  obtain ⟨r, hr⟩ := h.mp ⟨_, rfl⟩
  have hblocked : gatedClaim slashed = .error .claimResolverNotRegistered :=
    claimOrder_inactive (by decide) rfl rfl (by decide) rfl (by decide)
  rw [hblocked] at hr
  cases hr

theorem claim_gated_slashed :
    gatedClaim slashed = .error .claimResolverNotRegistered :=
  (claim_gated taggedHash gatedDeployment 4 2 1 [7] ([], true) ([], true) gatedState slashed
    staked).2.1 (by decide) rfl rfl (by decide) rfl (by decide)

end Runs

end OverSync.HTLCEscrow
