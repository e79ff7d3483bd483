import OverSync.Verification.E2eSim.Chains
import OverSync.Verification.SorobanHtlc.Settlement

/-! # `oversync-htlc` beside a simulator

The contract stores the orders of the simulator, so its calls succeed for the reasons it gives. -/

namespace OverSync.E2eSim

open Function Library Library.Escrow SorobanHtlc

variable {S : Setting} {s s' : State Bytes} {sim sim' : HtlcSim} {order : OrderView} {now : ℕ}
  {id : ℤ} {orderId : OrderId} {op : Op}

/-! ## Stored orders -/

/-- An order of the simulator as the contract stores it. -/
structure HtlcEntry (S : Setting) (order : OrderView) (stored : Order Bytes) : Prop where
  hashlock : stored.hashlock = hexToUint8 order.hashlock
  timelock : stored.timelock = order.timelockAbsolute
  status : ofHtlc stored.status = order.status
  deposit : stored.safetyDeposit = 0
  asset : stored.asset = S.asset
  beneficiary_ne : stored.beneficiary ≠ S.htlc
  refundAddress_ne : stored.refundAddress ≠ S.htlc

/-- The contract stores the orders of the simulator, and has got there by invocations. -/
structure HtlcHolds (S : Setting) (sim : HtlcSim) (s : State Bytes) : Prop where
  admin : s.inst.admin = some S.admin
  minimum : s.inst.minSafetyDeposit = some 0
  registry : s.inst.resolverRegistry = none
  next : (s.nextOrderId.val : ℤ) = sim.nextId
  entries : ∀ id : OrderId, Option.Rel (HtlcEntry S) (sim.orders id.val) (s.orders id)
  reached : ∃ records, Execution (Step S.sha256 S.htlc) State.deployed records s

theorem HtlcHolds.initial (S : Setting) (now : ℕ) :
    HtlcHolds S (.new now) (System.initial S now).htlc where
  admin := rfl
  minimum := rfl
  registry := rfl
  next := rfl
  entries _ := .none
  reached := by
    have hauth : requireAuth (S.htlcEnv now) S.admin = .ok () := require_of ⟨S.admin_ne, rfl⟩
    have hinitialise : exec S.sha256 (S.htlcEnv now) State.deployed (.initialise S.admin 0) =
        .ok ((System.initial S now).htlc, ⟨none, []⟩) := by
      simp only [exec, initialise, hauth]
      rfl
    exact ⟨_, .single (.success rfl hinitialise)⟩

theorem HtlcEntry.funded_iff {stored : Order Bytes} (h : HtlcEntry S order stored) :
    stored.status = .funded ↔ order.status = .funded := by
  rw [← h.status]
  cases stored.status <;> simp [ofHtlc]

theorem uint64Argument_eq_some : uint64Argument id = some orderId ↔ (orderId.val : ℤ) = id := by
  unfold uint64Argument
  split
  · next h =>
      rw [Option.some.injEq]
      constructor
      · rintro rfl
        exact Int.toNat_of_nonneg h.1
      · rintro rfl
        rfl
  · next h =>
      refine iff_of_false nofun ?_
      rintro rfl
      exact h ⟨Int.natCast_nonneg _, orderId.isLt⟩

/-- Every order of the simulator has an id of the contract. -/
theorem HtlcSim.Sound.uint64 (h : sim.Sound) (horder : sim.orders id = some order) :
    ∃ orderId, uint64Argument id = some orderId := by
  obtain ⟨hpos, hlt, -⟩ := h.ids id order horder
  have hbound := h.next_lt
  exact ⟨_, dif_pos ⟨by omega, by omega⟩⟩

/-- A funded order of the simulator is one of the contract. -/
theorem HtlcHolds.entry_of_held (h : HtlcHolds S sim s) (hheld : sim.Held orderId.val order) :
    ∃ stored, s.orders orderId = some stored ∧ stored.status = .funded ∧
      HtlcEntry S order stored := by
  have hentry := h.entries orderId
  rw [hheld.1] at hentry
  generalize hstored : s.orders orderId = found at hentry
  cases hentry with
  | some hentry => exact ⟨_, rfl, hentry.funded_iff.mpr hheld.2, hentry⟩

theorem HtlcHolds.held_of_entry (h : HtlcHolds S sim s) {stored : Order Bytes}
    (hstored : s.orders orderId = some stored) (hfunded : stored.status = .funded) :
    ∃ order, sim.Held orderId.val order ∧ HtlcEntry S order stored := by
  have hentry := h.entries orderId
  rw [hstored] at hentry
  generalize horder : sim.orders orderId.val = found at hentry
  cases hentry with
  | some hentry => exact ⟨_, ⟨horder, hentry.funded_iff.mp hfunded⟩, hentry⟩

theorem HtlcHolds.status (h : HtlcHolds S sim s) (hsound : sim.Sound) (id : ℤ) :
    sim.statusOf id = htlcStatus s id := by
  rw [HtlcSim.statusOf, htlcStatus]
  cases hid : uint64Argument id with
  | none =>
      cases horder : sim.orders id with
      | none => rfl
      | some order =>
          obtain ⟨orderId, hsome⟩ := hsound.uint64 horder
          rw [hid] at hsome
          contradiction
  | some orderId =>
      obtain rfl := uint64Argument_eq_some.mp hid
      have hentry := h.entries orderId
      rw [Option.bind_some]
      generalize sim.orders orderId.val = found, s.orders orderId = stored at hentry
      cases hentry with
      | none => rfl
      | some hentry => exact congrArg some hentry.status.symm

/-! ## Payments -/

/-- A payment goes through where the contract holds the amount. -/
theorem settle_ok {env : Env} {stored : Order Bytes} {recipient : Address} (caller : Address)
    (hasset : stored.asset ≠ env.self) (hdeposit : stored.safetyDeposit = 0)
    (hamount : stored.amount ≤ s.balance stored.asset) :
    ∃ r, settle env stored recipient caller true true s = .ok r := by
  rw [settle, payTransfer]
  simp only [require_of hasset, require_of hamount, ok_bind, hdeposit]
  exact ⟨_, rfl⟩

/-- What a funded order locks is in the contract. -/
theorem HtlcHolds.settles (h : HtlcHolds S sim s) {stored : Order Bytes}
    (hstored : s.orders orderId = some stored) (hfunded : stored.status = .funded)
    (hentry : HtlcEntry S order stored) (now : ℕ) (recipient caller : Address) :
    ∃ r, settle (S.htlcEnv now) stored recipient caller true true s = .ok r := by
  obtain ⟨records, hrun⟩ := h.reached
  have hlocked := covered_of_execution hrun orderId stored hstored hfunded
  rw [hentry.deposit, add_zero] at hlocked
  have hasset : stored.asset ≠ S.htlc := by
    rw [hentry.asset]
    exact S.asset_ne
  exact settle_ok caller hasset hentry.deposit hlocked

/-! ## Which calls succeed -/

/-- What the contract asks of a new order. -/
def HtlcCreatable (now : ℕ) (next : ℤ) (input : CreateOrderInput) : Prop :=
  isHashlock input.hashlock ∧
    (E2eSim.minTimelock ≤ input.timelockSeconds ∧ input.timelockSeconds ≤ E2eSim.maxTimelock) ∧
    now + input.timelockSeconds < 2 ^ 64 ∧ next + 1 < 2 ^ 64

theorem requireAuth_all {address : Address} (h : address ≠ S.htlc) :
    requireAuth (S.htlcEnv now) address = .ok () :=
  require_of ⟨h, rfl⟩

theorem HtlcHolds.createOrder_isOk_iff (h : HtlcHolds S sim s) (request : CreateRequest)
    (hashlock : Bytes) :
    (∃ r, createOrder (S.htlcEnv now) (S.htlcArgs request.toCreateOrderInput hashlock) true s =
        .ok r) ↔
      (E2eSim.minTimelock ≤ request.timelockSeconds ∧
          request.timelockSeconds ≤ E2eSim.maxTimelock) ∧
        now + request.timelockSeconds < 2 ^ 64 ∧ sim.nextId + 1 < 2 ^ 64 := by
  have hadmin : s.inst.admin ≠ none := by simp [h.admin]
  have hsender : requireAuth (S.htlcEnv now)
      (S.htlcArgs request.toCreateOrderInput hashlock).sender = .ok () :=
    requireAuth_all (S.stellarAccount_ne _)
  have hamount : 0 < (S.htlcArgs request.toCreateOrderInput hashlock).amount := request.amount_pos
  have hdeposit : 0 ≤ (S.htlcArgs request.toCreateOrderInput hashlock).safetyDeposit := le_rfl
  have hminimum : s.inst.minSafetyDeposit.getD 0 ≤
      (S.htlcArgs request.toCreateOrderInput hashlock).safetyDeposit := by
    rw [h.minimum]
    exact le_rfl
  have hresolver : requireResolver (S.htlcEnv now)
      (S.htlcArgs request.toCreateOrderInput hashlock).sender s = .ok () := by
    rw [requireResolver, h.registry]
  have hnext := h.next
  rw [createOrder, requireInitialised]
  simp only [require_of hadmin, hsender, require_of hamount, require_of hdeposit,
    require_of hminimum, hresolver, ok_bind, require_bind_eq_ok, exists_and_left]
  refine and_congr_right fun _ => ?_
  constructor
  · rintro ⟨r, hok⟩
    obtain ⟨timelock, htimelock, hok⟩ := bind_eq_ok.mp hok
    obtain ⟨next, hcounted, -⟩ := bind_eq_ok.mp hok
    obtain ⟨htime, -⟩ := checkedAddU64_eq_ok.mp htimelock
    obtain ⟨hlt, -⟩ := nextId_eq_ok.mp hcounted
    change s.nextOrderId.val + 1 < 2 ^ 64 at hlt
    exact ⟨htime, by omega⟩
  · rintro ⟨htime, hcounted⟩
    have hlt : s.nextOrderId.val + 1 < 2 ^ 64 := by omega
    have htotal : -2 ^ 127 ≤ (S.htlcArgs request.toCreateOrderInput hashlock).amount + 0 ∧
        (S.htlcArgs request.toCreateOrderInput hashlock).amount + 0 < 2 ^ 127 := by
      have hbelow : (S.htlcArgs request.toCreateOrderInput hashlock).amount < 2 ^ 127 :=
        request.amount_lt
      omega
    exact ⟨_, bind_eq_ok.mpr ⟨_, checkedAddU64_eq_ok.mpr ⟨htime, rfl⟩,
      bind_eq_ok.mpr ⟨_, nextId_eq_ok.mpr ⟨hlt, rfl⟩,
        bind_eq_ok.mpr ⟨_, checkedAddI128_eq_ok.mpr ⟨htotal, rfl⟩,
          bind_eq_ok.mpr ⟨_, require_bind_eq_ok.mpr ⟨⟨S.asset_ne, rfl⟩, rfl⟩, rfl⟩⟩⟩⟩⟩

theorem HtlcHolds.opens_iff (hsound : sim.Sound) (hheld : sim.Held orderId.val order)
    {stored : Order Bytes} (hentry : HtlcEntry S order stored) {bytes : Bytes} :
    bytes ≠ [] ∧ S.sha256 (hashInput orderId bytes) = stored.hashlock ↔
      S.OpensBound order bytes := by
  obtain ⟨-, -, hid⟩ := hsound.ids _ order hheld.1
  rw [Setting.OpensBound, hid, hashInput_eq, hentry.hashlock]
  rfl

theorem HtlcHolds.claimOrder_isOk_iff (h : HtlcHolds S sim s) (hsound : sim.Sound)
    (caller : String) (bytes : Bytes) :
    (∃ r, SorobanHtlc.claimOrder S.sha256 (S.htlcEnv now) orderId bytes (S.stellarAccount caller)
        true true s = .ok r) ↔
      ∃ order, sim.Held orderId.val order ∧ now ≤ order.timelockAbsolute ∧
        S.OpensBound order bytes := by
  obtain ⟨records, hrun⟩ := h.reached
  constructor
  · rintro ⟨⟨s', receipt⟩, hok⟩
    obtain ⟨stored, hspec, htime, hne, hsha, -⟩ := claimOrder_eq_ok (inv_of_execution hrun) hok
    obtain ⟨order, hheld, hentry⟩ := h.held_of_entry hspec.entry hspec.funded
    rw [hentry.timelock] at htime
    exact ⟨order, hheld, htime, (HtlcHolds.opens_iff hsound hheld hentry).mp ⟨hne, hsha⟩⟩
  · rintro ⟨order, hheld, htime, hopens⟩
    obtain ⟨stored, hstored, hfunded, hentry⟩ := h.entry_of_held hheld
    obtain ⟨hne, hsha⟩ := (HtlcHolds.opens_iff hsound hheld hentry).mpr hopens
    have hadmin : s.inst.admin ≠ none := by simp [h.admin]
    have hintime : (S.htlcEnv now).timestamp ≤ stored.timelock := by
      rw [hentry.timelock]
      exact htime
    have hlength : bytes.length ≠ 0 := fun hzero => hne (List.length_eq_zero_iff.mp hzero)
    obtain ⟨r, hsettle⟩ := h.settles hstored hfunded hentry now stored.beneficiary
      (S.stellarAccount caller)
    rw [SorobanHtlc.claimOrder, requireInitialised]
    simp only [require_of hadmin, requireAuth_all (S.stellarAccount_ne _),
      getOrder_eq_ok.mpr hstored, require_of hfunded, require_of hintime, require_of hlength,
      require_of hsha, hsettle, ok_bind]
    exact ⟨_, rfl⟩

theorem HtlcHolds.refundOrder_isOk_iff (h : HtlcHolds S sim s) (caller : String) :
    (∃ r, SorobanHtlc.refundOrder (S.htlcEnv now) orderId (S.stellarAccount caller) true true s =
        .ok r) ↔
      ∃ order, sim.Held orderId.val order ∧ order.timelockAbsolute < now := by
  obtain ⟨records, hrun⟩ := h.reached
  constructor
  · rintro ⟨⟨s', receipt⟩, hok⟩
    obtain ⟨stored, hspec, htime, -⟩ :=
      SorobanHtlc.refundOrder_eq_ok (inv_of_execution hrun) hok
    obtain ⟨order, hheld, hentry⟩ := h.held_of_entry hspec.entry hspec.funded
    rw [hentry.timelock] at htime
    exact ⟨order, hheld, htime⟩
  · rintro ⟨order, hheld, htime⟩
    obtain ⟨stored, hstored, hfunded, hentry⟩ := h.entry_of_held hheld
    have hadmin : s.inst.admin ≠ none := by simp [h.admin]
    have hexpired : stored.timelock < (S.htlcEnv now).timestamp := by
      rw [hentry.timelock]
      exact htime
    obtain ⟨r, hsettle⟩ := h.settles hstored hfunded hentry now stored.refundAddress
      (S.stellarAccount caller)
    rw [SorobanHtlc.refundOrder, requireInitialised]
    simp only [require_of hadmin, requireAuth_all (S.stellarAccount_ne _),
      getOrder_eq_ok.mpr hstored, require_of hfunded, require_of hexpired, hsettle, ok_bind]
    exact ⟨_, rfl⟩

/-- The contract accepts what the rules say, with a hashlock over the id and the preimage. -/
theorem htlcExec_accepts (h : HtlcHolds S sim s) (hsound : sim.Sound) :
    (htlcExec S sim.now op s).isSome ↔
      Accepts (HtlcCreatable sim.now sim.nextId) S.OpensBound sim op := by
  cases op with
  | createOrder request =>
      simp only [htlcExec, Setting.htlcCall, bytes32Argument_eq, Accepts, HtlcCreatable]
      by_cases hlock : isHashlock request.hashlock
      · rw [if_pos hlock, Option.map_some, Option.bind_some, Option.isSome_map, isSome_toOption,
          exec, h.createOrder_isOk_iff, and_iff_right hlock]
      · rw [if_neg hlock]
        exact iff_of_false (by simp) fun hvalid => hlock hvalid.1
  | claimOrder caller id preimage =>
      simp only [htlcExec, Setting.htlcCall, Accepts]
      cases hid : uint64Argument id with
      | none =>
          refine iff_of_false (by simp) ?_
          rintro ⟨order, hheld, -⟩
          obtain ⟨orderId, hsome⟩ := hsound.uint64 hheld.1
          rw [hid] at hsome
          contradiction
      | some orderId =>
          obtain rfl := uint64Argument_eq_some.mp hid
          cases bytesArgument preimage with
          | none => simp
          | some bytes =>
              rw [Option.bind_some, Option.map_some, Option.bind_some, Option.isSome_map,
                isSome_toOption, exec, h.claimOrder_isOk_iff hsound]
              simp
  | refundOrder caller id =>
      simp only [htlcExec, Setting.htlcCall, Accepts]
      cases hid : uint64Argument id with
      | none =>
          refine iff_of_false (by simp) ?_
          rintro ⟨order, hheld, -⟩
          obtain ⟨orderId, hsome⟩ := hsound.uint64 hheld.1
          rw [hid] at hsome
          contradiction
      | some orderId =>
          obtain rfl := uint64Argument_eq_some.mp hid
          rw [Option.map_some, Option.bind_some, Option.isSome_map, isSome_toOption, exec,
            h.refundOrder_isOk_iff]
  | advanceTime seconds => exact iff_of_true rfl trivial

/-! ## What they do -/

/-- The order of the request, as the contract stores it. -/
theorem htlcEntry_order (request : CreateRequest)
    (hfits : now + request.timelockSeconds ≤ 2 ^ 53) :
    HtlcEntry S (request.order id now)
      ((S.htlcArgs request.toCreateOrderInput (hexToUint8 request.hashlock)).order orderId
        now) where
  hashlock := rfl
  timelock := (Double.add_of_le hfits).symm
  status := rfl
  deposit := rfl
  asset := rfl
  beneficiary_ne := S.stellarAccount_ne _
  refundAddress_ne := S.stellarAccount_ne _

/-- The order once it has come to its end. -/
theorem HtlcEntry.settled {stored settled : Order Bytes} (h : HtlcEntry S order stored)
    {status : OrderStatus} (hstatus : ofHtlc settled.status = status)
    (hsame : settled = { stored with
      status := settled.status
      finalisedAt := settled.finalisedAt
      preimage := settled.preimage }) :
    HtlcEntry S { order with status, finalisedAt := now } settled := by
  rw [hsame]
  exact ⟨h.hashlock, h.timelock, hstatus, h.deposit, h.asset, h.beneficiary_ne,
    h.refundAddress_ne⟩

/-- Contract and simulator store an order under the same id. -/
theorem HtlcHolds.store (h : HtlcHolds S sim s) {stored : Order Bytes}
    (hadmin : s'.inst.admin = s.inst.admin)
    (hminimum : s'.inst.minSafetyDeposit = s.inst.minSafetyDeposit)
    (hregistry : s'.inst.resolverRegistry = s.inst.resolverRegistry)
    (hnext : (s'.nextOrderId.val : ℤ) = sim'.nextId)
    (horders : s'.orders = update s.orders orderId (some stored))
    (hsim : sim'.orders = update sim.orders orderId.val (some order))
    (hentry : HtlcEntry S order stored) {record : Record Bytes}
    (hstep : Step S.sha256 S.htlc s record s') : HtlcHolds S sim' s' where
  admin := hadmin.trans h.admin
  minimum := hminimum.trans h.minimum
  registry := hregistry.trans h.registry
  next := hnext
  entries := by
    intro id
    rw [horders, hsim]
    by_cases hid : id = orderId
    · subst hid
      rw [update_self, update_self]
      exact .some hentry
    · have hval : (id.val : ℤ) ≠ orderId.val := fun heq => hid (Fin.ext (Int.ofNat.inj heq))
      rw [update_of_ne hval, update_of_ne hid]
      exact h.entries id
  reached := by
    obtain ⟨records, hrun⟩ := h.reached
    exact ⟨_, hrun.snoc hstep⟩

theorem HtlcHolds.created (h : HtlcHolds S sim s) {request : CreateRequest}
    {receipt : Receipt Bytes} {record : Record Bytes}
    (hcreated : Created request.toCreateOrderInput sim sim')
    (hspec : CreateSpec (S.htlcEnv sim.now)
      (S.htlcArgs request.toCreateOrderInput (hexToUint8 request.hashlock)) s s' receipt)
    (hfits : sim.now + request.timelockSeconds ≤ 2 ^ 53)
    (hstep : Step S.sha256 S.htlc s record s') : HtlcHolds S sim' s' := by
  have hnext := h.next
  obtain ⟨hsim, hsimNext, -, -⟩ := hcreated
  have hinst := hspec.inst_eq hspec.counted
  have hsimOrders : sim'.orders =
      update sim.orders s.nextOrderId.val (some (request.order s.nextOrderId.val sim.now)) := by
    rw [hsim, hnext]
  refine h.store ?_ ?_ ?_ ?_ hspec.orders_eq hsimOrders (htlcEntry_order request hfits) hstep
  · rw [hinst]
  · rw [hinst]
  · rw [hinst]
  · rw [State.nextOrderId, hinst, hsimNext, ← hnext]
    rfl

theorem HtlcHolds.settled (h : HtlcHolds S sim s) {status : OrderStatus}
    {stored settled : Order Bytes} {recipient caller : Address} {transfers : List Transfer}
    {record : Record Bytes} (hfinalised : Finalised orderId.val order status sim sim')
    (hspec : SettleSpec (S.htlcEnv now) orderId stored settled recipient caller s s' transfers)
    (hentry : HtlcEntry S { order with status, finalisedAt := sim.now } settled)
    (hstep : Step S.sha256 S.htlc s record s') : HtlcHolds S sim' s' := by
  obtain ⟨hsim, hsimNext, -, -⟩ := hfinalised
  refine h.store ?_ ?_ ?_ ?_ hspec.orders_eq hsim hentry hstep
  · rw [hspec.inst_eq]
  · rw [hspec.inst_eq]
  · rw [hspec.inst_eq]
  · rw [State.nextOrderId, hspec.inst_eq, hsimNext]
    exact h.next

/-- An entry of the contract is the one of the order held under its id. -/
theorem HtlcHolds.entry_eq (h : HtlcHolds S sim s) {stored : Order Bytes}
    (hstored : s.orders orderId = some stored) (hheld : sim.Held orderId.val order) :
    HtlcEntry S order stored := by
  obtain ⟨other, hother, -, hentry⟩ := h.entry_of_held hheld
  rw [hstored, Option.some.injEq] at hother
  rw [hother]
  exact hentry

/-- An accepted call keeps contract and simulator together. -/
theorem htlcExec_moved (h : HtlcHolds S sim s) (hbounded : op.Bounded sim)
    (hexec : htlcExec S sim.now op s = some s') (hmoved : Moved sim sim' op) : HtlcHolds S sim' s' := by
  have hinv : Inv s := by
    obtain ⟨records, hrun⟩ := h.reached
    exact inv_of_execution hrun
  cases op with
  | createOrder request =>
      simp only [htlcExec, Setting.htlcCall, bytes32Argument_eq] at hexec
      split_ifs at hexec with hlock
      · rw [Option.map_some, Option.bind_some, Option.map_eq_some_iff] at hexec
        obtain ⟨⟨s', receipt⟩, hok, rfl⟩ := hexec
        rw [toOption_eq_some] at hok
        exact h.created hmoved (createOrder_eq_ok hok) hbounded.2.1 (.success rfl hok)
      · contradiction
  | claimOrder caller id preimage =>
      obtain ⟨order, hheld, hfinalised⟩ := hmoved
      simp only [htlcExec, Setting.htlcCall, Option.bind_eq_some_iff, Option.map_eq_some_iff,
        toOption_eq_some] at hexec
      obtain ⟨-, ⟨orderId, hid, bytes, -, rfl⟩, ⟨s', receipt⟩, hok, rfl⟩ := hexec
      obtain rfl := uint64Argument_eq_some.mp hid
      obtain ⟨stored, hspec, -⟩ := claimOrder_eq_ok hinv hok
      have hentry := h.entry_eq hspec.entry hheld
      exact h.settled hfinalised hspec (hentry.settled rfl rfl) (.success rfl hok)
  | refundOrder caller id =>
      obtain ⟨order, hheld, hfinalised⟩ := hmoved
      simp only [htlcExec, Setting.htlcCall, Option.bind_eq_some_iff, Option.map_eq_some_iff,
        toOption_eq_some] at hexec
      obtain ⟨-, ⟨orderId, hid, rfl⟩, ⟨s', receipt⟩, hok, rfl⟩ := hexec
      obtain rfl := uint64Argument_eq_some.mp hid
      obtain ⟨stored, hspec, -⟩ := SorobanHtlc.refundOrder_eq_ok hinv hok
      have hentry := h.entry_eq hspec.entry hheld
      exact h.settled hfinalised hspec (hentry.settled rfl rfl) (.success rfl hok)
  | advanceTime seconds =>
      cases hexec
      rw [show sim' = sim.advanceTime seconds from hmoved]
      exact ⟨h.admin, h.minimum, h.registry, h.next, h.entries, h.reached⟩

end OverSync.E2eSim
