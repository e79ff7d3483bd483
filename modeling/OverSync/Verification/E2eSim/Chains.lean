import OverSync.Library.Execution
import OverSync.Model.HTLCEscrow
import OverSync.Model.SorobanHtlc
import OverSync.Verification.E2eSim.Simulators

/-! # The simulators beside the contracts

One sequence of operations on both simulators and, as calls, on both contracts. The registries are
off, no deposits are asked for or paid, tokens let transfers through, and nobody calls back. -/

namespace OverSync.E2eSim

open Function Library

/-- Hash functions, accounts and assets. -/
structure Setting where
  sha256 : Bytes → Bytes
  keccak256 : Bytes → Bytes
  toLowerCase : String → String
  deployment : HTLCEscrow.Deployment
  gate_off : deployment.resolverRegistry = HTLCEscrow.zeroAddress
  no_deposit : deployment.minSafetyDeposit = 0
  token : HTLCEscrow.Address
  token_ne : token ≠ deployment.self
  ethAccount : String → HTLCEscrow.Address
  ethAccount_ne : ∀ party,
    ethAccount party ≠ HTLCEscrow.zeroAddress ∧ ethAccount party ≠ deployment.self
  htlc : SorobanHtlc.Address
  admin : SorobanHtlc.Address
  admin_ne : admin ≠ htlc
  asset : SorobanHtlc.Address
  asset_ne : asset ≠ htlc
  stellarAccount : String → SorobanHtlc.Address
  stellarAccount_ne : ∀ party, stellarAccount party ≠ htlc

/-- An input with an amount that the makers hold. -/
structure CreateRequest extends CreateOrderInput where
  amount_pos : 0 < amount.getD defaultEscrowAmount
  amount_lt : amount.getD defaultEscrowAmount < 2 ^ 127

/-- The caller of a claim or refund matters on the chains only. -/
inductive Op where
  | createOrder (request : CreateRequest)
  | claimOrder (caller : String) (id : ℤ) (preimage : String)
  | refundOrder (caller : String) (id : ℤ)
  | advanceTime (seconds : ℕ)

/-! ## Calls -/

def uint256Argument (id : ℤ) : Option HTLCEscrow.OrderId :=
  if h : 0 ≤ id ∧ id.toNat < 2 ^ 256 then some ⟨id.toNat, h.2⟩ else none

def uint64Argument (id : ℤ) : Option SorobanHtlc.OrderId :=
  if h : 0 ≤ id ∧ id.toNat < 2 ^ 64 then some ⟨id.toNat, h.2⟩ else none

variable (S : Setting)

def Setting.hashes : HTLCEscrow.HashFunctions Bytes where
  sha256 := S.sha256
  keccak256 := S.keccak256
  zero := List.replicate 32 0

def Setting.escrowArgs (input : CreateOrderInput) (hashlock : Bytes) :
    HTLCEscrow.CreateOrderArgs Bytes where
  beneficiary := S.ethAccount (input.recipient.getD defaultRecipient)
  refundAddress := S.ethAccount (input.maker.getD defaultMaker)
  token := S.token
  amount := (input.amount.getD defaultEscrowAmount).toNat
  safetyDeposit := 0
  hashlock := hashlock
  timelockSeconds := input.timelockSeconds

/-- ETH is sent along, tokens are pulled. -/
def Setting.escrowValue (input : CreateOrderInput) : ℕ :=
  if S.token = HTLCEscrow.zeroAddress then (input.amount.getD defaultEscrowAmount).toNat else 0

/-- The call of `HTLCEscrow`; there is none where an argument has no encoding. -/
def Setting.escrowCall : Op → Option (HTLCEscrow.Call Bytes)
  | .createOrder request =>
    (bytes32Argument request.hashlock).map fun hashlock =>
      .createOrder (S.ethAccount (request.maker.getD defaultMaker))
        (S.escrowValue request.toCreateOrderInput)
        (S.escrowArgs request.toCreateOrderInput hashlock) ([], true)
  | .claimOrder caller id preimage =>
    (uint256Argument id).bind fun orderId => (bytesArgument preimage).map fun bytes =>
      .claimOrder (S.ethAccount caller) orderId bytes ([], true) ([], true)
  | .refundOrder caller id =>
    (uint256Argument id).map fun orderId =>
      .refundOrder (S.ethAccount caller) orderId ([], true) ([], true)
  | .advanceTime _ => none

def Setting.htlcArgs (input : CreateOrderInput) (hashlock : Bytes) :
    SorobanHtlc.CreateOrderArgs Bytes where
  sender := S.stellarAccount (input.maker.getD defaultMaker)
  beneficiary := S.stellarAccount (input.recipient.getD defaultRecipient)
  refundAddress := S.stellarAccount (input.maker.getD defaultMaker)
  asset := S.asset
  amount := input.amount.getD defaultEscrowAmount
  safetyDeposit := 0
  hashlock := hashlock
  timelockSeconds := input.timelockSeconds

/-- The call of `oversync-htlc`. -/
def Setting.htlcCall : Op → Option (SorobanHtlc.Call Bytes)
  | .createOrder request =>
    (bytes32Argument request.hashlock).map fun hashlock =>
      .createOrder (S.htlcArgs request.toCreateOrderInput hashlock) true
  | .claimOrder caller id preimage =>
    (uint64Argument id).bind fun orderId => (bytesArgument preimage).map fun bytes =>
      .claimOrder orderId bytes (S.stellarAccount caller) true true
  | .refundOrder caller id =>
    (uint64Argument id).map fun orderId =>
      .refundOrder orderId (S.stellarAccount caller) true true
  | .advanceTime _ => none

def escrowEnv (now : ℕ) : HTLCEscrow.Env := ⟨now, fun _ => none⟩

def Setting.htlcEnv (now : ℕ) : SorobanHtlc.Env := ⟨S.htlc, now, fun _ => true, fun _ _ => none⟩

/-! ## One operation on each -/

/-- `none` is a thrown error. -/
def simExec (claimOrder : (Bytes → Bytes) → ℤ → String → HtlcSim → Except SimError HtlcSim)
    (op : Op) (sim : HtlcSim) : Option HtlcSim :=
  match op with
  | .createOrder request =>
    (sim.createOrder S.toLowerCase request.toCreateOrderInput).toOption.map Prod.fst
  | .claimOrder _ id preimage => (claimOrder S.sha256 id preimage sim).toOption
  | .refundOrder _ id => (sim.refundOrder id).toOption
  | .advanceTime seconds => some (sim.advanceTime seconds)

/-- `none` is a call that reverts or cannot be made. Time passes without a call. -/
def escrowExec (now : ℕ) (op : Op) (s : HTLCEscrow.State Bytes) :
    Option (HTLCEscrow.State Bytes) :=
  match op with
  | .advanceTime _ => some s
  | op => (S.escrowCall op).bind fun call =>
      (HTLCEscrow.exec S.hashes S.deployment (escrowEnv now) call s).toOption.map Prod.fst

def htlcExec (now : ℕ) (op : Op) (s : SorobanHtlc.State Bytes) :
    Option (SorobanHtlc.State Bytes) :=
  match op with
  | .advanceTime _ => some s
  | op => (S.htlcCall op).bind fun call =>
      (SorobanHtlc.exec S.sha256 (S.htlcEnv now) s call).toOption.map Prod.fst

/-! ## Statuses -/

def HtlcSim.statusOf (sim : HtlcSim) (id : ℤ) : Option OrderStatus :=
  (sim.orders id).map (·.status)

def ofEscrow : HTLCEscrow.OrderStatus → OrderStatus
  | .funded => .funded
  | .claimed => .claimed
  | .refunded => .refunded

/-- `getOrder` of the escrow; an order without an amount does not exist. -/
def escrowStatus (s : HTLCEscrow.State Bytes) (id : ℤ) : Option OrderStatus :=
  (uint256Argument id).bind fun orderId =>
    if (s.orders orderId).amount = 0 then none else some (ofEscrow (s.orders orderId).status)

def ofHtlc : SorobanHtlc.OrderStatus → OrderStatus
  | .funded => .funded
  | .claimed => .claimed
  | .refunded => .refunded

def htlcStatus (s : SorobanHtlc.State Bytes) (id : ℤ) : Option OrderStatus :=
  (uint64Argument id).bind fun orderId => (s.orders orderId).map fun order => ofHtlc order.status

/-! ## Simulators and contracts side by side -/

/-- The clock is that of the chains. -/
structure System where
  clock : ℕ
  evmSim : HtlcSim
  escrow : HTLCEscrow.State Bytes
  sorobanSim : HtlcSim
  htlc : SorobanHtlc.State Bytes

/-- Just constructed, deployed and initialised. -/
def System.initial (now : ℕ) : System where
  clock := now
  evmSim := .new now
  escrow := .deployed S.hashes
  sorobanSim := .new now
  htlc := { (SorobanHtlc.State.deployed : SorobanHtlc.State Bytes) with
    inst := ⟨some S.admin, some 1, some 0, none⟩ }

def System.onEvmSim (q : System) (op : Op) : Option HtlcSim :=
  simExec S EvmHtlcSim.claimOrder op q.evmSim

def System.onEscrow (q : System) (op : Op) : Option (HTLCEscrow.State Bytes) :=
  escrowExec S q.clock op q.escrow

def System.onSorobanSim (q : System) (op : Op) : Option HtlcSim :=
  simExec S SorobanHtlcSim.claimOrder op q.sorobanSim

def System.onHtlc (q : System) (op : Op) : Option (SorobanHtlc.State Bytes) :=
  htlcExec S q.clock op q.htlc

/-- How much time an operation lets pass. -/
def Op.duration : Op → ℕ
  | .advanceTime seconds => seconds
  | _ => 0

/-- A refused operation changes nothing. -/
def System.run (op : Op) (q : System) : System where
  clock := q.clock + op.duration
  evmSim := (q.onEvmSim S op).getD q.evmSim
  escrow := (q.onEscrow S op).getD q.escrow
  sorobanSim := (q.onSorobanSim S op).getD q.sorobanSim
  htlc := (q.onHtlc S op).getD q.htlc

def System.SameStatuses (q : System) : Prop :=
  ∀ id, q.evmSim.statusOf id = escrowStatus q.escrow id ∧
    q.sorobanSim.statusOf id = htlcStatus q.htlc id

/-- Simulators and contracts accept the same, and afterwards the orders have the same
statuses. -/
def System.Agrees (q : System) (op : Op) : Prop :=
  ((q.onEvmSim S op).isSome ↔ (q.onEscrow S op).isSome) ∧
    ((q.onSorobanSim S op).isSome ↔ (q.onHtlc S op).isSome) ∧ (q.run S op).SameStatuses

/-! ## Where the simulators are faithful -/

/-- The preimage alone hashes to the hashlock. -/
def Setting.OpensBare (order : OrderView) (bytes : Bytes) : Prop :=
  S.sha256 bytes = hexToUint8 order.hashlock

/-- A preimage that is not empty hashes to the hashlock behind the order id. -/
def Setting.OpensBound (order : OrderView) (bytes : Bytes) : Prop :=
  bytes ≠ [] ∧ S.sha256 (toBigEndian 32 order.id.toNat ++ bytes) = hexToUint8 order.hashlock

/-- The time that an operation leads to, or that it writes down, is a number of seconds that
doubles count exactly. -/
def System.InRange (q : System) : Op → Prop
  | .createOrder request => q.clock + request.timelockSeconds ≤ 2 ^ 53
  | .claimOrder _ _ _ => True
  | .refundOrder _ _ => True
  | .advanceTime seconds => q.clock + seconds ≤ 2 ^ 53

instance (q : System) : DecidablePred q.InRange
  | .createOrder _ => inferInstanceAs (Decidable (_ ≤ _))
  | .claimOrder _ _ _ => .isTrue trivial
  | .refundOrder _ _ => .isTrue trivial
  | .advanceTime _ => inferInstanceAs (Decidable (_ ≤ _))

/-- An order is created with a hashlock that is not zero, while ids are left. A claim in time of a funded order opens
its hashlock both bare and bound to the id, and then the hashlock is in lower case, or neither
way. -/
def System.Conforms (q : System) : Op → Prop
  | .createOrder request => isHashlock request.hashlock → minTimelock ≤ request.timelockSeconds →
      request.timelockSeconds ≤ maxTimelock →
      (isZero request.hashlock = false ↔ q.evmSim.nextId + 1 < 2 ^ 64)
  | .claimOrder _ id preimage => ∀ order, q.evmSim.Held id order →
      q.evmSim.now ≤ order.timelockAbsolute → ∀ bytes, bytesArgument preimage = some bytes →
      (S.OpensBare order bytes ↔ S.OpensBound order bytes) ∧
        (S.OpensBound order bytes → isLowerCase order.hashlock)
  | .refundOrder _ _ => True
  | .advanceTime _ => True

/-! ## One rule book for all four

Simulators and contracts follow the same rules, up to what they ask of a new order and of a
preimage. -/

/-- What holds of a simulator that numbers its orders with 64 bits. -/
structure HtlcSim.Sound (sim : HtlcSim) : Prop where
  gate : sim.registryEnabled = false
  next_pos : 1 ≤ sim.nextId
  next_lt : sim.nextId < 2 ^ 64
  ids : ∀ id order, sim.orders id = some order → 1 ≤ id ∧ id < sim.nextId ∧ order.id = id
  hashlocks : ∀ id order, sim.orders id = some order → isHashlock order.hashlock

/-- When an operation is accepted. -/
def Accepts (creatable : CreateOrderInput → Prop) (opens : OrderView → Bytes → Prop)
    (sim : HtlcSim) : Op → Prop
  | .createOrder request => creatable request.toCreateOrderInput
  | .claimOrder _ id preimage => ∃ order, sim.Held id order ∧ sim.now ≤ order.timelockAbsolute ∧
      ∃ bytes, bytesArgument preimage = some bytes ∧ opens order bytes
  | .refundOrder _ id => ∃ order, sim.Held id order ∧ order.timelockAbsolute < sim.now
  | .advanceTime _ => True

/-- What an accepted operation does to the simulator. -/
def Moved (sim sim' : HtlcSim) : Op → Prop
  | .createOrder request => Created request.toCreateOrderInput sim sim'
  | .claimOrder _ id _ => ∃ order, sim.Held id order ∧ Finalised id order .claimed sim sim'
  | .refundOrder _ id => ∃ order, sim.Held id order ∧ Finalised id order .refunded sim sim'
  | .advanceTime seconds => sim' = sim.advanceTime seconds

/-- The hashlock is one of the contracts', and in lower case. -/
def Setting.OpensText (order : OrderView) (bytes : Bytes) : Prop :=
  S.OpensBound order bytes ∧ isLowerCase order.hashlock

variable {S} {sim sim' : HtlcSim} {op : Op}

theorem opensText_iff (h : sim.Sound) {id : ℤ} {order : OrderView} (hheld : sim.Held id order)
    {preimage : String} : order.OpensText S.sha256 id preimage ↔
      ∃ bytes, bytesArgument preimage = some bytes ∧ S.OpensText order bytes := by
  obtain ⟨hpos, hlt, hid⟩ := h.ids id order hheld.1
  have hbound := h.next_lt
  have hrange : 0 ≤ id ∧ id ≤ maxOrderId := by
    unfold maxOrderId
    omega
  have hlock := h.hashlocks id order hheld.1
  simp only [OrderView.OpensText, Setting.OpensText, Setting.OpensBound, hexText_eq_iff hlock,
    hid, and_iff_right hrange, and_assoc]

theorem simExec_accepts {claimOrder : (Bytes → Bytes) → ℤ → String → HtlcSim →
      Except SimError HtlcSim} (hclaim : ∀ sha256 id preimage sim,
        claimOrder sha256 id preimage sim = sim.claim sha256 id preimage) (h : sim.Sound) :
    ((simExec S claimOrder op sim).isSome ↔
        Accepts CreateOrderInput.Valid S.OpensText sim op) ∧
      ∀ sim', simExec S claimOrder op sim = some sim' → Moved sim sim' op := by
  cases op with
  | createOrder request =>
      rw [simExec, Option.isSome_map, isSome_toOption, createOrder_isOk h.gate]
      refine ⟨Iff.rfl, fun sim' heq => ?_⟩
      obtain ⟨r, hr, rfl⟩ := Option.map_eq_some_iff.mp heq
      exact createOrder_created h.gate (toOption_eq_some.mp hr)
  | claimOrder caller id preimage =>
      simp only [simExec, hclaim, isSome_toOption, toOption_eq_some, claim_eq_ok]
      refine ⟨?_, ?_⟩
      · constructor
        · rintro ⟨sim', order, hheld, htime, hopens, -⟩
          exact ⟨order, hheld, htime, (opensText_iff h hheld).mp hopens⟩
        · rintro ⟨order, hheld, htime, hopens⟩
          exact ⟨_, order, hheld, htime, (opensText_iff h hheld).mpr hopens, rfl⟩
      · rintro sim' ⟨order, hheld, -, -, rfl⟩
        exact ⟨order, hheld, finalise_release ..⟩
  | refundOrder caller id =>
      simp only [simExec, isSome_toOption, toOption_eq_some, refundOrder_eq_ok]
      refine ⟨?_, ?_⟩
      · constructor
        · rintro ⟨sim', order, hheld, htime, -⟩
          exact ⟨order, hheld, htime⟩
        · rintro ⟨order, hheld, htime⟩
          exact ⟨_, order, hheld, htime, rfl⟩
      · rintro sim' ⟨order, hheld, -, rfl⟩
        exact ⟨order, hheld, finalise_release ..⟩
  | advanceTime seconds =>
      exact ⟨iff_of_true rfl trivial, fun sim' heq => (Option.some.inj heq).symm⟩

/-- An order is created within bounds. -/
def Op.Bounded (sim : HtlcSim) : Op → Prop
  | .createOrder request => isHashlock request.hashlock ∧
      sim.now + request.timelockSeconds ≤ 2 ^ 53 ∧ sim.nextId + 1 < 2 ^ 64
  | _ => True

theorem HtlcSim.Sound.new (now : ℕ) : (HtlcSim.new now).Sound where
  gate := rfl
  next_pos := le_rfl
  next_lt := show (1 : ℤ) < 2 ^ 64 by decide
  ids _ _ h := by simp [HtlcSim.new] at h
  hashlocks _ _ h := by simp [HtlcSim.new] at h

/-- One more order is stored, or one that was there in another state. -/
theorem HtlcSim.Sound.store {id : ℤ} {order : OrderView} (h : sim.Sound)
    (hgate : sim'.registryEnabled = sim.registryEnabled)
    (horders : sim'.orders = update sim.orders id (some order))
    (hnext : sim.nextId ≤ sim'.nextId) (hlt : sim'.nextId < 2 ^ 64)
    (hid : 1 ≤ id ∧ id < sim'.nextId ∧ order.id = id) (hlock : isHashlock order.hashlock) :
    sim'.Sound where
  gate := hgate.trans h.gate
  next_pos := h.next_pos.trans hnext
  next_lt := hlt
  ids := by
    intro id' order' horder
    rw [horders] at horder
    by_cases hsame : id' = id
    · subst hsame
      rw [update_self, Option.some.injEq] at horder
      subst horder
      exact hid
    · rw [update_of_ne hsame] at horder
      obtain ⟨hone, hbelow, hown⟩ := h.ids id' order' horder
      exact ⟨hone, by omega, hown⟩
  hashlocks := by
    intro id' order' horder
    rw [horders] at horder
    by_cases hsame : id' = id
    · subst hsame
      rw [update_self, Option.some.injEq] at horder
      subst horder
      exact hlock
    · rw [update_of_ne hsame] at horder
      exact h.hashlocks id' order' horder

theorem HtlcSim.Sound.finalised {id : ℤ} {order : OrderView} {status : OrderStatus}
    (h : sim.Sound) (hheld : sim.Held id order) (hfinalised : Finalised id order status sim sim') :
    sim'.Sound := by
  obtain ⟨horders, hnext, -, hgate⟩ := hfinalised
  have hlt := h.next_lt
  rw [← hnext] at hlt
  refine h.store hgate horders hnext.ge hlt ?_ (h.hashlocks id order hheld.1)
  rw [hnext]
  exact h.ids id order hheld.1

theorem HtlcSim.Sound.moved (h : sim.Sound) (hmoved : Moved sim sim' op)
    (hbounded : op.Bounded sim) : sim'.Sound := by
  cases op with
  | createOrder request =>
      obtain ⟨horders, hnext, -, hgate⟩ := hmoved
      obtain ⟨hlock, -, hlt⟩ := hbounded
      have hpos := h.next_pos
      exact h.store hgate horders (by omega) (by omega) ⟨hpos, by omega, rfl⟩ hlock
  | claimOrder caller id preimage =>
      obtain ⟨order, hheld, hfinalised⟩ := hmoved
      exact h.finalised hheld hfinalised
  | refundOrder caller id =>
      obtain ⟨order, hheld, hfinalised⟩ := hmoved
      exact h.finalised hheld hfinalised
  | advanceTime seconds =>
      rw [show sim' = sim.advanceTime seconds from hmoved]
      exact ⟨h.gate, h.next_pos, h.next_lt, h.ids, h.hashlocks⟩

end OverSync.E2eSim
