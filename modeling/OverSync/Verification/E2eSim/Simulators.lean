import OverSync.Model.E2eSim
import Mathlib.Tactic.Common

/-! # What the simulators accept -/

namespace OverSync.E2eSim

open Function Library

/-! ## Hex arguments -/

/-- The value of a `bytes` argument. -/
def bytesArgument (s : String) : Option Bytes :=
  (hexDigits s).bind fun hex => if hex.length % 2 = 0 then some (decodeHex hex) else none

/-- The value of a `bytes32` argument. -/
def bytes32Argument (s : String) : Option Bytes :=
  (bytesArgument s).filter fun bytes => bytes.length = 32

/-- The letters of a hex string are lower case. -/
def isLowerCase (s : String) : Bool := (hexDigits s).any fun hex => hex.all isLowerHexDigit

theorem hexDigits_eq_some {s : String} {hex : List Char} :
    hexDigits s = some hex ↔ s.toList = '0' :: 'x' :: hex ∧ ∀ c ∈ hex, isHexDigit c := by
  unfold hexDigits
  split
  · next digits hdigits =>
      rw [hdigits]
      by_cases hall : digits.all isHexDigit
      · rw [if_pos hall, Option.some.injEq]
        constructor
        · rintro rfl
          exact ⟨rfl, List.all_eq_true.mp hall⟩
        · rintro ⟨hsame, -⟩
          simpa using hsame
      · rw [if_neg hall]
        refine iff_of_false (by simp) ?_
        rintro ⟨hsame, hhex⟩
        obtain rfl : digits = hex := by simpa using hsame
        exact hall (List.all_eq_true.mpr hhex)
  · next hother => exact iff_of_false (by simp) fun h => hother hex h.1

theorem hexToUint8_of_digits {s : String} {hex : List Char} (h : hexDigits s = some hex) :
    hexToUint8 s = decodeHex hex := by
  rw [hexToUint8, (hexDigits_eq_some.mp h).1]
  rfl

theorem bytesArgument_eq_some {s : String} {bytes : Bytes} :
    bytesArgument s = some bytes ↔
      ∃ hex, hexDigits s = some hex ∧ HexPairs hex ∧ decodeHex hex = bytes := by
  rw [bytesArgument, Option.bind_eq_some_iff]
  constructor
  · rintro ⟨hex, hhex, h⟩
    split_ifs at h with heven
    exact ⟨hex, hhex, hexPairs_of_even (hexDigits_eq_some.mp hhex).2 heven, Option.some.inj h⟩
  · rintro ⟨hex, hhex, hpairs, rfl⟩
    have hlength := hpairs.length_decodeHex
    exact ⟨hex, hhex, if_pos (by omega)⟩

theorem hexToUint8_of_bytes {s : String} {bytes : Bytes} (h : bytesArgument s = some bytes) :
    hexToUint8 s = bytes := by
  obtain ⟨hex, hhex, -, rfl⟩ := bytesArgument_eq_some.mp h
  exact hexToUint8_of_digits hhex

theorem isBytes_iff {s : String} :
    isBytes s ↔ ∃ bytes, bytesArgument s = some bytes ∧ bytes ≠ [] := by
  rw [isBytes, Option.any_eq_true]
  constructor
  · rintro ⟨hex, hhex, h⟩
    obtain ⟨hne, heven⟩ : hex ≠ [] ∧ hex.length % 2 = 0 := by simpa using h
    have hpairs := hexPairs_of_even (hexDigits_eq_some.mp hhex).2 heven
    refine ⟨_, bytesArgument_eq_some.mpr ⟨hex, hhex, hpairs, rfl⟩, fun hnil => hne ?_⟩
    have hlength := hpairs.length_decodeHex
    rw [hnil] at hlength
    exact List.length_eq_zero_iff.mp hlength.symm
  · rintro ⟨bytes, hbytes, hne⟩
    obtain ⟨hex, hhex, hpairs, rfl⟩ := bytesArgument_eq_some.mp hbytes
    have hlength := hpairs.length_decodeHex
    refine ⟨hex, hhex, ?_⟩
    rw [Bool.and_eq_true, decide_eq_true_eq, decide_eq_true_eq]
    refine ⟨?_, by omega⟩
    rintro rfl
    exact hne rfl

theorem isHashlock_iff {s : String} :
    isHashlock s ↔ ∃ hex, hexDigits s = some hex ∧ HexPairs hex ∧ hex.length = 64 := by
  rw [isHashlock, Option.any_eq_true]
  refine exists_congr fun hex => and_congr_right fun hhex => ?_
  rw [decide_eq_true_eq]
  refine (and_iff_right_of_imp fun hlength => ?_).symm
  exact hexPairs_of_even (hexDigits_eq_some.mp hhex).2 (by omega)

theorem length_hexToUint8 {s : String} (h : isHashlock s) : (hexToUint8 s).length = 32 := by
  obtain ⟨hex, hhex, hpairs, hlength⟩ := isHashlock_iff.mp h
  have hhalf := hpairs.length_decodeHex
  rw [hexToUint8_of_digits hhex]
  omega

theorem bytes32Argument_eq (s : String) :
    bytes32Argument s = if isHashlock s then some (hexToUint8 s) else none := by
  by_cases h : isHashlock s
  · obtain ⟨hex, hhex, hpairs, -⟩ := isHashlock_iff.mp h
    have hbytes : bytesArgument s = some (hexToUint8 s) :=
      bytesArgument_eq_some.mpr ⟨hex, hhex, hpairs, (hexToUint8_of_digits hhex).symm⟩
    rw [if_pos h, bytes32Argument, hbytes, Option.filter_some, length_hexToUint8 h]
    rfl
  · rw [if_neg h, bytes32Argument, Option.filter_eq_none_iff]
    intro bytes hbytes hlength
    obtain ⟨hex, hhex, hpairs, rfl⟩ := bytesArgument_eq_some.mp hbytes
    have hhalf := hpairs.length_decodeHex
    rw [decide_eq_true_eq] at hlength
    exact h (isHashlock_iff.mpr ⟨hex, hhex, hpairs, by omega⟩)

theorem isZero_iff {s : String} (h : isHashlock s) :
    isZero s ↔ hexToUint8 s = List.replicate 32 0 := by
  have hbytes := length_hexToUint8 h
  obtain ⟨hex, hhex, hpairs, hlength⟩ := isHashlock_iff.mp h
  have hne : hex ≠ [] := by
    rintro rfl
    simp at hlength
  rw [hexToUint8_of_digits hhex] at hbytes ⊢
  rw [List.eq_replicate_iff, and_iff_right hbytes, hpairs.decodeHex_zero_iff, isZero, hhex]
  simp [hne]

theorem hexDigits_hexText (bytes : Bytes) : hexDigits (hexText bytes) = some (encodeHex bytes) := by
  refine hexDigits_eq_some.mpr ⟨String.toList_ofList, fun c hc => ?_⟩
  exact isHexDigit_of_isLowerHexDigit (encodeHex_lower bytes c hc)

theorem bytesArgument_hexText (bytes : Bytes) : bytesArgument (hexText bytes) = some bytes :=
  bytesArgument_eq_some.mpr ⟨encodeHex bytes, hexDigits_hexText bytes, hexPairs_encodeHex bytes,
    decodeHex_encodeHex bytes⟩

theorem isHashlock_hexText {digest : Bytes} (h : digest.length = 32) :
    isHashlock (hexText digest) := by
  refine isHashlock_iff.mpr
    ⟨encodeHex digest, hexDigits_hexText digest, hexPairs_encodeHex digest, ?_⟩
  rw [length_encodeHex, h]

/-- A digest is written one way only in lower case. -/
theorem hexText_eq_iff {s : String} {digest : Bytes} (h : isHashlock s) :
    hexText digest = s ↔ digest = hexToUint8 s ∧ isLowerCase s := by
  obtain ⟨hex, hhex, hpairs, -⟩ := isHashlock_iff.mp h
  have hs : s = String.ofList ('0' :: 'x' :: hex) := by
    rw [← (hexDigits_eq_some.mp hhex).1, String.ofList_toList]
  have hlower : isLowerCase s ↔ ∀ c ∈ hex, isLowerHexDigit c := by
    rw [isLowerCase, hhex]
    simp
  rw [hlower, hexToUint8_of_digits hhex, hexText, hs, String.ofList_inj]
  simp only [List.cons.injEq, true_and]
  constructor
  · rintro rfl
    exact ⟨(decodeHex_encodeHex digest).symm, encodeHex_lower digest⟩
  · rintro ⟨rfl, hall⟩
    exact hpairs.encodeHex_decodeHex hall

/-! ## The operations -/

variable {sim sim' : HtlcSim} {sha256 : Bytes → Bytes} {toLowerCase : String → String}
  {input : CreateOrderInput} {id : ℤ} {preimage : String}

/-- What `createOrder` asks of its input. -/
def CreateOrderInput.Valid (input : CreateOrderInput) : Prop :=
  (isHashlock input.hashlock = true ∧ isZero input.hashlock = false) ∧
    minTimelock ≤ input.timelockSeconds ∧ input.timelockSeconds ≤ maxTimelock

/-- The order `createOrder` stores. -/
def CreateOrderInput.order (input : CreateOrderInput) (id : ℤ) (now : ℕ) : OrderView where
  id := id
  hashlock := input.hashlock
  timelockAbsolute := Double.add now input.timelockSeconds
  status := .funded
  createdAt := now
  finalisedAt := 0
  amount := input.amount.getD defaultEscrowAmount
  maker := input.maker.getD defaultMaker
  recipient := input.recipient.getD defaultRecipient

theorem ensureParty_eq (party : String) (sim : HtlcSim) :
    ∃ balances, sim.ensureParty party = { sim with balances } := by
  unfold HtlcSim.ensureParty
  split
  · exact ⟨sim.balances, rfl⟩
  · exact ⟨_, rfl⟩

/-- A simulator with one more order. -/
structure Created (input : CreateOrderInput) (sim sim' : HtlcSim) : Prop where
  orders : sim'.orders = update sim.orders sim.nextId (some (input.order sim.nextId sim.now))
  nextId : sim'.nextId = sim.nextId + 1
  now : sim'.now = sim.now
  registryEnabled : sim'.registryEnabled = sim.registryEnabled

/-- A simulator in which the order of an id has come to its end. -/
structure Finalised (id : ℤ) (order : OrderView) (status : OrderStatus) (sim sim' : HtlcSim) :
    Prop where
  orders : sim'.orders =
    update sim.orders id (some { order with status, finalisedAt := sim.now })
  nextId : sim'.nextId = sim.nextId
  now : sim'.now = sim.now
  registryEnabled : sim'.registryEnabled = sim.registryEnabled

theorem checkRegistry_off (hgate : sim.registryEnabled = false) (sender : Option String) :
    sim.checkRegistry toLowerCase sender = .ok () := by
  rw [HtlcSim.checkRegistry, hgate]
  rfl

theorem createOrder_isOk (hgate : sim.registryEnabled = false) :
    (∃ r, sim.createOrder toLowerCase input = .ok r) ↔ input.Valid := by
  simp only [HtlcSim.createOrder, require_bind_eq_ok, checkRegistry_off hgate, ok_bind,
    exists_and_left, CreateOrderInput.Valid]
  exact and_congr_right fun _ => and_iff_left ⟨_, rfl⟩

theorem createOrder_created (hgate : sim.registryEnabled = false) {r : HtlcSim × ℤ}
    (h : sim.createOrder toLowerCase input = .ok r) : Created input sim r.1 := by
  simp only [HtlcSim.createOrder, require_bind_eq_ok, checkRegistry_off hgate, ok_bind] at h
  obtain ⟨-, -, h⟩ := h
  cases h
  obtain ⟨balances, hmaker⟩ := ensureParty_eq (input.maker.getD defaultMaker)
    { sim with nextId := sim.nextId + 1 }
  obtain ⟨balances', hrecipient⟩ := ensureParty_eq (input.recipient.getD defaultRecipient)
    { sim with nextId := sim.nextId + 1, balances }
  simp only [hmaker, hrecipient, HtlcSim.setBalance]
  exact ⟨rfl, rfl, rfl, rfl⟩

theorem getMutable_eq_ok {order : OrderView} :
    sim.getMutable id = .ok order ↔ sim.orders id = some order := by
  unfold HtlcSim.getMutable
  cases sim.orders id <;> simp

theorem finalise_release (id : ℤ) (order : OrderView) (status : OrderStatus) (escrowId : ℤ)
    (recipient : String) (sim : HtlcSim) :
    Finalised id order status sim
      ((sim.finalise id order status).releaseEscrow escrowId recipient) := by
  obtain ⟨balances, hparty⟩ := ensureParty_eq recipient
    { sim.finalise id order status with
      escrow := update (sim.finalise id order status).escrow escrowId (some 0) }
  simp only [HtlcSim.releaseEscrow, hparty, HtlcSim.setBalance]
  exact ⟨rfl, rfl, rfl, rfl⟩

/-- The order is stored and has not come to its end. -/
def HtlcSim.Held (sim : HtlcSim) (id : ℤ) (order : OrderView) : Prop :=
  sim.orders id = some order ∧ order.status = .funded

theorem refundOrder_eq_ok :
    sim.refundOrder id = .ok sim' ↔
      ∃ order, sim.Held id order ∧ order.timelockAbsolute < sim.now ∧
        (sim.finalise id order .refunded).releaseEscrow order.id order.maker = sim' := by
  rw [HtlcSim.refundOrder, bind_eq_ok]
  refine exists_congr fun order => ?_
  rw [getMutable_eq_ok, require_bind_eq_ok, require_bind_eq_ok, HtlcSim.Held, and_assoc]
  exact and_congr_right fun _ => and_congr_right fun _ => and_congr_right fun _ =>
    ⟨Except.ok.inj, congrArg Except.ok⟩

theorem hashOrderPreimage_eq_ok {hash : String} :
    hashOrderPreimage sha256 id preimage = .ok hash ↔
      (0 ≤ id ∧ id ≤ maxOrderId) ∧ ∃ bytes, bytesArgument preimage = some bytes ∧ bytes ≠ [] ∧
        hexText (sha256 (toBigEndian 32 id.toNat ++ bytes)) = hash := by
  simp only [hashOrderPreimage, require_bind_eq_ok]
  refine and_congr_right fun _ => ?_
  constructor
  · rintro ⟨-, hbytes, -, h⟩
    obtain ⟨bytes, hargument, hne⟩ := isBytes_iff.mp hbytes
    rw [hexToUint8_of_bytes hargument] at h
    exact ⟨bytes, hargument, hne, Except.ok.inj h⟩
  · rintro ⟨bytes, hargument, hne, rfl⟩
    have hvalue := hexToUint8_of_bytes hargument
    refine ⟨?_, isBytes_iff.mpr ⟨bytes, hargument, hne⟩, by rwa [hvalue], by rw [hvalue]; rfl⟩
    rintro rfl
    exact hne (Option.some.inj hargument).symm

/-- The preimage opens the order for a simulator. -/
def OrderView.OpensText (sha256 : Bytes → Bytes) (order : OrderView) (id : ℤ) (preimage : String) :
    Prop :=
  (0 ≤ id ∧ id ≤ maxOrderId) ∧ ∃ bytes, bytesArgument preimage = some bytes ∧ bytes ≠ [] ∧
    hexText (sha256 (toBigEndian 32 id.toNat ++ bytes)) = order.hashlock

theorem claim_eq_ok :
    sim.claim sha256 id preimage = .ok sim' ↔
      ∃ order, sim.Held id order ∧ sim.now ≤ order.timelockAbsolute ∧
        order.OpensText sha256 id preimage ∧
        (sim.finalise id order .claimed).releaseEscrow order.id order.recipient = sim' := by
  rw [HtlcSim.claim, bind_eq_ok]
  refine exists_congr fun order => ?_
  rw [getMutable_eq_ok, require_bind_eq_ok, require_bind_eq_ok, require_bind_eq_ok, bind_eq_ok,
    HtlcSim.Held, and_assoc]
  refine and_congr_right fun _ => and_congr_right fun _ => and_congr_right fun _ => ?_
  constructor
  · rintro ⟨-, hash, hhash, h⟩
    obtain ⟨hrange, bytes, hargument, hne, rfl⟩ := hashOrderPreimage_eq_ok.mp hhash
    obtain ⟨hopens, h⟩ := require_bind_eq_ok.mp h
    exact ⟨⟨hrange, bytes, hargument, hne, hopens⟩, Except.ok.inj h⟩
  · rintro ⟨⟨hrange, bytes, hargument, hne, hopens⟩, rfl⟩
    exact ⟨isBytes_iff.mpr ⟨bytes, hargument, hne⟩, _,
      hashOrderPreimage_eq_ok.mpr ⟨hrange, bytes, hargument, hne, rfl⟩,
      require_bind_eq_ok.mpr ⟨hopens, rfl⟩⟩

end OverSync.E2eSim
