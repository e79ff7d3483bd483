import OverSync.Model.Coordinator.SorobanEvents
import OverSync.Verification.SorobanHtlc.Admin

/-! # The coordinator reads what `oversync-htlc` publishes

Every successful call on an order reaches the coordinator with the order's id, its hashlock and,
as the call has it, its timelock or the preimage. -/

namespace OverSync.Coordinator

open Library SorobanHtlc

/-- What is documented of `scValToNative` for the values of the events, and of `Number`. -/
structure SorobanSdk.Faithful (S : SorobanSdk) : Prop where
  symbol : ∀ name, S.scValToNative (.symbol name) = some (.string name)
  address : ∀ address, ∃ native, S.scValToNative (.address address) = some native
  bytes : ∀ bytes, S.scValToNative (.bytes bytes) = some (.uint8Array bytes)
  u64 : ∀ value : ℕ, S.scValToNative (.u64 value) = some (.bigint value)
  i128 : ∀ value, S.scValToNative (.i128 value) = some (.bigint value)
  vec : ∀ items, S.scValToNative (.vec items) = (items.mapM S.scValToNative).map Native.array
  toNumber : ∀ value : ℕ, value < 2 ^ 53 → S.toNumber value = value

/-- The raw event holds the topics and the data of an event of the contract. -/
structure Publishes (S : SorobanSdk) (raw : RawSorobanEvent) (event : Event Bytes) : Prop where
  topic : raw.topic.map (·.parse S) = (eventTopics event).map some
  value : raw.value.parse S = some (eventData event)

def hexText (bytes : Bytes) : String := String.ofList ('0' :: 'x' :: encodeHex bytes)

variable {S : SorobanSdk} {raw : RawSorobanEvent} {event : Event Bytes}

/-! ## Fields -/

@[simp] theorem toDecimalId_u64 (value : ℕ) :
    toDecimalId (some (.bigint value)) = some (toString value) := rfl

@[simp] theorem toHex_bytes (bytes : Bytes) :
    toHex (some (.uint8Array bytes)) = some (hexText bytes) := rfl

theorem toUnixSeconds_u64 (hS : S.Faithful) {value : ℕ} (h : value < 2 ^ 53) :
    toUnixSeconds S (some (.bigint value)) = some (value : ℤ) :=
  congrArg some (hS.toNumber value h)

/-! ## Decoding -/

theorem decode_topics {topic : List SorobanScVal} {topics : List ScVal}
    (h : topic.map (·.parse S) = topics.map some) :
    topic.mapM (decodeScVal S) = topics.mapM S.scValToNative := by
  induction topic generalizing topics with
  | nil =>
      cases topics with
      | nil => rfl
      | cons t ts => contradiction
  | cons value topic ih =>
      cases topics with
      | nil => contradiction
      | cons t ts =>
          obtain ⟨hvalue, hrest⟩ := List.cons.inj h
          have hdecode : decodeScVal S value = S.scValToNative t := by
            rw [decodeScVal, show value.parse S = some t from hvalue, Option.bind_some]
          rw [List.mapM_cons, List.mapM_cons, ih hrest, hdecode]

/-- The topics and the data as values of JavaScript. -/
theorem Publishes.native (h : Publishes S raw event) :
    raw.topic.mapM (decodeScVal S) = (eventTopics event).mapM S.scValToNative ∧
      decodeScVal S raw.value = S.scValToNative (eventData event) :=
  ⟨decode_topics h.topic, by rw [decodeScVal, h.value, Option.bind_some]⟩

theorem decode_created (hS : S.Faithful) {sender beneficiary asset : Address} {hashlock : Bytes}
    {orderId : OrderId} {amount safetyDeposit : ℤ} {timelock : ℕ} (htimelock : timelock < 2 ^ 53)
    (h : Publishes S raw (.created sender beneficiary hashlock orderId asset amount safetyDeposit
      timelock)) :
    decodeSorobanOrderEvent S raw = some
      { kind := .lock
        chain := .stellar
        txHash := raw.txHash
        blockNumber := raw.ledger
        orderId := some (toString orderId.val)
        hashlock := some (hexText hashlock)
        timelock := some timelock
        preimage := none } := by
  obtain ⟨payer, hsender⟩ := hS.address sender
  obtain ⟨payee, hbeneficiary⟩ := hS.address beneficiary
  obtain ⟨token, hasset⟩ := hS.address asset
  have htopics : raw.topic.mapM (decodeScVal S) =
      some [.string "created", payer, payee, .uint8Array hashlock] := by
    rw [h.native.1]
    simp [eventTopics, hS.symbol, hS.bytes, hsender, hbeneficiary]
  have hdata : decodeScVal S raw.value = some (.array [.bigint orderId.val, token,
      .bigint amount, .bigint safetyDeposit, .bigint timelock]) := by
    rw [h.native.2]
    simp [eventData, hS.vec, hS.u64, hS.i128, hasset]
  rw [decodeSorobanOrderEvent, htopics, hdata]
  simp [decodeArray, toUnixSeconds_u64 hS htimelock]

theorem decode_claimed (hS : S.Faithful) {beneficiary caller : Address} {hashlock preimage : Bytes}
    {orderId : OrderId} {amount safetyDeposit : ℤ}
    (h : Publishes S raw (.claimed beneficiary hashlock orderId caller preimage amount
      safetyDeposit)) :
    decodeSorobanOrderEvent S raw = some
      { kind := .claim
        chain := .stellar
        txHash := raw.txHash
        blockNumber := raw.ledger
        orderId := some (toString orderId.val)
        hashlock := some (hexText hashlock)
        timelock := none
        preimage := some (hexText preimage) } := by
  obtain ⟨payee, hbeneficiary⟩ := hS.address beneficiary
  obtain ⟨signer, hcaller⟩ := hS.address caller
  have htopics : raw.topic.mapM (decodeScVal S) =
      some [.string "claimed", payee, .uint8Array hashlock] := by
    rw [h.native.1]
    simp [eventTopics, hS.symbol, hS.bytes, hbeneficiary]
  have hdata : decodeScVal S raw.value = some (.array [.bigint orderId.val, signer,
      .uint8Array preimage, .bigint amount, .bigint safetyDeposit]) := by
    rw [h.native.2]
    simp [eventData, hS.vec, hS.u64, hS.i128, hS.bytes, hcaller]
  rw [decodeSorobanOrderEvent, htopics, hdata]
  simp [decodeArray]

theorem decode_refunded (hS : S.Faithful) {refundAddress caller : Address} {hashlock : Bytes}
    {orderId : OrderId} {amount safetyDeposit : ℤ}
    (h : Publishes S raw (.refunded refundAddress hashlock orderId caller amount
      safetyDeposit)) :
    decodeSorobanOrderEvent S raw = some
      { kind := .refund
        chain := .stellar
        txHash := raw.txHash
        blockNumber := raw.ledger
        orderId := some (toString orderId.val)
        hashlock := some (hexText hashlock)
        timelock := none
        preimage := none } := by
  obtain ⟨payee, hrefund⟩ := hS.address refundAddress
  obtain ⟨signer, hcaller⟩ := hS.address caller
  have htopics : raw.topic.mapM (decodeScVal S) =
      some [.string "refunded", payee, .uint8Array hashlock] := by
    rw [h.native.1]
    simp [eventTopics, hS.symbol, hS.bytes, hrefund]
  have hdata : decodeScVal S raw.value = some (.array [.bigint orderId.val, signer,
      .bigint amount, .bigint safetyDeposit]) := by
    rw [h.native.2]
    simp [eventData, hS.vec, hS.u64, hS.i128, hcaller]
  rw [decodeSorobanOrderEvent, htopics, hdata]
  simp [decodeArray]

/-- A symbol that is none of the three is no event of an order, whatever comes with it. -/
theorem decode_other (hS : S.Faithful) {name : String} {first : SorobanScVal}
    {rest : List SorobanScVal} (htopic : raw.topic = first :: rest)
    (hfirst : first.parse S = some (.symbol name))
    (hname : name ∉ ["created", "claimed", "refunded"]) : decodeSorobanOrderEvent S raw = none := by
  have hdecode : decodeScVal S first = some (.string name) := by
    rw [decodeScVal, hfirst, Option.bind_some, hS.symbol]
  rw [decodeSorobanOrderEvent, htopic, List.mapM_cons, hdecode]
  cases rest.mapM (decodeScVal S) with
  | none => rfl
  | some natives =>
      cases decodeScVal S raw.value with
      | none => rfl
      | some value =>
          simp only [List.mem_cons, List.not_mem_nil, or_false, not_or] at hname
          simp [hname]

/-! ## Successful calls -/

variable {env : Env} {s s' : State Bytes} {receipt : Receipt Bytes} {orderId : OrderId}
  {caller : Address} {pay deposit : Bool}

theorem createOrder_event {args : CreateOrderArgs Bytes} {pull : Bool}
    (h : createOrder env args pull s = .ok (s', receipt)) : ∃ order,
      s'.orders s.nextOrderId = some order ∧ order = args.order s.nextOrderId env.timestamp ∧
      receipt.event = some (.created order.sender order.beneficiary order.hashlock s.nextOrderId
        order.asset order.amount order.safetyDeposit order.timelock) := by
  have hspec := createOrder_eq_ok h
  refine ⟨_, ?_, rfl, ?_⟩
  · rw [hspec.orders_eq, Function.update_self]
  · rw [hspec.receipt_eq]
    rfl

theorem claimOrder_event {sha256 : Bytes → Bytes} {preimage : Bytes}
    (h : claimOrder sha256 env orderId preimage caller pay deposit s = .ok (s', receipt)) :
    ∃ order, s.orders orderId = some order ∧
      receipt.event = some (.claimed order.beneficiary order.hashlock orderId caller preimage
        order.amount order.safetyDeposit) := by
  unfold claimOrder requireInitialised requireAuth at h
  simp only [require_bind_eq_ok] at h
  obtain ⟨-, -, h⟩ := h
  obtain ⟨order, hentry, h⟩ := bind_eq_ok.mp h
  simp only [require_bind_eq_ok] at h
  obtain ⟨-, -, -, -, h⟩ := h
  obtain ⟨_, -, h⟩ := bind_eq_ok.mp h
  cases h
  exact ⟨order, getOrder_eq_ok.mp hentry, rfl⟩

theorem refundOrder_event
    (h : refundOrder env orderId caller pay deposit s = .ok (s', receipt)) :
    ∃ order, s.orders orderId = some order ∧
      receipt.event = some (.refunded order.refundAddress order.hashlock orderId caller
        order.amount order.safetyDeposit) := by
  unfold refundOrder requireInitialised requireAuth at h
  simp only [require_bind_eq_ok] at h
  obtain ⟨-, -, h⟩ := h
  obtain ⟨order, hentry, h⟩ := bind_eq_ok.mp h
  simp only [require_bind_eq_ok] at h
  obtain ⟨-, -, h⟩ := h
  obtain ⟨_, -, h⟩ := bind_eq_ok.mp h
  cases h
  exact ⟨order, getOrder_eq_ok.mp hentry, rfl⟩

/-- What the decoder should make of the event of a successful call on an order. -/
structure RoundTrips (S : SorobanSdk) : Prop where
  created : ∀ {env : Env} {args : CreateOrderArgs Bytes} {pull : Bool} {s s' : State Bytes}
    {receipt : Receipt Bytes}, createOrder env args pull s = .ok (s', receipt) →
    ∃ event order, receipt.event = some event ∧ s'.orders s.nextOrderId = some order ∧
      order = args.order s.nextOrderId env.timestamp ∧
      (order.timelock < 2 ^ 53 → ∀ raw, Publishes S raw event →
        decodeSorobanOrderEvent S raw = some
          { kind := .lock
            chain := .stellar
            txHash := raw.txHash
            blockNumber := raw.ledger
            orderId := some (toString s.nextOrderId.val)
            hashlock := some (hexText order.hashlock)
            timelock := some order.timelock
            preimage := none })
  claimed : ∀ {sha256 : Bytes → Bytes} {env : Env} {orderId : OrderId} {preimage : Bytes}
    {caller : Address} {pay deposit : Bool} {s s' : State Bytes} {receipt : Receipt Bytes},
    claimOrder sha256 env orderId preimage caller pay deposit s = .ok (s', receipt) →
    ∃ event order, receipt.event = some event ∧ s.orders orderId = some order ∧
      ∀ raw, Publishes S raw event →
        decodeSorobanOrderEvent S raw = some
          { kind := .claim
            chain := .stellar
            txHash := raw.txHash
            blockNumber := raw.ledger
            orderId := some (toString orderId.val)
            hashlock := some (hexText order.hashlock)
            timelock := none
            preimage := some (hexText preimage) }
  refunded : ∀ {env : Env} {orderId : OrderId} {caller : Address} {pay deposit : Bool}
    {s s' : State Bytes} {receipt : Receipt Bytes},
    refundOrder env orderId caller pay deposit s = .ok (s', receipt) →
    ∃ event order, receipt.event = some event ∧ s.orders orderId = some order ∧
      ∀ raw, Publishes S raw event →
        decodeSorobanOrderEvent S raw = some
          { kind := .refund
            chain := .stellar
            txHash := raw.txHash
            blockNumber := raw.ledger
            orderId := some (toString orderId.val)
            hashlock := some (hexText order.hashlock)
            timelock := none
            preimage := none }
  other : ∀ (raw : RawSorobanEvent) (first : SorobanScVal) (rest : List SorobanScVal)
    (name : String), raw.topic = first :: rest → first.parse S = some (.symbol name) →
    name ∉ ["created", "claimed", "refunded"] → decodeSorobanOrderEvent S raw = none

/-- The coordinator reads every event of an order as the contract published it. -/
theorem events_round_trip {S : SorobanSdk} (hS : S.Faithful) : RoundTrips S where
  created h := by
    obtain ⟨order, hstored, horder, hevent⟩ := createOrder_event h
    exact ⟨_, order, hevent, hstored, horder, fun htimelock _ hpublished =>
      decode_created hS htimelock hpublished⟩
  claimed h := by
    obtain ⟨order, hstored, hevent⟩ := claimOrder_event h
    exact ⟨_, order, hevent, hstored, fun _ hpublished => decode_claimed hS hpublished⟩
  refunded h := by
    obtain ⟨order, hstored, hevent⟩ := refundOrder_event h
    exact ⟨_, order, hevent, hstored, fun _ hpublished => decode_refunded hS hpublished⟩
  other _ _ _ _ htopic hfirst hname := decode_other hS htopic hfirst hname

/-! ## A claim of order 1 -/

mutual

def plainNative : ScVal → Native
  | .symbol name => .string name
  | .address address => .string (toString address)
  | .bytes bytes => .uint8Array bytes
  | .u64 value => .bigint value
  | .i128 value => .bigint value
  | .vec items => .array (plainNatives items)

def plainNatives : List ScVal → List Native
  | [] => []
  | item :: items => plainNative item :: plainNatives items

end

/-- An SDK that maps every value and reads no XDR. -/
def plainSdk : SorobanSdk := ⟨fun _ => none, fun value => some (plainNative value), id⟩

theorem plainNatives_eq (items : List ScVal) :
    items.mapM (fun value => some (plainNative value)) = some (plainNatives items) := by
  induction items with
  | nil => rfl
  | cons item items ih => simp [plainNatives, ih]

theorem plainSdk_faithful : plainSdk.Faithful where
  symbol _ := rfl
  address _ := ⟨_, rfl⟩
  bytes _ := rfl
  u64 _ := rfl
  i128 _ := rfl
  vec items := by
    rw [plainSdk, plainNatives_eq]
    rfl
  toNumber _ _ := rfl

/-- The raw event as the SDK hands it on. -/
def rawEvent (event : Event Bytes) : RawSorobanEvent :=
  ⟨(eventTopics event).map .scVal, .scVal (eventData event), "ab", 9⟩

theorem publishes_rawEvent (event : Event Bytes) : Publishes plainSdk (rawEvent event) event where
  topic := by
    rw [rawEvent, List.map_map]
    rfl
  value := rfl

theorem events_round_trip_claim : ∃ s' receipt event,
    claimOrder (List.cons 1) ledger 1 [7] 5 true true (stroopState (1 :: hashInput 1 [7])) =
      .ok (s', receipt) ∧ receipt.event = some event ∧
    decodeSorobanOrderEvent plainSdk (rawEvent event) = some
      { kind := .claim
        chain := .stellar
        txHash := "ab"
        blockNumber := 9
        orderId := some "1"
        hashlock := some (hexText (1 :: hashInput 1 [7]))
        timelock := none
        preimage := some (hexText [7]) } := by
  have hclaim : ∃ s' receipt,
      claimOrder (List.cons 1) ledger 1 [7] 5 true true (stroopState (1 :: hashInput 1 [7])) =
        .ok (s', receipt) := ⟨_, _, rfl⟩
  obtain ⟨s', receipt, hclaim⟩ := hclaim
  obtain ⟨event, order, hevent, hstored, hdecode⟩ :=
    (events_round_trip plainSdk_faithful).claimed hclaim
  refine ⟨s', receipt, event, hclaim, hevent, ?_⟩
  rw [hdecode _ (publishes_rawEvent event)]
  have horder : order = (stroopOrder (1 :: hashInput 1 [7])).order 1 0 :=
    Option.some.inj (hstored.symm.trans rfl)
  subst horder
  rfl

end OverSync.Coordinator
