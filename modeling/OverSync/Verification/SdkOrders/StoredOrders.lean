import OverSync.Model.SdkOrders
import OverSync.Verification.SorobanHtlc.Liveness

/-! # The SDK cannot read the orders of the contract

The contract shows the status of an order as a number, and `parseSorobanOrder` accepts nothing
but its name. With the name in its place an order would be read field by field as it is. -/

namespace OverSync.SdkOrders

open Library SorobanHtlc

/-- What is documented of `scValToNative` for the fields of an order. -/
structure Faithful (toNative : FieldVal → Raw) (strkey : Address → String) : Prop where
  u32 : ∀ value : ℕ, toNative (.u32 value) = .number (some value)
  u64 : ∀ value : ℕ, toNative (.u64 value) = .bigint value
  i128 : ∀ value, toNative (.i128 value) = .bigint value
  address : ∀ address, toNative (.address address) = .string (strkey address)
  bytes : ∀ bytes, toNative (.bytes bytes) = .bytes bytes

variable {toNative : FieldVal → Raw} {strkey : Address → String}

def hexText (bytes : Bytes) : String := String.ofList ('0' :: 'x' :: encodeHex bytes)

/-- The name of a status in the contract. -/
def statusName : OrderStatus → String
  | .funded => "Funded"
  | .claimed => "Claimed"
  | .refunded => "Refunded"

def statusData : OrderStatus → SorobanOrderStatus
  | .funded => .funded
  | .claimed => .claimed
  | .refunded => .refunded

/-- An order as the SDK types it. -/
def orderData (strkey : Address → String) (order : Order Bytes) (status : SorobanOrderStatus) :
    SorobanOrderData where
  id := order.id.val
  sender := strkey order.sender
  beneficiary := strkey order.beneficiary
  refundAddress := strkey order.refundAddress
  asset := strkey order.asset
  amount := order.amount
  safetyDeposit := order.safetyDeposit
  hashlock := hexText order.hashlock
  timelock := order.timelock
  status := status
  preimage := if order.preimage = [] then "" else hexText order.preimage
  createdAt := order.createdAt
  finalisedAt := order.finalisedAt

/-- The payload of an order with another value in the place of its status. -/
def withStatus (toNative : FieldVal → Raw) (order : Order Bytes) (status : Raw) : Raw :=
  .object ((orderFields order).map fun entry =>
    (entry.1, if entry.1 = "status" then status else toNative entry.2))

theorem nativeOrder_eq (order : Order Bytes) :
    nativeOrder toNative (some order) =
      withStatus toNative order (toNative (.u32 (statusNumber order.status))) := by
  simp [nativeOrder, withStatus, orderFields]

/-- Every required field is there. -/
theorem get_withStatus (toNative : FieldVal → Raw) (order : Order Bytes) (status : Raw) :
    (requiredFields.find? fun name => ((withStatus toNative order status).get name).isNone) =
      none := by
  simp [requiredFields, withStatus, orderFields, Raw.get, List.lookup_cons]

theorem status_withStatus (order : Order Bytes) (status : Raw) :
    (withStatus toNative order status).field "status" = status := by
  simp [withStatus, orderFields, Raw.field, Raw.get, List.lookup_cons]

/-- The other fields are those of the order. -/
theorem field_withStatus {order : Order Bytes} {status : Raw} {name : String} {value : FieldVal}
    (hmem : (name, value) ∈ orderFields order) (hname : name ≠ "status") :
    (withStatus toNative order status).field name = toNative value := by
  simp only [orderFields, List.mem_cons, Prod.mk.injEq, List.not_mem_nil, or_false] at hmem
  rcases hmem with ⟨rfl, rfl⟩ | ⟨rfl, rfl⟩ | ⟨rfl, rfl⟩ | ⟨rfl, rfl⟩ | ⟨rfl, rfl⟩ | ⟨rfl, rfl⟩ |
    ⟨rfl, rfl⟩ | ⟨rfl, rfl⟩ | ⟨rfl, rfl⟩ | ⟨rfl, rfl⟩ | ⟨rfl, rfl⟩ | ⟨rfl, rfl⟩ | ⟨rfl, rfl⟩ <;>
    first
    | exact absurd rfl hname
    | simp [withStatus, orderFields, Raw.field, Raw.get, List.lookup_cons]

/-- A preimage is normalised to an empty string or to hex. -/
theorem parsePreimage_bytes (bytes : Bytes) :
    parsePreimage (.bytes bytes) = .ok (if bytes = [] then "" else hexText bytes) := by
  cases bytes with
  | nil => rfl
  | cons b bytes => rfl

/-- With another value for the status, the payload is read exactly if that is a known name. -/
theorem parse_withStatus (h : Faithful toNative strkey) (order : Order Bytes) (status : Raw) :
    parseSorobanOrder (withStatus toNative order status) =
      (parseStatus status).map fun status => some (orderData strkey order status) := by
  have hobject : parseSorobanOrder (withStatus toNative order status) =
      (parseFields (withStatus toNative order status)).map some := by
    have hfound := get_withStatus toNative order status
    rw [withStatus] at hfound ⊢
    simp only [parseSorobanOrder, hfound]
  have hfield (name : String) (value : FieldVal) (hmem : (name, value) ∈ orderFields order)
      (hname : name ≠ "status") :
      (withStatus toNative order status).field name = toNative value :=
    field_withStatus hmem hname
  rw [hobject, parseFields, status_withStatus,
    hfield "preimage" (.bytes order.preimage) (by simp [orderFields]) (by simp),
    hfield "id" (.u64 order.id.val) (by simp [orderFields]) (by simp),
    hfield "sender" (.address order.sender) (by simp [orderFields]) (by simp),
    hfield "beneficiary" (.address order.beneficiary) (by simp [orderFields]) (by simp),
    hfield "refund_address" (.address order.refundAddress) (by simp [orderFields]) (by simp),
    hfield "asset" (.address order.asset) (by simp [orderFields]) (by simp),
    hfield "amount" (.i128 order.amount) (by simp [orderFields]) (by simp),
    hfield "safety_deposit" (.i128 order.safetyDeposit) (by simp [orderFields]) (by simp),
    hfield "hashlock" (.bytes order.hashlock) (by simp [orderFields]) (by simp),
    hfield "timelock" (.u64 order.timelock) (by simp [orderFields]) (by simp),
    hfield "created_at" (.u64 order.createdAt) (by simp [orderFields]) (by simp),
    hfield "finalised_at" (.u64 order.finalisedAt) (by simp [orderFields]) (by simp)]
  simp only [h.u64, h.i128, h.address, h.bytes, parsePreimage_bytes, toBigInt, toString,
    bytesToHex]
  cases parseStatus status <;> rfl

/-! ## Orders of a run -/

theorem parseStatus_eq_ok {raw : Raw} {status : OrderStatus} :
    parseStatus raw = .ok (statusData status) ↔ raw = .string (statusName status) := by
  constructor
  · intro h
    cases raw with
    | string name =>
        unfold parseStatus statusMap at h
        by_cases hfunded : name = "Funded"
        · subst hfunded
          cases status <;> simp [statusData] at h ⊢; rfl
        · by_cases hclaimed : name = "Claimed"
          · subst hclaimed
            cases status <;> simp [statusData] at h ⊢; rfl
          · by_cases hrefunded : name = "Refunded"
            · subst hrefunded
              cases status <;> simp [statusData] at h ⊢; rfl
            · by_cases hinherited : name ∈ inheritedNames
              · simp only [hfunded, hclaimed, hrefunded, hinherited, if_false, if_true] at h
                cases status <;> cases h
              · simp only [hfunded, hclaimed, hrefunded, hinherited, if_false] at h
                cases h
    | _ => cases h
  · rintro rfl
    cases status <;> simp [parseStatus, statusMap, statusName, statusData]

theorem hexText_ne_empty (bytes : Bytes) : hexText bytes ≠ "" := by
  simp [hexText]

section Runs

variable {sha256 : Bytes → Bytes} {current : Address} {records : List (Record Bytes)}
  {s : State Bytes} {id : OrderId} {order : Order Bytes}

/-- An order is created without a preimage. -/
theorem preimage_of_creation {created : Order Bytes} (h : (id, created) ∈ creations records) :
    created.preimage = [] ∧ created.status = .funded := by
  obtain ⟨record, -, hcreation⟩ := List.mem_filterMap.mp h
  unfold Record.creation at hcreation
  split at hcreation
  · cases hcreation
    exact ⟨rfl, rfl⟩
  · cases hcreation

/-- In a run exactly the claimed orders have a preimage. -/
theorem preimage_eq_nil_iff (hrun : Execution (Step sha256 current) State.deployed records s)
    (hstored : getOrder s id = some order) : order.preimage = [] ↔ order.status ≠ .claimed := by
  have hlife := (htlc_spec hrun).life id
  rw [getOrder] at hstored
  rw [hstored] at hlife
  generalize hentry : some order = entry at hlife
  cases hlife with
  | unset _ _ => cases hentry
  | @funded created hcreated _ _ =>
      cases hentry
      have hmem : (id, order) ∈ creations records :=
        Escrow.mem_valuesAt.mp (hcreated ▸ List.mem_singleton_self order)
      obtain ⟨hpreimage, hstatus⟩ := preimage_of_creation hmem
      simp [hpreimage, hstatus]
  | @settled created r hcreated _ _ hallowed =>
      cases hentry
      have hmem : (id, created) ∈ creations records :=
        Escrow.mem_valuesAt.mp (hcreated ▸ List.mem_singleton_self created)
      obtain ⟨hpreimage, -⟩ := preimage_of_creation hmem
      obtain ⟨-, hallowed⟩ := hallowed
      unfold Order.settledBy
      cases hrelease : r.release with
      | claim preimage =>
          rw [hrelease] at hallowed
          simp [Order.claimedWith, hallowed.2.1]
      | refund => simp [Order.refundedAt, hpreimage]

/-- The SDK types no order of the contract: it asks for the name of the status, and the contract
shows a number. With the name in its place the order is typed as it is, with a preimage exactly
if it has been claimed. -/
theorem stored_orders_rejected (h : Faithful toNative strkey)
    (hrun : Execution (Step sha256 current) State.deployed records s)
    (hstored : getOrder s id = some order) :
    parseSorobanOrder (nativeOrder toNative (getOrder s id)) =
        .error (.unknownStatus (.number (some (statusNumber order.status)))) ∧
      (∀ status, parseSorobanOrder (withStatus toNative order status) =
          .ok (some (orderData strkey order (statusData order.status))) ↔
        status = .string (statusName order.status)) ∧
      ((orderData strkey order (statusData order.status)).preimage = "" ↔
        order.status ≠ .claimed) := by
  refine ⟨?_, fun status => ?_, ?_⟩
  · rw [hstored, nativeOrder_eq, parse_withStatus h, h.u32]
    rfl
  · rw [parse_withStatus h, ← parseStatus_eq_ok]
    cases parseStatus status with
    | error e => simp [Except.map]
    | ok found =>
        have hdata : orderData strkey order found =
            orderData strkey order (statusData order.status) ↔
              found = statusData order.status :=
          ⟨congrArg SorobanOrderData.status, fun heq => heq ▸ rfl⟩
        simpa [Except.map] using hdata
  · rw [← preimage_eq_nil_iff hrun hstored, orderData]
    simp [hexText_ne_empty]

/-- A conversion in which an address is shown by its number. -/
def plainNative : FieldVal → Raw
  | .u32 value => .number (some value)
  | .u64 value => .bigint value
  | .i128 value => .bigint value
  | .address address => .string (Nat.repr address)
  | .bytes bytes => .bytes bytes

theorem plainNative_faithful : Faithful plainNative Nat.repr :=
  ⟨fun _ => rfl, fun _ => rfl, fun _ => rfl, fun _ => rfl, fun _ => rfl⟩

theorem stroop_order_rejected : ∃ s : State Bytes,
    getOrder s 1 = some ((stroopOrder [3]).order 1 0) ∧
    parseSorobanOrder (nativeOrder plainNative (getOrder s 1)) =
      .error (.unknownStatus (.number (some 0))) := by
  obtain ⟨s, hrun, -, horder, -⟩ := stroopRecords_run [3]
  exact ⟨s, horder, (stored_orders_rejected plainNative_faithful hrun horder).1⟩

end Runs

end OverSync.SdkOrders
