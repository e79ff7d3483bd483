import OverSync.Model.Secrets
import OverSync.Verification.E2eSim.Simulators
import OverSync.Verification.SorobanHtlc.Equations

/-! # The bytes behind a hashlock

What the SDK hashes for an order, what `oversync-htlc` hashes for it, and that neither order nor
preimage can be taken for another. -/

namespace OverSync.Secrets

open Library

variable {hex : List Char} {high low : Char} {h l : ℕ}

/-! ## Hex strings -/

theorem parseDigits_pair (hhigh : hexValue high = some h) (hlow : hexValue low = some l) :
    parseDigits 16 0 [high, low] = some (16 * h + l) := by
  have hdigit : ∀ {c n}, hexValue c = some n → digitValue c = some n ∧ n < 16 := by
    intro c n hc
    refine ⟨?_, hexValue_lt hc⟩
    unfold hexValue at hc
    split at hc
    · next digit hvalue =>
        split_ifs at hc
        rw [hvalue, ← Option.some.inj hc]
    · contradiction
  obtain ⟨hvalue, hlt⟩ := hdigit hhigh
  obtain ⟨lvalue, llt⟩ := hdigit hlow
  simp [parseDigits, hvalue, lvalue, hlt, llt, Nat.mul_comm]

/-- Two hex digits have no white space, sign or prefix that `parseInt` would skip. -/
theorem parseInt16_pair (hhigh : hexValue high = some h) (hlow : hexValue low = some l) :
    parseInt16 [high, low] = some ((16 * h + l : ℕ) : ℤ) := by
  have hnot : ∀ {c n d}, hexValue c = some n → hexValue d = none → c ≠ d := by
    rintro c n d hc hd rfl
    rw [hc] at hd
    contradiction
  have hminus := hnot hhigh (show hexValue '-' = none from rfl)
  have hplus := hnot hhigh (show hexValue '+' = none from rfl)
  have hx := hnot hlow (show hexValue 'x' = none from rfl)
  have hX := hnot hlow (show hexValue 'X' = none from rfl)
  have hspace := isJsSpace_of_hexValue hhigh
  have hdigits : isHexDigit high ∧ isHexDigit low := by simp [isHexDigit, hhigh, hlow]
  simp [parseInt16, hspace, hminus, hplus, hx, hX, hdigits, parseDigits_pair hhigh hlow]

theorem uint8Pairs_of_hexPairs (hpairs : HexPairs hex) : uint8Pairs hex = decodeHex hex := by
  induction hpairs with
  | nil => rfl
  | @cons high low h l cs hhigh hlow _ ih =>
      have hh := hexValue_lt hhigh
      have hl := hexValue_lt hlow
      have hbyte : toUint8 (some ((16 * h + l : ℕ) : ℤ)) = UInt8.ofNat (16 * h + l) := by
        rw [toUint8, Option.getD_some]
        congr 1
        omega
      rw [uint8Pairs, parseInt16_pair hhigh hlow, hbyte, ih, decodeHex_cons _ hhigh hlow]

theorem hexToUint8_of_hexPairs (hpairs : HexPairs hex) :
    hexToUint8 (String.ofList ('0' :: 'x' :: hex)) = .ok (decodeHex hex) := by
  have hlength := hpairs.length_decodeHex
  have heven : hex.length % 2 = 0 := by omega
  simp [hexToUint8, heven, uint8Pairs_of_hexPairs hpairs, require]

/-! ## The loop over the order id -/

/-- The passes that are left write the id's last bytes before what has been written. -/
theorem encodeOrderId_eq (index : ℕ) (written : Bytes) (value : ℕ) :
    encodeOrderId index (List.replicate index 0 ++ written) value =
      toBigEndian index value ++ written := by
  induction index generalizing written value with
  | zero => rfl
  | succ index ih =>
      have hset :
          (List.replicate (index + 1) 0 ++ written).set index (UInt8.ofNat (value &&& 0xff)) =
            List.replicate index 0 ++ UInt8.ofNat (value &&& 0xff) :: written := by
        rw [List.replicate_succ', List.append_assoc,
          List.set_append_right _ _ (by simp)]
        simp
      have hbyte : UInt8.ofNat (value &&& 0xff) = UInt8.ofNat value := by
        rw [show 0xff = 2 ^ 8 - 1 from rfl, Nat.and_two_pow_sub_one_eq_mod]
        exact UInt8.toNat_inj.mp (by simp)
      rw [encodeOrderId, hset, ih, hbyte, toBigEndian, Nat.shiftRight_eq_div_pow,
        List.append_assoc]
      rfl

theorem setBytes_eq (id : ℕ) (bytes : Bytes) :
    setBytes (encodeOrderId 32 (List.replicate (32 + bytes.length) 0) id) bytes 32 =
      toBigEndian 32 id ++ bytes := by
  rw [List.replicate_add, encodeOrderId_eq, setBytes]
  simp

/-! ## What is hashed -/

theorem orderPreimageBytes_bytes {orderId : ℤ} {bytes encoded : Bytes} :
    orderPreimageBytes orderId (.bytes bytes) = .ok encoded ↔
      (0 ≤ orderId ∧ orderId ≤ maxOrderId) ∧ bytes ≠ [] ∧
        toBigEndian 32 orderId.toNat ++ bytes = encoded := by
  simp only [orderPreimageBytes, Preimage.read, require_bind_eq_ok, ok_bind, setBytes_eq, ne_eq,
    List.length_eq_zero_iff, pure, Except.pure, Except.ok.injEq]

theorem isHexBytes_iff : isHexBytes (String.ofList ('0' :: 'x' :: hex)) ↔
    hex ≠ [] ∧ HexPairs hex := by
  have htext : isHexBytes (String.ofList ('0' :: 'x' :: hex)) =
      (hex ≠ [] && hex.length % 2 = 0 && hex.all isHexDigit) := by
    rw [isHexBytes, String.toList_ofList]
    rfl
  rw [htext]
  simp only [Bool.and_eq_true, decide_eq_true_eq, List.all_eq_true, and_assoc]
  refine and_congr_right fun _ => ⟨fun h => hexPairs_of_even h.2 h.1, fun hpairs => ?_⟩
  have hlength := hpairs.length_decodeHex
  exact ⟨by omega, hpairs.isHexDigit⟩

/-- A preimage in hex is hashed as the bytes that it stands for. -/
theorem orderPreimageBytes_hex (orderId : ℤ) (hpairs : HexPairs hex) (hne : hex ≠ []) :
    orderPreimageBytes orderId (.hex (String.ofList ('0' :: 'x' :: hex))) =
      orderPreimageBytes orderId (.bytes (decodeHex hex)) := by
  have hprefix : String.ofList ('0' :: 'x' :: hex) ≠ "0x" := by
    intro h
    have hchars := congrArg String.toList h
    rw [String.toList_ofList] at hchars
    exact hne (List.cons.inj (List.cons.inj hchars).2).2
  have hread : (Preimage.hex (String.ofList ('0' :: 'x' :: hex))).read = .ok (decodeHex hex) := by
    rw [Preimage.read, require_of hprefix, require_of (isHexBytes_iff.mpr ⟨hne, hpairs⟩)]
    exact hexToUint8_of_hexPairs hpairs
  rw [orderPreimageBytes, hread]
  rfl

theorem orderPreimageBytes_eq_hashInput (orderId : SorobanHtlc.OrderId) {bytes : Bytes}
    (hne : bytes ≠ []) :
    orderPreimageBytes orderId.val (.bytes bytes) = .ok (SorobanHtlc.hashInput orderId bytes) := by
  have hlt := orderId.isLt
  refine orderPreimageBytes_bytes.mpr ⟨⟨by omega, ?_⟩, hne, ?_⟩
  · rw [maxOrderId]
    omega
  · rw [SorobanHtlc.hashInput_eq, Int.toNat_natCast]

/-- Order and preimage can be read off the bytes that are hashed. -/
theorem orderPreimageBytes_inj {orderId orderId' : ℤ} {bytes bytes' encoded : Bytes}
    (h : orderPreimageBytes orderId (.bytes bytes) = .ok encoded)
    (h' : orderPreimageBytes orderId' (.bytes bytes') = .ok encoded) :
    orderId = orderId' ∧ bytes = bytes' := by
  obtain ⟨⟨hlow, hhigh⟩, -, hencoded⟩ := orderPreimageBytes_bytes.mp h
  obtain ⟨⟨hlow', hhigh'⟩, -, hencoded'⟩ := orderPreimageBytes_bytes.mp h'
  rw [maxOrderId] at hhigh hhigh'
  obtain ⟨hid, hbytes⟩ := List.append_inj (hencoded.trans hencoded'.symm) (by simp)
  have hnat := toBigEndian_inj (by omega) (by omega) hid
  exact ⟨by omega, hbytes⟩

/-! ## The simulators -/

theorem isHexBytes_eq_isBytes (text : String) : isHexBytes text = E2eSim.isBytes text := by
  by_cases hprefix : ∃ hex, text.toList = '0' :: 'x' :: hex
  · obtain ⟨hex, hhex⟩ := hprefix
    unfold isHexBytes E2eSim.isBytes E2eSim.hexDigits
    rw [hhex]
    by_cases hall : hex.all isHexDigit = true
    · simp [hall]
    · simp [hall]
  · have hleft : isHexBytes text = false := by
      unfold isHexBytes
      split
      · next hex hhex => exact absurd ⟨hex, hhex⟩ hprefix
      · rfl
    have hright : E2eSim.hexDigits text = none := by
      unfold E2eSim.hexDigits
      split
      · next hex hhex => exact absurd ⟨hex, hhex⟩ hprefix
      · rfl
    rw [hleft, E2eSim.isBytes, hright, Option.any_none]

/-- A string that passes the check is the text of its bytes. -/
theorem read_hex {text : String} (hempty : text ≠ "0x") (hhex : E2eSim.isBytes text = true) :
    (Preimage.hex text).read = .ok (E2eSim.hexToUint8 text) ∧ E2eSim.hexToUint8 text ≠ [] := by
  obtain ⟨bytes, hbytes, hne⟩ := E2eSim.isBytes_iff.mp hhex
  obtain ⟨hex, hdigits, hpairs, rfl⟩ := E2eSim.bytesArgument_eq_some.mp hbytes
  have htext : text = String.ofList ('0' :: 'x' :: hex) := by
    rw [← (E2eSim.hexDigits_eq_some.mp hdigits).1, String.ofList_toList]
  rw [E2eSim.hexToUint8_of_bytes hbytes]
  refine ⟨?_, hne⟩
  rw [Preimage.read, require_of hempty, isHexBytes_eq_isBytes, require_of hhex, htext]
  exact hexToUint8_of_hexPairs hpairs

/-- The simulators check claims against what the loop computes. -/
theorem simulators_hashOrderPreimage (sha256 : Bytes → Bytes) (orderId : ℤ) (text : String) :
    E2eSim.hashOrderPreimage sha256 orderId text =
      (hashOrderPreimage sha256 orderId (.hex text)).mapError E2eSim.SimError.error := by
  have hmax : E2eSim.maxOrderId = maxOrderId := rfl
  rw [E2eSim.hashOrderPreimage, hashOrderPreimage, orderPreimageBytes, hmax]
  by_cases hid : 0 ≤ orderId ∧ orderId ≤ maxOrderId
  · rw [require_of hid, require_of hid]
    by_cases hempty : text ≠ "0x"
    · rw [require_of hempty]
      by_cases hhex : E2eSim.isBytes text = true
      · obtain ⟨hread, hne⟩ := read_hex hempty hhex
        have hlength : (E2eSim.hexToUint8 text).length ≠ 0 := mt List.length_eq_zero_iff.mp hne
        rw [hread, require_of hhex]
        simp only [ok_bind]
        rw [require_of hne, require_of hlength, ok_bind, ok_bind, setBytes_eq]
        rfl
      · rw [Preimage.read, require_of hempty, isHexBytes_eq_isBytes, require_of_not hhex,
          require_of_not hhex]
        rfl
    · rw [Preimage.read, require_of_not hempty, require_of_not hempty]
      rfl
  · rw [require_of_not hid, require_of_not hid]
    rfl

/-- The SDK and `oversync-htlc` hash the same bytes, and different ones for different orders or
preimages. -/
theorem hashInputs_agree :
    (∀ (orderId : SorobanHtlc.OrderId) (hex : List Char), HexPairs hex → hex ≠ [] →
      orderPreimageBytes orderId.val (.hex (String.ofList ('0' :: 'x' :: hex))) =
        .ok (SorobanHtlc.hashInput orderId (decodeHex hex))) ∧
    (∀ (orderId : SorobanHtlc.OrderId) (bytes : Bytes), bytes ≠ [] →
      orderPreimageBytes orderId.val (.bytes bytes) =
        .ok (SorobanHtlc.hashInput orderId bytes)) ∧
    ∀ (orderId orderId' : SorobanHtlc.OrderId) (bytes bytes' : Bytes),
      SorobanHtlc.hashInput orderId bytes = SorobanHtlc.hashInput orderId' bytes' →
      orderId = orderId' ∧ bytes = bytes' := by
  refine ⟨fun orderId hex hpairs hne => ?_, fun orderId bytes hne =>
    orderPreimageBytes_eq_hashInput orderId hne, fun orderId orderId' bytes bytes' h => ?_⟩
  · have hbytes : decodeHex hex ≠ [] := by
      have hlength := hpairs.length_decodeHex
      intro hnil
      rw [hnil] at hlength
      exact hne (List.length_eq_zero_iff.mp hlength.symm)
    rw [orderPreimageBytes_hex _ hpairs hne, orderPreimageBytes_eq_hashInput orderId hbytes]
  · rw [SorobanHtlc.hashInput_eq, SorobanHtlc.hashInput_eq] at h
    obtain ⟨hid, hbytes⟩ := List.append_inj h (by simp)
    have hlt : orderId.val < 256 ^ 32 := by omega
    have hlt' : orderId'.val < 256 ^ 32 := by omega
    exact ⟨Fin.ext (toBigEndian_inj hlt hlt' hid), hbytes⟩

end OverSync.Secrets
