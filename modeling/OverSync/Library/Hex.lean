import OverSync.Library.BigIntLiteral
import OverSync.Library.Bytes

/-! # Hexadecimal strings -/

namespace OverSync.Library

/-- The value of a hexadecimal digit of either case. -/
def hexValue (c : Char) : Option ℕ :=
  match digitValue c with
  | some digit => if digit < 16 then some digit else none
  | none => none

/-- `Buffer.from(s, "hex")`: pairs of digits up to the first that is none. -/
def decodeHex : List Char → Bytes
  | high :: low :: cs =>
    match hexValue high, hexValue low with
    | some h, some l => UInt8.ofNat (16 * h + l) :: decodeHex cs
    | _, _ => []
  | _ => []

/-- `s.replace("0x", "")`: the first occurrence goes. -/
def dropHexPrefix : List Char → List Char
  | '0' :: 'x' :: cs => cs
  | c :: cs => c :: dropHexPrefix cs
  | [] => []

/-- `bytes.toString("hex")` -/
def encodeHex (bytes : Bytes) : List Char :=
  bytes.flatMap fun b => [Nat.digitChar (b.toNat / 16), Nat.digitChar (b.toNat % 16)]

def isLowerHexDigit (c : Char) : Bool := c.isDigit || ('a' ≤ c && c ≤ 'f')

def isHexDigit (c : Char) : Bool := (hexValue c).isSome

/-! ## Digits -/

theorem hexValue_digitChar {n : ℕ} (h : n < 16) : hexValue (Nat.digitChar n) = some n := by
  have hall : ∀ k : Fin 16, hexValue (Nat.digitChar k) = some k.val := by decide
  exact hall ⟨n, h⟩

theorem isLowerHexDigit_digitChar {n : ℕ} (h : n < 16) : isLowerHexDigit (Nat.digitChar n) := by
  have hall : ∀ k : Fin 16, isLowerHexDigit (Nat.digitChar k) := by decide
  exact hall ⟨n, h⟩

theorem eq_digitChar_of_isLowerHexDigit {c : Char} (h : isLowerHexDigit c) :
    ∃ n < 16, c = Nat.digitChar n := by
  have hdigit : ∀ k : Fin 10, Nat.digitChar k = Char.ofNat (48 + k) := by decide
  have hletter : ∀ k : Fin 6, Nat.digitChar (10 + k) = Char.ofNat (97 + k) := by decide
  rw [isLowerHexDigit, Bool.or_eq_true, Bool.and_eq_true, decide_eq_true_eq, decide_eq_true_eq] at h
  rcases h with h | ⟨hge, hle⟩
  · obtain ⟨hge, hle⟩ : 48 ≤ c.toNat ∧ c.toNat ≤ 57 := by
      simpa [Char.isDigit, UInt32.le_iff_toNat_le] using h
    refine ⟨c.toNat - 48, by omega, ?_⟩
    rw [hdigit ⟨c.toNat - 48, by omega⟩, Nat.add_sub_of_le hge, Char.ofNat_toNat]
  · have hge' : 97 ≤ c.toNat := hge
    have hle' : c.toNat ≤ 102 := hle
    refine ⟨10 + (c.toNat - 97), by omega, ?_⟩
    rw [hletter ⟨c.toNat - 97, by omega⟩, Nat.add_sub_of_le hge', Char.ofNat_toNat]

theorem hexValue_lt {c : Char} {n : ℕ} (h : hexValue c = some n) : n < 16 := by
  unfold hexValue at h
  split at h
  · split_ifs at h with hlt
    rwa [← Option.some.inj h]
  · contradiction

theorem hexValue_eq_zero {c : Char} : hexValue c = some 0 ↔ c = '0' := by
  refine ⟨fun h => ?_, by rintro rfl; rfl⟩
  have hdigit : digitValue c = some 0 := by
    unfold hexValue at h
    split at h
    · split_ifs at h
      rwa [← Option.some.inj h]
    · contradiction
  unfold digitValue at hdigit
  have hlow : '0' ≤ c → 48 ≤ c.toNat := id
  have hsmall : 'a' ≤ c → 97 ≤ c.toNat := id
  have hcapital : 'A' ≤ c → 65 ≤ c.toNat := id
  split_ifs at hdigit with h0 ha hA
  · have hvalue : c.toNat = 48 := by
      have hge := hlow h0.1
      have hsub := Option.some.inj hdigit
      omega
    rw [← Char.ofNat_toNat c, hvalue]
  · have hge := hsmall ha.1
    have hsub := Option.some.inj hdigit
    omega
  · have hge := hcapital hA.1
    have hsub := Option.some.inj hdigit
    omega

theorem toNat_of_hexValue {c : Char} {n : ℕ} (h : hexValue c = some n) :
    (48 ≤ c.toNat ∧ c.toNat ≤ 57) ∨ (65 ≤ c.toNat ∧ c.toNat ≤ 70) ∨
      (97 ≤ c.toNat ∧ c.toNat ≤ 102) := by
  unfold hexValue digitValue at h
  by_cases hdigit : '0' ≤ c ∧ c ≤ '9'
  · exact .inl hdigit
  by_cases hsmall : 'a' ≤ c ∧ c ≤ 'z'
  · simp only [hdigit, hsmall, and_self, if_true, if_false] at h
    split_ifs at h with hlt
    have hlow : 97 ≤ c.toNat := hsmall.1
    omega
  by_cases hcapital : 'A' ≤ c ∧ c ≤ 'Z'
  · simp only [hdigit, hsmall, hcapital, and_self, if_true, if_false] at h
    split_ifs at h with hlt
    have hlow : 65 ≤ c.toNat := hcapital.1
    omega
  · simp [hdigit, hsmall, hcapital] at h

theorem isJsSpace_of_hexValue {c : Char} {n : ℕ} (h : hexValue c = some n) :
    isJsSpace c = false := by
  have hrange := toNat_of_hexValue h
  simp only [isJsSpace, decide_eq_false_iff_not]
  omega

theorem isHexDigit_of_isLowerHexDigit {c : Char} (h : isLowerHexDigit c) : isHexDigit c := by
  obtain ⟨n, hn, rfl⟩ := eq_digitChar_of_isLowerHexDigit h
  rw [isHexDigit, hexValue_digitChar hn]
  rfl

/-! ## Strings of digits -/

@[simp] theorem length_encodeHex (bytes : Bytes) : (encodeHex bytes).length = 2 * bytes.length := by
  induction bytes with
  | nil => rfl
  | cons b bytes ih =>
      rw [encodeHex, List.flatMap_cons, List.length_append, ← encodeHex, ih, List.length_cons]
      exact (Nat.add_comm _ _).trans (Nat.mul_succ 2 _).symm

theorem encodeHex_lower (bytes : Bytes) : ∀ c ∈ encodeHex bytes, isLowerHexDigit c := by
  intro c hc
  obtain ⟨b, -, hc⟩ := List.mem_flatMap.mp hc
  have hb := b.toNat_lt
  simp only [List.mem_cons, List.not_mem_nil, or_false] at hc
  rcases hc with rfl | rfl
  · exact isLowerHexDigit_digitChar (by omega)
  · exact isLowerHexDigit_digitChar (by omega)

theorem decodeHex_cons {high low : Char} {h l : ℕ} (cs : List Char) (hhigh : hexValue high = some h)
    (hlow : hexValue low = some l) :
    decodeHex (high :: low :: cs) = UInt8.ofNat (16 * h + l) :: decodeHex cs := by
  rw [decodeHex, hhigh, hlow]

theorem decodeHex_encodeHex (bytes : Bytes) : decodeHex (encodeHex bytes) = bytes := by
  induction bytes with
  | nil => rfl
  | cons b bytes ih =>
      have hb := b.toNat_lt
      have hsum : 16 * (b.toNat / 16) + b.toNat % 16 = b.toNat := Nat.div_add_mod _ _
      rw [encodeHex, List.flatMap_cons, ← encodeHex, List.cons_append, List.singleton_append,
        decodeHex_cons _ (hexValue_digitChar (by omega)) (hexValue_digitChar (by omega)), ih, hsum,
        UInt8.ofNat_toNat]

/-- Digits in pairs. -/
inductive HexPairs : List Char → Prop where
  | nil : HexPairs []
  | cons {high low : Char} {h l : ℕ} {cs : List Char} : hexValue high = some h →
      hexValue low = some l → HexPairs cs → HexPairs (high :: low :: cs)

theorem hexPairs_of_even : ∀ {cs : List Char}, (∀ c ∈ cs, isHexDigit c) → cs.length % 2 = 0 →
    HexPairs cs
  | [], _, _ => .nil
  | [_], _, heven => absurd heven (by simp)
  | high :: low :: cs, hall, heven => by
      obtain ⟨h, hhigh⟩ := Option.isSome_iff_exists.mp (hall high (by simp))
      obtain ⟨l, hlow⟩ := Option.isSome_iff_exists.mp (hall low (by simp))
      have hrest : cs.length % 2 = 0 := by
        simp only [List.length_cons] at heven
        omega
      exact .cons hhigh hlow (hexPairs_of_even (fun c hc => hall c (by simp [hc])) hrest)

theorem hexPairs_encodeHex (bytes : Bytes) : HexPairs (encodeHex bytes) := by
  refine hexPairs_of_even (fun c hc => ?_) ?_
  · exact isHexDigit_of_isLowerHexDigit (encodeHex_lower bytes c hc)
  · rw [length_encodeHex]
    omega

theorem HexPairs.isHexDigit {cs : List Char} (h : HexPairs cs) : ∀ c ∈ cs, isHexDigit c := by
  induction h with
  | nil => simp
  | cons hhigh hlow _ ih => simpa [Library.isHexDigit, hhigh, hlow] using ih

theorem HexPairs.length_decodeHex {cs : List Char} (h : HexPairs cs) :
    2 * (decodeHex cs).length = cs.length := by
  induction h with
  | nil => rfl
  | cons hhigh hlow _ ih =>
      rw [decodeHex_cons _ hhigh hlow]
      simp only [List.length_cons]
      omega

/-- Only lower-case digits come back the same. -/
theorem HexPairs.encodeHex_decodeHex {cs : List Char} (h : HexPairs cs)
    (hlower : ∀ c ∈ cs, isLowerHexDigit c) : encodeHex (decodeHex cs) = cs := by
  induction h with
  | nil => rfl
  | @cons high low h l cs hhigh hlow _ ih =>
      have hback : ∀ {c n}, isLowerHexDigit c → hexValue c = some n → Nat.digitChar n = c := by
        intro c n hc hn
        obtain ⟨k, hk, rfl⟩ := eq_digitChar_of_isLowerHexDigit hc
        rw [hexValue_digitChar hk] at hn
        rw [Option.some.inj hn]
      have hh := hexValue_lt hhigh
      have hl := hexValue_lt hlow
      have hbyte : (UInt8.ofNat (16 * h + l)).toNat = 16 * h + l :=
        UInt8.toNat_ofNat_of_lt' (show _ < 256 by omega)
      rw [decodeHex_cons _ hhigh hlow, encodeHex, List.flatMap_cons, ← encodeHex,
        ih fun c hc => hlower c (by simp [hc]), hbyte, show (16 * h + l) / 16 = h by omega,
        show (16 * h + l) % 16 = l by omega, hback (hlower high (by simp)) hhigh,
        hback (hlower low (by simp)) hlow]
      rfl

theorem HexPairs.decodeHex_zero_iff {cs : List Char} (h : HexPairs cs) :
    (∀ b ∈ decodeHex cs, b = 0) ↔ ∀ c ∈ cs, c = '0' := by
  induction h with
  | nil => simp [decodeHex]
  | @cons high low h l cs hhigh hlow _ ih =>
      have hh := hexValue_lt hhigh
      have hl := hexValue_lt hlow
      have hzero : UInt8.ofNat (16 * h + l) = 0 ↔ high = '0' ∧ low = '0' := by
        rw [← hexValue_eq_zero, ← hexValue_eq_zero, hhigh, hlow, Option.some.injEq,
          Option.some.injEq, ← UInt8.toNat_inj,
          UInt8.toNat_ofNat_of_lt' (show 16 * h + l < 256 by omega), UInt8.toNat_zero]
        omega
      rw [decodeHex_cons _ hhigh hlow]
      simp only [List.forall_mem_cons, hzero, ih, and_assoc]

end OverSync.Library
