import OverSync.Library.Bytes
import Mathlib.Data.List.TakeWhile
import Mathlib.Data.Nat.Notation

/-! # Base64 for URLs

`buffer.toString("base64url")` and `Buffer.from(s, "base64url")`, which reads both alphabets, skips
other characters and stops at padding. -/

namespace OverSync.Library.Base64Url

/-! ## Digits -/

def digitChar (n : ℕ) : Char :=
  if n < 26 then Char.ofNat (65 + n)
  else if n < 52 then Char.ofNat (71 + n)
  else if n < 62 then Char.ofNat (n - 4)
  else if n = 62 then '-' else '_'

def digitOf (c : Char) : Option ℕ :=
  if 'A' ≤ c ∧ c ≤ 'Z' then some (c.toNat - 65)
  else if 'a' ≤ c ∧ c ≤ 'z' then some (c.toNat - 71)
  else if '0' ≤ c ∧ c ≤ '9' then some (c.toNat + 4)
  else if c = '-' ∨ c = '+' then some 62
  else if c = '_' ∨ c = '/' then some 63
  else none

/-- Digits are not padding. -/
theorem digitOf_digitChar {n : ℕ} (h : n < 64) :
    digitOf (digitChar n) = some n ∧ digitChar n ≠ '=' := by
  have hall : ∀ k : Fin 64, digitOf (digitChar k) = some k.val ∧ digitChar k ≠ '=' := by decide
  exact hall ⟨n, h⟩

/-! ## Groups -/

/-- Three bytes make four digits; there is no padding. -/
def encodeDigits : Bytes → List ℕ
  | a :: b :: c :: rest =>
    a.toNat / 4 :: (a.toNat % 4 * 16 + b.toNat / 16) :: (b.toNat % 16 * 4 + c.toNat / 64) ::
      (c.toNat % 64) :: encodeDigits rest
  | [a, b] => [a.toNat / 4, a.toNat % 4 * 16 + b.toNat / 16, b.toNat % 16 * 4]
  | [a] => [a.toNat / 4, a.toNat % 4 * 16]
  | [] => []

def decodeDigits : List ℕ → Bytes
  | w :: x :: y :: z :: rest =>
    UInt8.ofNat (w * 4 + x / 16) :: UInt8.ofNat (x % 16 * 16 + y / 4) ::
      UInt8.ofNat (y % 4 * 64 + z) :: decodeDigits rest
  | [w, x, y] => [UInt8.ofNat (w * 4 + x / 16), UInt8.ofNat (x % 16 * 16 + y / 4)]
  | [w, x] => [UInt8.ofNat (w * 4 + x / 16)]
  | _ => []

def encode (bytes : Bytes) : List Char := (encodeDigits bytes).map digitChar

def decode (s : List Char) : Bytes :=
  decodeDigits ((s.takeWhile (· ≠ '=')).filterMap digitOf)

/-! ## Round trip -/

theorem encodeDigits_lt (bytes : Bytes) : ∀ n ∈ encodeDigits bytes, n < 64 := by
  induction bytes using encodeDigits.induct with
  | case1 a b c rest ih =>
      have ha := a.toNat_lt
      have hb := b.toNat_lt
      have hc := c.toNat_lt
      intro n hn
      simp only [encodeDigits, List.mem_cons] at hn
      rcases hn with rfl | rfl | rfl | rfl | hn
      · omega
      · omega
      · omega
      · omega
      · exact ih n hn
  | case2 a b =>
      have ha := a.toNat_lt
      have hb := b.toNat_lt
      simp only [encodeDigits, List.forall_mem_cons]
      exact ⟨by omega, by omega, by omega, by simp⟩
  | case3 a =>
      have ha := a.toNat_lt
      simp only [encodeDigits, List.forall_mem_cons]
      exact ⟨by omega, by omega, by simp⟩
  | case4 => simp [encodeDigits]

theorem ofNat_toNat_of_eq {a : UInt8} {n : ℕ} (h : n = a.toNat) : UInt8.ofNat n = a := by
  rw [h, UInt8.ofNat_toNat]

theorem decodeDigits_encodeDigits (bytes : Bytes) : decodeDigits (encodeDigits bytes) = bytes := by
  induction bytes using encodeDigits.induct with
  | case1 a b c rest ih =>
      have hb := b.toNat_lt
      have hc := c.toNat_lt
      rw [encodeDigits, decodeDigits, ih, ofNat_toNat_of_eq (a := a) (by omega),
        ofNat_toNat_of_eq (a := b) (by omega), ofNat_toNat_of_eq (a := c) (by omega)]
  | case2 a b =>
      have hb := b.toNat_lt
      rw [encodeDigits, decodeDigits, ofNat_toNat_of_eq (a := a) (by omega),
        ofNat_toNat_of_eq (a := b) (by omega)]
  | case3 a => rw [encodeDigits, decodeDigits, ofNat_toNat_of_eq (a := a) (by omega)]
  | case4 => rfl

theorem decode_encode (bytes : Bytes) : decode (encode bytes) = bytes := by
  have hdigits := encodeDigits_lt bytes
  have hkept : (encode bytes).takeWhile (· ≠ '=') = encode bytes := by
    apply List.takeWhile_eq_self_iff.mpr
    intro c hc
    obtain ⟨n, hn, rfl⟩ := List.mem_map.mp hc
    exact decide_eq_true (digitOf_digitChar (hdigits n hn)).2
  have hread : (encode bytes).filterMap digitOf = encodeDigits bytes := by
    rw [encode, List.filterMap_map]
    apply (List.filterMap_congr _).trans List.filterMap_some
    intro n hn
    exact (digitOf_digitChar (hdigits n hn)).1
  rw [decode, hkept, hread, decodeDigits_encodeDigits]

end OverSync.Library.Base64Url
