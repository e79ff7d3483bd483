import Mathlib.Algebra.Group.Nat.Defs
import Mathlib.Data.List.Basic

/-! # Byte strings -/

namespace OverSync.Library

abbrev Bytes := List UInt8

/-- The last `width` bytes of `n`, most significant first. -/
def toBigEndian : ℕ → ℕ → Bytes
  | 0, _ => []
  | width + 1, n => toBigEndian width (n / 256) ++ [UInt8.ofNat n]

@[simp] theorem length_toBigEndian (width n : ℕ) : (toBigEndian width n).length = width := by
  induction width generalizing n with
  | zero => rfl
  | succ width ih => simp [toBigEndian, ih]

theorem toBigEndian_zero (width : ℕ) : toBigEndian width 0 = List.replicate width 0 := by
  induction width with
  | zero => rfl
  | succ width ih =>
      rw [toBigEndian, Nat.zero_div, ih, List.replicate_succ']
      rfl

/-- A number that fits is padded with zeros on the left. -/
theorem toBigEndian_pad (padding : ℕ) {width n : ℕ} (h : n < 256 ^ width) :
    toBigEndian (padding + width) n = List.replicate padding 0 ++ toBigEndian width n := by
  induction width generalizing n with
  | zero =>
      obtain rfl : n = 0 := by
        rw [Nat.pow_zero] at h
        omega
      rw [Nat.add_zero, toBigEndian_zero]
      exact (List.append_nil _).symm
  | succ width ih =>
      have hquotient : n / 256 < 256 ^ width := by
        rw [Nat.pow_succ] at h
        omega
      rw [← Nat.add_assoc, toBigEndian, ih hquotient, toBigEndian, List.append_assoc]

/-- Numbers that fit have different bytes. -/
theorem toBigEndian_inj {width m n : ℕ} (hm : m < 256 ^ width) (hn : n < 256 ^ width)
    (h : toBigEndian width m = toBigEndian width n) : m = n := by
  induction width generalizing m n with
  | zero =>
      rw [Nat.pow_zero] at hm hn
      omega
  | succ width ih =>
      rw [Nat.pow_succ] at hm hn
      obtain ⟨hhigh, hlow⟩ := List.append_inj' h rfl
      have hquotient := ih (by omega) (by omega) hhigh
      have hbyte := congrArg UInt8.toNat (List.cons.inj hlow).1
      rw [UInt8.toNat_ofNat', UInt8.toNat_ofNat'] at hbyte
      omega

end OverSync.Library
