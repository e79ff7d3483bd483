import OverSync.Library.Bytes
import Mathlib.Data.Nat.Notation

/-! # UTF-8

Decoding never fails: a byte that cannot go on with a character ends it, and a replacement
character stands for what was read of it. -/

namespace OverSync.Library.Utf8

def encode (s : List Char) : Bytes := s.flatMap String.utf8EncodeChar

/-- The character that stands for bytes that are none. -/
def replacement : Char := Char.ofNat 0xFFFD

/-- A character of which some bytes are still missing, and the bounds of the next one. -/
structure Partial where
  missing : ℕ
  lower : ℕ
  upper : ℕ
  value : ℕ
  deriving DecidableEq, Repr

/-- The first byte of a character. -/
def start (b : ℕ) : List Char × Option Partial :=
  if b < 0x80 then ([Char.ofNat b], none)
  else if 0xC2 ≤ b ∧ b ≤ 0xDF then ([], some ⟨1, 0x80, 0xBF, b - 0xC0⟩)
  else if 0xE0 ≤ b ∧ b ≤ 0xEF then
    ([], some ⟨2, if b = 0xE0 then 0xA0 else 0x80, if b = 0xED then 0x9F else 0xBF, b - 0xE0⟩)
  else if 0xF0 ≤ b ∧ b ≤ 0xF4 then
    ([], some ⟨3, if b = 0xF0 then 0x90 else 0x80, if b = 0xF4 then 0x8F else 0xBF, b - 0xF0⟩)
  else ([replacement], none)

/-- A byte that may go on with a character. -/
def Partial.extend (p : Partial) (b : ℕ) : List Char × Option Partial :=
  if p.lower ≤ b ∧ b ≤ p.upper then
    let value := p.value * 64 + (b - 0x80)
    if p.missing = 1 then ([Char.ofNat value], none)
    else ([], some ⟨p.missing - 1, 0x80, 0xBF, value⟩)
  else
    let next := start b
    (replacement :: next.1, next.2)

def step : Option Partial → ℕ → List Char × Option Partial
  | none, b => start b
  | some p, b => p.extend b

def decodeFrom (state : Option Partial) : Bytes → List Char
  | [] => if state.isSome then [replacement] else []
  | b :: bs => (step state b.toNat).1 ++ decodeFrom (step state b.toNat).2 bs

def decode (bytes : Bytes) : List Char := decodeFrom none bytes

/-! ## Round trip -/

variable {bs : Bytes}

theorem decodeFrom_byte {state : Option Partial} {n : ℕ} (h : n < 256) :
    decodeFrom state (UInt8.ofNat n :: bs) = (step state n).1 ++ decodeFrom (step state n).2 bs := by
  rw [decodeFrom, UInt8.toNat_ofNat_of_lt' h]

/-- A byte in the middle of a character. -/
theorem decodeFrom_middle {p : Partial} {n : ℕ} (hlower : p.lower ≤ n + 0x80)
    (hupper : n + 0x80 ≤ p.upper) (hn : n < 0x40) (hmissing : p.missing ≠ 1) :
    decodeFrom (some p) (UInt8.ofNat (n + 0x80) :: bs) =
      decodeFrom (some ⟨p.missing - 1, 0x80, 0xBF, p.value * 64 + n⟩) bs := by
  rw [decodeFrom_byte (by omega)]
  simp [step, Partial.extend, hlower, hupper, hmissing]

/-- The last byte of a character. -/
theorem decodeFrom_last {p : Partial} {n : ℕ} (hlower : p.lower ≤ n + 0x80)
    (hupper : n + 0x80 ≤ p.upper) (hn : n < 0x40) (hmissing : p.missing = 1) :
    decodeFrom (some p) (UInt8.ofNat (n + 0x80) :: bs) =
      Char.ofNat (p.value * 64 + n) :: decodeFrom none bs := by
  rw [decodeFrom_byte (by omega)]
  simp [step, Partial.extend, hlower, hupper, hmissing]

theorem start_two {n : ℕ} (hlower : 2 ≤ n) (hupper : n < 0x20) :
    start (n + 0xC0) = ([], some ⟨1, 0x80, 0xBF, n⟩) := by
  rw [start, if_neg (by omega), if_pos (by omega), Nat.add_sub_cancel]

theorem start_three {n : ℕ} (hupper : n < 0x10) : start (n + 0xE0) =
    ([], some ⟨2, if n = 0 then 0xA0 else 0x80, if n = 0xD then 0x9F else 0xBF, n⟩) := by
  rw [start, if_neg (by omega), if_neg (by omega), if_pos (by omega), Nat.add_sub_cancel]
  simp

theorem start_four {n : ℕ} (hupper : n ≤ 4) : start (n + 0xF0) =
    ([], some ⟨3, if n = 0 then 0x90 else 0x80, if n = 4 then 0x8F else 0xBF, n⟩) := by
  rw [start, if_neg (by omega), if_neg (by omega), if_neg (by omega), if_pos (by omega),
    Nat.add_sub_cancel]
  simp

theorem decodeFrom_two {v : ℕ} (hlower : 0x80 ≤ v) (hupper : v < 0x800) :
    decodeFrom none (UInt8.ofNat (v / 64 + 0xC0) :: UInt8.ofNat (v % 64 + 0x80) :: bs) =
      Char.ofNat v :: decodeFrom none bs := by
  rw [decodeFrom_byte (by omega), step, start_two (by omega) (by omega), List.nil_append,
    decodeFrom_last (Nat.le_add_left _ _) (by dsimp only; omega) (by omega) rfl]
  congr 2
  dsimp only
  omega

/-- The bounds of the second byte leave out the surrogates and shorter encodings. -/
theorem decodeFrom_three {v : ℕ} (hlower : 0x800 ≤ v) (hupper : v < 0x10000)
    (hvalid : v < 0xD800 ∨ 0xDFFF < v) :
    decodeFrom none (UInt8.ofNat (v / 4096 + 0xE0) :: UInt8.ofNat (v / 64 % 64 + 0x80) ::
      UInt8.ofNat (v % 64 + 0x80) :: bs) = Char.ofNat v :: decodeFrom none bs := by
  rw [decodeFrom_byte (by omega), step, start_three (by omega), List.nil_append,
    decodeFrom_middle (by dsimp only; split_ifs <;> omega) (by dsimp only; split_ifs <;> omega)
      (by omega) (by dsimp only; omega),
    decodeFrom_last (Nat.le_add_left _ _) (by dsimp only; omega) (by omega) rfl]
  congr 2
  dsimp only
  omega

theorem decodeFrom_four {v : ℕ} (hlower : 0x10000 ≤ v) (hupper : v < 0x110000) :
    decodeFrom none (UInt8.ofNat (v / 262144 + 0xF0) :: UInt8.ofNat (v / 4096 % 64 + 0x80) ::
      UInt8.ofNat (v / 64 % 64 + 0x80) :: UInt8.ofNat (v % 64 + 0x80) :: bs) =
      Char.ofNat v :: decodeFrom none bs := by
  rw [decodeFrom_byte (by omega), step, start_four (by omega), List.nil_append,
    decodeFrom_middle (by dsimp only; split_ifs <;> omega) (by dsimp only; split_ifs <;> omega)
      (by omega) (by dsimp only; omega),
    decodeFrom_middle (Nat.le_add_left _ _) (by dsimp only; omega) (by omega) (by dsimp only; omega),
    decodeFrom_last (Nat.le_add_left _ _) (by dsimp only; omega) (by omega) rfl]
  congr 2
  dsimp only
  omega

theorem decodeFrom_encodeChar (c : Char) :
    decodeFrom none (String.utf8EncodeChar c ++ bs) = c :: decodeFrom none bs := by
  have hvalid : c.toNat < 0xD800 ∨ 0xDFFF < c.toNat ∧ c.toNat < 0x110000 := c.valid
  have hc : c = Char.ofNat c.toNat := (Char.ofNat_toNat c).symm
  have hbound : c.val.toNat = c.toNat := rfl
  rw [String.utf8EncodeChar, hbound]
  split_ifs with hone htwo hthree
  · rw [List.singleton_append, decodeFrom_byte (by omega), step, start, if_pos (by omega), ← hc]
    rfl
  · rw [Nat.mod_eq_of_lt (show c.toNat / 64 < 0x20 by omega)]
    exact (decodeFrom_two (by omega) (by omega)).trans (by rw [← hc]; rfl)
  · rw [Nat.mod_eq_of_lt (show c.toNat / 4096 < 0x10 by omega)]
    exact (decodeFrom_three (by omega) (by omega) (by omega)).trans (by rw [← hc]; rfl)
  · rw [Nat.mod_eq_of_lt (show c.toNat / 262144 < 0x08 by omega)]
    exact (decodeFrom_four (by omega) (by omega)).trans (by rw [← hc]; rfl)

theorem decode_encode (s : List Char) : decode (encode s) = s := by
  induction s with
  | nil => rfl
  | cons c s ih =>
      rw [encode, List.flatMap_cons, decode, decodeFrom_encodeChar]
      exact congrArg (c :: ·) ih

end OverSync.Library.Utf8
