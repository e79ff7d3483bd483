import Mathlib.Algebra.Order.Ring.Nat
import Mathlib.Data.Nat.GCD.Basic
import Mathlib.Data.Nat.Prime.Basic
import Mathlib.Tactic.Ring

/-! # Natural numbers as doubles

A double has fifty-three significant bits. What an operation gives is rounded to the nearest
double, and between two that are as near to the one whose last bit is even. -/

namespace OverSync.Library.Double

/-- The distance of the doubles around a natural number. -/
def spacing (n : ℕ) : ℕ := 2 ^ (n.log2 - 52)

/-- The next double is nearer than the one before, or as near and even. -/
def RoundsUp (n : ℕ) : Prop :=
  spacing n < 2 * (n % spacing n) ∨ spacing n = 2 * (n % spacing n) ∧ n / spacing n % 2 = 1

instance (n : ℕ) : Decidable (RoundsUp n) := inferInstanceAs (Decidable (_ ∨ _))

/-- The nearest double, if there were no largest one. -/
def nearest (n : ℕ) : ℕ :=
  (if RoundsUp n then n / spacing n + 1 else n / spacing n) * spacing n

/-- Where the exponents end. -/
def limit : ℕ := 2 ^ 1024

/-- The nearest double; `none` is `Infinity`. -/
def ofNat (n : ℕ) : Option ℕ := if nearest n < limit then some (nearest n) else none

/-- The sum of two doubles. -/
def add (a b : ℕ) : ℕ := nearest (a + b)

variable {a b k m n : ℕ}

/-! ## Spacing -/

theorem spacing_pos (n : ℕ) : 0 < spacing n := Nat.two_pow_pos _

theorem spacing_of_lt (h : n < 2 ^ 53) : spacing n = 1 := by
  rcases Nat.eq_zero_or_pos n with rfl | hpos
  · rfl
  · have hlog : n.log2 < 53 := (Nat.log2_lt hpos.ne').mpr h
    rw [spacing, Nat.sub_eq_zero_of_le (by omega), Nat.pow_zero]

theorem two_mul_spacing_le (h : 2 ^ 53 ≤ n) : 2 * spacing n ≤ n := by
  have hne : n ≠ 0 := by omega
  have hlog : 53 ≤ n.log2 := (Nat.le_log2 hne).mpr h
  calc
    2 * spacing n = 2 ^ (n.log2 - 52 + 1) := by rw [spacing, Nat.pow_succ, Nat.mul_comm]
    _ ≤ 2 ^ n.log2 := Nat.pow_le_pow_right Nat.two_pos (by omega)
    _ ≤ n := Nat.log2_self_le hne

theorem log2_mul_two_pow (hm : m ≠ 0) (k : ℕ) : (m * 2 ^ k).log2 = m.log2 + k := by
  have hpos := Nat.two_pow_pos k
  rw [Nat.log2_eq_iff (Nat.mul_ne_zero hm hpos.ne'), Nat.pow_add, Nat.add_right_comm, Nat.pow_add]
  exact ⟨Nat.mul_le_mul_right _ (Nat.log2_self_le hm),
    (Nat.mul_lt_mul_right hpos).mpr Nat.lt_log2_self⟩

/-- A number is a double if its odd part has no more than fifty-three bits. -/
theorem spacing_dvd_iff (hm : m % 2 = 1) (k : ℕ) :
    spacing (m * 2 ^ k) ∣ m * 2 ^ k ↔ m < 2 ^ 53 := by
  have hne : m ≠ 0 := by
    rintro rfl
    contradiction
  have hcoprime : ∀ e, (2 ^ e).Coprime m := fun e =>
    (Nat.coprime_two_left.mpr (Nat.odd_iff.mpr hm)).pow_left e
  rw [spacing, log2_mul_two_pow hne, Nat.Coprime.dvd_mul_left (hcoprime _),
    Nat.pow_dvd_pow_iff_le_right Nat.one_lt_two, ← Nat.log2_lt hne]
  omega

/-! ## Rounding -/

theorem nearest_of_dvd (h : spacing n ∣ n) : nearest n = n := by
  have hpos := spacing_pos n
  have hnot : ¬RoundsUp n := by
    rw [RoundsUp, Nat.mod_eq_zero_of_dvd h]
    omega
  rw [nearest, if_neg hnot, Nat.div_mul_cancel h]

theorem nearest_eq_self_iff : nearest n = n ↔ spacing n ∣ n :=
  ⟨fun h => (Nat.dvd_mul_left (spacing n) _).trans (dvd_of_eq h), nearest_of_dvd⟩

theorem nearest_of_lt (h : n < 2 ^ 53) : nearest n = n :=
  nearest_of_dvd (spacing_of_lt h ▸ Nat.one_dvd n)

theorem nearest_of_le (h : n ≤ 2 ^ 53) : nearest n = n := by
  rcases Nat.lt_or_eq_of_le h with hlt | rfl
  · exact nearest_of_lt hlt
  · decide

/-- Rounding moves a number by at most half the spacing. -/
theorem nearest_bounds (n : ℕ) :
    2 * n ≤ 2 * nearest n + spacing n ∧ 2 * nearest n ≤ 2 * n + spacing n := by
  have hsplit : n / spacing n * spacing n + n % spacing n = n := Nat.div_add_mod' n _
  have hmod : n % spacing n < spacing n := Nat.mod_lt n (spacing_pos n)
  rw [nearest]
  split_ifs with hup
  · have hhalf : spacing n ≤ 2 * (n % spacing n) := by
      rcases hup with hmore | ⟨htie, _⟩
      · exact hmore.le
      · exact htie.le
    rw [Nat.add_mul, Nat.one_mul]
    omega
  · have hhalf : 2 * (n % spacing n) ≤ spacing n := not_lt.mp fun hmore => hup (.inl hmore)
    omega

theorem nearest_between (n : ℕ) : n ≤ 2 * nearest n ∧ 2 * nearest n ≤ 3 * n := by
  rcases lt_or_ge n (2 ^ 53) with hlt | hge
  · rw [nearest_of_lt hlt]
    omega
  · have hspacing := two_mul_spacing_le hge
    have hbounds := nearest_bounds n
    omega

theorem ofNat_of_le (hle : n ≤ m) (hfinite : 3 * m < 2 * limit) :
    ofNat n = some (nearest n) := by
  have hbound := nearest_between n
  exact if_pos (by omega)

theorem ofNat_of_ge (hge : m ≤ n) (hlarge : 2 * limit ≤ m) : ofNat n = none := by
  have hbound := nearest_between n
  exact if_neg (by omega)

theorem ofNat_eq_some (h : ofNat n = some m) : m = nearest n := by
  rw [ofNat] at h
  split_ifs at h
  exact (Option.some.inj h).symm

/-- Where the doubles are even numbers, an odd one goes to the multiple of four. -/
example : nearest (2 ^ 53 + 1) = 2 ^ 53 ∧ nearest (2 ^ 53 + 3) = 2 ^ 53 + 4 := by decide

theorem add_of_le (h : a + b ≤ 2 ^ 53) : add a b = a + b := nearest_of_le h

end OverSync.Library.Double
