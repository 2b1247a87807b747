import Mathlib.Data.Int.Log
import Mathlib.Algebra.Order.Floor.Ring
import Mathlib.Tactic.Linarith
import Mathlib.Tactic.Positivity
import Mathlib.Tactic.Ring

set_option autoImplicit false

namespace Rounding

variable {K : Type} [Field K] [LinearOrder K] [IsStrictOrderedRing K] [FloorRing K]

def nearestEven (x : K) : ℤ :=
  if x - ⌊x⌋ < 1 / 2 then ⌊x⌋
  else if 1 / 2 < x - ⌊x⌋ then ⌊x⌋ + 1
  else if ⌊x⌋ % 2 = 0 then ⌊x⌋ else ⌊x⌋ + 1

omit [IsStrictOrderedRing K] in
theorem nearest_even_cases (x : K) : nearestEven x = ⌊x⌋ ∧ x - ⌊x⌋ ≤ 1 / 2 ∨ nearestEven x = ⌊x⌋ + 1 ∧ 1 / 2 ≤ x - ⌊x⌋ := by
  unfold nearestEven
  split
  · rename_i below
    exact .inl ⟨rfl, below.le⟩
  · rename_i above
    split
    · rename_i further
      exact .inr ⟨rfl, further.le⟩
    · rename_i within
      split
      · exact .inl ⟨rfl, not_lt.mp within⟩
      · exact .inr ⟨rfl, not_lt.mp above⟩

theorem nearest_even_close (x : K) : |x - nearestEven x| ≤ 1 / 2 := by
  have below := Int.floor_le x
  have above := Int.lt_floor_add_one x
  rw [abs_le]
  obtain ⟨same, near⟩ | ⟨same, near⟩ := nearest_even_cases x
  · rw [same]
    constructor <;> linarith
  · rw [same]
    push_cast
    constructor <;> linarith

theorem nearest_even_unique (x : K) (n : ℤ) (close : |x - n| < 1 / 2) : nearestEven x = n := by
  have near := nearest_even_close x
  rw [abs_le] at near
  rw [abs_lt] at close
  have upper : (nearestEven x : K) < n + 1 := by linarith [near.1, close.2]
  have lower : (n : K) < nearestEven x + 1 := by linarith [near.2, close.1]
  have small : nearestEven x < n + 1 := by exact_mod_cast upper
  have large : n < nearestEven x + 1 := by exact_mod_cast lower
  omega

theorem nearest_even_int (n : ℤ) : nearestEven (n : K) = n := nearest_even_unique (n : K) n (by simp)

-- The distance of the numbers of p bits around q.
def spacing (p : ℕ) (q : K) : K := (2 : K) ^ (Int.log 2 q - p + 1)

-- The number of p bits that is nearest to q. The exponent has no bounds here.
def round (p : ℕ) (q : K) : K := nearestEven (q / spacing p q) * spacing p q

variable (p : ℕ)

theorem spacing_pos (q : K) : 0 < spacing p q := zpow_pos two_pos _

theorem spacing_le (q : K) (positive : 0 < q) : spacing p q ≤ 2 * q / 2 ^ p := by
  have power : (2 : K) ^ Int.log 2 q ≤ q := by exact_mod_cast Int.zpow_log_le_self one_lt_two positive
  have split : spacing p q = 2 ^ Int.log 2 q * 2 / 2 ^ p := by
    rw [spacing, zpow_add₀ two_ne_zero, zpow_sub₀ two_ne_zero, zpow_natCast, zpow_one]
    ring
  rw [split, div_le_div_iff_of_pos_right (by positivity)]
  linarith

theorem round_error (q : K) (positive : 0 < q) : |round p q - q| ≤ q / 2 ^ p := by
  have gap := spacing_pos p q
  have close := nearest_even_close (q / spacing p q)
  have scaled : round p q - q = -((q / spacing p q - nearestEven (q / spacing p q)) * spacing p q) := by
    rw [round, sub_mul, div_mul_cancel₀ _ gap.ne']
    ring
  rw [scaled, abs_neg, abs_mul, abs_of_pos gap]
  have product := mul_le_mul_of_nonneg_right close gap.le
  have narrow := spacing_le p q positive
  calc _ ≤ 1 / 2 * spacing p q := product
    _ ≤ 1 / 2 * (2 * q / 2 ^ p) := by linarith
    _ = q / 2 ^ p := by ring

theorem round_nat (n : ℕ) (fits : n < 2 ^ p) : round p (n : K) = n := by
  rcases Nat.eq_zero_or_pos n with rfl | some
  · have none := nearest_even_int (K := K) 0
    rw [Int.cast_zero] at none
    simp [round, none]
  · have small : Nat.log 2 n < p := Nat.log_lt_of_lt_pow some.ne' fits
    have fine : spacing p (n : K) = (2 ^ (p - 1 - Nat.log 2 n))⁻¹ := by
      rw [spacing, Int.log_natCast, ← zpow_natCast, ← zpow_neg]
      congr 1
      omega
    have whole : (n : K) / spacing p (n : K) = ((n * 2 ^ (p - 1 - Nat.log 2 n) : ℤ) : K) := by
      rw [fine, div_inv_eq_mul]
      push_cast
      rfl
    rw [round, whole, nearest_even_int, ← whole, div_mul_cancel₀ _ (spacing_pos p (n : K)).ne']

section Errors

-- y is what is left of x after k roundings, each with a relative error up to u.
structure Approx (u : K) (k : ℕ) (x y : K) : Prop where
  lower : x * (1 - u) ^ k ≤ y
  upper : y ≤ x * (1 + u) ^ k

variable (u : K)

omit [FloorRing K] in
theorem approx_trans (j k : ℕ) (x y z : K) (nonneg : 0 ≤ u) (small : u ≤ 1) (left : Approx u j x y) (right : Approx u k y z) :
    Approx u (j + k) x z where
  lower := by
    have power : 0 ≤ (1 - u) ^ k := pow_nonneg (by linarith) k
    calc x * (1 - u) ^ (j + k) = x * (1 - u) ^ j * (1 - u) ^ k := by rw [pow_add]; ring
      _ ≤ y * (1 - u) ^ k := mul_le_mul_of_nonneg_right left.lower power
      _ ≤ z := right.lower
  upper := by
    have power : 0 ≤ (1 + u) ^ k := pow_nonneg (by linarith) k
    calc z ≤ y * (1 + u) ^ k := right.upper
      _ ≤ x * (1 + u) ^ j * (1 + u) ^ k := mul_le_mul_of_nonneg_right left.upper power
      _ = x * (1 + u) ^ (j + k) := by rw [pow_add]; ring

omit [FloorRing K] in
theorem approx_scale (k : ℕ) (c x y : K) (nonneg : 0 ≤ c) (approx : Approx u k x y) : Approx u k (x * c) (y * c) where
  lower := by
    have scaled := mul_le_mul_of_nonneg_right approx.lower nonneg
    linarith
  upper := by
    have scaled := mul_le_mul_of_nonneg_right approx.upper nonneg
    linarith

theorem approx_round (q : K) (positive : 0 < q) : Approx (1 / 2 ^ p) 1 q (round p q) := by
  have near := round_error p q positive
  rw [abs_le] at near
  have share : q / 2 ^ p = q * (1 / 2 ^ p) := by ring
  constructor
  · rw [pow_one]
    linarith [near.1]
  · rw [pow_one]
    linarith [near.2]

theorem approx_next (k : ℕ) (c x y : K) (factor : 0 < c) (positive : 0 < y) (approx : Approx (1 / 2 ^ p) k x y) :
    Approx (1 / 2 ^ p) (k + 1) (x * c) (round p (y * c)) := by
  have unit : (1 : K) / 2 ^ p ≤ 1 := by
    rw [div_le_one (by positivity)]
    exact one_le_pow₀ one_le_two
  exact approx_trans _ k 1 _ _ _ (by positivity) unit (approx_scale _ k c x y factor.le approx)
    (approx_round p (y * c) (mul_pos positive factor))

end Errors

end Rounding
