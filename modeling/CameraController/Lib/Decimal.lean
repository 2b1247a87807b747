import Mathlib.Algebra.Order.Ring.Rat
import Mathlib.Data.List.TakeWhile
import Mathlib.Tactic.FieldSimp
import Mathlib.Tactic.Positivity
import Mathlib.Tactic.Ring

set_option autoImplicit false

namespace Decimal

def value? (text : List Char) : Option ℚ :=
  let whole := text.takeWhile Char.isDigit
  match text.dropWhile Char.isDigit with
  | [] => if whole.isEmpty then none else some (Nat.ofDigitChars 10 whole 0)
  | c :: fraction =>
      if c == '.' && !whole.isEmpty && fraction.all Char.isDigit then
        some (Nat.ofDigitChars 10 whole 0 + Nat.ofDigitChars 10 fraction 0 / 10 ^ fraction.length)
      else none

def padded (places m : ℕ) : List Char :=
  List.replicate (places - (Nat.toDigits 10 m).length) '0' ++ Nat.toDigits 10 m

-- The number of n units of the last place, with that many places.
def fixed (places n : ℕ) : List Char := Nat.toDigits 10 (n / 10 ^ places) ++ '.' :: padded places (n % 10 ^ places)

theorem digits_all (n : ℕ) (c : Char) (member : c ∈ Nat.toDigits 10 n) : c.isDigit = true :=
  Nat.isDigit_of_mem_toDigits (by decide) (by decide) member

theorem padded_all (places m : ℕ) : (padded places m).all Char.isDigit = true := by
  rw [List.all_eq_true]
  intro c member
  cases List.mem_append.mp member with
  | inl zero => rw [List.eq_of_mem_replicate zero]; rfl
  | inr digit => exact digits_all m c digit

theorem padded_length (places m : ℕ) (some : 0 < places) (fits : m < 10 ^ places) : (padded places m).length = places := by
  have short : (Nat.toDigits 10 m).length ≤ places := (Nat.length_toDigits_le_iff (by decide) some).mpr fits
  rw [padded, List.length_append, List.length_replicate]
  omega

theorem padded_value (places m : ℕ) : Nat.ofDigitChars 10 (padded places m) 0 = m := by
  rw [padded, Nat.ofDigitChars_append, Nat.ofDigitChars_replicate_zero, Nat.mul_zero, Nat.ofDigitChars_ten_toDigits]

theorem takes_digits (digits rest : List Char) (all : ∀ c ∈ digits, c.isDigit = true) :
    (digits ++ '.' :: rest).takeWhile Char.isDigit = digits ∧ (digits ++ '.' :: rest).dropWhile Char.isDigit = '.' :: rest := by
  have point : ¬ Char.isDigit '.' = true := by decide
  constructor
  · rw [List.takeWhile_append_of_pos all, List.takeWhile_cons_of_neg point, List.append_nil]
  · rw [List.dropWhile_append_of_pos all, List.dropWhile_cons_of_neg point]

theorem value_fixed (places n : ℕ) (some : 0 < places) : value? (fixed places n) = .some ((n : ℚ) / 10 ^ places) := by
  obtain ⟨takes, drops⟩ := takes_digits (Nat.toDigits 10 (n / 10 ^ places)) (padded places (n % 10 ^ places))
    (digits_all (n / 10 ^ places))
  have fits : n % 10 ^ places < 10 ^ places := Nat.mod_lt n (by positivity)
  have filled : (Nat.toDigits 10 (n / 10 ^ places)).isEmpty = false := by
    rw [List.isEmpty_eq_false_iff]
    exact Nat.toDigits_ne_nil
  have split : ((n / 10 ^ places : ℕ) : ℚ) * 10 ^ places + (n % 10 ^ places : ℕ) = n := by
    have whole := Nat.div_add_mod' n (10 ^ places)
    exact_mod_cast whole
  rw [value?, fixed, takes, drops]
  simp only [filled, padded_all, padded_value, Nat.ofDigitChars_ten_toDigits, padded_length places _ some fits, beq_self_eq_true,
    Bool.not_false, Bool.and_self, if_true]
  congr 1
  rw [eq_div_iff (by positivity), ← split]
  field_simp

end Decimal
