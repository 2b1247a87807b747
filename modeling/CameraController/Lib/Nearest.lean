import Mathlib.Algebra.Order.Group.Abs

set_option autoImplicit false

namespace Nearest

variable {A : Type} [AddCommGroup A] [LinearOrder A]

-- No element is nearer to value than c, and of those as near c is the smallest.
structure IsNearest (choices : List A) (value c : A) : Prop where
  chosen : c ∈ choices
  nearest : ∀ d ∈ choices, |c - value| ≤ |d - value|
  smallest : ∀ d ∈ choices, |d - value| = |c - value| → c ≤ d

variable [IsOrderedAddMonoid A]

theorem distance_above (value c : A) (above : value ≤ c) : |c - value| = c - value := abs_of_nonneg (sub_nonneg.mpr above)

theorem distance_below (value c : A) (below : c ≤ value) : |c - value| = value - c := by
  rw [abs_sub_comm, abs_of_nonneg (sub_nonneg.mpr below)]

theorem nearest_exact (choices : List A) (value : A) (chosen : value ∈ choices) : IsNearest choices value value where
  chosen := chosen
  nearest := by simp
  smallest := by
    intro d _ tie
    rw [sub_self, abs_zero, abs_eq_zero, sub_eq_zero] at tie
    exact le_of_eq tie.symm

theorem nearest_first (choices : List A) (value c : A) (chosen : c ∈ choices) (below : value ≤ c)
    (least : ∀ d ∈ choices, c ≤ d) : IsNearest choices value c where
  chosen := chosen
  nearest := by
    intro d member
    rw [distance_above value c below, distance_above value d (below.trans (least d member))]
    exact sub_le_sub_right (least d member) value
  smallest := fun d member _ => least d member

theorem nearest_last (choices : List A) (value c : A) (chosen : c ∈ choices) (above : c ≤ value)
    (greatest : ∀ d ∈ choices, d ≤ c) : IsNearest choices value c where
  chosen := chosen
  nearest := by
    intro d member
    rw [distance_below value c above, distance_below value d ((greatest d member).trans above)]
    exact sub_le_sub_left (greatest d member) value
  smallest := by
    intro d member tie
    rw [distance_below value c above, distance_below value d ((greatest d member).trans above), sub_right_inj] at tie
    exact le_of_eq tie.symm

-- The value lies in a gap: every element is at most lower or at least upper, so
-- one of the two neighbours is nearest, the lower one when they tie.
theorem nearest_gap (choices : List A) (value lower upper : A) (lowerChosen : lower ∈ choices) (upperChosen : upper ∈ choices)
    (above : lower < value) (below : value < upper) (gap : ∀ d ∈ choices, d ≤ lower ∨ upper ≤ d) :
    IsNearest choices value (if upper - value < value - lower then upper else lower) := by
  have far : ∀ d ∈ choices, d ≤ lower ∧ value - lower ≤ |d - value| ∨ upper ≤ d ∧ upper - value ≤ |d - value| := by
    intro d member
    cases gap d member with
    | inl under =>
        rw [distance_below value d (under.trans above.le)]
        exact .inl ⟨under, sub_le_sub_left under value⟩
    | inr beyond =>
        rw [distance_above value d (below.le.trans beyond)]
        exact .inr ⟨beyond, sub_le_sub_right beyond value⟩
  by_cases nearer : upper - value < value - lower
  · rw [if_pos nearer]
    have distance := distance_above value upper below.le
    refine ⟨upperChosen, fun d member => ?_, fun d member tie => ?_⟩
    · rw [distance]
      cases far d member with
      | inl under => exact nearer.le.trans under.2
      | inr beyond => exact beyond.2
    · rw [distance] at tie
      cases far d member with
      | inl under => exact absurd (under.2.trans_eq tie) (not_le.mpr nearer)
      | inr beyond => exact beyond.1
  · rw [if_neg nearer]
    have distance := distance_below value lower above.le
    refine ⟨lowerChosen, fun d member => ?_, fun d member tie => ?_⟩
    · rw [distance]
      cases far d member with
      | inl under => exact under.2
      | inr beyond => exact (not_lt.mp nearer).trans beyond.2
    · cases far d member with
      | inl under =>
          rw [distance, distance_below value d (under.1.trans above.le), sub_right_inj] at tie
          exact le_of_eq tie.symm
      | inr beyond => exact (above.trans below).le.trans beyond.1

end Nearest
