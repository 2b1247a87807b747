import Mathlib.Algebra.GroupWithZero.Nat
import Mathlib.Algebra.Order.Group.Int
import Mathlib.Data.List.Pairwise
import CameraController.Lib.Nearest
import CameraController.StringConversion

set_option autoImplicit false

namespace CameraController

namespace CameraStringConversion

open Effects Nearest

variable {W X : Type}

-- choices[index]. A negative int is a huge size_t.
def choiceAt (choices : List Int) (index : Int) : Prog W X Int :=
  if 0 ≤ index then
    match choices[index.toNat]? with
    | some c => pure c
    | none => Prog.fault .outOfBounds
  else Prog.fault .outOfBounds

-- The result of an int operation.
def int (value : Int) : Prog W X Int :=
  if -2147483648 ≤ value ∧ value ≤ 2147483647 then pure value else Prog.fault .overflow

-- The while loop, which makes n turns at most: the choice that it returns, or a
-- and b when it ends.
def searchBetween (choices : List Int) (value : Int) : Nat → Int → Int → Prog W X (Int ⊕ Int × Int)
  | 0, _, _ => Prog.fault .outOfFuel
  | n + 1, a, b => do
      if (← int (b - a)) > 1 then
        let c := Int.tdiv (← int (b + a)) 2
        let middle ← choiceAt choices c
        if value = middle then pure (.inl middle)
        else if value > middle then searchBetween choices value n c b
        else searchBetween choices value n a c
      else pure (.inr (a, b))

def nearerOf (choices : List Int) (value : Int) : Int ⊕ Int × Int → Prog W X Int
  | .inl found => pure found
  | .inr (a, b) => do
      let upper ← choiceAt choices b
      let lower ← choiceAt choices a
      if (← int (upper - value)) < (← int (value - lower)) then pure upper else pure lower

def findNearest (n : Nat) (choices : List Int) (value : Int) : Prog W X Int := do
  if choices.length = 1 then choiceAt choices 0
  else if choices.length = 0 then pure (-1)
  else
    let first ← choiceAt choices 0
    if value ≤ first then pure first
    else
      let last ← choiceAt choices (choices.length - 1 : Nat)
      if value ≥ last then pure last
      else
        let ended ← searchBetween choices value n 0 (choices.length - 1 : Nat)
        nearerOf choices value ended

theorem choice_at (choices : List Int) (i : Nat) (bound : i < choices.length) :
    (choiceAt choices i : Prog W X Int) = pure choices[i] := by
  simp [choiceAt, bound]

theorem int_fits (value : Int) (low : -2147483648 ≤ value) (high : value ≤ 2147483647) :
    (int value : Prog W X Int) = pure value := by
  simp [int, low, high]

theorem neighbours_gap (choices : List Int) (sorted : choices.Pairwise (· ≤ ·)) (i : Nat) (bound : i + 1 < choices.length)
    (d : Int) (member : d ∈ choices) : d ≤ choices[i] ∨ choices[i + 1] ≤ d := by
  obtain ⟨j, within, rfl⟩ := List.getElem_of_mem member
  by_cases before : j ≤ i
  · exact .inl (sorted.rel_get_of_le (a := ⟨j, within⟩) (b := ⟨i, by omega⟩) before)
  · exact .inr (sorted.rel_get_of_le (a := ⟨i + 1, bound⟩) (b := ⟨j, within⟩) (Nat.lt_of_not_le before))

-- The loop keeps choices[a] < value < choices[b] with a < b, and b - a shrinks.
theorem search_between (choices : List Int) (value : Int) (short : choices.length < 2 ^ 30) (n a b : Nat) (order : a < b)
    (bound : b < choices.length) (above : choices[a] < value) (below : value < choices[b]) (enough : b - a ≤ n) (world : W) :
    (∃ found, (searchBetween choices value n a b : Prog W X _) world = .ok (.inl found) world ∧
      found ∈ choices ∧ found = value) ∨
    ∃ i : Nat, ∃ inside : i + 1 < choices.length, choices[i] < value ∧ value < choices[i + 1] ∧
      (searchBetween choices value n a b : Prog W X _) world = .ok (.inr (i, (i + 1 : Nat))) world := by
  induction n generalizing a b with
  | zero => omega
  | succ n ih =>
      rw [searchBetween, int_fits _ (by omega) (by omega), pure_bind]
      by_cases apart : a + 1 < b
      · have centre : Int.tdiv ((b : Int) + a) 2 = ((b + a) / 2 : Nat) := by
          rw [← Int.natCast_add]
          rfl
        have inner : (b + a) / 2 < choices.length := by omega
        rw [if_pos (by omega), int_fits _ (by omega) (by omega), pure_bind]
        simp only [centre, choice_at choices _ inner, pure_bind]
        by_cases here : value = choices[(b + a) / 2]
        · rw [if_pos here]
          exact .inl ⟨_, rfl, List.getElem_mem inner, here.symm⟩
        · rw [if_neg here]
          by_cases higher : value > choices[(b + a) / 2]
          · rw [if_pos higher]
            exact ih _ b (by omega) bound higher below (by omega)
          · rw [if_neg higher]
            exact ih a _ (by omega) inner above (by omega) (by omega)
      · have next : b = a + 1 := by omega
        subst next
        rw [if_neg (by omega)]
        exact .inr ⟨a, bound, above, below, rfl⟩

theorem sorted_ends (choices : List Int) (sorted : choices.Pairwise (· ≤ ·)) (some : 0 < choices.length) (d : Int)
    (member : d ∈ choices) : choices[0] ≤ d ∧ d ≤ choices[choices.length - 1] := by
  obtain ⟨j, within, rfl⟩ := List.getElem_of_mem member
  exact ⟨sorted.rel_get_of_le (a := ⟨0, some⟩) (b := ⟨j, within⟩) (Nat.zero_le j),
    sorted.rel_get_of_le (a := ⟨j, within⟩) (b := ⟨choices.length - 1, by omega⟩) (Nat.le_sub_one_of_lt within)⟩

theorem find_between (choices : List Int) (value : Int) (sorted : choices.Pairwise (· ≤ ·)) (short : choices.length < 2 ^ 30)
    (ints : ∀ c ∈ choices, -1 ≤ c ∧ c ≤ 2147483647) (n : Nat) (enough : choices.length ≤ n) (some : 1 < choices.length)
    (above : choices[0] < value) (below : value < choices[choices.length - 1]) (world : W) :
    ∃ c, (searchBetween choices value n 0 (choices.length - 1 : Nat) >>= nearerOf choices value : Prog W X Int) world =
      .ok c world ∧ IsNearest choices value c := by
  have found := search_between (W := W) (X := X) choices value short n 0 (choices.length - 1) (by omega) (by omega) above below
    (by omega) world
  rw [Int.natCast_zero] at found
  cases found with
  | inl early =>
      obtain ⟨c, search, member, same⟩ := early
      rw [same] at member search
      exact ⟨value, by rw [Prog.bind_ok _ _ _ _ _ search]; rfl, nearest_exact choices value member⟩
  | inr ended =>
      obtain ⟨i, inside, lower, upper, search⟩ := ended
      have lowerMember := List.getElem_mem (show i < choices.length by omega)
      have upperMember := List.getElem_mem inside
      -- Nothing overflows: the lower neighbour is at least -1, so value is not negative.
      have lowerInt := ints _ lowerMember
      have upperInt := ints _ upperMember
      have compared : (nearerOf choices value (.inr (i, (i + 1 : Nat))) : Prog W X Int) =
          pure (if choices[i + 1] - value < value - choices[i] then choices[i + 1] else choices[i]) := by
        simp only [nearerOf, choice_at choices _ inside, choice_at choices i (by omega), pure_bind]
        rw [int_fits _ (by omega) (by omega), int_fits _ (by omega) (by omega), pure_bind, pure_bind]
        split <;> rfl
      refine ⟨_, by rw [Prog.bind_ok _ _ _ _ _ search, compared]; rfl, ?_⟩
      exact nearest_gap choices value _ _ lowerMember upperMember lower upper (neighbours_gap choices sorted i inside)

theorem find_nearest (choices : List Int) (value : Int) (sorted : choices.Pairwise (· ≤ ·)) (short : choices.length < 2 ^ 30)
    (ints : ∀ c ∈ choices, -1 ≤ c ∧ c ≤ 2147483647) (n : Nat) (enough : choices.length ≤ n) (world : W) :
    ∃ c, (findNearest n choices value : Prog W X Int) world = .ok c world ∧
      (choices = [] → c = -1) ∧ (choices ≠ [] → IsNearest choices value c) := by
  by_cases one : choices.length = 1
  · obtain ⟨c, rfl⟩ := List.length_eq_one_iff.mp one
    exact ⟨c, rfl, by simp, fun _ => ⟨by simp, by simp, by simp⟩⟩
  · by_cases none : choices.length = 0
    · rw [findNearest, if_neg one, if_pos none]
      exact ⟨-1, rfl, fun _ => rfl, fun some => absurd (List.length_eq_zero_iff.mp none) some⟩
    · have some : 1 < choices.length := by omega
      have nonempty : ¬ choices = [] := fun empty => none (List.length_eq_zero_iff.mpr empty)
      have ends := sorted_ends choices sorted (by omega)
      have firstRead : (choiceAt choices 0 : Prog W X Int) = pure choices[0] := choice_at choices 0 (by omega)
      rw [findNearest, if_neg one, if_neg none, firstRead, pure_bind]
      by_cases first : value ≤ choices[0]
      · rw [if_pos first]
        refine ⟨_, rfl, fun empty => absurd empty nonempty, fun _ => ?_⟩
        exact nearest_first choices value _ (List.getElem_mem _) first (fun d member => (ends d member).1)
      · rw [if_neg first, choice_at choices _ (by omega), pure_bind]
        by_cases last : value ≥ choices[choices.length - 1]
        · rw [if_pos last]
          refine ⟨_, rfl, fun empty => absurd empty nonempty, fun _ => ?_⟩
          exact nearest_last choices value _ (List.getElem_mem _) last (fun d member => (ends d member).2)
        · rw [if_neg last]
          obtain ⟨c, returns, nearest⟩ := find_between (X := X) choices value sorted short ints n enough some (by omega)
            (by omega) world
          exact ⟨c, returns, fun empty => absurd empty nonempty, fun _ => nearest⟩

theorem find_nearest_aperture : ∃ c, (findNearest 3 [280, 400, 560] 480 : Prog Unit Empty Int) () = .ok c () ∧
    (([280, 400, 560] : List Int) = [] → c = -1) ∧ (([280, 400, 560] : List Int) ≠ [] → IsNearest [280, 400, 560] 480 c) :=
  find_nearest [280, 400, 560] 480 (by decide) (by decide) (by decide) 3 (by decide) ()

end CameraStringConversion

end CameraController
