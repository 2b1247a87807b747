import Mathlib.Algebra.BigOperators.Group.Finset.Basic
import Mathlib.Data.Finset.Card
import Mathlib.Data.Fintype.Defs
import Mathlib.Logic.Function.Basic

set_option autoImplicit false

namespace Mutex

variable {T P : Type}

-- A thread is at a critical place of its program exactly when it has the lock.
def Owned (critical : P → Bool) (mutex : Option T) (pc : T → P) : Prop :=
  ∀ thread, critical (pc thread) = true ↔ mutex = some thread

section Owner

variable (critical : P → Bool) (mutex : Option T) (pc : T → P) (owned : Owned critical mutex pc)

include owned

theorem owned_alone (thread other : T) (mine : critical (pc thread) = true) (its : critical (pc other) = true) :
    other = thread := by
  have here := (owned thread).mp mine
  have there := (owned other).mp its
  rw [here] at there
  exact (Option.some.inj there).symm

theorem owned_free (free : mutex = none) (thread : T) : critical (pc thread) = false := by
  rw [← Bool.not_eq_true, owned thread, free]
  exact nofun

variable [DecidableEq T]

theorem owned_moves (thread : T) (place : P) (same : critical (pc thread) = critical place) :
    Owned critical mutex (Function.update pc thread place) := by
  intro other
  by_cases here : other = thread
  · rw [here, Function.update_self, ← same]
    exact owned thread
  · rw [Function.update_of_ne here]
    exact owned other

theorem owned_locks (thread : T) (place : P) (free : mutex = none) (enters : critical place = true) :
    Owned critical (some thread) (Function.update pc thread place) := by
  intro other
  by_cases here : other = thread
  · rw [here, Function.update_self]
    exact iff_of_true enters rfl
  · rw [Function.update_of_ne here, owned_free critical mutex pc owned free]
    exact iff_of_false Bool.false_ne_true (fun same => here (Option.some.inj same).symm)

theorem owned_unlocks (thread : T) (place : P) (inside : critical (pc thread) = true) (leaves : critical place = false) :
    Owned critical none (Function.update pc thread place) := by
  intro other
  by_cases here : other = thread
  · rw [here, Function.update_self, leaves]
    exact iff_of_false Bool.false_ne_true nofun
  · rw [Function.update_of_ne here]
    refine iff_of_false (fun its => here ?_) nofun
    exact owned_alone critical mutex pc owned thread other inside its

end Owner

section Counting

variable [Fintype T]

def count (kind : P → Bool) (pc : T → P) : Nat := (Finset.univ.filter (fun thread => kind (pc thread) = true)).card

theorem count_positive (kind : P → Bool) (pc : T → P) : 0 < count kind pc ↔ ∃ thread, kind (pc thread) = true := by
  rw [count, Finset.card_pos]
  simp [Finset.Nonempty]

variable [DecidableEq T]

theorem count_moves (kind : P → Bool) (pc : T → P) (thread : T) (place : P) :
    count kind (Function.update pc thread place) + (kind (pc thread)).toNat = count kind pc + (kind place).toNat := by
  have others : ∀ places : T → P, count kind places =
      (Finset.univ.filter (fun other => other ≠ thread ∧ kind (places other) = true)).card + (kind (places thread)).toNat := by
    intro places
    have split : Finset.univ.filter (fun other => kind (places other) = true) =
        Finset.univ.filter (fun other => other ≠ thread ∧ kind (places other) = true) ∪
          (if kind (places thread) = true then {thread} else ∅) := by
      ext other
      by_cases here : other = thread
      · subst here
        by_cases there : kind (places other) = true <;> simp [there]
      · by_cases there : kind (places thread) = true <;> simp [there, here]
    have apart : Disjoint (Finset.univ.filter (fun other => other ≠ thread ∧ kind (places other) = true))
        (if kind (places thread) = true then {thread} else ∅) := by
      by_cases there : kind (places thread) = true <;> simp [there]
    rw [count, split, Finset.card_union_of_disjoint apart]
    cases kind (places thread) <;> rfl
  have same : Finset.univ.filter (fun other => other ≠ thread ∧ kind (Function.update pc thread place other) = true) =
      Finset.univ.filter (fun other => other ≠ thread ∧ kind (pc other) = true) := by
    apply Finset.filter_congr
    intro other _
    by_cases here : other = thread
    · simp [here]
    · simp [Function.update_of_ne here]
  rw [others (Function.update pc thread place), others pc, same, Function.update_self]
  omega

def total (weight : P → Nat) (pc : T → P) : Nat := ∑ thread, weight (pc thread)

theorem total_moves (weight : P → Nat) (pc : T → P) (thread : T) (place : P) :
    total weight (Function.update pc thread place) + weight (pc thread) = total weight pc + weight place := by
  rw [total, total, ← Finset.add_sum_erase _ _ (Finset.mem_univ thread),
    ← Finset.add_sum_erase Finset.univ (fun other => weight (pc other)) (Finset.mem_univ thread)]
  have others : ∑ other ∈ Finset.univ.erase thread, weight (Function.update pc thread place other) =
      ∑ other ∈ Finset.univ.erase thread, weight (pc other) :=
    Finset.sum_congr rfl (fun other mem => by rw [Function.update_of_ne (Finset.ne_of_mem_erase mem)])
  rw [others, Function.update_self]
  omega

end Counting

end Mutex
