import Mathlib.Algebra.GroupWithZero.Nat
import Mathlib.Data.List.Basic

set_option autoImplicit false

-- A queue that holds capacity elements at most and makes room by dropping the
-- oldest one.
structure BoundedFifo (T : Type) (capacity : Nat) where
  items : List T
  bounded : items.length ≤ capacity

namespace BoundedFifo

variable {T : Type} {capacity : Nat}

def empty : BoundedFifo T capacity where
  items := []
  bounded := Nat.zero_le capacity

def full (q : BoundedFifo T capacity) : Bool := q.items.length == capacity

def pushed (q : BoundedFifo T capacity) (x : T) : List T := (if q.full then q.items.tail else q.items) ++ [x]

theorem pushed_bounded [NeZero capacity] (q : BoundedFifo T capacity) (x : T) : (q.pushed x).length ≤ capacity := by
  have positive : 0 < capacity := Nat.pos_of_ne_zero (NeZero.ne capacity)
  have bounded := q.bounded
  unfold pushed
  by_cases full : q.full = true
  · have length : q.items.length = capacity := by simpa [BoundedFifo.full] using full
    simp [full, length]
    omega
  · have length : q.items.length ≠ capacity := by simpa [BoundedFifo.full] using full
    simp [full]
    omega

def push [NeZero capacity] (q : BoundedFifo T capacity) (x : T) : BoundedFifo T capacity where
  items := q.pushed x
  bounded := q.pushed_bounded x

def pop (q : BoundedFifo T capacity) : Option (T × BoundedFifo T capacity) :=
  match shape : q.items with
  | [] => none
  | x :: rest =>
      some (x, ⟨rest, by
        have bounded := q.bounded
        rw [shape, List.length_cons] at bounded
        omega⟩)

theorem pop_nil (q : BoundedFifo T capacity) (shape : q.items = []) : q.pop = none := by
  unfold pop
  split
  · rfl
  · simp_all

theorem pop_cons (q : BoundedFifo T capacity) (x : T) (rest : List T) (shape : q.items = x :: rest) :
    ∃ popped, q.pop = some (x, popped) ∧ popped.items = rest := by
  unfold pop
  split
  · simp_all
  · rename_i y tail found
    rw [shape, List.cons.injEq] at found
    obtain ⟨rfl, rfl⟩ := found
    exact ⟨_, rfl, rfl⟩

end BoundedFifo
