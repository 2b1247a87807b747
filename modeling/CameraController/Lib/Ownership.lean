import Mathlib.Data.List.Basic
import CameraController.Lib.Linearization
import CameraController.Lib.Prog

set_option autoImplicit false

namespace Ownership

open Effects Linearization

inductive Move (R : Type) where
  | acquire (r : R)
  | use (r : R)
  | release (r : R)
deriving DecidableEq, Repr

section Moves

variable {R : Type} [DecidableEq R]

-- The things that are out after a move. A thing that is not out can be neither
-- used nor given back.
def move : Move R → List R → Option (List R)
  | .acquire r, live => some (r :: live)
  | .use r, live => if r ∈ live then some live else none
  | .release r, live => if r ∈ live then some (live.erase r) else none

def acquired (moves : List (Move R)) (r : R) : Nat := moves.count (.acquire r)

def released (moves : List (Move R)) (r : R) : Nat := moves.count (.release r)

theorem move_count (one : Move R) (live after : List R) (moved : move one live = some after) (r : R) :
    after.count r + released [one] r = live.count r + acquired [one] r := by
  cases one with
  | acquire s =>
      cases moved
      by_cases same : s = r
      · simp [acquired, released, same]
      · simp [acquired, released, same]
  | use s =>
      rw [move] at moved
      split at moved
      · cases moved
        simp [acquired, released]
      · cases moved
  | release s =>
      rw [move] at moved
      split at moved
      · rename_i out
        cases moved
        by_cases same : s = r
        · subst same
          have some : 0 < live.count s := List.count_pos_iff.mpr out
          simp [acquired, released]
          omega
        · simp [acquired, released, same, List.count_erase_of_ne (Ne.symm same)]
      · cases moved

theorem acquired_append (first second : List (Move R)) (r : R) :
    acquired (first ++ second) r = acquired first r + acquired second r := List.count_append

theorem released_append (first second : List (Move R)) (r : R) :
    released (first ++ second) r = released first r + released second r := List.count_append

theorem replay_count (moves : List (Move R)) (live after : List R) (replayed : replay move moves live = some after) (r : R) :
    after.count r + released moves r = live.count r + acquired moves r := by
  induction moves generalizing live with
  | nil =>
      cases replayed
      rfl
  | cons one moves ih =>
      obtain ⟨middle, first, rest⟩ := Option.bind_eq_some_iff.mp replayed
      have head := move_count one live middle first r
      have tail := ih middle rest
      have came := acquired_append [one] moves r
      have went := released_append [one] moves r
      rw [List.singleton_append] at came went
      omega

theorem replay_used (before rest : List (Move R)) (r : R) (live after : List R)
    (replayed : replay move (before ++ .use r :: rest) live = some after) :
    released before r < live.count r + acquired before r := by
  rw [replay_append] at replayed
  obtain ⟨middle, first, tail⟩ := Option.bind_eq_some_iff.mp replayed
  obtain ⟨_, used, _⟩ := Option.bind_eq_some_iff.mp tail
  have count := replay_count before live middle first r
  rw [move] at used
  split at used
  · rename_i out
    have some : 0 < middle.count r := List.count_pos_iff.mpr out
    omega
  · cases used

-- Moves that leave out what was out before them, whatever else that is.
def Balanced (held : List R) (moves : List (Move R)) : Prop := ∀ live, held ⊆ live → replay move moves live = some live

theorem balanced_nil (held : List R) : Balanced held [] := fun _ _ => rfl

theorem balanced_append (held : List R) (first second : List (Move R)) (left : Balanced held first)
    (right : Balanced held second) : Balanced held (first ++ second) := by
  intro live has
  rw [replay_append, left live has, Option.bind_some]
  exact right live has

theorem balanced_use (held : List R) (r : R) (has : r ∈ held) : Balanced held [.use r] := by
  intro live within
  simp [replay, move, within has]

theorem balanced_scope (held : List R) (r : R) (moves : List (Move R)) (inner : Balanced (r :: held) moves) :
    Balanced held (.acquire r :: moves ++ [.release r]) := by
  intro live has
  have opened : replay move (.acquire r :: moves) live = some (r :: live) :=
    inner (r :: live) (List.cons_subset_cons r has)
  rw [replay_append, opened, Option.bind_some]
  simp [replay, move]

end Moves

section Programs

variable {W X A B R : Type} [DecidableEq R] {adds : W → List (Move R) → W → Prop}

structure Journal (adds : W → List (Move R) → W → Prop) : Prop where
  nil : ∀ world, adds world [] world
  append : ∀ world middle after first second, adds world first middle → adds middle second after →
    adds world (first ++ second) after

def Restores (adds : W → List (Move R) → W → Prop) (held : List R) (before after : W) : Prop :=
  ∃ moves, adds before moves after ∧ Balanced held moves

variable (journal : Journal adds)

include journal

theorem restores_refl (held : List R) (world : W) : Restores adds held world world := ⟨[], journal.nil world, balanced_nil held⟩

theorem restores_trans (held : List R) (world middle after : W) (left : Restores adds held world middle)
    (right : Restores adds held middle after) : Restores adds held world after := by
  obtain ⟨first, before, leftBalanced⟩ := left
  obtain ⟨second, behind, rightBalanced⟩ := right
  exact ⟨first ++ second, journal.append world middle after first second before behind,
    balanced_append held first second leftBalanced rightBalanced⟩

-- A thing that a constructor acquires and a destructor gives back stays out in
-- between, also when the scope is left by an exception.
theorem scope_restores (held : List R) (make : Prog W X A) (thing : A → R) (body : A → Prog W X B) (free : A → Prog W X Unit)
    (makes : ∀ world after value, make world = .ok value after → adds world [.acquire (thing value)] after)
    (fails : ∀ world after error, make world = .threw error after → Restores adds held world after)
    (bodyRestores : ∀ value, Prog.Within (Restores adds (thing value :: held)) (body value))
    (frees : ∀ value world, ∃ after, free value world = .ok () after ∧ adds world [.release (thing value)] after) :
    Prog.Within (Restores adds held) (make >>= fun value => Prog.withDestructor (body value) (free value)) := by
  have closed : ∀ world opened ended after value, adds world [.acquire (thing value)] opened →
      Restores adds (thing value :: held) opened ended → adds ended [.release (thing value)] after →
      Restores adds held world after := by
    rintro world opened ended after value came ⟨moves, between, balanced⟩ went
    have whole := journal.append world ended after _ _ (journal.append world opened ended _ _ came between) went
    exact ⟨_, whole, balanced_scope held (thing value) moves balanced⟩
  intro world
  rw [Prog.bind_apply]
  cases made : make world with
  | fault cause => trivial
  | threw error after => exact fails world after error made
  | ok value opened =>
      have came := makes world opened value made
      have kept := bodyRestores value opened
      dsimp only
      rw [Prog.withDestructor]
      cases run : body value opened with
      | fault cause => trivial
      | ok result ended =>
          rw [run] at kept
          obtain ⟨after, freed, went⟩ := frees value ended
          dsimp only
          rw [Prog.bind_ok _ _ _ _ _ freed]
          exact closed world opened ended after value came kept went
      | threw error ended =>
          rw [run] at kept
          obtain ⟨after, freed, went⟩ := frees value ended
          dsimp only
          rw [Prog.bind_ok _ _ _ _ _ freed]
          exact closed world opened ended after value came kept went

end Programs

end Ownership
