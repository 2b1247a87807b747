import CameraController.Lib.Transition

set_option autoImplicit false

namespace Linearization

open Transition

section Replay

variable {O A : Type} (perform : O → A → Option A)

-- The object after these operations, each of which carries its result. There is
-- no object when an operation cannot have that result.
def replay : List O → A → Option A
  | [], a => some a
  | o :: history, a => (perform o a).bind (replay history)

theorem replay_append (first second : List O) (a : A) :
    replay perform (first ++ second) a = (replay perform first a).bind (replay perform second) := by
  induction first generalizing a with
  | nil => rfl
  | cons o first ih =>
      rw [List.cons_append, replay, replay]
      cases perform o a with
      | none => rfl
      | some b => exact ih b

theorem replay_next (history : List O) (o : O) (start a b : A) (before : replay perform history start = some a)
    (one : perform o a = some b) : replay perform (history ++ [o]) start = some b := by
  rw [replay_append, before, Option.bind_some, replay, one]
  rfl

end Replay

variable {S L T C O A : Type} [DecidableEq T]

def byThread (thread : T) (history : List (T × O)) : List O :=
  history.filterMap (fun point => if point.1 = thread then some point.2 else none)

theorem by_thread_append (thread : T) (first second : List (T × O)) :
    byThread thread (first ++ second) = byThread thread first ++ byThread thread second :=
  List.filterMap_append

theorem by_thread_other (thread other : T) (different : other ≠ thread) (o : O) : byThread thread [(other, o)] = [] := by
  simp [byThread, different]

-- What can be seen of a step from outside: a thread calls, or its call returns.
structure Interface (L T C O : Type) where
  begins : L → Option (T × C)
  ends : L → Option (T × O)
  callOf : O → C

namespace Interface

variable (interface : Interface L T C O)

def called (thread : T) (labels : List L) : List C := byThread thread (labels.filterMap interface.begins)

def returned (thread : T) (labels : List L) : List O := byThread thread (labels.filterMap interface.ends)

theorem called_append (thread : T) (first second : List L) :
    interface.called thread (first ++ second) = interface.called thread first ++ interface.called thread second := by
  rw [called, List.filterMap_append, by_thread_append]
  rfl

theorem returned_append (thread : T) (first second : List L) :
    interface.returned thread (first ++ second) = interface.returned thread first ++ interface.returned thread second := by
  rw [returned, List.filterMap_append, by_thread_append]
  rfl

-- A sequential history that explains what has been seen. It has each operation
-- that has returned, in the order of its thread, and at most one more of each
-- thread, whose call has begun.
structure Explains (perform : O → A → Option A) (start : A) (labels : List L) (history : List (T × O)) : Prop where
  legal : (replay perform (history.map Prod.snd) start).isSome = true
  complete : ∀ thread, ∃ pending : Option O, byThread thread history = interface.returned thread labels ++ pending.toList
  asked : ∀ thread, (byThread thread history).map interface.callOf <+: interface.called thread labels

-- Along every run an explanation grows at its end: an operation that has returned
-- stands before all that are called later.
def Linearizable (step : S → L → S → Prop) (initial : S) (perform : O → A → Option A) (start : A) : Prop :=
  ∀ labels last, Run step initial labels last → ∃ history : Nat → List (T × O),
    (∀ n ≤ labels.length, interface.Explains perform start (labels.take n) (history n)) ∧ ∀ n, history n <+: history (n + 1)

omit [DecidableEq T] in
theorem histories (step : S → L → S → Prop) (points : S → List (T × O))
    (grows : ∀ s label t, step s label t → points s <+: points t) (s last : S) (labels : List L)
    (run : Run step s labels last) : ∃ history : Nat → List (T × O), history 0 = points s ∧
      (∀ n ≤ labels.length, ∃ reached, Run step s (labels.take n) reached ∧ history n = points reached) ∧
      ∀ n, history n <+: history (n + 1) := by
  induction run with
  | done s =>
      refine ⟨fun _ => points s, rfl, ?_, fun _ => List.prefix_rfl⟩
      intro n _
      rw [List.take_nil]
      exact ⟨s, .done s, rfl⟩
  | next s m last label labels first rest ih =>
      obtain ⟨history, starts, passes, longer⟩ := ih
      refine ⟨fun n => n.casesOn (points s) history, rfl, ?_, ?_⟩
      · intro n less
        cases n with
        | zero => exact ⟨s, .done s, rfl⟩
        | succ n =>
            obtain ⟨reached, run, same⟩ := passes n (Nat.le_of_succ_le_succ less)
            exact ⟨reached, .next s m reached label _ first run, same⟩
      · intro n
        cases n with
        | zero =>
            change points s <+: history 0
            rw [starts]
            exact grows s label m first
        | succ n => exact longer n

-- It is enough that the system notes its operations as it goes, each while its
-- call is under way.
theorem linearizable_points (step : S → L → S → Prop) (initial : S) (perform : O → A → Option A) (start : A)
    (points : S → List (T × O)) (grows : ∀ s label t, step s label t → points s <+: points t)
    (explains : ∀ labels s, Run step initial labels s → interface.Explains perform start labels (points s)) :
    interface.Linearizable step initial perform start := by
  intro labels last run
  obtain ⟨history, _, passes, longer⟩ := histories step points grows initial last labels run
  refine ⟨history, ?_, longer⟩
  intro n less
  obtain ⟨reached, front, same⟩ := passes n less
  exact same ▸ explains (labels.take n) reached front

end Interface

end Linearization
