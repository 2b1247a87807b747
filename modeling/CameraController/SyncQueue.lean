import CameraController.Lib.Linearization
import CameraController.Lib.Mutex

set_option autoImplicit false

namespace CameraController

open Transition Mutex Linearization

inductive QueueCall (A : Type) where
  | put (data : A)
  | get
deriving DecidableEq, Repr

inductive QueueOperation (A : Type) where
  | put (data : A)
  | get (result : A)
deriving DecidableEq, Repr

def QueueOperation.call {A : Type} : QueueOperation A → QueueCall A
  | .put data => .put data
  | .get _ => .get

-- Where a thread is. The wait of get() lets go of the lock and blocks in one
-- step; a thread that was notified, or wakes for no reason, needs the lock again
-- before it looks at the queue.
inductive QueuePc (A : Type) where
  | outside
  | locking (data : A)
  | pushing (data : A)
  | notifying (data : A)
  | entering
  | testing
  | asleep
  | woken
  | reading
  | popping (result : A)
  | leaving (operation : QueueOperation A)
deriving DecidableEq, Repr

-- history records the operations in the order in which they took effect; no
-- function reads it.
structure SynchronizedQueue (T A : Type) where
  queue : List A
  mutex : Option T
  pc : T → QueuePc A
  history : List (T × QueueOperation A)

namespace SynchronizedQueue

variable {T A : Type}

def initial : SynchronizedQueue T A where
  queue := []
  mutex := none
  pc := fun _ => .outside
  history := []

inductive Act (T A : Type) where
  | call (thread : T) (call : QueueCall A)
  | step (thread : T)
  | notify (thread : T) (woken : Option T)
  | wake (thread : T)
  | ret (thread : T) (operation : QueueOperation A)
deriving DecidableEq, Repr

variable [DecidableEq T]

def setPc (s : SynchronizedQueue T A) (thread : T) (pc : QueuePc A) : SynchronizedQueue T A :=
  { s with pc := Function.update s.pc thread pc }

-- Any thread may make any call. notify_one() wakes one of the threads that are
-- asleep, if there is one.
inductive Step : SynchronizedQueue T A → Act T A → SynchronizedQueue T A → Prop where
  | put (s : SynchronizedQueue T A) (thread : T) (data : A) (free : s.pc thread = .outside) :
      Step s (.call thread (.put data)) (s.setPc thread (.locking data))
  | lock (s : SynchronizedQueue T A) (thread : T) (data : A) (waits : s.pc thread = .locking data) (free : s.mutex = none) :
      Step s (.step thread) { s.setPc thread (.pushing data) with mutex := some thread }
  | push (s : SynchronizedQueue T A) (thread : T) (data : A) (inside : s.pc thread = .pushing data) :
      Step s (.step thread)
        { s.setPc thread (.notifying data) with
          queue := s.queue ++ [data]
          history := s.history ++ [(thread, .put data)] }
  | notifyOne (s : SynchronizedQueue T A) (thread sleeper : T) (data : A) (inside : s.pc thread = .notifying data)
      (sleeps : s.pc sleeper = .asleep) :
      Step s (.notify thread (some sleeper)) ((s.setPc sleeper .woken).setPc thread (.leaving (.put data)))
  | notifyNone (s : SynchronizedQueue T A) (thread : T) (data : A) (inside : s.pc thread = .notifying data)
      (nobody : ∀ other, s.pc other ≠ .asleep) : Step s (.notify thread none) (s.setPc thread (.leaving (.put data)))
  | get (s : SynchronizedQueue T A) (thread : T) (free : s.pc thread = .outside) :
      Step s (.call thread .get) (s.setPc thread .entering)
  | enter (s : SynchronizedQueue T A) (thread : T) (waits : s.pc thread = .entering ∨ s.pc thread = .woken)
      (free : s.mutex = none) : Step s (.step thread) { s.setPc thread .testing with mutex := some thread }
  | wait (s : SynchronizedQueue T A) (thread : T) (inside : s.pc thread = .testing) (empty : s.queue = []) :
      Step s (.step thread) { s.setPc thread .asleep with mutex := none }
  | wake (s : SynchronizedQueue T A) (thread : T) (sleeps : s.pc thread = .asleep) :
      Step s (.wake thread) (s.setPc thread .woken)
  | pass (s : SynchronizedQueue T A) (thread : T) (inside : s.pc thread = .testing) (some : s.queue ≠ []) :
      Step s (.step thread) (s.setPc thread .reading)
  | front (s : SynchronizedQueue T A) (thread : T) (result : A) (rest : List A) (inside : s.pc thread = .reading)
      (head : s.queue = result :: rest) : Step s (.step thread) (s.setPc thread (.popping result))
  | popFront (s : SynchronizedQueue T A) (thread : T) (result first : A) (rest : List A) (inside : s.pc thread = .popping result)
      (head : s.queue = first :: rest) :
      Step s (.step thread)
        { s.setPc thread (.leaving (.get result)) with
          queue := rest
          history := s.history ++ [(thread, .get result)] }
  | unlock (s : SynchronizedQueue T A) (thread : T) (operation : QueueOperation A) (leaves : s.pc thread = .leaving operation) :
      Step s (.ret thread operation) { s.setPc thread .outside with mutex := none }

def sleeping : QueuePc A → Bool
  | .asleep => true
  | _ => false

theorem sleeping_iff (pc : QueuePc A) : sleeping pc = true ↔ pc = .asleep := by
  cases pc <;> simp [sleeping]

section Following

variable [Fintype T] [DecidableEq A]

def advance (s : SynchronizedQueue T A) : Act T A → Option (SynchronizedQueue T A)
  | .call thread (.put data) =>
      match s.pc thread with
      | .outside => some (s.setPc thread (.locking data))
      | _ => none
  | .call thread .get =>
      match s.pc thread with
      | .outside => some (s.setPc thread .entering)
      | _ => none
  | .step thread =>
      match s.pc thread, s.mutex, s.queue with
      | .locking data, none, _ => some { s.setPc thread (.pushing data) with mutex := some thread }
      | .pushing data, _, _ =>
          some { s.setPc thread (.notifying data) with
            queue := s.queue ++ [data]
            history := s.history ++ [(thread, .put data)] }
      | .entering, none, _ => some { s.setPc thread .testing with mutex := some thread }
      | .woken, none, _ => some { s.setPc thread .testing with mutex := some thread }
      | .testing, _, [] => some { s.setPc thread .asleep with mutex := none }
      | .testing, _, _ :: _ => some (s.setPc thread .reading)
      | .reading, _, result :: _ => some (s.setPc thread (.popping result))
      | .popping result, _, _ :: rest =>
          some { s.setPc thread (.leaving (.get result)) with
            queue := rest
            history := s.history ++ [(thread, .get result)] }
      | _, _, _ => none
  | .notify thread (some sleeper) =>
      match s.pc thread, s.pc sleeper with
      | .notifying data, .asleep => some ((s.setPc sleeper .woken).setPc thread (.leaving (.put data)))
      | _, _ => none
  | .notify thread none =>
      match s.pc thread with
      | .notifying data => if ∃ other, sleeping (s.pc other) = true then none else some (s.setPc thread (.leaving (.put data)))
      | _ => none
  | .wake thread =>
      match s.pc thread with
      | .asleep => some (s.setPc thread .woken)
      | _ => none
  | .ret thread operation =>
      match s.pc thread with
      | .leaving held => if operation = held then some { s.setPc thread .outside with mutex := none } else none
      | _ => none

theorem advance_step (s next : SynchronizedQueue T A) (act : Act T A) (run : s.advance act = some next) : Step s act next := by
  cases act with
  | call thread call =>
      cases call with
      | put data =>
          rw [advance] at run
          split at run
          · rename_i free
            cases run
            exact .put s thread data free
          · cases run
      | get =>
          rw [advance] at run
          split at run
          · rename_i free
            cases run
            exact .get s thread free
          · cases run
  | step thread =>
      rw [advance] at run
      split at run
      · rename_i data waits free
        cases run
        exact .lock s thread data waits free
      · rename_i data inside
        cases run
        exact .push s thread data inside
      · rename_i waits free
        cases run
        exact .enter s thread (.inl waits) free
      · rename_i waits free
        cases run
        exact .enter s thread (.inr waits) free
      · rename_i inside empty
        cases run
        exact .wait s thread inside empty
      · rename_i inside holds
        cases run
        exact .pass s thread inside (by rw [holds]; exact List.cons_ne_nil _ _)
      · rename_i result rest inside head
        cases run
        exact .front s thread result rest inside head
      · rename_i result first rest inside head
        cases run
        exact .popFront s thread result first rest inside head
      · cases run
  | notify thread woken =>
      cases woken with
      | some sleeper =>
          rw [advance] at run
          split at run
          · rename_i data inside sleeps
            cases run
            exact .notifyOne s thread sleeper data inside sleeps
          · cases run
      | none =>
          rw [advance] at run
          split at run
          · rename_i data inside
            split at run
            · cases run
            · rename_i nobody
              cases run
              exact .notifyNone s thread data inside (fun other sleeps => nobody ⟨other, (sleeping_iff _).mpr sleeps⟩)
          · cases run
  | wake thread =>
      rw [advance] at run
      split at run
      · rename_i sleeps
        cases run
        exact .wake s thread sleeps
      · cases run
  | ret thread operation =>
      rw [advance] at run
      split at run
      · rename_i held leaves
        split at run
        · rename_i same
          subst same
          cases run
          exact .unlock s thread operation leaves
        · cases run
      · cases run

end Following

end SynchronizedQueue

end CameraController
