import Mathlib.Data.Finset.Insert
import CameraController.SyncQueue

set_option autoImplicit false

namespace CameraController

open Transition

-- Who uses the queue of an EventHandler: the thread of its run(), the thread that
-- calls stop(), and whoever calls postEvent().
inductive Poster (T : Type) where
  | runner
  | stopper
  | other (thread : T)
deriving DecidableEq, Repr

instance {T : Type} [Fintype T] [DecidableEq T] : Fintype (Poster T) where
  elems := insert .runner (insert .stopper (Finset.univ.image .other))
  complete := by
    intro thread
    cases thread <;> simp

namespace EventHandler

-- Where run() is: at its check of shouldStop(), before and in eventList.get(), in
-- handleEvent(ev), or at its end.
inductive RunPc (A : Type) where
  | checking
  | fetching
  | getting
  | handling (ev : A)
  | finished
deriving DecidableEq, Repr

-- stop() sets should_stop, puts an EV_EMPTY, waits in join() and sets stopped.
inductive StopPc where
  | outside
  | flagged
  | putting
  | joining
  | returned
deriving DecidableEq, Repr

end EventHandler

-- started is true: start() has launched the thread. handled lists the events that
-- handleEvent was called with, and earlier counts those before the flag was set;
-- no function reads the two.
structure EventHandler (T A : Type) where
  eventList : SynchronizedQueue (Poster T) A
  shouldStop : Bool
  stopped : Bool
  run : EventHandler.RunPc A
  stop : EventHandler.StopPc
  handled : List A
  earlier : Nat

namespace EventHandler

variable {T A : Type}

def launched : EventHandler T A where
  eventList := .initial
  shouldStop := false
  stopped := false
  run := .checking
  stop := .outside
  handled := []
  earlier := 0

inductive Act (T A : Type) where
  | queue (act : SynchronizedQueue.Act (Poster T) A)
  | check
  | returns
  | setShouldStop
  | join
deriving DecidableEq, Repr

-- The others only post; the calls of run() and stop() are steps of their own.
def inner : SynchronizedQueue.Act (Poster T) A → Bool
  | .call (.other _) (.put _) => true
  | .call _ _ => false
  | .ret (.other _) _ => true
  | .ret _ _ => false
  | _ => true

variable [DecidableEq T] (evEmpty : A)

-- handleEvent may post to its own queue any number of times before it returns.
-- should_stop is read and written at once.
inductive Step : EventHandler T A → Act T A → EventHandler T A → Prop where
  | queue (s : EventHandler T A) (act : SynchronizedQueue.Act (Poster T) A) (next : SynchronizedQueue (Poster T) A)
      (free : inner act = true) (step : SynchronizedQueue.Step s.eventList act next) :
      Step s (.queue act) { s with eventList := next }
  | check (s : EventHandler T A) (loop : s.run = .checking) :
      Step s .check { s with run := if s.shouldStop then .finished else .fetching }
  | fetch (s : EventHandler T A) (next : SynchronizedQueue (Poster T) A) (ready : s.run = .fetching)
      (step : SynchronizedQueue.Step s.eventList (.call .runner .get) next) :
      Step s (.queue (.call .runner .get)) { s with eventList := next, run := .getting }
  | fetched (s : EventHandler T A) (ev : A) (next : SynchronizedQueue (Poster T) A) (waits : s.run = .getting)
      (step : SynchronizedQueue.Step s.eventList (.ret .runner (.get ev)) next) :
      Step s (.queue (.ret .runner (.get ev))) { s with eventList := next, run := .handling ev, handled := s.handled ++ [ev] }
  | post (s : EventHandler T A) (ev own : A) (next : SynchronizedQueue (Poster T) A) (handles : s.run = .handling ev)
      (step : SynchronizedQueue.Step s.eventList (.call .runner (.put own)) next) :
      Step s (.queue (.call .runner (.put own))) { s with eventList := next }
  | posted (s : EventHandler T A) (ev own : A) (next : SynchronizedQueue (Poster T) A) (handles : s.run = .handling ev)
      (step : SynchronizedQueue.Step s.eventList (.ret .runner (.put own)) next) :
      Step s (.queue (.ret .runner (.put own))) { s with eventList := next }
  | returns (s : EventHandler T A) (ev : A) (handles : s.run = .handling ev) (done : s.eventList.pc .runner = .outside) :
      Step s .returns { s with run := .checking }
  | setShouldStop (s : EventHandler T A) (fresh : s.stop = .outside) :
      Step s .setShouldStop { s with shouldStop := true, stop := .flagged, earlier := s.handled.length }
  | putEmpty (s : EventHandler T A) (next : SynchronizedQueue (Poster T) A) (flag : s.stop = .flagged)
      (step : SynchronizedQueue.Step s.eventList (.call .stopper (.put evEmpty)) next) :
      Step s (.queue (.call .stopper (.put evEmpty))) { s with eventList := next, stop := .putting }
  | emptyPut (s : EventHandler T A) (next : SynchronizedQueue (Poster T) A) (putting : s.stop = .putting)
      (step : SynchronizedQueue.Step s.eventList (.ret .stopper (.put evEmpty)) next) :
      Step s (.queue (.ret .stopper (.put evEmpty))) { s with eventList := next, stop := .joining }
  | join (s : EventHandler T A) (joining : s.stop = .joining) (ended : s.run = .finished) :
      Step s .join { s with stop := .returned, stopped := true }

section Following

variable [Fintype T] [DecidableEq A]

-- What run() and stop() make of a call on the queue that begins or returns.
def follows (s : EventHandler T A) (next : SynchronizedQueue (Poster T) A) :
    SynchronizedQueue.Act (Poster T) A → Option (EventHandler T A)
  | .call .runner .get =>
      match s.run with
      | .fetching => some { s with eventList := next, run := .getting }
      | _ => none
  | .call .runner (.put _) =>
      match s.run with
      | .handling _ => some { s with eventList := next }
      | _ => none
  | .ret .runner (.get ev) =>
      match s.run with
      | .getting => some { s with eventList := next, run := .handling ev, handled := s.handled ++ [ev] }
      | _ => none
  | .ret .runner (.put _) =>
      match s.run with
      | .handling _ => some { s with eventList := next }
      | _ => none
  | .call .stopper (.put data) =>
      if s.stop = .flagged ∧ data = evEmpty then some { s with eventList := next, stop := .putting } else none
  | .ret .stopper (.put data) =>
      if s.stop = .putting ∧ data = evEmpty then some { s with eventList := next, stop := .joining } else none
  | act => if inner act then some { s with eventList := next } else none

def advance (s : EventHandler T A) : Act T A → Option (EventHandler T A)
  | .queue act => (s.eventList.advance act).bind (fun next => s.follows evEmpty next act)
  | .check =>
      match s.run with
      | .checking => some { s with run := if s.shouldStop then .finished else .fetching }
      | _ => none
  | .returns =>
      match s.run, s.eventList.pc .runner with
      | .handling _, .outside => some { s with run := .checking }
      | _, _ => none
  | .setShouldStop =>
      match s.stop with
      | .outside => some { s with shouldStop := true, stop := .flagged, earlier := s.handled.length }
      | _ => none
  | .join =>
      match s.stop, s.run with
      | .joining, .finished => some { s with stop := .returned, stopped := true }
      | _, _ => none

omit [Fintype T] in
theorem follows_step (s next : EventHandler T A) (eventList : SynchronizedQueue (Poster T) A)
    (act : SynchronizedQueue.Act (Poster T) A) (step : SynchronizedQueue.Step s.eventList act eventList)
    (run : s.follows evEmpty eventList act = some next) : Step evEmpty s (.queue act) next := by
  unfold follows at run
  split at run
  · split at run
    · rename_i ready
      cases run
      exact .fetch s eventList ready step
    · cases run
  · split at run
    · rename_i ev handles
      cases run
      exact .post s ev _ eventList handles step
    · cases run
  · split at run
    · rename_i waits
      cases run
      exact .fetched s _ eventList waits step
    · cases run
  · split at run
    · rename_i ev handles
      cases run
      exact .posted s ev _ eventList handles step
    · cases run
  · split at run
    · rename_i flag
      cases run
      obtain ⟨flag, rfl⟩ := flag
      exact .putEmpty s eventList flag step
    · cases run
  · split at run
    · rename_i putting
      cases run
      obtain ⟨putting, rfl⟩ := putting
      exact .emptyPut s eventList putting step
    · cases run
  · split at run
    · rename_i free
      cases run
      exact .queue s act eventList free step
    · cases run

theorem advance_step (s next : EventHandler T A) (act : Act T A) (run : s.advance evEmpty act = some next) :
    Step evEmpty s act next := by
  cases act with
  | queue act =>
      obtain ⟨eventList, first, rest⟩ := Option.bind_eq_some_iff.mp run
      exact follows_step evEmpty s next eventList act (s.eventList.advance_step eventList act first) rest
  | check =>
      rw [advance] at run
      split at run
      · rename_i loop
        cases run
        exact .check s loop
      · cases run
  | returns =>
      rw [advance] at run
      split at run
      · rename_i ev handles done
        cases run
        exact .returns s ev handles done
      · cases run
  | setShouldStop =>
      rw [advance] at run
      split at run
      · rename_i fresh
        cases run
        exact .setShouldStop s fresh
      · cases run
  | join =>
      rw [advance] at run
      split at run
      · rename_i joining ended
        cases run
        exact .join s joining ended
      · cases run

end Following

end EventHandler

end CameraController
