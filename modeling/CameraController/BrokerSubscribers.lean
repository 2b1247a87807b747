import Mathlib.Logic.Function.Basic
import CameraController.Lib.Transition

set_option autoImplicit false

namespace CameraController

open Transition

inductive Change (H : Type) where
  | subscribe (subscriber : H) (topic : UInt8)
  | unsubscribe (subscriber : H) (topic : UInt8)
  | unsubscribeAll (subscriber : H)
deriving DecidableEq, Repr

inductive BrokerCall (H E : Type) where
  | change (change : Change H)
  | post (ev : E) (topic : UInt8)
deriving DecidableEq, Repr

-- Where a thread is: a call waits for the lock, has it, and leaves with it. next
-- is the iterator of the loop of post().
inductive CallPc (H E : Type) where
  | outside
  | waiting (call : BrokerCall H E)
  | inside (change : Change H)
  | posting (post : Nat) (ev : E) (topic : UInt8) (next : Nat)
  | leaving
deriving DecidableEq, Repr

structure Publication (H E : Type) where
  id : Nat
  ev : E
  topic : UInt8
  audience : List H
deriving DecidableEq, Repr

-- One call of postEvent(ev).
structure Receipt (H E : Type) where
  handler : H
  post : Nat
  ev : E
deriving DecidableEq, Repr

namespace Subscribers

section Table

variable {H : Type} [DecidableEq H]

-- The loop of deleteSubscriber, with the vector split at the iterator.
def eraseFrom (subscriber : H) (passed : List H) : List H → List H
  | [] => passed
  | it :: rest => if it = subscriber then eraseFrom subscriber passed rest else eraseFrom subscriber (passed ++ [it]) rest

def deleteSubscriber (subs : List H) (subscriber : H) : List H := eraseFrom subscriber [] subs

-- What a call does to the map subscribers. subscribers.at(topic) throws when the
-- topic has no entry.
def applyChange (subscribers : UInt8 → Option (List H)) : Change H → UInt8 → Option (List H)
  | .subscribe subscriber topic => Function.update subscribers topic (some ((subscribers topic).getD [] ++ [subscriber]))
  | .unsubscribe subscriber topic =>
      match subscribers topic with
      | some subs => Function.update subscribers topic (some (deleteSubscriber subs subscriber))
      | none => subscribers
  | .unsubscribeAll subscriber => fun topic => (subscribers topic).map (fun subs => deleteSubscriber subs subscriber)

-- The subscribe calls that no later unsubscribe has undone, in their order.
def outstandingAfter (subscriptions : List (H × UInt8)) : Change H → List (H × UInt8)
  | .subscribe subscriber topic => subscriptions ++ [(subscriber, topic)]
  | .unsubscribe subscriber topic => subscriptions.filter (fun subscription => subscription ≠ (subscriber, topic))
  | .unsubscribeAll subscriber => subscriptions.filter (fun subscription => subscription.1 ≠ subscriber)

def outstanding (changes : List (Change H)) : List (H × UInt8) := changes.foldl outstandingAfter []

def subscribedTo (subscriptions : List (H × UInt8)) (topic : UInt8) : List H :=
  (subscriptions.filter (fun subscription => subscription.2 = topic)).map Prod.fst

def audience (changes : List (Change H)) (topic : UInt8) : List H := subscribedTo (outstanding changes) topic

theorem erase_from_filter (subscriber : H) (passed rest : List H) :
    eraseFrom subscriber passed rest = passed ++ rest.filter (fun it => it ≠ subscriber) := by
  induction rest generalizing passed with
  | nil => rw [eraseFrom, List.filter_nil, List.append_nil]
  | cons it rest ih =>
      by_cases same : it = subscriber
      · rw [eraseFrom, if_pos same, ih, List.filter_cons_of_neg (by simpa using same)]
      · rw [eraseFrom, if_neg same, ih, List.filter_cons_of_pos (by simpa using same), List.append_assoc]
        rfl

theorem delete_subscriber_filter (subs : List H) (subscriber : H) :
    deleteSubscriber subs subscriber = subs.filter (fun it => it ≠ subscriber) :=
  erase_from_filter subscriber [] subs

theorem subscribed_to_filter (subscriptions : List (H × UInt8)) (topic : UInt8) (subscriber : H) :
    (subscribedTo subscriptions topic).filter (fun it => it ≠ subscriber) =
      subscribedTo (subscriptions.filter (fun subscription => subscription.1 ≠ subscriber)) topic := by
  simp only [subscribedTo, List.filter_map, List.filter_filter, Function.comp_def]
  congr 1
  apply List.filter_congr
  intro subscription _
  rw [Bool.and_comm]

theorem unsubscribed_here (subscriptions : List (H × UInt8)) (topic : UInt8) (subscriber : H) :
    subscribedTo (subscriptions.filter (fun subscription => subscription ≠ (subscriber, topic))) topic =
      (subscribedTo subscriptions topic).filter (fun it => it ≠ subscriber) := by
  rw [subscribed_to_filter, subscribedTo, subscribedTo, List.filter_filter, List.filter_filter]
  congr 1
  apply List.filter_congr
  rintro ⟨handler, other⟩ _
  by_cases same : other = topic <;> simp [same]

theorem unsubscribed_elsewhere (subscriptions : List (H × UInt8)) (topic other : UInt8) (different : other ≠ topic) (subscriber : H) :
    subscribedTo (subscriptions.filter (fun subscription => subscription ≠ (subscriber, topic))) other =
      subscribedTo subscriptions other := by
  rw [subscribedTo, subscribedTo, List.filter_filter]
  congr 1
  apply List.filter_congr
  rintro ⟨handler, place⟩ _
  by_cases same : place = other
  · simp [same, different]
  · simp [same]

def Tabled (subscribers : UInt8 → Option (List H)) (subscriptions : List (H × UInt8)) : Prop :=
  ∀ topic, (subscribers topic).getD [] = subscribedTo subscriptions topic

theorem change_tabled (subscribers : UInt8 → Option (List H)) (subscriptions : List (H × UInt8)) (change : Change H)
    (tabled : Tabled subscribers subscriptions) :
    Tabled (applyChange subscribers change) (outstandingAfter subscriptions change) := by
  intro topic
  have here := tabled topic
  cases change with
  | subscribe subscriber target =>
      by_cases same : topic = target
      · subst same
        simp [applyChange, outstandingAfter, here, subscribedTo]
      · simp [applyChange, outstandingAfter, Function.update_of_ne same, here, subscribedTo, Ne.symm same]
  | unsubscribe subscriber target =>
      by_cases same : topic = target
      · subst same
        rw [outstandingAfter, unsubscribed_here, ← here, applyChange]
        cases entry : subscribers topic with
        | none => simp [entry]
        | some subs => simp [delete_subscriber_filter]
      · rw [outstandingAfter, unsubscribed_elsewhere _ _ _ same, ← here, applyChange]
        cases subscribers target with
        | none => rfl
        | some subs => simp [Function.update_of_ne same]
  | unsubscribeAll subscriber =>
      rw [outstandingAfter, ← subscribed_to_filter, ← here, applyChange]
      cases entry : subscribers topic with
      | none => simp [entry]
      | some subs => simp [entry, delete_subscriber_filter]

def undoes : Change H → H → UInt8 → Bool
  | .subscribe _ _, _, _ => false
  | .unsubscribe subscriber topic, handler, other => handler = subscriber ∧ other = topic
  | .unsubscribeAll subscriber, handler, _ => handler = subscriber

omit [DecidableEq H] in
theorem mem_subscribed (subscriptions : List (H × UInt8)) (handler : H) (topic : UInt8) :
    handler ∈ subscribedTo subscriptions topic ↔ (handler, topic) ∈ subscriptions := by
  simp [subscribedTo]

theorem undone_absent (subscriptions : List (H × UInt8)) (change : Change H) (handler : H) (topic : UInt8)
    (gone : undoes change handler topic) : (handler, topic) ∉ outstandingAfter subscriptions change := by
  cases change with
  | subscribe subscriber target => cases gone
  | unsubscribe subscriber target =>
      obtain ⟨rfl, rfl⟩ := of_decide_eq_true gone
      simp [outstandingAfter]
  | unsubscribeAll subscriber =>
      obtain rfl := of_decide_eq_true gone
      simp [outstandingAfter]

theorem absent_until (subscriptions : List (H × UInt8)) (changes : List (Change H)) (handler : H) (topic : UInt8)
    (absent : (handler, topic) ∉ subscriptions) (never : .subscribe handler topic ∉ changes) :
    (handler, topic) ∉ changes.foldl outstandingAfter subscriptions := by
  induction changes generalizing subscriptions with
  | nil => exact absent
  | cons change changes ih =>
      rw [List.mem_cons, not_or] at never
      refine ih (outstandingAfter subscriptions change) ?_ never.2
      cases change with
      | subscribe subscriber target =>
          intro mem
          cases List.mem_append.mp mem with
          | inl before => exact absent before
          | inr added =>
              obtain ⟨rfl, rfl⟩ := Prod.mk.inj (List.mem_singleton.mp added)
              exact never.1 rfl
      | unsubscribe subscriber target => exact fun mem => absent (List.mem_filter.mp mem).1
      | unsubscribeAll subscriber => exact fun mem => absent (List.mem_filter.mp mem).1

theorem undone_until (before since : List (Change H)) (change : Change H) (handler : H) (topic : UInt8)
    (gone : undoes change handler topic) (never : .subscribe handler topic ∉ since) :
    handler ∉ audience (before ++ change :: since) topic := by
  rw [audience, mem_subscribed, outstanding, List.foldl_append, List.foldl_cons]
  exact absent_until _ since handler topic (undone_absent _ change handler topic gone) never

theorem undone_subscribers (subscribers : UInt8 → Option (List H)) (change : Change H)
    (takes : ∃ handler topic, undoes change handler topic) (topic : UInt8) :
    (applyChange subscribers change topic).getD [] =
      ((subscribers topic).getD []).filter (fun handler => !undoes change handler topic) := by
  cases change with
  | subscribe subscriber target =>
      obtain ⟨handler, other, gone⟩ := takes
      cases gone
  | unsubscribe subscriber target =>
      by_cases same : topic = target
      · subst same
        cases entry : subscribers topic with
        | none => simp [applyChange, entry]
        | some subs => simp [applyChange, entry, delete_subscriber_filter, undoes]
      · have untouched : applyChange subscribers (.unsubscribe subscriber target) topic = subscribers topic := by
          rw [applyChange]
          cases subscribers target with
          | none => rfl
          | some subs => exact Function.update_of_ne same _ _
        rw [untouched]
        symm
        rw [List.filter_eq_self]
        simp [undoes, same]
  | unsubscribeAll subscriber =>
      cases entry : subscribers topic with
      | none => simp [applyChange, entry]
      | some subs => simp [applyChange, entry, delete_subscriber_filter, undoes]

end Table

end Subscribers

-- The last three fields record what happened; no operation reads them.
structure Subscribers (T H E : Type) where
  subscribers : UInt8 → Option (List H)
  mutex : Option T
  pc : T → CallPc H E
  changes : List (Change H)
  posts : List (Publication H E)
  received : List (Receipt H E)

namespace Subscribers

variable {T H E : Type}

def initial : Subscribers T H E where
  subscribers := fun _ => none
  mutex := none
  pc := fun _ => .outside
  changes := []
  posts := []
  received := []

-- The vector that post() goes through. Without an entry there is no loop.
def subs (s : Subscribers T H E) (topic : UInt8) : List H := (s.subscribers topic).getD []

inductive Act (T H E : Type) where
  | call (thread : T) (call : BrokerCall H E)
  | step (thread : T)
deriving DecidableEq, Repr

variable [DecidableEq T] [DecidableEq H]

def setPc (s : Subscribers T H E) (thread : T) (pc : CallPc H E) : Subscribers T H E :=
  { s with pc := Function.update s.pc thread pc }

-- Any thread may make any call, and goes on with it whenever it is its turn. No
-- postEvent calls the broker.
inductive Step : Subscribers T H E → Act T H E → Subscribers T H E → Prop where
  | call (s : Subscribers T H E) (thread : T) (call : BrokerCall H E) (free : s.pc thread = .outside) :
      Step s (.call thread call) (s.setPc thread (.waiting call))
  | lockChange (s : Subscribers T H E) (thread : T) (change : Change H) (waits : s.pc thread = .waiting (.change change))
      (free : s.mutex = none) : Step s (.step thread) { s.setPc thread (.inside change) with mutex := some thread }
  | lockPost (s : Subscribers T H E) (thread : T) (ev : E) (topic : UInt8) (waits : s.pc thread = .waiting (.post ev topic))
      (free : s.mutex = none) :
      Step s (.step thread)
        { s.setPc thread (.posting s.posts.length ev topic 0) with
          mutex := some thread
          posts := s.posts ++ [⟨s.posts.length, ev, topic, audience s.changes topic⟩] }
  | change (s : Subscribers T H E) (thread : T) (change : Change H) (inside : s.pc thread = .inside change) :
      Step s (.step thread)
        { s.setPc thread .leaving with
          subscribers := applyChange s.subscribers change
          changes := s.changes ++ [change] }
  | deliver (s : Subscribers T H E) (thread : T) (post : Nat) (ev : E) (topic : UInt8) (next : Nat) (handler : H)
      (posting : s.pc thread = .posting post ev topic next) (more : (s.subs topic)[next]? = some handler) :
      Step s (.step thread)
        { s.setPc thread (.posting post ev topic (next + 1)) with received := s.received ++ [⟨handler, post, ev⟩] }
  | finish (s : Subscribers T H E) (thread : T) (post : Nat) (ev : E) (topic : UInt8) (next : Nat)
      (posting : s.pc thread = .posting post ev topic next) (last : (s.subs topic)[next]? = none) :
      Step s (.step thread) (s.setPc thread .leaving)
  | unlock (s : Subscribers T H E) (thread : T) (leaves : s.pc thread = .leaving) :
      Step s (.step thread) { s.setPc thread .outside with mutex := none }

def advance (s : Subscribers T H E) : Act T H E → Option (Subscribers T H E)
  | .call thread call =>
      match s.pc thread with
      | .outside => some (s.setPc thread (.waiting call))
      | _ => none
  | .step thread =>
      match s.pc thread with
      | .outside => none
      | .waiting (.change change) =>
          if s.mutex.isSome then none else some { s.setPc thread (.inside change) with mutex := some thread }
      | .waiting (.post ev topic) =>
          if s.mutex.isSome then none
          else some { s.setPc thread (.posting s.posts.length ev topic 0) with
            mutex := some thread
            posts := s.posts ++ [⟨s.posts.length, ev, topic, audience s.changes topic⟩] }
      | .inside change =>
          some { s.setPc thread .leaving with
            subscribers := applyChange s.subscribers change
            changes := s.changes ++ [change] }
      | .posting post ev topic next =>
          match (s.subs topic)[next]? with
          | some handler =>
              some { s.setPc thread (.posting post ev topic (next + 1)) with received := s.received ++ [⟨handler, post, ev⟩] }
          | none => some (s.setPc thread .leaving)
      | .leaving => some { s.setPc thread .outside with mutex := none }

theorem advance_step (s next : Subscribers T H E) (act : Act T H E) (run : s.advance act = some next) : Step s act next := by
  cases act with
  | call thread call =>
      cases here : s.pc thread with
      | outside =>
          simp only [advance, here, Option.some.injEq] at run
          exact run ▸ .call s thread call here
      | _ => simp [advance, here] at run
  | step thread =>
      cases here : s.pc thread with
      | outside => simp [advance, here] at run
      | waiting call =>
          cases free : s.mutex with
          | some other => cases call <;> simp [advance, here, free] at run
          | none =>
              cases call with
              | change change =>
                  simp only [advance, here, free, Option.isSome_none, Bool.false_eq_true, if_false, Option.some.injEq] at run
                  exact run ▸ .lockChange s thread change here free
              | post ev topic =>
                  simp only [advance, here, free, Option.isSome_none, Bool.false_eq_true, if_false, Option.some.injEq] at run
                  exact run ▸ .lockPost s thread ev topic here free
      | inside change =>
          simp only [advance, here, Option.some.injEq] at run
          exact run ▸ .change s thread change here
      | posting post ev topic n =>
          cases more : (s.subs topic)[n]? with
          | some handler =>
              simp only [advance, here, more, Option.some.injEq] at run
              exact run ▸ .deliver s thread post ev topic n handler here more
          | none =>
              simp only [advance, here, more, Option.some.injEq] at run
              exact run ▸ .finish s thread post ev topic n here more
      | leaving =>
          simp only [advance, here, Option.some.injEq] at run
          exact run ▸ .unlock s thread here

theorem step_advance (s next : Subscribers T H E) (act : Act T H E) (step : Step s act next) : s.advance act = some next := by
  cases step with
  | call thread call free => simp [advance, free]
  | lockChange thread change waits free => simp [advance, waits, free]
  | lockPost thread ev topic waits free => simp [advance, waits, free]
  | change thread change inside => simp [advance, inside]
  | deliver thread post ev topic n handler posting more => simp [advance, posting, more]
  | finish thread post ev topic n posting last => simp [advance, posting, last]
  | unlock thread leaves => simp [advance, leaves]

end Subscribers

end CameraController
