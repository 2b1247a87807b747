import CameraController.Lib.Transition

set_option autoImplicit false

namespace CameraController

open Transition

-- call numbers the postDelayed calls. It is not in the source: it names the
-- event that one call scheduled, whatever sched_id it was given.
structure DelayedEvent (A : Type) where
  schedId : UInt16
  event : A
  topic : UInt8
  deadline : Int
  call : Nat
deriving DecidableEq, Repr

-- The arguments of one post(dev.event, dev.topic), and the dev it was made for.
structure Posting (A : Type) where
  event : A
  topic : UInt8
  origin : DelayedEvent A
deriving DecidableEq, Repr

-- dev is the local variable of run() between the pop and the post. The last
-- four fields record what happened; no operation reads them.
structure EventBroker (A : Type) where
  delayedEvents : List (DelayedEvent A)
  eventCounter : UInt16
  dev : Option (DelayedEvent A)
  calls : Nat
  scheduled : List (DelayedEvent A)
  removed : List (DelayedEvent A)
  posted : List (Posting A)
deriving DecidableEq, Repr

namespace EventBroker

variable {A : Type}

def initial : EventBroker A where
  delayedEvents := []
  eventCounter := 0
  dev := none
  calls := 0
  scheduled := []
  removed := []
  posted := []

-- The insertion loop: before the first event with a later deadline.
def emplace (dev : DelayedEvent A) : List (DelayedEvent A) → List (DelayedEvent A)
  | [] => [dev]
  | it :: rest => if dev.deadline < it.deadline then dev :: it :: rest else it :: emplace dev rest

-- The clock counts nanoseconds.
def deadlineOf (now : Int) (delayMs : UInt32) : Int := now + delayMs.toNat * 1000000

def postDelayed (broker : EventBroker A) (ev : A) (topic : UInt8) (delayMs : UInt32) (now : Int) :
    UInt16 × EventBroker A :=
  let schedId := broker.eventCounter
  let dev : DelayedEvent A :=
    { schedId := schedId, event := ev, topic := topic, deadline := deadlineOf now delayMs, call := broker.calls }
  (schedId,
    { broker with
      delayedEvents := emplace dev broker.delayedEvents
      eventCounter := broker.eventCounter + 1
      calls := broker.calls + 1
      scheduled := broker.scheduled ++ [dev] })

def eraseId (id : UInt16) : List (DelayedEvent A) → List (DelayedEvent A)
  | [] => []
  | it :: rest => if it.schedId = id then rest else it :: eraseId id rest

def removeDelayed (broker : EventBroker A) (id : UInt16) : EventBroker A :=
  { broker with
    delayedEvents := eraseId id broker.delayedEvents
    removed := broker.removed ++ (broker.delayedEvents.find? (fun it => it.schedId = id)).toList }

def clearDelayedEvents (broker : EventBroker A) : EventBroker A :=
  { broker with delayedEvents := [], removed := broker.removed ++ broker.delayedEvents }

-- The critical section of run() after any wake-up, up to lock.unlock().
def pop (broker : EventBroker A) (now : Int) : EventBroker A :=
  match broker.delayedEvents with
  | [] => broker
  | front :: rest =>
      if front.deadline ≤ now then { broker with delayedEvents := rest, dev := some front } else broker

def postDev (broker : EventBroker A) (dev : DelayedEvent A) : EventBroker A :=
  { broker with
    dev := none
    posted := broker.posted ++ [{ event := dev.event, topic := dev.topic, origin := dev }] }

inductive Action (A : Type) where
  | postDelayed (ev : A) (topic : UInt8) (delayMs : UInt32) (now : Int)
  | removeDelayed (id : UInt16)
  | clearDelayedEvents
  | pop (now : Int)
  | post
deriving DecidableEq, Repr

-- The run thread alternates between pop and, when it took an event, post. The
-- callers' critical sections fall anywhere between.
inductive Step : EventBroker A → Action A → EventBroker A → Prop where
  | postDelayed (broker : EventBroker A) (ev : A) (topic : UInt8) (delayMs : UInt32) (now : Int) :
      Step broker (.postDelayed ev topic delayMs now) (broker.postDelayed ev topic delayMs now).2
  | removeDelayed (broker : EventBroker A) (id : UInt16) :
      Step broker (.removeDelayed id) (broker.removeDelayed id)
  | clearDelayedEvents (broker : EventBroker A) : Step broker .clearDelayedEvents broker.clearDelayedEvents
  | pop (broker : EventBroker A) (now : Int) (idle : broker.dev = none) : Step broker (.pop now) (broker.pop now)
  | post (broker : EventBroker A) (dev : DelayedEvent A) (popped : broker.dev = some dev) :
      Step broker .post (broker.postDev dev)

abbrev Runs (actions : List (Action A)) (broker : EventBroker A) : Prop := Run Step initial actions broker

def taken (broker : EventBroker A) : List (DelayedEvent A) :=
  broker.posted.map Posting.origin ++ broker.dev.toList

def reading : Action A → Option Int
  | .postDelayed _ _ _ now => some now
  | .pop now => some now
  | _ => none

def isPostDelayed : Action A → Bool
  | .postDelayed _ _ _ _ => true
  | _ => false

theorem emplace_perm (dev : DelayedEvent A) (events : List (DelayedEvent A)) :
    List.Perm (emplace dev events) (dev :: events) := by
  induction events with
  | nil => exact .refl _
  | cons it rest ih =>
      by_cases earlier : dev.deadline < it.deadline
      · rw [emplace, if_pos earlier]
      · rw [emplace, if_neg earlier]
        exact (List.Perm.cons it ih).trans (.swap dev it rest)

theorem mem_emplace (dev other : DelayedEvent A) (events : List (DelayedEvent A)) :
    other ∈ emplace dev events ↔ other = dev ∨ other ∈ events := by
  rw [(emplace_perm dev events).mem_iff, List.mem_cons]

theorem erase_id_perm (id : UInt16) (events : List (DelayedEvent A)) :
    List.Perm (eraseId id events ++ (events.find? (fun it => it.schedId = id)).toList) events := by
  induction events with
  | nil => exact .refl _
  | cons it rest ih =>
      by_cases hit : it.schedId = id
      · rw [eraseId, if_pos hit, List.find?_cons_of_pos (by simpa using hit)]
        exact List.perm_append_comm
      · rw [eraseId, if_neg hit, List.find?_cons_of_neg (by simpa using hit)]
        exact .cons it ih

theorem erase_id_sublist (id : UInt16) (events : List (DelayedEvent A)) : (eraseId id events).Sublist events := by
  induction events with
  | nil => exact .refl _
  | cons it rest ih =>
      by_cases hit : it.schedId = id
      · rw [eraseId, if_pos hit]
        exact List.sublist_cons_self it rest
      · rw [eraseId, if_neg hit]
        exact .cons_cons it ih

end EventBroker

end CameraController
