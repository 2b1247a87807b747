import CameraController.BrokerSubscribers
import CameraController.EventBroker
import CameraController.Lib.LockOrder
import CameraController.Logger

set_option autoImplicit false

namespace CameraController

open Transition LockOrder

-- The mutexes of the program. Each EventHandler has the one of its eventList.
inductive Lock (H : Type) where
  | mtxDelayedEvents
  | mtxSubscribers
  | eventList (handler : H)
  | mtxStreams
  | mtxLog
deriving DecidableEq, Repr

-- An EventHandlerBase: postEvent() of an EventHandler puts the event in its queue,
-- that of a Sniffer calls the callback.
inductive Listener (H S : Type) where
  | eventHandler (handler : H)
  | sniffer (sniffer : S)
deriving DecidableEq, Repr

-- The calls that a thread can make, the run() of the threads themselves included.
-- stop() is not among them: it waits in join() for the run() of another thread. tick
-- moves the clock.
inductive ThreadCall (H S E O : Type) where
  | post (ev : E) (topic : UInt8)
  | postDelayed (ev : E) (topic : UInt8) (delayMs : UInt32)
  | removeDelayed (id : UInt16)
  | clearDelayedEvents
  | change (change : Change (Listener H S))
  | postEvent (handler : H) (ev : E)
  | logger (request : Logger.Request O)
  | runBroker
  | runHandler (handler : H)
  | tick (now : Int)
deriving DecidableEq, Repr

inductive Work (H S E O : Type) where
  | loop (ev : E) (topic : UInt8)
  | change (change : Change (Listener H S))
  | emplace (ev : E) (topic : UInt8) (delayMs : UInt32)
  | eraseId (id : UInt16)
  | clear
  | pushBack (handler : H) (ev : E)
  | streams (request : Logger.Request O)
  | checkStop
  | sleepBroker
  | due
  | posted
  | checkHandler (handler : H)
  | testQueue (handler : H)
  | sleepHandler (handler : H)
  | popFront (handler : H)
  | handle (handler : H)
  | setClock (now : Int)
deriving DecidableEq, Repr

-- hand is what get() has returned to run() of a handler. No call sets the flags of
-- shouldStop().
structure Shared (H S E O : Type) where
  broker : EventBroker E
  subscribers : UInt8 → Option (List (Listener H S))
  eventList : H → List E
  hand : H → Option E
  logger : Logger O
  brokerStop : Bool
  handlerStop : H → Bool
  clock : Int

namespace ThreadCall

variable {H S E O : Type}

def body : ThreadCall H S E O → List (Op (Lock H) (Work H S E O))
  | .post ev topic => [.lock .mtxSubscribers, .task (.loop ev topic), .unlock .mtxSubscribers]
  | .postDelayed ev topic delayMs => [.lock .mtxDelayedEvents, .task (.emplace ev topic delayMs), .unlock .mtxDelayedEvents]
  | .removeDelayed id => [.lock .mtxDelayedEvents, .task (.eraseId id), .unlock .mtxDelayedEvents]
  | .clearDelayedEvents => [.lock .mtxDelayedEvents, .task .clear, .unlock .mtxDelayedEvents]
  | .change edit => [.lock .mtxSubscribers, .task (.change edit), .unlock .mtxSubscribers]
  | .postEvent handler ev => [.lock (.eventList handler), .task (.pushBack handler ev), .unlock (.eventList handler)]
  | .logger (.log time level str) =>
      [.lock .mtxStreams, .lock .mtxLog, .task (.streams (.log time level str)), .unlock .mtxLog, .unlock .mtxStreams]
  | .logger request => [.lock .mtxStreams, .task (.streams request), .unlock .mtxStreams]
  | .runBroker => [.lock .mtxDelayedEvents, .task .checkStop, .unlock .mtxDelayedEvents]
  | .runHandler handler => [.task (.checkHandler handler)]
  | .tick now => [.task (.setClock now)]

def quiet : ThreadCall H S E O → Bool
  | .postEvent _ _ | .logger _ => true
  | _ => false

def locksSubscribers : ThreadCall H S E O → Bool
  | .post _ _ | .change _ => true
  | _ => false

def isRun : ThreadCall H S E O → Bool
  | .runBroker | .runHandler _ => true
  | _ => false

end ThreadCall

namespace Shared

variable {H S E O : Type} [DecidableEq H] [DecidableEq S] [DecidableEq O]
  (callback : S → E → List (ThreadCall H S E O)) (handleEvent : H → E → List (ThreadCall H S E O))

def initial (logger : Logger O) (brokerStop : Bool) (handlerStop : H → Bool) : Shared H S E O where
  broker := .initial
  subscribers := fun _ => none
  eventList := fun _ => []
  hand := fun _ => none
  logger := logger
  brokerStop := brokerStop
  handlerStop := handlerStop
  clock := 0

def postEvent (ev : E) : Listener H S → List (Op (Lock H) (Work H S E O))
  | .eventHandler handler => (ThreadCall.postEvent handler ev).body
  | .sniffer sniffer => (callback sniffer ev).flatMap ThreadCall.body

-- Where the loop of removeStream runs past the end the list is left as it is.
def answered (logger : Logger O) (request : Logger.Request O) : Logger O :=
  match Logger.perform (logger.streams.length + 1) request logger with
  | .ok _ next => next
  | _ => logger

def perform (d : Shared H S E O) : Work H S E O → Shared H S E O × List (Op (Lock H) (Work H S E O))
  | .loop ev topic => (d, ((d.subscribers topic).getD []).flatMap (postEvent callback ev))
  | .change change => ({ d with subscribers := Subscribers.applyChange d.subscribers change }, [])
  | .emplace ev topic delayMs => ({ d with broker := (d.broker.postDelayed ev topic delayMs d.clock).2 }, [])
  | .eraseId id => ({ d with broker := d.broker.removeDelayed id }, [])
  | .clear => ({ d with broker := d.broker.clearDelayedEvents }, [])
  | .pushBack handler ev => ({ d with eventList := Function.update d.eventList handler (d.eventList handler ++ [ev]) }, [])
  | .streams request => ({ d with logger := answered d.logger request }, [])
  -- wait_until() and wait() unlock, block and lock again.
  | .checkStop =>
      (d, if d.brokerStop then []
        else [.unlock .mtxDelayedEvents, .task .sleepBroker, .lock .mtxDelayedEvents, .task .due, .task .checkStop])
  | .due =>
      let popped := d.broker.pop d.clock
      ({ d with broker := popped },
        match popped.dev with
        | some dev =>
            .unlock .mtxDelayedEvents :: (ThreadCall.post dev.event dev.topic).body ++ [.task .posted, .lock .mtxDelayedEvents]
        | none => [])
  | .posted =>
      match d.broker.dev with
      | some dev => ({ d with broker := d.broker.postDev dev }, [])
      | none => (d, [])
  | .checkHandler handler =>
      (d, if d.handlerStop handler then []
        else [.lock (.eventList handler), .task (.testQueue handler), .task (.popFront handler), .unlock (.eventList handler),
          .task (.handle handler)])
  | .testQueue handler =>
      (d, if d.eventList handler = [] then
          [.unlock (.eventList handler), .task (.sleepHandler handler), .lock (.eventList handler), .task (.testQueue handler)]
        else [])
  | .popFront handler =>
      match d.eventList handler with
      | result :: rest =>
          ({ d with eventList := Function.update d.eventList handler rest, hand := Function.update d.hand handler (some result) }, [])
      | [] => (d, [])
  | .handle handler =>
      match d.hand handler with
      | some ev => ({ d with hand := Function.update d.hand handler none },
          (handleEvent handler ev).flatMap ThreadCall.body ++ [.task (.checkHandler handler)])
      | none => (d, [])
  | .setClock now => ({ d with clock := now }, [])
  | .sleepBroker | .sleepHandler _ => (d, [])

end Shared

namespace BrokerLocks

variable {H S E O : Type}

def rank : Lock H → Nat
  | .mtxDelayedEvents => 0
  | .mtxSubscribers => 1
  | .eventList _ => 2
  | .mtxStreams => 3
  | .mtxLog => 4

theorem rank_bounded (l : Lock H) : rank l ≤ 4 := by
  cases l <;> simp [rank]

-- The locks under which the source does a piece of work.
def fits : Work H S E O → List (Lock H) → Prop
  | .loop _ _, held | .change _, held => held = [.mtxSubscribers]
  | .emplace _ _ _, held | .eraseId _, held | .clear, held | .checkStop, held | .due, held => held = [.mtxDelayedEvents]
  | .testQueue handler, held | .popFront handler, held => held = [.eventList handler]
  | .pushBack handler _, held => .eventList handler ∈ held
  | .streams _, held => .mtxStreams ∈ held
  | .sleepBroker, held | .sleepHandler _, held | .posted, held | .checkHandler _, held | .handle _, held => held = []
  | .setClock _, _ => True

def sleeps : Work H S E O → Bool
  | .sleepBroker | .sleepHandler _ => true
  | _ => false

-- The work that counts on a lock which its thread gives back in the course of it.
def owns : Work H S E O → List (Lock H) → Prop
  | .checkStop, held | .due, held => .mtxDelayedEvents ∈ held
  | .testQueue handler, held | .popFront handler, held => .eventList handler ∈ held
  | _, _ => True

def ofRun : Work H S E O → Bool
  | .checkStop | .sleepBroker | .due | .posted | .checkHandler _ | .testQueue _ | .sleepHandler _ | .popFront _ | .handle _ => true
  | _ => false

variable [DecidableEq H] [DecidableEq S] [DecidableEq O] (callback : S → E → List (ThreadCall H S E O))
  (handleEvent : H → E → List (ThreadCall H S E O))

def program : Program (Lock H) (Work H S E O) (ThreadCall H S E O) (Shared H S E O) where
  body := ThreadCall.body
  perform := fun work d => d.perform callback handleEvent work
  sleeps := sleeps

section Ordered

omit [DecidableEq S] [DecidableEq O] in
theorem body_conforms (held : List (Lock H)) (call : ThreadCall H S E O)
    (fit : held = [] ∨ held = [.mtxSubscribers] ∧ call.quiet = true) (rest : List (Op (Lock H) (Work H S E O)))
    (after : Conforms (Above rank) fits held rest) : Conforms (Above rank) fits held (call.body ++ rest) := by
  rcases fit with rfl | ⟨rfl, quiet⟩
  · cases call with
    | logger request => cases request <;> simpa [ThreadCall.body, Conforms, Above, fits, rank] using after
    | _ => simpa [ThreadCall.body, Conforms, Above, fits, rank] using after
  · cases call with
    | postEvent handler ev => simpa [ThreadCall.body, Conforms, Above, fits, rank] using after
    | logger request => cases request <;> simpa [ThreadCall.body, Conforms, Above, fits, rank] using after
    | _ => cases quiet

omit [DecidableEq S] [DecidableEq O] in
theorem bodies_conform (held : List (Lock H)) (calls : List (ThreadCall H S E O))
    (fit : ∀ call ∈ calls, held = [] ∨ held = [.mtxSubscribers] ∧ call.quiet = true) (rest : List (Op (Lock H) (Work H S E O)))
    (after : Conforms (Above rank) fits held rest) : Conforms (Above rank) fits held (calls.flatMap ThreadCall.body ++ rest) := by
  induction calls with
  | nil => exact after
  | cons call calls ih =>
      rw [List.flatMap_cons, List.append_assoc]
      exact body_conforms held call (fit call (List.mem_cons_self ..)) _
        (ih (fun other mem => fit other (List.mem_cons_of_mem _ mem)))

omit [DecidableEq S] [DecidableEq O] in
theorem loop_conforms (quiet : ∀ sniffer ev, ∀ call ∈ callback sniffer ev, call.quiet = true) (ev : E)
    (subs : List (Listener H S)) (rest : List (Op (Lock H) (Work H S E O)))
    (after : Conforms (Above rank) fits [.mtxSubscribers] rest) :
    Conforms (Above rank) fits [.mtxSubscribers] (subs.flatMap (Shared.postEvent callback ev) ++ rest) := by
  induction subs with
  | nil => exact after
  | cons listener subs ih =>
      rw [List.flatMap_cons, List.append_assoc]
      cases listener with
      | eventHandler handler => exact body_conforms _ (.postEvent handler ev) (.inr ⟨rfl, rfl⟩) _ ih
      | sniffer sniffer => exact bodies_conform _ _ (fun call mem => .inr ⟨rfl, quiet sniffer ev call mem⟩) _ ih

theorem ordered (quiet : ∀ sniffer ev, ∀ call ∈ callback sniffer ev, call.quiet = true) :
    Disciplined (Above rank) fits (program callback handleEvent) where
  enters := by
    intro call
    have conforms := body_conforms [] call (.inl rfl) [] rfl
    rwa [List.append_nil] at conforms
  goesOn := by
    intro work d held rest fit after
    dsimp only [program]
    cases work with
    | loop ev topic =>
        obtain rfl := fit
        exact loop_conforms callback quiet ev _ rest after
    | checkStop =>
        obtain rfl := fit
        rw [Shared.perform]
        cases d.brokerStop with
        | true => exact after
        | false => simpa [Conforms, Above, fits, rank] using after
    | due =>
        obtain rfl := fit
        rw [Shared.perform]
        cases (d.broker.pop d.clock).dev with
        | none => exact after
        | some dev => simpa [Conforms, Above, fits, rank, ThreadCall.body] using after
    | posted =>
        rw [Shared.perform]
        split <;> exact after
    | checkHandler handler =>
        obtain rfl := fit
        rw [Shared.perform]
        cases d.handlerStop handler with
        | true => exact after
        | false => simpa [Conforms, Above, fits, rank] using after
    | testQueue handler =>
        obtain rfl := fit
        rw [Shared.perform]
        by_cases empty : d.eventList handler = []
        · simpa [empty, Conforms, Above, fits, rank] using after
        · simpa [empty] using after
    | popFront handler =>
        rw [Shared.perform]
        split <;> exact after
    | handle handler =>
        obtain rfl := fit
        rw [Shared.perform]
        split
        · rename_i ev taken
          rw [List.append_assoc]
          exact bodies_conform [] _ (fun _ _ => .inl rfl) _ ⟨rfl, after⟩
        · exact after
    | change | emplace | eraseId | clear | pushBack | streams | setClock | sleepBroker | sleepHandler => exact after

omit [DecidableEq H] [DecidableEq S] [DecidableEq O] in
theorem sleeper_rests (work : Work H S E O) (held : List (Lock H)) (sleeping : sleeps work = true) (fit : fits work held) :
    held = [] := by
  cases work with
  | sleepBroker | sleepHandler => exact fit
  | _ => cases sleeping

omit [DecidableEq H] [DecidableEq S] [DecidableEq O] in
theorem body_plain (call : ThreadCall H S E O) (plain : call.isRun = false) (work : Work H S E O)
    (member : .task work ∈ call.body) : ofRun work = false := by
  cases call with
  | runBroker | runHandler => cases plain
  | logger request =>
      cases request <;>
        simp only [ThreadCall.body, List.mem_cons, List.not_mem_nil, reduceCtorEq, Op.task.injEq, or_false, false_or] at member <;>
        exact member ▸ rfl
  | _ =>
      simp only [ThreadCall.body, List.mem_cons, List.not_mem_nil, reduceCtorEq, Op.task.injEq, or_false, false_or] at member
      exact member ▸ rfl

omit [DecidableEq H] [DecidableEq S] [DecidableEq O] in
theorem quiet_plain (call : ThreadCall H S E O) (quiet : call.quiet = true) : call.isRun = false := by
  cases call <;> first | rfl | cases quiet

theorem perform_plain (quiet : ∀ sniffer ev, ∀ call ∈ callback sniffer ev, call.quiet = true) (work : Work H S E O)
    (d : Shared H S E O) (plain : ofRun work = false) (other : Work H S E O)
    (member : .task other ∈ (d.perform callback handleEvent work).2) : ofRun other = false := by
  cases work with
  | loop ev topic =>
      obtain ⟨listener, _, inside⟩ := List.mem_flatMap.mp member
      cases listener with
      | eventHandler handler => exact body_plain (.postEvent handler ev) rfl other inside
      | sniffer sniffer =>
          obtain ⟨call, made, inside⟩ := List.mem_flatMap.mp inside
          exact body_plain call (quiet_plain call (quiet sniffer ev call made)) other inside
  | change | emplace | eraseId | clear | pushBack | streams | setClock => cases member
  | checkStop | sleepBroker | due | posted | checkHandler | testQueue | sleepHandler | popFront | handle => cases plain

omit [DecidableEq H] [DecidableEq S] [DecidableEq O] in
theorem sleeps_in_run (work : Work H S E O) (sleeping : sleeps work = true) : ofRun work = true := by
  cases work <;> first | rfl | cases sleeping

end Ordered

section Owning

omit [DecidableEq S] [DecidableEq O] in
theorem body_owns (held : List (Lock H)) (call : ThreadCall H S E O) (rest : List (Op (Lock H) (Work H S E O)))
    (after : Conforms (fun _ _ => True) owns held rest) : Conforms (fun _ _ => True) owns held (call.body ++ rest) := by
  cases call with
  | logger request => cases request <;> simp [ThreadCall.body, Conforms, owns, after]
  | _ => simp [ThreadCall.body, Conforms, owns, after]

omit [DecidableEq S] [DecidableEq O] in
theorem bodies_own (held : List (Lock H)) (calls : List (ThreadCall H S E O)) (rest : List (Op (Lock H) (Work H S E O)))
    (after : Conforms (fun _ _ => True) owns held rest) :
    Conforms (fun _ _ => True) owns held (calls.flatMap ThreadCall.body ++ rest) := by
  induction calls with
  | nil => exact after
  | cons call calls ih =>
      rw [List.flatMap_cons, List.append_assoc]
      exact body_owns held call _ ih

omit [DecidableEq S] [DecidableEq O] in
theorem loop_owns (held : List (Lock H)) (ev : E) (subs : List (Listener H S)) (rest : List (Op (Lock H) (Work H S E O)))
    (after : Conforms (fun _ _ => True) owns held rest) :
    Conforms (fun _ _ => True) owns held (subs.flatMap (Shared.postEvent callback ev) ++ rest) := by
  induction subs with
  | nil => exact after
  | cons listener subs ih =>
      rw [List.flatMap_cons, List.append_assoc]
      cases listener with
      | eventHandler handler => exact body_owns held (.postEvent handler ev) _ ih
      | sniffer sniffer => exact bodies_own held (callback sniffer ev) _ ih

omit [DecidableEq H] [DecidableEq S] [DecidableEq O] in
theorem owns_perm (work : Work H S E O) (held other : List (Lock H)) (same : held.Perm other) (fit : owns work held) :
    owns work other := by
  cases work with
  | checkStop | due | testQueue | popFront => exact same.mem_iff.mp fit
  | _ => trivial

omit [DecidableEq S] [DecidableEq O] in
theorem retake_owns (held : List (Lock H)) (l : Lock H) (rest : List (Op (Lock H) (Work H S E O))) (mine : l ∈ held)
    (after : Conforms (fun _ _ => True) owns held rest) : Conforms (fun _ _ => True) owns (l :: held.erase l) rest :=
  conforms_perm _ owns (fun _ _ _ _ _ => trivial) owns_perm held _ rest (List.perm_cons_erase mine) after

theorem owning : Disciplined (fun _ _ => True) owns (program callback handleEvent) where
  enters := by
    intro call
    have conforms := body_owns [] call [] rfl
    rwa [List.append_nil] at conforms
  goesOn := by
    intro work d held rest fit after
    dsimp only [program]
    cases work with
    | loop ev topic => exact loop_owns callback held ev _ rest after
    | checkStop =>
        rw [Shared.perform]
        cases d.brokerStop with
        | true => exact after
        | false =>
            have retaken := retake_owns held .mtxDelayedEvents rest fit after
            exact ⟨fit, trivial, trivial, .inr ⟨List.mem_cons_self, List.mem_cons_self, retaken⟩⟩
    | due =>
        rw [Shared.perform]
        cases (d.broker.pop d.clock).dev with
        | none => exact after
        | some dev =>
            have retaken := retake_owns held .mtxDelayedEvents rest fit after
            have posts := body_owns (held.erase .mtxDelayedEvents) (.post dev.event dev.topic)
              (.task .posted :: .lock .mtxDelayedEvents :: rest) ⟨trivial, trivial, .inr retaken⟩
            exact ⟨fit, posts⟩
    | posted =>
        rw [Shared.perform]
        split <;> exact after
    | checkHandler handler =>
        rw [Shared.perform]
        cases d.handlerStop handler with
        | true => exact after
        | false => simp [Conforms, owns, after]
    | testQueue handler =>
        rw [Shared.perform]
        split
        · have retaken := retake_owns held (.eventList handler) rest fit after
          exact ⟨fit, trivial, trivial, .inr ⟨List.mem_cons_self, retaken⟩⟩
        · exact after
    | popFront handler =>
        rw [Shared.perform]
        split <;> exact after
    | handle handler =>
        rw [Shared.perform]
        split
        · rw [List.append_assoc]
          exact bodies_own held _ _ ⟨trivial, after⟩
        · exact after
    | change | emplace | eraseId | clear | pushBack | streams | setClock | sleepBroker | sleepHandler => exact after

omit [DecidableEq H] [DecidableEq S] [DecidableEq O] in
theorem body_relocks (call : ThreadCall H S E O) (rest : List (Op (Lock H) (Work H S E O)))
    (again : call.locksSubscribers = true ∨ Relocks .mtxSubscribers rest) : Relocks .mtxSubscribers (call.body ++ rest) := by
  cases call with
  | post | change => exact relocks_head _ _
  | logger request =>
      have later := again.resolve_left Bool.false_ne_true
      cases request <;> exact relocks_append _ _ rest (by simp [ThreadCall.body]) later
  | _ => exact relocks_append _ _ rest (by simp [ThreadCall.body]) (again.resolve_left Bool.false_ne_true)

omit [DecidableEq H] [DecidableEq S] [DecidableEq O] in
theorem bodies_relock (calls : List (ThreadCall H S E O)) (rest : List (Op (Lock H) (Work H S E O)))
    (again : (∃ call ∈ calls, call.locksSubscribers = true) ∨ Relocks .mtxSubscribers rest) :
    Relocks .mtxSubscribers (calls.flatMap ThreadCall.body ++ rest) := by
  induction calls with
  | nil => exact again.resolve_left (by rintro ⟨_, none, _⟩; cases none)
  | cons call calls ih =>
      rw [List.flatMap_cons, List.append_assoc]
      apply body_relocks
      rcases again with ⟨other, member, locks⟩ | later
      · rcases List.mem_cons.mp member with rfl | further
        · exact .inl locks
        · exact .inr (ih (.inl ⟨other, further, locks⟩))
      · exact .inr (ih (.inr later))

omit [DecidableEq H] [DecidableEq S] [DecidableEq O] in
theorem loop_relocks (ev : E) (subs : List (Listener H S)) (rest : List (Op (Lock H) (Work H S E O)))
    (again : (∃ sniffer, .sniffer sniffer ∈ subs ∧ ∃ call ∈ callback sniffer ev, call.locksSubscribers = true) ∨
      Relocks .mtxSubscribers rest) :
    Relocks .mtxSubscribers (subs.flatMap (Shared.postEvent callback ev) ++ rest) := by
  induction subs with
  | nil => exact again.resolve_left (by rintro ⟨_, none, _⟩; cases none)
  | cons listener subs ih =>
      rw [List.flatMap_cons, List.append_assoc]
      have passes : Relocks .mtxSubscribers (subs.flatMap (Shared.postEvent callback ev) ++ rest) →
          Relocks .mtxSubscribers (Shared.postEvent callback ev listener ++
            (subs.flatMap (Shared.postEvent callback ev) ++ rest)) := by
        intro later
        cases listener with
        | eventHandler handler => exact body_relocks (.postEvent handler ev) _ (.inr later)
        | sniffer sniffer => exact bodies_relock (callback sniffer ev) _ (.inr later)
      rcases again with ⟨sniffer, member, calls⟩ | later
      · rcases List.mem_cons.mp member with rfl | further
        · exact bodies_relock (callback sniffer ev) _ (.inl calls)
        · exact passes (ih (.inl ⟨sniffer, further, calls⟩))
      · exact passes (ih (.inr later))

theorem perform_relocks (work : Work H S E O) (d : Shared H S E O) (rest : List (Op (Lock H) (Work H S E O)))
    (later : Relocks .mtxSubscribers rest) :
    Relocks .mtxSubscribers ((d.perform callback handleEvent work).2 ++ rest) := by
  cases work with
  | loop ev topic => exact loop_relocks callback ev _ rest (.inr later)
  | checkStop =>
      rw [Shared.perform]
      cases d.brokerStop with
      | true => exact later
      | false => exact relocks_append _ _ rest (by simp) later
  | due =>
      rw [Shared.perform]
      cases (d.broker.pop d.clock).dev with
      | none => exact later
      | some dev => exact relocks_append _ [.unlock Lock.mtxDelayedEvents] _ (by simp) (relocks_head _ _)
  | posted | popFront =>
      rw [Shared.perform]
      split <;> exact later
  | checkHandler handler =>
      rw [Shared.perform]
      cases d.handlerStop handler with
      | true => exact later
      | false => exact relocks_append _ _ rest (by simp) later
  | testQueue handler =>
      rw [Shared.perform]
      split
      · exact relocks_append _ _ rest (by simp) later
      · exact later
  | handle handler =>
      rw [Shared.perform]
      split
      · rw [List.append_assoc]
        exact bodies_relock _ _ (.inr (relocks_append _ [.task (.checkHandler handler)] rest (by simp) later))
      · exact later
  | change | emplace | eraseId | clear | pushBack | streams | setClock | sleepBroker | sleepHandler => exact later

end Owning

variable {T : Type} [DecidableEq T]

def initial (logger : Logger O) (brokerStop : Bool) (handlerStop : H → Bool) :
    Machine T (Lock H) (Work H S E O) (Shared H S E O) where
  data := .initial logger brokerStop handlerStop
  held := fun _ => none
  script := fun _ => []

-- As long as the callbacks of the sniffers only log and post to handlers, whatever the
-- handlers call in response to an event, a thread in a call other than run() never waits
-- with nobody able to go on, and one in run() only where it sleeps, without a lock.
theorem calls_never_deadlock (quiet : ∀ sniffer ev, ∀ call ∈ callback sniffer ev, call.quiet = true) (logger : Logger O)
    (brokerStop : Bool) (handlerStop : H → Bool) (acts : List (LockOrder.Act T (ThreadCall H S E O)))
    (s : Machine T (Lock H) (Work H S E O) (Shared H S E O))
    (run : Run (LockOrder.Step (program callback handleEvent)) (initial logger brokerStop handlerStop) acts s) (thread : T)
    (inside : s.script thread ≠ []) :
    ∃ call, calling acts thread = some call ∧
      ((∃ other next, LockOrder.Step (program callback handleEvent) s (.step other) next) ∨
        call.isRun = true ∧ (∃ work rest, s.script thread = .task work :: rest ∧ sleeps work = true) ∧
          ∀ l, s.held l ≠ some thread) := by
  have disciplined := ordered callback handleEvent quiet
  have orderly := orderly_run _ _ fits disciplined _ s acts (initial_orderly (Above rank) fits _) run
  obtain ⟨call, made, plain⟩ := in_calls_run (program callback handleEvent) (fun call => call.isRun = false)
    (fun work => ofRun work = false) body_plain (fun work d => perform_plain callback handleEvent quiet work d) _ s acts
    (fun _ => rfl) run thread inside
  refine ⟨call, made, ?_⟩
  by_cases asleep : ∃ work rest, s.script thread = .task work :: rest ∧ sleeps work = true
  · obtain ⟨work, rest, head, sleeping⟩ := asleep
    refine .inr ⟨?_, ⟨work, rest, head, sleeping⟩, ?_⟩
    · by_contra other
      have tame : ofRun work = false := plain (by simpa using other) work (by rw [head]; exact List.mem_cons_self)
      rw [sleeps_in_run work sleeping] at tame
      cases tame
    · exact sleeper_free (program callback handleEvent) _ fits sleeper_rests s orderly thread work rest head sleeping
  · refine .inl (someone_goes_on _ rank fits sleeper_rests 4 rank_bounded s orderly thread inside ?_)
    intro work rest head
    by_contra sleeping
    exact asleep ⟨work, rest, head, by simpa [program] using sleeping⟩

theorem calls_never_deadlock_logging : ∃ s : Machine (Fin 3) (Lock Nat) (Work Nat Nat Nat Unit) (Shared Nat Nat Nat Unit),
    s.held .mtxSubscribers = some 1 ∧ s.held .mtxStreams = some 0 ∧ s.script 2 ≠ [] ∧
      ∃ thread next, LockOrder.Step (program (fun _ _ => [.logger (.log "" .logDebug "event")]) (fun _ _ => [])) s
        (.step thread) next := by
  let sniffed : Nat → Nat → List (ThreadCall Nat Nat Nat Unit) := fun _ _ => [.logger (.log "" .logDebug "event")]
  let acts : List (LockOrder.Act (Fin 3) (ThreadCall Nat Nat Nat Unit)) := [.call 2 (.runHandler 7), .step 2, .step 2, .step 2,
    .step 2, .call 1 (.change (.subscribe (.sniffer 3) 5)), .step 1, .step 1, .step 1,
    .call 0 (.logger (.log "" .logInfo "started")), .step 0, .call 1 (.post 9 5), .step 1, .step 1]
  let s : Machine (Fin 3) (Lock Nat) (Work Nat Nat Nat Unit) (Shared Nat Nat Nat Unit) :=
    (follow (LockOrder.advance (program sniffed (fun _ _ => []))) (fun _ _ => true)
      (initial (.construct []) false (fun _ => false)) acts).get (by decide +kernel)
  have run : Run (LockOrder.Step (program sniffed (fun _ _ => []))) (initial (.construct []) false (fun _ => false)) acts s :=
    follow_reached _ _ (LockOrder.advance_step (program sniffed (fun _ _ => []))) _ _ _ (Option.some_get _).symm
  have inside : s.script 1 ≠ [] := by decide +kernel
  refine ⟨s, by decide +kernel, by decide +kernel, by decide +kernel, ?_⟩
  obtain ⟨call, made, goes⟩ := calls_never_deadlock sniffed (fun _ _ => [])
    (fun _ _ call mem => by cases List.mem_singleton.mp mem; rfl) _ _ _ acts s run 1 inside
  cases Option.some.inj (made.symm.trans (show calling acts 1 = some (.post 9 5) by decide +kernel))
  exact goes.resolve_right (by rintro ⟨none, _⟩; cases none)

-- A thread that has mtx_subscribers and comes to lock it again, which it does in the loop of
-- post() where a callback posts or subscribes, never takes a step again, and the post()
-- never returns.
theorem callback_deadlocks (logger : Logger O) (brokerStop : Bool) (handlerStop : H → Bool)
    (acts : List (LockOrder.Act T (ThreadCall H S E O))) (s : Machine T (Lock H) (Work H S E O) (Shared H S E O))
    (run : Run (LockOrder.Step (program callback handleEvent)) (initial logger brokerStop handlerStop) acts s) (thread : T)
    (own : s.held .mtxSubscribers = some thread) :
    (∀ rest, s.script thread = .lock .mtxSubscribers :: rest → ∀ more t,
      Run (LockOrder.Step (program callback handleEvent)) s more t → t.held .mtxSubscribers = some thread ∧
        ∀ act next, LockOrder.Step (program callback handleEvent) t act next → act.thread ≠ thread) ∧
    (∀ ev topic rest next, s.script thread = .task (.loop ev topic) :: rest →
      (∃ sniffer, .sniffer sniffer ∈ (s.data.subscribers topic).getD [] ∧
        ∃ call ∈ callback sniffer ev, call.locksSubscribers = true) →
      LockOrder.Step (program callback handleEvent) s (.step thread) next → ∀ more t,
      Run (LockOrder.Step (program callback handleEvent)) next more t → t.held .mtxSubscribers = some thread ∧
        t.script thread ≠ []) := by
  have disciplined := owning callback handleEvent
  have orderly := orderly_run _ _ owns disciplined _ s acts (initial_orderly (fun _ _ => True) owns _) run
  have again := perform_relocks callback handleEvent
  constructor
  · intro rest waits more t later
    obtain ⟨mine, stuck⟩ := waiter_stays _ _ owns .mtxSubscribers (fun work d => again work d) disciplined s t more thread rest
      orderly own waits later
    exact ⟨mine, fun act next step => waiter_rests _ .mtxSubscribers t next act thread rest mine stuck step⟩
  · intro ev topic rest next head calls step more t later
    have looped : next.held .mtxSubscribers = some thread ∧ Relocks .mtxSubscribers (next.script thread) := by
      cases step with
      | lock _ l others at_lock free => rw [head] at at_lock; cases at_lock
      | unlock _ l others at_unlock => rw [head] at at_unlock; cases at_unlock
      | task _ work others at_task awake =>
          rw [head] at at_task
          cases at_task
          refine ⟨own, ?_⟩
          dsimp only
          rw [Function.update_self]
          exact loop_relocks callback ev _ rest (.inl calls)
    have ordered_next := orderly_step _ _ owns disciplined s next (.step thread) orderly step
    obtain ⟨mine, stuck⟩ := relocks_run _ _ owns .mtxSubscribers (fun work d => again work d) disciplined next t more thread
      ordered_next later looped.1 looped.2
    refine ⟨mine, ?_⟩
    obtain ⟨before, after, split, _⟩ := stuck
    rw [split]
    exact List.append_ne_nil_of_right_ne_nil before (List.cons_ne_nil _ after)

def resubscribes : Nat → Nat → List (ThreadCall Nat Nat Nat Unit) := fun _ _ =>
  [.logger (.log "" .logDebug "event"), .change (.subscribe (.sniffer 4) 6)]

theorem callback_deadlocks_subscribing :
    ∃ s next waiting : Machine Bool (Lock Nat) (Work Nat Nat Nat Unit) (Shared Nat Nat Nat Unit),
      LockOrder.Step (program resubscribes (fun _ _ => [])) s (.step true) next ∧
      (∀ more t, Run (LockOrder.Step (program resubscribes (fun _ _ => []))) next more t → t.script true ≠ []) ∧
      (∃ more, Run (LockOrder.Step (program resubscribes (fun _ _ => []))) next more waiting) ∧
      waiting.script true = [.lock .mtxSubscribers, .task (.change (.subscribe (.sniffer 4) 6)), .unlock .mtxSubscribers,
        .unlock .mtxSubscribers] ∧
      ∀ more t, Run (LockOrder.Step (program resubscribes (fun _ _ => []))) waiting more t →
        ∀ act after, LockOrder.Step (program resubscribes (fun _ _ => [])) t act after → act.thread ≠ true := by
  let posting : List (LockOrder.Act Bool (ThreadCall Nat Nat Nat Unit)) := [.call true (.change (.subscribe (.sniffer 3) 5)),
    .step true, .step true, .step true, .call false (.post 8 5), .call true (.post 9 5), .step true]
  let logging : List (LockOrder.Act Bool (ThreadCall Nat Nat Nat Unit)) := List.replicate 5 (.step true)
  let advance := LockOrder.advance (T := Bool) (program resubscribes (fun _ _ => []))
  let s := (follow advance (fun _ _ => true) (initial (.construct []) false (fun _ => false)) posting).get (by decide +kernel)
  let next := (advance s (.step true)).get (by decide +kernel)
  let waiting := (follow advance (fun _ _ => true) next logging).get (by decide +kernel)
  have posted : Run (LockOrder.Step (program resubscribes (fun _ _ => []))) (initial (.construct []) false (fun _ => false))
      posting s :=
    follow_reached _ _ (LockOrder.advance_step (program resubscribes (fun _ _ => []))) _ _ _ (Option.some_get _).symm
  have looped : LockOrder.Step (program resubscribes (fun _ _ => [])) s (.step true) next :=
    LockOrder.advance_step _ _ _ _ (Option.some_get _).symm
  have logged : Run (LockOrder.Step (program resubscribes (fun _ _ => []))) next logging waiting :=
    follow_reached _ _ (LockOrder.advance_step (program resubscribes (fun _ _ => []))) _ _ _ (Option.some_get _).symm
  have waits : waiting.script true = [.lock .mtxSubscribers, .task (.change (.subscribe (.sniffer 4) 6)), .unlock .mtxSubscribers,
    .unlock .mtxSubscribers] := by decide +kernel
  refine ⟨s, next, waiting, looped, ?_, ⟨logging, logged⟩, waits, ?_⟩
  · intro more t later
    have head : s.script true = [.task (.loop 9 5), .unlock .mtxSubscribers] := by decide +kernel
    have heard : (s.data.subscribers 5).getD [] = [.sniffer 3] := by decide +kernel
    have stuck := callback_deadlocks resubscribes (fun _ _ => []) _ _ _ posting s posted true (by decide +kernel)
    refine (stuck.2 9 5 _ next head ⟨3, ?_, .change (.subscribe (.sniffer 4) 6), ?_, rfl⟩ looped more t later).2
    · rw [heard]
      exact List.mem_cons_self
    · exact List.mem_cons_of_mem _ List.mem_cons_self
  · intro more t later
    have whole := run_append _ _ _ _ _ _ posted (.next _ _ _ _ _ looped logged)
    have stuck := callback_deadlocks resubscribes (fun _ _ => []) _ _ _ _ waiting whole true (by decide +kernel)
    exact (stuck.1 _ waits more t later).2

end BrokerLocks

end CameraController
