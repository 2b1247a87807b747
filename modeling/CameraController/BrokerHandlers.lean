import CameraController.BrokerLocks
import CameraController.EventHandlerOrder
import CameraController.EventSniffer

set_option autoImplicit false

namespace CameraController

open Transition

-- The threads that call the broker: that of a handler, from handleEvent(), and
-- all others.
inductive Caller (T H : Type) where
  | runner (handler : H)
  | other (thread : T)
deriving DecidableEq, Repr

instance {T H : Type} [Fintype T] [Fintype H] [DecidableEq T] [DecidableEq H] : Fintype (Caller T H) where
  elems := Finset.univ.image .runner ∪ Finset.univ.image .other
  complete := by
    intro caller
    cases caller <;> simp

-- An event in the queue of a handler, with the post that it comes from, if it is
-- not from the handler itself or from stop(). No function reads where it is from.
inductive Item (E : Type) where
  | posted (post : Nat) (ev : E)
  | own (ev : E)
deriving DecidableEq, Repr

def Item.receipt {E : Type} : Item E → Option (Nat × E)
  | .posted post ev => some (post, ev)
  | .own _ => none

-- The broker with the threads and the queues of the EventHandlers. What a Sniffer
-- does with an event is left out.
structure Exchange (T H S E : Type) where
  table : Subscribers (Caller T H) (Listener H S) E
  handlers : H → EventHandler (Caller T H) (Item E)

namespace Exchange

variable {T H S E : Type}

def launched : Exchange T H S E where
  table := .initial
  handlers := fun _ => .launched

inductive Act (T H S E : Type) where
  | broker (act : Subscribers.Act (Caller T H) (Listener H S) E)
  | handler (handler : H) (act : EventHandler.Act (Caller T H) (Item E))
deriving DecidableEq, Repr

-- A handler calls the broker from handleEvent() only.
def ready (s : Exchange T H S E) : Caller T H → Bool
  | .runner handler =>
      match (s.handlers handler).run with
      | .handling _ => true
      | _ => false
  | .other _ => true

-- The postEvent() that the loop of post() has come to, when it is one that puts
-- the event in a queue.
def hands (s : Exchange T H S E) (caller : Caller T H) : Option (H × Nat × E) :=
  match s.table.pc caller with
  | .posting post ev topic next =>
      match (s.table.subs topic)[next]? with
      | some (.eventHandler handler) => some (handler, post, ev)
      | _ => none
  | _ => none

def between : CallPc (Listener H S) E → Bool
  | .outside => true
  | _ => false

-- The steps of a handler that are not made in post(). handleEvent() returns, and
-- posts to its own queue, in no call of the broker.
def lets (s : Exchange T H S E) (handler : H) : EventHandler.Act (Caller T H) (Item E) → Bool
  | .queue (.call .runner (.put (.own _))) | .returns => between (s.table.pc (.runner handler))
  | .queue (.call .runner (.put (.posted _ _))) | .queue (.call (.other _) _) => false
  | _ => true

variable [DecidableEq T] [DecidableEq H]

def poster (handler : H) (caller : Caller T H) : Poster (Caller T H) :=
  if caller = .runner handler then .runner else .other caller

def Away (s : Exchange T H S E) (caller : Caller T H) : Prop :=
  ∀ handler, (s.handlers handler).eventList.pc (poster handler caller) = .outside

variable [DecidableEq S] (evEmpty : E)

inductive Step : Exchange T H S E → Act T H S E → Exchange T H S E → Prop where
  | call (s : Exchange T H S E) (caller : Caller T H) (call : BrokerCall (Listener H S) E)
      (table : Subscribers (Caller T H) (Listener H S) E) (away : s.Away caller) (ready : s.ready caller = true)
      (step : Subscribers.Step s.table (.call caller call) table) : Step s (.broker (.call caller call)) { s with table := table }
  | goes (s : Exchange T H S E) (caller : Caller T H) (table : Subscribers (Caller T H) (Listener H S) E) (away : s.Away caller)
      (quiet : s.hands caller = none) (step : Subscribers.Step s.table (.step caller) table) :
      Step s (.broker (.step caller)) { s with table := table }
  | postEvent (s : Exchange T H S E) (caller : Caller T H) (handler : H) (post : Nat) (ev : E)
      (table : Subscribers (Caller T H) (Listener H S) E) (next : EventHandler (Caller T H) (Item E)) (away : s.Away caller)
      (here : s.hands caller = some (handler, post, ev)) (step : Subscribers.Step s.table (.step caller) table)
      (put : EventHandler.Step (.own evEmpty) (s.handlers handler)
        (.queue (.call (poster handler caller) (.put (.posted post ev)))) next) :
      Step s (.broker (.step caller)) { table := table, handlers := Function.update s.handlers handler next }
  | handler (s : Exchange T H S E) (handler : H) (act : EventHandler.Act (Caller T H) (Item E))
      (next : EventHandler (Caller T H) (Item E)) (free : s.lets handler act = true)
      (step : EventHandler.Step (.own evEmpty) (s.handlers handler) act next) :
      Step s (.handler handler act) { s with handlers := Function.update s.handlers handler next }

section Following

variable [Fintype T] [Fintype H] [DecidableEq E]

instance (s : Exchange T H S E) (caller : Caller T H) : Decidable (s.Away caller) :=
  inferInstanceAs (Decidable (∀ handler, (s.handlers handler).eventList.pc (poster handler caller) = .outside))

def advance (s : Exchange T H S E) : Act T H S E → Option (Exchange T H S E)
  | .broker (.call caller call) =>
      if s.Away caller ∧ s.ready caller = true then
        (s.table.advance (.call caller call)).map (fun table => { s with table := table })
      else none
  | .broker (.step caller) =>
      if s.Away caller then
        match s.hands caller, s.table.advance (.step caller) with
        | none, some table => some { s with table := table }
        | some (handler, post, ev), some table =>
            ((s.handlers handler).advance (.own evEmpty) (.queue (.call (poster handler caller) (.put (.posted post ev))))).map
              (fun next => { table := table, handlers := Function.update s.handlers handler next })
        | _, none => none
      else none
  | .handler handler act =>
      if s.lets handler act then
        ((s.handlers handler).advance (.own evEmpty) act).map
          (fun next => { s with handlers := Function.update s.handlers handler next })
      else none

theorem advance_step (s next : Exchange T H S E) (act : Act T H S E) (run : s.advance evEmpty act = some next) :
    Step evEmpty s act next := by
  cases act with
  | broker act =>
      cases act with
      | call caller call =>
          rw [advance] at run
          split at run
          · rename_i may
            obtain ⟨table, first, rfl⟩ := Option.map_eq_some_iff.mp run
            exact .call s caller call table may.1 may.2 (s.table.advance_step table _ first)
          · cases run
      | step caller =>
          rw [advance] at run
          split at run
          · rename_i away
            split at run
            · rename_i table quiet first
              cases run
              exact .goes s caller table away quiet (s.table.advance_step table _ first)
            · rename_i handler post ev table here first
              obtain ⟨list, put, rfl⟩ := Option.map_eq_some_iff.mp run
              exact .postEvent s caller handler post ev table list away here (s.table.advance_step table _ first)
                (EventHandler.advance_step _ _ _ _ put)
            · cases run
          · cases run
  | handler handler act =>
      rw [advance] at run
      split at run
      · rename_i free
        obtain ⟨list, goes, rfl⟩ := Option.map_eq_some_iff.mp run
        exact .handler s handler act list free (EventHandler.advance_step _ _ _ _ goes)
      · cases run

end Following

end Exchange

namespace SynchronizedQueue

variable {T A E : Type}

def unpushed : QueuePc A → Option A
  | .locking data | .pushing data => some data
  | _ => none

theorem puts_append (first second : List (T × QueueOperation A)) : puts (first ++ second) = puts first ++ puts second :=
  List.filterMap_append

variable [DecidableEq T]

theorem puts_step (s next : SynchronizedQueue T A) (act : Act T A) (step : Step s act next) :
    (∃ thread data, act = .call thread (.put data) ∧ s.pc thread = .outside ∧ next.history = s.history ∧
      next.pc = Function.update s.pc thread (.locking data)) ∨
      (∃ thread data, s.pc thread = .pushing data ∧ puts next.history = puts s.history ++ [data] ∧
        next.pc = Function.update s.pc thread (.notifying data)) ∨
      puts next.history = puts s.history ∧ ∀ thread, unpushed (next.pc thread) = unpushed (s.pc thread) := by
  have moves : ∀ (pcs : T → QueuePc A) (moved : T) (pc : QueuePc A), unpushed pc = unpushed (pcs moved) →
      ∀ thread, unpushed (Function.update pcs moved pc thread) = unpushed (pcs thread) := by
    intro pcs moved pc same thread
    by_cases here : thread = moved
    · rw [here, Function.update_self, same]
    · rw [Function.update_of_ne here]
  cases step with
  | put thread data free => exact .inl ⟨thread, data, rfl, free, rfl, rfl⟩
  | push thread data inside => exact .inr (.inl ⟨thread, data, inside, puts_append _ _, rfl⟩)
  | lock thread data waits free => exact .inr (.inr ⟨rfl, moves _ thread _ (by rw [waits]; rfl)⟩)
  | notifyOne thread sleeper data inside sleeps =>
      have woken := moves s.pc sleeper .woken (by rw [sleeps]; rfl)
      refine .inr (.inr ⟨rfl, fun other => (moves _ thread _ ?_ other).trans (woken other)⟩)
      dsimp only [setPc]
      rw [woken, inside]
      rfl
  | notifyNone thread data inside nobody => exact .inr (.inr ⟨rfl, moves _ thread _ (by rw [inside]; rfl)⟩)
  | get thread free => exact .inr (.inr ⟨rfl, moves _ thread _ (by rw [free]; rfl)⟩)
  | enter thread waits free =>
      refine .inr (.inr ⟨rfl, moves _ thread _ ?_⟩)
      cases waits with
      | inl fresh => rw [fresh]; rfl
      | inr again => rw [again]; rfl
  | wait thread inside empty => exact .inr (.inr ⟨rfl, moves _ thread _ (by rw [inside]; rfl)⟩)
  | wake thread sleeps => exact .inr (.inr ⟨rfl, moves _ thread _ (by rw [sleeps]; rfl)⟩)
  | pass thread inside holds => exact .inr (.inr ⟨rfl, moves _ thread _ (by rw [inside]; rfl)⟩)
  | front thread result rest inside head => exact .inr (.inr ⟨rfl, moves _ thread _ (by rw [inside]; rfl)⟩)
  | popFront thread result first rest inside head =>
      exact .inr (.inr ⟨by simp [puts], moves _ thread _ (by rw [inside]; rfl)⟩)
  | unlock thread operation leaves => exact .inr (.inr ⟨rfl, moves _ thread _ (by rw [leaves]; rfl)⟩)

omit [DecidableEq T]

def entering (s : SynchronizedQueue T (Item E)) (thread : T) : Option (Nat × E) := (unpushed (s.pc thread)).bind Item.receipt

def entered (s : SynchronizedQueue T (Item E)) : List (Nat × E) := (puts s.history).filterMap Item.receipt

-- What the handler has heard has come to the queue, the last of it perhaps not yet.
structure Receives (s : SynchronizedQueue T (Item E)) (heard : List (Nat × E)) : Prop where
  idle : (∀ thread, entering s thread = none) → entered s = heard
  busy : ∀ thread post, entering s thread = some post → entered s ++ [post] = heard

variable [DecidableEq T]

theorem entering_update (s next : SynchronizedQueue T (Item E)) (thread : T) (pc : QueuePc (Item E))
    (pcs : next.pc = Function.update s.pc thread pc) :
    entering next thread = (unpushed pc).bind Item.receipt ∧
      ∀ other, other ≠ thread → entering next other = entering s other := by
  refine ⟨by rw [entering, pcs, Function.update_self], fun other there => ?_⟩
  rw [entering, pcs, Function.update_of_ne there, entering]

theorem receives_begins (s next : SynchronizedQueue T (Item E)) (thread : T) (post : Nat) (ev : E) (heard : List (Nat × E))
    (receives : Receives s heard) (nobody : ∀ other, entering s other = none)
    (step : Step s (.call thread (.put (.posted post ev))) next) :
    Receives next (heard ++ [(post, ev)]) ∧ ∀ other r, entering next other = some r → other = thread ∧ r = (post, ev) := by
  cases step with
  | put _ _ free =>
      obtain ⟨mine, others⟩ := entering_update s (s.setPc thread (.locking (.posted post ev))) thread _ rfl
      have front : entered s = heard := receives.idle nobody
      have there : ∀ other r, entering (s.setPc thread (.locking (.posted post ev))) other = some r →
          other = thread ∧ r = (post, ev) := by
        intro other r is
        by_cases here : other = thread
        · rw [here, mine] at is
          exact ⟨here, (Option.some.inj is).symm⟩
        · rw [others other here, nobody other] at is
          cases is
      refine ⟨⟨fun none => ?_, fun other r is => ?_⟩, there⟩
      · have absent := none thread
        rw [mine] at absent
        cases absent
      · rw [(there other r is).2, ← front]
        rfl

theorem receives_step (s next : SynchronizedQueue T (Item E)) (act : Act T (Item E)) (heard : List (Nat × E))
    (receives : Receives s heard) (step : Step s act next)
    (alone : ∀ thread other, (entering s thread).isSome → (entering s other).isSome → other = thread)
    (own : ∀ thread item, act = .call thread (.put item) → item.receipt = none) :
    Receives next heard ∧ ∀ thread post, entering next thread = some post → entering s thread = some post := by
  rcases puts_step s next act step with ⟨thread, item, rfl, free, history, pcs⟩ | ⟨thread, item, inside, history, pcs⟩ |
    ⟨history, same⟩
  · obtain ⟨mine, others⟩ := entering_update s next thread _ pcs
    have before : entering s thread = none := by rw [entering, free]; rfl
    have kept : ∀ other, entering next other = entering s other := by
      intro other
      by_cases here : other = thread
      · rw [here, mine, before]
        exact own thread item rfl
      · exact others other here
    have list : entered next = entered s := by rw [entered, history, entered]
    refine ⟨⟨fun none => ?_, fun other post is => ?_⟩, fun other post is => by rwa [kept] at is⟩
    · rw [list]
      exact receives.idle (fun other => by rw [← kept, none])
    · rw [list]
      exact receives.busy other post (by rwa [kept] at is)
  · obtain ⟨mine, others⟩ := entering_update s next thread _ pcs
    have gone : entering next thread = none := mine
    have before : entering s thread = item.receipt := by rw [entering, inside]; rfl
    have list : entered next = entered s ++ item.receipt.toList := by
      rw [entered, history, List.filterMap_append, entered]
      cases item <;> rfl
    have kept : ∀ other post, entering next other = some post → other ≠ thread ∧ entering s other = some post := by
      intro other post is
      have there : other ≠ thread := by
        rintro rfl
        rw [gone] at is
        cases is
      exact ⟨there, by rwa [others other there] at is⟩
    refine ⟨?_, fun other post is => (kept other post is).2⟩
    cases which : item.receipt with
    | none =>
        rw [which, Option.toList_none, List.append_nil] at list
        refine ⟨fun none => ?_, fun other post is => ?_⟩
        · rw [list]
          apply receives.idle
          intro other
          by_cases here : other = thread
          · rw [here, before, which]
          · rw [← others other here, none]
        · rw [list]
          exact receives.busy other post (kept other post is).2
    | some post =>
        -- The thread that pushes was the only one, and its event is in the queue now.
        rw [which] at before
        rw [which, Option.toList_some] at list
        refine ⟨fun _ => ?_, fun other post is => ?_⟩
        · rw [list]
          exact receives.busy thread post before
        · obtain ⟨there, was⟩ := kept other post is
          exact absurd (alone thread other (by rw [before]; rfl) (by rw [was]; rfl)) there
  · have kept : ∀ thread, entering next thread = entering s thread := fun thread => by rw [entering, same, entering]
    have list : entered next = entered s := by rw [entered, history, entered]
    refine ⟨⟨fun none => ?_, fun thread post is => ?_⟩, fun thread post is => by rwa [kept] at is⟩
    · rw [list]
      exact receives.idle (fun other => by rw [← kept, none])
    · rw [list]
      exact receives.busy thread post (by rwa [kept] at is)

end SynchronizedQueue

namespace Subscribers

variable {T H E : Type} [DecidableEq T] [DecidableEq H]

def Act.thread : Act T H E → T
  | .call thread _ | .step thread => thread

theorem pc_elsewhere (s next : Subscribers T H E) (act : Act T H E) (step : Step s act next) (other : T)
    (there : other ≠ act.thread) : next.pc other = s.pc other := by
  cases step <;> exact Function.update_of_ne there _ _

end Subscribers

namespace Exchange

open SynchronizedQueue (entering entered Receives)

variable {T H S E : Type} [DecidableEq H] [DecidableEq S]

def heardAt (handler : H) (received : List (Receipt (Listener H S) E)) : List (Nat × E) :=
  (received.filter (fun receipt => receipt.handler = .eventHandler handler)).map (fun receipt => (receipt.post, receipt.ev))

-- Every post, as often as the handler was subscribed when it took the lock.
def due (handler : H) (posts : List (Publication (Listener H S) E)) : List (Nat × E) :=
  posts.flatMap (fun p => List.replicate (p.audience.count (.eventHandler handler)) (p.id, p.ev))

theorem heard_append (handler : H) (first second : List (Receipt (Listener H S) E)) :
    heardAt handler (first ++ second) = heardAt handler first ++ heardAt handler second := by
  rw [heardAt, List.filter_append, List.map_append, heardAt, heardAt]

theorem heard_receipts (handler : H) (audience : List (Listener H S)) (post : Nat) (ev : E) :
    heardAt handler (audience.map (fun listener => ⟨listener, post, ev⟩)) =
      List.replicate (audience.count (.eventHandler handler)) (post, ev) := by
  induction audience with
  | nil => rfl
  | cons listener audience ih =>
      rw [List.map_cons, ← List.singleton_append, heard_append, ih, List.count_cons]
      by_cases here : listener = .eventHandler handler
      · simp [heardAt, here, List.replicate_succ]
      · simp [heardAt, here]

theorem heard_script (handler : H) (posts : List (Publication (Listener H S) E)) :
    heardAt handler (Subscribers.script posts) = due handler posts := by
  induction posts with
  | nil => rfl
  | cons p posts ih =>
      rw [Subscribers.script, List.flatMap_cons, heard_append, ← Subscribers.script, ih, Subscribers.receipts, heard_receipts]
      rfl

omit [DecidableEq H] [DecidableEq S] in
theorem hands_posting (s : Exchange T H S E) (caller : Caller T H) (handler : H) (post : Nat) (ev : E)
    (here : s.hands caller = some (handler, post, ev)) : ∃ topic next, s.table.pc caller = .posting post ev topic next ∧
      (s.table.subs topic)[next]? = some (.eventHandler handler) := by
  rw [hands] at here
  split at here
  · rename_i number event topic next posting
    split at here
    · rename_i found more
      cases here
      exact ⟨topic, next, posting, more⟩
    · cases here
  · cases here

variable [DecidableEq T]

theorem hands_received (s : Exchange T H S E) (caller : Caller T H) (handler : H) (post : Nat) (ev : E)
    (here : s.hands caller = some (handler, post, ev)) (table : Subscribers (Caller T H) (Listener H S) E)
    (step : Subscribers.Step s.table (.step caller) table) :
    table.received = s.table.received ++ [⟨.eventHandler handler, post, ev⟩] ∧
      ∃ topic next, table.pc caller = .posting post ev topic next := by
  obtain ⟨topic, next, posting, more⟩ := hands_posting s caller handler post ev here
  cases step with
  | deliver _ number event there at_ listener loop found =>
      rw [posting] at loop
      cases loop
      rw [more] at found
      cases found
      exact ⟨rfl, topic, next + 1, by simp [Subscribers.setPc]⟩
  | finish _ number event there at_ loop last =>
      rw [posting] at loop
      cases loop
      rw [more] at last
      cases last
  | lockChange _ change waits free => rw [posting] at waits; cases waits
  | lockPost _ event there waits free => rw [posting] at waits; cases waits
  | change _ change inside => rw [posting] at inside; cases inside
  | unlock _ leaves => rw [posting] at leaves; cases leaves

theorem quiet_received (s : Exchange T H S E) (caller : Caller T H) (quiet : s.hands caller = none)
    (table : Subscribers (Caller T H) (Listener H S) E) (step : Subscribers.Step s.table (.step caller) table) (handler : H) :
    heardAt handler table.received = heardAt handler s.table.received := by
  cases step with
  | deliver _ post ev topic next listener posting more =>
      cases listener with
      | eventHandler other => simp [hands, posting, more] at quiet
      | sniffer sniffer => simp [heardAt]
  | _ => rfl

-- The postEvent() calls under way belong to the loop of post() that has the lock,
-- and what the loops have handed over has come to the queues.
structure Consistent (s : Exchange T H S E) : Prop where
  delivering : Subscribers.Delivering s.table
  inFlight : ∀ handler thread post ev, entering (s.handlers handler).eventList thread = some (post, ev) →
    ∃ caller topic next, thread = poster handler caller ∧ s.table.pc caller = .posting post ev topic next
  receives : ∀ handler, Receives (s.handlers handler).eventList (heardAt handler s.table.received)

theorem entering_alone (s : Exchange T H S E) (consistent : Consistent s) (handler : H) (thread other : Poster (Caller T H))
    (mine : (entering (s.handlers handler).eventList thread).isSome)
    (its : (entering (s.handlers handler).eventList other).isSome) : other = thread := by
  obtain ⟨⟨post, ev⟩, here⟩ := Option.isSome_iff_exists.mp mine
  obtain ⟨⟨number, event⟩, there⟩ := Option.isSome_iff_exists.mp its
  obtain ⟨caller, topic, next, rfl, posting⟩ := consistent.inFlight handler thread post ev here
  obtain ⟨another, _, _, rfl, inside⟩ := consistent.inFlight handler other number event there
  rw [Subscribers.owned_alone s.table consistent.delivering.owned caller another (by rw [posting]; rfl) (by rw [inside]; rfl)]

omit [DecidableEq S] in
theorem away_entering (s : Exchange T H S E) (caller : Caller T H) (away : s.Away caller) (handler : H) :
    entering (s.handlers handler).eventList (poster handler caller) = none := by
  rw [entering, away handler]
  rfl

theorem flight_kept (s : Exchange T H S E) (consistent : Consistent s) (act : Subscribers.Act (Caller T H) (Listener H S) E)
    (table : Subscribers (Caller T H) (Listener H S) E) (away : s.Away act.thread) (step : Subscribers.Step s.table act table)
    (handler : H) (thread : Poster (Caller T H)) (post : Nat) (ev : E)
    (is : entering (s.handlers handler).eventList thread = some (post, ev)) :
    ∃ caller topic next, thread = poster handler caller ∧ table.pc caller = .posting post ev topic next := by
  obtain ⟨caller, topic, next, rfl, posting⟩ := consistent.inFlight handler thread post ev is
  have there : caller ≠ act.thread := by
    intro same
    rw [same, away_entering s act.thread away handler] at is
    cases is
  exact ⟨caller, topic, next, rfl, by rw [Subscribers.pc_elsewhere s.table table act step caller there, posting]⟩

-- When a thread comes to hand over an event nobody else is in the loop of post(), and the
-- thread itself is away from the queue.
theorem hands_nobody (s : Exchange T H S E) (consistent : Consistent s) (caller : Caller T H) (handler : H) (post : Nat) (ev : E)
    (away : s.Away caller) (here : s.hands caller = some (handler, post, ev)) (thread : Poster (Caller T H)) :
    entering (s.handlers handler).eventList thread = none := by
  cases flying : entering (s.handlers handler).eventList thread with
  | none => rfl
  | some other =>
      obtain ⟨another, _, _, rfl, inside⟩ := consistent.inFlight handler thread other.1 other.2 flying
      obtain ⟨_, _, posting, _⟩ := hands_posting s caller handler post ev here
      have same := Subscribers.owned_alone s.table consistent.delivering.owned caller another (by rw [posting]; rfl)
        (by rw [inside]; rfl)
      rw [same, away_entering s caller away handler] at flying
      cases flying

variable (evEmpty : E)

omit [DecidableEq S] in
theorem lets_own (s : Exchange T H S E) (handler : H) (thread : Poster (Caller T H)) (item : Item E)
    (next : EventHandler (Caller T H) (Item E)) (free : s.lets handler (.queue (.call thread (.put item))) = true)
    (step : EventHandler.Step (.own evEmpty) (s.handlers handler) (.queue (.call thread (.put item))) next) :
    item.receipt = none := by
  cases thread with
  | runner =>
      cases item with
      | own ev => rfl
      | posted post ev => cases free
  | other caller => cases free
  | stopper =>
      cases step with
      | queue _ _ inside _ => cases inside
      | putEmpty _ _ _ => rfl

theorem lets_kept (s : Exchange T H S E) (consistent : Consistent s) (handler : H) (act : EventHandler.Act (Caller T H) (Item E))
    (list : EventHandler (Caller T H) (Item E)) (free : s.lets handler act = true)
    (step : EventHandler.Step (.own evEmpty) (s.handlers handler) act list) :
    Receives list.eventList (heardAt handler s.table.received) ∧ ∀ thread post,
      entering list.eventList thread = some post → entering (s.handlers handler).eventList thread = some post := by
  have queue := EventHandler.step_list _ _ _ _ step
  cases act with
  | queue act =>
      refine SynchronizedQueue.receives_step _ _ act _ (consistent.receives handler) (run_one _ _ _ _ queue)
        (entering_alone s consistent handler) ?_
      rintro thread item rfl
      exact lets_own evEmpty s handler thread item list free step
  | check | returns | setShouldStop | join =>
      cases step
      exact ⟨consistent.receives handler, fun _ _ is => is⟩

theorem consistent_step (s next : Exchange T H S E) (act : Act T H S E) (consistent : Consistent s)
    (step : Step evEmpty s act next) : Consistent next := by
  have delivering := consistent.delivering
  cases step with
  | call caller call table away ready inner =>
      have flight := flight_kept s consistent (.call caller call) table away inner
      refine ⟨Subscribers.delivering_step _ _ _ delivering inner, flight, fun handler => ?_⟩
      cases inner
      exact consistent.receives handler
  | goes caller table away quiet inner =>
      have flight := flight_kept s consistent (.step caller) table away inner
      refine ⟨Subscribers.delivering_step _ _ _ delivering inner, flight, fun handler => ?_⟩
      dsimp only
      rw [quiet_received s caller quiet table inner handler]
      exact consistent.receives handler
  | postEvent caller handler post ev table list away here inner put =>
      obtain ⟨received, topic, n, goes⟩ := hands_received s caller handler post ev here table inner
      have queue := run_one _ _ _ _ (EventHandler.step_list _ _ _ _ put)
      obtain ⟨receives, only⟩ := SynchronizedQueue.receives_begins _ _ _ post ev _ (consistent.receives handler)
        (hands_nobody s consistent caller handler post ev away here) queue
      refine ⟨Subscribers.delivering_step _ _ _ delivering inner, ?_, ?_⟩
      · intro other thread number event is
        by_cases this : other = handler
        · subst this
          dsimp only at is
          rw [Function.update_self] at is
          obtain ⟨rfl, same⟩ := only thread (number, event) is
          cases same
          exact ⟨caller, topic, n, rfl, goes⟩
        · dsimp only at is
          rw [Function.update_of_ne this] at is
          exact flight_kept s consistent (.step caller) table away inner other thread number event is
      · intro other
        dsimp only
        rw [received, heard_append]
        by_cases this : other = handler
        · subst this
          rw [Function.update_self]
          simpa [heardAt] using receives
        · rw [Function.update_of_ne this]
          simpa [heardAt, Ne.symm this] using consistent.receives other
  | handler handler act list free inner =>
      have kept := lets_kept evEmpty s consistent handler act list free inner
      refine ⟨delivering, ?_, ?_⟩
      · intro other thread post ev is
        dsimp only at is
        by_cases this : other = handler
        · subst this
          rw [Function.update_self] at is
          exact consistent.inFlight other thread post ev (kept.2 thread (post, ev) is)
        · rw [Function.update_of_ne this] at is
          exact consistent.inFlight other thread post ev is
      · intro other
        dsimp only
        by_cases this : other = handler
        · subst this
          rw [Function.update_self]
          exact kept.1
        · rw [Function.update_of_ne this]
          exact consistent.receives other

theorem consistent_run (acts : List (Act T H S E)) (s : Exchange T H S E) (run : Run (Step evEmpty) launched acts s) :
    Consistent s := by
  apply run_invariant (Step evEmpty) Consistent (fun before act after => consistent_step evEmpty before after act) launched s acts
    _ run
  refine ⟨Subscribers.initial_delivering, ?_, fun handler => ⟨fun _ => rfl, ?_⟩⟩
  · intro handler thread post ev is
    cases is
  · intro thread post is
    cases is

theorem parts_step (s next : Exchange T H S E) (act : Act T H S E) (step : Step evEmpty s act next) :
    (s.table = next.table ∨ ∃ act, Subscribers.Step s.table act next.table) ∧
      ∀ handler, s.handlers handler = next.handlers handler ∨
        ∃ act, EventHandler.Step (.own evEmpty) (s.handlers handler) act (next.handlers handler) := by
  have updated : ∀ handler act (list : EventHandler (Caller T H) (Item E)),
      EventHandler.Step (.own evEmpty) (s.handlers handler) act list → ∀ other,
        s.handlers other = Function.update s.handlers handler list other ∨ ∃ act,
          EventHandler.Step (.own evEmpty) (s.handlers other) act (Function.update s.handlers handler list other) := by
    intro handler act list inner other
    by_cases here : other = handler
    · subst here
      rw [Function.update_self]
      exact .inr ⟨act, inner⟩
    · rw [Function.update_of_ne here]
      exact .inl rfl
  cases step with
  | call caller call table away ready inner => exact ⟨.inr ⟨_, inner⟩, fun _ => .inl rfl⟩
  | goes caller table away quiet inner => exact ⟨.inr ⟨_, inner⟩, fun _ => .inl rfl⟩
  | postEvent caller handler post ev table list away here inner put => exact ⟨.inr ⟨_, inner⟩, updated handler _ list put⟩
  | handler handler act list free inner => exact ⟨.inl rfl, updated handler act list inner⟩

theorem parts_run (acts : List (Act T H S E)) (s : Exchange T H S E) (run : Run (Step evEmpty) launched acts s) :
    (∃ acts, Run Subscribers.Step .initial acts s.table) ∧
      ∀ handler, ∃ acts, Run (EventHandler.Step (.own evEmpty)) .launched acts (s.handlers handler) := by
  apply run_invariant (Step evEmpty) (fun s => (∃ acts, Run Subscribers.Step .initial acts s.table) ∧
    ∀ handler, ∃ acts, Run (EventHandler.Step (.own evEmpty)) .launched acts (s.handlers handler)) _ launched s acts _ run
  · rintro before act after ⟨⟨past, reached⟩, handlers⟩ step
    obtain ⟨table, lists⟩ := parts_step evEmpty before after act step
    constructor
    · rcases table with same | ⟨act, inner⟩
      · exact ⟨past, same ▸ reached⟩
      · exact ⟨past ++ [act], run_append _ _ _ _ _ _ reached (run_single _ _ _ _ inner)⟩
    · intro handler
      obtain ⟨past, reached⟩ := handlers handler
      rcases lists handler with same | ⟨act, inner⟩
      · exact ⟨past, same ▸ reached⟩
      · exact ⟨past ++ [act], run_append _ _ _ _ _ _ reached (run_single _ _ _ _ inner)⟩
  · exact ⟨⟨[], .done _⟩, fun _ => ⟨[], .done _⟩⟩

-- The posts whose events handleEvent() has been called with, those with an event
-- in the queue, and what get() has in hand between the two.
def handledAt (s : Exchange T H S E) (handler : H) : List (Nat × E) := (s.handlers handler).handled.filterMap Item.receipt

def waitingAt (s : Exchange T H S E) (handler : H) : List (Nat × E) :=
  let list := (s.handlers handler).eventList
  (SynchronizedQueue.taken (list.pc .runner) ++ list.queue).filterMap Item.receipt

-- run() is asleep in get(), and no other call on the queue is under way.
def Idle (q : EventHandler (Caller T H) (Item E)) : Prop :=
  q.eventList.pc .runner = .asleep ∧ ∀ thread, q.eventList.pc thread = .outside ∨ q.eventList.pc thread = .asleep

omit [DecidableEq S] in
theorem entered_handled [DecidableEq E] (acts : List (EventHandler.Act (Caller T H) (Item E))) (s : Exchange T H S E) (handler : H)
    (run : Run (EventHandler.Step (.own evEmpty)) .launched acts (s.handlers handler)) :
    entered (s.handlers handler).eventList = s.handledAt handler ++ s.waitingAt handler := by
  rw [entered, EventHandler.puts_handled _ acts _ run, handledAt, waitingAt, List.append_assoc, List.filterMap_append]

theorem entered_due (s : Exchange T H S E) (consistent : Consistent s) (rests : EventSniffer.Resting s.table) (handler : H) :
    entered (s.handlers handler).eventList = due handler s.table.posts := by
  have nobody : ∀ thread, entering (s.handlers handler).eventList thread = none := by
    intro thread
    cases flying : entering (s.handlers handler).eventList thread with
    | none => rfl
    | some post =>
        obtain ⟨caller, topic, next, _, posting⟩ := consistent.inFlight handler thread post.1 post.2 flying
        exact absurd posting (rests caller post.1 post.2 topic next)
  rw [(consistent.receives handler).idle nobody, consistent.delivering.sent.idle rests, heard_script]

omit [DecidableEq S] in
theorem idle_empty [Fintype T] [Fintype H] (acts : List (EventHandler.Act (Caller T H) (Item E))) (s : Exchange T H S E)
    (handler : H) (run : Run (EventHandler.Step (.own evEmpty)) .launched acts (s.handlers handler))
    (idle : Idle (s.handlers handler)) : s.waitingAt handler = [] := by
  have attended := SynchronizedQueue.attended_run _ _ (EventHandler.list_run _ acts _ run)
  rw [waitingAt, SynchronizedQueue.attended_idle _ attended idle.2 ⟨_, idle.1⟩, idle.1]
  rfl

theorem idle_handled [Fintype T] [Fintype H] [DecidableEq E] (acts : List (Act T H S E)) (s : Exchange T H S E)
    (run : Run (Step evEmpty) launched acts s) (handler : H) (rests : EventSniffer.Resting s.table)
    (idle : Idle (s.handlers handler)) : s.handledAt handler = due handler s.table.posts := by
  obtain ⟨own, runs⟩ := (parts_run evEmpty acts s run).2 handler
  rw [← entered_due s (consistent_run evEmpty acts s run) rests handler, entered_handled evEmpty own s handler runs,
    idle_empty evEmpty own s handler runs idle, List.append_nil]

-- From post() to handleEvent(): the events of the posts are handled once for each
-- subscription that there was, and in the order of the posts, whoever posts; none
-- is missing when the handler has nothing left to do.
theorem posts_handled [Fintype T] [Fintype H] [DecidableEq E] (acts : List (Act T H S E)) (s : Exchange T H S E)
    (run : Run (Step evEmpty) launched acts s) (handler : H) :
    s.handledAt handler ++ s.waitingAt handler <+: due handler s.table.posts ∧
      (EventSniffer.Resting s.table → s.handledAt handler ++ s.waitingAt handler = due handler s.table.posts) ∧
      (EventSniffer.Resting s.table → Idle (s.handlers handler) → s.handledAt handler = due handler s.table.posts) ∧
      ∀ p ∈ s.table.posts, ∃ front, front <+: s.table.changes ∧ p.audience = Subscribers.audience front p.topic := by
  have consistent := consistent_run evEmpty acts s run
  obtain ⟨⟨past, reached⟩, handlers⟩ := parts_run evEmpty acts s run
  obtain ⟨own, runs⟩ := handlers handler
  have come : entered (s.handlers handler).eventList <+: heardAt handler s.table.received := by
    have receives := consistent.receives handler
    by_cases nobody : ∀ thread, entering (s.handlers handler).eventList thread = none
    · rw [receives.idle nobody]
    · simp only [not_forall] at nobody
      obtain ⟨thread, flying⟩ := nobody
      obtain ⟨post, is⟩ := Option.ne_none_iff_exists'.mp flying
      rw [← receives.busy thread post is]
      exact List.prefix_append _ _
  have told : heardAt handler s.table.received <+: due handler s.table.posts := by
    rw [← heard_script]
    exact ((Subscribers.received_prefix s.table consistent.delivering).filter _).map _
  rw [← entered_handled evEmpty own s handler runs]
  refine ⟨come.trans told, fun rests => entered_due s consistent rests handler, idle_handled evEmpty acts s run handler, ?_⟩
  obtain ⟨_, new, posts, asked⟩ := Subscribers.run_posted _ s.table past reached
  intro p mem
  obtain ⟨front, _, within, audience⟩ := asked p (by rwa [posts] at mem)
  exact ⟨front, within, audience⟩

theorem posts_handled_subscribed : ∃ s : Exchange Unit Bool Unit Nat, s.handledAt true = [(0, 70)] ∧
    s.handledAt true ++ s.waitingAt true = due true s.table.posts ∧ due true s.table.posts = [(0, 70), (0, 70)] := by
  let call (c : BrokerCall (Listener Bool Unit) Nat) : List (Act Unit Bool Unit Nat) := [.broker (.call (.other ()) c),
    .broker (.step (.other ()))]
  let step : Act Unit Bool Unit Nat := .broker (.step (.other ()))
  let subscribe (handler : Bool) : List (Act Unit Bool Unit Nat) :=
    call (.change (.subscribe (.eventHandler handler) 5)) ++ [step, step]
  let put (handler : Bool) : List (Act Unit Bool Unit Nat) := [step, .handler handler (.queue (.step (.other (.other ())))),
    .handler handler (.queue (.step (.other (.other ())))), .handler handler (.queue (.notify (.other (.other ())) none)),
    .handler handler (.queue (.ret (.other (.other ())) (.put (.posted 0 70))))]
  let get : List (Act Unit Bool Unit Nat) := [.handler true .check, .handler true (.queue (.call .runner .get)),
    .handler true (.queue (.step .runner)), .handler true (.queue (.step .runner)), .handler true (.queue (.step .runner)),
    .handler true (.queue (.step .runner)), .handler true (.queue (.ret .runner (.get (.posted 0 70))))]
  let acts := subscribe true ++ subscribe false ++ subscribe true ++ call (.post 70 5) ++ put true ++ put false ++ get ++
    put true ++ [step, step]
  let s : Exchange Unit Bool Unit Nat := (follow (advance 0) (fun _ _ => true) launched acts).get (by decide +kernel)
  have run : Run (Step 0) launched acts s := follow_reached (Step 0) (advance 0) (advance_step 0) _ _ _ (Option.some_get _).symm
  have rests : EventSniffer.Resting s.table := by
    intro caller post ev topic next posting
    have idle : ∀ caller, between (s.table.pc caller) = true := by decide +kernel
    have outside := idle caller
    rw [posting] at outside
    cases outside
  obtain ⟨_, whole, _⟩ := posts_handled 0 acts s run true
  exact ⟨s, by decide +kernel, whole rests, by decide +kernel⟩

end Exchange

end CameraController
