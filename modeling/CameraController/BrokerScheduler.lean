import CameraController.BrokerDelivery

set_option autoImplicit false

namespace CameraController

open Transition

-- Where the run thread is in run(). It holds mtx_delayed_events from check to
-- sleep, and at due and unlock; sleep and blocked have the deadline that
-- wait_until was given, and none for a wait.
inductive RunPc where
  | lock
  | check
  | test
  | sleep (deadline : Option Int)
  | blocked (deadline : Option Int)
  | woken
  | due
  | unlock
  | post
  | relock
  | finished
deriving DecidableEq, Repr

inductive StopPc where
  | outside
  | flagged
  | joining
deriving DecidableEq, Repr

-- notifying counts the postDelayed calls between lock.unlock() and notify_one().
structure Scheduler (A : Type) where
  broker : EventBroker A
  shouldStop : Bool
  pc : RunPc
  notifying : Nat
  stop : StopPc
deriving DecidableEq, Repr

namespace Scheduler

variable {A : Type}

def initial : Scheduler A where
  broker := .initial
  shouldStop := false
  pc := .lock
  notifying := 0
  stop := .outside

def holds : RunPc → Bool
  | .check => true
  | .test => true
  | .sleep _ => true
  | .due => true
  | .unlock => true
  | _ => false

-- One step of the run thread; now is what system_clock::now() answers at due.
def runStep (s : Scheduler A) (now : Int) : Option (Scheduler A) :=
  match s.pc with
  | .lock => some { s with pc := .check }
  | .check => some { s with pc := if s.shouldStop then .finished else .test }
  | .test => some { s with pc := .sleep (s.broker.delayedEvents.head?.map DelayedEvent.deadline) }
  | .sleep deadline => some { s with pc := .blocked deadline }
  | .blocked _ => none
  | .woken => some { s with pc := .due }
  | .due =>
      let popped := s.broker.pop now
      some { s with broker := popped, pc := if popped.dev.isSome then .unlock else .check }
  | .unlock => some { s with pc := .post }
  | .post =>
      match s.broker.dev with
      | some dev => some { s with broker := s.broker.postDev dev, pc := .relock }
      | none => none
  | .relock => some { s with pc := .check }
  | .finished => none

-- notify_one wakes the run thread when it is blocked, and is lost otherwise.
def notified : RunPc → RunPc
  | .blocked _ => .woken
  | pc => pc

inductive Act (A : Type) where
  | run (now : Int)
  | wake
  | postDelayed (ev : A) (topic : UInt8) (delayMs : UInt32) (now : Int)
  | notify
  | removeDelayed (id : UInt16)
  | clearDelayedEvents
  | setShouldStop
  | notifyStop
deriving DecidableEq, Repr

-- wake is a timeout or a spurious wake-up. The critical sections of the callers
-- are taken when the run thread does not hold the lock.
inductive Step : Scheduler A → Act A → Scheduler A → Prop where
  | run (s next : Scheduler A) (now : Int) (moves : s.runStep now = some next) : Step s (.run now) next
  | wake (s : Scheduler A) (deadline : Option Int) (asleep : s.pc = .blocked deadline) : Step s .wake { s with pc := .woken }
  | postDelayed (s : Scheduler A) (ev : A) (topic : UInt8) (delayMs : UInt32) (now : Int) (free : holds s.pc = false) :
      Step s (.postDelayed ev topic delayMs now)
        { s with broker := (s.broker.postDelayed ev topic delayMs now).2, notifying := s.notifying + 1 }
  | notify (s : Scheduler A) (n : Nat) (pending : s.notifying = n + 1) :
      Step s .notify { s with notifying := n, pc := notified s.pc }
  | removeDelayed (s : Scheduler A) (id : UInt16) (free : holds s.pc = false) :
      Step s (.removeDelayed id) { s with broker := s.broker.removeDelayed id }
  | clearDelayedEvents (s : Scheduler A) (free : holds s.pc = false) :
      Step s .clearDelayedEvents { s with broker := s.broker.clearDelayedEvents }
  | setShouldStop (s : Scheduler A) (fresh : s.stop = .outside) :
      Step s .setShouldStop { s with shouldStop := true, stop := .flagged }
  | notifyStop (s : Scheduler A) (set : s.stop = .flagged) :
      Step s .notifyStop { s with pc := notified s.pc, stop := .joining }

-- The step relation as a function, to run examples with.
def advance (s : Scheduler A) : Act A → Option (Scheduler A)
  | .run now => s.runStep now
  | .wake =>
      match s.pc with
      | .blocked _ => some { s with pc := .woken }
      | _ => none
  | .postDelayed ev topic delayMs now =>
      if holds s.pc then none
      else some { s with broker := (s.broker.postDelayed ev topic delayMs now).2, notifying := s.notifying + 1 }
  | .notify =>
      match s.notifying with
      | n + 1 => some { s with notifying := n, pc := notified s.pc }
      | 0 => none
  | .removeDelayed id => if holds s.pc then none else some { s with broker := s.broker.removeDelayed id }
  | .clearDelayedEvents => if holds s.pc then none else some { s with broker := s.broker.clearDelayedEvents }
  | .setShouldStop => if s.stop = .outside then some { s with shouldStop := true, stop := .flagged } else none
  | .notifyStop => if s.stop = .flagged then some { s with pc := notified s.pc, stop := .joining } else none

theorem advance_step (s next : Scheduler A) (act : Act A) (run : s.advance act = some next) : Step s act next := by
  have free : ∀ t : Scheduler A, (if holds s.pc then none else some t) = some next → holds s.pc = false ∧ t = next := by
    intro t taken
    cases held : holds s.pc with
    | true => rw [held, if_pos rfl] at taken; cases taken
    | false => rw [held, if_neg Bool.false_ne_true] at taken; exact ⟨rfl, Option.some.inj taken⟩
  cases act with
  | run now => exact .run s next now run
  | wake =>
      cases asleep : s.pc with
      | blocked deadline =>
          simp only [advance, asleep, Option.some.injEq] at run
          subst run
          exact .wake s deadline asleep
      | _ => simp [advance, asleep] at run
  | postDelayed ev topic delayMs now =>
      obtain ⟨unlocked, rfl⟩ := free _ run
      exact .postDelayed s ev topic delayMs now unlocked
  | notify =>
      cases pending : s.notifying with
      | zero => simp [advance, pending] at run
      | succ n =>
          simp only [advance, pending, Option.some.injEq] at run
          subst run
          exact .notify s n pending
  | removeDelayed id =>
      obtain ⟨unlocked, rfl⟩ := free _ run
      exact .removeDelayed s id unlocked
  | clearDelayedEvents =>
      obtain ⟨unlocked, rfl⟩ := free _ run
      exact .clearDelayedEvents s unlocked
  | setShouldStop =>
      by_cases fresh : s.stop = .outside
      · rw [advance, if_pos fresh] at run
        cases run
        exact .setShouldStop s fresh
      · rw [advance, if_neg fresh] at run
        cases run
  | notifyStop =>
      by_cases set : s.stop = .flagged
      · rw [advance, if_pos set] at run
        cases run
        exact .notifyStop s set
      · rw [advance, if_neg set] at run
        cases run

def advanceAll (check : Scheduler A → Act A → Bool) (s : Scheduler A) : List (Act A) → Option (Scheduler A)
  | [] => some s
  | act :: acts =>
      match s.advance act with
      | some next => if check s act then advanceAll check next acts else none
      | none => none

theorem advance_all_run (check : Scheduler A → Act A → Bool) (condition : Scheduler A → Act A → Scheduler A → Prop)
    (sound : ∀ s act next, check s act = true → condition s act next) (s last : Scheduler A) (acts : List (Act A))
    (run : advanceAll check s acts = some last) : Run (Meeting Step condition) s acts last := by
  induction acts generalizing s with
  | nil => cases run; exact .done _
  | cons act acts ih =>
      rw [advanceAll] at run
      cases first : s.advance act with
      | none => rw [first] at run; cases run
      | some next =>
          rw [first] at run
          dsimp only at run
          cases checked : check s act with
          | true =>
              rw [checked, if_pos rfl] at run
              exact .next s next last act acts ⟨advance_step s next act first, sound s act next checked⟩ (ih next run)
          | false => rw [checked] at run; cases run

theorem advance_all_reached (s last : Scheduler A) (acts : List (Act A)) (run : advanceAll (fun _ _ => true) s acts = some last) :
    Run Step s acts last :=
  run_mono _ _ (fun _ _ _ step => step.1) _ _ _
    (advance_all_run _ (fun _ _ _ => True) (fun _ _ _ _ => trivial) s last acts run)

def Carried (s : Scheduler A) : Prop := s.broker.dev.isSome = true ↔ s.pc = .unlock ∨ s.pc = .post

theorem notified_cases (pc : RunPc) : notified pc = pc ∧ (∀ deadline, pc ≠ .blocked deadline) ∨
    notified pc = .woken ∧ ∃ deadline, pc = .blocked deadline := by
  cases pc with
  | blocked deadline => exact .inr ⟨rfl, deadline, rfl⟩
  | _ => exact .inl ⟨rfl, fun _ => RunPc.noConfusion⟩

theorem carried_notified (pc : RunPc) (dev : Option (DelayedEvent A))
    (carried : dev.isSome = true ↔ pc = .unlock ∨ pc = .post) : dev.isSome = true ↔ notified pc = .unlock ∨ notified pc = .post := by
  cases pc <;> simpa [notified] using carried

theorem posting_moves (s next : Scheduler A) (now : Int) (posting : s.pc = .post) (moves : s.runStep now = some next) :
    ∃ dev, s.broker.dev = some dev ∧ next = { s with broker := s.broker.postDev dev, pc := .relock } := by
  rw [runStep, posting] at moves
  dsimp only at moves
  split at moves
  · rename_i dev held
    exact ⟨dev, held, (Option.some.inj moves).symm⟩
  · cases moves

-- The critical sections are those of the coarser model, in the same order.
theorem step_refines (s next : Scheduler A) (act : Act A) (carried : Carried s) (step : Step s act next) :
    Carried next ∧ ∃ actions, Run EventBroker.Step s.broker actions next.broker := by
  cases step with
  | run _ now moves =>
      obtain ⟨broker, shouldStop, pc, notifying, stop⟩ := s
      cases pc with
      | due =>
          cases moves
          have idle : broker.dev = none := by
            cases held : broker.dev with
            | none => rfl
            | some dev =>
                have here := carried.mp (by simp [held])
                simp at here
          refine ⟨?_, [.pop now], run_single _ _ _ _ (.pop broker now idle)⟩
          unfold Carried
          dsimp only
          cases (broker.pop now).dev <;> simp
      | post =>
          obtain ⟨dev, held, rfl⟩ := posting_moves _ next now rfl moves
          exact ⟨by simp [Carried, EventBroker.postDev], [.post], run_single _ _ _ _ (.post broker dev held)⟩
      | check =>
          cases moves
          refine ⟨?_, [], .done broker⟩
          unfold Carried at carried ⊢
          cases shouldStop <;> simpa using carried
      | blocked deadline => cases moves
      | finished => cases moves
      | lock => cases moves; exact ⟨by simpa [Carried] using carried, [], .done broker⟩
      | test => cases moves; exact ⟨by simpa [Carried] using carried, [], .done broker⟩
      | sleep deadline => cases moves; exact ⟨by simpa [Carried] using carried, [], .done broker⟩
      | woken => cases moves; exact ⟨by simpa [Carried] using carried, [], .done broker⟩
      | unlock => cases moves; exact ⟨by simpa [Carried] using carried, [], .done broker⟩
      | relock => cases moves; exact ⟨by simpa [Carried] using carried, [], .done broker⟩
  | wake deadline asleep => exact ⟨by simpa [Carried, asleep] using carried, [], .done _⟩
  | postDelayed ev topic delayMs now free => exact ⟨carried, [_], run_single _ _ _ _ (.postDelayed s.broker ev topic delayMs now)⟩
  | notify n pending => exact ⟨carried_notified s.pc s.broker.dev carried, [], .done _⟩
  | removeDelayed id free => exact ⟨carried, [_], run_single _ _ _ _ (.removeDelayed s.broker id)⟩
  | clearDelayedEvents free => exact ⟨carried, [_], run_single _ _ _ _ (.clearDelayedEvents s.broker)⟩
  | setShouldStop fresh => exact ⟨carried, [], .done _⟩
  | notifyStop set => exact ⟨carried_notified s.pc s.broker.dev carried, [], .done _⟩

theorem run_refines (acts : List (Act A)) (s : Scheduler A) (run : Run Step initial acts s) :
    ∃ actions, EventBroker.Runs actions s.broker := by
  obtain ⟨actions, broker, reached, _, rfl⟩ := run_simulates Step EventBroker.Step
    (fun s broker => Carried s ∧ s.broker = broker)
    (by
      rintro s _ act next ⟨carried, rfl⟩ step
      obtain ⟨still, actions, steps⟩ := step_refines s next act carried step
      exact ⟨actions, next.broker, steps, still, rfl⟩)
    initial s EventBroker.initial acts ⟨by simp [Carried, initial, EventBroker.initial], rfl⟩ run
  exact ⟨actions, reached⟩

theorem run_ordered (acts : List (Act A)) (s : Scheduler A) (run : Run Step initial acts s) :
    s.broker.delayedEvents.Pairwise (fun first second => first.deadline ≤ second.deadline) := by
  obtain ⟨actions, reached⟩ := run_refines acts s run
  exact (EventBroker.runs_delivering actions s.broker reached).sorted.imp (fun before => EventBroker.before_le _ _ before)

def Covers (deadline : Option Int) (events : List (DelayedEvent A)) : Prop :=
  ∃ wakeUp, deadline = some wakeUp ∧ ∀ dev ∈ events, wakeUp ≤ dev.deadline

-- What keeps the run thread from oversleeping: it chose its wait under the lock,
-- and whoever has posted since then is about to wake it.
structure Watchful (s : Scheduler A) : Prop where
  chosen : ∀ deadline, s.pc = .sleep deadline → deadline = s.broker.delayedEvents.head?.map DelayedEvent.deadline
  woken : ∀ deadline, s.pc = .blocked deadline →
    0 < s.notifying ∨ s.broker.delayedEvents = [] ∨ Covers deadline s.broker.delayedEvents

theorem chosen_covers (events : List (DelayedEvent A))
    (ordered : events.Pairwise (fun first second => first.deadline ≤ second.deadline)) :
    events = [] ∨ Covers (events.head?.map DelayedEvent.deadline) events := by
  cases events with
  | nil => exact .inl rfl
  | cons front rest =>
      refine .inr ⟨front.deadline, rfl, ?_⟩
      intro dev member
      cases List.mem_cons.mp member with
      | inl same => exact Int.le_of_eq (by rw [same])
      | inr later => exact (List.pairwise_cons.mp ordered).1 dev later

theorem fewer_covered (deadline : Option Int) (events fewer : List (DelayedEvent A)) (sub : fewer.Sublist events)
    (covered : events = [] ∨ Covers deadline events) : fewer = [] ∨ Covers deadline fewer := by
  cases covered with
  | inl none => exact .inl (List.sublist_nil.mp (none ▸ sub))
  | inr covers =>
      obtain ⟨wakeUp, same, least⟩ := covers
      exact .inr ⟨wakeUp, same, fun dev member => least dev (sub.subset member)⟩

theorem watchful_step (s next : Scheduler A) (act : Act A)
    (ordered : s.broker.delayedEvents.Pairwise (fun first second => first.deadline ≤ second.deadline)) (watchful : Watchful s)
    (step : Step s act next) : Watchful next := by
  have awake : ∀ t : Scheduler A, (∀ deadline, t.pc ≠ .sleep deadline) → (∀ deadline, t.pc ≠ .blocked deadline) → Watchful t :=
    fun t notSleep notBlocked =>
      ⟨fun deadline same => absurd same (notSleep deadline), fun deadline same => absurd same (notBlocked deadline)⟩
  have unlocked : holds s.pc = false → ∀ deadline, s.pc ≠ .sleep deadline := by
    intro free deadline same
    rw [same] at free
    cases free
  have notify : ∀ t : Scheduler A, t.pc = notified s.pc → t.broker = s.broker → Watchful t := by
    intro t pc broker
    cases notified_cases s.pc with
    | inl same =>
        rw [same.1] at pc
        refine ⟨?_, fun deadline blocked => absurd (pc.symm.trans blocked) (same.2 deadline)⟩
        rw [pc, broker]
        exact watchful.chosen
    | inr woken =>
        rw [woken.1] at pc
        exact awake t (by rw [pc]; exact fun _ => RunPc.noConfusion) (by rw [pc]; exact fun _ => RunPc.noConfusion)
  cases step with
  | run _ now moves =>
      obtain ⟨broker, shouldStop, pc, notifying, stop⟩ := s
      cases pc with
      | test =>
          cases moves
          exact ⟨fun deadline same => by cases same; rfl, fun deadline same => nomatch same⟩
      | sleep chosen =>
          cases moves
          refine ⟨fun deadline same => (nomatch same), ?_⟩
          intro deadline same
          cases same
          rw [watchful.chosen chosen rfl]
          exact .inr (chosen_covers broker.delayedEvents ordered)
      | check =>
          cases moves
          apply awake <;> intro deadline <;> cases shouldStop <;> exact RunPc.noConfusion
      | due =>
          cases moves
          apply awake <;> intro deadline <;> dsimp only <;> split <;> exact RunPc.noConfusion
      | post =>
          obtain ⟨dev, held, rfl⟩ := posting_moves _ next now rfl moves
          exact awake _ (fun _ => RunPc.noConfusion) (fun _ => RunPc.noConfusion)
      | blocked deadline => cases moves
      | finished => cases moves
      | lock => cases moves; exact awake _ (fun _ => RunPc.noConfusion) (fun _ => RunPc.noConfusion)
      | woken => cases moves; exact awake _ (fun _ => RunPc.noConfusion) (fun _ => RunPc.noConfusion)
      | unlock => cases moves; exact awake _ (fun _ => RunPc.noConfusion) (fun _ => RunPc.noConfusion)
      | relock => cases moves; exact awake _ (fun _ => RunPc.noConfusion) (fun _ => RunPc.noConfusion)
  | wake deadline asleep => exact awake _ (fun _ => RunPc.noConfusion) (fun _ => RunPc.noConfusion)
  | postDelayed ev topic delayMs now free =>
      exact ⟨fun deadline same => absurd same (unlocked free deadline), fun _ _ => .inl (Nat.succ_pos _)⟩
  | notify n pending => exact notify _ rfl rfl
  | removeDelayed id free =>
      refine ⟨fun deadline same => absurd same (unlocked free deadline), ?_⟩
      intro deadline same
      cases watchful.woken deadline same with
      | inl posting => exact .inl posting
      | inr covered => exact .inr (fewer_covered deadline _ _ (EventBroker.erase_id_sublist id _) covered)
  | clearDelayedEvents free =>
      exact ⟨fun deadline same => absurd same (unlocked free deadline), fun _ _ => .inr (.inl rfl)⟩
  | setShouldStop fresh => exact ⟨watchful.chosen, watchful.woken⟩
  | notifyStop set => exact notify _ rfl rfl

theorem never_oversleeps (acts : List (Act A)) (s : Scheduler A) (run : Run Step initial acts s) (deadline : Option Int)
    (blocked : s.pc = .blocked deadline) :
    0 < s.notifying ∨ s.broker.delayedEvents = [] ∨ Covers deadline s.broker.delayedEvents := by
  have watchful : Watchful s := by
    apply run_along Step Watchful initial acts ⟨fun _ same => (nomatch same), fun _ same => nomatch same⟩ _ acts s
      List.prefix_rfl run
    intro past before act after _ earlier watchful step
    exact watchful_step before after act (run_ordered past before earlier) watchful step
  exact watchful.woken deadline blocked

theorem never_oversleeps_waiting : ∃ s : Scheduler String,
    Run Step initial [.postDelayed "late" 0 9 0, .notify, .run 0, .run 0, .run 0, .run 0] s ∧
      s.pc = .blocked (some 9000000) ∧
      (0 < s.notifying ∨ s.broker.delayedEvents = [] ∨ Covers (some 9000000) s.broker.delayedEvents) := by
  let last : Scheduler String := { (initial : Scheduler String) with
    broker := (EventBroker.initial.postDelayed "late" 0 9 0).2
    pc := .blocked (some 9000000) }
  have run : Run Step initial [.postDelayed "late" 0 9 0, .notify, .run 0, .run 0, .run 0, .run 0] last :=
    advance_all_reached _ _ _ (by decide)
  exact ⟨last, run, rfl, never_oversleeps _ last run _ rfl⟩

end Scheduler

end CameraController
