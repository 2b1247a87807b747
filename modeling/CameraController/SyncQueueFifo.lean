import CameraController.SyncQueue

set_option autoImplicit false

namespace CameraController

namespace SynchronizedQueue

open Transition Mutex Linearization

variable {T A : Type}

def critical : QueuePc A → Bool
  | .pushing _ | .notifying _ | .testing | .reading | .popping _ | .leaving _ => true
  | .outside | .locking _ | .entering | .asleep | .woken => false

def fifo [DecidableEq A] : QueueOperation A → List A → Option (List A)
  | .put data, queue => some (queue ++ [data])
  | .get _, [] => none
  | .get result, first :: rest => if result = first then some rest else none

def interface : Interface (Act T A) T (QueueCall A) (QueueOperation A) where
  begins := fun act =>
    match act with
    | .call thread call => some (thread, call)
    | _ => none
  ends := fun act =>
    match act with
    | .ret thread operation => some (thread, operation)
    | _ => none
  callOf := QueueOperation.call

def current : QueuePc A → List (QueueCall A)
  | .outside => []
  | .locking data | .pushing data | .notifying data => [.put data]
  | .entering | .testing | .asleep | .woken | .reading | .popping _ => [.get]
  | .leaving operation => [operation.call]

def pending : QueuePc A → Option (QueueOperation A)
  | .notifying data => some (.put data)
  | .leaving operation => some operation
  | _ => none

theorem pending_current (pc : QueuePc A) : (pending pc).toList.map QueueOperation.call <+: current pc := by
  cases pc <;> simp [pending, current, QueueOperation.call]

def Sees (queue : List A) : QueuePc A → Prop
  | .reading => queue ≠ []
  | .popping result => queue.head? = some result
  | _ => True

def puts (history : List (T × QueueOperation A)) : List A :=
  history.filterMap (fun entry =>
    match entry.2 with
    | .put data => some data
    | .get _ => none)

def gets (history : List (T × QueueOperation A)) : List A :=
  history.filterMap (fun entry =>
    match entry.2 with
    | .put _ => none
    | .get result => some result)

theorem puts_gets [DecidableEq A] (history : List (T × QueueOperation A)) (start queue : List A)
    (legal : replay fifo (history.map Prod.snd) start = some queue) : start ++ puts history = gets history ++ queue := by
  induction history generalizing start with
  | nil =>
      cases legal
      exact List.append_nil _
  | cons entry rest ih =>
      obtain ⟨thread, operation⟩ := entry
      rw [List.map_cons, replay] at legal
      cases operation with
      | put data =>
          have tail := ih (start ++ [data]) legal
          rwa [List.append_assoc] at tail
      | get result =>
          cases start with
          | nil => cases legal
          | cons first others =>
              by_cases same : result = first
              · subst same
                have tail := ih others (by simpa [fifo] using legal)
                simpa [puts, gets] using tail
              · simp [fifo, same] at legal

structure Orderly [DecidableEq A] (s : SynchronizedQueue T A) : Prop where
  owned : Owned critical s.mutex s.pc
  sees : ∀ thread, Sees s.queue (s.pc thread)
  legal : replay fifo (s.history.map Prod.snd) [] = some s.queue

variable [DecidableEq T]

structure Notes (s next : SynchronizedQueue T A) (act : Act T A) (added : List (T × QueueOperation A)) : Prop where
  history : next.history = s.history ++ added
  operations : ∀ thread, (pending (s.pc thread)).toList ++ byThread thread added =
    interface.returned thread [act] ++ (pending (next.pc thread)).toList
  calls : ∀ thread, current (s.pc thread) ++ interface.called thread [act] =
    (interface.returned thread [act]).map QueueOperation.call ++ current (next.pc thread)

theorem notes_moves (s next : SynchronizedQueue T A) (act : Act T A) (added : List (T × QueueOperation A)) (thread : T)
    (history : next.history = s.history ++ added)
    (operations : (pending (s.pc thread)).toList ++ byThread thread added =
      interface.returned thread [act] ++ (pending (next.pc thread)).toList)
    (calls : current (s.pc thread) ++ interface.called thread [act] =
      (interface.returned thread [act]).map QueueOperation.call ++ current (next.pc thread))
    (others : ∀ other, other ≠ thread → pending (next.pc other) = pending (s.pc other) ∧ current (next.pc other) = current (s.pc other))
    (elsewhere : ∀ other, other ≠ thread →
      byThread other added = [] ∧ interface.returned other [act] = [] ∧ interface.called other [act] = []) :
    Notes s next act added := by
  refine ⟨history, ?_, ?_⟩
  · intro other
    by_cases here : other = thread
    · rw [here]
      exact operations
    · obtain ⟨same, _⟩ := others other here
      obtain ⟨none, silent, _⟩ := elsewhere other here
      rw [none, silent, same, List.append_nil, List.nil_append]
  · intro other
    by_cases here : other = thread
    · rw [here]
      exact calls
    · obtain ⟨_, same⟩ := others other here
      obtain ⟨_, silent, quiet⟩ := elsewhere other here
      rw [quiet, silent, same, List.append_nil, List.map_nil, List.nil_append]

theorem notes_silent (s next : SynchronizedQueue T A) (act : Act T A) (history : next.history = s.history)
    (quiet : ∀ thread, interface.returned thread [act] = [] ∧ interface.called thread [act] = [])
    (same : ∀ thread, pending (next.pc thread) = pending (s.pc thread) ∧ current (next.pc thread) = current (s.pc thread)) :
    Notes s next act [] where
  history := by rw [history, List.append_nil]
  operations := by
    intro thread
    rw [(quiet thread).1, (same thread).1]
    exact List.append_nil _
  calls := by
    intro thread
    rw [(quiet thread).1, (quiet thread).2, (same thread).2]
    exact List.append_nil _

theorem step_notes (s next : SynchronizedQueue T A) (act : Act T A) (step : Step s act next) :
    ∃ added, Notes s next act added := by
  have others : ∀ (thread : T) (pc : QueuePc A) (other : T), other ≠ thread →
      pending (Function.update s.pc thread pc other) = pending (s.pc other) ∧
        current (Function.update s.pc thread pc other) = current (s.pc other) := by
    intro thread pc other there
    rw [Function.update_of_ne there]
    exact ⟨rfl, rfl⟩
  have stays : ∀ (thread : T) (pc : QueuePc A), pending pc = pending (s.pc thread) → current pc = current (s.pc thread) →
      ∀ other, pending (Function.update s.pc thread pc other) = pending (s.pc other) ∧
        current (Function.update s.pc thread pc other) = current (s.pc other) := by
    intro thread pc samePending sameCurrent other
    by_cases here : other = thread
    · rw [here, Function.update_self]
      exact ⟨samePending, sameCurrent⟩
    · exact others thread pc other here
  have inner : ∀ thread other, interface.returned other [(.step thread : Act T A)] = [] ∧
      interface.called other [(.step thread : Act T A)] = [] := fun _ _ => ⟨rfl, rfl⟩
  cases step with
  | put thread data free =>
      refine ⟨[], notes_moves s _ _ _ thread (List.append_nil _).symm ?_ ?_ (others thread _) ?_⟩
      · simp [setPc, free, pending, interface, Interface.returned, byThread]
      · simp [setPc, free, current, interface, Interface.called, Interface.returned, byThread]
      · exact fun other there => ⟨rfl, rfl, by_thread_other other thread (Ne.symm there) _⟩
  | get thread free =>
      refine ⟨[], notes_moves s _ _ _ thread (List.append_nil _).symm ?_ ?_ (others thread _) ?_⟩
      · simp [setPc, free, pending, interface, Interface.returned, byThread]
      · simp [setPc, free, current, interface, Interface.called, Interface.returned, byThread]
      · exact fun other there => ⟨rfl, rfl, by_thread_other other thread (Ne.symm there) _⟩
  | push thread data inside =>
      refine ⟨[(thread, .put data)], notes_moves s _ _ _ thread rfl ?_ ?_ (others thread _) ?_⟩
      · simp [setPc, inside, pending, interface, Interface.returned, byThread]
      · simp [setPc, inside, current, interface, Interface.called, Interface.returned, byThread]
      · exact fun other there => ⟨by_thread_other other thread (Ne.symm there) _, rfl, rfl⟩
  | popFront thread result first rest inside head =>
      refine ⟨[(thread, .get result)], notes_moves s _ _ _ thread rfl ?_ ?_ (others thread _) ?_⟩
      · simp [setPc, inside, pending, interface, Interface.returned, byThread]
      · simp [setPc, inside, current, interface, Interface.called, Interface.returned, byThread, QueueOperation.call]
      · exact fun other there => ⟨by_thread_other other thread (Ne.symm there) _, rfl, rfl⟩
  | unlock thread operation leaves =>
      refine ⟨[], notes_moves s _ _ _ thread (List.append_nil _).symm ?_ ?_ (others thread _) ?_⟩
      · simp [setPc, leaves, pending, interface, Interface.returned, byThread]
      · simp [setPc, leaves, current, interface, Interface.called, Interface.returned, byThread]
      · exact fun other there => ⟨rfl, by_thread_other other thread (Ne.symm there) _, rfl⟩
  | lock thread data waits free =>
      exact ⟨[], notes_silent s _ _ rfl (inner thread) (stays thread _ (by rw [waits]; rfl) (by rw [waits]; rfl))⟩
  | wait thread inside empty =>
      exact ⟨[], notes_silent s _ _ rfl (inner thread) (stays thread _ (by rw [inside]; rfl) (by rw [inside]; rfl))⟩
  | pass thread inside some =>
      exact ⟨[], notes_silent s _ _ rfl (inner thread) (stays thread _ (by rw [inside]; rfl) (by rw [inside]; rfl))⟩
  | front thread result rest inside head =>
      exact ⟨[], notes_silent s _ _ rfl (inner thread) (stays thread _ (by rw [inside]; rfl) (by rw [inside]; rfl))⟩
  | enter thread waits free =>
      refine ⟨[], notes_silent s _ _ rfl (inner thread) ?_⟩
      cases waits with
      | inl fresh => exact stays thread _ (by rw [fresh]; rfl) (by rw [fresh]; rfl)
      | inr again => exact stays thread _ (by rw [again]; rfl) (by rw [again]; rfl)
  | wake thread sleeps =>
      exact ⟨[], notes_silent s _ _ rfl (fun _ => ⟨rfl, rfl⟩) (stays thread _ (by rw [sleeps]; rfl) (by rw [sleeps]; rfl))⟩
  | notifyNone thread data inside nobody =>
      exact ⟨[], notes_silent s _ _ rfl (fun _ => ⟨rfl, rfl⟩) (stays thread _ (by rw [inside]; rfl) (by rw [inside]; rfl))⟩
  | notifyOne thread sleeper data inside sleeps =>
      refine ⟨[], notes_silent s _ _ rfl (fun _ => ⟨rfl, rfl⟩) ?_⟩
      intro other
      by_cases here : other = thread
      · rw [here]
        simp [setPc, inside, pending, current, QueueOperation.call]
      · simp only [setPc, Function.update_of_ne here]
        exact stays sleeper _ (by rw [sleeps]; rfl) (by rw [sleeps]; rfl) other

theorem grows (s next : SynchronizedQueue T A) (act : Act T A) (step : Step s act next) : s.history <+: next.history := by
  obtain ⟨added, notes⟩ := step_notes s next act step
  rw [notes.history]
  exact List.prefix_append _ _

-- What the history says of each thread is what can be seen of it, with the
-- operation that has taken effect but not returned.
structure Noted (labels : List (Act T A)) (s : SynchronizedQueue T A) : Prop where
  operations : ∀ thread, byThread thread s.history = interface.returned thread labels ++ (pending (s.pc thread)).toList
  calls : ∀ thread, interface.called thread labels =
    (interface.returned thread labels).map QueueOperation.call ++ current (s.pc thread)

theorem noted_run (labels : List (Act T A)) (s : SynchronizedQueue T A) (run : Run Step initial labels s) : Noted labels s := by
  apply run_history Step Noted _ initial s [] labels ⟨fun _ => rfl, fun _ => rfl⟩ run
  intro past before act after noted step
  obtain ⟨added, notes⟩ := step_notes before after act step
  constructor
  · intro thread
    rw [notes.history, by_thread_append, noted.operations, List.append_assoc, notes.operations, Interface.returned_append,
      List.append_assoc]
  · intro thread
    rw [Interface.called_append, noted.calls, List.append_assoc, notes.calls, Interface.returned_append, List.map_append,
      List.append_assoc]

theorem owned_step (s next : SynchronizedQueue T A) (act : Act T A) (owned : Owned critical s.mutex s.pc) (step : Step s act next) :
    Owned critical next.mutex next.pc := by
  cases step with
  | put thread data free => exact owned_moves _ _ _ owned thread _ (by rw [free]; rfl)
  | lock thread data waits free => exact owned_locks _ _ _ owned thread _ free rfl
  | push thread data inside => exact owned_moves _ _ _ owned thread _ (by rw [inside]; rfl)
  | notifyOne thread sleeper data inside sleeps =>
      have woken := owned_moves _ _ _ owned sleeper .woken (by rw [sleeps]; rfl)
      refine owned_moves _ _ _ woken thread _ ?_
      by_cases same : thread = sleeper
      · rw [same, sleeps] at inside
        cases inside
      · rw [Function.update_of_ne same, inside]
        rfl
  | notifyNone thread data inside nobody => exact owned_moves _ _ _ owned thread _ (by rw [inside]; rfl)
  | get thread free => exact owned_moves _ _ _ owned thread _ (by rw [free]; rfl)
  | enter thread waits free => exact owned_locks _ _ _ owned thread _ free rfl
  | wait thread inside empty => exact owned_unlocks _ _ _ owned thread _ (by rw [inside]; rfl) rfl
  | wake thread sleeps => exact owned_moves _ _ _ owned thread _ (by rw [sleeps]; rfl)
  | pass thread inside some => exact owned_moves _ _ _ owned thread _ (by rw [inside]; rfl)
  | front thread result rest inside head => exact owned_moves _ _ _ owned thread _ (by rw [inside]; rfl)
  | popFront thread result first rest inside head => exact owned_moves _ _ _ owned thread _ (by rw [inside]; rfl)
  | unlock thread operation leaves => exact owned_unlocks _ _ _ owned thread _ (by rw [leaves]; rfl) rfl

theorem sees_step (s next : SynchronizedQueue T A) (act : Act T A) (owned : Owned critical s.mutex s.pc)
    (sees : ∀ thread, Sees s.queue (s.pc thread)) (step : Step s act next) : ∀ thread, Sees next.queue (next.pc thread) := by
  have moves : ∀ (pcs : T → QueuePc A) (thread : T) (pc : QueuePc A), (∀ other, Sees s.queue (pcs other)) → Sees s.queue pc →
      ∀ other, Sees s.queue (Function.update pcs thread pc other) := by
    intro pcs thread pc all knows other
    by_cases here : other = thread
    · rw [here, Function.update_self]
      exact knows
    · rw [Function.update_of_ne here]
      exact all other
  have alone : ∀ (queue : List A) (thread : T) (pc : QueuePc A), critical (s.pc thread) = true → Sees queue pc →
      ∀ other, Sees queue (Function.update s.pc thread pc other) := by
    intro queue thread pc inside knows other
    by_cases here : other = thread
    · rw [here, Function.update_self]
      exact knows
    · rw [Function.update_of_ne here]
      cases there : s.pc other with
      | reading => exact absurd (owned_alone _ _ _ owned thread other inside (by rw [there]; rfl)) here
      | popping result => exact absurd (owned_alone _ _ _ owned thread other inside (by rw [there]; rfl)) here
      | _ => trivial
  cases step with
  | put thread data free => exact moves _ thread _ sees trivial
  | lock thread data waits free => exact moves _ thread _ sees trivial
  | push thread data inside => exact alone _ thread _ (by rw [inside]; rfl) trivial
  | notifyOne thread sleeper data inside sleeps => exact moves _ thread _ (moves _ sleeper _ sees trivial) trivial
  | notifyNone thread data inside nobody => exact moves _ thread _ sees trivial
  | get thread free => exact moves _ thread _ sees trivial
  | enter thread waits free => exact moves _ thread _ sees trivial
  | wait thread inside empty => exact moves _ thread _ sees trivial
  | wake thread sleeps => exact moves _ thread _ sees trivial
  | pass thread inside some => exact moves _ thread _ sees some
  | front thread result rest inside head => exact moves _ thread _ sees (by rw [Sees, head]; rfl)
  | popFront thread result first rest inside head => exact alone _ thread _ (by rw [inside]; rfl) trivial
  | unlock thread operation leaves => exact moves _ thread _ sees trivial

variable [DecidableEq A]

theorem legal_step (s next : SynchronizedQueue T A) (act : Act T A) (sees : ∀ thread, Sees s.queue (s.pc thread))
    (legal : replay fifo (s.history.map Prod.snd) [] = some s.queue) (step : Step s act next) :
    replay fifo (next.history.map Prod.snd) [] = some next.queue := by
  cases step with
  | push thread data inside =>
      simp only [List.map_append]
      exact replay_next fifo _ _ _ _ _ legal rfl
  | popFront thread result first rest inside head =>
      have seen := sees thread
      rw [inside, Sees, head, List.head?_cons, Option.some.injEq] at seen
      simp only [List.map_append]
      refine replay_next fifo _ _ _ _ _ legal ?_
      simp [head, fifo, seen]
  | _ => exact legal

theorem orderly_step (s next : SynchronizedQueue T A) (act : Act T A) (orderly : Orderly s) (step : Step s act next) :
    Orderly next where
  owned := owned_step s next act orderly.owned step
  sees := sees_step s next act orderly.owned orderly.sees step
  legal := legal_step s next act orderly.sees orderly.legal step

theorem orderly_run (labels : List (Act T A)) (s : SynchronizedQueue T A) (run : Run Step initial labels s) : Orderly s := by
  apply run_invariant Step Orderly (fun before act after => orderly_step before after act) initial s labels _ run
  exact ⟨fun _ => iff_of_false Bool.false_ne_true nofun, fun _ => trivial, rfl⟩

-- However its threads take turns, the queue answers as one that is used by one
-- thread at a time, in an order that the threads cannot tell from the real one.
theorem linearizable : interface.Linearizable Step (initial : SynchronizedQueue T A) fifo [] := by
  apply interface.linearizable_points Step initial fifo [] SynchronizedQueue.history
    (fun before act after => grows before after act)
  intro labels s run
  obtain ⟨operations, calls⟩ := noted_run labels s run
  refine ⟨by rw [(orderly_run labels s run).legal]; rfl, fun thread => ⟨_, operations thread⟩, ?_⟩
  intro thread
  rw [operations, calls, List.map_append]
  exact (List.prefix_append_right_inj _).mpr (pending_current _)

end SynchronizedQueue

end CameraController
