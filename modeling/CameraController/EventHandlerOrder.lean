import CameraController.EventHandlerStop

set_option autoImplicit false

namespace CameraController

namespace SynchronizedQueue

variable {T A : Type}

def taken : QueuePc A → List A
  | .leaving (.get result) => [result]
  | _ => []

theorem gets_append (first second : List (T × QueueOperation A)) : gets (first ++ second) = gets first ++ gets second :=
  List.filterMap_append

variable [DecidableEq T]

theorem gets_step (s next : SynchronizedQueue T A) (act : Act T A) (step : Step s act next) (thread : T)
    (alone : ∀ other, current (s.pc other) = [.get] → other = thread) (goes : ∀ operation, act ≠ .ret thread operation) :
    ∃ added, gets next.history = gets s.history ++ added ∧ taken (next.pc thread) = taken (s.pc thread) ++ added := by
  have quiet : ∀ (pcs : T → QueuePc A) (moved : T) (pc : QueuePc A), taken pc = taken (pcs moved) →
      taken (Function.update pcs moved pc thread) = taken (pcs thread) := by
    intro pcs moved pc same
    by_cases here : thread = moved
    · rw [here, Function.update_self, same]
    · rw [Function.update_of_ne here]
  have silent : next.history = s.history → taken (next.pc thread) = taken (s.pc thread) →
      ∃ added, gets next.history = gets s.history ++ added ∧ taken (next.pc thread) = taken (s.pc thread) ++ added := by
    intro history same
    exact ⟨[], by rw [history, List.append_nil], by rw [same, List.append_nil]⟩
  cases step with
  | put moved data free => exact silent rfl (quiet _ moved _ (by rw [free]; rfl))
  | lock moved data waits free => exact silent rfl (quiet _ moved _ (by rw [waits]; rfl))
  | push moved data inside =>
      refine ⟨[], by simp [gets], ?_⟩
      rw [List.append_nil]
      exact quiet _ moved _ (by rw [inside]; rfl)
  | notifyOne moved sleeper data inside sleeps =>
      have woken := quiet s.pc sleeper .woken (by rw [sleeps]; rfl)
      refine silent rfl ((quiet _ moved _ ?_).trans woken)
      have different : moved ≠ sleeper := by
        rintro rfl
        rw [inside] at sleeps
        cases sleeps
      simp [setPc, Function.update_of_ne different, inside, taken]
  | notifyNone moved data inside nobody => exact silent rfl (quiet _ moved _ (by rw [inside]; rfl))
  | get moved free => exact silent rfl (quiet _ moved _ (by rw [free]; rfl))
  | enter moved waits free =>
      refine silent rfl (quiet _ moved _ ?_)
      rcases waits with fresh | again
      · rw [fresh]
        rfl
      · rw [again]
        rfl
  | wait moved inside empty => exact silent rfl (quiet _ moved _ (by rw [inside]; rfl))
  | wake moved sleeps => exact silent rfl (quiet _ moved _ (by rw [sleeps]; rfl))
  | pass moved inside some => exact silent rfl (quiet _ moved _ (by rw [inside]; rfl))
  | front moved result rest inside head => exact silent rfl (quiet _ moved _ (by rw [inside]; rfl))
  | popFront moved result first rest inside head =>
      have mine : moved = thread := alone moved (by rw [inside]; rfl)
      subst mine
      exact ⟨[result], gets_append _ _, by simp [setPc, inside, taken]⟩
  | unlock moved operation leaves =>
      have other : thread ≠ moved := fun same => goes operation (by rw [same])
      exact silent rfl (by simp [setPc, Function.update_of_ne other])

end SynchronizedQueue

namespace EventHandler

open Transition Linearization SynchronizedQueue

variable {T A : Type} [DecidableEq T] (evEmpty : A)

def Handles (s : EventHandler T A) : Prop := gets s.eventList.history = s.handled ++ taken (s.eventList.pc .runner)

theorem handles_step (s next : EventHandler T A) (act : Act T A) (wired : Wired evEmpty s) (handles : Handles s)
    (step : Step evEmpty s act next) : Handles next := by
  have follows : ∀ act, SynchronizedQueue.Step s.eventList act next.eventList → (∀ operation, act ≠ .ret .runner operation) →
      next.handled = s.handled → Handles next := by
    intro act inner goes same
    obtain ⟨added, history, hand⟩ := gets_step s.eventList next.eventList act inner .runner (wired_get evEmpty s wired) goes
    rw [Handles, history, hand, handles, same, List.append_assoc]
  cases step with
  | queue act list free inner =>
      refine follows act inner ?_ rfl
      rintro operation rfl
      cases free
  | fetch list ready inner => exact follows _ inner nofun rfl
  | post ev own list handled inner => exact follows _ inner nofun rfl
  | putEmpty list flag inner => exact follows _ inner nofun rfl
  | emptyPut list putting inner => exact follows _ inner nofun rfl
  | fetched ev list waits inner =>
      obtain ⟨leaves, outside, history⟩ := current_ended s.eventList list .runner _ inner
      rw [Handles, leaves] at handles
      simp only [Handles, history, outside]
      rw [handles]
      exact (List.append_nil _).symm
  | posted ev own list handled inner =>
      obtain ⟨leaves, outside, history⟩ := current_ended s.eventList list .runner _ inner
      rw [Handles, leaves] at handles
      simp only [Handles, history, outside]
      exact handles
  | check | returns | setShouldStop | join => exact handles

structure Counted (s : EventHandler T A) : Prop where
  bound : s.shouldStop = true → s.handled.length ≤ s.earlier + 1
  waits : s.shouldStop = true → s.run = .fetching ∨ s.run = .getting → s.handled.length ≤ s.earlier

theorem counted_step (s next : EventHandler T A) (act : Act T A) (counted : Counted s) (step : Step evEmpty s act next) :
    Counted next := by
  obtain ⟨bound, waits⟩ := counted
  cases step with
  | queue act list free inner => exact ⟨bound, waits⟩
  | check loop =>
      refine ⟨bound, fun set runs => ?_⟩
      dsimp only at set runs
      rw [set] at runs
      rcases runs with fetching | getting
      · cases fetching
      · cases getting
  | fetch list ready inner => exact ⟨bound, fun set _ => waits set (.inl ready)⟩
  | fetched ev list waiting inner =>
      refine ⟨fun set => ?_, fun _ runs => ?_⟩
      · have before := waits set (.inr waiting)
        simp only [List.length_append, List.length_singleton]
        omega
      · rcases runs with fetching | getting
        · cases fetching
        · cases getting
  | post ev own list handled inner => exact ⟨bound, waits⟩
  | posted ev own list handled inner => exact ⟨bound, waits⟩
  | returns ev handled done =>
      refine ⟨bound, fun _ runs => ?_⟩
      rcases runs with fetching | getting
      · cases fetching
      · cases getting
  | setShouldStop fresh => exact ⟨fun _ => Nat.le_succ _, fun _ _ => Nat.le_refl _⟩
  | putEmpty list flag inner => exact ⟨bound, waits⟩
  | emptyPut list putting inner => exact ⟨bound, waits⟩
  | join joining ended => exact ⟨bound, waits⟩

theorem handles_run (acts : List (Act T A)) (s : EventHandler T A) (run : Run (Step evEmpty) launched acts s) :
    Wired evEmpty s ∧ Handles s ∧ Counted s := by
  apply run_invariant (Step evEmpty) (fun s => Wired evEmpty s ∧ Handles s ∧ Counted s) _ launched s acts _ run
  · rintro before act after ⟨wired, handles, counted⟩ step
    exact ⟨wired_step evEmpty before after act wired step, handles_step evEmpty before after act wired handles step,
      counted_step evEmpty before after act counted step⟩
  · exact ⟨⟨rfl, rfl, fun _ => nofun⟩, rfl, nofun, nofun⟩

theorem puts_handled [DecidableEq A] (acts : List (Act T A)) (s : EventHandler T A) (run : Run (Step evEmpty) launched acts s) :
    puts s.eventList.history = s.handled ++ taken (s.eventList.pc .runner) ++ s.eventList.queue := by
  have order := puts_gets _ _ _ (orderly_run _ s.eventList (list_run evEmpty acts s run)).legal
  rwa [List.nil_append, (handles_run evEmpty acts s run).2.1] at order

-- The events are handled in the order in which they were put, none of them twice and
-- none left out, and what a thread has posted is there in its order; once stop() has
-- set the flag, one more is handled at most.
theorem handled_in_order [DecidableEq A] (acts : List (Act T A)) (s : EventHandler T A)
    (run : Run (Step evEmpty) launched acts s) :
    puts s.eventList.history = s.handled ++ taken (s.eventList.pc .runner) ++ s.eventList.queue ∧
      (∀ thread, interface.returned thread (acts.filterMap Act.onQueue) <+: byThread thread s.eventList.history) ∧
      (s.shouldStop = true → s.handled.length ≤ s.earlier + 1) := by
  refine ⟨puts_handled evEmpty acts s run, ?_, (handles_run evEmpty acts s run).2.2.bound⟩
  intro thread
  rw [(noted_run _ s.eventList (list_run evEmpty acts s run)).operations thread]
  exact List.prefix_append _ _

theorem handled_in_order_stopping : ∃ s : EventHandler (Fin 2) Nat, s.handled = [7] ∧ s.eventList.queue = [8, 0] ∧
    puts s.eventList.history = s.handled ++ taken (s.eventList.pc .runner) ++ s.eventList.queue ∧
    s.handled.length ≤ s.earlier + 1 := by
  let put (thread : Poster (Fin 2)) (ev : Nat) : List (Act (Fin 2) Nat) := [.queue (.call thread (.put ev)), .queue (.step thread),
    .queue (.step thread), .queue (.notify thread none), .queue (.ret thread (.put ev))]
  let acts : List (Act (Fin 2) Nat) := put (.other 0) 7 ++ [.check, .queue (.call .runner .get), .queue (.step .runner),
    .setShouldStop, .queue (.step .runner), .queue (.step .runner), .queue (.step .runner), .queue (.ret .runner (.get 7))] ++
    put (.other 1) 8 ++ put .stopper 0
  let s := (follow (advance 0) (fun _ _ => true) launched acts).get (by decide +kernel)
  have run : Run (Step 0) launched acts s := follow_reached (Step 0) (advance 0) (advance_step 0) _ _ _ (Option.some_get _).symm
  obtain ⟨order, _, bound⟩ := handled_in_order 0 acts s run
  exact ⟨s, by decide +kernel, by decide +kernel, order, bound (by decide +kernel)⟩

end EventHandler

end CameraController
