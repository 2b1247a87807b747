import CameraController.EventHandler
import CameraController.SyncQueueWakes

set_option autoImplicit false

namespace CameraController

namespace SynchronizedQueue

open Transition Mutex Linearization

variable {T A : Type}

variable [DecidableEq T]

theorem current_kept (s next : SynchronizedQueue T A) (act : Act T A) (step : Step s act next) (thread : T)
    (returned : interface.returned thread [act] = []) (called : interface.called thread [act] = []) :
    current (next.pc thread) = current (s.pc thread) := by
  obtain ⟨added, notes⟩ := step_notes s next act step
  have calls := notes.calls thread
  rw [returned, called, List.append_nil] at calls
  exact calls.symm

theorem current_began (s next : SynchronizedQueue T A) (thread : T) (call : QueueCall A)
    (step : Step s (.call thread call) next) : current (s.pc thread) = [] ∧ current (next.pc thread) = [call] := by
  cases step with
  | put _ data free => simp [free, setPc, current]
  | get _ free => simp [free, setPc, current]

theorem current_ended (s next : SynchronizedQueue T A) (thread : T) (operation : QueueOperation A)
    (step : Step s (.ret thread operation) next) : s.pc thread = .leaving operation ∧ next.pc thread = .outside ∧
      next.history = s.history := by
  cases step with
  | unlock _ _ leaves => exact ⟨leaves, by simp [setPc], rfl⟩

theorem emptied (s next : SynchronizedQueue T A) (act : Act T A) (step : Step s act next) (some : s.queue ≠ [])
    (empty : next.queue = []) : ∃ thread, current (s.pc thread) = [.get] ∧ (pending (next.pc thread)).isSome = true := by
  cases step with
  | push thread data inside => simp at empty
  | popFront thread result first rest inside head => exact ⟨thread, by rw [inside]; rfl, by simp [setPc, pending]⟩
  | _ => exact absurd empty some

theorem pending_before (s next : SynchronizedQueue T A) (act : Act T A) (step : Step s act next) (thread : T)
    (returned : interface.returned thread [act] = []) (none : pending (next.pc thread) = none) :
    pending (s.pc thread) = .none := by
  obtain ⟨added, notes⟩ := step_notes s next act step
  have operations := notes.operations thread
  rw [returned, none, Option.toList_none, List.append_nil, List.append_eq_nil_iff] at operations
  exact Option.toList_eq_nil_iff.mp operations.1

theorem pushed_some (s next : SynchronizedQueue T A) (act : Act T A) (step : Step s act next) (thread : T)
    (puts : current (s.pc thread) ≠ [.get]) (before : pending (s.pc thread) = none) (after : pending (next.pc thread) ≠ none) :
    next.queue ≠ [] := by
  have others : ∀ (moved : T) (pc : QueuePc A), pending pc = none → pending (Function.update s.pc moved pc thread) = none := by
    intro moved pc none
    by_cases here : thread = moved
    · rw [here, Function.update_self]
      exact none
    · rw [Function.update_of_ne here]
      exact before
  cases step with
  | push moved data inside => simp
  | put moved data free => exact absurd (others moved _ rfl) after
  | lock moved data waits free => exact absurd (others moved _ rfl) after
  | get moved free => exact absurd (others moved _ rfl) after
  | enter moved waits free => exact absurd (others moved _ rfl) after
  | wait moved inside empty => exact absurd (others moved _ rfl) after
  | wake moved sleeps => exact absurd (others moved _ rfl) after
  | pass moved inside some => exact absurd (others moved _ rfl) after
  | front moved result rest inside head => exact absurd (others moved _ rfl) after
  | unlock moved operation leaves => exact absurd (others moved _ rfl) after
  | popFront moved result first rest inside head =>
      by_cases here : thread = moved
      · subst here
        rw [inside] at puts
        exact absurd rfl puts
      · refine absurd ?_ after
        simpa [setPc, Function.update_of_ne here] using before
  | notifyNone moved data inside nobody =>
      by_cases here : thread = moved
      · subst here
        rw [inside] at before
        cases before
      · refine absurd ?_ after
        simpa [setPc, Function.update_of_ne here] using before
  | notifyOne moved sleeper data inside sleeps =>
      by_cases here : thread = moved
      · subst here
        rw [inside] at before
        cases before
      · refine absurd ?_ after
        simpa [setPc, Function.update_of_ne here] using others sleeper .woken rfl

theorem falls_asleep (s next : SynchronizedQueue T A) (act : Act T A) (step : Step s act next) (thread : T)
    (sleeps : next.pc thread = .asleep) : s.pc thread = .asleep ∨ s.pc thread = .testing ∧ s.queue = [] := by
  have kept : ∀ (pcs : T → QueuePc A) (moved : T) (pc : QueuePc A), sleeping pc = false →
      Function.update pcs moved pc thread = .asleep → pcs thread = .asleep := by
    intro pcs moved pc awake there
    by_cases here : thread = moved
    · rw [here, Function.update_self] at there
      rw [there] at awake
      cases awake
    · rwa [Function.update_of_ne here] at there
  cases step with
  | wait moved inside empty =>
      dsimp only [setPc] at sleeps
      by_cases here : thread = moved
      · rw [here]
        exact .inr ⟨inside, empty⟩
      · exact .inl (by rwa [Function.update_of_ne here] at sleeps)
  | notifyOne moved sleeper data inside asleep => exact .inl (kept _ _ _ rfl (kept _ _ _ rfl sleeps))
  | _ => exact .inl (kept _ _ _ rfl sleeps)

theorem leaves_put (s next : SynchronizedQueue T A) (act : Act T A) (step : Step s act next) (thread : T) (data : A)
    (leaves : next.pc thread = .leaving (.put data)) : s.pc thread = .leaving (.put data) ∨
      (∀ other, next.pc other ≠ .asleep) ∨ ∃ sleeper, s.pc sleeper = .asleep ∧ next.pc sleeper = .woken := by
  have kept : ∀ (moved : T) (pc : QueuePc A), pc ≠ .leaving (.put data) →
      Function.update s.pc moved pc thread = .leaving (.put data) → s.pc thread = .leaving (.put data) := by
    intro moved pc other there
    by_cases here : thread = moved
    · rw [here, Function.update_self] at there
      exact absurd there other
    · rwa [Function.update_of_ne here] at there
  cases step with
  | notifyOne moved sleeper put inside sleeps =>
      have different : sleeper ≠ moved := by
        rintro rfl
        rw [inside] at sleeps
        cases sleeps
      refine .inr (.inr ⟨sleeper, sleeps, ?_⟩)
      simp [setPc, Function.update_of_ne different]
  | notifyNone moved put inside nobody =>
      refine .inr (.inl ?_)
      intro other there
      dsimp only [setPc] at there
      by_cases here : other = moved
      · rw [here, Function.update_self] at there
        cases there
      · rw [Function.update_of_ne here] at there
        exact nobody other there
  | _ =>
      refine .inl (kept _ _ ?_ leaves)
      intro same
      cases same

def waits : QueuePc A → Nat
  | .leaving _ => 0
  | .popping _ => 1
  | .reading => 2
  | .testing => 3
  | .entering | .woken => 4
  | .outside | .locking _ | .pushing _ | .notifying _ | .asleep => 5

theorem waits_step (s next : SynchronizedQueue T A) (act : Act T A) (step : Step s act next) (thread : T)
    (during : current (s.pc thread) = [.get]) (after : current (next.pc thread) = [.get]) (awake : s.pc thread ≠ .asleep)
    (some : pending (s.pc thread) = none → s.queue ≠ []) :
    waits (next.pc thread) ≤ waits (s.pc thread) ∧ (act.thread = thread → waits (next.pc thread) < waits (s.pc thread)) := by
  have moves : ∀ (moved : T) (pc : QueuePc A), (moved = thread → waits pc < waits (s.pc thread)) →
      waits (Function.update s.pc moved pc thread) ≤ waits (s.pc thread) ∧
        (moved = thread → waits (Function.update s.pc moved pc thread) < waits (s.pc thread)) := by
    intro moved pc lower
    by_cases here : moved = thread
    · rw [here, Function.update_self]
      exact ⟨Nat.le_of_lt (lower here), fun _ => lower here⟩
    · rw [Function.update_of_ne (Ne.symm here)]
      exact ⟨Nat.le_refl _, fun same => absurd same here⟩
  cases step with
  | put moved data free =>
      refine moves moved _ (fun same => ?_)
      rw [← same, free] at during
      cases during
  | lock moved data waits free =>
      refine moves moved _ (fun same => ?_)
      rw [← same, waits] at during
      cases during
  | push moved data inside =>
      refine moves moved _ (fun same => ?_)
      rw [← same, inside] at during
      cases during
  | notifyNone moved data inside nobody =>
      refine moves moved _ (fun same => ?_)
      rw [← same, inside] at during
      cases during
  | notifyOne moved sleeper data inside sleeps =>
      have different : moved ≠ thread := by
        intro same
        rw [← same, inside] at during
        cases during
      have other : sleeper ≠ thread := by
        intro same
        rw [← same] at awake
        exact awake sleeps
      simp only [setPc, Function.update_of_ne (Ne.symm different), Function.update_of_ne (Ne.symm other)]
      exact ⟨Nat.le_refl _, fun same => absurd same different⟩
  | get moved free =>
      refine moves moved _ (fun same => ?_)
      rw [← same, free] at during
      cases during
  | enter moved waits free =>
      refine moves moved _ (fun same => ?_)
      rw [← same]
      rcases waits with fresh | again
      · rw [fresh]
        exact Nat.lt_succ_self 3
      · rw [again]
        exact Nat.lt_succ_self 3
  | wait moved inside empty =>
      refine moves moved _ (fun same => ?_)
      rw [← same, inside] at some
      exact absurd empty (some rfl)
  | wake moved sleeps =>
      refine moves moved _ (fun same => ?_)
      rw [← same] at awake
      exact absurd sleeps awake
  | pass moved inside holds =>
      refine moves moved _ (fun same => ?_)
      rw [← same, inside]
      exact Nat.lt_succ_self 2
  | front moved result rest inside head =>
      refine moves moved _ (fun same => ?_)
      rw [← same, inside]
      exact Nat.lt_succ_self 1
  | popFront moved result first rest inside head =>
      refine moves moved _ (fun same => ?_)
      rw [← same, inside]
      exact Nat.zero_lt_one
  | unlock moved operation leaves =>
      by_cases here : moved = thread
      · rw [here] at after
        simp [setPc, current] at after
      · exact moves moved _ (fun same => absurd same here)

theorem outside_calls (s next : SynchronizedQueue T A) (act : Act T A) (step : Step s act next)
    (outside : s.pc act.thread = .outside) : ∃ thread call, act = .call thread call := by
  cases step with
  | put thread data free => exact ⟨thread, .put data, rfl⟩
  | get thread free => exact ⟨thread, .get, rfl⟩
  | lock thread data waits free => rw [Act.thread, waits] at outside; cases outside
  | push thread data inside => rw [Act.thread, inside] at outside; cases outside
  | notifyOne thread sleeper data inside sleeps => rw [Act.thread, inside] at outside; cases outside
  | notifyNone thread data inside nobody => rw [Act.thread, inside] at outside; cases outside
  | enter thread waits free =>
      rw [Act.thread] at outside
      rw [outside] at waits
      rcases waits with fresh | again
      · cases fresh
      · cases again
  | wait thread inside empty => rw [Act.thread, inside] at outside; cases outside
  | wake thread sleeps => rw [Act.thread, sleeps] at outside; cases outside
  | pass thread inside some => rw [Act.thread, inside] at outside; cases outside
  | front thread result rest inside head => rw [Act.thread, inside] at outside; cases outside
  | popFront thread result first rest inside head => rw [Act.thread, inside] at outside; cases outside
  | unlock thread operation leaves => rw [Act.thread, leaves] at outside; cases outside

end SynchronizedQueue

namespace EventHandler

open Transition Mutex Linearization SynchronizedQueue

variable {T A : Type}

def RunPc.Calls : RunPc A → List (QueueCall A) → Prop
  | .getting, calls => calls = [.get]
  | .handling _, calls => calls ≠ [.get]
  | .checking, calls | .fetching, calls | .finished, calls => calls = []

def StopPc.calls (evEmpty : A) : StopPc → List (QueueCall A)
  | .putting => [.put evEmpty]
  | .outside | .flagged | .joining | .returned => []

structure Wired (evEmpty : A) (s : EventHandler T A) : Prop where
  runner : s.run.Calls (current (s.eventList.pc .runner))
  stopper : current (s.eventList.pc .stopper) = s.stop.calls evEmpty
  others : ∀ thread, current (s.eventList.pc (.other thread)) ≠ [.get]

theorem wired_get (evEmpty : A) (s : EventHandler T A) (wired : Wired evEmpty s) (thread : Poster T)
    (gets : current (s.eventList.pc thread) = [.get]) : thread = .runner := by
  cases thread with
  | runner => rfl
  | stopper =>
      have calls := wired.stopper
      rw [gets] at calls
      cases at_ : s.stop <;> rw [at_] at calls <;> cases calls
  | other thread => exact absurd gets (wired.others thread)

theorem wired_getting (evEmpty : A) (s : EventHandler T A) (wired : Wired evEmpty s)
    (gets : current (s.eventList.pc .runner) = [.get]) : s.run = .getting := by
  have calls := wired.runner
  rw [gets] at calls
  cases here : s.run with
  | getting => rfl
  | handling ev => rw [here] at calls; exact absurd rfl calls
  | _ => rw [here] at calls; cases calls

def Act.onQueue : Act T A → Option (SynchronizedQueue.Act (Poster T) A)
  | .queue act => some act
  | .check | .returns | .setShouldStop | .join => none

variable [DecidableEq T] (evEmpty : A)

theorem step_list (s next : EventHandler T A) (act : Act T A) (step : Step evEmpty s act next) :
    Run SynchronizedQueue.Step s.eventList act.onQueue.toList next.eventList := by
  cases step with
  | queue act list free inner => exact run_single _ _ _ _ inner
  | fetch list ready inner => exact run_single _ _ _ _ inner
  | fetched ev list waits inner => exact run_single _ _ _ _ inner
  | post ev own list handles inner => exact run_single _ _ _ _ inner
  | posted ev own list handles inner => exact run_single _ _ _ _ inner
  | putEmpty list flag inner => exact run_single _ _ _ _ inner
  | emptyPut list putting inner => exact run_single _ _ _ _ inner
  | check | returns | setShouldStop | join => exact .done _

theorem list_run (acts : List (Act T A)) (s : EventHandler T A) (run : Run (Step evEmpty) launched acts s) :
    Run SynchronizedQueue.Step initial (acts.filterMap Act.onQueue) s.eventList :=
  run_projects (Step evEmpty) SynchronizedQueue.Step EventHandler.eventList Act.onQueue
    (fun before act after => step_list evEmpty before after act) launched s acts run

theorem call_quiet (moved thread : Poster T) (call : QueueCall A) (there : moved ≠ thread) :
    interface.returned thread [.call moved call] = [] ∧ interface.called thread [.call moved call] = [] :=
  ⟨rfl, by_thread_other thread moved there call⟩

theorem ret_quiet (moved thread : Poster T) (operation : QueueOperation A) (there : moved ≠ thread) :
    interface.returned thread [.ret moved operation] = [] ∧ interface.called thread [.ret moved operation] = [] :=
  ⟨by_thread_other thread moved there operation, rfl⟩

theorem inner_quiet (act : SynchronizedQueue.Act (Poster T) A) (free : inner act = true) (thread : Poster T)
    (mine : ∀ poster, .other poster ≠ thread) : interface.returned thread [act] = [] ∧ interface.called thread [act] = [] := by
  cases act with
  | call moved call =>
      cases moved with
      | other poster => exact call_quiet _ thread call (mine poster)
      | runner | stopper => cases call <;> cases free
  | ret moved operation =>
      cases moved with
      | other poster => exact ret_quiet _ thread operation (mine poster)
      | runner | stopper => cases free
  | step | notify | wake => exact ⟨rfl, rfl⟩

theorem inner_other (list next : SynchronizedQueue (Poster T) A) (act : SynchronizedQueue.Act (Poster T) A) (free : inner act = true)
    (step : SynchronizedQueue.Step list act next) (poster : T) (before : current (list.pc (.other poster)) ≠ [.get]) :
    current (next.pc (.other poster)) ≠ [.get] := by
  have kept : interface.returned (.other poster) [act] = [] ∧ interface.called (.other poster) [act] = [] →
      current (next.pc (.other poster)) ≠ [.get] := by
    rintro ⟨returned, called⟩
    rwa [current_kept list next act step _ returned called]
  cases act with
  | call moved call =>
      by_cases here : moved = .other poster
      · subst here
        cases call with
        | put data =>
            rw [(current_began list next _ _ step).2]
            exact nofun
        | get => cases free
      · exact kept (call_quiet moved _ call here)
  | ret moved operation =>
      by_cases here : moved = .other poster
      · subst here
        rw [(current_ended list next _ operation step).2.1]
        exact nofun
      · exact kept (ret_quiet moved _ operation here)
  | step | notify | wake => exact kept ⟨rfl, rfl⟩

theorem wired_moves (s : EventHandler T A) (wired : Wired evEmpty s) (next : SynchronizedQueue (Poster T) A)
    (act : SynchronizedQueue.Act (Poster T) A) (moved : Poster T) (step : SynchronizedQueue.Step s.eventList act next)
    (mine : ∀ poster, moved ≠ .other poster)
    (quiet : ∀ thread, moved ≠ thread → interface.returned thread [act] = [] ∧ interface.called thread [act] = [])
    (run : RunPc A) (stop : StopPc) (calls : run.Calls (current (next.pc .runner)))
    (puts : current (next.pc .stopper) = stop.calls evEmpty) (handled : List A) :
    Wired evEmpty { s with eventList := next, run := run, stop := stop, handled := handled } where
  runner := calls
  stopper := puts
  others := by
    intro poster
    obtain ⟨returned, called⟩ := quiet (.other poster) (mine poster)
    dsimp only
    rw [current_kept s.eventList next act step _ returned called]
    exact wired.others poster

theorem wired_step (s next : EventHandler T A) (act : Act T A) (wired : Wired evEmpty s) (step : Step evEmpty s act next) :
    Wired evEmpty next := by
  have runner := wired.runner
  have stopper := wired.stopper
  cases step with
  | queue act list free inner =>
      have kept : ∀ thread, (∀ poster, .other poster ≠ thread) → current (list.pc thread) = current (s.eventList.pc thread) := by
        intro thread mine
        obtain ⟨returned, called⟩ := inner_quiet act free thread mine
        exact current_kept s.eventList list act inner thread returned called
      refine ⟨?_, ?_, fun poster => inner_other s.eventList list act free inner poster (wired.others poster)⟩
      · dsimp only
        rwa [kept .runner nofun]
      · dsimp only
        rwa [kept .stopper nofun]
  | check loop =>
      refine ⟨?_, wired.stopper, wired.others⟩
      rw [loop] at runner
      dsimp only
      split <;> exact runner
  | fetch list ready inner =>
      obtain ⟨_, began⟩ := current_began s.eventList list .runner .get inner
      obtain ⟨returned, called⟩ := call_quiet (.runner : Poster T) .stopper (.get : QueueCall A) nofun
      refine wired_moves evEmpty s wired list _ .runner inner nofun (fun thread => call_quiet _ thread _) .getting s.stop began ?_ _
      rw [current_kept s.eventList list _ inner _ returned called, stopper]
  | fetched ev list waits inner =>
      obtain ⟨_, ended, _⟩ := current_ended s.eventList list .runner _ inner
      obtain ⟨returned, called⟩ := ret_quiet (.runner : Poster T) .stopper (.get ev : QueueOperation A) nofun
      refine wired_moves evEmpty s wired list _ .runner inner nofun (fun thread => ret_quiet _ thread _) (.handling ev) s.stop ?_ ?_ _
      · rw [ended]
        exact nofun
      · rw [current_kept s.eventList list _ inner _ returned called, stopper]
  | post ev own list handles inner =>
      obtain ⟨_, began⟩ := current_began s.eventList list .runner _ inner
      obtain ⟨returned, called⟩ := call_quiet (.runner : Poster T) .stopper (.put own : QueueCall A) nofun
      refine wired_moves evEmpty s wired list _ .runner inner nofun (fun thread => call_quiet _ thread _) s.run s.stop ?_ ?_ _
      · rw [handles, began]
        exact nofun
      · rw [current_kept s.eventList list _ inner _ returned called, stopper]
  | posted ev own list handles inner =>
      obtain ⟨_, ended, _⟩ := current_ended s.eventList list .runner _ inner
      obtain ⟨returned, called⟩ := ret_quiet (.runner : Poster T) .stopper (.put own : QueueOperation A) nofun
      refine wired_moves evEmpty s wired list _ .runner inner nofun (fun thread => ret_quiet _ thread _) s.run s.stop ?_ ?_ _
      · rw [handles, ended]
        exact nofun
      · rw [current_kept s.eventList list _ inner _ returned called, stopper]
  | returns ev handles done =>
      refine ⟨?_, wired.stopper, wired.others⟩
      dsimp only
      rw [done]
      rfl
  | setShouldStop fresh =>
      refine ⟨wired.runner, ?_, wired.others⟩
      rw [fresh] at stopper
      exact stopper
  | putEmpty list flag inner =>
      obtain ⟨_, began⟩ := current_began s.eventList list .stopper _ inner
      obtain ⟨returned, called⟩ := call_quiet (.stopper : Poster T) .runner (.put evEmpty : QueueCall A) nofun
      refine wired_moves evEmpty s wired list _ .stopper inner nofun (fun thread => call_quiet _ thread _) s.run .putting ?_ began _
      rwa [current_kept s.eventList list _ inner _ returned called]
  | emptyPut list putting inner =>
      obtain ⟨_, ended, _⟩ := current_ended s.eventList list .stopper _ inner
      obtain ⟨returned, called⟩ := ret_quiet (.stopper : Poster T) .runner (.put evEmpty : QueueOperation A) nofun
      refine wired_moves evEmpty s wired list _ .stopper inner nofun (fun thread => ret_quiet _ thread _) s.run .joining ?_ ?_ _
      · rwa [current_kept s.eventList list _ inner _ returned called]
      · rw [ended]
        rfl
  | join joining ended =>
      refine ⟨wired.runner, ?_, wired.others⟩
      rw [joining] at stopper
      exact stopper

-- The EV_EMPTY of stop() is in the queue, or has been.
def Emptied (s : EventHandler T A) : Prop :=
  s.stop = .putting ∧ pending (s.eventList.pc .stopper) ≠ none ∨ s.stop = .joining ∨ s.stop = .returned

def Notified (s : EventHandler T A) : Prop :=
  s.stop = .putting ∧ s.eventList.pc .stopper = .leaving (.put evEmpty) ∨ s.stop = .joining ∨ s.stop = .returned

-- run() has passed its check, and its get() has not taken an event.
def Awaits (s : EventHandler T A) : Prop := s.run = .fetching ∨ s.run = .getting ∧ pending (s.eventList.pc .runner) = none

omit [DecidableEq T] in
theorem awaits_pending (s : EventHandler T A) (wired : Wired evEmpty s) (awaits : Awaits s) :
    pending (s.eventList.pc .runner) = none := by
  cases awaits with
  | inl fetching =>
      have calls := wired.runner
      rw [fetching] at calls
      cases here : s.eventList.pc .runner <;> rw [here] at calls <;> first | rfl | cases calls
  | inr getting => exact getting.2

-- Once the flag is set, run() waits for an event only beside the EV_EMPTY, and
-- is not asleep when stop() has notified it.
structure Stopping (s : EventHandler T A) : Prop where
  flag : s.stop ≠ .outside → s.shouldStop = true
  supplied : Emptied s → Awaits s → s.eventList.queue ≠ []
  awake : Notified evEmpty s → s.eventList.pc .runner ≠ .asleep

theorem flag_step (s next : EventHandler T A) (act : Act T A) (flag : s.stop ≠ .outside → s.shouldStop = true)
    (step : Step evEmpty s act next) : next.stop ≠ .outside → next.shouldStop = true := by
  intro begun
  cases step with
  | setShouldStop fresh => rfl
  | putEmpty list flagged inner => exact flag (by rw [flagged]; exact nofun)
  | emptyPut list putting inner => exact flag (by rw [putting]; exact nofun)
  | join joining ended => exact flag (by rw [joining]; exact nofun)
  | queue | check | fetch | fetched | post | posted | returns => exact flag begun

theorem supplied_list (s next : EventHandler T A) (act : Act T A) (wired : Wired evEmpty s) (wiredNext : Wired evEmpty next)
    (step : Step evEmpty s act next) (some : s.eventList.queue ≠ []) (awaits : Awaits next) : next.eventList.queue ≠ [] := by
  have none := awaits_pending evEmpty next wiredNext awaits
  have kept : ∀ act, SynchronizedQueue.Step s.eventList act next.eventList → next.eventList.queue ≠ [] := by
    intro act inner empty
    obtain ⟨thread, gets, taken⟩ := emptied s.eventList next.eventList act inner some empty
    rw [wired_get evEmpty s wired thread gets, none] at taken
    cases taken
  cases step with
  | queue act list free inner => exact kept act inner
  | fetch list ready inner => exact kept _ inner
  | fetched ev list waits inner => exact kept _ inner
  | post ev own list handles inner => exact kept _ inner
  | posted ev own list handles inner => exact kept _ inner
  | putEmpty list flag inner => exact kept _ inner
  | emptyPut list putting inner => exact kept _ inner
  | check | returns | setShouldStop | join => exact some

omit [DecidableEq T] in
theorem awaits_rest (s : EventHandler T A) (awaits : Awaits s) : s.run = .fetching ∨ s.run = .getting :=
  awaits.imp_right And.left

omit [DecidableEq T] in
theorem emptied_rest (s : EventHandler T A) (emptied : Emptied s) : s.stop = .putting ∨ s.stop = .joining ∨ s.stop = .returned :=
  emptied.imp_left And.left

theorem supplied_step (s next : EventHandler T A) (act : Act T A) (wired : Wired evEmpty s) (stopping : Stopping evEmpty s)
    (step : Step evEmpty s act next) (emptied : Emptied next) (awaits : Awaits next) : next.eventList.queue ≠ [] := by
  have wiredNext := wired_step evEmpty s next act wired step
  have still : Emptied s → Awaits s → next.eventList.queue ≠ [] := fun before waits =>
    supplied_list evEmpty s next act wired wiredNext step (stopping.supplied before waits) awaits
  have runs := awaits_rest next awaits
  have stops := emptied_rest next emptied
  -- The EV_EMPTY that was not in the queue before is pushed by this step.
  have pushes : ∀ act, SynchronizedQueue.Step s.eventList act next.eventList → next.stop = s.stop → ¬ Emptied s →
      next.eventList.queue ≠ [] := by
    intro act inner same before
    rcases emptied with ⟨putting, pushed⟩ | later
    · rw [same] at putting
      have fresh : pending (s.eventList.pc .stopper) = none := by
        by_contra already
        exact before (.inl ⟨putting, already⟩)
      have calls := wired.stopper
      rw [putting] at calls
      exact pushed_some s.eventList next.eventList act inner .stopper (by rw [calls]; simp [StopPc.calls]) fresh pushed
    · rw [same] at later
      exact absurd (.inr later) before
  cases step with
  | queue act list free inner =>
      obtain ⟨returned, called⟩ := inner_quiet act free .runner (by simp)
      have waits : Awaits s := awaits.imp_right (And.imp_right (pending_before s.eventList list act inner .runner returned))
      by_cases before : Emptied s
      · exact still before waits
      · exact pushes act inner rfl before
  | check loop =>
      have set : s.shouldStop = true := by
        apply stopping.flag
        intro outside
        rw [outside] at stops
        rcases stops with putting | joining | returned
        · cases putting
        · cases joining
        · cases returned
      rw [set] at runs
      rcases runs with fetching | getting
      · cases fetching
      · cases getting
  | fetch list ready inner =>
      by_cases before : Emptied s
      · exact still before (.inl ready)
      · exact pushes _ inner rfl before
  | fetched ev list waits inner =>
      rcases runs with fetching | getting
      · cases fetching
      · cases getting
  | post ev own list handles inner | posted ev own list handles inner =>
      rw [handles] at runs
      rcases runs with fetching | getting
      · cases fetching
      · cases getting
  | returns ev handles done =>
      rcases runs with fetching | getting
      · cases fetching
      · cases getting
  | setShouldStop fresh =>
      rcases stops with putting | joining | returned
      · cases putting
      · cases joining
      · cases returned
  | putEmpty list flag inner =>
      have fresh : pending (list.pc .stopper) = none := by
        cases inner with
        | put _ _ free => simp [setPc, pending]
      rcases emptied with ⟨_, pushed⟩ | joining | returned
      · exact absurd fresh pushed
      · cases joining
      · cases returned
  | emptyPut list putting inner =>
      obtain ⟨leaves, _, _⟩ := current_ended s.eventList list .stopper _ inner
      obtain ⟨returned, called⟩ := ret_quiet (.stopper : Poster T) .runner (.put evEmpty : QueueOperation A) (by simp)
      refine still (.inl ⟨putting, by simp [leaves, pending]⟩) ?_
      exact awaits.imp_right (And.imp_right (pending_before s.eventList list _ inner .runner returned))
  | join joining ended => exact still (.inr (.inl joining)) awaits

omit [DecidableEq T] in
theorem notified_emptied (s : EventHandler T A) (notified : Notified evEmpty s) : Emptied s :=
  notified.imp_left (And.imp_right (fun leaves => by rw [leaves]; exact nofun))

theorem awake_step (s next : EventHandler T A) (act : Act T A) (wired : Wired evEmpty s) (stopping : Stopping evEmpty s)
    (step : Step evEmpty s act next) (notified : Notified evEmpty next) : next.eventList.pc .runner ≠ .asleep := by
  -- Who was notified before is not asleep, and waits beside the EV_EMPTY.
  have still : Notified evEmpty s → ∀ act, SynchronizedQueue.Step s.eventList act next.eventList →
      next.eventList.pc .runner ≠ .asleep := by
    intro before act inner sleeps
    rcases falls_asleep s.eventList next.eventList act inner .runner sleeps with already | ⟨tests, empty⟩
    · exact stopping.awake before already
    · have getting := wired_getting evEmpty s wired (by rw [tests]; rfl)
      exact stopping.supplied (notified_emptied evEmpty s before) (.inr ⟨getting, by rw [tests]; rfl⟩) empty
  cases step with
  | queue act list free inner =>
      by_cases before : Notified evEmpty s
      · exact still before act inner
      · rcases notified with ⟨putting, leaves⟩ | later
        · rcases leaves_put s.eventList list act inner .stopper evEmpty leaves with already | nobody | ⟨sleeper, sleeps, woken⟩
          · exact absurd (.inl ⟨putting, already⟩) before
          · exact nobody .runner
          · have runner := wired_get evEmpty s wired sleeper (by rw [sleeps]; rfl)
            rw [runner] at woken
            intro asleep
            rw [woken] at asleep
            cases asleep
        · exact absurd (.inr later) before
  | fetch list ready inner =>
      cases inner with
      | get _ free => simp [setPc]
  | fetched ev list waits inner =>
      rw [(current_ended s.eventList list .runner _ inner).2.1]
      intro same
      cases same
  | post ev own list handles inner =>
      cases inner with
      | put _ _ free => simp [setPc]
  | posted ev own list handles inner =>
      rw [(current_ended s.eventList list .runner _ inner).2.1]
      intro same
      cases same
  | putEmpty list flag inner =>
      rcases notified with ⟨_, leaves⟩ | joining | returned
      · cases inner with
        | put _ _ free => simp [setPc] at leaves
      · cases joining
      · cases returned
  | emptyPut list putting inner =>
      exact still (.inl ⟨putting, (current_ended s.eventList list .stopper _ inner).1⟩) _ inner
  | setShouldStop fresh =>
      rcases notified with ⟨putting, _⟩ | joining | returned
      · cases putting
      · cases joining
      · cases returned
  | join joining ended => exact stopping.awake (.inr (.inl joining))
  | check | returns => exact stopping.awake notified

theorem stopping_step (s next : EventHandler T A) (act : Act T A) (wired : Wired evEmpty s) (stopping : Stopping evEmpty s)
    (step : Step evEmpty s act next) : Stopping evEmpty next where
  flag := flag_step evEmpty s next act stopping.flag step
  supplied := supplied_step evEmpty s next act wired stopping step
  awake := awake_step evEmpty s next act wired stopping step

theorem stopping_run (acts : List (Act T A)) (s : EventHandler T A) (run : Run (Step evEmpty) launched acts s) :
    Wired evEmpty s ∧ Stopping evEmpty s := by
  apply run_invariant (Step evEmpty) (fun s => Wired evEmpty s ∧ Stopping evEmpty s) _ launched s acts _ run
  · rintro before act after ⟨wired, stopping⟩ step
    exact ⟨wired_step evEmpty before after act wired step, stopping_step evEmpty before after act wired stopping step⟩
  · refine ⟨⟨rfl, rfl, fun _ => nofun⟩, fun begun => absurd rfl begun, ?_, fun _ => nofun⟩
    intro emptied
    rcases emptied_rest launched emptied with putting | joining | returned
    · cases putting
    · cases joining
    · cases returned

def Joining (s : EventHandler T A) : Prop := s.stop = .joining ∨ s.stop = .returned

def remaining (s : EventHandler T A) : Nat :=
  match s.run with
  | .finished => 0
  | .checking => 1
  | .handling _ => 2
  | .getting => 3 + waits (s.eventList.pc .runner)
  | .fetching => 8

omit [DecidableEq T] in
theorem remaining_bound (s : EventHandler T A) : s.remaining ≤ 8 := by
  cases here : s.run with
  | getting => cases there : s.eventList.pc .runner <;> simp [remaining, here, there, waits]
  | _ => simp [remaining, here]

def Act.runs : Act T A → Bool
  | .check | .returns => true
  | .queue act =>
      match act.thread with
      | .runner => true
      | _ => false
  | .setShouldStop | .join => false

def handles (s : EventHandler T A) : Bool :=
  match s.run with
  | .handling _ => true
  | _ => false

-- The steps that the thread takes itself, outside handleEvent.
def ownSteps (steps : Nat) (before : EventHandler T A) (act : Act T A) (_ : EventHandler T A) : Nat :=
  if act.runs = true ∧ before.handles = false then steps + 1 else steps

omit [DecidableEq T] in
theorem runs_own (act : SynchronizedQueue.Act (Poster T) A) (runs : (Act.queue act).runs = true) : act.thread = .runner := by
  rw [Act.runs] at runs
  cases which : act.thread with
  | runner => rfl
  | stopper | other => rw [which] at runs; cases runs

omit [DecidableEq T] in
theorem idle_outside (s : EventHandler T A) (wired : Wired evEmpty s) (elsewhere : s.run ≠ .getting) (quiet : s.handles = false) :
    s.eventList.pc .runner = .outside := by
  have calls := wired.runner
  have none : current (s.eventList.pc .runner) = [] := by
    cases here : s.run with
    | getting => exact absurd here elsewhere
    | handling ev => rw [handles, here] at quiet; cases quiet
    | _ => rw [here] at calls; exact calls
  cases here : s.eventList.pc .runner <;> rw [here] at none <;> first | rfl | cases none

omit [DecidableEq T] in
theorem joining_past (s : EventHandler T A) (joining : Joining s) : s.stop ≠ .outside ∧ s.stop ≠ .flagged ∧ s.stop ≠ .putting := by
  rcases joining with joins | returned
  · rw [joins]
    exact ⟨nofun, nofun, nofun⟩
  · rw [returned]
    exact ⟨nofun, nofun, nofun⟩

theorem remaining_step (s next : EventHandler T A) (act : Act T A) (wired : Wired evEmpty s) (stopping : Stopping evEmpty s)
    (joining : Joining s) (step : Step evEmpty s act next) (steps : Nat) :
    ownSteps steps s act next + next.remaining ≤ steps + s.remaining := by
  have wiredNext := wired_step evEmpty s next act wired step
  cases step with
  | queue act list free inner =>
      by_cases getting : s.run = .getting
      · have during := wired.runner
        have after := wiredNext.runner
        rw [getting] at during after
        obtain ⟨kept, lower⟩ := waits_step s.eventList list act inner .runner during after (stopping.awake (.inr joining))
          (fun none => stopping.supplied (.inr joining) (.inr ⟨getting, none⟩))
        simp only [remaining, getting]
        by_cases own : (Act.queue act).runs = true ∧ s.handles = false
        · have less := lower (runs_own act own.1)
          rw [ownSteps, if_pos own]
          omega
        · rw [ownSteps, if_neg own]
          omega
      · have own : ¬ ((Act.queue act).runs = true ∧ s.handles = false) := by
          rintro ⟨runs, quiet⟩
          have mine := runs_own act runs
          obtain ⟨thread, call, rfl⟩ := outside_calls s.eventList list act inner
            (by rw [mine]; exact idle_outside evEmpty s wired getting quiet)
          rw [SynchronizedQueue.Act.thread] at mine
          subst mine
          cases free
        have same : remaining { s with eventList := list } = s.remaining := by
          simp only [remaining]
          cases here : s.run with
          | getting => exact absurd here getting
          | _ => rfl
        rw [ownSteps, if_neg own, same]
  | check loop =>
      have set : s.shouldStop = true := stopping.flag (joining_past s joining).1
      simp [ownSteps, remaining, Act.runs, handles, loop, set]
  | fetch list ready inner =>
      cases inner with
      | get _ free => simp [ownSteps, remaining, Act.runs, handles, SynchronizedQueue.Act.thread, ready, setPc, waits]
  | fetched ev list waiting inner =>
      simp [ownSteps, remaining, Act.runs, handles, SynchronizedQueue.Act.thread, waiting]
      omega
  | post ev own list handled inner | posted ev own list handled inner =>
      simp [ownSteps, remaining, handles, handled]
  | returns ev handled done => simp [ownSteps, remaining, Act.runs, handles, handled]
  | setShouldStop fresh => exact absurd fresh (joining_past s joining).1
  | putEmpty list flag inner => exact absurd flag (joining_past s joining).2.1
  | emptyPut list putting inner => exact absurd putting (joining_past s joining).2.2
  | join waiting ended => simp [ownSteps, Act.runs, remaining]

theorem joining_step (s next : EventHandler T A) (act : Act T A) (joining : Joining s) (step : Step evEmpty s act next) :
    Joining next := by
  cases step with
  | setShouldStop fresh => exact absurd fresh (joining_past s joining).1
  | putEmpty list flag inner => exact absurd flag (joining_past s joining).2.1
  | emptyPut list putting inner => exact .inl rfl
  | join waiting ended => exact .inr rfl
  | queue | check | fetch | fetched | post | posted | returns => exact joining

structure Ending (bound : Nat) (noted : EventHandler T A × Nat) : Prop where
  wired : Wired evEmpty noted.1
  stopping : Stopping evEmpty noted.1
  joining : Joining noted.1
  bounded : noted.2 + noted.1.remaining ≤ bound

theorem ending_step (bound : Nat) (before after : EventHandler T A × Nat) (act : Act T A) (ending : Ending evEmpty bound before)
    (step : Watching (Step evEmpty) ownSteps before act after) : Ending evEmpty bound after where
  wired := wired_step evEmpty before.1 after.1 act ending.wired step.1
  stopping := stopping_step evEmpty before.1 after.1 act ending.wired ending.stopping step.1
  joining := joining_step evEmpty before.1 after.1 act ending.joining step.1
  bounded := by
    rw [step.2]
    exact Nat.le_trans (remaining_step evEmpty before.1 after.1 act ending.wired ending.stopping ending.joining step.1 before.2)
      ending.bounded

-- What can happen without anybody calling or waking for no reason.
def Act.goesOn : Act T A → Bool
  | .queue (.call .runner _) => true
  | .queue act => act.goesOn
  | .check | .returns | .join => true
  | .setShouldStop => false

theorem lifted (s : EventHandler T A) (wired : Wired evEmpty s) (act : SynchronizedQueue.Act (Poster T) A)
    (list : SynchronizedQueue (Poster T) A) (step : SynchronizedQueue.Step s.eventList act list) (further : act.goesOn = true) :
    ∃ next, Step evEmpty s (.queue act) next ∧ next.eventList = list := by
  cases act with
  | call thread call => cases further
  | wake thread => cases further
  | step thread => exact ⟨_, .queue s _ list rfl step, rfl⟩
  | notify thread woken => exact ⟨_, .queue s _ list rfl step, rfl⟩
  | ret thread operation =>
      obtain ⟨leaves, _, _⟩ := current_ended s.eventList list thread operation step
      cases thread with
      | other poster => exact ⟨_, .queue s _ list rfl step, rfl⟩
      | stopper =>
          have calls := wired.stopper
          rw [leaves] at calls
          cases here : s.stop with
          | putting =>
              rw [here] at calls
              cases operation with
              | put data => cases calls; exact ⟨_, .emptyPut s list here step, rfl⟩
              | get ev => cases calls
          | _ => rw [here] at calls; cases calls
      | runner =>
          have calls := wired.runner
          rw [leaves] at calls
          cases operation with
          | get ev => exact ⟨_, .fetched s ev list (wired_getting evEmpty s wired (by rw [leaves]; rfl)) step, rfl⟩
          | put data =>
              cases here : s.run with
              | handling ev => exact ⟨_, .posted s ev data list here step, rfl⟩
              | _ => rw [here] at calls; cases calls

theorem holder_unlocks (n : Nat) (s : EventHandler T A) (wired : Wired evEmpty s)
    (owned : Owned critical s.eventList.mutex s.eventList.pc) (sees : ∀ thread, Sees s.eventList.queue (s.eventList.pc thread))
    (holder : Poster T) (holds : s.eventList.mutex = some holder) (few : turns (s.eventList.pc holder) ≤ n) :
    ∃ (acts : List (SynchronizedQueue.Act (Poster T) A)) (next : EventHandler T A),
      Run (Step evEmpty) s (acts.map .queue) next ∧ (∀ act ∈ acts, act.goesOn = true ∧ act.thread = holder) ∧ acts.length ≤ n ∧
        next.eventList.mutex = none := by
  induction n generalizing s with
  | zero =>
      have more := turns_positive _ ((owned holder).mpr holds)
      omega
  | succ n ih =>
      obtain ⟨act, list, step, further, own, left⟩ := owner_goes_on s.eventList sees holder ((owned holder).mpr holds)
      obtain ⟨next, first, same⟩ := lifted evEmpty s wired act list step further
      subst same
      rcases left with free | ⟨kept, fewer⟩
      · refine ⟨[act], next, run_single _ _ _ _ first, ?_, Nat.le_add_left 1 n, free⟩
        intro other member
        rw [List.mem_singleton.mp member]
        exact ⟨further, own⟩
      · obtain ⟨acts, last, run, all, few, free⟩ := ih next (wired_step evEmpty s next _ wired first)
          (owned_step _ _ _ owned step) (sees_step _ _ _ owned sees step) (kept.trans holds) (by omega)
        refine ⟨act :: acts, last, .next _ _ _ _ _ first run, ?_, Nat.succ_le_succ few, free⟩
        exact List.forall_mem_cons.mpr ⟨⟨further, own⟩, all⟩

theorem thread_goes_on (s : EventHandler T A) (wired : Wired evEmpty s) (stopping : Stopping evEmpty s) (joining : Joining s)
    (owned : Owned critical s.eventList.mutex s.eventList.pc) (sees : ∀ thread, Sees s.eventList.queue (s.eventList.pc thread))
    (runs : s.run ≠ .finished) (quiet : s.handles = false) :
    (∃ act next, Step evEmpty s act next ∧ act.goesOn = true ∧ act.runs = true) ∨
      ∃ holder, s.eventList.mutex = some holder := by
  have calls := wired.runner
  cases here : s.run with
  | finished => exact absurd here runs
  | handling ev => rw [handles, here] at quiet; cases quiet
  | checking => exact .inl ⟨_, _, .check s here, rfl, rfl⟩
  | fetching =>
      have outside := idle_outside evEmpty s wired (by rw [here]; exact nofun) quiet
      exact .inl ⟨_, _, .fetch s _ here (.get s.eventList .runner outside), rfl, rfl⟩
  | getting =>
      rw [here] at calls
      obtain ⟨act, list, step, further, who⟩ := goes_on s.eventList owned sees .runner
        (fun outside => by rw [outside] at calls; cases calls) (stopping.awake (.inr joining))
      rcases who with own | holds
      · obtain ⟨next, step, _⟩ := lifted evEmpty s wired act list step further
        refine .inl ⟨_, next, step, ?_, ?_⟩
        · cases act <;> first | exact further | cases further
        · rw [Act.runs, own]
      · exact .inr ⟨_, holds⟩

-- stop() cannot miss its thread: once it waits for it, the thread is not asleep, takes
-- at most eight more steps of its own besides handleEvent, and can always take the next
-- one, at once or when the thread that has the mutex of the list has given it back, until
-- it has ended; then stop() returns.
theorem stop_returns [DecidableEq A] (acts more : List (Act T A)) (s t : EventHandler T A) (steps : Nat)
    (run : Run (Step evEmpty) launched acts s) (joining : s.stop = .joining)
    (further : Run (Watching (Step evEmpty) ownSteps) (s, 0) more (t, steps)) :
    steps ≤ 8 ∧ t.eventList.pc .runner ≠ .asleep ∧
      (t.run ≠ .finished → t.handles = true ∨
        (∃ act next, Step evEmpty t act next ∧ act.goesOn = true ∧ act.runs = true) ∨
        ∃ (holder : Poster T) (theirs : List (SynchronizedQueue.Act (Poster T) A)) (next : EventHandler T A),
          t.eventList.mutex = some holder ∧ Run (Step evEmpty) t (theirs.map .queue) next ∧
            (∀ act ∈ theirs, act.goesOn = true ∧ act.thread = holder) ∧ theirs.length ≤ 4 ∧ next.eventList.mutex = none) ∧
      (t.run = .finished → t.stop = .returned ∨ ∃ next, Step evEmpty t .join next) := by
  obtain ⟨wired, stopping⟩ := stopping_run evEmpty acts s run
  have ending : Ending evEmpty s.remaining (t, steps) := by
    apply run_invariant (Watching (Step evEmpty) ownSteps) (Ending evEmpty s.remaining)
      (fun before act after => ending_step evEmpty s.remaining before after act) (s, 0) (t, steps) more _ further
    exact ⟨wired, stopping, .inl joining, Nat.le_of_eq (Nat.zero_add _)⟩
  obtain ⟨wired, stopping, joins, bound⟩ := ending
  have whole := run_append (Step evEmpty) _ _ _ _ _ run (watched_run (Step evEmpty) ownSteps _ _ more further)
  obtain ⟨owned, sees, _⟩ := orderly_run _ t.eventList (list_run evEmpty _ t whole)
  refine ⟨?_, stopping.awake (.inr joins), ?_, ?_⟩
  · have few := remaining_bound s
    omega
  · intro runs
    cases quiet : t.handles with
    | true => exact .inl rfl
    | false =>
        refine .inr ((thread_goes_on evEmpty t wired stopping joins owned sees runs quiet).imp_right ?_)
        rintro ⟨holder, holds⟩
        obtain ⟨theirs, next, unlocks⟩ := holder_unlocks evEmpty 4 t wired owned sees holder holds (turns_bound _)
        exact ⟨holder, theirs, next, holds, unlocks⟩
  · intro ended
    rcases joins with waiting | returned
    · exact .inr ⟨_, .join t waiting ended⟩
    · exact .inl returned

theorem stop_returns_asleep : ∃ (t : EventHandler (Fin 1) Nat) (steps : Nat), t.handled = [0] ∧ steps ≤ 8 ∧
    (t.stop = .returned ∨ ∃ next, Step 0 t .join next) := by
  let acts : List (Act (Fin 1) Nat) := [.check, .queue (.call .runner .get), .queue (.step .runner), .queue (.step .runner),
    .setShouldStop, .queue (.call .stopper (.put 0)), .queue (.step .stopper), .queue (.step .stopper),
    .queue (.notify .stopper (some .runner)), .queue (.ret .stopper (.put 0))]
  let more : List (Act (Fin 1) Nat) := [.queue (.step .runner), .queue (.step .runner), .queue (.step .runner),
    .queue (.step .runner), .queue (.ret .runner (.get 0)), .returns, .check]
  let s := (follow (advance 0) (fun _ _ => true) launched acts).get (by decide +kernel)
  let t := (follow (advance 0) (fun _ _ => true) s more).get (by decide +kernel)
  have run : Run (Step 0) launched acts s := follow_reached (Step 0) (advance 0) (advance_step 0) _ _ _ (Option.some_get _).symm
  have further : Run (Step 0) s more t := follow_reached (Step 0) (advance 0) (advance_step 0) _ _ _ (Option.some_get _).symm
  obtain ⟨steps, counted⟩ := run_watched (Step 0) ownSteps s t more further 0
  have ended := stop_returns 0 acts more s t steps run (by decide +kernel) counted
  exact ⟨t, steps, by decide +kernel, ended.1, ended.2.2.2 (by decide +kernel)⟩

end EventHandler

end CameraController
