import CameraController.BrokerHandlers
import Mathlib.Data.Prod.Lex

set_option autoImplicit false

namespace CameraController

namespace EventHandler

open Transition Mutex SynchronizedQueue

variable {T A : Type}

-- The steps of the calls under way. Nobody posts, nobody calls stop(), and no
-- thread wakes for no reason.
def Act.drains : Act T A → Bool
  | .queue (.call .runner .get) | .queue (.call .stopper _) => true
  | .queue act => act.goesOn
  | .check | .returns | .join => true
  | .setShouldStop => false

def putSteps : QueuePc A → Nat
  | .locking _ => 4
  | .pushing _ => 3
  | .notifying _ => 2
  | .leaving (.put _) => 1
  | _ => 0

def StopPc.steps : StopPc → Nat
  | .flagged => 7
  | .putting => 2
  | .joining => 1
  | .outside | .returned => 0

-- The steps that run() has before it until it falls asleep beside an empty queue;
-- with an element it makes another turn of its loop.
def RunPc.steps (pc : QueuePc A) : RunPc A → Nat
  | .handling _ => 10
  | .checking => 9
  | .fetching => 8
  | .getting =>
      match pc with
      | .leaving _ => 11
      | .entering | .woken => 7
      | .testing => 6
      | .reading => 5
      | .popping _ => 4
      | _ => 0
  | .finished => 0

def turnsLeft (s : EventHandler T A) : Nat := 20 * s.eventList.queue.length + s.run.steps (s.eventList.pc .runner)

variable [Fintype T] [DecidableEq T]

def putsLeft (s : EventHandler T A) : Nat := total putSteps s.eventList.pc + s.stop.steps

def Lower (next s : EventHandler T A) : Prop :=
  next.putsLeft < s.putsLeft ∨ next.putsLeft = s.putsLeft ∧ next.turnsLeft < s.turnsLeft

variable (evEmpty : A)

theorem run_lower (s next : EventHandler T A) (pc : QueuePc A) (pcs : next.eventList.pc = Function.update s.eventList.pc .runner pc)
    (stays : next.stop = s.stop) (before : putSteps (s.eventList.pc .runner) = 0) (after : putSteps pc = 0)
    (turns : next.turnsLeft < s.turnsLeft) : Lower next s := by
  have moved := total_moves putSteps s.eventList.pc .runner pc
  refine .inr ⟨?_, turns⟩
  simp only [putsLeft, pcs, stays]
  omega

theorem runner_lower (s : EventHandler T A) (wired : Wired evEmpty s) (list : SynchronizedQueue (Poster T) A) (thread : Poster T)
    (pc : QueuePc A) (gets : current (s.eventList.pc thread) = [.get]) (pcs : list.pc = Function.update s.eventList.pc thread pc)
    (before : putSteps (s.eventList.pc thread) = 0) (after : putSteps pc = 0)
    (turns : 20 * list.queue.length + RunPc.getting.steps pc <
      20 * s.eventList.queue.length + RunPc.getting.steps (s.eventList.pc thread)) :
    Lower { s with eventList := list } s := by
  obtain rfl := wired_get evEmpty s wired thread gets
  have getting := wired_getting evEmpty s wired gets
  refine run_lower s _ pc pcs rfl before after ?_
  simp only [turnsLeft, pcs, Function.update_self, getting]
  exact turns

omit [Fintype T] in
theorem put_run (s next : EventHandler T A) (thread : Poster T) (data : A)
    (step : Step evEmpty s (.queue (.call thread (.put data))) next) : next.run = s.run := by
  cases step <;> rfl

theorem puts_lower (s next : EventHandler T A) (thread : Poster T) (pc : QueuePc A)
    (pcs : next.eventList.pc = Function.update s.eventList.pc thread pc)
    (less : putSteps pc + next.stop.steps < putSteps (s.eventList.pc thread) + s.stop.steps) : Lower next s := by
  have moved := total_moves putSteps s.eventList.pc thread pc
  refine .inl ?_
  simp only [putsLeft, pcs]
  omega

theorem put_lower (s : EventHandler T A) (list : SynchronizedQueue (Poster T) A) (thread : Poster T) (pc : QueuePc A)
    (pcs : list.pc = Function.update s.eventList.pc thread pc) (less : putSteps pc < putSteps (s.eventList.pc thread)) :
    Lower { s with eventList := list } s :=
  puts_lower s _ thread pc pcs (Nat.add_lt_add_right less s.stop.steps)

-- The steps of a call on the queue between its beginning and its return, and the
-- return of a put() that is not called from here.
theorem queue_lower (s : EventHandler T A) (list : SynchronizedQueue (Poster T) A) (act : SynchronizedQueue.Act (Poster T) A)
    (wired : Wired evEmpty s) (free : inner act = true) (step : SynchronizedQueue.Step s.eventList act list)
    (drains : Act.drains (.queue act) = true) : Lower { s with eventList := list } s := by
  cases step with
  | put thread data waits =>
      cases thread with
      | other poster => cases drains
      | runner | stopper => cases free
  | get thread waits => cases thread <;> cases free
  | wake thread sleeps => cases drains
  | lock thread data waits unlocked => exact put_lower s _ thread _ rfl (by rw [waits]; exact Nat.lt_succ_self _)
  | push thread data inside => exact put_lower s _ thread _ rfl (by rw [inside]; exact Nat.lt_succ_self _)
  | notifyNone thread data inside nobody => exact put_lower s _ thread _ rfl (by rw [inside]; exact Nat.lt_succ_self _)
  | notifyOne thread sleeper data inside sleeps =>
      have different : thread ≠ sleeper := by
        rintro rfl
        rw [inside] at sleeps
        cases sleeps
      have first := total_moves putSteps s.eventList.pc sleeper .woken
      have second := total_moves putSteps (Function.update s.eventList.pc sleeper .woken) thread (.leaving (.put data))
      rw [sleeps] at first
      rw [Function.update_of_ne different, inside] at second
      refine .inl ?_
      simp only [putsLeft, setPc]
      simp only [putSteps] at first second
      omega
  | enter thread waits unlocked =>
      rcases waits with fresh | again
      · exact runner_lower evEmpty s wired _ thread _ (by rw [fresh]; rfl) rfl (by rw [fresh]; rfl) rfl
          (by rw [fresh]; exact Nat.lt_succ_self _)
      · exact runner_lower evEmpty s wired _ thread _ (by rw [again]; rfl) rfl (by rw [again]; rfl) rfl
          (by rw [again]; exact Nat.lt_succ_self _)
  | wait thread inside empty =>
      refine runner_lower evEmpty s wired _ thread _ (by rw [inside]; rfl) rfl (by rw [inside]; rfl) rfl ?_
      rw [inside]
      simp [setPc, RunPc.steps]
  | pass thread inside holds =>
      exact runner_lower evEmpty s wired _ thread _ (by rw [inside]; rfl) rfl (by rw [inside]; rfl) rfl
        (by rw [inside]; exact Nat.lt_succ_self _)
  | front thread result rest inside head =>
      exact runner_lower evEmpty s wired _ thread _ (by rw [inside]; rfl) rfl (by rw [inside]; rfl) rfl
        (by rw [inside]; exact Nat.lt_succ_self _)
  | popFront thread result first rest inside head =>
      refine runner_lower evEmpty s wired _ thread _ (by rw [inside]; rfl) rfl (by rw [inside]; rfl) rfl ?_
      rw [inside, head]
      simp only [RunPc.steps, List.length_cons]
      omega
  | unlock thread operation leaves =>
      cases thread with
      | runner | stopper => cases free
      | other poster =>
          have gets := wired.others poster
          rw [leaves] at gets
          cases operation with
          | get result => exact absurd rfl gets
          | put data => exact put_lower s _ _ _ rfl (by rw [leaves]; exact Nat.lt_succ_self _)

theorem drains_lower (s next : EventHandler T A) (act : Act T A) (wired : Wired evEmpty s) (step : Step evEmpty s act next)
    (drains : act.drains = true) : Lower next s := by
  cases step with
  | queue act list free inner => exact queue_lower evEmpty s list act wired free inner drains
  | check loop =>
      refine .inr ⟨rfl, ?_⟩
      simp only [turnsLeft, loop]
      split <;> simp [RunPc.steps]
  | fetch list ready inner =>
      cases inner with
      | get _ free =>
          refine run_lower s _ .entering rfl rfl (by rw [free]; rfl) rfl ?_
          simp [turnsLeft, setPc, ready, RunPc.steps]
  | fetched ev list waits inner =>
      cases inner with
      | unlock _ _ leaves =>
          refine run_lower s _ .outside rfl rfl (by rw [leaves]; rfl) rfl ?_
          simp [turnsLeft, setPc, waits, leaves, RunPc.steps]
  | post ev own list handles inner => cases drains
  | posted ev own list handles inner =>
      cases inner with
      | unlock _ _ leaves => exact put_lower s _ .runner .outside rfl (by rw [leaves]; exact Nat.lt_succ_self _)
  | returns ev handles ends =>
      refine .inr ⟨rfl, ?_⟩
      simp [turnsLeft, handles, RunPc.steps]
  | setShouldStop fresh => cases drains
  | putEmpty list flag inner =>
      cases inner with
      | put _ _ free =>
          refine puts_lower s _ .stopper (.locking evEmpty) rfl ?_
          rw [free, flag]
          simp [putSteps, StopPc.steps]
  | emptyPut list putting inner =>
      cases inner with
      | unlock _ _ leaves =>
          refine puts_lower s _ .stopper .outside rfl ?_
          rw [leaves, putting]
          simp [putSteps, StopPc.steps]
  | join joining ended =>
      refine .inl ?_
      simp [putsLeft, joining, StopPc.steps]

omit [Fintype T]

structure Ends (s : EventHandler T A) : Prop where
  flag : s.shouldStop = true → s.stop ≠ .outside
  ended : s.run = .finished → s.stop ≠ .outside

theorem ends_step (s next : EventHandler T A) (act : Act T A) (ends : Ends s) (step : Step evEmpty s act next) : Ends next := by
  cases step with
  | check loop =>
      refine ⟨ends.flag, ?_⟩
      dsimp only
      split
      · rename_i flag
        exact fun _ => ends.flag flag
      · exact nofun
  | queue | post | posted => exact ⟨ends.flag, ends.ended⟩
  | fetch | fetched | returns => exact ⟨ends.flag, nofun⟩
  | setShouldStop | putEmpty | emptyPut | join => exact ⟨fun _ => nofun, fun _ => nofun⟩

theorem ends_run (acts : List (Act T A)) (s : EventHandler T A) (run : Run (Step evEmpty) launched acts s) : Ends s :=
  run_invariant (Step evEmpty) Ends (fun before act after => ends_step evEmpty before after act) launched s acts ⟨nofun, nofun⟩ run

omit [DecidableEq T] in
theorem asleep_getting (s : EventHandler T A) (wired : Wired evEmpty s) (thread : Poster T)
    (sleeps : s.eventList.pc thread = .asleep) : thread = .runner ∧ s.run = .getting := by
  obtain rfl := wired_get evEmpty s wired thread (by rw [sleeps]; rfl)
  exact ⟨rfl, wired_getting evEmpty s wired (by rw [sleeps]; rfl)⟩

theorem stuck_idle (s : EventHandler T A) (wired : Wired evEmpty s) (owned : Owned critical s.eventList.mutex s.eventList.pc)
    (sees : ∀ thread, Sees s.eventList.queue (s.eventList.pc thread))
    (stuck : ∀ act next, act.goesOn = true → ¬ Step evEmpty s (.queue act) next) (thread : Poster T) :
    s.eventList.pc thread = .outside ∨ s.eventList.pc thread = .asleep := by
  by_contra busy
  rw [not_or] at busy
  obtain ⟨act, list, step, further, _⟩ := goes_on s.eventList owned sees thread busy.1 busy.2
  obtain ⟨next, lifts, _⟩ := lifted evEmpty s wired act list step further
  exact stuck act next further lifts

theorem stuck_stop (s : EventHandler T A) (wired : Wired evEmpty s)
    (idle : ∀ thread, s.eventList.pc thread = .outside ∨ s.eventList.pc thread = .asleep)
    (stuck : ∀ act next, act.drains = true → ¬ Step evEmpty s act next) :
    s.stop = .outside ∨ s.stop = .joining ∧ s.run ≠ .finished ∨ s.stop = .returned := by
  have calls := wired.stopper
  have outside : s.eventList.pc .stopper = .outside := by
    rcases idle .stopper with outside | asleep
    · exact outside
    · exact absurd (asleep_getting evEmpty s wired .stopper asleep).1 nofun
  cases here : s.stop with
  | outside => exact .inl rfl
  | flagged => exact absurd (.putEmpty s _ here (.put s.eventList .stopper evEmpty outside)) (stuck _ _ rfl)
  | putting =>
      rw [here, outside] at calls
      cases calls
  | joining => exact .inr (.inl ⟨rfl, fun ended => stuck .join _ rfl (.join s here ended)⟩)
  | returned => exact .inr (.inr rfl)

theorem stuck_run (s : EventHandler T A) (wired : Wired evEmpty s) (stopping : Stopping evEmpty s) (ends : Ends s)
    (idle : ∀ thread, s.eventList.pc thread = .outside ∨ s.eventList.pc thread = .asleep)
    (stuck : ∀ act next, act.drains = true → ¬ Step evEmpty s act next) :
    s.stop = .outside ∧ s.eventList.pc .runner = .asleep ∨ s.stop = .returned ∧ s.run = .finished := by
  have calls := wired.runner
  have ended : s.stop = .returned → s.eventList.pc .runner ≠ .asleep :=
    fun returned => stopping.awake (.inr (.inr returned))
  have stop := stuck_stop evEmpty s wired idle stuck
  cases idle .runner with
  | inr asleep =>
      rcases stop with fresh | ⟨joining, _⟩ | returned
      · exact .inl ⟨fresh, asleep⟩
      · exact absurd asleep (stopping.awake (.inr (.inl joining)))
      · exact absurd asleep (ended returned)
  | inl outside =>
      rw [outside] at calls
      cases here : s.run with
      | checking => exact absurd (.check s here) (stuck _ _ rfl)
      | fetching => exact absurd (.fetch s _ here (.get s.eventList .runner outside)) (stuck _ _ rfl)
      | getting => rw [here] at calls; cases calls
      | handling ev => exact absurd (.returns s ev here outside) (stuck _ _ rfl)
      | finished =>
          rcases stop with fresh | ⟨_, runs⟩ | returned
          · exact absurd fresh (ends.ended here)
          · exact absurd here runs
          · exact .inr ⟨returned, rfl⟩

theorem idle_stuck (s next : EventHandler T A) (act : Act T A) (getting : s.run = .getting) (fresh : s.stop = .outside)
    (idle : ∀ thread, s.eventList.pc thread = .outside ∨ s.eventList.pc thread = .asleep) (drains : act.drains = true) :
    ¬ Step evEmpty s act next := by
  have busy : ∀ (thread : Poster T) (pc : QueuePc A), s.eventList.pc thread = pc → pc ≠ .outside → pc = .asleep :=
    fun thread pc is awake => (idle thread).elim (fun outside => absurd (is.symm.trans outside) awake) is.symm.trans
  intro step
  cases step with
  | queue act list free inner =>
      cases inner with
      | put thread data outside =>
          cases thread with
          | other poster => cases drains
          | runner | stopper => cases free
      | get thread outside => cases thread <;> cases free
      | wake thread sleeps => cases drains
      | lock thread data waits unlocked => cases busy thread _ waits nofun
      | push thread data inside => cases busy thread _ inside nofun
      | notifyOne thread sleeper data inside sleeps => cases busy thread _ inside nofun
      | notifyNone thread data inside nobody => cases busy thread _ inside nofun
      | enter thread waits unlocked =>
          rcases waits with entering | woken
          · cases busy thread _ entering nofun
          · cases busy thread _ woken nofun
      | wait thread inside empty => cases busy thread _ inside nofun
      | pass thread inside holds => cases busy thread _ inside nofun
      | front thread result rest inside head => cases busy thread _ inside nofun
      | popFront thread result first rest inside head => cases busy thread _ inside nofun
      | unlock thread operation leaves => cases busy thread _ leaves nofun
  | check loop => rw [getting] at loop; cases loop
  | fetch list ready inner => rw [getting] at ready; cases ready
  | fetched ev list waits inner =>
      cases inner with
      | unlock _ _ leaves => cases busy .runner _ leaves nofun
  | post ev own list handles inner => cases drains
  | posted ev own list handles inner => rw [getting] at handles; cases handles
  | returns ev handles outside => rw [getting] at handles; cases handles
  | setShouldStop unset => cases drains
  | putEmpty list flag inner => rw [fresh] at flag; cases flag
  | emptyPut list putting inner => rw [fresh] at putting; cases putting
  | join joining ended => rw [fresh] at joining; cases joining

end EventHandler

namespace Subscribers

open Mutex

variable {T H E : Type}

def waitSteps : CallPc H E → Nat
  | .waiting _ => 1
  | _ => 0

def callSteps (subs : UInt8 → List H) : CallPc H E → Nat
  | .posting _ _ topic next => 2 + ((subs topic).length - next)
  | .inside _ => 2
  | .leaving => 1
  | .outside | .waiting _ => 0

variable [Fintype T] [DecidableEq T] [DecidableEq H]

theorem call_lower (s next : Subscribers T H E) (owned : Subscribers.Owned s) (thread : T) (step : Step s (.step thread) next) :
    total waitSteps next.pc < total waitSteps s.pc ∨ total waitSteps next.pc = total waitSteps s.pc ∧
      total (callSteps next.subs) next.pc < total (callSteps s.subs) s.pc := by
  have moves : ∀ pc : CallPc H E, waitSteps pc = waitSteps (s.pc thread) → callSteps s.subs pc < callSteps s.subs (s.pc thread) →
      total waitSteps (Function.update s.pc thread pc) = total waitSteps s.pc ∧
        total (callSteps s.subs) (Function.update s.pc thread pc) < total (callSteps s.subs) s.pc := by
    intro pc same less
    have waiting := total_moves waitSteps s.pc thread pc
    have calling := total_moves (callSteps s.subs) s.pc thread pc
    omega
  cases step with
  | lockChange _ change waits free =>
      have waiting := total_moves waitSteps s.pc thread (.inside change)
      rw [waits] at waiting
      exact .inl (Nat.lt_of_succ_le (Nat.le_of_eq waiting))
  | lockPost _ ev topic waits free =>
      have waiting := total_moves waitSteps s.pc thread (.posting s.posts.length ev topic 0)
      rw [waits] at waiting
      exact .inl (Nat.lt_of_succ_le (Nat.le_of_eq waiting))
  | change _ change inside =>
      obtain ⟨waiting, calling⟩ := moves .leaving (by rw [inside]; rfl) (by rw [inside]; exact Nat.lt_succ_self _)
      refine .inr ⟨waiting, Nat.lt_of_le_of_lt (Nat.le_of_eq ?_) calling⟩
      -- Nobody is in the loop of post() while the subscribers change.
      apply Finset.sum_congr rfl
      intro other _
      dsimp only [setPc]
      by_cases here : other = thread
      · rw [here, Function.update_self]
        rfl
      · rw [Function.update_of_ne here]
        cases there : s.pc other with
        | posting post ev topic next =>
            exact absurd (owned_alone s owned thread other (by rw [inside]; rfl) (by rw [there]; rfl)) here
        | _ => rfl
  | deliver _ post ev topic next handler posting more =>
      obtain ⟨within, _⟩ := List.getElem?_eq_some_iff.mp more
      refine .inr (moves _ (by rw [posting]; rfl) ?_)
      rw [posting]
      simp only [callSteps]
      omega
  | finish _ post ev topic next posting last =>
      refine .inr (moves _ (by rw [posting]; rfl) ?_)
      rw [posting]
      simp only [callSteps]
      omega
  | unlock _ leaves => exact .inr (moves _ (by rw [leaves]; rfl) (by rw [leaves]; exact Nat.lt_succ_self _))

omit [Fintype T]

theorem step_busy (s next : Subscribers T H E) (thread : T) (step : Step s (.step thread) next) : s.pc thread ≠ .outside := by
  intro outside
  cases step with
  | lockChange _ change waits free => rw [outside] at waits; cases waits
  | lockPost _ ev topic waits free => rw [outside] at waits; cases waits
  | change _ change inside => rw [outside] at inside; cases inside
  | deliver _ post ev topic next handler posting more => rw [outside] at posting; cases posting
  | finish _ post ev topic next posting last => rw [outside] at posting; cases posting
  | unlock _ leaves => rw [outside] at leaves; cases leaves

theorem call_goes_on (s : Subscribers T H E) (owned : Subscribers.Owned s) (thread : T) (busy : s.pc thread ≠ .outside) :
    ∃ caller next, Step s (.step caller) next := by
  have inside : ∀ caller, critical (s.pc caller) = true → ∃ next, Step s (.step caller) next := by
    intro caller has
    cases here : s.pc caller with
    | inside change => exact ⟨_, .change s caller change here⟩
    | posting post ev topic n =>
        cases more : (s.subs topic)[n]? with
        | some handler => exact ⟨_, .deliver s caller post ev topic n handler here more⟩
        | none => exact ⟨_, .finish s caller post ev topic n here more⟩
    | leaving => exact ⟨_, .unlock s caller here⟩
    | outside | waiting call => rw [here] at has; cases has
  cases free : s.mutex with
  | some owner => exact ⟨owner, inside owner ((owned owner).mpr free)⟩
  | none =>
      cases here : s.pc thread with
      | outside => exact absurd here busy
      | waiting call =>
          cases call with
          | change change => exact ⟨thread, _, .lockChange s thread change here free⟩
          | post ev topic => exact ⟨thread, _, .lockPost s thread ev topic here free⟩
      | _ => exact ⟨thread, inside thread (by rw [here]; rfl)⟩

end Subscribers

namespace Exchange

open Transition Mutex

variable {T H S E : Type}

def Act.drains : Act T H S E → Bool
  | .broker (.step _) => true
  | .broker (.call _ _) => false
  | .handler _ act => act.drains

variable [DecidableEq T] [DecidableEq H] [DecidableEq S] (evEmpty : E)

omit [DecidableEq T] [DecidableEq H] [DecidableEq S] in
theorem between_outside (pc : CallPc (Listener H S) E) (none : between pc = true) : pc = .outside := by
  cases pc <;> first | rfl | cases none

-- A thread of a handler calls the broker from handleEvent() only, which does not
-- return before the call does.
def Handling (s : Exchange T H S E) : Prop :=
  ∀ handler, s.table.pc (.runner handler) ≠ .outside → ∃ ev, (s.handlers handler).run = .handling ev

section Rank

variable [Fintype T] [Fintype H]

-- Locks to take, then steps with the lock, then steps of put(), then turns of run().
def rank (s : Exchange T H S E) : ℕ ×ₗ ℕ ×ₗ ℕ ×ₗ ℕ :=
  toLex (total Subscribers.waitSteps s.table.pc, toLex (total (Subscribers.callSteps s.table.subs) s.table.pc,
    toLex (total EventHandler.putsLeft s.handlers, total EventHandler.turnsLeft s.handlers)))

theorem drains_lower (s next : Exchange T H S E) (act : Act T H S E) (owned : Subscribers.Owned s.table)
    (wired : ∀ handler, (s.handlers handler).Wired (.own evEmpty)) (step : Step evEmpty s act next) (drains : act.drains = true) :
    rank next < rank s := by
  have called : ∀ caller table handlers, Subscribers.Step s.table (.step caller) table →
      rank { table := table, handlers := handlers } < rank s := by
    intro caller table handlers inner
    simp only [rank, Prod.Lex.toLex_lt_toLex]
    exact (Subscribers.call_lower s.table table owned caller inner).imp_right (And.imp_right .inl)
  cases step with
  | call caller call table away ready inner => cases drains
  | goes caller table away quiet inner => exact called caller table s.handlers inner
  | postEvent caller handler post ev table list away here inner put => exact called caller table _ inner
  | handler handler act list free inner =>
      have puts := total_moves EventHandler.putsLeft s.handlers handler list
      have turns := total_moves EventHandler.turnsLeft s.handlers handler list
      simp only [rank, Prod.Lex.toLex_lt_toLex, true_and, Nat.lt_irrefl, false_or]
      rcases EventHandler.drains_lower _ _ list act (wired handler) inner drains with less | ⟨same, less⟩
      · exact .inl (by omega)
      · exact .inr ⟨by omega, by omega⟩

end Rank

def Drain (s : Exchange T H S E) (act : Act T H S E) (next : Exchange T H S E) : Prop :=
  Step evEmpty s act next ∧ act.drains = true

theorem handling_step (s next : Exchange T H S E) (act : Act T H S E) (handling : Handling s) (step : Step evEmpty s act next) :
    Handling next := by
  intro handler busy
  have goes : ∀ caller table, Subscribers.Step s.table (.step caller) table → table.pc (.runner handler) ≠ .outside →
      ∃ ev, (s.handlers handler).run = .handling ev := by
    intro caller table inner there
    by_cases here : caller = .runner handler
    · subst here
      exact handling handler (Subscribers.step_busy s.table table _ inner)
    · rw [Subscribers.pc_elsewhere s.table table _ inner _ (Ne.symm here)] at there
      exact handling handler there
  cases step with
  | call caller call table away ready inner =>
      by_cases here : caller = .runner handler
      · subst here
        rw [Exchange.ready] at ready
        split at ready
        · rename_i ev handles
          exact ⟨ev, handles⟩
        · cases ready
      · dsimp only at busy
        rw [Subscribers.pc_elsewhere s.table table _ inner _ (Ne.symm here)] at busy
        exact handling handler busy
  | goes caller table away quiet inner => exact goes caller table inner busy
  | postEvent caller other post ev table list away here inner put =>
      have before := goes caller table inner busy
      dsimp only
      by_cases this : handler = other
      · subst this
        rwa [Function.update_self, EventHandler.put_run _ _ _ _ _ put]
      · rwa [Function.update_of_ne this]
  | handler other act list free inner =>
      obtain ⟨ev, before⟩ := handling handler busy
      dsimp only
      by_cases this : handler = other
      · subst this
        rw [Function.update_self]
        cases inner with
        | check loop => rw [before] at loop; cases loop
        | fetch list ready inner => rw [before] at ready; cases ready
        | fetched event list waits inner => rw [before] at waits; cases waits
        | returns event handles ends =>
            have outside : between (s.table.pc (.runner handler)) = true := free
            exact absurd (between_outside _ outside) busy
        | _ => exact ⟨ev, before⟩
      · rw [Function.update_of_ne this]
        exact ⟨ev, before⟩

theorem handling_run (acts : List (Act T H S E)) (s : Exchange T H S E) (run : Run (Step evEmpty) launched acts s) : Handling s :=
  run_invariant (Step evEmpty) Handling (fun before act after => handling_step evEmpty before after act) launched s acts
    (fun _ busy => absurd rfl busy) run

theorem stuck_callers (s : Exchange T H S E) (owned : Subscribers.Owned s.table)
    (wired : ∀ handler, (s.handlers handler).Wired (.own evEmpty)) (handling : Handling s)
    (idle : ∀ handler thread, (s.handlers handler).eventList.pc thread = .outside ∨
      (s.handlers handler).eventList.pc thread = .asleep)
    (stuck : ∀ act next, ¬ Drain evEmpty s act next) (caller : Caller T H) : s.table.pc caller = .outside := by
  by_contra busy
  obtain ⟨goes, table, inner⟩ := Subscribers.call_goes_on s.table owned caller busy
  have inside := Subscribers.step_busy s.table table goes inner
  have away : s.Away goes := by
    intro handler
    rcases idle handler (poster handler goes) with outside | asleep
    · exact outside
    · obtain ⟨runner, getting⟩ := EventHandler.asleep_getting _ _ (wired handler) _ asleep
      rw [poster] at runner
      split at runner
      · rename_i same
        obtain ⟨ev, handles⟩ := handling handler (same ▸ inside)
        rw [getting] at handles
        cases handles
      · cases runner
  cases here : s.hands goes with
  | none => exact stuck _ _ ⟨.goes s goes table away here inner, rfl⟩
  | some which =>
      obtain ⟨handler, post, ev⟩ := which
      have outside := away handler
      have put : ∃ next, EventHandler.Step (.own evEmpty) (s.handlers handler)
          (.queue (.call (poster handler goes) (.put (.posted post ev)))) next := by
        rw [poster] at outside ⊢
        split
        · rename_i same
          rw [if_pos same] at outside
          obtain ⟨held, handles⟩ := handling handler (same ▸ inside)
          exact ⟨_, .post _ held _ _ handles (.put _ _ _ outside)⟩
        · rename_i different
          rw [if_neg different] at outside
          exact ⟨_, .queue _ _ _ rfl (.put _ _ _ outside)⟩
      obtain ⟨next, put⟩ := put
      exact stuck _ _ ⟨.postEvent s goes handler post ev table next away here inner put, rfl⟩

theorem stuck_handler (s : Exchange T H S E) (outside : ∀ caller, s.table.pc caller = .outside)
    (stuck : ∀ act next, ¬ Drain evEmpty s act next) (handler : H) (act : EventHandler.Act (Caller T H) (Item E))
    (next : EventHandler (Caller T H) (Item E)) (drains : act.drains = true) :
    ¬ EventHandler.Step (.own evEmpty) (s.handlers handler) act next := by
  intro inner
  refine stuck _ _ ⟨.handler s handler act next ?_ inner, drains⟩
  unfold lets
  split
  · rw [outside]
    rfl
  · rw [outside]
    rfl
  · cases drains
  · cases drains
  · rfl

-- Once nobody calls any more, what is under way comes to an end in whatever order
-- the threads take their steps, and no call is stuck in it: at the end all have
-- returned, and each handler waits for the next event, with everything handled that
-- the posts owe it, unless stop() has ended it.
theorem posts_drain [Fintype T] [Fintype H] [DecidableEq E] (acts : List (Act T H S E)) (s : Exchange T H S E)
    (run : Run (Step evEmpty) launched acts s) :
    Acc (fun next before => ∃ act, Drain evEmpty before act next) s ∧ ∀ more t, Run (Drain evEmpty) s more t →
      (∀ act next, ¬ Drain evEmpty t act next) → (∀ caller, t.table.pc caller = .outside) ∧ ∀ handler,
        ((t.handlers handler).stop = .outside ∧ Idle (t.handlers handler) ∧ t.handledAt handler = due handler t.table.posts) ∨
          ((t.handlers handler).stop = .returned ∧ (t.handlers handler).run = .finished) := by
  have kept : ∀ more t, Run (Drain evEmpty) s more t → ∃ acts, Run (Step evEmpty) launched acts t := by
    intro more t further
    exact ⟨acts ++ more, run_append _ _ _ _ _ _ run (run_mono _ _ (fun _ _ _ drain => drain.1) _ _ _ further)⟩
  have parts : ∀ t : Exchange T H S E, (∃ acts, Run (Step evEmpty) launched acts t) → Subscribers.Owned t.table ∧ ∀ handler,
      (t.handlers handler).Wired (.own evEmpty) := by
    rintro t ⟨acts, reached⟩
    refine ⟨(consistent_run evEmpty acts t reached).delivering.owned, fun handler => ?_⟩
    obtain ⟨own, runs⟩ := (parts_run evEmpty acts t reached).2 handler
    exact (EventHandler.stopping_run _ own _ runs).1
  constructor
  · apply run_founded (Drain evEmpty) (· < ·) wellFounded_lt rank (fun t => ∃ acts, Run (Step evEmpty) launched acts t) _ _ s
      ⟨acts, run⟩
    · rintro before act after ⟨past, reached⟩ drain
      exact ⟨past ++ [act], run_append _ _ _ _ _ _ reached (run_single _ _ _ _ drain.1)⟩
    · rintro before act after reached drain
      exact drains_lower evEmpty before after act (parts before reached).1 (parts before reached).2 drain.1 drain.2
  · intro more t further stuck
    obtain ⟨whole, reached⟩ := kept more t further
    obtain ⟨owned, wired⟩ := parts t ⟨whole, reached⟩
    have lists : ∀ handler, ∃ acts, Run (EventHandler.Step (.own evEmpty)) .launched acts (t.handlers handler) :=
      (parts_run evEmpty whole t reached).2
    have idle : ∀ handler thread, (t.handlers handler).eventList.pc thread = .outside ∨
        (t.handlers handler).eventList.pc thread = .asleep := by
      intro handler
      obtain ⟨own, runs⟩ := lists handler
      obtain ⟨alone, sees, _⟩ := SynchronizedQueue.orderly_run _ _ (EventHandler.list_run _ own _ runs)
      refine EventHandler.stuck_idle _ _ (wired handler) alone sees (fun act next further inner => ?_)
      refine stuck _ _ ⟨.handler t handler (.queue act) next ?_ inner, ?_⟩
      · cases act <;> first | rfl | cases further
      · cases act <;> first | rfl | cases further
    have callers := stuck_callers evEmpty t owned wired (handling_run evEmpty whole t reached) idle stuck
    refine ⟨callers, fun handler => ?_⟩
    obtain ⟨own, runs⟩ := lists handler
    obtain ⟨_, stopping⟩ := EventHandler.stopping_run _ own _ runs
    rcases EventHandler.stuck_run _ _ (wired handler) stopping (EventHandler.ends_run _ own _ runs) (idle handler)
      (stuck_handler evEmpty t callers stuck handler) with ⟨fresh, asleep⟩ | returned
    · have rests : EventSniffer.Resting t.table := by
        intro caller post ev topic next posting
        rw [callers caller] at posting
        cases posting
      have waits : Idle (t.handlers handler) := ⟨asleep, idle handler⟩
      exact .inl ⟨fresh, waits, idle_handled evEmpty whole t reached handler rests waits⟩
    · exact .inr returned

theorem idle_exchange_stuck (s : Exchange T H S E) (callers : ∀ caller, s.table.pc caller = .outside)
    (handlers : ∀ handler, (s.handlers handler).run = .getting ∧ (s.handlers handler).stop = .outside ∧
      Idle (s.handlers handler)) (act : Act T H S E) (next : Exchange T H S E) : ¬ Drain evEmpty s act next := by
  rintro ⟨step, drains⟩
  cases step with
  | call caller call table away ready inner => cases drains
  | goes caller table away quiet inner => exact Subscribers.step_busy s.table table caller inner (callers caller)
  | postEvent caller handler post ev table list away here inner put =>
      exact Subscribers.step_busy s.table table caller inner (callers caller)
  | handler handler act list free inner =>
      obtain ⟨getting, fresh, _, idle⟩ := handlers handler
      exact EventHandler.idle_stuck _ _ list act getting fresh idle drains inner

theorem posts_drain_subscribed : ∃ (s t : Exchange Unit Bool Unit Nat) (more : List (Act Unit Bool Unit Nat)),
    s.table.posts = [] ∧ Run (Drain 0) s more t ∧ t.handledAt true = [(0, 70), (0, 70)] ∧ t.handledAt false = [(0, 70)] := by
  let call (c : BrokerCall (Listener Bool Unit) Nat) : Act Unit Bool Unit Nat := .broker (.call (.other ()) c)
  let step : Act Unit Bool Unit Nat := .broker (.step (.other ()))
  let subscribe (handler : Bool) : List (Act Unit Bool Unit Nat) :=
    [call (.change (.subscribe (.eventHandler handler) 5)), step, step, step]
  let put (handler : Bool) : List (Act Unit Bool Unit Nat) := [step, .handler handler (.queue (.step (.other (.other ())))),
    .handler handler (.queue (.step (.other (.other ())))), .handler handler (.queue (.notify (.other (.other ())) none)),
    .handler handler (.queue (.ret (.other (.other ())) (.put (.posted 0 70))))]
  let enter (handler : Bool) : List (Act Unit Bool Unit Nat) := [.handler handler .check,
    .handler handler (.queue (.call .runner .get)), .handler handler (.queue (.step .runner)),
    .handler handler (.queue (.step .runner))]
  let take (handler : Bool) : List (Act Unit Bool Unit Nat) := enter handler ++ [.handler handler (.queue (.step .runner)),
    .handler handler (.queue (.step .runner)), .handler handler (.queue (.ret .runner (.get (.posted 0 70)))),
    .handler handler .returns]
  let acts := subscribe true ++ subscribe false ++ subscribe true ++ [call (.post 70 5)]
  let more := [step] ++ put true ++ put false ++ take true ++ put true ++ [step, step] ++ take true ++ take false ++ enter true ++
    enter false
  let s : Exchange Unit Bool Unit Nat := (follow (advance 0) (fun _ _ => true) launched acts).get (by decide +kernel)
  let t : Exchange Unit Bool Unit Nat := (follow (advance 0) (fun _ act => act.drains) s more).get (by decide +kernel)
  have run : Run (Step 0) launched acts s := follow_reached (Step 0) (advance 0) (advance_step 0) _ _ _ (Option.some_get _).symm
  have further : Run (Drain 0) s more t := follow_run (Step 0) (advance 0) (advance_step 0) (fun _ act => act.drains)
    (fun _ act _ => act.drains = true) (fun _ _ _ drains => drains) _ _ _ (Option.some_get _).symm
  have fresh : ∀ handler, (t.handlers handler).stop = .outside := by decide +kernel
  have handlers : ∀ handler, (t.handlers handler).run = .getting ∧ (t.handlers handler).eventList.pc .runner = .asleep ∧
      ∀ thread, (t.handlers handler).eventList.pc thread = .outside ∨ (t.handlers handler).eventList.pc thread = .asleep := by
    decide +kernel
  have stuck := idle_exchange_stuck 0 t (by decide +kernel) (fun handler => ⟨(handlers handler).1, fresh handler, (handlers handler).2⟩)
  have handled : ∀ handler, t.handledAt handler = due handler t.table.posts := by
    intro handler
    rcases ((posts_drain 0 acts s run).2 more t further stuck).2 handler with ⟨_, _, all⟩ | ⟨returned, _⟩
    · exact all
    · rw [fresh handler] at returned
      cases returned
  refine ⟨s, t, more, by decide +kernel, further, ?_, ?_⟩
  · rw [handled true]
    decide +kernel
  · rw [handled false]
    decide +kernel

end Exchange

end CameraController
