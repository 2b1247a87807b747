import CameraController.BrokerPublish
import CameraController.BrokerScheduler

set_option autoImplicit false

namespace CameraController

open Transition

-- The threads that call post() and the functions that change the subscribers: the
-- one of run(), and all others.
inductive Client (T : Type) where
  | runThread
  | caller (thread : T)
deriving DecidableEq, Repr

structure Dispatcher (T H E : Type) where
  scheduler : Scheduler E
  table : Subscribers (Client T) H E

namespace Dispatcher

variable {T H E : Type}

def initial : Dispatcher T H E where
  scheduler := .initial
  table := .initial

inductive Act (T H E : Type) where
  | scheduler (act : Scheduler.Act E)
  | table (act : Subscribers.Act (Client T) H E)
  | returns (now : Int)
deriving DecidableEq, Repr

def Act.onScheduler : Act T H E → Option (Scheduler.Act E)
  | .scheduler act => some act
  | .returns now => some (.run now)
  | .table _ => none

def Act.onTable : Act T H E → Option (Subscribers.Act (Client T) H E)
  | .table act => some act
  | .returns _ => some (.step .runThread)
  | .scheduler _ => none

-- post(dev.event, dev.topic) is a call like those of the other threads; the run
-- thread locks mtx_delayed_events again when it has returned.
def atPost (s : Dispatcher T H E) : Scheduler.Act E → Bool
  | .run _ => s.scheduler.pc == .post
  | _ => false

def calls : Subscribers.Act (Client T) H E → Client T
  | .call thread _ => thread
  | .step thread => thread

variable [DecidableEq T] [DecidableEq H]

inductive Step : Dispatcher T H E → Act T H E → Dispatcher T H E → Prop where
  | scheduler (s : Dispatcher T H E) (act : Scheduler.Act E) (next : Scheduler E) (apart : s.atPost act = false)
      (step : Scheduler.Step s.scheduler act next) : Step s (.scheduler act) { s with scheduler := next }
  | table (s : Dispatcher T H E) (act : Subscribers.Act (Client T) H E) (next : Subscribers (Client T) H E)
      (other : calls act ≠ .runThread) (step : Subscribers.Step s.table act next) : Step s (.table act) { s with table := next }
  | post (s : Dispatcher T H E) (dev : DelayedEvent E) (next : Subscribers (Client T) H E) (posting : s.scheduler.pc = .post)
      (held : s.scheduler.broker.dev = some dev)
      (step : Subscribers.Step s.table (.call .runThread (.post dev.event dev.topic)) next) :
      Step s (.table (.call .runThread (.post dev.event dev.topic))) { s with table := next }
  | posting (s : Dispatcher T H E) (next : Subscribers (Client T) H E) (inside : s.table.pc .runThread ≠ .leaving)
      (step : Subscribers.Step s.table (.step .runThread) next) : Step s (.table (.step .runThread)) { s with table := next }
  | returns (s : Dispatcher T H E) (now : Int) (table : Subscribers (Client T) H E) (scheduler : Scheduler E)
      (leaves : s.table.pc .runThread = .leaving) (unlock : Subscribers.Step s.table (.step .runThread) table)
      (relock : Scheduler.Step s.scheduler (.run now) scheduler) : Step s (.returns now) { scheduler := scheduler, table := table }

section Following

variable [DecidableEq E]

def advance (s : Dispatcher T H E) : Act T H E → Option (Dispatcher T H E)
  | .scheduler act =>
      if s.atPost act then none else (s.scheduler.advance act).map (fun next => { s with scheduler := next })
  | .table (.call .runThread call) =>
      match s.scheduler.pc, s.scheduler.broker.dev with
      | .post, some dev =>
          if call = .post dev.event dev.topic then
            (s.table.advance (.call .runThread call)).map (fun next => { s with table := next })
          else none
      | _, _ => none
  | .table (.step .runThread) =>
      match s.table.pc .runThread with
      | .leaving => none
      | _ => (s.table.advance (.step .runThread)).map (fun next => { s with table := next })
  | .table act => (s.table.advance act).map (fun next => { s with table := next })
  | .returns now =>
      match s.table.pc .runThread, s.table.advance (.step .runThread), s.scheduler.advance (.run now) with
      | .leaving, some table, some scheduler => some { scheduler := scheduler, table := table }
      | _, _, _ => none

theorem advance_step (s next : Dispatcher T H E) (act : Act T H E) (run : s.advance act = some next) : Step s act next := by
  unfold advance at run
  split at run
  · split at run
    · cases run
    · rename_i act apart
      obtain ⟨scheduler, moves, rfl⟩ := Option.map_eq_some_iff.mp run
      exact .scheduler s act scheduler (by simpa using apart) (s.scheduler.advance_step scheduler act moves)
  · split at run
    · rename_i dev posting held
      split at run
      · rename_i same
        subst same
        obtain ⟨table, moves, rfl⟩ := Option.map_eq_some_iff.mp run
        exact .post s dev table posting held (s.table.advance_step table _ moves)
      · cases run
    · cases run
  · split at run
    · cases run
    · rename_i inside
      obtain ⟨table, moves, rfl⟩ := Option.map_eq_some_iff.mp run
      exact .posting s table inside (s.table.advance_step table _ moves)
  · rename_i act notCall notStep
    obtain ⟨table, moves, rfl⟩ := Option.map_eq_some_iff.mp run
    refine .table s act table ?_ (s.table.advance_step table act moves)
    cases act with
    | call thread call =>
        rintro rfl
        exact notCall call rfl
    | step thread =>
        rintro rfl
        exact notStep rfl
  · split at run
    · rename_i table scheduler leaves unlock relock
      cases run
      exact .returns s _ table scheduler leaves (s.table.advance_step table _ unlock) (s.scheduler.advance_step scheduler _ relock)
    · cases run

end Following

theorem step_scheduler (s next : Dispatcher T H E) (act : Act T H E) (step : Step s act next) :
    Run Scheduler.Step s.scheduler act.onScheduler.toList next.scheduler := by
  cases step with
  | scheduler act scheduler apart inner => exact run_single _ _ _ _ inner
  | returns now table scheduler leaves unlock relock => exact run_single _ _ _ _ relock
  | table | post | posting => exact .done _

theorem step_table (s next : Dispatcher T H E) (act : Act T H E) (step : Step s act next) :
    Run Subscribers.Step s.table act.onTable.toList next.table := by
  cases step with
  | scheduler act scheduler apart inner => exact .done _
  | table act table other inner => exact run_single _ _ _ _ inner
  | post dev table posting held inner => exact run_single _ _ _ _ inner
  | posting table inside inner => exact run_single _ _ _ _ inner
  | returns now table scheduler leaves unlock relock => exact run_single _ _ _ _ unlock

theorem halves_run (acts : List (Act T H E)) (s : Dispatcher T H E) (run : Run Step initial acts s) :
    Run Scheduler.Step .initial (acts.filterMap Act.onScheduler) s.scheduler ∧
      Run Subscribers.Step .initial (acts.filterMap Act.onTable) s.table :=
  ⟨run_projects Step Scheduler.Step Dispatcher.scheduler Act.onScheduler
      (fun before act after => step_scheduler before after act) initial s acts run,
    run_projects Step Subscribers.Step Dispatcher.table Act.onTable
      (fun before act after => step_table before after act) initial s acts run⟩

end Dispatcher

namespace Scheduler

variable {A : Type}

theorem posted_kept (s next : Scheduler A) (act : Act A) (step : Step s act next) (apart : ∀ now, act = .run now → s.pc ≠ .post) :
    next.broker.posted = s.broker.posted ∧ (s.pc = .post → next.pc = .post ∧ next.broker.dev = s.broker.dev) := by
  cases step with
  | run _ now moves =>
      have elsewhere := apart now rfl
      refine ⟨?_, fun posting => absurd posting elsewhere⟩
      obtain ⟨broker, shouldStop, pc, notifying, stop⟩ := s
      cases pc with
      | due =>
          cases moves
          dsimp only [EventBroker.pop]
          split
          · rfl
          · split <;> rfl
      | post => exact absurd rfl elsewhere
      | lock | check | test | sleep | blocked | woken | unlock | relock | finished => cases moves <;> rfl
  | wake deadline asleep => exact ⟨rfl, fun posting => by rw [asleep] at posting; cases posting⟩
  | postDelayed ev topic delayMs now free => exact ⟨rfl, fun posting => ⟨posting, rfl⟩⟩
  | notify n pending => exact ⟨rfl, fun posting => ⟨by rw [posting]; rfl, rfl⟩⟩
  | removeDelayed id free => exact ⟨rfl, fun posting => ⟨posting, rfl⟩⟩
  | clearDelayedEvents free => exact ⟨rfl, fun posting => ⟨posting, rfl⟩⟩
  | setShouldStop fresh => exact ⟨rfl, fun posting => ⟨posting, rfl⟩⟩
  | notifyStop set => exact ⟨rfl, fun posting => ⟨by rw [posting]; rfl, rfl⟩⟩

theorem taken_step (s next : Scheduler A) (act : Act A) (step : Step s act next) (dev : DelayedEvent A)
    (taken : dev ∈ next.broker.taken) : dev ∈ s.broker.taken ∨ ∃ now, act = .run now ∧ dev.deadline ≤ now := by
  cases step with
  | run _ now moves =>
      obtain ⟨broker, shouldStop, pc, notifying, stop⟩ := s
      cases pc with
      | due =>
          cases moves
          dsimp only at taken ⊢
          cases EventBroker.pop_cases broker now with
          | inl same => rw [same] at taken; exact .inl taken
          | inr took =>
              obtain ⟨front, rest, pending, reached, result⟩ := took
              rw [result, EventBroker.taken] at taken
              cases List.mem_append.mp taken with
              | inl posted => exact .inl (List.mem_append_left _ posted)
              | inr popped =>
                  obtain rfl : dev = front := by simpa using popped
                  exact .inr ⟨now, rfl, reached⟩
      | post =>
          obtain ⟨held, here, rfl⟩ := posting_moves _ next now rfl moves
          refine .inl ?_
          dsimp only at here ⊢
          rw [EventBroker.taken, here]
          simpa [EventBroker.taken, EventBroker.postDev] using taken
      | lock | check | test | sleep | woken | unlock | relock => cases moves; exact .inl taken
      | blocked | finished => cases moves
  | wake | postDelayed | notify | removeDelayed | clearDelayedEvents | setShouldStop | notifyStop => exact .inl taken

theorem taken_due (acts : List (Act A)) (s : Scheduler A) (run : Run Step initial acts s) :
    ∀ dev ∈ s.broker.taken, ∃ now, .run now ∈ acts ∧ dev.deadline ≤ now := by
  apply run_history Step (fun past s => ∀ dev ∈ s.broker.taken, ∃ now, .run now ∈ past ∧ dev.deadline ≤ now) _ initial s [] acts _ run
  · intro past before act after due step dev taken
    rcases taken_step before after act step dev taken with already | ⟨now, rfl, reached⟩
    · obtain ⟨now, read, reached⟩ := due dev already
      exact ⟨now, List.mem_append_left _ read, reached⟩
    · exact ⟨now, List.mem_append_right _ (List.mem_singleton_self _), reached⟩
  · intro dev mem
    cases mem

def requested : Act A → Option (A × UInt8 × Int)
  | .postDelayed ev topic delayMs now => some (ev, topic, EventBroker.deadlineOf now delayMs)
  | _ => none

def takenBack (s : Scheduler A) : Act A → List (DelayedEvent A)
  | .removeDelayed id => s.broker.takenBack (.removeDelayed id)
  | .clearDelayedEvents => s.broker.takenBack .clearDelayedEvents
  | _ => []

theorem run_step_records (s next : Scheduler A) (now : Int) (moves : s.runStep now = some next) :
    next.broker.scheduled = s.broker.scheduled ∧ next.broker.removed = s.broker.removed := by
  obtain ⟨broker, shouldStop, pc, notifying, stop⟩ := s
  cases pc with
  | due =>
      cases moves
      dsimp only
      cases EventBroker.pop_cases broker now with
      | inl same => rw [same]; exact ⟨rfl, rfl⟩
      | inr took =>
          obtain ⟨front, rest, _, _, popped⟩ := took
          rw [popped]
          exact ⟨rfl, rfl⟩
  | post =>
      obtain ⟨held, _, rfl⟩ := posting_moves _ next now rfl moves
      exact ⟨rfl, rfl⟩
  | lock | check | test | sleep | woken | unlock | relock => cases moves; exact ⟨rfl, rfl⟩
  | blocked | finished => cases moves

theorem removed_step (s next : Scheduler A) (act : Act A) (step : Step s act next) :
    next.broker.removed = s.broker.removed ++ s.takenBack act := by
  cases step with
  | run _ now moves => rw [(run_step_records s next now moves).2]; exact (List.append_nil _).symm
  | removeDelayed | clearDelayedEvents => rfl
  | wake | postDelayed | notify | setShouldStop | notifyStop => exact (List.append_nil _).symm

theorem requested_run (acts : List (Act A)) (s : Scheduler A) (run : Run Step initial acts s) :
    s.broker.scheduled.map EventBroker.request = acts.filterMap requested := by
  apply run_history Step (fun past s => s.broker.scheduled.map EventBroker.request = past.filterMap requested) _ initial s [] acts
    rfl run
  intro past before act after same step
  rw [List.filterMap_append, ← same]
  cases step with
  | run _ now moves => rw [(run_step_records before after now moves).1]; exact (List.append_nil _).symm
  | postDelayed ev topic delayMs now free => simp [EventBroker.postDelayed, EventBroker.request, requested]
  | wake | notify | removeDelayed | clearDelayedEvents | setShouldStop | notifyStop => exact (List.append_nil _).symm

end Scheduler

namespace Subscribers

variable {T H E : Type} [DecidableEq T] [DecidableEq H]

def Publishes (p : Publication H E) (s : Subscribers T H E) (act : Act T H E) : Prop :=
  ∃ thread, act = .step thread ∧ s.pc thread = .waiting (.post p.ev p.topic) ∧ p.id = s.posts.length ∧ p.audience = s.subs p.topic

theorem posts_step (s next : Subscribers T H E) (act : Act T H E) (delivering : Delivering s) (p : Publication H E)
    (step : Step s act next) : p ∈ next.posts ↔ p ∈ s.posts ∨ Publishes p s act := by
  have elsewhere : ∀ thread, (∀ ev topic, s.pc thread ≠ .waiting (.post ev topic)) → ¬ Publishes p s (.step thread) := by
    rintro thread apart ⟨other, same, waits, _⟩
    cases same
    exact apart p.ev p.topic waits
  cases step with
  | call thread call free =>
      refine (or_iff_left ?_).symm
      rintro ⟨other, same, _⟩
      cases same
  | lockPost thread ev topic waits free =>
      rw [← subs_audience s delivering.table, List.mem_append, List.mem_singleton]
      refine or_congr_right ⟨?_, ?_⟩
      · rintro rfl
        exact ⟨thread, rfl, waits, rfl, rfl⟩
      · rintro ⟨other, same, there, number, audience⟩
        cases same
        rw [waits] at there
        cases there
        obtain ⟨id, ev, topic, handlers⟩ := p
        dsimp only at number audience
        rw [number, audience]
  | lockChange thread change waits free => exact (or_iff_left (elsewhere thread (by simp [waits]))).symm
  | change thread change inside => exact (or_iff_left (elsewhere thread (by simp [inside]))).symm
  | deliver thread post ev topic n handler posting more => exact (or_iff_left (elsewhere thread (by simp [posting]))).symm
  | finish thread post ev topic n posting last => exact (or_iff_left (elsewhere thread (by simp [posting]))).symm
  | unlock thread leaves => exact (or_iff_left (elsewhere thread (by simp [leaves]))).symm

structure Over (s : Subscribers T H E) (p : Publication H E) : Prop where
  posted : p ∈ s.posts
  ended : ∀ thread ev topic next, s.pc thread ≠ .posting p.id ev topic next

omit [DecidableEq T] in
theorem number_fresh (s : Subscribers T H E) (delivering : Delivering s) (p : Publication H E) (posted : p ∈ s.posts) :
    p.id < s.posts.length := by
  have listed : p.id ∈ s.posts.map Publication.id := List.mem_map_of_mem posted
  rw [delivering.numbered] at listed
  exact List.mem_range.mp listed

theorem over_step (s next : Subscribers T H E) (act : Act T H E) (delivering : Delivering s) (p : Publication H E) (passed : Over s p)
    (step : Step s act next) : Over next p := by
  refine ⟨(forward_step s next act delivering step).posts.subset passed.posted, ?_⟩
  have moves : ∀ (moved : T) (pc : CallPc H E), (∀ ev topic n, pc ≠ .posting p.id ev topic n) →
      ∀ thread ev topic n, Function.update s.pc moved pc thread ≠ .posting p.id ev topic n := by
    intro moved pc elsewhere thread ev topic n
    by_cases here : thread = moved
    · rw [here, Function.update_self]
      exact elsewhere ev topic n
    · rw [Function.update_of_ne here]
      exact passed.ended thread ev topic n
  cases step with
  | call thread call free => exact moves thread _ nofun
  | lockChange thread change waits free => exact moves thread _ nofun
  | lockPost thread ev topic waits free =>
      refine moves thread _ ?_
      intro ev topic n same
      have fresh := number_fresh s delivering p passed.posted
      have number := (CallPc.posting.inj same).1
      omega
  | change thread change inside => exact moves thread _ nofun
  | deliver thread post ev topic n handler posting more =>
      refine moves thread _ ?_
      intro ev' topic' n' same
      have number := (CallPc.posting.inj same).1
      rw [number] at posting
      exact passed.ended thread ev topic n posting
  | finish thread post ev topic n posting last => exact moves thread _ nofun
  | unlock thread leaves => exact moves thread _ nofun

theorem over_ended (s next : Subscribers T H E) (delivering : Delivering s) (thread : T) (p : Publication H E) (posted : p ∈ s.posts)
    (ev : E) (topic : UInt8) (n : Nat) (posting : s.pc thread = .posting p.id ev topic n)
    (pcs : next.pc = Function.update s.pc thread .leaving) (posts : next.posts = s.posts) : Over next p := by
  refine ⟨by rw [posts]; exact posted, ?_⟩
  intro other ev' topic' n' there
  rw [pcs] at there
  by_cases here : other = thread
  · rw [here, Function.update_self] at there
    cases there
  · rw [Function.update_of_ne here] at there
    exact here (owned_alone s delivering.owned thread other (by rw [posting]; rfl) (by rw [there]; rfl))

omit [DecidableEq T] in
theorem over_receipts (s : Subscribers T H E) (delivering : Delivering s) (p : Publication H E) (passed : Over s p) :
    receiptsOf s.received p.id = receipts p := by
  cases receipts_of_post s delivering p passed.posted with
  | inl complete => exact complete
  | inr partly =>
      obtain ⟨thread, next, posting, _⟩ := partly
      exact absurd posting (passed.ended thread p.ev p.topic next)

end Subscribers

namespace Dispatcher

open Subscribers

variable {T H E : Type}

def Tells (posting : Posting E) (p : Publication H E) : Prop := p.ev = posting.event ∧ p.topic = posting.topic

section Stages

variable [DecidableEq H]

-- How far the run thread has come with the post of dev, after those of published.
def Stage (table : Subscribers (Client T) H E) (published : List (Publication H E)) (dev : DelayedEvent E) : CallPc H E → Prop
  | .outside => True
  | .waiting call => call = .post dev.event dev.topic
  | .inside _ => False
  | .posting id _ _ _ => ∃ p, p.id = id ∧ p.ev = dev.event ∧ p.topic = dev.topic ∧ (published ++ [p]).Sublist table.posts
  | .leaving => ∃ p, Over table p ∧ p.ev = dev.event ∧ p.topic = dev.topic ∧ (published ++ [p]).Sublist table.posts

structure Dispatching (s : Dispatcher T H E) (published : List (Publication H E)) : Prop where
  delivering : Delivering s.table
  inOrder : published.Sublist s.table.posts
  told : List.Forall₂ Tells s.scheduler.broker.posted published
  passed : ∀ p ∈ published, Over s.table p
  stage : s.table.pc .runThread = .outside ∨ ∃ dev, s.scheduler.pc = .post ∧ s.scheduler.broker.dev = some dev ∧
    Stage s.table published dev (s.table.pc .runThread)

end Stages

variable [DecidableEq T] [DecidableEq H]

theorem stage_kept (table next : Subscribers (Client T) H E) (act : Subscribers.Act (Client T) H E) (delivering : Delivering table)
    (step : Subscribers.Step table act next) (published : List (Publication H E)) (dev : DelayedEvent E) (pc : CallPc H E)
    (stage : Stage table published dev pc) : Stage next published dev pc := by
  have grown := (forward_step table next act delivering step).posts.sublist
  cases pc with
  | outside => trivial
  | waiting call => exact stage
  | inside change => exact stage
  | posting id ev topic n =>
      obtain ⟨p, number, same, there, listed⟩ := stage
      exact ⟨p, number, same, there, listed.trans grown⟩
  | leaving =>
      obtain ⟨p, passed, same, there, listed⟩ := stage
      exact ⟨p, over_step table next act delivering p passed step, same, there, listed.trans grown⟩

theorem step_inside (table next : Subscribers (Client T) H E) (thread : Client T) (step : Subscribers.Step table (.step thread) next) :
    table.pc thread ≠ .outside := by
  cases step with
  | lockChange _ change waits free => rw [waits]; exact nofun
  | lockPost _ ev topic waits free => rw [waits]; exact nofun
  | change _ change inside => rw [inside]; exact nofun
  | deliver _ post ev topic n handler posting more => rw [posting]; exact nofun
  | finish _ post ev topic n posting last => rw [posting]; exact nofun
  | unlock _ leaves => rw [leaves]; exact nofun

theorem leaving_outside (table next : Subscribers (Client T) H E) (thread : Client T) (leaves : table.pc thread = .leaving)
    (step : Subscribers.Step table (.step thread) next) : next.pc thread = .outside := by
  have moves := step_advance table next _ step
  simp only [Subscribers.advance, leaves, Option.some.injEq] at moves
  rw [← moves]
  exact Function.update_self ..

theorem elsewhere_kept (table next : Subscribers (Client T) H E) (act : Subscribers.Act (Client T) H E)
    (step : Subscribers.Step table act next) (thread : Client T) (other : calls act ≠ thread) : next.pc thread = table.pc thread := by
  cases step <;> exact Function.update_of_ne (Ne.symm other) _ _

theorem stage_step (table next : Subscribers (Client T) H E) (delivering : Delivering table)
    (step : Subscribers.Step table (.step .runThread) next) (inside : table.pc .runThread ≠ .leaving)
    (published : List (Publication H E)) (inOrder : published.Sublist table.posts) (dev : DelayedEvent E)
    (stage : Stage table published dev (table.pc .runThread)) : Stage next published dev (next.pc .runThread) := by
  cases step with
  | lockChange _ change waits free =>
      rw [waits] at stage
      cases stage
  | lockPost _ ev topic waits free =>
      rw [waits] at stage
      cases stage
      simp only [setPc, Function.update_self]
      exact ⟨_, rfl, rfl, rfl, inOrder.append (List.Sublist.refl _)⟩
  | change _ change there =>
      rw [there] at stage
      cases stage
  | deliver _ post ev topic n handler posting more =>
      rw [posting] at stage
      simp only [setPc, Function.update_self]
      exact stage
  | finish _ post ev topic n posting last =>
      rw [posting] at stage
      obtain ⟨p, rfl, same, there, listed⟩ := stage
      have posted : p ∈ table.posts := listed.subset (List.mem_append_right _ (List.mem_singleton_self p))
      have passed := over_ended table (table.setPc .runThread .leaving) delivering .runThread p posted ev topic n posting rfl rfl
      simp only [setPc, Function.update_self]
      exact ⟨p, passed, same, there, listed⟩
  | unlock _ leaves => exact absurd leaves inside

theorem dispatching_step (s next : Dispatcher T H E) (act : Act T H E) (published : List (Publication H E))
    (dispatching : Dispatching s published) (step : Step s act next) : ∃ published, Dispatching next published := by
  obtain ⟨delivering, inOrder, told, passed, stage⟩ := dispatching
  have kept : ∀ act table, Subscribers.Step s.table act table → Delivering table ∧ published.Sublist table.posts ∧
      ∀ p ∈ published, Over table p := fun act table inner =>
    ⟨delivering_step s.table table act delivering inner, inOrder.trans (forward_step s.table table act delivering inner).posts.sublist,
      fun p mem => over_step s.table table act delivering p (passed p mem) inner⟩
  cases step with
  | scheduler act scheduler apart inner =>
      obtain ⟨posted, stays⟩ := Scheduler.posted_kept s.scheduler scheduler act inner (by
        rintro now rfl posting
        simp [atPost, posting] at apart)
      refine ⟨published, delivering, inOrder, by dsimp only; rwa [posted], passed, ?_⟩
      refine stage.imp_right ?_
      rintro ⟨dev, posting, held, stage⟩
      obtain ⟨there, same⟩ := stays posting
      exact ⟨dev, there, same.trans held, stage⟩
  | table act table other inner =>
      obtain ⟨delivers, listed, ended⟩ := kept act table inner
      refine ⟨published, delivers, listed, told, ended, ?_⟩
      dsimp only
      rw [elsewhere_kept s.table table act inner .runThread other]
      refine stage.imp_right ?_
      rintro ⟨dev, posting, held, stage⟩
      exact ⟨dev, posting, held, stage_kept s.table table act delivering inner published dev _ stage⟩
  | post dev table posting held inner =>
      obtain ⟨delivers, listed, ended⟩ := kept _ table inner
      refine ⟨published, delivers, listed, told, ended, .inr ⟨dev, posting, held, ?_⟩⟩
      cases inner with
      | call _ _ free => simp [setPc, Stage]
  | posting table inside inner =>
      obtain ⟨delivers, listed, ended⟩ := kept _ table inner
      refine ⟨published, delivers, listed, told, ended, .inr ?_⟩
      rcases stage with outside | ⟨dev, posting, held, stage⟩
      · exact absurd outside (step_inside s.table table .runThread inner)
      · exact ⟨dev, posting, held, stage_step s.table table delivering inner inside published inOrder dev stage⟩
  | returns now table scheduler leaves unlock relock =>
      rcases stage with outside | ⟨dev, posting, held, stage⟩
      · rw [outside] at leaves
        cases leaves
      · rw [leaves] at stage
        obtain ⟨p, ended, same, there, listed⟩ := stage
        obtain ⟨delivers, _, before⟩ := kept _ table unlock
        have grown := (forward_step s.table table _ delivering unlock).posts.sublist
        have posted : scheduler.broker.posted = s.scheduler.broker.posted ++ [⟨dev.event, dev.topic, dev⟩] := by
          cases relock with
          | run _ _ moves =>
              obtain ⟨taken, here, rfl⟩ := Scheduler.posting_moves s.scheduler scheduler now posting moves
              rw [held] at here
              cases here
              rfl
        refine ⟨published ++ [p], delivers, listed.trans grown, ?_, ?_, .inl ?_⟩
        · dsimp only
          rw [posted]
          exact List.rel_append told (.cons ⟨same, there⟩ .nil)
        · intro q mem
          cases List.mem_append.mp mem with
          | inl earlier => exact before q earlier
          | inr last =>
              obtain rfl := List.mem_singleton.mp last
              exact over_step s.table table _ delivering q ended unlock
        · exact leaving_outside s.table table .runThread leaves unlock

theorem dispatching_run (acts : List (Act T H E)) (s : Dispatcher T H E) (run : Run Step initial acts s) :
    ∃ published, Dispatching s published := by
  apply run_invariant Step (fun s => ∃ published, Dispatching s published) _ initial s acts _ run
  · rintro before act after ⟨published, dispatching⟩ step
    exact dispatching_step before after act published dispatching step
  · exact ⟨[], initial_delivering, .slnil, .nil, nofun, .inl rfl⟩

-- Each event given to postDelayed is pending, removed by a call, in the hands of the run
-- thread or posted, and only one of these; what is posted was due, and has reached every
-- handler that was subscribed to its topic when its post took the lock, as often as it was
-- subscribed, in the order of the posts.
theorem delayed_delivered (acts : List (Act T H E)) (s : Dispatcher T H E) (run : Run Step initial acts s) :
    (s.scheduler.broker.delayedEvents ++ s.scheduler.broker.removed ++ s.scheduler.broker.dev.toList ++
        s.scheduler.broker.posted.map Posting.origin).Perm s.scheduler.broker.scheduled ∧
      s.scheduler.broker.scheduled.Nodup ∧
      s.scheduler.broker.scheduled.map EventBroker.request = (acts.filterMap Act.onScheduler).filterMap Scheduler.requested ∧
      (∀ dev, dev ∈ s.scheduler.broker.removed ↔ Happens Scheduler.Step (fun before act => dev ∈ before.takenBack act) .initial
        (acts.filterMap Act.onScheduler) s.scheduler) ∧
      (∀ posting ∈ s.scheduler.broker.posted, ∃ now, .run now ∈ acts.filterMap Act.onScheduler ∧ posting.origin.deadline ≤ now) ∧
      (∀ p, p ∈ s.table.posts ↔ Happens Subscribers.Step (Publishes p) .initial (acts.filterMap Act.onTable) s.table) ∧
      ∃ published, published.Sublist s.table.posts ∧
        List.Forall₂ (fun posting p => p.ev = posting.origin.event ∧ p.topic = posting.origin.topic ∧
          receiptsOf s.table.received p.id = receipts p) s.scheduler.broker.posted published ∧
        (s.table.received.map Receipt.post).Pairwise (fun p q => p ≤ q) := by
  obtain ⟨onScheduler, onTable⟩ := halves_run acts s run
  obtain ⟨actions, reached⟩ := Scheduler.run_refines _ s.scheduler onScheduler
  have accounted := (EventBroker.runs_delivering actions s.scheduler.broker reached).accounted
  have places := (EventBroker.places_apart s.scheduler.broker).trans accounted.places
  obtain ⟨published, dispatching⟩ := dispatching_run acts s run
  refine ⟨places, ?_, Scheduler.requested_run _ s.scheduler onScheduler, ?_, ?_, ?_, published, dispatching.inOrder, ?_, ?_⟩
  · exact (List.Perm.nodup_iff accounted.places).mp (EventBroker.accounted_distinct s.scheduler.broker accounted)
  · intro dev
    have recorded := run_recorded Scheduler.Step (fun _ => True) (fun s => dev ∈ s.broker.removed)
      (fun before act => dev ∈ before.takenBack act) (fun _ _ _ _ _ => trivial)
      (fun s act next _ step => by rw [Scheduler.removed_step s next act step, List.mem_append]) .initial s.scheduler _ trivial
      onScheduler
    exact recorded.trans (or_iff_right List.not_mem_nil)
  · intro posting posted
    apply Scheduler.taken_due _ s.scheduler onScheduler
    exact List.mem_append_left _ (List.mem_map_of_mem posted)
  · intro p
    have recorded := run_recorded Subscribers.Step Delivering (fun s => p ∈ s.posts) (Publishes p)
      (fun before act after => delivering_step before after act)
      (fun before act after delivering => posts_step before after act delivering p) .initial s.table _ initial_delivering onTable
    exact recorded.trans (or_iff_right List.not_mem_nil)
  · refine List.forall₂_iff_zip.mpr ⟨dispatching.told.length_eq, ?_⟩
    intro posting p paired
    obtain ⟨same, there⟩ := (List.forall₂_iff_zip.mp dispatching.told).2 paired
    obtain ⟨left, right⟩ := List.of_mem_zip paired
    obtain ⟨event, topic⟩ := accounted.unchanged posting left
    exact ⟨same.trans event, there.trans topic, over_receipts s.table dispatching.delivering p (dispatching.passed p right)⟩
  · exact received_ordered s.table dispatching.delivering

theorem delayed_delivered_overtaking : ∃ (s : Dispatcher Bool Nat String) (published : List (Publication Nat String)),
    s.scheduler.broker.delayedEvents.map DelayedEvent.event = ["late"] ∧ published.Sublist s.table.posts ∧
      List.Forall₂ (fun posting p => p.ev = posting.origin.event ∧ p.topic = posting.origin.topic ∧
        receiptsOf s.table.received p.id = receipts p) s.scheduler.broker.posted published := by
  let subscribe : List (Act Bool Nat String) := [.table (.call (.caller true) (.change (.subscribe 7 5))),
    .table (.step (.caller true)), .table (.step (.caller true)), .table (.step (.caller true))]
  let acts : List (Act Bool Nat String) := subscribe ++ subscribe ++ [.scheduler (.postDelayed "late" 5 9 0),
    .scheduler (.postDelayed "soon" 5 2 0), .scheduler (.run 0), .scheduler (.run 0), .scheduler (.run 0), .scheduler (.run 0),
    .scheduler .wake, .scheduler (.run 0), .scheduler (.run 2000000), .scheduler (.run 0),
    .table (.call .runThread (.post "soon" 5)), .table (.step .runThread), .table (.step .runThread), .table (.step .runThread),
    .table (.step .runThread), .returns 0]
  let s : Dispatcher Bool Nat String := (follow advance (fun _ _ => true) initial acts).get (by decide +kernel)
  have run : Run Step initial acts s := follow_reached Step advance advance_step _ _ _ (Option.some_get _).symm
  obtain ⟨_, _, _, _, _, _, published, inOrder, told, _⟩ := delayed_delivered acts s run
  exact ⟨s, published, by decide +kernel, inOrder, told⟩

end Dispatcher

end CameraController
