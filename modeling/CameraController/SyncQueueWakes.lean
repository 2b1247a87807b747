import CameraController.SyncQueueFifo
import Mathlib.Data.Fintype.Basic

set_option autoImplicit false

namespace CameraController

namespace SynchronizedQueue

open Transition Mutex

variable {T A : Type}

-- A thread that will look at the queue without being notified, or that is about
-- to notify another one.
def coming : QueuePc A → Bool
  | .notifying _ | .woken | .testing | .reading | .popping _ => true
  | .outside | .locking _ | .pushing _ | .entering | .asleep | .leaving _ => false

def Act.thread : Act T A → T
  | .call thread _ | .step thread | .notify thread _ | .wake thread | .ret thread _ => thread

-- Where calls and threads that wake for no reason are left out.
def Act.goesOn : Act T A → Bool
  | .step _ | .notify _ _ | .ret _ _ => true
  | .call _ _ | .wake _ => false

section Waking

variable [Fintype T]

-- As long as a thread is asleep, each element has somebody coming for it.
def Attended (s : SynchronizedQueue T A) : Prop := (∃ thread, s.pc thread = .asleep) → s.queue.length ≤ count coming s.pc

variable [DecidableEq T]

theorem attended_moves (s next : SynchronizedQueue T A) (attended : Attended s) (thread : T) (pc : QueuePc A)
    (pcs : next.pc = Function.update s.pc thread pc) (awake : sleeping pc = false)
    (enough : next.queue.length + (coming (s.pc thread)).toNat ≤ s.queue.length + (coming pc).toNat) : Attended next := by
  rintro ⟨sleeper, sleeps⟩
  have before : s.queue.length ≤ count coming s.pc := by
    apply attended
    refine ⟨sleeper, ?_⟩
    by_cases here : sleeper = thread
    · rw [pcs, here, Function.update_self] at sleeps
      rw [sleeps] at awake
      cases awake
    · rwa [pcs, Function.update_of_ne here] at sleeps
  have moved := count_moves coming s.pc thread pc
  rw [pcs]
  omega

theorem attended_step (s next : SynchronizedQueue T A) (act : Act T A) (attended : Attended s) (step : Step s act next) :
    Attended next := by
  cases step with
  | put thread data free => exact attended_moves s _ attended thread _ rfl rfl (by rw [free]; exact Nat.le_refl _)
  | lock thread data waits free => exact attended_moves s _ attended thread _ rfl rfl (by rw [waits]; exact Nat.le_refl _)
  | push thread data inside =>
      refine attended_moves s _ attended thread _ rfl rfl ?_
      rw [inside, List.length_append]
      exact Nat.le_refl _
  | notifyOne thread sleeper data inside sleeps =>
      have different : thread ≠ sleeper := by
        rintro rfl
        rw [inside] at sleeps
        cases sleeps
      intro _
      have before : s.queue.length ≤ count coming s.pc := attended ⟨sleeper, sleeps⟩
      have first := count_moves coming s.pc sleeper .woken
      have second := count_moves coming (Function.update s.pc sleeper .woken) thread (.leaving (.put data))
      rw [sleeps] at first
      rw [Function.update_of_ne different, inside] at second
      simp only [coming, Bool.toNat_true, Bool.toNat_false] at first second
      simp only [setPc]
      omega
  | notifyNone thread data inside nobody =>
      rintro ⟨sleeper, sleeps⟩
      dsimp only [setPc] at sleeps
      by_cases here : sleeper = thread
      · rw [here, Function.update_self] at sleeps
        cases sleeps
      · rw [Function.update_of_ne here] at sleeps
        exact absurd sleeps (nobody sleeper)
  | get thread free => exact attended_moves s _ attended thread _ rfl rfl (by rw [free]; exact Nat.le_refl _)
  | enter thread waits free =>
      refine attended_moves s _ attended thread _ rfl rfl ?_
      cases waits with
      | inl fresh => rw [fresh]; exact Nat.le_succ _
      | inr again => rw [again]; exact Nat.le_refl _
  | wait thread inside empty =>
      intro _
      rw [setPc, empty]
      exact Nat.zero_le _
  | wake thread sleeps => exact attended_moves s _ attended thread _ rfl rfl (by rw [sleeps]; exact Nat.le_succ _)
  | pass thread inside some => exact attended_moves s _ attended thread _ rfl rfl (by rw [inside]; exact Nat.le_refl _)
  | front thread result rest inside head =>
      exact attended_moves s _ attended thread _ rfl rfl (by rw [inside]; exact Nat.le_refl _)
  | popFront thread result first rest inside head =>
      refine attended_moves s _ attended thread _ rfl rfl ?_
      rw [inside, head]
      exact Nat.le_refl _
  | unlock thread operation leaves =>
      exact attended_moves s _ attended thread _ rfl rfl (by rw [leaves]; exact Nat.le_refl _)

theorem attended_run (acts : List (Act T A)) (s : SynchronizedQueue T A) (run : Run Step initial acts s) : Attended s := by
  apply run_invariant Step Attended (fun before act after => attended_step before after act) initial s acts _ run
  exact fun _ => Nat.zero_le _

omit [DecidableEq T] in
theorem attended_idle (s : SynchronizedQueue T A) (attended : Attended s)
    (idle : ∀ thread, s.pc thread = .outside ∨ s.pc thread = .asleep) (sleeps : ∃ thread, s.pc thread = .asleep) :
    s.queue = [] := by
  have nobody : ¬ 0 < count coming s.pc := by
    rw [count_positive]
    rintro ⟨thread, comes⟩
    cases idle thread with
    | inl outside => rw [outside] at comes; cases comes
    | inr asleep => rw [asleep] at comes; cases comes
  have bound := attended sleeps
  exact List.length_eq_zero_iff.mp (by omega)

end Waking

variable [DecidableEq T]

def turns : QueuePc A → Nat
  | .testing => 4
  | .pushing _ | .reading => 3
  | .notifying _ | .popping _ => 2
  | .leaving _ => 1
  | _ => 0

theorem turns_bound (pc : QueuePc A) : turns pc ≤ 4 := by
  cases pc <;> simp [turns]

theorem turns_positive (pc : QueuePc A) (inside : critical pc = true) : 0 < turns pc := by
  cases pc <;> first | exact Nat.succ_pos _ | cases inside

theorem owner_goes_on (s : SynchronizedQueue T A) (sees : ∀ thread, Sees s.queue (s.pc thread)) (thread : T)
    (inside : critical (s.pc thread) = true) : ∃ act next, Step s act next ∧ act.goesOn = true ∧ act.thread = thread ∧
      (next.mutex = none ∨ next.mutex = s.mutex ∧ turns (next.pc thread) < turns (s.pc thread)) := by
  have nearer : ∀ (pcs : T → QueuePc A) (pc before : QueuePc A), turns before = turns pc + 1 →
      turns (Function.update pcs thread pc thread) < turns before := by
    intro pcs pc before one
    rw [Function.update_self, one]
    exact Nat.lt_add_one _
  have knows := sees thread
  cases here : s.pc thread with
  | pushing data => exact ⟨_, _, .push s thread data here, rfl, rfl, .inr ⟨rfl, nearer _ _ _ rfl⟩⟩
  | notifying data =>
      by_cases someone : ∃ other, s.pc other = .asleep
      · obtain ⟨sleeper, sleeps⟩ := someone
        exact ⟨_, _, .notifyOne s thread sleeper data here sleeps, rfl, rfl, .inr ⟨rfl, nearer _ _ _ rfl⟩⟩
      · exact ⟨_, _, .notifyNone s thread data here (fun other sleeps => someone ⟨other, sleeps⟩), rfl, rfl,
          .inr ⟨rfl, nearer _ _ _ rfl⟩⟩
  | testing =>
      by_cases empty : s.queue = []
      · exact ⟨_, _, .wait s thread here empty, rfl, rfl, .inl rfl⟩
      · exact ⟨_, _, .pass s thread here empty, rfl, rfl, .inr ⟨rfl, nearer _ _ _ rfl⟩⟩
  | reading =>
      rw [here] at knows
      obtain ⟨result, rest, head⟩ := List.exists_cons_of_ne_nil knows
      exact ⟨_, _, .front s thread result rest here head, rfl, rfl, .inr ⟨rfl, nearer _ _ _ rfl⟩⟩
  | popping result =>
      rw [here] at knows
      obtain ⟨rest, head⟩ := List.head?_eq_some_iff.mp knows
      exact ⟨_, _, .popFront s thread result result rest here head, rfl, rfl, .inr ⟨rfl, nearer _ _ _ rfl⟩⟩
  | leaving operation => exact ⟨_, _, .unlock s thread operation here, rfl, rfl, .inl rfl⟩
  | _ => rw [here] at inside; cases inside

theorem goes_on (s : SynchronizedQueue T A) (owned : Owned critical s.mutex s.pc) (sees : ∀ thread, Sees s.queue (s.pc thread))
    (thread : T) (busy : s.pc thread ≠ .outside) (awake : s.pc thread ≠ .asleep) :
    ∃ act next, Step s act next ∧ act.goesOn = true ∧ (act.thread = thread ∨ s.mutex = some act.thread) := by
  cases free : s.mutex with
  | some owner =>
      obtain ⟨act, next, step, further, own, _⟩ := owner_goes_on s sees owner ((owned owner).mpr free)
      exact ⟨act, next, step, further, .inr (own ▸ rfl)⟩
  | none =>
      cases here : s.pc thread with
      | outside => exact absurd here busy
      | asleep => exact absurd here awake
      | locking data => exact ⟨_, _, .lock s thread data here free, rfl, .inl rfl⟩
      | entering => exact ⟨_, _, .enter s thread (.inl here) free, rfl, .inl rfl⟩
      | woken => exact ⟨_, _, .enter s thread (.inr here) free, rfl, .inl rfl⟩
      | _ =>
          obtain ⟨act, next, step, further, own, _⟩ := owner_goes_on s sees thread (by rw [here]; rfl)
          exact ⟨act, next, step, further, .inl own⟩

-- No notification is lost: a thread stays asleep beside an element only while
-- enough others are coming, and when nobody can go on there is no element left.
theorem no_wakeup_lost [Fintype T] [DecidableEq A] (acts : List (Act T A)) (s : SynchronizedQueue T A)
    (run : Run Step initial acts s) :
    ((∃ thread, s.pc thread = .asleep) → s.queue.length ≤ count coming s.pc) ∧
      ((∃ act next, Step s act next ∧ act.goesOn = true) ∨
        (∀ thread, s.pc thread = .outside ∨ s.pc thread = .asleep) ∧ ((∃ thread, s.pc thread = .asleep) → s.queue = [])) := by
  obtain ⟨owned, sees, _⟩ := orderly_run acts s run
  have attended := attended_run acts s run
  refine ⟨attended, ?_⟩
  by_cases someone : ∃ thread, s.pc thread ≠ .outside ∧ s.pc thread ≠ .asleep
  · obtain ⟨thread, busy, awake⟩ := someone
    obtain ⟨act, next, step, further, _⟩ := goes_on s owned sees thread busy awake
    exact .inl ⟨act, next, step, further⟩
  · have idle : ∀ thread, s.pc thread = .outside ∨ s.pc thread = .asleep := by
      intro thread
      by_contra neither
      exact someone ⟨thread, not_or.mp neither⟩
    exact .inr ⟨idle, attended_idle s attended idle⟩

theorem no_wakeup_lost_waiting : ∃ s : SynchronizedQueue (Fin 3) Nat,
    s.pc 1 = .asleep ∧ s.queue = [7] ∧ 1 ≤ count coming s.pc := by
  let acts : List (Act (Fin 3) Nat) := [.call 0 .get, .step 0, .step 0, .call 1 .get, .step 1, .step 1, .call 2 (.put 7),
    .step 2, .step 2, .notify 2 (some 0), .ret 2 (.put 7)]
  let s : SynchronizedQueue (Fin 3) Nat := (follow advance (fun _ _ => true) initial acts).get (by decide +kernel)
  have run : Run Step initial acts s := follow_reached Step advance advance_step _ _ _ (Option.some_get _).symm
  have asleep : s.pc 1 = .asleep := by decide +kernel
  have queue : s.queue = [7] := by decide +kernel
  refine ⟨s, asleep, queue, ?_⟩
  have bound := (no_wakeup_lost acts s run).1 ⟨1, asleep⟩
  rwa [queue] at bound

end SynchronizedQueue

end CameraController
