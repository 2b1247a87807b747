import CameraController.BrokerScheduler

set_option autoImplicit false

namespace CameraController

namespace Scheduler

open Transition

variable {A : Type}

structure Stuck (s : Scheduler A) : Prop where
  joining : s.stop = .joining
  blocked : s.pc = .blocked none
  quiet : s.notifying = 0

-- The run thread has found shouldStop() false and will wait until an event is
-- added; it does not yet hear notify_one().
def Deaf (s : Scheduler A) : Prop := s.pc = .test ∧ s.broker.delayedEvents = [] ∨ s.pc = .sleep none

def Heard (before : Scheduler A) (act : Act A) (_ : Scheduler A) : Prop := act = .notifyStop → ¬ Deaf before

structure Stoppable (s : Scheduler A) : Prop where
  flag : s.stop ≠ .outside → s.shouldStop = true
  hears : s.stop = .joining → ¬ Deaf s ∧ s.pc ≠ .blocked none

theorem notified_hears (s next : Scheduler A) (pc : next.pc = notified s.pc) (broker : next.broker = s.broker) (hears : ¬ Deaf s) :
    ¬ Deaf next ∧ next.pc ≠ .blocked none := by
  cases notified_cases s.pc with
  | inl same =>
      rw [same.1] at pc
      refine ⟨?_, by rw [pc]; exact same.2 none⟩
      rw [Deaf, pc, broker]
      exact hears
  | inr woken =>
      rw [woken.1] at pc
      refine ⟨?_, by rw [pc]; exact RunPc.noConfusion⟩
      rw [Deaf, pc]
      exact fun deaf => deaf.elim (fun test => RunPc.noConfusion test.1) RunPc.noConfusion

theorem unlocked_hears (s next : Scheduler A) (free : holds s.pc = false) (pc : next.pc = s.pc)
    (hears : ¬ Deaf s ∧ s.pc ≠ .blocked none) : ¬ Deaf next ∧ next.pc ≠ .blocked none := by
  refine ⟨?_, by rw [pc]; exact hears.2⟩
  rw [Deaf, pc]
  rintro (⟨test, _⟩ | sleep)
  · rw [test] at free; cases free
  · rw [sleep] at free; cases free

theorem run_hears (s next : Scheduler A) (now : Int) (set : s.shouldStop = true) (moves : s.runStep now = some next)
    (hears : ¬ Deaf s ∧ s.pc ≠ .blocked none) : ¬ Deaf next ∧ next.pc ≠ .blocked none := by
  obtain ⟨broker, shouldStop, pc, notifying, stop⟩ := s
  cases pc with
  | test =>
      cases moves
      refine ⟨?_, RunPc.noConfusion⟩
      rintro (⟨test, _⟩ | sleep)
      · cases test
      · apply hears.1
        refine .inl ⟨rfl, ?_⟩
        have none := RunPc.sleep.inj sleep
        rwa [Option.map_eq_none_iff, List.head?_eq_none_iff] at none
  | sleep deadline =>
      cases moves
      refine ⟨by simp [Deaf], ?_⟩
      rintro ⟨rfl⟩
      exact hears.1 (.inr rfl)
  | check =>
      cases moves
      obtain rfl : shouldStop = true := set
      exact ⟨by simp [Deaf], RunPc.noConfusion⟩
  | due =>
      cases moves
      simp only [Deaf]
      cases (broker.pop now).dev.isSome <;> simp
  | post =>
      obtain ⟨dev, held, rfl⟩ := posting_moves _ next now rfl moves
      simp [Deaf]
  | blocked deadline => cases moves
  | finished => cases moves
  | lock => cases moves; simp [Deaf]
  | woken => cases moves; simp [Deaf]
  | unlock => cases moves; simp [Deaf]
  | relock => cases moves; simp [Deaf]

theorem run_step_keeps (s next : Scheduler A) (now : Int) (moves : s.runStep now = some next) :
    next.shouldStop = s.shouldStop ∧ next.stop = s.stop := by
  obtain ⟨broker, shouldStop, pc, notifying, stop⟩ := s
  cases pc with
  | post =>
      obtain ⟨dev, held, rfl⟩ := posting_moves _ next now rfl moves
      exact ⟨rfl, rfl⟩
  | _ => cases moves <;> exact ⟨rfl, rfl⟩

theorem stoppable_step (s next : Scheduler A) (act : Act A) (stoppable : Stoppable s) (step : Step s act next)
    (heard : Heard s act next) : Stoppable next := by
  cases step with
  | run _ now moves =>
      obtain ⟨flag, stop⟩ := run_step_keeps s next now moves
      refine ⟨by rw [flag, stop]; exact stoppable.flag, ?_⟩
      intro joining
      rw [stop] at joining
      exact run_hears s next now (stoppable.flag (by rw [joining]; exact StopPc.noConfusion)) moves (stoppable.hears joining)
  | wake deadline asleep => exact ⟨stoppable.flag, fun _ => by simp [Deaf]⟩
  | postDelayed ev topic delayMs now free =>
      exact ⟨stoppable.flag, fun joining => unlocked_hears s _ free rfl (stoppable.hears joining)⟩
  | notify n pending => exact ⟨stoppable.flag, fun joining => notified_hears s _ rfl rfl (stoppable.hears joining).1⟩
  | removeDelayed id free => exact ⟨stoppable.flag, fun joining => unlocked_hears s _ free rfl (stoppable.hears joining)⟩
  | clearDelayedEvents free => exact ⟨stoppable.flag, fun joining => unlocked_hears s _ free rfl (stoppable.hears joining)⟩
  | setShouldStop fresh => exact ⟨fun _ => rfl, fun joining => nomatch joining⟩
  | notifyStop set =>
      refine ⟨fun _ => stoppable.flag (by rw [set]; exact StopPc.noConfusion), fun _ => ?_⟩
      exact notified_hears s _ rfl rfl (heard rfl)

theorem stop_heard (acts : List (Act A)) (s : Scheduler A) (run : Run (Meeting Step Heard) initial acts s) : ¬ Stuck s := by
  have stoppable : Stoppable s := by
    apply run_invariant _ Stoppable _ _ _ _ _ run
    · rintro before act after stoppable ⟨step, heard⟩
      exact stoppable_step before after act stoppable step heard
    · exact ⟨fun inside => absurd rfl inside, fun joining => nomatch joining⟩
  exact fun stuck => (stoppable.hears stuck.joining).2 stuck.blocked

instance (s : Scheduler A) : Decidable (Deaf s) := inferInstanceAs (Decidable (_ ∧ _ ∨ _))

theorem stop_heard_asleep : ∃ s : Scheduler Unit,
    Run (Meeting Step Heard) initial [.run 0, .run 0, .run 0, .run 0, .setShouldStop, .notifyStop] s ∧ ¬ Stuck s := by
  let last : Scheduler Unit := { (initial : Scheduler Unit) with shouldStop := true, pc := .woken, stop := .joining }
  have run : Run (Meeting Step Heard) initial [.run 0, .run 0, .run 0, .run 0, .setShouldStop, .notifyStop] last :=
    advance_all_run (fun s act => act != .notifyStop || !decide (Deaf s)) Heard
      (by
        intro s act next checked same
        subst same
        simpa using checked)
      _ _ _ (by decide)
  exact ⟨last, run, stop_heard _ last run⟩

-- The flag is set and the notification sent between the check and the wait.
theorem stop_missed : ¬ ∀ (acts : List (Act Unit)) (s : Scheduler Unit), Run Step initial acts s → ¬ Stuck s := by
  intro claimed
  let last : Scheduler Unit := { (initial : Scheduler Unit) with shouldStop := true, pc := .blocked none, stop := .joining }
  have run : Run Step initial [.run 0, .run 0, .setShouldStop, .notifyStop, .run 0, .run 0] last :=
    advance_all_reached _ _ _ (by decide)
  exact claimed _ last run ⟨rfl, rfl, rfl⟩

end Scheduler

end CameraController
