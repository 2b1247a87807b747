import CameraController.ControllerReturns
import CameraController.ControllerPosts
import Mathlib.Order.WellFounded

set_option autoImplicit false

namespace CameraController

open Effects Transition

namespace Controller

-- How far the events that lead to others are from the last of them. A flush
-- leaves it as it is, and so does a command that is deferred.
def prospects : CcEvent → Nat
  | .evCameraConnect => 2
  | .evCameraConnected => 1
  | .evCameraConnectionError => 1
  | .evCameraCaptureWired => 2
  | .evCameraCaptureSuccess => 1
  | .evCameraCaptureError => 1
  | .evCameraDownload => 4
  | .evCameraDownloadSuccess => 1
  | .evCameraDownloadError => 1
  | _ => 0

-- One more than what handling the event may put in the queue, for the signals
-- whose handling enters no state with a function to perform.
def followups : CcEvent → Nat
  | .evCameraGenericError => 2
  | .evCameraGetStatus => 5
  | .evCameraGetOptions => 9
  | .evCameraSetConfig => 13
  | _ => 1

theorem followups_positive (sig : CcEvent) : 0 < followups sig := by
  cases sig <;> exact Nat.succ_pos _

theorem prospects_shrink (sig : CcEvent) (further : prospects sig ≠ 0) : price prospects sig < prospects sig := by
  cases sig <;> first | decide | exact absurd rfl further

theorem prospects_closed (sig : CcEvent) (closed : prospects sig = 0) : price prospects sig = 0 := by
  cases sig <;> first | rfl | cases closed

theorem followups_shrink (sig : CcEvent) (closed : prospects sig = 0) : price followups sig < followups sig := by
  cases sig <;> first | decide | exact Nat.zero_lt_one | cases closed

section Settling

variable {C F : Type} (platform : Platform C F)

theorem reaction_heaps (cost : CcEvent → Nat) (S next : ControllerState) (ev : EventPtr) (w after : World C F)
    (closed : prospects ev.sig = 0) (reaction : Reaction platform S ev w next after) :
    (ev.deferrable = true ∧ deferEvent ev w = .ok () after) ∨ Heaps cost (price cost ev.sig) w after := by
  have feeds := heaps_feeds (C := C) (F := F) platform cost
  have emits := heaps_emits (C := C) (F := F) platform cost
  have excluded : ∀ sig, ev.sig = sig → prospects sig ≠ 0 → False := fun sig named further => further (named ▸ closed)
  cases reaction with
  | ignores _ _ _ kept stays => exact .inr (emits.more 0 _ _ _ (Nat.zero_le _) (emits.refl w))
  | defers _ _ _ _ occupied command run => exact .inl ⟨command, run⟩
  | fails _ _ _ _ substate broken run =>
      rw [breaks_price cost S ev broken]
      exact .inr (Prog.within_ok _ _ _ _ _ (disconnect_within emits (heaps_any_camera cost) trivial) run)
  | configures _ _ _ config named carried run =>
      rw [named]
      have effect := Prog.within_ok _ _ _ _ _ (configure_within feeds) run
      exact .inr effect
  | reports _ _ _ named run =>
      rw [named]
      have effect := Prog.within_ok _ _ _ _ _ (read_status_within feeds) run
      exact .inr effect
  | lists _ _ _ named run =>
      rw [named]
      have effect := Prog.within_ok _ _ _ _ _ (read_options_within feeds) run
      exact .inr effect
  | leaves _ _ named => exact .inr (emits.more 0 _ _ _ (Nat.zero_le _) (emits.refl w))
  | connects _ _ _ _ start named run => exact (excluded _ named (by decide)).elim
  | refused _ _ _ named run => exact (excluded _ named (by decide)).elim
  | established _ _ ready set _ named setUp attempts run => exact (excluded _ named (by decide)).elim
  | captures _ _ _ named run => exact (excluded _ named (by decide)).elim
  | downloads _ _ _ cameraPath named carried run => exact (excluded _ named (by decide)).elim
  | completes _ _ _ _ ended run =>
      rcases finishes_named S ev ended with named | named | named <;> exact (excluded _ named (by decide)).elim

def rank (world : World C F) : Nat × Nat := (total prospects world, load followups world.eventList)

def Lower : Nat × Nat → Nat × Nat → Prop := Prod.Lex (· < ·) (· < ·)

theorem lower_founded : WellFounded Lower := (Prod.lex ⟨_, Nat.lt_wfRel.wf⟩ ⟨_, Nat.lt_wfRel.wf⟩).wf

theorem lower_ranks (first second low high : Nat) (most : first ≤ second) (least : low < high) :
    Lower (first, low) (second, high) := by
  cases Nat.lt_or_eq_of_le most with
  | inl less => exact .left _ _ less
  | inr same => exact same ▸ .right _ least

theorem arrived_none (arrived : List Command) (before after : World C F) (alone : after.posted = before.posted)
    (count : after.posted.length = before.posted.length + arrived.length) : arrived = [] := by
  rw [alone] at count
  exact List.length_eq_zero_iff.mp (by omega)

theorem reaction_lowers (S next : ControllerState) (world after : World C F) (ev : EventPtr) (rest : List EventPtr)
    (head : world.eventList = ev :: rest) (alone : after.posted = world.posted)
    (reaction : Reaction platform S ev (World.dequeued world rest) next after) : Lower (rank after) (rank world) := by
  have taken := total_dequeued prospects world ev rest head
  have first : load followups world.eventList = followups ev.sig + load followups rest := by rw [head, load_cons]
  have deferred : ev.deferrable = true ∧ deferEvent ev (World.dequeued world rest) = .ok () after →
      Lower (rank after) (rank world) := by
    rintro ⟨command, run⟩
    have kept := total_deferred prospects ev _ after run
    have queue : after.eventList = rest := by cases run; rfl
    have positive := followups_positive ev.sig
    apply lower_ranks
    · omega
    · rw [queue, first]; omega
  by_cases closed : prospects ev.sig = 0
  · cases reaction_heaps platform followups S next ev _ after closed reaction with
    | inl put => exact deferred put
    | inr heaps =>
        cases reaction_weighs platform prospects S next ev _ after reaction with
        | inl put => exact deferred put
        | inr weighs =>
            obtain ⟨arrived, count, grown⟩ := heaps
            obtain ⟨others, size, least⟩ := weighs
            obtain rfl := arrived_none arrived (World.dequeued world rest) after alone count
            obtain rfl := arrived_none others (World.dequeued world rest) after alone size
            have small := followups_shrink ev.sig closed
            rw [prospects_closed ev.sig closed] at least
            apply lower_ranks
            · simp only [loadOf, List.map_nil, List.sum_nil] at least
              omega
            · simp only [loadOf, List.map_nil, List.sum_nil, World.dequeued] at grown
              omega
  · cases reaction_weighs platform prospects S next ev _ after reaction with
    | inl put => exact deferred put
    | inr weighs =>
        obtain ⟨others, size, least⟩ := weighs
        obtain rfl := arrived_none others (World.dequeued world rest) after alone size
        have small := prospects_shrink ev.sig closed
        apply Prod.Lex.left
        simp only [loadOf, List.map_nil, List.sum_nil] at least
        omega

-- While the controller empties the queue nothing arrives from outside, and no
-- exception leaves handleEvent.
structure Undisturbed (c : Config C F) : Prop where
  alone : ∀ n later, Run (ControllerStep platform) c (List.replicate n Input.handle) later → later.world.posted = c.world.posted
  returns : ∀ n later ev rest error after, Run (ControllerStep platform) c (List.replicate n Input.handle) later →
    later.world.eventList = ev :: rest →
    (machine platform).handleEvent turns (.signal ev) later.this (World.dequeued later.world rest) ≠ .threw error after

theorem undisturbed_step (c next : Config C F) (undisturbed : Undisturbed platform c)
    (step : ControllerStep platform c .handle next) : Undisturbed platform next where
  alone := by
    intro n later run
    have whole := undisturbed.alone (n + 1) later (.next c next later Input.handle _ step run)
    have first := undisturbed.alone 1 next (run_single _ c next Input.handle step)
    rw [whole, first]
  returns := fun n later ev rest error after run =>
    undisturbed.returns (n + 1) later ev rest error after (.next c next later Input.handle _ step run)

theorem sourced_typed (world : World C F) (sourced : Sourced world) (ev : EventPtr) (member : ev ∈ world.eventList) : ev.Typed := by
  cases sourced ev member with
  | inl commanded =>
      obtain ⟨command, id, rfl⟩ := commanded
      exact command.to_event_typed id
  | inr own => exact own.1

theorem handle_unique (c first second : Config C F) (left : ControllerStep platform c .handle first)
    (right : ControllerStep platform c .handle second) : first = second := by
  cases left with
  | handle ev rest this after head run =>
      cases right with
      | handle ev' rest' this' after' head' run' =>
          obtain ⟨rfl, rfl⟩ := List.cons.inj (head.symm.trans head')
          obtain ⟨rfl, rfl⟩ := Outcome.ok.inj (run.symm.trans run')
          rfl

theorem settling_handles (n m : Nat) (c last later : Config C F) (settles : Run (ControllerStep platform) c (List.replicate n .handle) last)
    (empty : last.world.eventList = []) (run : Run (ControllerStep platform) c (List.replicate m .handle) later)
    (waiting : later.world.eventList ≠ []) : ∃ next, ControllerStep platform later .handle next := by
  induction n generalizing m c with
  | zero =>
      cases settles
      cases m with
      | zero => cases run; exact absurd empty waiting
      | succ m =>
          cases run with
          | next _ middle _ _ _ step rest =>
              cases step with
              | handle ev queued this after head handled => rw [empty] at head; cases head
  | succ n ih =>
      cases settles with
      | next _ middle _ _ _ step rest =>
          cases m with
          | zero => cases run; exact ⟨middle, step⟩
          | succ m =>
              cases run with
              | next _ other _ _ _ first more =>
                  obtain rfl := handle_unique platform c other middle first step
                  exact ih m other rest more

def Fitting (c : Config C F) : Prop := ∀ n later ev rest, Run (ControllerStep platform) c (List.replicate n Input.handle) later →
  later.world.eventList = ev :: rest → ¬ Overruns platform later.this.state ev (World.dequeued later.world rest)

theorem fitting_step (c next : Config C F) (fitting : Fitting platform c) (step : ControllerStep platform c .handle next) :
    Fitting platform next := fun n later ev rest run =>
  fitting (n + 1) later ev rest (.next c next later Input.handle _ step run)

theorem head_overruns (outside : C) (downloadDir : String) (inputs : List Input) (c : Config C F)
    (run : Run (ControllerStep platform) (started outside downloadDir) inputs c) (ev : EventPtr) (rest : List EventPtr)
    (queue : c.world.eventList = ev :: rest) :
    Settled c ∧ (Overruns platform c.this.state ev (World.dequeued c.world rest) → ∀ next, ¬ ControllerStep platform c .handle next) ∧
      ∀ cause, (machine platform).handleEvent turns (.signal ev) c.this (World.dequeued c.world rest) = .fault cause →
        Overruns platform c.this.state ev (World.dequeued c.world rest) := by
  obtain ⟨settled, _, sourced⟩ := run_sourced platform outside downloadDir inputs c run
  have typed := sourced_typed c.world sourced ev (by rw [queue]; exact List.mem_cons_self)
  refine ⟨settled, ?_⟩
  obtain ⟨⟨state, temp⟩, world, dropped⟩ := c
  obtain rfl : temp = state := settled.registers
  obtain ⟨returns, faults⟩ := rested_returns_iff platform temp settled.rests ev typed (World.dequeued world rest)
  refine ⟨?_, fun cause handled => (faults cause handled).2⟩
  rintro overruns next (_ | ⟨ev', rest', this, after, head, handled⟩)
  obtain ⟨rfl, rfl⟩ := List.cons.inj (head.symm.trans queue)
  exact (returns.mp ⟨this, after, handled⟩).2 overruns

-- From every configuration that a run reaches, the queue is empty after finitely
-- many events, unless an overflow stops the controller.
theorem queue_settles_iff (outside : C) (downloadDir : String) (inputs : List Input) (c : Config C F)
    (run : Run (ControllerStep platform) (started outside downloadDir) inputs c) (undisturbed : Undisturbed platform c) :
    (∃ n last, Run (ControllerStep platform) c (List.replicate n .handle) last ∧ last.world.eventList = []) ↔
      Fitting platform c := by
  constructor
  · rintro ⟨n, last, settles, empty⟩ m later ev rest reaches queue overruns
    obtain ⟨next, step⟩ := settling_handles platform n m c last later settles empty reaches
      (by rw [queue]; exact List.cons_ne_nil ev rest)
    exact (head_overruns platform outside downloadDir _ later (run_append _ _ _ _ _ _ run reaches) ev rest queue).2.1
      overruns next step
  · intro fitting
    apply run_descends (ControllerStep platform) .handle Lower lower_founded (fun c => rank c.world)
      (fun c => (∃ inputs, Run (ControllerStep platform) (started outside downloadDir) inputs c) ∧ Undisturbed platform c ∧
        Fitting platform c)
      (fun c => c.world.eventList = []) _ c ⟨⟨inputs, run⟩, undisturbed, fitting⟩
    rintro c ⟨⟨inputs, run⟩, undisturbed, fitting⟩
    cases queue : c.world.eventList with
    | nil => exact .inl rfl
    | cons ev rest =>
        obtain ⟨settled, _, faults⟩ := head_overruns platform outside downloadDir inputs c run ev rest queue
        cases handled : (machine platform).handleEvent turns (.signal ev) c.this (World.dequeued c.world rest) with
        | ok this after =>
            have step : ControllerStep platform c .handle _ := .handle c ev rest this after queue handled
            refine .inr ⟨_, step, ⟨⟨inputs ++ [.handle], run_append _ _ _ _ _ _ run (run_single _ _ _ _ step)⟩,
              undisturbed_step platform c _ undisturbed step, fitting_step platform c _ fitting step⟩, ?_⟩
            have alone := undisturbed.alone 1 _ (run_single _ _ _ _ step)
            obtain ⟨⟨state, temp⟩, world, dropped⟩ := c
            obtain rfl : temp = state := settled.registers
            obtain ⟨_, reaction⟩ := handle_event_reaction platform this temp settled.rests ev _ after handled
            exact reaction_lowers platform temp this.state world after ev rest queue alone reaction
        | threw error after => exact absurd handled (undisturbed.returns 0 c ev rest error after (.done c) queue)
        | fault cause => exact absurd (faults cause handled) (fitting 0 c ev rest (.done c) queue)

def calm : Nat → Config C F → Bool
  | 0, c => c.world.eventList.isEmpty
  | n + 1, c =>
      match advance platform c .handle with
      | some next => next.world.posted == c.world.posted && calm n next
      | none => c.world.eventList.isEmpty

theorem step_advance (c next : Config C F) (input : Input) (step : ControllerStep platform c input next) :
    advance platform c input = some next := by
  cases step with
  | post command => rfl
  | handle ev rest this after head run => simp only [advance, head, run]

theorem calm_posted (fuel n : Nat) (c later : Config C F) (quiet : calm platform fuel c = true)
    (run : Run (ControllerStep platform) c (List.replicate n Input.handle) later) :
    later.world.posted = c.world.posted ∧ ∃ fuel, calm platform fuel later = true := by
  induction n generalizing fuel c with
  | zero => cases run; exact ⟨rfl, fuel, quiet⟩
  | succ n ih =>
      cases run with
      | next _ middle _ _ _ first rest =>
          have advanced := step_advance platform c middle .handle first
          cases fuel with
          | zero =>
              have empty := List.isEmpty_iff.mp quiet
              rw [advance, empty] at advanced
              cases advanced
          | succ fuel =>
              rw [calm, advanced] at quiet
              obtain ⟨same, still⟩ := Bool.and_eq_true_iff.mp quiet
              obtain ⟨alone, left⟩ := ih fuel middle still rest
              exact ⟨alone.trans (beq_iff_eq.mp same), left⟩

theorem calm_undisturbed (fuel : Nat) (c : Config C F) (quiet : calm platform fuel c = true) : Undisturbed platform c where
  alone := fun n later run => (calm_posted platform fuel n c later quiet run).1
  returns := by
    intro n later ev rest error after run queue threw
    obtain ⟨_, left, still⟩ := calm_posted platform fuel n c later quiet run
    cases left with
    | zero =>
        have empty := List.isEmpty_iff.mp still
        rw [queue] at empty
        cases empty
    | succ left =>
        rw [calm] at still
        simp only [advance, queue, threw] at still
        cases still

def halted (c : Config C F) : Bool :=
  match c.world.eventList with
  | [] => false
  | ev :: rest =>
      match (machine platform).handleEvent turns (.signal ev) c.this (World.dequeued c.world rest) with
      | .fault _ => true
      | _ => false

theorem halted_faults (c : Config C F) (stops : halted platform c = true) : ∃ ev rest cause, c.world.eventList = ev :: rest ∧
    (machine platform).handleEvent turns (.signal ev) c.this (World.dequeued c.world rest) = .fault cause := by
  unfold halted at stops
  cases queue : c.world.eventList with
  | nil => rw [queue] at stops; cases stops
  | cons ev rest =>
      rw [queue] at stops
      cases handled : (machine platform).handleEvent turns (.signal ev) c.this (World.dequeued c.world rest) with
      | ok this after => simp [handled] at stops
      | threw error after => simp [handled] at stops
      | fault cause => exact ⟨ev, rest, cause, rfl, handled⟩

theorem halted_stays (c : Config C F) (stops : halted platform c = true) (n : Nat) (later : Config C F)
    (run : Run (ControllerStep platform) c (List.replicate n .handle) later) : later = c := by
  obtain ⟨ev, rest, cause, queue, faulted⟩ := halted_faults platform c stops
  cases n with
  | zero => cases run; rfl
  | succ n =>
      cases run with
      | next _ middle _ _ _ step more =>
          cases step with
          | handle ev' rest' this after head handled =>
              obtain ⟨rfl, rfl⟩ := List.cons.inj (head.symm.trans queue)
              rw [faulted] at handled
              cases handled

theorem halted_undisturbed (c : Config C F) (stops : halted platform c = true) : Undisturbed platform c where
  alone := fun n later run => by rw [halted_stays platform c stops n later run]
  returns := by
    intro n later ev rest error after run queue threw
    obtain rfl := halted_stays platform c stops n later run
    obtain ⟨ev', rest', cause, head, faulted⟩ := halted_faults platform later stops
    obtain ⟨rfl, rfl⟩ := List.cons.inj (head.symm.trans queue)
    rw [faulted] at threw
    cases threw

end Settling

def busyInputs : List Input :=
  [.post .connect, .handle, .handle, .post .captureWired, .post .getStatus, .post (.download ⟨"/store", "a.jpg"⟩)]

theorem queue_settles_busy : ∃ c, Run (ControllerStep working) (started 0 "/photos") busyInputs c ∧
    Undisturbed working c ∧
    ((∃ n last, Run (ControllerStep working) c (List.replicate n .handle) last ∧ last.world.eventList = []) ↔
      Fitting working c) := by
  obtain ⟨c, run, quiet⟩ := advance_all_observed working (fun c => calm working 10 c) (started 0 "/photos") busyInputs true
    (by decide +kernel)
  have undisturbed := calm_undisturbed working 10 c quiet
  exact ⟨c, run, undisturbed, queue_settles_iff working 0 "/photos" busyInputs c run undisturbed⟩

def longName : CameraPath := ⟨"/store", String.ofList (List.replicate 128 'a')⟩

theorem long_name_unsettled : ¬ ∀ (inputs : List Input) (c : Config Nat Unit),
    Run (ControllerStep working) (started 0 "/photos") inputs c → Undisturbed working c →
      ∃ n last, Run (ControllerStep working) c (List.replicate n .handle) last ∧ last.world.eventList = [] := by
  intro claimed
  obtain ⟨c, run, stops⟩ := advance_all_observed working (fun c => halted working c) (started 0 "/photos")
    [.post .connect, .handle, .handle, .post (.download longName)] true (by decide +kernel)
  obtain ⟨n, last, settles, empty⟩ := claimed _ c run (halted_undisturbed working c stops)
  obtain rfl := halted_stays working c stops n last settles
  obtain ⟨ev, rest, cause, queue, _⟩ := halted_faults working last stops
  rw [queue] at empty
  cases empty

end Controller

end CameraController
