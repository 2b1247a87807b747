import CameraController.HsmNesting

set_option autoImplicit false

namespace CameraController

open Effects Rooted

namespace HsmClass

variable {Q W E X : Type}

section LifeCycle

structure Machine (Q : Type) where
  registers : Registers Q
  started : Bool := false
  stopped : Bool := false
  shouldStop : Bool := false
deriving DecidableEq, Repr

def construct (T : HsmClass Q W E X) (initial : Q) : Machine Q where
  registers := { state := T.hsmTop, temp := initial }

namespace Machine

def isRunning (machine : Machine Q) : Bool := machine.started && !machine.stopped

-- ActiveObject::start. Whether a thread has been launched.
def launch (machine : Machine Q) : Bool × Machine Q :=
  if !machine.started && !machine.stopped then (true, { machine with started := true }) else (false, machine)

end Machine

-- The events that the thread takes from its queue are dispatched one by one. At
-- a stop() it either waits for an event, and takes the EV_EMPTY that stop() puts,
-- or it is back from an event and leaves the loop.
inductive Operation (E : Type) where
  | start
  | dispatch (e : E)
  | stop (waiting : Bool)
deriving DecidableEq, Repr

def Operation.isStart : Operation E → Bool
  | .start => true
  | _ => false

variable [DecidableEq Q] (T : HsmClass Q W E X) (h : Hierarchy Q)

def start (fuel : Nat) (machine : Machine Q) : Prog W X (Bool × Machine Q) := do
  let registers ← T.init fuel machine.registers
  pure { machine with registers := registers }.launch

def handle (fuel : Nat) (ev : Event E) (machine : Machine Q) : Prog W X (Machine Q) :=
  if machine.isRunning then do
    let registers ← T.handleEvent fuel ev machine.registers
    pure { machine with registers := registers }
  else pure machine

def stop (fuel : Nat) (waiting : Bool) (machine : Machine Q) : Prog W X (Machine Q) :=
  if machine.isRunning then do
    let machine ← if waiting then T.handle fuel .evEmpty machine else pure machine
    pure { machine with shouldStop := true, stopped := true }
  else pure machine

def operate (fuel : Nat) : Operation E → Machine Q → Prog W X (Option Bool × Machine Q)
  | .start, machine => do
      let (result, machine) ← T.start fuel machine
      pure (some result, machine)
  | .dispatch e, machine => do
      let machine ← T.handle fuel (.signal e) machine
      pure (none, machine)
  | .stop waiting, machine => do
      let machine ← T.stop fuel waiting machine
      pure (none, machine)

def startMeaning (initial : Q) (machine : Machine Q) : Prog W X (Option Bool × Machine Q) :=
  if machine.started then pure (some false, machine)
  else do
    let target ← T.initialise h initial
    pure (some true, { machine with registers := { state := target, temp := target }, started := true })

-- In the run of these operations every start() does what it has to do, down to
-- the deliveries.
def Idempotent (fuel : Nat) (initial : Q) : List (Operation E) → Machine Q → W × List (Q × Event E) → Prop
  | [], _, _ => True
  | operation :: rest, machine, world =>
      (operation = .start → T.traced.operate fuel .start machine world = T.traced.startMeaning h initial machine world) ∧
      ∀ result next after, T.traced.operate fuel operation machine world = .ok (result, next) after →
        Idempotent fuel initial rest next after

structure Starts (initial : Q) : Prop where
  proper : initial ≠ h.top
  answer : ∀ world, ∃ t after, T.handler initial .evEmpty world = .ok (.transition t) after ∧ h.member t ∧ t ≠ h.top

end LifeCycle

section Running

variable [DecidableEq Q] (T : HsmClass Q W E X) (h : Hierarchy Q)

omit [DecidableEq Q] in
theorem starts_initial (initial : Q) (starts : Starts T h initial) : Initial T h initial where
  proper := starts.proper
  answer := by
    intro world after reply run
    obtain ⟨t, reached, answered, node, proper⟩ := starts.answer world
    rw [answered] at run
    cases run
    exact ⟨t, rfl, node, proper⟩

omit [DecidableEq Q] in
theorem traced_answers (answers : Answers T h) : Answers T.traced h := by
  intro q node proper ev world
  obtain ⟨reply, after, answer⟩ := answers q node proper ev world.1
  obtain ⟨reached, run, _⟩ := Prog.projects_found Prod.fst _ _ (traced_projects T q ev) world reply after answer
  exact ⟨reply, reached, run⟩

theorem offer_empty (c : Contract T h) (n fuel : Nat) (q : Q) (node : h.member q) (level : h.depth q = n) (enough : n < fuel) :
    T.offer .evEmpty fuel q = pure (h.top, .ignored, h.top) := by
  induction n generalizing fuel q with
  | zero =>
      obtain ⟨fuel, rfl⟩ : ∃ k, fuel = k + 1 := ⟨fuel - 1, by omega⟩
      rw [h.depth_zero q node level, offer, call_top T h c]
      rfl
  | succ n ih =>
      obtain ⟨fuel, rfl⟩ : ∃ k, fuel = k + 1 := ⟨fuel - 1, by omega⟩
      have proper : q ≠ h.top := h.depth_ne _ _ (by rw [h.top_depth]; omega)
      have step := h.parent_depth q node proper
      rw [offer, call_empty T h c q q node proper]
      simpa using ih fuel (h.parent q) (h.parent_member q node proper) (by omega) (by omega)

theorem handle_event_empty (c : Contract T h) (fuel : Nat) (S : Q) (node : h.member S) (enough : h.depth S < fuel) :
    T.handleEvent fuel .evEmpty { state := S, temp := S } = pure { state := S, temp := S } := by
  rw [handleEvent, offer_empty T h c (h.depth S) fuel S node rfl enough]
  simp

structure Resting (machine : Machine Q) : Prop where
  started : machine.started = true
  state : ∃ S, h.member S ∧ S ≠ h.top ∧ machine.registers = { state := S, temp := S }

theorem restart_fails (c : Contract T h) (fuel : Nat) (machine : Machine Q) (resting : Resting h machine) :
    T.operate fuel .start machine = Prog.fault .assertFailed := by
  obtain ⟨S, node, proper, registers⟩ := resting.state
  rw [operate, start, registers, init, call_empty T h c S S node proper]
  rfl

theorem handle_rests (c : Contract T h) (answers : Answers T h) (levels : h.levels ≤ 4) (fuel : Nat) (enough : 6 ≤ fuel)
    (ev : Event E) (outside : ev = .evEmpty ∨ ∃ e, ev = .signal e) (machine : Machine Q) (resting : Resting h machine) (world : W) :
    ∃ next after, T.handle fuel ev machine world = .ok next after ∧ Resting h next := by
  obtain ⟨S, node, proper, registers⟩ := resting.state
  have depth := h.depth_levels S node
  rw [handle, registers]
  by_cases running : machine.isRunning = true
  · rw [if_pos running]
    obtain rfl | ⟨e, rfl⟩ := outside
    · refine ⟨{ machine with registers := { state := S, temp := S } }, world, ?_, resting.started, S, node, proper, rfl⟩
      rw [handle_event_empty T h c fuel S node (by omega)]
      rfl
    · obtain ⟨last, after, run, lastNode, lastProper⟩ := dispatch_returns T h c answers e S node proper world
      refine ⟨{ machine with registers := { state := last, temp := last } }, after, ?_, resting.started, last, lastNode,
        lastProper, rfl⟩
      rw [handle_event_dispatch T h c levels fuel enough S node e, bind_assoc, Prog.bind_ok _ _ _ _ _ run]
      rfl
  · exact ⟨machine, world, by rw [if_neg running]; rfl, resting⟩

theorem operate_rests (c : Contract T h) (answers : Answers T h) (levels : h.levels ≤ 4) (fuel : Nat) (enough : 6 ≤ fuel)
    (operation : Operation E) (other : operation ≠ .start) (machine : Machine Q) (resting : Resting h machine) (world : W) :
    ∃ next after, T.operate fuel operation machine world = .ok (none, next) after ∧ Resting h next := by
  cases operation with
  | start => exact absurd rfl other
  | dispatch e =>
      obtain ⟨next, after, run, rests⟩ := handle_rests T h c answers levels fuel enough (.signal e) (.inr ⟨e, rfl⟩) machine
        resting world
      exact ⟨next, after, by rw [operate, Prog.bind_ok _ _ _ _ _ run]; rfl, rests⟩
  | stop waiting =>
      rw [operate, stop]
      by_cases running : machine.isRunning = true
      · rw [if_pos running]
        cases waiting with
        | true =>
            obtain ⟨next, after, run, rests⟩ := handle_rests T h c answers levels fuel enough .evEmpty (.inl rfl) machine
              resting world
            refine ⟨{ next with shouldStop := true, stopped := true }, after, ?_, rests.started, rests.state⟩
            rw [if_pos rfl, bind_assoc, Prog.bind_ok _ _ _ _ _ run]
            rfl
        | false =>
            exact ⟨{ machine with shouldStop := true, stopped := true }, world, rfl, resting.started, resting.state⟩
      · exact ⟨machine, world, by rw [if_neg running]; rfl, resting⟩

theorem idempotent_resting (c : Contract T.traced h) (answers : Answers T.traced h) (levels : h.levels ≤ 4) (fuel : Nat)
    (enough : 6 ≤ fuel) (initial : Q) (operations : List (Operation E)) (machine : Machine Q) (resting : Resting h machine)
    (world : W × List (Q × Event E)) :
    Idempotent T h fuel initial operations machine world ↔ operations.countP Operation.isStart = 0 := by
  induction operations generalizing machine world with
  | nil => simp [Idempotent]
  | cons operation rest ih =>
      by_cases again : operation = .start
      · subst again
        have failed := restart_fails T.traced h c fuel machine resting
        have unlike : ¬ Idempotent T h fuel initial (.start :: rest) machine world := by
          intro held
          have meant := held.1 rfl
          rw [failed, startMeaning, if_pos resting.started] at meant
          cases meant
        simp [unlike, Operation.isStart]
      · have counted : operation.isStart = false := by
          cases operation with
          | start => exact absurd rfl again
          | dispatch e => rfl
          | stop waiting => rfl
        obtain ⟨next, after, run, rests⟩ := operate_rests T.traced h c answers levels fuel enough operation again machine resting
          world
        rw [List.countP_cons_of_neg (by simp [counted]), ← ih next rests after]
        constructor
        · intro held
          exact held.2 none next after run
        · intro held
          refine ⟨fun same => absurd same again, fun result other final ran => ?_⟩
          rw [run] at ran
          cases ran
          exact held

end Running

section Starting

variable [DecidableEq Q] (T : HsmClass Q W E X) (h : Hierarchy Q)

theorem idle_operation (fuel : Nat) (initial : Q) (operation : Operation E) (other : operation ≠ .start) (world : W) :
    T.operate fuel operation (T.construct initial) world = .ok (none, T.construct initial) world := by
  cases operation with
  | start => exact absurd rfl other
  | dispatch e => rfl
  | stop waiting => rfl

omit [DecidableEq Q] in
theorem initialise_returns (c : Contract T h) (answers : Answers T h) (initial : Q) (starts : Starts T h initial) (world : W) :
    ∃ target after, T.initialise h initial world = .ok target after ∧ h.member target ∧ target ≠ h.top := by
  obtain ⟨t, reached, answered, node, proper⟩ := starts.answer world
  obtain ⟨entered, visited⟩ := visit_returns T h answers .evEntry (h.below t h.top).reverse
    (fun q member => below_user h t _ q node (by simpa using member)) reached
  obtain ⟨target, after, drilled, found⟩ := drill_returns T h c answers (h.levels - h.depth t) t node proper entered
  refine ⟨target, after, ?_, found⟩
  rw [initialise, Prog.bind_ok _ _ _ _ _ answered]
  dsimp only
  rw [Prog.bind_ok _ _ _ _ _ visited, drilled]

omit [DecidableEq Q] in
theorem traced_starts (initial : Q) (starts : Starts T h initial) : Starts T.traced h initial where
  proper := starts.proper
  answer := by
    intro world
    obtain ⟨t, after, answered, found⟩ := starts.answer world.1
    obtain ⟨reached, run, _⟩ := Prog.projects_found Prod.fst _ _ (traced_projects T initial .evEmpty) world _ after answered
    exact ⟨t, reached, run, found⟩

theorem first_start_iff (formed : WellFormed T h) (fuel : Nat) (enough : h.levels + 2 ≤ fuel) (initial : Q)
    (starts : Starts T h initial) (world : W) :
    T.traced.operate fuel .start (T.construct initial) (world, []) =
        T.traced.startMeaning h initial (T.construct initial) (world, []) ↔ InitialiseFits T h initial world := by
  rw [← init_required_iff T h formed fuel enough initial (starts_initial T h initial starts) world]
  let launched : Registers Q → Option Bool × Machine Q := fun registers => (some true, { registers := registers, started := true })
  have wrapped : Function.Injective launched := fun left right same => congrArg (fun machine => machine.2.registers) same
  have operated : T.traced.operate fuel .start (T.construct initial) =
      T.traced.perform fuel (.init initial) >>= fun registers => pure (launched registers) := by
    rw [operate, start, bind_assoc]
    rfl
  have meant : T.traced.startMeaning h initial (T.construct initial) =
      T.traced.required h (.init initial) >>= fun registers => pure (launched registers) := by
    rw [required, bind_assoc]
    rfl
  rw [operated, meant]
  constructor
  · exact Prog.bind_pure_injective launched wrapped _ _ _
  · intro same
    rw [Prog.bind_apply, Prog.bind_apply, same]

omit [DecidableEq Q] in
theorem started_rests (c : Contract T h) (answers : Answers T h) (initial : Q) (starts : Starts T h initial) (world : W) :
    ∃ next after, T.startMeaning h initial (T.construct initial) world = .ok (some true, next) after ∧ Resting h next := by
  obtain ⟨target, after, run, node, proper⟩ := initialise_returns T h c answers initial starts world
  refine ⟨{ registers := { state := target, temp := target }, started := true }, after, ?_, rfl, target, node, proper, rfl⟩
  have meant : T.startMeaning h initial (T.construct initial) = T.initialise h initial >>= fun target =>
      pure (some true, { registers := { state := target, temp := target }, started := true }) := rfl
  rw [meant, Prog.bind_ok _ _ _ _ _ run]
  rfl

theorem idempotent_iff (formed : WellFormed T h) (answers : Answers T h) (levels : h.levels ≤ 4) (fuel : Nat) (enough : 6 ≤ fuel)
    (initial : Q) (starts : Starts T h initial) (operations : List (Operation E)) (world : W) :
    Idempotent T h fuel initial operations (T.construct initial) (world, []) ↔
      operations.countP Operation.isStart ≤ 1 ∧ (.start ∈ operations → InitialiseFits T h initial world) := by
  have c := traced_contract T h formed.toContract
  have tracedAnswers := traced_answers T h answers
  induction operations with
  | nil => simp [Idempotent]
  | cons operation rest ih =>
      by_cases first : operation = .start
      · subst first
        have init := first_start_iff T h formed fuel (by omega) initial starts world
        obtain ⟨next, after, run, rests⟩ := started_rests T.traced h c tracedAnswers initial (traced_starts T h initial starts)
          (world, [])
        have later := idempotent_resting T h c tracedAnswers levels fuel enough initial rest next rests after
        rw [List.countP_cons_of_pos rfl]
        constructor
        · intro held
          have same := held.1 rfl
          have rested := held.2 (some true) next after (same.trans run)
          exact ⟨by have := later.mp rested; omega, fun _ => init.mp same⟩
        · rintro ⟨once, fits⟩
          have same := init.mpr (fits (by simp))
          refine ⟨fun _ => same, fun result other final ran => ?_⟩
          have outcome := run.symm.trans (same.symm.trans ran)
          cases outcome
          exact later.mpr (by omega)
      · have idle := idle_operation T.traced fuel initial operation first (world, [])
        have counted : operation.isStart = false := by
          cases operation with
          | start => exact absurd rfl first
          | dispatch e => rfl
          | stop waiting => rfl
        have unchanged : Idempotent T h fuel initial (operation :: rest) (T.construct initial) (world, []) ↔
            Idempotent T h fuel initial rest (T.construct initial) (world, []) := by
          constructor
          · intro held
            exact held.2 none _ _ idle
          · intro held
            refine ⟨fun same => absurd same first, fun result other final ran => ?_⟩
            have outcome := idle.symm.trans ran
            cases outcome
            exact held
        refine unchanged.trans (ih.trans ?_)
        rw [List.countP_cons_of_neg (by simp [counted])]
        simp [Ne.symm first]

end Starting

theorem crossing_starts : Starts crossing crossingTree .pseudo where
  proper := by decide
  answer := fun world => ⟨.left, world, rfl, by decide, by decide⟩

theorem crossing_initialise_fits : InitialiseFits crossing crossingTree .pseudo [] := by
  intro t after answered
  cases answered
  refine ⟨by decide, fun temp entered visited => ?_⟩
  cases visited
  refine ⟨rfl, fun next after answered => ?_⟩
  cases answered
  refine ⟨by decide, fun temp entered visited => ?_⟩
  cases visited
  exact ⟨rfl, fun next after answered => by cases answered⟩

theorem idempotent_crossing : Idempotent crossing crossingTree 6 .pseudo [.start, .dispatch (), .dispatch (), .stop true]
    (crossing.construct .pseudo) ([], []) :=
  (idempotent_iff crossing crossingTree crossing_formed crossing_answers (by decide) 6 (by decide) .pseudo crossing_starts
    [.start, .dispatch (), .dispatch (), .stop true] []).mpr ⟨by decide, fun _ => crossing_initialise_fits⟩

theorem second_start_asserts : ¬ ∀ (T : HsmClass Region (List (Region × Bool)) Unit Empty) (h : Hierarchy Region) (fuel : Nat)
    (initial : Region) (operations : List (Operation Unit)) (world : List (Region × Bool)), WellFormed T h → Answers T h →
    h.levels ≤ 4 → 6 ≤ fuel → Starts T h initial → Idempotent T h fuel initial operations (T.construct initial) (world, []) := by
  intro all
  have held := all crossing crossingTree 6 .pseudo [.start, .start] [] crossing_formed crossing_answers (by decide) (by decide)
    crossing_starts
  have first := held.2 (some true) { registers := { state := .leaf, temp := .leaf }, started := true }
    ([(.left, true), (.middle, true), (.leaf, true)],
      [(.left, .evEntry), (.left, .evInit), (.middle, .evEntry), (.leaf, .evEntry), (.leaf, .evInit)]) rfl
  have second := first.1 rfl
  cases second

end HsmClass

end CameraController
