import CameraController.HsmTrace

set_option autoImplicit false

namespace CameraController

open Effects Rooted Trace

namespace HsmClass

variable {Q W E X : Type}

section Calls

-- init() from the initial pseudo-state, and handleEvent() in a stable state.
inductive Call (Q E : Type) where
  | init (initial : Q)
  | handleEvent (state : Q) (e : E)
deriving DecidableEq, Repr

variable [DecidableEq Q] (T : HsmClass Q W E X) (h : Hierarchy Q)

def Callable : Call Q E → Prop
  | .init initial => Initial T h initial
  | .handleEvent state _ => h.member state

def perform (fuel : Nat) : Call Q E → Prog W X (Registers Q)
  | .init initial => T.init fuel { state := T.hsmTop, temp := initial }
  | .handleEvent state e => T.handleEvent fuel (.signal e) { state := state, temp := state }

def meaning : Call Q E → Prog W X Q
  | .init initial => T.initialise h initial
  | .handleEvent state e => T.dispatch h (.signal e) state

def required (call : Call Q E) : Prog W X (Registers Q) :=
  T.meaning h call >>= fun target => pure { state := target, temp := target }

-- All that the hierarchy calls for is delivered, in order, and nothing is
-- written outside the arrays; in a hierarchy that is too deep for them an assert
-- may fail instead.
def Undamaged (fuel : Nat) (call : Call Q E) (world : W) : Prop :=
  T.traced.perform fuel call (world, []) = T.traced.required h call (world, []) ∨
    (∃ q, h.member q ∧ hsmMaxNestDepth < h.depth q) ∧
      T.traced.perform fuel call (world, []) = .fault .assertFailed

def Fits : Call Q E → W → Prop
  | .init initial, world => InitialiseFits T h initial world
  | .handleEvent state e, world => DispatchFits T h (.signal e) state world

end Calls

section Fitting

variable (T : HsmClass Q W E X) (h : Hierarchy Q)

theorem bounded_drill_only (formed : WellFormed T h) (n : Nat) (q : Q) (world : W)
    (same : T.boundedDrill h n q world = T.drill h n q world) : DrillFits T h n q world := by
  induction n generalizing q world with
  | zero => trivial
  | succ n ih =>
      intro d after run
      rw [boundedDrill, drill, Prog.bind_ok _ _ _ _ _ run, Prog.bind_ok _ _ _ _ _ run] at same
      dsimp only at same
      have near : h.depth d ≤ h.depth q + 5 := by
        by_contra far
        rw [if_neg far] at same
        exact Prog.never_bind .outOfBounds _ _ (visit_never T _ (fun q ev => formed.sound q ev _) .evEntry _)
          (fun _ _ entered _ => drill_never T h _ (fun q ev => formed.sound q ev _) n d entered) after same.symm
      rw [if_pos near] at same
      refine ⟨near, fun entered visited => ih d entered ?_⟩
      rwa [Prog.bind_ok _ _ _ _ _ visited, Prog.bind_ok _ _ _ _ _ visited] at same

variable [DecidableEq Q]

theorem bounded_dispatch_only (formed : WellFormed T h) (e : E) (S : Q) (node : h.member S) (world : W)
    (same : T.boundedDispatch h (.signal e) S world = T.dispatch h (.signal e) S world) :
    DispatchFits T h (.signal e) S world := by
  intro s t after run left exits
  obtain ⟨above, sProper, tNode, tProper⟩ := offered_transition T h formed.toContract e _ S s t world after node rfl run
  obtain ⟨n, nBound, source⟩ := (h.ancestor_iff_up s S node).mp above
  have sNode : h.member s := source ▸ h.up_member n S node nBound
  have within := scope_depth h s t sNode tNode sProper
  have sound : ∀ q ev, Prog.Never .outOfBounds (T.handler q ev) := fun q ev => formed.sound q ev _
  rw [boundedDispatch, dispatch, Prog.bind_ok _ _ _ _ _ run, Prog.bind_ok _ _ _ _ _ run] at same
  dsimp only at same
  rw [← h.below_append S s (scope h s t) above within, visit_append, bind_assoc, Prog.bind_ok _ _ _ _ _ exits,
    Prog.bind_ok _ _ _ _ _ exits] at same
  have fits : PathFits h s t := by
    by_contra beyond
    rw [if_neg beyond] at same
    refine Prog.never_bind .outOfBounds _ _ (visit_never T _ sound .evExit _) (fun _ _ exited _ => ?_) left same.symm
    exact Prog.never_bind .outOfBounds _ _ (visit_never T _ sound .evEntry _)
      (fun _ _ entered _ => drill_never T h _ sound _ t entered) exited
  rw [if_pos fits] at same
  refine ⟨fits, fun exited exits entered enters => bounded_drill_only T h formed _ t entered ?_⟩
  rwa [Prog.bind_ok _ _ _ _ _ exits, Prog.bind_ok _ _ _ _ _ exits, Prog.bind_ok _ _ _ _ _ enters,
    Prog.bind_ok _ _ _ _ _ enters] at same

omit [DecidableEq Q] in
theorem traced_drill_fits (n : Nat) (q : Q) (world : W × List (Q × Event E)) :
    DrillFits T.traced h n q world ↔ DrillFits T h n q world.1 := by
  induction n generalizing q world with
  | zero => exact Iff.rfl
  | succ n ih =>
      constructor
      · intro fits d after run
        obtain ⟨recorded, tracedRun, rfl⟩ := Prog.projects_found Prod.fst _ _ (traced_projects T q .evInit) world _ after run
        obtain ⟨near, rest⟩ := fits d recorded tracedRun
        refine ⟨near, fun entered visited => ?_⟩
        obtain ⟨final, tracedVisit, rfl⟩ := Prog.projects_found Prod.fst _ _ (visit_projects T .evEntry _) recorded _ entered
          visited
        exact (ih d final).mp (rest final tracedVisit)
      · intro fits d after run
        obtain ⟨near, rest⟩ := fits d after.1 (traced_ok T q .evInit world after _ run)
        refine ⟨near, fun entered visited => ?_⟩
        have plain := Prog.projects_ok Prod.fst _ _ (visit_projects T .evEntry _) after entered () visited
        exact (ih d entered).mpr (rest entered.1 plain)

theorem traced_dispatch_fits (ev : Event E) (S : Q) (world : W × List (Q × Event E)) :
    DispatchFits T.traced h ev S world ↔ DispatchFits T h ev S world.1 := by
  constructor
  · intro fits s t offered run left exits
    obtain ⟨offered, tracedRun, rfl⟩ := Prog.projects_found Prod.fst _ _ (offer_projects T h ev _ S) world _ offered run
    obtain ⟨left, tracedExits, rfl⟩ := Prog.projects_found Prod.fst _ _ (visit_projects T .evExit _) offered _ left exits
    obtain ⟨inPath, rest⟩ := fits s t offered tracedRun left tracedExits
    refine ⟨inPath, fun exited exits entered enters => ?_⟩
    obtain ⟨exited, tracedExits, rfl⟩ := Prog.projects_found Prod.fst _ _ (visit_projects T .evExit _) left _ exited exits
    obtain ⟨entered, tracedEnters, rfl⟩ := Prog.projects_found Prod.fst _ _ (visit_projects T .evEntry _) exited _ entered enters
    exact (traced_drill_fits T h _ t entered).mp (rest exited tracedExits entered tracedEnters)
  · intro fits s t offered run left exits
    obtain ⟨inPath, rest⟩ := fits s t offered.1 (Prog.projects_ok Prod.fst _ _ (offer_projects T h ev _ S) world offered _ run)
      left.1 (Prog.projects_ok Prod.fst _ _ (visit_projects T .evExit _) offered left _ exits)
    refine ⟨inPath, fun exited exits entered enters => ?_⟩
    have plain := rest exited.1 (Prog.projects_ok Prod.fst _ _ (visit_projects T .evExit _) left exited _ exits)
      entered.1 (Prog.projects_ok Prod.fst _ _ (visit_projects T .evEntry _) exited entered _ enters)
    exact (traced_drill_fits T h _ t entered).mpr plain

theorem handle_event_iff (formed : WellFormed T h) (fuel : Nat) (enough : h.levels + 2 ≤ fuel) (some : 6 ≤ fuel) (S : Q)
    (node : h.member S) (e : E) (world : W) :
    Undamaged T h fuel (.handleEvent S e) world ↔ DispatchFits T h (.signal e) S world := by
  have tracedFormed := traced_formed T h formed
  have bounded := handle_event_bounded T.traced h tracedFormed.toContract fuel enough some S node e
  have wrapped : Function.Injective (fun next : Q => ({ state := next, temp := next } : Registers Q)) := fun left right same =>
    congrArg Registers.state same
  simp only [Undamaged, perform, required, meaning, bounded]
  constructor
  · rintro (same | ⟨_, failed⟩)
    · have bodies := Prog.bind_pure_injective _ wrapped _ _ _ same
      exact (traced_dispatch_fits T h _ S (world, [])).mp (bounded_dispatch_only T.traced h tracedFormed e S node _ bodies)
    · refine absurd failed (Prog.never_bind .assertFailed _ _ ?_ (fun _ next after _ => Prog.never_pure _ _ after) _)
      exact bounded_dispatch_never T.traced h .assertFailed (by simp) (fun q ev => tracedFormed.sound q ev _) _ S
  · intro fits
    have tracedFits := (traced_dispatch_fits T h _ S (world, [])).mpr fits
    left
    rw [Prog.bind_apply, Prog.bind_apply, bounded_dispatch_fits T.traced h tracedFormed.toContract e S node _ tracedFits]

end Fitting

section Initial

variable [DecidableEq Q] (T : HsmClass Q W E X) (h : Hierarchy Q)

omit [DecidableEq Q] in
theorem handler_first {A : Type} (q : Q) (ev : Event E) (recorded : ev ≠ .evEmpty)
    (next : Reply Q → Prog (W × List (Q × Event E)) X A) (within : ∀ reply, Prog.Within Extends (next reply))
    (world : W × List (Q × Event E)) :
    ((T.traced.handler q ev >>= next) world).Ends (fun after => world.2 ++ [(q, ev)] <+: after.2) := by
  have first := recorded_first (q, ev) (lift (T.handler q ev) >>= next)
    (Prog.within_bind Extends _ _ (lift_within (T.handler q ev)) within) world
  cases ev with
  | evEmpty => exact absurd rfl recorded
  | evEntry => exact first
  | evExit => exact first
  | evInit => exact first
  | signal e => exact first

omit [DecidableEq Q] in
theorem drill_first (n : Nat) (q : Q) (world : W × List (Q × Event E)) :
    (T.traced.drill h n q world).Ends (fun after => world.2 ++ [(q, .evInit)] <+: after.2) := by
  have handlers := fun q ev => traced_within T q ev
  cases n with
  | zero => exact handler_first T q .evInit (by simp) _ (fun _ => Prog.within_pure Extends q) world
  | succ n =>
      refine handler_first T q .evInit (by simp) _ (fun reply => ?_) world
      cases reply with
      | transition d =>
          exact Prog.within_bind Extends _ _ (visit_within T.traced Extends handlers .evEntry _)
            (fun _ => drill_within T.traced h Extends handlers n d)
      | handled => exact Prog.within_pure Extends q
      | ignored => exact Prog.within_pure Extends q
      | unhandled => exact Prog.within_pure Extends q
      | tranSuper p => exact Prog.within_pure Extends q

theorem init_elsewhere (formed : WellFormed T h) (n bound fuel : Nat) (d temp : Q) (different : temp ≠ d)
    (world : W × List (Q × Event E)) :
    (T.traced.call temp .evInit temp >>= fun answer =>
      if answer.1 = .tran then T.traced.initLoop bound fuel d answer.2 else pure d) world ≠ T.traced.drill h n d world := by
  have required := drill_first T h n d world
  by_cases top : temp = T.hsmTop
  · have skipped : T.traced.call temp .evInit temp = pure (.ignored, temp) := if_pos top
    rw [skipped]
    simp only [pure_bind, reduceCtorEq, ↓reduceIte]
    intro same
    rw [← same] at required
    have short := List.IsPrefix.length_le required
    simp at short
  · have called : T.traced.call temp .evInit temp =
        T.traced.handler temp .evInit >>= fun reply => pure (reply.code, reply.temp temp) := if_neg top
    have delivered := handler_first T temp .evInit (by simp) (fun reply =>
      if reply.code = .tran then T.traced.initLoop bound fuel d (reply.temp temp) else pure d) (fun reply => by
        split
        · exact init_loop_within T.traced Extends (traced_within T) bound fuel d _
        · exact Prog.within_pure Extends d) world
    rw [called, bind_assoc]
    simp only [pure_bind]
    refine first_apart world.2 (temp, .evInit) (d, .evInit) (by simpa using different) _ _ delivered required ?_
    exact fun cause => drill_never T.traced h cause (fun q ev => (traced_formed T h formed).sound q ev cause) n d world

theorem init_truncated (formed : WellFormed T h) (n bound fuel : Nat) (q d : Q) (node : h.member d) (ancestor : h.Ancestor q d)
    (far : h.depth q + 5 < h.depth d) (boundEnough : h.levels < bound) (world : W × List (Q × Event E)) :
    T.traced.initLoop bound (fuel + 1) q d world ≠
      (T.traced.visit .evEntry (h.below d q).reverse >>= fun _ => T.traced.drill h n d) world := by
  have tracedFormed := traced_formed T h formed
  have handlers := fun q ev => traced_within T q ev
  obtain ⟨m, levels⟩ : ∃ m, h.depth d - h.depth q = m + 6 := ⟨h.depth d - h.depth q - 6, by omega⟩
  have different : h.up 4 d ≠ h.up (m + 5) d := fun same => by
    have := h.up_injective _ _ d node (by omega) (by omega) same
    omega
  have short : min (m + 6) 5 = 4 + 1 := by omega
  rw [init_loop_hop T.traced h tracedFormed.toContract bound fuel q d node ancestor (by omega) boundEnough, levels, short,
    h.iterate_reverse 4 d, Hierarchy.below, levels, h.iterate_reverse (m + 5) d, enter, visit, bind_assoc, bind_assoc]
  refine first_apart world.2 (h.up 4 d, .evEntry) (h.up (m + 5) d, .evEntry) (by simpa using different) _ _ ?_ ?_ ?_
  · refine handler_first T (h.up 4 d) .evEntry (by simp) _ (fun reply => ?_) world
    refine Prog.within_bind Extends _ _ (enter_within T.traced Extends handlers _ _) (fun temp => ?_)
    refine Prog.within_bind Extends _ _ (call_within T.traced Extends handlers temp .evInit temp) (fun answer => ?_)
    split
    · exact init_loop_within T.traced Extends handlers bound fuel d answer.2
    · exact Prog.within_pure Extends d
  · refine handler_first T (h.up (m + 5) d) .evEntry (by simp) _ (fun reply => ?_) world
    exact Prog.within_bind Extends _ _ (visit_within T.traced Extends handlers .evEntry _)
      (fun _ => drill_within T.traced h Extends handlers n d)
  · intro cause
    have sound := fun q ev => tracedFormed.sound q ev cause
    exact Prog.never_bind cause _ _ (sound _ .evEntry) (fun _ _ after _ => Prog.never_bind cause _ _
      (visit_never T.traced cause sound .evEntry _) (fun _ _ entered _ => drill_never T.traced h cause sound n d entered) after) world

theorem init_hop_iff (formed : WellFormed T h) (n bound fuel : Nat) (q d : Q) (node : h.member d) (ancestor : h.Ancestor q d)
    (deeper : h.depth q < h.depth d) (near : h.depth d ≤ h.depth q + 5) (boundEnough : h.levels < bound) (rest : W → Prop)
    (turn : ∀ entered, (T.traced.call d .evInit d >>= fun answer =>
      if answer.1 = .tran then T.traced.initLoop bound fuel d answer.2 else pure d) entered = T.traced.drill h n d entered ↔
        rest entered.1) (world : W × List (Q × Event E)) :
    T.traced.initLoop bound (fuel + 1) q d world =
        (T.traced.visit .evEntry (h.below d q).reverse >>= fun _ => T.traced.drill h n d) world ↔
      ∀ temp entered, T.enter (h.below d q).reverse d world.1 = .ok temp entered → temp = d ∧ rest entered := by
  have whole : List.iterate h.parent d (min (h.depth d - h.depth q) 5) = h.below d q := by
    rw [Nat.min_eq_left (by omega)]
    rfl
  rw [init_loop_hop T.traced h (traced_contract T h formed.toContract) bound fuel q d node ancestor deeper boundEnough, whole,
    ← enter_visit T.traced _ d, bind_assoc]
  have projected := enter_projects T (h.below d q).reverse d world
  cases entering : T.traced.enter (h.below d q).reverse d world with
  | ok temp entered =>
      rw [entering] at projected
      rw [Prog.bind_ok _ _ _ _ _ entering, Prog.bind_ok _ _ _ _ _ entering, ← projected]
      by_cases quiet : temp = d
      · subst quiet
        rw [pure_bind, turn entered]
        constructor
        · intro held other final same
          cases same
          exact ⟨rfl, held⟩
        · intro held
          exact (held temp entered.1 rfl).2
      · constructor
        · intro same
          exact absurd same (init_elsewhere T h formed n bound fuel d temp quiet entered)
        · intro held
          exact absurd (held temp entered.1 rfl).1 quiet
  | threw error entered =>
      rw [entering] at projected
      rw [Prog.bind_threw _ _ _ _ _ entering, Prog.bind_threw _ _ _ _ _ entering, ← projected]
      simp [Outcome.mapWorld]
  | fault cause =>
      rw [entering] at projected
      rw [Prog.bind_apply, Prog.bind_apply]
      simp [entering, ← projected, Outcome.mapWorld]

theorem init_turn_iff (formed : WellFormed T h) (n bound fuel : Nat) (d : Q) (node : h.member d) (proper : d ≠ h.top)
    (onward : ∀ next, h.member next → h.Ancestor d next → h.depth d < h.depth next → ∀ after,
      T.traced.initLoop bound fuel d next after =
          (T.traced.visit .evEntry (h.below next d).reverse >>= fun _ => T.traced.drill h n next) after ↔
        InitFits T h n d next after.1) (entered : W × List (Q × Event E)) :
    (T.traced.call d .evInit d >>= fun answer =>
        if answer.1 = .tran then T.traced.initLoop bound fuel d answer.2 else pure d) entered = T.traced.drill h (n + 1) d entered ↔
      ∀ next after, T.handler d .evInit entered.1 = .ok (.transition next) after → InitFits T h n d next after := by
  have c := traced_contract T h formed.toContract
  rw [call_user T.traced h c d _ d proper, bind_assoc, drill]
  have projected := traced_projects T d .evInit entered
  cases answered : T.traced.handler d .evInit entered with
  | ok reply after =>
      rw [answered] at projected
      rw [Prog.bind_ok _ _ _ _ _ answered, Prog.bind_ok _ _ _ _ _ answered, ← projected]
      cases reply with
      | transition next =>
          obtain ⟨nextNode, above, further, _⟩ := deeper_substate T.traced h c d next node proper entered after answered
          simpa [Outcome.mapWorld] using onward next nextNode above further after
      | handled => simp [Outcome.mapWorld]
      | ignored => simp [Outcome.mapWorld]
      | unhandled => simp [Outcome.mapWorld]
      | tranSuper p => simp [Outcome.mapWorld]
  | threw error after =>
      rw [answered] at projected
      rw [Prog.bind_threw _ _ _ _ _ answered, Prog.bind_threw _ _ _ _ _ answered, ← projected]
      simp [Outcome.mapWorld]
  | fault cause =>
      rw [answered] at projected
      rw [Prog.bind_apply, Prog.bind_apply]
      simp [answered, ← projected, Outcome.mapWorld]

theorem init_turn_last (formed : WellFormed T h) (bound fuel : Nat) (d : Q) (node : h.member d) (proper : d ≠ h.top)
    (deepest : h.levels ≤ h.depth d) (entered : W × List (Q × Event E)) :
    (T.traced.call d .evInit d >>= fun answer =>
      if answer.1 = .tran then T.traced.initLoop bound fuel d answer.2 else pure d) entered = T.traced.drill h 0 d entered := by
  have c := traced_contract T h formed.toContract
  rw [call_user T.traced h c d _ d proper, bind_assoc, drill]
  apply Prog.bind_congr_ok
  intro reply after run
  cases reply with
  | transition next =>
      obtain ⟨nextNode, _, further, _⟩ := deeper_substate T.traced h c d next node proper entered after run
      have within := h.depth_levels next nextNode
      omega
  | handled => rfl
  | ignored => rfl
  | unhandled => rfl
  | tranSuper p => rfl

theorem init_loop_iff (formed : WellFormed T h) (n bound fuel : Nat) (q d : Q) (node : h.member d) (ancestor : h.Ancestor q d)
    (deeper : h.depth q < h.depth d) (level : h.levels - h.depth d ≤ n) (enough : n < fuel) (boundEnough : h.levels < bound)
    (world : W × List (Q × Event E)) :
    T.traced.initLoop bound fuel q d world =
        (T.traced.visit .evEntry (h.below d q).reverse >>= fun _ => T.traced.drill h n d) world ↔
      InitFits T h n q d world.1 := by
  induction n generalizing fuel q d world with
  | zero =>
      obtain ⟨fuel, rfl⟩ : ∃ k, fuel = k + 1 := ⟨fuel - 1, by omega⟩
      have proper : d ≠ h.top := h.depth_ne _ _ (by rw [h.top_depth]; omega)
      by_cases near : h.depth d ≤ h.depth q + 5
      · have turn := init_turn_last T h formed bound fuel d node proper (by omega)
        rw [init_hop_iff T h formed 0 bound fuel q d node ancestor deeper near boundEnough (fun _ => True)
          (fun entered => iff_of_true (turn entered) trivial) world]
        simp [InitFits, near]
      · have truncated := init_truncated T h formed 0 bound fuel q d node ancestor (by omega) boundEnough world
        simp [InitFits, near, truncated]
  | succ n ih =>
      obtain ⟨fuel, rfl⟩ : ∃ k, fuel = k + 1 := ⟨fuel - 1, by omega⟩
      have proper : d ≠ h.top := h.depth_ne _ _ (by rw [h.top_depth]; omega)
      by_cases near : h.depth d ≤ h.depth q + 5
      · have turn := init_turn_iff T h formed n bound fuel d node proper (fun next nextNode above further after =>
          ih fuel d next nextNode above further (by omega) (by omega) after)
        rw [init_hop_iff T h formed (n + 1) bound fuel q d node ancestor deeper near boundEnough
          (fun entered => ∀ next after, T.handler d .evInit entered = .ok (.transition next) after → InitFits T h n d next after)
          turn world]
        simp [InitFits, near]
      · have truncated := init_truncated T h formed (n + 1) bound fuel q d node ancestor (by omega) boundEnough world
        simp [InitFits, near, truncated]

theorem init_required_iff (formed : WellFormed T h) (fuel : Nat) (enough : h.levels + 2 ≤ fuel) (initial : Q)
    (pseudo : Initial T h initial) (world : W) :
    T.traced.perform fuel (.init initial) (world, []) = T.traced.required h (.init initial) (world, []) ↔
      InitialiseFits T h initial world := by
  have tracedFormed := traced_formed T h formed
  have started := init_loop T.traced h tracedFormed.toContract fuel initial (traced_initial T h initial pseudo)
  have wrapped : Function.Injective (fun target : Q => ({ state := target, temp := target } : Registers Q)) :=
    fun left right same => congrArg Registers.state same
  have projected := traced_projects T initial .evEmpty (world, [])
  simp only [perform, required, meaning, started, initialise, bind_assoc, InitialiseFits]
  cases answered : T.traced.handler initial .evEmpty (world, []) with
  | ok reply after =>
      rw [answered] at projected
      obtain ⟨t, rfl, node, proper⟩ := (traced_initial T h initial pseudo).answer _ after reply answered
      have positive := h.depth_pos t node proper
      have loop := init_loop_iff T h formed (h.levels - h.depth t) fuel fuel h.top t node (h.ancestor_top t node)
        (by rw [h.top_depth]; omega) (Nat.le_refl _) (by omega) (by omega) after
      rw [Prog.bind_ok _ _ _ _ _ answered, Prog.bind_ok _ _ _ _ _ answered, ← projected]
      dsimp only [Reply.temp]
      constructor
      · intro same t' after' found
        cases found
        exact loop.mp (Prog.bind_pure_injective _ wrapped _ _ _ same)
      · intro fits
        rw [Prog.bind_apply, Prog.bind_apply, loop.mpr (fits t after.1 rfl)]
  | threw error after =>
      rw [answered] at projected
      rw [Prog.bind_threw _ _ _ _ _ answered, Prog.bind_threw _ _ _ _ _ answered, ← projected]
      simp [Outcome.mapWorld]
  | fault cause =>
      rw [answered] at projected
      rw [Prog.bind_apply, Prog.bind_apply]
      simp [answered, ← projected, Outcome.mapWorld]

theorem init_iff (formed : WellFormed T h) (fuel : Nat) (enough : h.levels + 2 ≤ fuel) (initial : Q)
    (pseudo : Initial T h initial) (world : W) : Undamaged T h fuel (.init initial) world ↔ InitialiseFits T h initial world := by
  have tracedFormed := traced_formed T h formed
  have started := init_loop T.traced h tracedFormed.toContract fuel initial (traced_initial T h initial pseudo)
  have sound : ∀ q ev, Prog.Never .assertFailed (T.traced.handler q ev) := fun q ev => tracedFormed.sound q ev _
  have asserts : Prog.Never .assertFailed (T.traced.perform fuel (.init initial)) := by
    rw [perform, started]
    refine Prog.never_bind _ _ _ (sound initial .evEmpty) (fun _ reply after _ => ?_)
    exact Prog.never_bind _ _ _ (init_loop_never T.traced sound fuel fuel h.top _)
      (fun _ target after _ => Prog.never_pure _ _ after) after
  rw [← init_required_iff T h formed fuel enough initial pseudo world]
  constructor
  · rintro (same | ⟨_, failed⟩)
    · exact same
    · exact absurd failed (asserts _)
  · exact .inl

end Initial

section Whole

variable [DecidableEq Q] (T : HsmClass Q W E X) (h : Hierarchy Q)

theorem undamaged_iff (formed : WellFormed T h) (fuel : Nat) (enough : h.levels + 2 ≤ fuel) (some : 6 ≤ fuel) (call : Call Q E)
    (callable : Callable T h call) (world : W) : Undamaged T h fuel call world ↔ Fits T h call world := by
  cases call with
  | init initial => exact init_iff T h formed fuel enough initial callable world
  | handleEvent S e => exact handle_event_iff T h formed fuel enough some S callable e world

end Whole

theorem crossing_formed : WellFormed crossing crossingTree where
  toContract := crossing_contract
  sound := by
    intro q ev cause world failed
    cases ev <;> cases q <;> cases failed

theorem undamaged_crossing : Undamaged crossing crossingTree 6 (.handleEvent .leaf ()) [] :=
  (undamaged_iff crossing crossingTree crossing_formed 6 (by decide) (by decide) (.handleEvent .leaf ())
    (by decide : crossingTree.member .leaf) []).mpr
    (low_dispatch_fits crossing crossingTree crossing_contract (by decide) () .leaf (by decide) [])

def deep : HsmClass Nat Unit Unit Empty where
  hsmTop := 0
  handler := fun q ev =>
    match ev with
    | .evEmpty => pure (.tranSuper (if q = 6 then 0 else q - 1))
    | .signal _ => pure (.transition 5)
    | _ => pure .handled

def deepTree : Hierarchy Nat where
  top := 0
  parent := fun q => if q = 6 then 0 else q - 1
  depth := fun q => if q = 6 then 1 else q
  levels := 5
  member := fun q => q ≤ 6
  top_member := by decide
  top_depth := rfl
  parent_member := by grind
  parent_depth := by grind
  depth_levels := by grind

theorem deep_formed : WellFormed deep deepTree where
  top := rfl
  onEmpty := fun _ _ _ => rfl
  onExit := by
    intro q _ _ world after reply answer
    cases answer
    exact .inl rfl
  onInit := by
    intro q _ _ world after d answer
    cases answer
  onSignal := by
    intro q _ _ ev world after reply answer
    cases answer
    exact ⟨fun t same => by cases same; exact ⟨(by decide : 5 ≤ 6), by decide⟩, fun p same => by cases same⟩
  sound := by
    intro q ev cause world failed
    cases ev <;> cases failed

theorem deep_transition_overruns : ¬ ∀ (T : HsmClass Nat Unit Unit Empty) (h : Hierarchy Nat) (fuel : Nat) (call : Call Nat Unit),
    WellFormed T h → h.levels + 2 ≤ fuel → 6 ≤ fuel → Callable T h call → Undamaged T h fuel call () := by
  intro all
  have undamaged := all deep deepTree 7 (.handleEvent 6 ()) deep_formed (by decide) (by decide) (by decide : 6 ≤ 6)
  have fits := (handle_event_iff deep deepTree deep_formed 7 (by decide) (by decide) 6 (by decide : 6 ≤ 6) () ()).mp undamaged
  exact absurd (fits 6 5 () rfl () rfl).1 (by decide)

end HsmClass

end CameraController
