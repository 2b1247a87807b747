import CameraController.HsmInit
import CameraController.Lib.Trace

set_option autoImplicit false

namespace CameraController

open Effects Rooted Trace

namespace HsmClass

variable {Q W E X : Type}

section Machine

-- The machine that also writes down every delivery to a state, except for the
-- EV_EMPTY by which it asks for superstates.
def traced (T : HsmClass Q W E X) : HsmClass Q (W × List (Q × Event E)) E X where
  hsmTop := T.hsmTop
  handler := fun q ev =>
    match ev with
    | .evEmpty => lift (T.handler q .evEmpty)
    | ev => record (q, ev) >>= fun _ => lift (T.handler q ev)

-- Handlers that fit the tree and are no fault themselves. They may throw.
structure WellFormed (T : HsmClass Q W E X) (h : Hierarchy Q) : Prop extends Contract T h where
  sound : ∀ q ev cause, Prog.Never cause (T.handler q ev)

end Machine

section Traced

variable (T : HsmClass Q W E X) (h : Hierarchy Q)

theorem traced_projects (q : Q) (ev : Event E) : Prog.Projects Prod.fst (T.traced.handler q ev) (T.handler q ev) := by
  have recorded : Prog.Projects Prod.fst (record (q, ev) >>= fun _ => lift (T.handler q ev)) (T.handler q ev) := fun world =>
    projects_lift (T.handler q ev) (world.1, world.2 ++ [(q, ev)])
  cases ev with
  | evEmpty => exact projects_lift (T.handler q .evEmpty)
  | evEntry => exact recorded
  | evExit => exact recorded
  | evInit => exact recorded
  | signal e => exact recorded

theorem traced_ok (q : Q) (ev : Event E) (world after : W × List (Q × Event E)) (reply : Reply Q)
    (run : T.traced.handler q ev world = .ok reply after) : T.handler q ev world.1 = .ok reply after.1 :=
  Prog.projects_ok Prod.fst _ _ (traced_projects T q ev) world after reply run

theorem traced_contract (c : Contract T h) : Contract T.traced h where
  top := c.top
  onEmpty := by
    intro q node proper
    show lift (T.handler q .evEmpty) = _
    rw [c.onEmpty q node proper, lift_pure]
  onExit := fun q node proper world after reply run =>
    c.onExit q node proper world.1 after.1 reply (traced_ok T q .evExit world after reply run)
  onInit := fun q node proper world after d run =>
    c.onInit q node proper world.1 after.1 d (traced_ok T q .evInit world after _ run)
  onSignal := fun q node proper e world after reply run =>
    c.onSignal q node proper e world.1 after.1 reply (traced_ok T q (.signal e) world after reply run)

theorem traced_sound (q : Q) (ev : Event E) (cause : Fault) (never : Prog.Never cause (T.handler q ev)) :
    Prog.Never cause (T.traced.handler q ev) := by
  have lifted : Prog.Never cause (lift (T.handler q ev) : Prog (W × List (Q × Event E)) X (Reply Q)) :=
    Prog.never_zoom cause _ _ _ never
  have recorded : Prog.Never cause (record (q, ev) >>= fun _ => lift (T.handler q ev)) := fun world =>
    lifted (world.1, world.2 ++ [(q, ev)])
  cases ev with
  | evEmpty => exact lifted
  | evEntry => exact recorded
  | evExit => exact recorded
  | evInit => exact recorded
  | signal e => exact recorded

theorem traced_formed (formed : WellFormed T h) : WellFormed T.traced h where
  toContract := traced_contract T h formed.toContract
  sound := fun q ev cause => traced_sound T q ev cause (formed.sound q ev cause)

theorem traced_initial (initial : Q) (pseudo : Initial T h initial) : Initial T.traced h initial where
  proper := pseudo.proper
  answer := fun world after reply run =>
    pseudo.answer world.1 after.1 reply (traced_ok T initial .evEmpty world after reply run)

theorem traced_within (q : Q) (ev : Event E) : Prog.Within Extends (T.traced.handler q ev) := by
  have recorded : Prog.Within Extends (record (q, ev) >>= fun _ => lift (T.handler q ev)) :=
    Prog.within_bind Extends _ _ (record_within (q, ev)) (fun _ => lift_within (T.handler q ev))
  cases ev with
  | evEmpty => exact lift_within (T.handler q .evEmpty)
  | evEntry => exact recorded
  | evExit => exact recorded
  | evInit => exact recorded
  | signal e => exact recorded

theorem visit_projects (ev : Event E) (qs : List Q) : Prog.Projects Prod.fst (T.traced.visit ev qs) (T.visit ev qs) := by
  induction qs with
  | nil => exact Prog.projects_pure Prod.fst ()
  | cons q rest ih => exact Prog.projects_bind Prod.fst _ _ _ _ (traced_projects T q ev) (fun _ => ih)

theorem enter_projects (qs : List Q) (temp : Q) : Prog.Projects Prod.fst (T.traced.enter qs temp) (T.enter qs temp) := by
  induction qs generalizing temp with
  | nil => exact Prog.projects_pure Prod.fst temp
  | cons q rest ih => exact Prog.projects_bind Prod.fst _ _ _ _ (traced_projects T q .evEntry) (fun reply => ih _)

theorem offer_projects (ev : Event E) (n : Nat) (q : Q) :
    Prog.Projects Prod.fst (T.traced.offerUp h ev n q) (T.offerUp h ev n q) := by
  induction n generalizing q with
  | zero => exact Prog.projects_pure Prod.fst _
  | succ n ih =>
      refine Prog.projects_bind Prod.fst _ _ _ _ (traced_projects T q ev) (fun reply => ?_)
      cases reply with
      | unhandled => exact ih (h.parent q)
      | tranSuper p => exact ih (h.parent q)
      | handled => exact Prog.projects_pure Prod.fst _
      | ignored => exact Prog.projects_pure Prod.fst _
      | transition t => exact Prog.projects_pure Prod.fst _

end Traced

section Sound

variable (T : HsmClass Q W E X) (h : Hierarchy Q)

theorem visit_never (cause : Fault) (sound : ∀ q ev, Prog.Never cause (T.handler q ev)) (ev : Event E) (qs : List Q) :
    Prog.Never cause (T.visit ev qs) := by
  induction qs with
  | nil => exact Prog.never_pure cause ()
  | cons q rest ih => exact Prog.never_bind cause _ _ (sound q ev) (fun _ _ after _ => ih after)

theorem drill_never (cause : Fault) (sound : ∀ q ev, Prog.Never cause (T.handler q ev)) (n : Nat) (q : Q) :
    Prog.Never cause (T.drill h n q) := by
  induction n generalizing q with
  | zero => exact Prog.never_bind cause _ _ (sound q .evInit) (fun _ _ after _ => Prog.never_pure cause q after)
  | succ n ih =>
      refine Prog.never_bind cause _ _ (sound q .evInit) (fun _ reply after _ => ?_)
      cases reply with
      | transition d =>
          exact Prog.never_bind cause _ _ (visit_never T cause sound .evEntry _) (fun _ _ entered _ => ih d entered) after
      | handled => exact Prog.never_pure cause q after
      | ignored => exact Prog.never_pure cause q after
      | unhandled => exact Prog.never_pure cause q after
      | tranSuper p => exact Prog.never_pure cause q after

theorem offer_never (cause : Fault) (sound : ∀ q ev, Prog.Never cause (T.handler q ev)) (ev : Event E) (n : Nat) (q : Q) :
    Prog.Never cause (T.offerUp h ev n q) := by
  induction n generalizing q with
  | zero => exact Prog.never_pure cause _
  | succ n ih =>
      refine Prog.never_bind cause _ _ (sound q ev) (fun _ reply after _ => ?_)
      cases reply with
      | unhandled => exact ih (h.parent q) after
      | tranSuper p => exact ih (h.parent q) after
      | handled => exact Prog.never_pure cause _ after
      | ignored => exact Prog.never_pure cause _ after
      | transition t => exact Prog.never_pure cause _ after

theorem bounded_drill_never (cause : Fault) (different : cause ≠ .outOfBounds)
    (sound : ∀ q ev, Prog.Never cause (T.handler q ev)) (n : Nat) (q : Q) : Prog.Never cause (T.boundedDrill h n q) := by
  induction n generalizing q with
  | zero => exact Prog.never_bind cause _ _ (sound q .evInit) (fun _ _ after _ => Prog.never_pure cause q after)
  | succ n ih =>
      refine Prog.never_bind cause _ _ (sound q .evInit) (fun _ reply after _ => ?_)
      cases reply with
      | transition d =>
          dsimp only
          by_cases near : h.depth d ≤ h.depth q + 5
          · rw [if_pos near]
            exact Prog.never_bind cause _ _ (visit_never T cause sound .evEntry _) (fun _ _ entered _ => ih d entered) after
          · rw [if_neg near]
            exact Prog.never_fault cause .outOfBounds different.symm after
      | handled => exact Prog.never_pure cause q after
      | ignored => exact Prog.never_pure cause q after
      | unhandled => exact Prog.never_pure cause q after
      | tranSuper p => exact Prog.never_pure cause q after

variable [DecidableEq Q]

theorem bounded_dispatch_never (cause : Fault) (different : cause ≠ .outOfBounds)
    (sound : ∀ q ev, Prog.Never cause (T.handler q ev)) (ev : Event E) (S : Q) :
    Prog.Never cause (T.boundedDispatch h ev S) := by
  refine Prog.never_bind cause _ _ (offer_never T h cause sound ev _ S) (fun _ offered after _ => ?_)
  obtain ⟨s, reply⟩ := offered
  cases reply with
  | transition t =>
      refine Prog.never_bind cause _ _ (visit_never T cause sound .evExit _) (fun _ _ left _ => ?_) after
      by_cases fits : PathFits h s t
      · rw [if_pos fits]
        refine Prog.never_bind cause _ _ (visit_never T cause sound .evExit _) (fun _ _ exited _ => ?_) left
        exact Prog.never_bind cause _ _ (visit_never T cause sound .evEntry _)
          (fun _ _ entered _ => bounded_drill_never T h cause different sound _ t entered) exited
      · rw [if_neg fits]
        exact Prog.never_fault cause .outOfBounds different.symm left
  | handled => exact Prog.never_pure cause S after
  | ignored => exact Prog.never_pure cause S after
  | unhandled => exact Prog.never_pure cause S after
  | tranSuper p => exact Prog.never_pure cause S after

end Sound

section Extending

variable (T : HsmClass Q W E X) (h : Hierarchy Q) (R : W → W → Prop) [Std.Refl R]

theorem write_within (path : Path Q) (index : Int) (q : Q) : Prog.Within R (path.write index q : Prog W X (Path Q)) := by
  unfold Path.write
  split
  · exact Prog.within_pure R _
  · exact Prog.within_fault R _

theorem read_within (path : Path Q) (index : Int) : Prog.Within R (path.read index : Prog W X Q) := by
  unfold Path.read
  split
  · split
    · exact Prog.within_pure R _
    · exact Prog.within_fault R _
  · exact Prog.within_fault R _

theorem require_within (condition : Prop) [Decidable condition] : Prog.Within R (require condition : Prog W X Unit) := by
  unfold require
  split
  · exact Prog.within_pure R ()
  · exact Prog.within_fault R _

variable [IsTrans W R]

theorem visit_within (handlers : ∀ q ev, Prog.Within R (T.handler q ev)) (ev : Event E) (qs : List Q) :
    Prog.Within R (T.visit ev qs) := by
  induction qs with
  | nil => exact Prog.within_pure R ()
  | cons q rest ih => exact Prog.within_bind R _ _ (handlers q ev) (fun _ => ih)

theorem enter_within (handlers : ∀ q ev, Prog.Within R (T.handler q ev)) (qs : List Q) (temp : Q) :
    Prog.Within R (T.enter qs temp) := by
  induction qs generalizing temp with
  | nil => exact Prog.within_pure R temp
  | cons q rest ih => exact Prog.within_bind R _ _ (handlers q .evEntry) (fun _ => ih _)

theorem drill_within (handlers : ∀ q ev, Prog.Within R (T.handler q ev)) (n : Nat) (q : Q) : Prog.Within R (T.drill h n q) := by
  induction n generalizing q with
  | zero => exact Prog.within_bind R _ _ (handlers q .evInit) (fun _ => Prog.within_pure R q)
  | succ n ih =>
      refine Prog.within_bind R _ _ (handlers q .evInit) (fun reply => ?_)
      cases reply with
      | transition d => exact Prog.within_bind R _ _ (visit_within T R handlers .evEntry _) (fun _ => ih d)
      | handled => exact Prog.within_pure R q
      | ignored => exact Prog.within_pure R q
      | unhandled => exact Prog.within_pure R q
      | tranSuper p => exact Prog.within_pure R q

variable [DecidableEq Q]

theorem call_within (handlers : ∀ q ev, Prog.Within R (T.handler q ev)) (q : Q) (ev : Event E) (temp : Q) :
    Prog.Within R (T.call q ev temp) := by
  unfold call
  split
  · exact Prog.within_pure R _
  · exact Prog.within_bind R _ _ (handlers q ev) (fun _ => Prog.within_pure R _)

theorem enter_path_within (handlers : ∀ q ev, Prog.Within R (T.handler q ev)) (path : Path Q) (n : Nat) (temp : Q) :
    Prog.Within R (T.enterPath path n temp) := by
  induction n generalizing temp with
  | zero => exact Prog.within_pure R temp
  | succ n ih =>
      refine Prog.within_bind R _ _ (read_within R path n) (fun q => ?_)
      exact Prog.within_bind R _ _ (call_within T R handlers q .evEntry temp) (fun _ => ih _)

theorem climb_init_within (handlers : ∀ q ev, Prog.Within R (T.handler q ev)) (target : Q) (fuel : Nat) (path : Path Q)
    (index : Int) (temp : Q) : Prog.Within R (T.climbInit target fuel path index temp) := by
  induction fuel generalizing path index temp with
  | zero => exact Prog.within_fault R _
  | succ fuel ih =>
      rw [climbInit]
      split
      · refine Prog.within_bind R _ _ (write_within R path _ temp) (fun path => ?_)
        refine Prog.within_bind R _ _ (call_within T R handlers temp .evEmpty temp) (fun _ => ?_)
        exact Prog.within_bind R _ _ (require_within R _) (fun _ => ih path _ _)
      · exact Prog.within_pure R _

theorem init_loop_within (handlers : ∀ q ev, Prog.Within R (T.handler q ev)) (bound fuel : Nat) (target temp : Q) :
    Prog.Within R (T.initLoop bound fuel target temp) := by
  induction fuel generalizing target temp with
  | zero => exact Prog.within_fault R _
  | succ fuel ih =>
      refine Prog.within_bind R _ _ (write_within R _ 0 temp) (fun path => ?_)
      refine Prog.within_bind R _ _ (call_within T R handlers temp .evEmpty temp) (fun _ => ?_)
      refine Prog.within_bind R _ _ (climb_init_within T R handlers target bound path 0 _) (fun climbed => ?_)
      refine Prog.within_bind R _ _ (read_within R climbed.1 0) (fun temp => ?_)
      refine Prog.within_bind R _ _ (enter_path_within T R handlers climbed.1 _ temp) (fun temp => ?_)
      refine Prog.within_bind R _ _ (read_within R climbed.1 0) (fun target => ?_)
      refine Prog.within_bind R _ _ (call_within T R handlers temp .evInit temp) (fun answer => ?_)
      dsimp only
      split
      · exact ih target answer.2
      · exact Prog.within_pure R target

end Extending

section Asserting

variable (T : HsmClass Q W E X)

theorem write_never (path : Path Q) (index : Int) (q : Q) : Prog.Never .assertFailed (path.write index q : Prog W X (Path Q)) := by
  unfold Path.write
  split
  · exact Prog.never_pure _ _
  · exact Prog.never_fault _ _ (by simp)

theorem read_never (path : Path Q) (index : Int) : Prog.Never .assertFailed (path.read index : Prog W X Q) := by
  unfold Path.read
  split
  · split
    · exact Prog.never_pure _ _
    · exact Prog.never_fault _ _ (by simp)
  · exact Prog.never_fault _ _ (by simp)

variable [DecidableEq Q]

theorem call_never (sound : ∀ q ev, Prog.Never .assertFailed (T.handler q ev)) (q : Q) (ev : Event E) (temp : Q) :
    Prog.Never .assertFailed (T.call q ev temp) := by
  unfold call
  split
  · exact Prog.never_pure _ _
  · exact Prog.never_bind _ _ _ (sound q ev) (fun _ _ after _ => Prog.never_pure _ _ after)

theorem enter_path_never (sound : ∀ q ev, Prog.Never .assertFailed (T.handler q ev)) (path : Path Q) (n : Nat) (temp : Q) :
    Prog.Never .assertFailed (T.enterPath path n temp) := by
  induction n generalizing temp with
  | zero => exact Prog.never_pure _ temp
  | succ n ih =>
      refine Prog.never_bind _ _ _ (read_never path n) (fun _ q after _ => ?_)
      exact Prog.never_bind _ _ _ (call_never T sound q .evEntry temp) (fun _ _ after _ => ih _ after) after

-- The assert in the loop of init() repeats the condition of the loop.
theorem climb_init_never (sound : ∀ q ev, Prog.Never .assertFailed (T.handler q ev)) (target : Q) (fuel : Nat)
    (path : Path Q) (index : Int) (temp : Q) : Prog.Never .assertFailed (T.climbInit target fuel path index temp) := by
  induction fuel generalizing path index temp with
  | zero => exact Prog.never_fault _ _ (by simp)
  | succ fuel ih =>
      rw [climbInit]
      by_cases further : temp ≠ target ∧ index < hsmMaxNestDepth - 1
      · have inside : index + 1 < hsmMaxNestDepth := by omega
        rw [if_pos further]
        refine Prog.never_bind _ _ _ (write_never path _ temp) (fun _ path after _ => ?_)
        refine Prog.never_bind _ _ _ (call_never T sound temp .evEmpty temp) (fun _ answer after _ => ?_) after
        simp only [require_true _ inside, pure_bind]
        exact ih path _ answer.2 after
      · rw [if_neg further]
        exact Prog.never_pure _ _

theorem init_loop_never (sound : ∀ q ev, Prog.Never .assertFailed (T.handler q ev)) (bound fuel : Nat) (target temp : Q) :
    Prog.Never .assertFailed (T.initLoop bound fuel target temp) := by
  induction fuel generalizing target temp with
  | zero => exact Prog.never_fault _ _ (by simp)
  | succ fuel ih =>
      refine Prog.never_bind _ _ _ (write_never _ 0 temp) (fun _ path after _ => ?_)
      refine Prog.never_bind _ _ _ (call_never T sound temp .evEmpty temp) (fun _ _ after _ => ?_) after
      refine Prog.never_bind _ _ _ (climb_init_never T sound target bound path 0 _) (fun _ climbed after _ => ?_) after
      refine Prog.never_bind _ _ _ (read_never climbed.1 0) (fun _ temp after _ => ?_) after
      refine Prog.never_bind _ _ _ (enter_path_never T sound climbed.1 _ temp) (fun _ temp after _ => ?_) after
      refine Prog.never_bind _ _ _ (read_never climbed.1 0) (fun _ target after _ => ?_) after
      refine Prog.never_bind _ _ _ (call_never T sound temp .evInit temp) (fun _ answer after _ => ?_) after
      dsimp only
      split
      · exact ih target answer.2 after
      · exact Prog.never_pure _ target after

end Asserting

end HsmClass

end CameraController
