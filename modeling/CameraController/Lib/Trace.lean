import Mathlib.Data.List.Infix
import CameraController.Lib.Prog

set_option autoImplicit false

-- Programs over a world with a list of labels, which they only extend.
namespace Effects

namespace Outcome

variable {W V X A : Type}

def mapWorld (view : W → V) : Outcome W X A → Outcome V X A
  | .ok value world => .ok value (view world)
  | .threw error world => .threw error (view world)
  | .fault cause => .fault cause

theorem map_world_ok (view : W → V) (outcome : Outcome W X A) (value : A) (seen : V)
    (ended : outcome.mapWorld view = .ok value seen) : ∃ world, outcome = .ok value world ∧ view world = seen := by
  cases outcome with
  | ok result world =>
      cases ended
      exact ⟨world, rfl, rfl⟩
  | threw error world => cases ended
  | fault cause => cases ended

end Outcome

namespace Prog

variable {W V X A B : Type}

def Never (cause : Fault) (p : Prog W X A) : Prop := ∀ world, p world ≠ .fault cause

theorem never_pure (cause : Fault) (value : A) : Never cause (pure value : Prog W X A) := by
  intro world
  simp

theorem never_fault (cause other : Fault) (different : other ≠ cause) : Never cause (fault other : Prog W X A) := by
  rintro world same
  exact different (Outcome.fault.inj same)

theorem never_bind (cause : Fault) (first : Prog W X A) (next : A → Prog W X B) (left : Never cause first)
    (right : ∀ world value after, first world = .ok value after → next value after ≠ .fault cause) :
    Never cause (first >>= next) := by
  intro world
  rw [bind_apply]
  cases run : first world with
  | ok value after => exact right world value after run
  | threw error after => simp
  | fault other =>
      intro same
      exact left world (run.trans (congrArg Outcome.fault (Outcome.fault.inj same)))

theorem never_zoom (cause : Fault) (view : W → V) (put : V → W → W) (body : Prog V X A) (never : Never cause body) :
    Never cause (zoom view put body) := by
  intro world
  unfold zoom
  cases run : body (view world) with
  | ok value after => simp
  | threw error after => simp
  | fault other =>
      intro same
      exact never (view world) (run.trans (congrArg Outcome.fault (Outcome.fault.inj same)))

theorem bind_pure_injective (f : A → B) (injective : Function.Injective f) (left right : Prog W X A) (world : W)
    (same : (left >>= fun value => pure (f value)) world = (right >>= fun value => pure (f value)) world) :
    left world = right world := by
  rw [bind_apply, bind_apply] at same
  cases leftRun : left world with
  | ok value after =>
      cases rightRun : right world with
      | ok other final =>
          simp [leftRun, rightRun] at same
          rw [injective same.1, same.2]
      | threw error final => simp [leftRun, rightRun] at same
      | fault cause => simp [leftRun, rightRun] at same
  | threw error after =>
      cases rightRun : right world with
      | ok other final => simp [leftRun, rightRun] at same
      | threw error final => simpa [leftRun, rightRun] using same
      | fault cause => simp [leftRun, rightRun] at same
  | fault cause =>
      cases rightRun : right world with
      | ok other final => simp [leftRun, rightRun] at same
      | threw error final => simp [leftRun, rightRun] at same
      | fault cause => simpa [leftRun, rightRun] using same

-- What the one program does is the other one's doing, seen through view.
def Projects (view : W → V) (full : Prog W X A) (part : Prog V X A) : Prop :=
  ∀ world, (full world).mapWorld view = part (view world)

theorem projects_pure (view : W → V) (value : A) : Projects view (pure value : Prog W X A) (pure value) := fun _ => rfl

theorem projects_bind (view : W → V) (full : Prog W X A) (part : Prog V X A) (fullNext : A → Prog W X B)
    (partNext : A → Prog V X B) (first : Projects view full part)
    (next : ∀ value, Projects view (fullNext value) (partNext value)) : Projects view (full >>= fullNext) (part >>= partNext) := by
  intro world
  rw [bind_apply, bind_apply, ← first world]
  cases full world with
  | ok value after => exact next value after
  | threw error after => rfl
  | fault cause => rfl

theorem projects_ok (view : W → V) (full : Prog W X A) (part : Prog V X A) (projects : Projects view full part) (world after : W)
    (value : A) (run : full world = .ok value after) : part (view world) = .ok value (view after) := by
  rw [← projects world, run]
  rfl

theorem projects_found (view : W → V) (full : Prog W X A) (part : Prog V X A) (projects : Projects view full part) (world : W)
    (value : A) (seen : V) (run : part (view world) = .ok value seen) : ∃ after, full world = .ok value after ∧ view after = seen :=
  Outcome.map_world_ok view (full world) value seen ((projects world).trans run)

end Prog

namespace Trace

variable {W X A B L : Type}

def record (label : L) : Prog (W × List L) X Unit := Prog.modify (fun world => (world.1, world.2 ++ [label]))

def lift (p : Prog W X A) : Prog (W × List L) X A := Prog.zoom Prod.fst (fun after world => (after, world.2)) p

def Extends (before after : W × List L) : Prop := before.2 <+: after.2

instance : Std.Refl (Extends : W × List L → W × List L → Prop) := ⟨fun world => List.prefix_refl world.2⟩

instance : IsTrans (W × List L) Extends := ⟨fun _ _ _ left right => left.trans right⟩

theorem lift_pure (value : A) : (lift (pure value) : Prog (W × List L) X A) = pure value := rfl

theorem record_within (label : L) : Prog.Within Extends (record label : Prog (W × List L) X Unit) :=
  fun world => List.prefix_append world.2 [label]

theorem lift_within (p : Prog W X A) : Prog.Within Extends (lift p : Prog (W × List L) X A) :=
  Prog.within_zoom Prod.fst _ p (fun _ _ => True) Extends (fun world => Outcome.ends_trivial (p world))
    (fun world _ _ => List.prefix_refl world.2)

theorem projects_lift (p : Prog W X A) : Prog.Projects Prod.fst (lift p : Prog (W × List L) X A) p := by
  intro world
  unfold lift Prog.zoom
  cases p world.1 with
  | ok value after => rfl
  | threw error after => rfl
  | fault cause => rfl

theorem recorded_first (label : L) (next : Prog (W × List L) X A) (within : Prog.Within Extends next) (world : W × List L) :
    ((record label >>= fun _ => next) world).Ends (fun after => world.2 ++ [label] <+: after.2) :=
  within (world.1, world.2 ++ [label])

theorem first_apart (labels : List L) (a b : L) (different : a ≠ b) (left right : Outcome (W × List L) X A)
    (leftFirst : left.Ends (fun after => labels ++ [a] <+: after.2)) (rightFirst : right.Ends (fun after => labels ++ [b] <+: after.2))
    (returns : ∀ cause, right ≠ .fault cause) : left ≠ right := by
  rintro rfl
  have both : ∀ trace : List L, labels ++ [a] <+: trace → ¬ labels ++ [b] <+: trace := by
    intro trace first second
    have same := List.prefix_of_prefix_length_le first second (by simp)
    have lists := same.eq_of_length (by simp)
    exact different (by simpa using lists)
  cases left with
  | ok value after => exact both after.2 leftFirst rightFirst
  | threw error after => exact both after.2 leftFirst rightFirst
  | fault cause => exact returns cause rfl

end Trace

end Effects
