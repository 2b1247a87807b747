import Mathlib.Order.Defs.Unbundled

set_option autoImplicit false

namespace Effects

-- What an imperative program can do besides returning or throwing. None of
-- these leaves a state behind: the first five are undefined behaviour or an
-- abort, the last says that a bounded loop of the model was cut short.
inductive Fault where
  | outOfBounds
  | uninitialised
  | assertFailed
  | badCast
  | overflow
  | outOfFuel
deriving DecidableEq, Repr

inductive Outcome (W X A : Type) where
  | ok (value : A) (world : W)
  | threw (error : X) (world : W)
  | fault (cause : Fault)
deriving DecidableEq, Repr

-- An exception keeps the world as it was when it was thrown, so a catch clause
-- runs after the effects of the statements before the throw.
def Prog (W X A : Type) : Type := W → Outcome W X A

namespace Outcome

variable {W X A : Type}

def Sat (Q : A → W → Prop) (E : X → W → Prop) : Outcome W X A → Prop
  | .ok value world => Q value world
  | .threw error world => E error world
  | .fault _ => False

@[simp] theorem sat_ok (Q : A → W → Prop) (E : X → W → Prop) (value : A) (world : W) :
    (Outcome.ok value world : Outcome W X A).Sat Q E ↔ Q value world := Iff.rfl

@[simp] theorem sat_threw (Q : A → W → Prop) (E : X → W → Prop) (error : X) (world : W) :
    (Outcome.threw error world : Outcome W X A).Sat Q E ↔ E error world := Iff.rfl

@[simp] theorem sat_fault (Q : A → W → Prop) (E : X → W → Prop) (cause : Fault) :
    (Outcome.fault cause : Outcome W X A).Sat Q E ↔ False := Iff.rfl

def returned : Outcome W X A → Option A
  | .ok value _ => some value
  | .threw _ _ => none
  | .fault _ => none

def thrown : Outcome W X A → Option X
  | .ok _ _ => none
  | .threw error _ => some error
  | .fault _ => none

theorem returned_some (outcome : Outcome W X A) (value : A) (ended : outcome.returned = some value) :
    ∃ world, outcome = .ok value world := by
  cases outcome with
  | ok result world =>
      cases ended
      exact ⟨world, rfl⟩
  | threw error world => cases ended
  | fault cause => cases ended

def Ends (P : W → Prop) : Outcome W X A → Prop
  | .ok _ world => P world
  | .threw _ world => P world
  | .fault _ => True

theorem ends_mono (P Q : W → Prop) (outcome : Outcome W X A) (weaker : ∀ world, P world → Q world)
    (ends : outcome.Ends P) : outcome.Ends Q := by
  cases outcome with
  | ok value world => exact weaker world ends
  | threw error world => exact weaker world ends
  | fault cause => trivial

theorem ends_trivial (outcome : Outcome W X A) : outcome.Ends (fun _ => True) := by
  cases outcome <;> trivial

theorem sat_mono (Q Q' : A → W → Prop) (E E' : X → W → Prop) (outcome : Outcome W X A)
    (normal : ∀ value world, Q value world → Q' value world)
    (thrown : ∀ error world, E error world → E' error world) (sat : outcome.Sat Q E) : outcome.Sat Q' E' := by
  cases outcome with
  | ok value world => exact normal value world sat
  | threw error world => exact thrown error world sat
  | fault cause => exact sat

end Outcome

namespace Prog

variable {W V X A B : Type}

def ret (value : A) : Prog W X A := fun world => .ok value world

def andThen (first : Prog W X A) (next : A → Prog W X B) : Prog W X B := fun world =>
  match first world with
  | .ok value after => next value after
  | .threw error after => .threw error after
  | .fault cause => .fault cause

instance : Monad (Prog W X) where
  pure := ret
  bind := andThen

@[ext] theorem ext (first second : Prog W X A) (same : ∀ world, first world = second world) : first = second :=
  funext same

theorem ret_right (p : Prog W X A) : andThen p ret = p := by
  funext world
  cases run : p world <;> simp [andThen, run, ret]

theorem andThen_assoc {C : Type} (p : Prog W X A) (f : A → Prog W X B) (g : B → Prog W X C) :
    andThen (andThen p f) g = andThen p (fun value => andThen (f value) g) := by
  funext world
  cases run : p world <;> simp [andThen, run]

instance : LawfulMonad (Prog W X) :=
  LawfulMonad.mk' (Prog W X) (fun p => ret_right p) (fun _ _ => rfl) (fun p f g => andThen_assoc p f g)

def get : Prog W X W := fun world => .ok world world

def modify (f : W → W) : Prog W X Unit := fun world => .ok () (f world)

def throw (error : X) : Prog W X A := fun world => .threw error world

def fault (cause : Fault) : Prog W X A := fun _ => .fault cause

-- A try block with its catch clauses: the clauses that exist for an error are
-- the handler's some values, every other error goes on to the caller.
def tryCatch (body : Prog W X A) (clause : X → Option (Prog W X A)) : Prog W X A := fun world =>
  match body world with
  | .threw error after =>
      match clause error with
      | some handler => handler after
      | none => .threw error after
  | outcome => outcome

-- A scope with a destructor: the destructor runs on return and on unwinding.
def withDestructor (body : Prog W X A) (destructor : Prog W X Unit) : Prog W X A := fun world =>
  match body world with
  | .ok value after => (destructor >>= fun _ => ret value) after
  | .threw error after => (destructor >>= fun _ => throw error) after
  | .fault cause => .fault cause

def zoom (view : W → V) (put : V → W → W) (body : Prog V X A) : Prog W X A := fun world =>
  match body (view world) with
  | .ok value after => .ok value (put after world)
  | .threw error after => .threw error (put after world)
  | .fault cause => .fault cause

@[simp] theorem pure_apply (value : A) (world : W) : (pure value : Prog W X A) world = .ok value world := rfl

@[simp] theorem get_apply (world : W) : (get : Prog W X W) world = .ok world world := rfl

@[simp] theorem modify_apply (f : W → W) (world : W) : (modify f : Prog W X Unit) world = .ok () (f world) := rfl

@[simp] theorem throw_apply (error : X) (world : W) : (throw error : Prog W X A) world = .threw error world := rfl

@[simp] theorem fault_apply (cause : Fault) (world : W) : (fault cause : Prog W X A) world = .fault cause := rfl

@[simp] theorem fault_bind (cause : Fault) (next : A → Prog W X B) :
    ((fault cause : Prog W X A) >>= next) = fault cause := rfl

theorem bind_apply (first : Prog W X A) (next : A → Prog W X B) (world : W) :
    (first >>= next) world = match first world with
      | .ok value after => next value after
      | .threw error after => .threw error after
      | .fault cause => .fault cause := rfl

theorem bind_ok (first : Prog W X A) (next : A → Prog W X B) (world after : W) (value : A)
    (run : first world = .ok value after) : (first >>= next) world = next value after := by
  rw [bind_apply, run]

theorem bind_threw (first : Prog W X A) (next : A → Prog W X B) (world after : W) (error : X)
    (run : first world = .threw error after) : (first >>= next) world = .threw error after := by
  rw [bind_apply, run]

theorem bind_eq_ok (first : Prog W X A) (next : A → Prog W X B) (world final : W) (result : B)
    (run : (first >>= next) world = .ok result final) :
    ∃ value after, first world = .ok value after ∧ next value after = .ok result final := by
  rw [bind_apply] at run
  cases firstRun : first world with
  | ok value after =>
      rw [firstRun] at run
      exact ⟨value, after, rfl, run⟩
  | threw error after => rw [firstRun] at run; cases run
  | fault cause => rw [firstRun] at run; cases run

theorem bind_eq_threw (first : Prog W X A) (next : A → Prog W X B) (world final : W) (error : X)
    (run : (first >>= next) world = .threw error final) : first world = .threw error final ∨
      ∃ value after, first world = .ok value after ∧ next value after = .threw error final := by
  rw [bind_apply] at run
  cases firstRun : first world with
  | ok value after =>
      rw [firstRun] at run
      exact .inr ⟨value, after, rfl, run⟩
  | threw other after =>
      rw [firstRun] at run
      cases run
      exact .inl rfl
  | fault cause => rw [firstRun] at run; cases run

theorem zoom_eq_ok (view : W → V) (put : V → W → W) (body : Prog V X A) (world final : W) (result : A)
    (run : zoom view put body world = .ok result final) :
    ∃ after, body (view world) = .ok result after ∧ final = put after world := by
  unfold zoom at run
  cases bodyRun : body (view world) with
  | ok value after =>
      rw [bodyRun] at run
      cases run
      exact ⟨after, rfl, rfl⟩
  | threw error after => rw [bodyRun] at run; cases run
  | fault cause => rw [bodyRun] at run; cases run

theorem zoom_eq_threw (view : W → V) (put : V → W → W) (body : Prog V X A) (world final : W) (error : X)
    (run : zoom view put body world = .threw error final) :
    ∃ after, body (view world) = .threw error after ∧ final = put after world := by
  unfold zoom at run
  cases bodyRun : body (view world) with
  | ok value after => rw [bodyRun] at run; cases run
  | threw other after =>
      rw [bodyRun] at run
      cases run
      exact ⟨after, rfl, rfl⟩
  | fault cause => rw [bodyRun] at run; cases run

theorem tryCatch_eq_ok (body : Prog W X A) (clause : X → Option (Prog W X A)) (world final : W) (result : A)
    (run : tryCatch body clause world = .ok result final) : body world = .ok result final ∨
      ∃ error after handler, body world = .threw error after ∧ clause error = some handler ∧
        handler after = .ok result final := by
  unfold tryCatch at run
  cases bodyRun : body world with
  | ok value after => rw [bodyRun] at run; exact .inl run
  | threw error after =>
      rw [bodyRun] at run
      dsimp only at run
      cases found : clause error with
      | none => rw [found] at run; cases run
      | some handler =>
          rw [found] at run
          exact .inr ⟨error, after, handler, rfl, found, run⟩
  | fault cause => rw [bodyRun] at run; cases run

theorem withDestructor_eq_ok (body : Prog W X A) (destructor : Prog W X Unit) (world final : W) (result : A)
    (run : withDestructor body destructor world = .ok result final) :
    ∃ after, body world = .ok result after ∧ destructor after = .ok () final := by
  unfold withDestructor at run
  cases bodyRun : body world with
  | ok value after =>
      rw [bodyRun] at run
      obtain ⟨_, ended, destroyed, returned⟩ := bind_eq_ok destructor _ after final result run
      cases returned
      exact ⟨after, rfl, destroyed⟩
  | threw error after =>
      rw [bodyRun] at run
      obtain ⟨_, ended, _, returned⟩ := bind_eq_ok destructor _ after final result run
      cases returned
  | fault cause => rw [bodyRun] at run; cases run

theorem bind_congr_ok (first : Prog W X A) (left right : A → Prog W X B) (world : W)
    (agree : ∀ value after, first world = .ok value after → left value after = right value after) :
    (first >>= left) world = (first >>= right) world := by
  rw [bind_apply, bind_apply]
  cases run : first world with
  | ok value after => exact agree value after run
  | threw error after => rfl
  | fault cause => rfl

-- Every world that an outcome leaves behind, by a return or by an exception, is
-- related to the world before. With a reflexive and transitive R this composes
-- through sequences, branches, catch clauses and destructors.
def Within (R : W → W → Prop) (p : Prog W X A) : Prop := ∀ world, (p world).Ends (R world)

theorem within_mono (R S : W → W → Prop) (p : Prog W X A) (weaker : ∀ before after, R before after → S before after)
    (within : Within R p) : Within S p := fun world =>
  Outcome.ends_mono _ _ _ (weaker world) (within world)

theorem within_ok (R : W → W → Prop) (p : Prog W X A) (world after : W) (value : A) (within : Within R p)
    (run : p world = .ok value after) : R world after := by
  have ends := within world
  rwa [run] at ends

theorem within_threw (R : W → W → Prop) (p : Prog W X A) (world after : W) (error : X) (within : Within R p)
    (run : p world = .threw error after) : R world after := by
  have ends := within world
  rwa [run] at ends

theorem within_pure (R : W → W → Prop) [Std.Refl R] (value : A) : Within R (pure value : Prog W X A) :=
  fun world => refl_of R world

theorem within_get (R : W → W → Prop) [Std.Refl R] : Within R (get : Prog W X W) := fun world => refl_of R world

theorem within_throw (R : W → W → Prop) [Std.Refl R] (error : X) : Within R (throw error : Prog W X A) :=
  fun world => refl_of R world

theorem within_fault (R : W → W → Prop) (cause : Fault) : Within R (fault cause : Prog W X A) := fun _ => trivial

theorem within_seq (R S T : W → W → Prop) (first : Prog W X A) (next : A → Prog W X B)
    (compose : ∀ before middle after, R before middle → S middle after → T before after)
    (early : ∀ before after, R before after → T before after) (firstWithin : Within R first)
    (nextWithin : ∀ value, Within S (next value)) : Within T (first >>= next) := by
  intro world
  have reached := firstWithin world
  rw [bind_apply]
  cases run : first world with
  | ok value after =>
      rw [run] at reached
      exact Outcome.ends_mono _ _ _ (fun _ step => compose _ _ _ reached step) (nextWithin value after)
  | threw error after =>
      rw [run] at reached
      exact early world after reached
  | fault cause => trivial

theorem within_caught (R S T : W → W → Prop) (body : Prog W X A) (clause : X → Option (Prog W X A))
    (compose : ∀ before middle after, R before middle → S middle after → T before after)
    (early : ∀ before after, R before after → T before after) (bodyWithin : Within R body)
    (clauseWithin : ∀ error handler, clause error = some handler → Within S handler) : Within T (tryCatch body clause) := by
  intro world
  have reached := bodyWithin world
  unfold tryCatch
  cases run : body world with
  | ok value after =>
      rw [run] at reached
      exact early world after reached
  | threw error after =>
      rw [run] at reached
      dsimp only
      cases found : clause error with
      | none => exact early world after reached
      | some handler =>
          exact Outcome.ends_mono _ _ _ (fun _ step => compose _ _ _ reached step) (clauseWithin error handler found after)
  | fault cause => trivial

theorem within_bind (R : W → W → Prop) [IsTrans W R] (first : Prog W X A) (next : A → Prog W X B)
    (firstWithin : Within R first) (nextWithin : ∀ value, Within R (next value)) : Within R (first >>= next) :=
  within_seq R R R first next (fun _ _ _ => trans_of R) (fun _ _ => id) firstWithin nextWithin

theorem within_tryCatch (R : W → W → Prop) [IsTrans W R] (body : Prog W X A) (clause : X → Option (Prog W X A))
    (bodyWithin : Within R body) (clauseWithin : ∀ error handler, clause error = some handler → Within R handler) :
    Within R (tryCatch body clause) :=
  within_caught R R R body clause (fun _ _ _ => trans_of R) (fun _ _ => id) bodyWithin clauseWithin

theorem within_withDestructor (R : W → W → Prop) [Std.Refl R] [IsTrans W R] (body : Prog W X A)
    (destructor : Prog W X Unit) (bodyWithin : Within R body)
    (destructorWithin : Within R destructor) : Within R (withDestructor body destructor) := by
  intro world
  have reached := bodyWithin world
  unfold withDestructor
  cases run : body world with
  | ok value after =>
      rw [run] at reached
      have tail := within_bind R destructor (fun _ => (pure value : Prog W X A)) destructorWithin
        (fun _ => within_pure R value) after
      exact Outcome.ends_mono _ _ _ (fun _ step => trans_of R reached step) tail
  | threw error after =>
      rw [run] at reached
      have tail := within_bind R destructor (fun _ => (throw error : Prog W X A)) destructorWithin
        (fun _ => within_throw R error) after
      exact Outcome.ends_mono _ _ _ (fun _ step => trans_of R reached step) tail
  | fault cause => trivial

theorem within_zoom (view : W → V) (put : V → W → W) (body : Prog V X A) (R : V → V → Prop) (S : W → W → Prop)
    (bodyWithin : Within R body) (lift : ∀ world after, R (view world) after → S world (put after world)) :
    Within S (zoom view put body) := by
  intro world
  have reached := bodyWithin (view world)
  unfold zoom
  cases run : body (view world) with
  | ok value after => rw [run] at reached; exact lift world after reached
  | threw error after => rw [run] at reached; exact lift world after reached
  | fault cause => trivial

end Prog

end Effects
