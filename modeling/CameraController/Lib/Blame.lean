import CameraController.Lib.Prog

set_option autoImplicit false

namespace Effects

-- A set of logs, and a set of quiet logs that leave the verdict on what stands
-- before and after them alone.
structure Harm (R : Type) where
  harmful : List R → Prop
  quiet : List R → Prop
  harmful_nil : ¬ harmful []
  quiet_nil : quiet []
  quiet_append : ∀ first second, quiet first → quiet second → quiet (first ++ second)
  harmful_append : ∀ first second, quiet first ∨ quiet second →
    (harmful (first ++ second) ↔ harmful first ∨ harmful second)

namespace Harm

variable {R : Type}

def ofEntry (bad : R → Prop) : Harm R where
  harmful := fun log => ∃ entry ∈ log, bad entry
  quiet := fun _ => True
  harmful_nil := by simp
  quiet_nil := trivial
  quiet_append := fun _ _ _ _ => trivial
  harmful_append := by
    intro first second _
    simp only [List.mem_append, or_and_right, exists_or]

end Harm

namespace Prog

variable {W V X A B R : Type}

-- What was added to the log is harmless at a return, and at a throw it is
-- harmful unless the exception is mild. There is no fault.
def Verdict (log : W → List R) (H : Harm R) (mild : X → Prop) (silent : Prop) (start : List R)
    (outcome : Outcome W X A) : Prop :=
  outcome.Sat
    (fun _ after => ∃ added, log after = start ++ added ∧ ¬ H.harmful added ∧ (silent → H.quiet added))
    (fun error after => ∃ added, log after = start ++ added ∧ (H.harmful added ↔ ¬ mild error) ∧
      (silent → H.quiet added))

def Blames (log : W → List R) (H : Harm R) (mild : X → Prop) (silent : Prop) (p : Prog W X A) : Prop :=
  ∀ world, Verdict log H mild silent (log world) (p world)

section Rules

variable (log : W → List R) (H : Harm R) (mild : X → Prop)

theorem blames_pure (silent : Prop) (value : A) : Blames log H mild silent (pure value : Prog W X A) := by
  intro world
  exact ⟨[], (List.append_nil _).symm, H.harmful_nil, fun _ => H.quiet_nil⟩

theorem blames_modify (silent : Prop) (f : W → W) (unlogged : ∀ world, log (f world) = log world) :
    Blames log H mild silent (modify f : Prog W X Unit) := by
  intro world
  exact ⟨[], by rw [unlogged, List.append_nil], H.harmful_nil, fun _ => H.quiet_nil⟩

theorem blames_get (silent : Prop) : Blames log H mild silent (get : Prog W X W) := by
  intro world
  exact ⟨[], (List.append_nil _).symm, H.harmful_nil, fun _ => H.quiet_nil⟩

theorem blames_throw (silent : Prop) (error : X) (isMild : mild error) :
    Blames log H mild silent (throw error : Prog W X A) := by
  intro world
  exact ⟨[], (List.append_nil _).symm, ⟨fun harm => absurd harm H.harmful_nil, fun harsh => absurd isMild harsh⟩,
    fun _ => H.quiet_nil⟩

-- A verdict on what follows a harmless part of the log. One of the two parts
-- has to be quiet; the whole is when both are.
theorem verdict_after (silent later : Prop) (outcome : Outcome W X A) (start added : List R)
    (harmless : ¬ H.harmful added) (apart : H.quiet added ∨ later) (both : silent → H.quiet added ∧ later)
    (verdict : Verdict log H mild later (start ++ added) outcome) : Verdict log H mild silent start outcome := by
  have either : ∀ more, (later → H.quiet more) → (H.harmful (added ++ more) ↔ H.harmful more) := by
    intro more quiet
    rw [H.harmful_append added more (apart.imp_right quiet)]
    exact ⟨fun harm => harm.resolve_left harmless, Or.inr⟩
  refine Outcome.sat_mono _ _ _ _ _ ?_ ?_ verdict
  · intro value after holds
    obtain ⟨more, extended, harm, quiet⟩ := holds
    refine ⟨added ++ more, by rw [extended, List.append_assoc], by rwa [either more quiet], ?_⟩
    intro silence
    exact H.quiet_append added more (both silence).1 (quiet (both silence).2)
  · intro error after holds
    obtain ⟨more, extended, harm, quiet⟩ := holds
    refine ⟨added ++ more, by rw [extended, List.append_assoc], by rwa [either more quiet], ?_⟩
    intro silence
    exact H.quiet_append added more (both silence).1 (quiet (both silence).2)

theorem verdict_bind (silent left right : Prop) (first : Prog W X A) (next : A → Prog W X B) (world : W)
    (apart : left ∨ right) (both : silent → left ∧ right) (head : Verdict log H mild left (log world) (first world))
    (rest : ∀ value after, first world = .ok value after → Verdict log H mild right (log after) (next value after)) :
    Verdict log H mild silent (log world) ((first >>= next) world) := by
  rw [bind_apply]
  cases run : first world with
  | ok value after =>
      rw [run] at head
      obtain ⟨added, logged, harmless, quiet⟩ := head
      apply verdict_after log H mild silent right _ (log world) added harmless (apart.imp_left quiet)
        (fun silence => ⟨quiet (both silence).1, (both silence).2⟩)
      rw [← logged]
      exact rest value after run
  | threw error after =>
      rw [run] at head
      obtain ⟨added, logged, harm, quiet⟩ := head
      exact ⟨added, logged, harm, fun silence => quiet (both silence).1⟩
  | fault cause => rwa [run] at head

theorem verdict_quiet (first : Prog W X A) (next : A → Prog W X B) (world : W)
    (head : Verdict log H mild True (log world) (first world))
    (rest : ∀ value after, first world = .ok value after → Verdict log H mild True (log after) (next value after)) :
    Verdict log H mild True (log world) ((first >>= next) world) :=
  verdict_bind log H mild True True True first next world (.inl trivial) (fun _ => ⟨trivial, trivial⟩) head rest

theorem blames_bind_of (silent left right : Prop) (first : Prog W X A) (next : A → Prog W X B) (Returned : A → Prop)
    (apart : left ∨ right) (both : silent → left ∧ right) (firstBlames : Blames log H mild left first)
    (returned : ∀ world value after, first world = .ok value after → Returned value)
    (nextBlames : ∀ value, Returned value → Blames log H mild right (next value)) :
    Blames log H mild silent (first >>= next) := by
  intro world
  apply verdict_bind log H mild silent left right first next world apart both (firstBlames world)
  intro value after run
  exact nextBlames value (returned world value after run) after

theorem blames_bind (silent left right : Prop) (first : Prog W X A) (next : A → Prog W X B)
    (apart : left ∨ right) (both : silent → left ∧ right) (firstBlames : Blames log H mild left first)
    (nextBlames : ∀ value, Blames log H mild right (next value)) : Blames log H mild silent (first >>= next) :=
  blames_bind_of log H mild silent left right first next (fun _ => True) apart both firstBlames
    (fun _ _ _ _ => trivial) (fun value _ => nextBlames value)

theorem blames_quiet (first : Prog W X A) (next : A → Prog W X B) (firstBlames : Blames log H mild True first)
    (nextBlames : ∀ value, Blames log H mild True (next value)) : Blames log H mild True (first >>= next) :=
  blames_bind log H mild True True True first next (.inl trivial) (fun _ => ⟨trivial, trivial⟩) firstBlames nextBlames

theorem blames_loud (silent : Prop) (p : Prog W X A) (blames : Blames log H mild True p) :
    Blames log H mild silent p := fun world =>
  Outcome.sat_mono _ _ _ _ _
    (fun _ _ ⟨added, logged, harm, quiet⟩ => ⟨added, logged, harm, fun _ => quiet trivial⟩)
    (fun _ _ ⟨added, logged, harm, quiet⟩ => ⟨added, logged, harm, fun _ => quiet trivial⟩) (blames world)

theorem blames_withDestructor (silent : Prop) (body : Prog W X A) (destructor : Prog W X Unit)
    (bodyBlames : Blames log H mild silent body)
    (returns : ∀ world, ∃ after added, destructor world = .ok () after ∧ log after = log world ++ added ∧
      ¬ H.harmful added ∧ H.quiet added) : Blames log H mild silent (withDestructor body destructor) := by
  intro world
  have head := bodyBlames world
  unfold withDestructor
  cases run : body world with
  | ok value after =>
      rw [run] at head
      obtain ⟨added, logged, harm, quiet⟩ := head
      obtain ⟨final, more, ended, extended, harmless, calm⟩ := returns after
      dsimp only
      rw [bind_ok _ _ _ _ _ ended]
      refine ⟨added ++ more, by rw [extended, logged, List.append_assoc], ?_, ?_⟩
      · rw [H.harmful_append added more (.inr calm)]
        exact not_or.mpr ⟨harm, harmless⟩
      · exact fun silence => H.quiet_append added more (quiet silence) calm
  | threw error after =>
      rw [run] at head
      obtain ⟨added, logged, harm, quiet⟩ := head
      obtain ⟨final, more, ended, extended, harmless, calm⟩ := returns after
      dsimp only
      rw [bind_ok _ _ _ _ _ ended]
      refine ⟨added ++ more, by rw [extended, logged, List.append_assoc], ?_, ?_⟩
      · rw [H.harmful_append added more (.inr calm), ← harm]
        exact ⟨fun either => either.resolve_right harmless, Or.inl⟩
      · exact fun silence => H.quiet_append added more (quiet silence) calm
  | fault cause => rwa [run] at head

theorem blames_tryCatch (mild' : X → Prop) (silent : Prop) (body : Prog W X A) (clause : X → Option (Prog W X A))
    (bodyBlames : Blames log H mild silent body)
    (caught : ∀ error handler, clause error = some handler → mild error ∧ Blames log H mild' True handler)
    (uncaught : ∀ error, clause error = none → (mild' error ↔ mild error)) :
    Blames log H mild' silent (tryCatch body clause) := by
  intro world
  have head := bodyBlames world
  unfold tryCatch
  cases run : body world with
  | ok value after => rwa [run] at head
  | threw error after =>
      rw [run] at head
      obtain ⟨added, logged, harm, quiet⟩ := head
      dsimp only
      cases found : clause error with
      | none => exact ⟨added, logged, by rw [harm, uncaught error found], quiet⟩
      | some handler =>
          obtain ⟨isMild, handles⟩ := caught error handler found
          apply verdict_after log H mild' silent True _ (log world) added (fun harmful => harm.mp harmful isMild)
            (.inr trivial) (fun silence => ⟨quiet silence, trivial⟩)
          dsimp only
          rw [← logged]
          exact handles after
  | fault cause => rwa [run] at head

theorem blames_zoom (view : W → V) (put : V → W → W) (body : Prog V X A) (silent : Prop) (inner : V → List R)
    (seen : ∀ world, log world = inner (view world)) (kept : ∀ world after, log (put after world) = inner after)
    (bodyBlames : Blames inner H mild silent body) : Blames log H mild silent (zoom view put body) := by
  intro world
  have head := bodyBlames (view world)
  unfold zoom
  cases run : body (view world) with
  | ok value after =>
      rw [run] at head
      rwa [Verdict, Outcome.sat_ok, kept, seen]
  | threw error after =>
      rw [run] at head
      rwa [Verdict, Outcome.sat_threw, kept, seen]
  | fault cause => rwa [run] at head

end Rules

end Prog

end Effects
