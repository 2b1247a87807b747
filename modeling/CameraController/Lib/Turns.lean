import CameraController.Lib.Prog

set_option autoImplicit false

namespace Effects

namespace Prog

section Turns

variable {W X I : Type} (block : I → Prog W X Unit)

def each : List I → Prog W X Unit
  | [] => pure ()
  | item :: rest => do
      block item
      each rest

-- The worlds before and after the block of an item, as far as the blocks before
-- it return.
inductive Turn : List I → W → I → W → W → Prop where
  | here (item : I) (rest : List I) (world after : W) (run : block item world = .ok () after) :
      Turn (item :: rest) world item world after
  | later (first item : I) (rest : List I) (world middle before after : W) (run : block first world = .ok () middle)
      (turn : Turn rest middle item before after) : Turn (first :: rest) world item before after

theorem each_turns (items : List I) (world last : W) (run : each block items world = .ok () last) (item : I)
    (member : item ∈ items) : ∃ before after, Turn block items world item before after := by
  induction items generalizing world with
  | nil => cases member
  | cons first rest ih =>
      obtain ⟨_, middle, firstRun, restRun⟩ := bind_eq_ok _ _ _ _ _ run
      by_cases same : item = first
      · subst same
        exact ⟨world, middle, .here item rest world middle firstRun⟩
      · obtain ⟨before, after, turn⟩ := ih middle restRun ((List.mem_cons.mp member).resolve_left same)
        exact ⟨before, after, .later first item rest world middle before after firstRun turn⟩

theorem turn_ran (items : List I) (world : W) (item : I) (before after : W) (turn : Turn block items world item before after) :
    block item before = .ok () after := by
  induction turn with
  | here item rest world after run => exact run
  | later first item rest world middle before after run turn ih => exact ih

theorem turn_kept (R : W → W → Prop) [Std.Refl R] [IsTrans W R]
    (keeps : ∀ item world after, block item world = .ok () after → R world after) (items : List I) (world : W) (item : I)
    (before after : W) (turn : Turn block items world item before after) : R world before := by
  induction turn with
  | here item rest world after run => exact refl_of R world
  | later first item rest world middle before after run turn ih => exact trans_of R (keeps first world middle run) ih

end Turns

end Prog

end Effects
