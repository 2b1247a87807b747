import CameraController.HsmDispatch

set_option autoImplicit false

namespace CameraController

open Effects Rooted

namespace HsmClass

variable {Q W E X : Type} [DecidableEq Q]

section Semantics

variable (T : HsmClass Q W E X) (h : Hierarchy Q)

def enter : List Q → Q → Prog W X Q
  | [], temp => pure temp
  | q :: rest, temp => do
      let reply ← T.handler q .evEntry
      enter rest (reply.temp temp)

-- What starting the machine with this initial pseudo-state means.
def initialise (initial : Q) : Prog W X Q := do
  match ← T.handler initial .evEmpty with
  | .transition t => do
      T.visit .evEntry (h.below t h.top).reverse
      T.drill h (h.levels - h.depth t) t
  | _ => Prog.fault .assertFailed

-- The hops of the initial transitions from q to d, and on from d, span at most
-- five levels, and no answer to EV_ENTRY leaves another state than d in temp,
-- where EV_INIT goes.
def InitFits : Nat → Q → Q → W → Prop
  | 0, q, d, world => h.depth d ≤ h.depth q + 5 ∧
      ∀ temp entered, T.enter (h.below d q).reverse d world = .ok temp entered → temp = d
  | n + 1, q, d, world => h.depth d ≤ h.depth q + 5 ∧
      ∀ temp entered, T.enter (h.below d q).reverse d world = .ok temp entered → temp = d ∧
        ∀ next after, T.handler d .evInit entered = .ok (.transition next) after → InitFits n d next after

def InitialiseFits (initial : Q) (world : W) : Prop :=
  ∀ t after, T.handler initial .evEmpty world = .ok (.transition t) after →
    InitFits T h (h.levels - h.depth t) h.top t after

structure Initial (initial : Q) : Prop where
  proper : initial ≠ h.top
  answer : ∀ world after reply, T.handler initial .evEmpty world = .ok reply after →
    ∃ t, reply = .transition t ∧ h.member t ∧ t ≠ h.top

omit [DecidableEq Q] in
theorem enter_visit (qs : List Q) (temp : Q) : (T.enter qs temp >>= fun _ => pure ()) = T.visit .evEntry qs := by
  induction qs generalizing temp with
  | nil => rfl
  | cons q rest ih => simp only [enter, visit, bind_assoc, ih]

end Semantics

section Loops

variable (T : HsmClass Q W E X) (h : Hierarchy Q)

theorem climb_init (c : Contract T h) (m fuel k : Nat) (d q : Q) (path : Path Q) (node : h.member d)
    (ancestor : h.Ancestor q d) (deeper : h.depth q < h.depth d) (holds : Holds h d path k)
    (count : k + m = min (h.depth d - h.depth q - 1) 4) (enough : m < fuel) :
    ∃ next, Holds h d next (k + m) ∧
      T.climbInit q fuel path k (h.up (k + 1) d) = pure (next, ((k + m : Nat) : Int)) := by
  induction m generalizing fuel k path with
  | zero =>
      obtain ⟨fuel, rfl⟩ : ∃ n, fuel = n + 1 := ⟨fuel - 1, by omega⟩
      have stop : ¬ (h.up (k + 1) d ≠ q ∧ (k : Int) < hsmMaxNestDepth - 1) := by
        rintro ⟨different, short⟩
        have level : k + 1 = h.depth d - h.depth q := by
          unfold hsmMaxNestDepth at short
          omega
        exact different (level ▸ ancestor.2)
      exact ⟨path, holds, by rw [climbInit, if_neg stop]; rfl⟩
  | succ m ih =>
      obtain ⟨fuel, rfl⟩ : ∃ n, fuel = n + 1 := ⟨fuel - 1, by omega⟩
      obtain ⟨next, nextHolds, write⟩ := write_cell (W := W) (X := X) h d path k holds (by omega)
      have above := h.up_member_depth (k + 1) d node (by omega)
      have notYet : h.up (k + 1) d ≠ q := h.depth_ne _ _ (by omega)
      have proper : h.up (k + 1) d ≠ h.top := h.depth_ne _ _ (by rw [h.top_depth]; omega)
      have go : h.up (k + 1) d ≠ q ∧ (k : Int) < hsmMaxNestDepth - 1 := by
        unfold hsmMaxNestDepth
        exact ⟨notYet, by omega⟩
      have inside : (k : Int) + 1 < hsmMaxNestDepth := by
        unfold hsmMaxNestDepth
        omega
      obtain ⟨last, lastHolds, rest⟩ := ih fuel (k + 1) next nextHolds (by omega) (by omega)
      refine ⟨last, fun i within => lastHolds i (by omega), ?_⟩
      rw [climbInit, if_pos go]
      simp only [write, pure_bind, call_empty T h c _ _ above.1 proper, h.up_parent, require_true _ inside]
      have cell : k + (m + 1) = k + 1 + m := by omega
      rw [cell, ← rest, Int.natCast_add, Int.natCast_one]

theorem enter_path_enter (c : Contract T h) (n : Nat) (t temp : Q) (path : Path Q) (node : h.member t)
    (bound : n ≤ h.depth t) (low : n ≤ 5) (cells : ∀ i < n, path i = some (h.up i t)) :
    T.enterPath path n temp = T.enter (List.iterate h.parent t n).reverse temp := by
  induction n generalizing temp with
  | zero => rfl
  | succ n ih =>
      have holds : Holds h t path n := fun i within => cells i (by omega)
      have level := h.up_depth n t node (by omega)
      have proper : h.up n t ≠ h.top := h.depth_ne _ _ (by rw [h.top_depth]; omega)
      rw [enterPath, read_cell h t path n n holds (Nat.le_refl _) (by omega), pure_bind, h.iterate_reverse, enter,
        call_user T h c _ _ temp proper, bind_assoc]
      apply bind_congr
      intro reply
      exact ih _ (by omega) (by omega) (fun i less => cells i (by omega))

theorem init_loop_hop (c : Contract T h) (bound fuel : Nat) (q d : Q) (node : h.member d) (ancestor : h.Ancestor q d)
    (deeper : h.depth q < h.depth d) (boundEnough : h.levels < bound) :
    T.initLoop bound (fuel + 1) q d =
      T.enter (List.iterate h.parent d (min (h.depth d - h.depth q) 5)).reverse d >>= fun temp =>
      T.call temp .evInit temp >>= fun answer =>
        if answer.1 = .tran then T.initLoop bound fuel d answer.2 else pure d := by
  have deepest := h.depth_levels d node
  have proper : d ≠ h.top := h.depth_ne _ _ (by rw [h.top_depth]; omega)
  obtain ⟨first, firstHolds, write⟩ := write_first (W := W) (X := X) h d Path.blank
  obtain ⟨next, nextHolds, climb⟩ := climb_init T h c (min (h.depth d - h.depth q - 1) 4) bound 0 d q first node ancestor
    deeper firstHolds (by omega) (by omega)
  have climb' : T.climbInit q bound first 0 (h.parent d) = _ := climb
  have readTarget : (next.read 0 : Prog W X Q) = pure d :=
    read_cell h d next _ 0 nextHolds (Nat.zero_le _) (by omega)
  have count : (((0 + min (h.depth d - h.depth q - 1) 4 : Nat) : Int) + 1).toNat = min (h.depth d - h.depth q) 5 := by
    omega
  have enters := enter_path_enter T h c (min (h.depth d - h.depth q) 5) d d next node (by omega) (by omega)
    (fun i less => nextHolds i (by omega))
  rw [initLoop]
  simp only [write, pure_bind, call_empty T h c d _ node proper, climb', readTarget, count, enters]

theorem init_loop (c : Contract T h) (fuel : Nat) (initial : Q) (pseudo : Initial T h initial) :
    T.init fuel { state := T.hsmTop, temp := initial } = T.handler initial .evEmpty >>= fun reply =>
      T.initLoop fuel fuel h.top (reply.temp initial) >>= fun target => pure { state := target, temp := target } := by
  rw [init, call_user T h c initial _ _ pseudo.proper, bind_assoc, c.top]
  apply Prog.ext
  intro world
  apply Prog.bind_congr_ok
  intro reply after run
  obtain ⟨t, rfl, _⟩ := pseudo.answer world after reply run
  simp [require_true]

end Loops

end HsmClass

end CameraController
