import Mathlib.Tactic.ByContra
import CameraController.HsmReference

set_option autoImplicit false

namespace CameraController

open Effects Rooted

namespace HsmClass

variable {Q W E X : Type}

-- path holds t, t->super, ... in its cells 0 to n.
def Holds (h : Hierarchy Q) (t : Q) (path : Path Q) (n : Nat) : Prop := ∀ i ≤ n, path i = some (h.up i t)

theorem read_cell (h : Hierarchy Q) (t : Q) (path : Path Q) (n i : Nat) (holds : Holds h t path n)
    (within : i ≤ n) (bound : i < 5) : (path.read i : Prog W X Q) = pure (h.up i t) := by
  have inside : (0 : Int) ≤ (i : Int) ∧ (i : Int) < hsmMaxNestDepth := by
    unfold hsmMaxNestDepth
    omega
  rw [Path.read, if_pos inside, Int.toNat_natCast, holds i within]

theorem write_cell (h : Hierarchy Q) (t : Q) (path : Path Q) (n : Nat) (holds : Holds h t path n)
    (bound : n + 1 < 5) : ∃ next : Path Q, Holds h t next (n + 1) ∧
      (path.write ((n : Int) + 1) (h.up (n + 1) t) : Prog W X (Path Q)) = pure next := by
  have inside : (0 : Int) ≤ (n : Int) + 1 ∧ (n : Int) + 1 < hsmMaxNestDepth := by
    unfold hsmMaxNestDepth
    omega
  refine ⟨Function.update path (n + 1) (some (h.up (n + 1) t)), ?_, ?_⟩
  · intro i within
    by_cases last : i = n + 1
    · rw [last, Function.update_self]
    · rw [Function.update_of_ne last]
      exact holds i (by omega)
  · rw [Path.write, if_pos inside]
    rfl

theorem write_first (h : Hierarchy Q) (t : Q) (path : Path Q) : ∃ next : Path Q, Holds h t next 0 ∧
    (path.write 0 t : Prog W X (Path Q)) = pure next := by
  refine ⟨Function.update path 0 (some t), ?_, ?_⟩
  · intro i within
    rw [Nat.le_zero.mp within, Function.update_self, h.up_zero]
  · rw [Path.write, if_pos ⟨Int.le_refl _, by decide⟩]
    rfl

theorem path_begun (h : Hierarchy Q) (t : Q) (path : Path Q) (cell : path 0 = some t) : ∃ next, Holds h t next 1 ∧
    (path.read 0 : Prog W X Q) = pure t ∧ (path.write 1 (h.parent t) : Prog W X (Path Q)) = pure next ∧
    (next.read 1 : Prog W X Q) = pure (h.parent t) := by
  have first : Holds h t path 0 := by
    intro i within
    rw [Nat.le_zero.mp within, cell, h.up_zero]
  obtain ⟨next, holds, write⟩ := write_cell (W := W) (X := X) h t path 0 first (by omega)
  exact ⟨next, holds, read_cell h t path 0 0 first (Nat.le_refl _) (by omega), write,
    read_cell h t next 1 1 holds (Nat.le_refl _) (by omega)⟩

theorem write_over (path : Path Q) (q : Q) : (path.write 5 q : Prog W X (Path Q)) = Prog.fault .outOfBounds := by
  simp [Path.write, hsmMaxNestDepth]

theorem require_true (condition : Prop) [Decidable condition] (holds : condition) :
    (require condition : Prog W X Unit) = pure () := by
  rw [require, if_pos holds]

theorem visit_append (T : HsmClass Q W E X) (ev : Event E) (first second : List Q) :
    T.visit ev (first ++ second) = T.visit ev first >>= fun _ => T.visit ev second := by
  induction first with
  | nil => rfl
  | cons q rest ih => simp only [List.cons_append, visit, ih, bind_assoc]

theorem offered_transition (T : HsmClass Q W E X) (h : Hierarchy Q) (c : Contract T h) (e : E) (n : Nat) (q s t : Q)
    (world after : W) (node : h.member q) (level : h.depth q = n)
    (run : T.offerUp h (.signal e) n q world = .ok (s, .transition t) after) :
    h.Ancestor s q ∧ s ≠ h.top ∧ h.member t ∧ t ≠ h.top := by
  induction n generalizing q world with
  | zero => cases run
  | succ n ih =>
      have proper : q ≠ h.top := h.depth_ne _ _ (by rw [h.top_depth]; omega)
      have step := h.parent_depth q node proper
      have parentAbove : h.Ancestor (h.parent q) q := h.ancestor_up 1 q node (by omega)
      have up : ∀ middle, T.offerUp h (.signal e) n (h.parent q) middle = .ok (s, .transition t) after →
          h.Ancestor s q ∧ s ≠ h.top ∧ h.member t ∧ t ≠ h.top := by
        intro middle rest
        obtain ⟨above, found⟩ := ih (h.parent q) middle (h.parent_member q node proper) (by omega) rest
        exact ⟨h.ancestor_trans _ _ _ above parentAbove, found⟩
      rw [offerUp] at run
      obtain ⟨reply, middle, answer, rest⟩ := Prog.bind_eq_ok _ _ _ _ _ run
      cases reply with
      | handled => cases rest
      | ignored => cases rest
      | unhandled => exact up middle rest
      | tranSuper p => exact up middle rest
      | transition d =>
          injection rest with found reached
          injection found with source target
          injection target with target
          subst source target reached
          exact ⟨h.ancestor_refl q, proper, (c.onSignal q node proper e world _ _ answer).1 d rfl⟩

theorem deeper_substate (T : HsmClass Q W E X) (h : Hierarchy Q) (c : Contract T h) (q d : Q) (node : h.member q)
    (proper : q ≠ h.top) (world after : W)
    (run : T.handler q .evInit world = .ok (.transition d) after) :
    h.member d ∧ h.Ancestor q d ∧ h.depth q < h.depth d ∧ d ≠ h.top := by
  obtain ⟨dNode, ancestor, different⟩ := c.onInit q node proper world after d run
  have bounded := ancestor.1
  have unequal : h.depth d - h.depth q ≠ 0 := fun zero => different (by rw [← ancestor.2, zero, h.up_zero])
  exact ⟨dNode, ancestor, by omega, h.depth_ne _ _ (by rw [h.top_depth]; omega)⟩

theorem bounded_drill_fits (T : HsmClass Q W E X) (h : Hierarchy Q) (n : Nat) (q : Q) (world : W) (fits : DrillFits T h n q world) :
    T.boundedDrill h n q world = T.drill h n q world := by
  induction n generalizing q world with
  | zero => rfl
  | succ n ih =>
      rw [boundedDrill, drill]
      apply Prog.bind_congr_ok
      intro reply after run
      cases reply with
      | transition d =>
          obtain ⟨near, rest⟩ := fits d after run
          dsimp only
          rw [if_pos near]
          apply Prog.bind_congr_ok
          intro _ entered visited
          exact ih d entered (rest entered visited)
      | handled => rfl
      | ignored => rfl
      | unhandled => rfl
      | tranSuper p => rfl

theorem low_drill_fits (T : HsmClass Q W E X) (h : Hierarchy Q) (c : Contract T h) (levels : h.levels ≤ 4) (n : Nat) (q : Q)
    (node : h.member q) (proper : q ≠ h.top)
    (world : W) : DrillFits T h n q world := by
  induction n generalizing q world with
  | zero => trivial
  | succ n ih =>
      intro d after run
      obtain ⟨dNode, _, _, dProper⟩ := deeper_substate T h c q d node proper world after run
      have deepest := h.depth_levels d dNode
      exact ⟨by omega, fun entered _ => ih d dNode dProper entered⟩

section Calls

variable [DecidableEq Q] (T : HsmClass Q W E X) (h : Hierarchy Q)

theorem call_top (c : Contract T h) (ev : Event E) (temp : Q) :
    T.call h.top ev temp = pure (.ignored, temp) := by
  rw [call, c.top, if_pos rfl]

theorem call_user (c : Contract T h) (q : Q) (ev : Event E) (temp : Q) (proper : q ≠ h.top) :
    T.call q ev temp = T.handler q ev >>= fun reply => pure (reply.code, reply.temp temp) := by
  rw [call, c.top, if_neg proper]

theorem call_empty (c : Contract T h) (q temp : Q) (node : h.member q) (proper : q ≠ h.top) :
    T.call q .evEmpty temp = pure (.super, h.parent q) := by
  rw [call_user T h c q _ temp proper, c.onEmpty q node proper]
  rfl

theorem call_dropped (c : Contract T h) (q : Q) (ev : Event E) (temp : Q) (proper : q ≠ h.top)
    {A : Type} (next : Prog W X A) :
    (T.call q ev temp >>= fun _ => next) = T.handler q ev >>= fun _ => next := by
  rw [call_user T h c q ev temp proper, bind_assoc]
  simp only [pure_bind]

theorem exit_to_super (c : Contract T h) (q temp : Q) (node : h.member q) (proper : q ≠ h.top) :
    T.exitToSuper q temp = T.handler q .evExit >>= fun _ => pure (h.parent q) := by
  rw [exitToSuper, call_user T h c q _ temp proper, bind_assoc]
  apply Prog.ext
  intro world
  apply Prog.bind_congr_ok
  intro reply after run
  rcases c.onExit q node proper world after reply run with handled | superState
  · subst handled
    simp only [pure_bind, Reply.code, if_true, call_empty T h c q _ node proper]
  · subst superState
    rfl

theorem exit_to_source (c : Contract T h) (n fuel : Nat) (q temp : Q) (node : h.member q)
    (bound : n ≤ h.depth q) (enough : n < fuel) :
    ∃ last, T.exitToSource (h.up n q) fuel q temp =
      T.visit .evExit (h.below q (h.up n q)) >>= fun _ => pure last := by
  induction n generalizing fuel q temp with
  | zero =>
      cases fuel with
      | zero => omega
      | succ fuel =>
          refine ⟨temp, ?_⟩
          rw [exitToSource, if_pos (h.up_zero q).symm, h.up_zero, h.below_self, visit, pure_bind]
  | succ n ih =>
      cases fuel with
      | zero => omega
      | succ fuel =>
          have upDepth := h.up_depth (n + 1) q node bound
          have proper : q ≠ h.top := fun same => by rw [same, h.top_depth] at bound; omega
          have step := h.parent_depth q node proper
          have different : q ≠ h.up (n + 1) q := h.depth_ne _ _ (by omega)
          obtain ⟨last, rest⟩ := ih fuel (h.parent q) (h.parent q) (h.parent_member q node proper) (by omega) (by omega)
          refine ⟨last, ?_⟩
          rw [exitToSource, if_neg different, exit_to_super T h c q temp node proper, bind_assoc]
          rw [h.below_cons q _ node (by omega), visit, bind_assoc]
          simp only [pure_bind]
          rw [h.up_succ, rest]

-- Case (E), source found: it is m levels above the state held in temp.
theorem climb_found (c : Contract T h) (m fuel k : Nat) (t : Q) (path : Path Q) (node : h.member t)
    (holds : Holds h t path k) (bound : k + 1 + m ≤ h.depth t) (low : k + 1 + m < 5) (enough : m < fuel) :
    ∃ next, Holds h t next (k + m) ∧
      T.climbTarget (h.up (k + 1 + m) t) fuel path k .super (h.up (k + 1) t) =
        pure (next, ((k + m : Nat) : Int), true, h.up (k + 1 + m) t) := by
  induction m generalizing fuel k path with
  | zero =>
      cases fuel with
      | zero => omega
      | succ fuel =>
          obtain ⟨next, nextHolds, write⟩ := write_cell (W := W) (X := X) h t path k holds (by omega)
          have inside : ((k : Int) + 1 < hsmMaxNestDepth) := by
            unfold hsmMaxNestDepth
            omega
          refine ⟨next, fun i within => nextHolds i (by omega), ?_⟩
          rw [climbTarget, if_pos rfl]
          simp only [write, pure_bind, Nat.add_zero, if_true, require_true _ inside]
          rw [Int.add_sub_cancel]
  | succ m ih =>
      cases fuel with
      | zero => omega
      | succ fuel =>
          obtain ⟨next, nextHolds, write⟩ := write_cell (W := W) (X := X) h t path k holds (by omega)
          have notYet : h.up (k + 1) t ≠ h.up (k + 1 + (m + 1)) t := fun same => by
            have := h.up_injective _ _ t node (by omega) bound same
            omega
          have above := h.up_member_depth (k + 1) t node (by omega)
          have proper : h.up (k + 1) t ≠ h.top := h.depth_ne _ _ (by rw [h.top_depth]; omega)
          obtain ⟨last, lastHolds, rest⟩ := ih fuel (k + 1) next nextHolds (by omega) (by omega) (by omega)
          refine ⟨last, fun i within => lastHolds i (by omega), ?_⟩
          rw [climbTarget, if_pos rfl]
          simp only [write, pure_bind, if_neg notYet, call_empty T h c _ _ above.1 proper, h.up_parent]
          have level : k + 1 + (m + 1) = k + 1 + 1 + m := by omega
          have cell : k + (m + 1) = k + 1 + m := by omega
          rw [level, cell, ← rest, Int.natCast_add, Int.natCast_one]

-- Case (E), source not above the target: the path ends with Hsm_top.
theorem climb_missed (c : Contract T h) (m fuel k : Nat) (s t : Q) (path : Path Q) (node : h.member t)
    (holds : Holds h t path k) (depth : k + 1 + m = h.depth t) (low : h.depth t < 5) (enough : m + 1 < fuel)
    (apart : ¬ h.Ancestor s t) :
    ∃ next, Holds h t next (h.depth t) ∧
      T.climbTarget s fuel path k .super (h.up (k + 1) t) = pure (next, (h.depth t : Int), false, h.top) := by
  induction m generalizing fuel k path with
  | zero =>
      obtain ⟨fuel, rfl⟩ : ∃ n, fuel = n + 2 := ⟨fuel - 2, by omega⟩
      obtain ⟨next, nextHolds, write⟩ := write_cell (W := W) (X := X) h t path k holds (by omega)
      have notSource : h.up (k + 1) t ≠ s := fun same => apart (same ▸ h.ancestor_up (k + 1) t node (by omega))
      have last : h.up (k + 1) t = h.top := by
        have level : k + 1 = h.depth t := by omega
        rw [level, h.up_depth_self t node]
      refine ⟨next, fun i within => nextHolds i (by omega), ?_⟩
      rw [climbTarget, if_pos rfl]
      simp only [write, pure_bind, if_neg notSource]
      rw [last, call_top T h c]
      simp only [pure_bind, climbTarget, reduceCtorEq, if_false]
      have index : (k : Int) + 1 = (h.depth t : Int) := by omega
      rw [index]
  | succ m ih =>
      cases fuel with
      | zero => omega
      | succ fuel =>
          obtain ⟨next, nextHolds, write⟩ := write_cell (W := W) (X := X) h t path k holds (by omega)
          have notSource : h.up (k + 1) t ≠ s := fun same => apart (same ▸ h.ancestor_up (k + 1) t node (by omega))
          have above := h.up_member_depth (k + 1) t node (by omega)
          have proper : h.up (k + 1) t ≠ h.top := h.depth_ne _ _ (by rw [h.top_depth]; omega)
          obtain ⟨last, lastHolds, rest⟩ := ih fuel (k + 1) next nextHolds (by omega) (by omega)
          refine ⟨last, lastHolds, ?_⟩
          rw [climbTarget, if_pos rfl]
          simp only [write, pure_bind, if_neg notSource, call_empty T h c _ _ above.1 proper, h.up_parent]
          rw [← rest, Int.natCast_add, Int.natCast_one]

theorem climb_apart (c : Contract T h) (fuel : Nat) (s t temp : Q) (path : Path Q) (tNode : h.member t)
    (tProper : t ≠ h.top) (low : h.depth t < 5) (enough : h.depth t < fuel) (holds : Holds h t path 1)
    (apart : ¬ h.Ancestor s t) : ∃ next last, Holds h t next (h.depth t) ∧
      (T.call (h.parent t) .evEmpty temp >>= fun call => T.climbTarget s fuel path 1 call.1 call.2) =
        pure (next, (h.depth t : Int), false, last) := by
  have step := h.parent_depth t tNode tProper
  have parentNode := h.parent_member t tNode tProper
  obtain ⟨fuel, rfl⟩ : ∃ n, fuel = n + 1 := ⟨fuel - 1, by omega⟩
  by_cases root : h.parent t = h.top
  · have one : h.depth t = 1 := by rw [step, root, h.top_depth]
    refine ⟨path, temp, by rwa [one], ?_⟩
    rw [root, call_top T h c, pure_bind, climbTarget, if_neg (by simp), one]
    rfl
  · have level := h.depth_pos (h.parent t) parentNode root
    obtain ⟨next, nextHolds, climb⟩ := climb_missed T h c (h.depth t - 2) (fuel + 1) 1 s t path tNode holds
      (by omega) low (by omega) apart
    refine ⟨next, h.top, nextHolds, ?_⟩
    rw [call_empty T h c _ _ parentNode root, pure_bind]
    exact climb

theorem scan_missed (n : Nat) (t target : Q) (path : Path Q) (holds : Holds h t path n) (low : n < 5)
    (absent : ∀ i ≤ n, target ≠ h.up i t) : (path.scan target n : Prog W X (Option Nat)) = pure none := by
  induction n with
  | zero =>
      rw [Path.scan, ← Int.natCast_zero, read_cell h t path 0 0 holds (Nat.le_refl _) (by omega), pure_bind,
        if_neg (absent 0 (Nat.le_refl _))]
  | succ n ih =>
      rw [Path.scan, read_cell h t path (n + 1) (n + 1) holds (Nat.le_refl _) low, pure_bind,
        if_neg (absent (n + 1) (Nat.le_refl _))]
      exact ih (fun i within => holds i (by omega)) (by omega) (fun i within => absent i (by omega))

theorem scan_found (n k : Nat) (t : Q) (path : Path Q) (node : h.member t) (holds : Holds h t path n)
    (bound : n ≤ h.depth t) (low : n < 5) (within : k ≤ n) :
    (path.scan (h.up k t) n : Prog W X (Option Nat)) = pure (some k) := by
  induction n with
  | zero =>
      have level : k = 0 := by omega
      rw [Path.scan, ← Int.natCast_zero, read_cell h t path 0 0 holds (Nat.le_refl _) (by omega), pure_bind, level,
        if_pos rfl]
  | succ n ih =>
      rw [Path.scan, read_cell h t path (n + 1) (n + 1) holds (Nat.le_refl _) low, pure_bind]
      by_cases level : k = n + 1
      · rw [level, if_pos rfl]
      · have different : h.up k t ≠ h.up (n + 1) t := fun same =>
          level (h.up_injective k (n + 1) t node (by omega) bound same)
        rw [if_neg different]
        exact ih (fun i within => holds i (by omega)) (by omega) (by omega) (by omega)

theorem scan_whole (t target : Q) (path : Path Q) (node : h.member t) (holds : Holds h t path (h.depth t))
    (low : h.depth t < 5) : (path.scan target (h.depth t) : Prog W X (Option Nat)) =
      pure (if h.Ancestor target t then some (h.depth t - h.depth target) else none) := by
  by_cases ancestor : h.Ancestor target t
  · rw [if_pos ancestor]
    conv_lhs => rw [← ancestor.2]
    exact scan_found h _ _ t path node holds (Nat.le_refl _) low (Nat.sub_le _ _)
  · rw [if_neg ancestor]
    apply scan_missed h _ t target path holds low
    intro i within same
    exact ancestor (same ▸ h.ancestor_up i t node within)

-- Case (G): the exits go on until the first state that is on the entry path.
theorem exit_to_lca (c : Contract T h) (k fuel : Nat) (t q temp : Q) (path : Path Q) (node : h.member t)
    (holds : Holds h t path (h.depth t)) (low : h.depth t < 5) (qNode : h.member q) (bound : k + 1 ≤ h.depth q)
    (passed : ∀ j < k + 1, ¬ h.Ancestor (h.up j q) t) (found : h.Ancestor (h.up (k + 1) q) t) (enough : k < fuel) :
    T.exitToLca path (h.depth t) fuel q temp = T.visit .evExit (h.below q (h.up (k + 1) q)) >>= fun _ =>
      pure (((h.depth t - h.depth (h.up (k + 1) q) : Nat) : Int) - 1) := by
  induction k generalizing fuel q temp with
  | zero =>
      cases fuel with
      | zero => omega
      | succ fuel =>
          have proper : q ≠ h.top := h.depth_ne _ _ (by rw [h.top_depth]; omega)
          have step := h.parent_depth q qNode proper
          rw [exitToLca, exit_to_super T h c q temp qNode proper, bind_assoc]
          rw [h.below_cons q _ qNode (by rw [h.up_succ, h.up_zero]; omega), h.up_succ, h.up_zero, h.below_self]
          simp only [visit, bind_assoc, pure_bind, Int.toNat_natCast]
          have reached : h.Ancestor (h.parent q) t := found
          rw [scan_whole h t _ path node holds low, if_pos reached, pure_bind]
  | succ k ih =>
      cases fuel with
      | zero => omega
      | succ fuel =>
          have proper : q ≠ h.top := h.depth_ne _ _ (by rw [h.top_depth]; omega)
          have step := h.parent_depth q qNode proper
          have parentNode := h.parent_member q qNode proper
          have level := h.up_depth (k + 1 + 1) q qNode bound
          have rest := ih fuel (h.parent q) (h.parent q) parentNode (by omega)
            (fun j less => passed (j + 1) (by omega)) found (by omega)
          rw [exitToLca, exit_to_super T h c q temp qNode proper, bind_assoc]
          rw [h.below_cons q _ qNode (by omega), visit, bind_assoc]
          simp only [pure_bind, Int.toNat_natCast]
          have notYet : ¬ h.Ancestor (h.parent q) t := passed 1 (by omega)
          rw [scan_whole h t _ path node holds low, if_neg notYet, pure_bind, rest]
          rfl

theorem scope_apart (s t : Q) (sNode : h.member s) (tNode : h.member t) (apart : ¬ h.Ancestor s t) :
    scope h s t = h.lca s t := by
  rw [scope, if_neg (fun both => apart both.1)]
  by_cases above : h.Ancestor t s ∧ t ≠ s
  · rw [if_pos above]
    exact h.ancestor_antisymm _ _ (h.lca_lowest t s t sNode tNode above.1 (h.ancestor_refl t))
      (h.lca_ancestor_right s t sNode tNode)
  · have different : t ≠ s := fun same => apart (same ▸ h.ancestor_refl t)
    rw [if_neg above, if_neg different]

theorem scope_inside (s t : Q) (inside : h.Ancestor s t) (proper : s ≠ t) : scope h s t = s := by
  rw [scope, if_pos ⟨inside, proper⟩]

theorem scope_self (s : Q) : scope h s s = h.parent s := by
  rw [scope, if_neg (fun both => both.2 rfl), if_neg (fun both => both.2 rfl), if_pos rfl]

-- Cases (C), (D) and the first hit of (F).
theorem scope_sibling (s t : Q) (sNode : h.member s) (tNode : h.member t) (apart : ¬ h.Ancestor s t)
    (shared : h.Ancestor (h.parent s) t) : scope h s t = h.parent s := by
  rw [scope_apart h s t sNode tNode apart, h.lca_parent s t sNode tNode apart, h.climb_here _ _ _ shared]

-- The entry path found for a transition from s to t: it starts with t and holds
-- the states to enter, and its index is one below their number.
structure Entry (s t : Q) (found : Path Q × Int) : Prop where
  target : found.1 0 = some t
  cells : ∀ i < h.depth t - h.depth (scope h s t), found.1 i = some (h.up i t)
  index : found.2 = ((h.depth t - h.depth (scope h s t) : Nat) : Int) - 1

theorem find_entry_apart (c : Contract T h) (fuel : Nat) (s t temp : Q) (path : Path Q) (sNode : h.member s)
    (sProper : s ≠ h.top) (tNode : h.member t) (low : h.depth t < 5) (sLow : h.depth s < fuel)
    (holds : Holds h t path (h.depth t)) (apart : ¬ h.Ancestor s t) :
    ∃ found, Entry h s t found ∧
      (T.call s .evExit temp >>= fun call => path.scan (h.parent s) (h.depth t) >>= fun result =>
        match result with
        | some tempIndex => pure (path, (tempIndex : Int) - 1)
        | none => T.exitToLca path (h.depth t) fuel (h.parent s) call.2 >>= fun index => pure (path, index)) =
      T.visit .evExit (h.below s (scope h s t)) >>= fun _ => pure found := by
  have step := h.parent_depth s sNode sProper
  have parentNode := h.parent_member s sNode sProper
  refine ⟨(path, ((h.depth t - h.depth (scope h s t) : Nat) : Int) - 1), ⟨holds 0 (Nat.zero_le _), ?_, rfl⟩, ?_⟩
  · intro i less
    exact holds i (by omega)
  rw [call_user T h c s _ temp sProper, bind_assoc]
  simp only [pure_bind, scan_whole h t _ path tNode holds low]
  by_cases shared : h.Ancestor (h.parent s) t
  · rw [if_pos shared, scope_sibling h s t sNode tNode apart shared, h.below_parent s sNode sProper]
    simp only [visit, bind_assoc, pure_bind]
  · rw [if_neg shared, scope_apart h s t sNode tNode apart, h.lca_parent s t sNode tNode apart]
    obtain ⟨k, bound, same, passed⟩ := h.climb_up (h.depth s) t (h.parent s) tNode parentNode (by omega)
    have reached := h.climb_ancestor (h.depth s) t (h.parent s) tNode parentNode (by omega)
    rw [same] at reached ⊢
    cases k with
    | zero => exact False.elim (shared reached)
    | succ k =>
        have level := h.up_depth (k + 1) (h.parent s) parentNode bound
        rw [h.below_cons s _ sNode (by omega), visit, bind_assoc]
        simp only [exit_to_lca T h c k fuel t (h.parent s) _ path tNode holds low parentNode bound passed reached
          (by omega), bind_assoc, pure_bind]

-- One state to enter: cases (A), (B) and (C).
theorem entry_child (s t : Q) (path : Path Q) (tNode : h.member t) (tProper : t ≠ h.top) (cell : path 0 = some t)
    (lowest : scope h s t = h.parent t) : Entry h s t (path, 0) := by
  have step := h.parent_depth t tNode tProper
  refine ⟨cell, fun i less => ?_, ?_⟩
  · rw [lowest] at less
    have level : i = 0 := by omega
    rw [level, h.up_zero]
    exact cell
  · rw [lowest]
    dsimp only
    omega

-- Case (E): the source is found above the parent of the target.
theorem climb_inside (c : Contract T h) (fuel : Nat) (s t temp : Q) (path : Path Q) (tNode : h.member t)
    (low : h.depth t < h.depth s + 5) (enough : h.depth t < fuel) (holds : Holds h t path 1) (inside : h.Ancestor s t) (same : s ≠ t)
    (parent : s ≠ h.parent t) : ∃ found last, Entry h s t found ∧
      (T.call (h.parent t) .evEmpty temp >>= fun call => T.climbTarget s fuel path 1 call.1 call.2) =
        pure (found.1, found.2, true, last) := by
  have notSame : h.depth t - h.depth s ≠ 0 := fun zero => same (by rw [← inside.2, zero, h.up_zero])
  have notParent : h.depth t - h.depth s ≠ 1 := fun one => parent (by rw [← inside.2, one, h.up_succ, h.up_zero])
  have levels := inside.1
  have tProper : t ≠ h.top := h.depth_ne _ _ (by rw [h.top_depth]; omega)
  have step := h.parent_depth t tNode tProper
  have root : h.parent t ≠ h.top := h.depth_ne _ _ (by rw [h.top_depth]; omega)
  have source : h.up (1 + 1 + (h.depth t - h.depth s - 2)) t = s := by
    have count : 1 + 1 + (h.depth t - h.depth s - 2) = h.depth t - h.depth s := by omega
    rw [count, inside.2]
  obtain ⟨next, nextHolds, climb⟩ := climb_found T h c (h.depth t - h.depth s - 2) fuel 1 t path tNode holds
    (by omega) (by omega) (by omega)
  rw [source] at climb
  refine ⟨(next, ((1 + (h.depth t - h.depth s - 2) : Nat) : Int)), s,
    ⟨nextHolds 0 (Nat.zero_le _), fun i less => ?_, ?_⟩, ?_⟩
  · rw [scope_inside h s t inside same] at less
    exact nextHolds i (by omega)
  · rw [scope_inside h s t inside same]
    dsimp only
    omega
  · rw [call_empty T h c _ _ (h.parent_member t tNode tProper) root, pure_bind]
    exact climb

-- Case (E) without the source among the first four states above the target: the
-- sixth state of the chain has no cell.
theorem climb_over (c : Contract T h) (m fuel k : Nat) (s t : Q) (path : Path Q) (node : h.member t)
    (holds : Holds h t path k) (cell : k + m = 4) (deep : 5 ≤ h.depth t) (enough : m < fuel)
    (absent : ∀ j ≤ 4, h.up j t ≠ s) :
    T.climbTarget s fuel path k .super (h.up (k + 1) t) = Prog.fault .outOfBounds := by
  induction m generalizing fuel k path with
  | zero =>
      obtain ⟨fuel, rfl⟩ : ∃ n, fuel = n + 1 := ⟨fuel - 1, by omega⟩
      have last : k = 4 := by omega
      subst last
      simp [climbTarget, write_over]
  | succ m ih =>
      obtain ⟨fuel, rfl⟩ : ∃ n, fuel = n + 1 := ⟨fuel - 1, by omega⟩
      obtain ⟨next, nextHolds, write⟩ := write_cell (W := W) (X := X) h t path k holds (by omega)
      have notSource := absent (k + 1) (by omega)
      have above := h.up_member_depth (k + 1) t node (by omega)
      have proper : h.up (k + 1) t ≠ h.top := h.depth_ne _ _ (by rw [h.top_depth]; omega)
      have rest := ih fuel (k + 1) next nextHolds (by omega) (by omega)
      rw [climbTarget, if_pos rfl]
      simp only [write, pure_bind, if_neg notSource, call_empty T h c _ _ above.1 proper, h.up_parent]
      rw [← rest, Int.natCast_add, Int.natCast_one]

theorem find_entry_over (c : Contract T h) (fuel : Nat) (s t temp : Q) (path : Path Q) (sNode : h.member s)
    (sProper : s ≠ h.top) (tNode : h.member t) (tProper : t ≠ h.top) (enough : 5 ≤ fuel) (cell : path 0 = some t)
    (beyond : ¬ PathFits h s t) : T.findEntryPath fuel s path temp = Prog.fault .outOfBounds := by
  obtain ⟨deep, same, sibling, ancestor, far⟩ : 5 ≤ h.depth t ∧ s ≠ t ∧ h.parent s ≠ h.parent t ∧ h.parent s ≠ t ∧
      ¬ (h.Ancestor s t ∧ h.depth t < h.depth s + 5) := by
    simp only [PathFits, not_or] at beyond
    exact ⟨by omega, beyond.2.1, beyond.2.2.1, beyond.2.2.2.1, beyond.2.2.2.2⟩
  have absent : ∀ j ≤ 4, h.up j t ≠ s := by
    rintro j short rfl
    have level := h.up_depth j t tNode (by omega)
    exact far ⟨h.ancestor_up j t tNode (by omega), by omega⟩
  have parentNode := h.parent_member t tNode tProper
  have step := h.parent_depth t tNode tProper
  have root : h.parent t ≠ h.top := h.depth_ne _ _ (by rw [h.top_depth]; omega)
  obtain ⟨path₁, holds₁, readTarget, write₁, read₁⟩ := path_begun (W := W) (X := X) h t path cell
  have climb := climb_over T h c 3 fuel 1 s t path₁ tNode holds₁ rfl deep (by omega) absent
  have parent : s ≠ h.parent t := fun direct => absent 1 (by omega) direct.symm
  rw [findEntryPath]
  simp only [readTarget, pure_bind, if_neg same, call_empty T h c t _ tNode tProper, if_neg parent,
    call_empty T h c s _ sNode sProper, if_neg sibling, if_neg ancestor, write₁, read₁,
    call_empty T h c _ _ parentNode root]
  have climb' : T.climbTarget s fuel path₁ 1 .super (h.parent (h.parent t)) = Prog.fault .outOfBounds := climb
  rw [climb', Prog.fault_bind]

-- Cases (A) to (D): nothing above the target needs a cell.
theorem find_entry_near (c : Contract T h) (fuel : Nat) (s t temp : Q) (path : Path Q) (sNode : h.member s)
    (sProper : s ≠ h.top) (tNode : h.member t) (tProper : t ≠ h.top) (cell : path 0 = some t)
    (near : s = t ∨ s = h.parent t ∨ h.parent s = h.parent t ∨ h.parent s = t) :
    ∃ found, Entry h s t found ∧ T.findEntryPath fuel s path temp =
      T.visit .evExit (h.below s (scope h s t)) >>= fun _ => pure found := by
  have sStep := h.parent_depth s sNode sProper
  have tStep := h.parent_depth t tNode tProper
  obtain ⟨_, _, readTarget, _, _⟩ := path_begun (W := W) (X := X) h t path cell
  rw [findEntryPath]
  simp only [readTarget, pure_bind]
  by_cases same : s = t
  · -- (A)
    subst same
    refine ⟨(path, 0), entry_child h s s path sNode sProper cell (scope_self h s), ?_⟩
    rw [if_pos rfl, call_dropped T h c s _ temp sProper, scope_self, h.below_parent s sNode sProper]
    simp only [visit, bind_assoc, pure_bind]
  rw [if_neg same, call_empty T h c t temp tNode tProper]
  simp only [pure_bind]
  by_cases parent : s = h.parent t
  · -- (B)
    have inside : h.Ancestor s t := by
      rw [parent]
      exact h.ancestor_up 1 t tNode (by omega)
    have scopeEq := scope_inside h s t inside same
    refine ⟨(path, 0), entry_child h s t path tNode tProper cell (scopeEq.trans parent), ?_⟩
    rw [if_pos parent, scopeEq, h.below_self, visit, pure_bind]
  rw [if_neg parent, call_empty T h c s _ sNode sProper]
  simp only [pure_bind]
  by_cases sibling : h.parent s = h.parent t
  · -- (C)
    have depths : h.depth s = h.depth t := by rw [sStep, tStep, sibling]
    have apart : ¬ h.Ancestor s t := by
      intro ancestor
      have level := ancestor.2
      rw [depths, Nat.sub_self] at level
      exact same level.symm
    have shared : h.Ancestor (h.parent s) t := by
      rw [sibling]
      exact h.ancestor_up 1 t tNode (by omega)
    have scopeEq := scope_sibling h s t sNode tNode apart shared
    refine ⟨(path, 0), entry_child h s t path tNode tProper cell (scopeEq.trans sibling), ?_⟩
    rw [if_pos sibling, call_dropped T h c s _ _ sProper, scopeEq, h.below_parent s sNode sProper]
    simp only [visit, bind_assoc, pure_bind]
  -- (D)
  have ancestor : h.parent s = t := ((near.resolve_left same).resolve_left parent).resolve_left sibling
  have apart : ¬ h.Ancestor s t := by
    intro inside
    have := inside.1
    rw [← ancestor] at this
    omega
  have scopeEq := scope_sibling h s t sNode tNode apart (ancestor ▸ h.ancestor_refl _)
  refine ⟨(path, -1), ⟨cell, fun i less => ?_, ?_⟩, ?_⟩
  · rw [scopeEq, ancestor] at less
    omega
  · rw [scopeEq, ancestor, Nat.sub_self]
    rfl
  · rw [if_neg sibling, if_pos ancestor, call_dropped T h c s _ _ sProper, scopeEq, h.below_parent s sNode sProper]
    simp only [visit, bind_assoc, pure_bind]

-- Cases (E), (F) and (G).
theorem find_entry_far (c : Contract T h) (fuel : Nat) (s t temp : Q) (path : Path Q) (sNode : h.member s)
    (sProper : s ≠ h.top) (tNode : h.member t) (tProper : t ≠ h.top)
    (fits : h.depth t < 5 ∨ h.Ancestor s t ∧ h.depth t < h.depth s + 5) (sEnough : h.depth s < fuel) (tEnough : h.depth t < fuel)
    (cell : path 0 = some t) (same : s ≠ t) (parent : s ≠ h.parent t) (sibling : h.parent s ≠ h.parent t)
    (ancestor : h.parent s ≠ t) : ∃ found, Entry h s t found ∧ T.findEntryPath fuel s path temp =
      T.visit .evExit (h.below s (scope h s t)) >>= fun _ => pure found := by
  obtain ⟨path₁, holds₁, readTarget, write₁, read₁⟩ := path_begun (W := W) (X := X) h t path cell
  rw [findEntryPath]
  simp only [readTarget, pure_bind, if_neg same, call_empty T h c t temp tNode tProper, if_neg parent,
    call_empty T h c s _ sNode sProper, if_neg sibling, if_neg ancestor, write₁, read₁]
  by_cases inside : h.Ancestor s t
  · -- (E)
    have near : h.depth t < h.depth s + 5 := fits.elim (fun low => by omega) And.right
    obtain ⟨found, last, entry, climb⟩ := climb_inside T h c fuel s t (h.parent s) path₁ tNode near tEnough holds₁ inside
      same parent
    refine ⟨found, entry, ?_⟩
    rw [← bind_assoc, climb, scope_inside h s t inside same, h.below_self]
    simp only [pure_bind, visit, if_true]
  · -- (F) and (G)
    have low : h.depth t < 5 := fits.resolve_right (fun near => inside near.1)
    obtain ⟨next, last, nextHolds, climb⟩ := climb_apart T h c fuel s t (h.parent s) path₁ tNode tProper low tEnough
      holds₁ inside
    obtain ⟨found, entry, rest⟩ := find_entry_apart T h c fuel s t last next sNode sProper tNode low sEnough
      nextHolds inside
    have short : (h.depth t : Int) < hsmMaxNestDepth := by
      unfold hsmMaxNestDepth
      omega
    refine ⟨found, entry, ?_⟩
    rw [← bind_assoc, climb]
    simp only [pure_bind, Bool.false_eq_true, if_false, require_true _ short, Int.toNat_natCast]
    exact rest

theorem find_entry_path (c : Contract T h) (fuel : Nat) (s t temp : Q) (path : Path Q) (sNode : h.member s)
    (sProper : s ≠ h.top) (tNode : h.member t) (tProper : t ≠ h.top) (fits : PathFits h s t)
    (sEnough : h.depth s < fuel) (tEnough : h.depth t < fuel) (cell : path 0 = some t) :
    ∃ found, Entry h s t found ∧ T.findEntryPath fuel s path temp =
      T.visit .evExit (h.below s (scope h s t)) >>= fun _ => pure found := by
  by_cases near : s = t ∨ s = h.parent t ∨ h.parent s = h.parent t ∨ h.parent s = t
  · exact find_entry_near T h c fuel s t temp path sNode sProper tNode tProper cell near
  · obtain ⟨same, parent, sibling, ancestor⟩ : s ≠ t ∧ s ≠ h.parent t ∧ h.parent s ≠ h.parent t ∧ h.parent s ≠ t := by
      simpa only [not_or] using near
    apply find_entry_far T h c fuel s t temp path sNode sProper tNode tProper _ sEnough tEnough cell same parent sibling ancestor
    simpa only [PathFits, same, sibling, ancestor, false_or] using fits

theorem enter_path (c : Contract T h) (n : Nat) (t temp : Q) (path : Path Q) (node : h.member t)
    (bound : n ≤ h.depth t) (low : n ≤ 5) (cells : ∀ i < n, path i = some (h.up i t)) {A : Type} (next : Q → Prog W X A)
    (constant : ∀ a b, next a = next b) :
    (T.enterPath path n temp >>= next) =
      T.visit .evEntry (List.iterate h.parent t n).reverse >>= fun _ => next temp := by
  induction n generalizing temp with
  | zero => rfl
  | succ n ih =>
      have holds : Holds h t path n := fun i within => cells i (by omega)
      have level := h.up_depth n t node (by omega)
      have proper : h.up n t ≠ h.top := h.depth_ne _ _ (by rw [h.top_depth]; omega)
      rw [enterPath, read_cell h t path n n holds (Nat.le_refl _) (by omega), pure_bind, h.iterate_reverse]
      rw [call_user T h c _ _ temp proper]
      simp only [bind_assoc, pure_bind, visit]
      apply bind_congr
      intro reply
      rw [ih _ (by omega) (by omega) (fun i less => cells i (by omega)), constant (reply.temp temp) temp]

theorem climb_to_target (c : Contract T h) (m fuel k : Nat) (d q : Q) (path : Path Q) (node : h.member d)
    (ancestor : h.Ancestor q d) (holds : Holds h d path k) (count : k + 1 + m = h.depth d - h.depth q)
    (low : k + m < 5) (enough : m < fuel) : ∃ next, Holds h d next (k + m) ∧
      T.climbToTarget q fuel path k (h.up (k + 1) d) = pure (next, ((k + m : Nat) : Int)) := by
  induction m generalizing fuel k path with
  | zero =>
      cases fuel with
      | zero => omega
      | succ fuel =>
          have reached : h.up (k + 1) d = q := by
            have level : k + 1 = h.depth d - h.depth q := by omega
            rw [level, ancestor.2]
          exact ⟨path, holds, by rw [climbToTarget, if_pos reached]; rfl⟩
  | succ m ih =>
      cases fuel with
      | zero => omega
      | succ fuel =>
          obtain ⟨next, nextHolds, write⟩ := write_cell (W := W) (X := X) h d path k holds (by omega)
          have above := h.up_member_depth (k + 1) d node (by omega)
          have notYet : h.up (k + 1) d ≠ q := h.depth_ne _ _ (by omega)
          have proper : h.up (k + 1) d ≠ h.top := h.depth_ne _ _ (by rw [h.top_depth]; omega)
          obtain ⟨last, lastHolds, rest⟩ := ih fuel (k + 1) next nextHolds (by omega) (by omega) (by omega)
          refine ⟨last, fun i within => lastHolds i (by omega), ?_⟩
          rw [climbToTarget, if_neg notYet]
          simp only [write, pure_bind, call_empty T h c _ _ above.1 proper, h.up_parent]
          have cell : k + (m + 1) = k + 1 + m := by omega
          rw [cell, ← rest, Int.natCast_add, Int.natCast_one]

theorem climb_to_target_over (c : Contract T h) (m fuel k : Nat) (d q : Q) (path : Path Q) (node : h.member d)
    (far : h.depth q + 5 < h.depth d) (holds : Holds h d path k) (cell : k + m = 4) (enough : m < fuel) :
    T.climbToTarget q fuel path k (h.up (k + 1) d) = Prog.fault .outOfBounds := by
  have notYet : h.up (k + 1) d ≠ q := by
    have level := h.up_depth (k + 1) d node (by omega)
    exact h.depth_ne _ _ (by omega)
  induction m generalizing fuel k path with
  | zero =>
      obtain ⟨fuel, rfl⟩ : ∃ n, fuel = n + 1 := ⟨fuel - 1, by omega⟩
      have last : k = 4 := by omega
      subst last
      simp [climbToTarget, notYet, write_over]
  | succ m ih =>
      obtain ⟨fuel, rfl⟩ : ∃ n, fuel = n + 1 := ⟨fuel - 1, by omega⟩
      obtain ⟨next, nextHolds, write⟩ := write_cell (W := W) (X := X) h d path k holds (by omega)
      have above := h.up_member_depth (k + 1) d node (by omega)
      have further := h.up_depth (k + 1 + 1) d node (by omega)
      have proper : h.up (k + 1) d ≠ h.top := h.depth_ne _ _ (by rw [h.top_depth]; omega)
      have rest := ih fuel (k + 1) next nextHolds (by omega) (by omega) (h.depth_ne _ _ (by omega))
      rw [climbToTarget, if_neg notYet]
      simp only [write, pure_bind, call_empty T h c _ _ above.1 proper, h.up_parent]
      rw [← rest, Int.natCast_add, Int.natCast_one]

theorem drill_init (c : Contract T h) (n bound fuel : Nat) (q temp : Q) (path : Path Q) (node : h.member q)
    (proper : q ≠ h.top) (level : h.levels - h.depth q ≤ n) (enough : n < fuel) (boundEnough : h.levels < bound) :
    T.drillInit bound fuel path q temp = T.boundedDrill h n q := by
  induction n generalizing fuel q temp path with
  | zero =>
      obtain ⟨fuel, rfl⟩ : ∃ k, fuel = k + 1 := ⟨fuel - 1, by omega⟩
      rw [drillInit, call_user T h c q _ temp proper, boundedDrill]
      simp only [bind_assoc, pure_bind]
      apply Prog.ext
      intro world
      apply Prog.bind_congr_ok
      intro reply after run
      cases reply with
      | transition d =>
          obtain ⟨dNode, _, deeper, _⟩ := deeper_substate T h c q d node proper world after run
          have deepest := h.depth_levels d dNode
          omega
      | handled => rfl
      | ignored => rfl
      | unhandled => rfl
      | tranSuper p => rfl
  | succ n ih =>
      obtain ⟨fuel, rfl⟩ : ∃ k, fuel = k + 1 := ⟨fuel - 1, by omega⟩
      rw [drillInit, call_user T h c q _ temp proper, boundedDrill]
      simp only [bind_assoc, pure_bind]
      apply Prog.ext
      intro world
      apply Prog.bind_congr_ok
      intro reply after run
      cases reply with
      | transition d =>
          obtain ⟨dNode, ancestor, deeper, dProper⟩ := deeper_substate T h c q d node proper world after run
          have deepest := h.depth_levels d dNode
          obtain ⟨first, firstHolds, write⟩ := write_first (W := W) (X := X) h d path
          simp only [Reply.code, Reply.temp, write, pure_bind, call_empty T h c d _ dNode dProper, ↓reduceIte]
          by_cases near : h.depth d ≤ h.depth q + 5
          · obtain ⟨next, nextHolds, climb⟩ := climb_to_target T h c (h.depth d - h.depth q - 1) bound 0 d q first dNode
              ancestor firstHolds (by omega) (by omega) (by omega)
            have climb' : T.climbToTarget q bound first 0 (h.parent d) = _ := climb
            have readTarget : (next.read 0 : Prog W X Q) = pure d :=
              read_cell h d next _ 0 nextHolds (Nat.zero_le _) (by omega)
            have fits : ((0 + (h.depth d - h.depth q - 1) : Nat) : Int) < hsmMaxNestDepth := by
              unfold hsmMaxNestDepth
              omega
            have count : (((0 + (h.depth d - h.depth q - 1) : Nat) : Int) + 1).toNat = h.depth d - h.depth q := by omega
            have rest : ∀ last, T.drillInit bound fuel next d last = T.boundedDrill h n d := fun last =>
              ih fuel d last next dNode dProper (by omega) (by omega)
            simp only [climb', readTarget, pure_bind, require_true _ fits, count, if_pos near]
            rw [enter_path T h c _ d d next dNode (Nat.sub_le _ _) (by omega) (fun i less => nextHolds i (by omega)) _
              (fun a b => by rw [rest a, rest b]), rest]
            rfl
          · have climb := climb_to_target_over T h c 4 bound 0 d q first dNode (by omega) firstHolds rfl (by omega)
            have climb' : T.climbToTarget q bound first 0 (h.parent d) = Prog.fault .outOfBounds := climb
            rw [climb', if_neg near, Prog.fault_bind]
      | handled => rfl
      | ignored => rfl
      | unhandled => rfl
      | tranSuper p => rfl

theorem offer_up (c : Contract T h) (e : E) (n fuel : Nat) (q : Q) (node : h.member q) (level : h.depth q = n)
    (enough : n < fuel) : T.offer (.signal e) fuel q =
      T.offerUp h (.signal e) n q >>= fun offered => pure (offered.1, offered.2.code, offered.2.temp offered.1) := by
  induction n generalizing fuel q with
  | zero =>
      obtain ⟨fuel, rfl⟩ : ∃ k, fuel = k + 1 := ⟨fuel - 1, by omega⟩
      rw [h.depth_zero q node level, offer, call_top T h c]
      rfl
  | succ n ih =>
      obtain ⟨fuel, rfl⟩ : ∃ k, fuel = k + 1 := ⟨fuel - 1, by omega⟩
      have proper : q ≠ h.top := h.depth_ne _ _ (by rw [h.top_depth]; omega)
      have step := h.parent_depth q node proper
      have up := ih fuel (h.parent q) (h.parent_member q node proper) (by omega) (by omega)
      rw [offer, call_user T h c q _ q proper, offerUp]
      simp only [bind_assoc, pure_bind]
      apply Prog.ext
      intro world
      apply Prog.bind_congr_ok
      intro reply after run
      cases reply with
      | handled => rfl
      | ignored => rfl
      | unhandled =>
          simp only [Reply.code_unhandled, ↓reduceIte, call_empty T h c q _ node proper, pure_bind]
          rw [up]
      | transition t => rfl
      | tranSuper p =>
          have parent : p = h.parent q := (c.onSignal q node proper e world after _ run).2 p rfl
          simp only [Reply.code_tranSuper, Reply.temp_tranSuper, reduceCtorEq, ↓reduceIte, parent]
          rw [up]

theorem scope_depth (s t : Q) (sNode : h.member s) (tNode : h.member t) (proper : s ≠ h.top) :
    h.depth (scope h s t) ≤ h.depth s := by
  have step := h.parent_depth s sNode proper
  by_cases inside : h.Ancestor s t
  · by_cases same : s = t
    · rw [← same, scope_self]
      omega
    · rw [scope_inside h s t inside same]
  · rw [scope_apart h s t sNode tNode inside]
    exact (h.lca_ancestor_left s t sNode tNode).1

theorem path_fits_short (s t : Q) (sNode : h.member s) (tNode : h.member t) (sProper : s ≠ h.top) (tProper : t ≠ h.top)
    (fits : PathFits h s t) : h.depth t - h.depth (scope h s t) ≤ 5 := by
  have sStep := h.parent_depth s sNode sProper
  have tStep := h.parent_depth t tNode tProper
  obtain low | rfl | sibling | child | near := fits
  · omega
  · rw [scope_self]
    omega
  · by_cases inside : h.Ancestor s t
    · have same : s = t := by
        have level := inside.2
        rwa [sStep, tStep, sibling, Nat.sub_self, h.up_zero, eq_comm] at level
      rw [same, scope_self]
      omega
    · have shared : h.Ancestor (h.parent s) t := sibling ▸ h.ancestor_up 1 t tNode (by omega)
      rw [scope_sibling h s t sNode tNode inside shared, sibling]
      omega
  · have apart : ¬ h.Ancestor s t := by
      intro inside
      have := inside.1
      rw [← child] at this
      omega
    rw [scope_sibling h s t sNode tNode apart (child ▸ h.ancestor_refl _), child, Nat.sub_self]
    omega
  · by_cases same : s = t
    · rw [same, scope_self]
      omega
    · rw [scope_inside h s t near.1 same]
      omega

-- The hand-unrolled transition code is the reference semantics with the limits
-- of path, as a program: the same calls in the same order, whatever the handlers
-- do to the world, up to a write outside the array.
theorem handle_event_bounded (c : Contract T h) (fuel : Nat) (enough : h.levels + 2 ≤ fuel) (some : 6 ≤ fuel) (S : Q)
    (node : h.member S) (e : E) :
    T.handleEvent fuel (.signal e) { state := S, temp := S } =
      T.boundedDispatch h (.signal e) S >>= fun next => pure { state := next, temp := next } := by
  have level := h.depth_levels S node
  rw [handleEvent, boundedDispatch, offer_up T h c e (h.depth S) fuel S node rfl (by omega)]
  simp only [bind_assoc, pure_bind]
  apply Prog.ext
  intro world
  apply Prog.bind_congr_ok
  intro offered after run
  obtain ⟨s, reply⟩ := offered
  cases reply with
  | handled => rfl
  | ignored => rfl
  | unhandled => rfl
  | tranSuper p => rfl
  | transition t =>
      obtain ⟨above, sProper, tNode, tProper⟩ := offered_transition T h c e _ S s t world after node rfl run
      obtain ⟨n, nBound, source⟩ := (h.ancestor_iff_up s S node).mp above
      have sNode : h.member s := source ▸ h.up_member n S node nBound
      have sLevel := h.depth_levels s sNode
      have tLevel := h.depth_levels t tNode
      obtain ⟨first, firstHolds, write⟩ := write_first (W := W) (X := X) h t Path.blank
      obtain ⟨path, pathCell, write₁⟩ : ∃ path : Path Q, path 0 = .some t ∧
          (first.write 1 S : Prog W X (Path Q)) = pure path := by
        refine ⟨Function.update first 1 (.some S), ?_, ?_⟩
        · rw [Function.update_of_ne (by decide), firstHolds 0 (Nat.le_refl _), h.up_zero]
        · rw [Path.write, if_pos ⟨by decide, by decide⟩]
          rfl
      obtain ⟨last, exits⟩ := exit_to_source T h c n fuel S t node nBound (by omega)
      rw [source] at exits
      by_cases fits : PathFits h s t
      · have short := path_fits_short h s t sNode tNode sProper tProper fits
        obtain ⟨found, entry, transitionPath⟩ := find_entry_path T h c fuel s t last path sNode sProper tNode tProper
          fits (by omega) (by omega) pathCell
        have count : (found.2 + 1).toNat = h.depth t - h.depth (scope h s t) := by
          have index := entry.index
          omega
        have readTarget : (found.1.read 0 : Prog W X Q) = pure t := by
          have holds : Holds h t found.1 0 := by
            intro i zero
            rw [Nat.le_zero.mp zero, entry.target, h.up_zero]
          exact read_cell h t found.1 0 0 holds (Nat.le_refl _) (by decide)
        simp only [Reply.code_transition, Reply.temp_transition, ↓reduceIte, write, write₁, pure_bind, exits, bind_assoc,
          transitionPath, count, readTarget, if_pos fits]
        have enters := enter_path T h c _ t last found.1 tNode (Nat.sub_le _ _) short entry.cells
          (fun _ => T.drillInit fuel fuel found.1 t t >>= fun next => pure (Registers.mk next next)) (fun _ _ => rfl)
        rw [enters, drill_init T h c _ fuel fuel t t found.1 tNode tProper (Nat.le_refl _) (by omega) (by omega)]
        rfl
      · have beyond := find_entry_over T h c fuel s t last path sNode sProper tNode tProper (by omega) pathCell fits
        simp only [Reply.code_transition, Reply.temp_transition, ↓reduceIte, write, write₁, pure_bind, exits, bind_assoc,
          beyond, if_neg fits, Prog.fault_bind]

section Fitting

theorem bounded_dispatch_fits (c : Contract T h) (e : E) (S : Q) (node : h.member S) (world : W)
    (fits : DispatchFits T h (.signal e) S world) :
    T.boundedDispatch h (.signal e) S world = T.dispatch h (.signal e) S world := by
  rw [boundedDispatch, dispatch]
  apply Prog.bind_congr_ok
  intro offered after run
  obtain ⟨s, reply⟩ := offered
  cases reply with
  | transition t =>
      obtain ⟨above, sProper, tNode, tProper⟩ := offered_transition T h c e _ S s t world after node rfl run
      obtain ⟨n, nBound, source⟩ := (h.ancestor_iff_up s S node).mp above
      have sNode : h.member s := source ▸ h.up_member n S node nBound
      have within := scope_depth h s t sNode tNode sProper
      dsimp only
      rw [← h.below_append S s (scope h s t) above within, visit_append, bind_assoc]
      apply Prog.bind_congr_ok
      intro _ left exits
      obtain ⟨inPath, rest⟩ := fits s t after run left exits
      rw [if_pos inPath]
      apply Prog.bind_congr_ok
      intro _ exited exits
      apply Prog.bind_congr_ok
      intro _ entered enters
      exact bounded_drill_fits T h _ t entered (rest exited exits entered enters)
  | handled => rfl
  | ignored => rfl
  | unhandled => rfl
  | tranSuper p => rfl

theorem low_dispatch_fits (c : Contract T h) (levels : h.levels ≤ 4) (e : E) (S : Q) (node : h.member S) (world : W) :
    DispatchFits T h (.signal e) S world := by
  intro s t after run left _
  obtain ⟨_, _, tNode, tProper⟩ := offered_transition T h c e _ S s t world after node rfl run
  have deepest := h.depth_levels t tNode
  exact ⟨.inl (by omega), fun _ _ entered _ => low_drill_fits T h c levels _ t tNode tProper entered⟩

theorem handle_event_dispatch (c : Contract T h) (levels : h.levels ≤ 4) (fuel : Nat) (enough : 6 ≤ fuel) (S : Q)
    (node : h.member S) (e : E) :
    T.handleEvent fuel (.signal e) { state := S, temp := S } =
      T.dispatch h (.signal e) S >>= fun next => pure { state := next, temp := next } := by
  have same : T.boundedDispatch h (.signal e) S = T.dispatch h (.signal e) S := by
    apply Prog.ext
    intro world
    exact bounded_dispatch_fits T h c e S node world (low_dispatch_fits T h c levels e S node world)
  rw [handle_event_bounded T h c fuel (by omega) enough S node e, same]

end Fitting

end Calls

section Termination

variable (T : HsmClass Q W E X) (h : Hierarchy Q)

def Answers : Prop := ∀ q, h.member q → q ≠ h.top → ∀ ev world, ∃ reply after, T.handler q ev world = .ok reply after

theorem below_user (q a r : Q) (node : h.member q) (member : r ∈ h.below q a) : h.member r ∧ r ≠ h.top := by
  obtain ⟨m, less, rfl⟩ := List.mem_iterate.mp member
  have level := h.up_member_depth m q node (by omega)
  refine ⟨level.1, h.depth_ne _ _ ?_⟩
  have depth : h.depth (h.parent^[m] q) = h.depth q - m := level.2
  rw [depth, h.top_depth]
  omega

theorem visit_returns (answers : Answers T h) (ev : Event E) (qs : List Q)
    (users : ∀ q ∈ qs, h.member q ∧ q ≠ h.top) (world : W) : ∃ after, T.visit ev qs world = .ok () after := by
  induction qs generalizing world with
  | nil => exact ⟨world, rfl⟩
  | cons q rest ih =>
      have user := users q (by simp)
      obtain ⟨reply, after, answer⟩ := answers q user.1 user.2 ev world
      obtain ⟨last, visited⟩ := ih (fun r member => users r (by simp [member])) after
      exact ⟨last, by rw [visit, Prog.bind_ok _ _ _ _ _ answer, visited]⟩

theorem drill_returns (c : Contract T h) (answers : Answers T h) (n : Nat) (q : Q) (node : h.member q)
    (proper : q ≠ h.top) (world : W) :
    ∃ last after, T.drill h n q world = .ok last after ∧ h.member last ∧ last ≠ h.top := by
  induction n generalizing q world with
  | zero =>
      obtain ⟨reply, after, answer⟩ := answers q node proper .evInit world
      exact ⟨q, after, by rw [drill, Prog.bind_ok _ _ _ _ _ answer]; rfl, node, proper⟩
  | succ n ih =>
      obtain ⟨reply, after, answer⟩ := answers q node proper .evInit world
      rw [drill, Prog.bind_ok _ _ _ _ _ answer]
      cases reply with
      | handled => exact ⟨q, after, rfl, node, proper⟩
      | ignored => exact ⟨q, after, rfl, node, proper⟩
      | unhandled => exact ⟨q, after, rfl, node, proper⟩
      | tranSuper p => exact ⟨q, after, rfl, node, proper⟩
      | transition d =>
          obtain ⟨dNode, ancestor, different⟩ := c.onInit q node proper world after d answer
          have dProper : d ≠ h.top := by
            intro same
            have level := ancestor.1
            have positive := h.depth_pos q node proper
            rw [same, h.top_depth] at level
            omega
          obtain ⟨entered, visited⟩ := visit_returns T h answers .evEntry (h.below d q).reverse
            (fun r member => below_user h d q r dNode (by simpa using member)) after
          obtain ⟨last, final, drilled, found⟩ := ih d dNode dProper entered
          exact ⟨last, final, by dsimp only; rw [Prog.bind_ok _ _ _ _ _ visited, drilled], found⟩

theorem offer_returns (answers : Answers T h) (ev : Event E) (n : Nat) (q : Q) (node : h.member q)
    (level : h.depth q = n) (world : W) : ∃ offered after, T.offerUp h ev n q world = .ok offered after := by
  induction n generalizing q world with
  | zero => exact ⟨(q, .ignored), world, rfl⟩
  | succ n ih =>
      have proper : q ≠ h.top := h.depth_ne _ _ (by rw [h.top_depth]; omega)
      have step := h.parent_depth q node proper
      obtain ⟨reply, after, answer⟩ := answers q node proper ev world
      have up := ih (h.parent q) (h.parent_member q node proper) (by omega) after
      rw [offerUp, Prog.bind_ok _ _ _ _ _ answer]
      cases reply with
      | handled => exact ⟨(q, .handled), after, rfl⟩
      | ignored => exact ⟨(q, .ignored), after, rfl⟩
      | unhandled => exact up
      | transition t => exact ⟨(q, .transition t), after, rfl⟩
      | tranSuper p => exact up

theorem dispatch_returns [DecidableEq Q] (c : Contract T h) (answers : Answers T h) (e : E) (S : Q)
    (node : h.member S) (proper : S ≠ h.top) (world : W) :
    ∃ next after, T.dispatch h (.signal e) S world = .ok next after ∧ h.member next ∧ next ≠ h.top := by
  obtain ⟨offered, reached, run⟩ := offer_returns T h answers (.signal e) (h.depth S) S node rfl world
  rw [dispatch, Prog.bind_ok _ _ _ _ _ run]
  obtain ⟨s, reply⟩ := offered
  cases reply with
  | handled => exact ⟨S, reached, rfl, node, proper⟩
  | ignored => exact ⟨S, reached, rfl, node, proper⟩
  | unhandled => exact ⟨S, reached, rfl, node, proper⟩
  | tranSuper p => exact ⟨S, reached, rfl, node, proper⟩
  | transition t =>
      obtain ⟨_, _, tNode, tProper⟩ := offered_transition T h c e _ S s t world reached node rfl run
      obtain ⟨left, exits⟩ := visit_returns T h answers .evExit (h.below S (scope h s t))
        (fun q member => below_user h S _ q node member) reached
      obtain ⟨entered, entries⟩ := visit_returns T h answers .evEntry (h.below t (scope h s t)).reverse
        (fun q member => below_user h t _ q tNode (by simpa using member)) left
      obtain ⟨next, after, drilled, found⟩ := drill_returns T h c answers (h.levels - h.depth t) t tNode tProper entered
      refine ⟨next, after, ?_, found⟩
      dsimp only
      rw [Prog.bind_ok _ _ _ _ _ exits, Prog.bind_ok _ _ _ _ _ entries, drilled]

end Termination

-- In a tree of at most four user levels an event in a stable state S is handled
-- without a fault, and what it does, to the states and to the world, is dispatch.
theorem handle_event_refines [DecidableEq Q] (T : HsmClass Q W E X) (h : Hierarchy Q) (c : Contract T h)
    (answers : Answers T h) (levels : h.levels ≤ 4) (fuel : Nat) (enough : 6 ≤ fuel) (S : Q) (node : h.member S)
    (proper : S ≠ h.top) (e : E) (world : W) :
    ∃ next after, h.member next ∧ next ≠ h.top ∧ T.dispatch h (.signal e) S world = .ok next after ∧
      T.handleEvent fuel (.signal e) { state := S, temp := S } world =
        .ok { state := next, temp := next } after := by
  obtain ⟨next, after, dispatched, nextNode, nextProper⟩ := dispatch_returns T h c answers e S node proper world
  refine ⟨next, after, nextNode, nextProper, dispatched, ?_⟩
  rw [handle_event_dispatch T h c levels fuel enough S node e, Prog.bind_ok _ _ _ _ _ dispatched]
  rfl

inductive Region where
  | top
  | left
  | middle
  | leaf
  | right
  | port
  | pseudo
deriving DecidableEq, Repr

-- Two branches: left above middle above leaf, and right above port. left and right
-- have initial transitions to leaf and port, middle and right go to the other branch,
-- and leaf and port leave the event to the state above them.
def crossing : HsmClass Region (List (Region × Bool)) Unit Empty where
  hsmTop := .top
  handler := fun q ev =>
    match ev with
    | .evEntry => Prog.modify (fun world => world ++ [(q, true)]) >>= fun _ => pure .handled
    | .evExit => Prog.modify (fun world => world ++ [(q, false)]) >>= fun _ => pure .handled
    | .evEmpty =>
        match q with
        | .middle => pure (.tranSuper .left)
        | .leaf => pure (.tranSuper .middle)
        | .port => pure (.tranSuper .right)
        | .pseudo => pure (.transition .left)
        | _ => pure (.tranSuper .top)
    | .evInit =>
        match q with
        | .left => pure (.transition .leaf)
        | .right => pure (.transition .port)
        | _ => pure .handled
    | .signal _ =>
        match q with
        | .middle => pure (.transition .right)
        | .right => pure (.transition .left)
        | _ => pure .unhandled

def crossingTree : Hierarchy Region where
  top := .top
  parent := fun q =>
    match q with
    | .middle => .left
    | .leaf => .middle
    | .port => .right
    | _ => .top
  depth := fun q =>
    match q with
    | .top => 0
    | .left | .right | .pseudo => 1
    | .middle | .port => 2
    | .leaf => 3
  levels := 3
  member := fun q => q ≠ .pseudo
  top_member := by decide
  top_depth := rfl
  parent_member := by intro q; cases q <;> simp
  parent_depth := by intro q; cases q <;> simp
  depth_levels := by intro q; cases q <;> simp

instance (q : Region) : Decidable (crossingTree.member q) := inferInstanceAs (Decidable (q ≠ .pseudo))

theorem crossing_contract : Contract crossing crossingTree where
  top := rfl
  onEmpty := by
    intro q node proper
    cases q with
    | top => exact absurd rfl proper
    | pseudo => exact absurd rfl node
    | _ => rfl
  onExit := by
    intro q _ _ world after reply answer
    cases answer
    exact .inl rfl
  onInit := by
    intro q _ _ world after d answer
    cases q <;> cases answer <;> exact ⟨by decide, by decide, by decide⟩
  onSignal := by
    intro q _ _ ev world after reply answer
    cases q <;> cases answer <;> simp [crossingTree]

theorem crossing_answers : Answers crossing crossingTree := by
  intro q _ _ ev world
  cases ev <;> cases q <;> exact ⟨_, _, rfl⟩

theorem handle_event_refines_crossing :
    crossingTree.member .port ∧ crossing.dispatch crossingTree (.signal ()) .leaf [] = .ok .port
        [(.leaf, false), (.middle, false), (.left, false), (.right, true), (.port, true)] ∧
      crossing.handleEvent 6 (.signal ()) { state := .leaf, temp := .leaf } [] = .ok { state := .port, temp := .port }
        [(.leaf, false), (.middle, false), (.left, false), (.right, true), (.port, true)] := by
  obtain ⟨next, after, node, _, dispatched, handled⟩ := handle_event_refines crossing crossingTree crossing_contract
    crossing_answers (by decide) 6 (by decide) .leaf (by decide) (by decide) () []
  have meant : crossing.dispatch crossingTree (.signal ()) .leaf [] = .ok .port
      [(.leaf, false), (.middle, false), (.left, false), (.right, true), (.port, true)] := rfl
  rw [meant] at dispatched
  cases dispatched
  exact ⟨node, meant, handled⟩

end HsmClass

end CameraController
