import Mathlib.Logic.Function.Iterate
import Mathlib.Data.List.Iterate

set_option autoImplicit false

namespace Rooted

-- A tree given by its parent function. Only members are constrained, so the
-- carrier may hold values that are no node of the tree.
structure Hierarchy (Q : Type) where
  top : Q
  parent : Q → Q
  depth : Q → Nat
  levels : Nat
  member : Q → Prop
  top_member : member top
  top_depth : depth top = 0
  parent_member : ∀ q, member q → q ≠ top → member (parent q)
  parent_depth : ∀ q, member q → q ≠ top → depth q = depth (parent q) + 1
  depth_levels : ∀ q, member q → depth q ≤ levels

namespace Hierarchy

variable {Q : Type} (h : Hierarchy Q)

def up (n : Nat) (q : Q) : Q := h.parent^[n] q

def Ancestor (a q : Q) : Prop := h.depth a ≤ h.depth q ∧ h.up (h.depth q - h.depth a) q = a

instance [DecidableEq Q] (a q : Q) : Decidable (h.Ancestor a q) := inferInstanceAs (Decidable (_ ∧ _))

def below (q a : Q) : List Q := List.iterate h.parent q (h.depth q - h.depth a)

-- The first of q, parent q, ... that is an ancestor of t, at most n steps up.
def climb [DecidableEq Q] (t : Q) : Nat → Q → Q
  | 0, q => q
  | n + 1, q => if h.Ancestor q t then q else climb t n (h.parent q)

def lca [DecidableEq Q] (s t : Q) : Q := h.climb t (h.depth s) s

@[simp] theorem up_zero (q : Q) : h.up 0 q = q := rfl

theorem up_succ (n : Nat) (q : Q) : h.up (n + 1) q = h.up n (h.parent q) := rfl

theorem up_parent (n : Nat) (q : Q) : h.parent (h.up n q) = h.up (n + 1) q :=
  (Function.iterate_succ_apply' h.parent n q).symm

theorem up_add (m n : Nat) (q : Q) : h.up (m + n) q = h.up m (h.up n q) :=
  Function.iterate_add_apply h.parent m n q

theorem depth_pos (q : Q) (node : h.member q) (proper : q ≠ h.top) : 0 < h.depth q := by
  have step := h.parent_depth q node proper
  omega

theorem depth_zero (q : Q) (node : h.member q) (zero : h.depth q = 0) : q = h.top := by
  by_contra proper
  have positive := h.depth_pos q node proper
  omega

theorem depth_ne (q r : Q) (different : h.depth q ≠ h.depth r) : q ≠ r := fun same => different (same ▸ rfl)

theorem up_member_depth (n : Nat) (q : Q) (node : h.member q) (bound : n ≤ h.depth q) :
    h.member (h.up n q) ∧ h.depth (h.up n q) = h.depth q - n := by
  induction n generalizing q with
  | zero => exact ⟨node, rfl⟩
  | succ n ih =>
      have proper : q ≠ h.top := fun same => by rw [same, h.top_depth] at bound; omega
      have step := h.parent_depth q node proper
      have above := ih (h.parent q) (h.parent_member q node proper) (by omega)
      rw [up_succ]
      exact ⟨above.1, by omega⟩

theorem up_member (n : Nat) (q : Q) (node : h.member q) (bound : n ≤ h.depth q) : h.member (h.up n q) :=
  (h.up_member_depth n q node bound).1

theorem up_depth (n : Nat) (q : Q) (node : h.member q) (bound : n ≤ h.depth q) :
    h.depth (h.up n q) = h.depth q - n :=
  (h.up_member_depth n q node bound).2

theorem up_depth_self (q : Q) (node : h.member q) : h.up (h.depth q) q = h.top :=
  h.depth_zero _ (h.up_member _ q node (Nat.le_refl _)) (by rw [h.up_depth _ q node (Nat.le_refl _)]; omega)

theorem up_injective (m n : Nat) (q : Q) (node : h.member q) (left : m ≤ h.depth q) (right : n ≤ h.depth q)
    (same : h.up m q = h.up n q) : m = n := by
  have depths := congrArg h.depth same
  rw [h.up_depth m q node left, h.up_depth n q node right] at depths
  omega

theorem ancestor_up (n : Nat) (q : Q) (node : h.member q) (bound : n ≤ h.depth q) : h.Ancestor (h.up n q) q := by
  have depth := h.up_depth n q node bound
  refine ⟨by omega, ?_⟩
  rw [depth, Nat.sub_sub_self bound]

theorem ancestor_iff_up (a q : Q) (node : h.member q) : h.Ancestor a q ↔ ∃ n ≤ h.depth q, h.up n q = a := by
  constructor
  · intro ancestor
    exact ⟨h.depth q - h.depth a, Nat.sub_le _ _, ancestor.2⟩
  · rintro ⟨n, bound, rfl⟩
    exact h.ancestor_up n q node bound

theorem ancestor_refl (q : Q) : h.Ancestor q q := ⟨Nat.le_refl _, by simp⟩

theorem ancestor_top (q : Q) (node : h.member q) : h.Ancestor h.top q := by
  refine ⟨by rw [h.top_depth]; exact Nat.zero_le _, ?_⟩
  rw [h.top_depth, Nat.sub_zero, h.up_depth_self q node]

theorem ancestor_antisymm (a q : Q) (above : h.Ancestor a q) (beneath : h.Ancestor q a) : a = q := by
  have level : h.depth q - h.depth a = 0 := by
    have := beneath.1
    omega
  have same := above.2
  rw [level] at same
  exact same.symm

theorem ancestor_trans (a b c : Q) (upper : h.Ancestor a b) (lower : h.Ancestor b c) :
    h.Ancestor a c := by
  refine ⟨Nat.le_trans upper.1 lower.1, ?_⟩
  have split : h.depth c - h.depth a = (h.depth b - h.depth a) + (h.depth c - h.depth b) := by
    have := upper.1
    have := lower.1
    omega
  rw [split, h.up_add, lower.2, upper.2]

theorem climb_ancestor [DecidableEq Q] (n : Nat) (t q : Q) (node : h.member t) (qNode : h.member q)
    (enough : h.depth q ≤ n) : h.Ancestor (h.climb t n q) t := by
  induction n generalizing q with
  | zero =>
      rw [climb, h.depth_zero q qNode (by omega)]
      exact h.ancestor_top t node
  | succ n ih =>
      rw [climb]
      split
      · assumption
      · rename_i notAncestor
        have proper : q ≠ h.top := fun same => notAncestor (same ▸ h.ancestor_top t node)
        have step := h.parent_depth q qNode proper
        exact ih (h.parent q) (h.parent_member q qNode proper) (by omega)

theorem climb_up [DecidableEq Q] (n : Nat) (t q : Q) (node : h.member t) (qNode : h.member q)
    (enough : h.depth q ≤ n) :
    ∃ k ≤ h.depth q, h.climb t n q = h.up k q ∧ ∀ j < k, ¬ h.Ancestor (h.up j q) t := by
  induction n generalizing q with
  | zero => exact ⟨0, Nat.zero_le _, rfl, by omega⟩
  | succ n ih =>
      rw [climb]
      split
      · exact ⟨0, Nat.zero_le _, rfl, by omega⟩
      · rename_i notAncestor
        have proper : q ≠ h.top := fun same => notAncestor (same ▸ h.ancestor_top t node)
        have step := h.parent_depth q qNode proper
        obtain ⟨k, bound, same, passed⟩ := ih (h.parent q) (h.parent_member q qNode proper) (by omega)
        refine ⟨k + 1, by omega, same, ?_⟩
        intro j less
        cases j with
        | zero => exact notAncestor
        | succ j => exact passed j (by omega)

theorem lca_ancestor_left [DecidableEq Q] (s t : Q) (sNode : h.member s) (tNode : h.member t) :
    h.Ancestor (h.lca s t) s := by
  obtain ⟨k, bound, same, _⟩ := h.climb_up (h.depth s) t s tNode sNode (Nat.le_refl _)
  rw [lca, same]
  exact h.ancestor_up k s sNode bound

theorem lca_ancestor_right [DecidableEq Q] (s t : Q) (sNode : h.member s) (tNode : h.member t) :
    h.Ancestor (h.lca s t) t :=
  h.climb_ancestor (h.depth s) t s tNode sNode (Nat.le_refl _)

theorem lca_lowest [DecidableEq Q] (a s t : Q) (sNode : h.member s) (tNode : h.member t)
    (left : h.Ancestor a s) (right : h.Ancestor a t) : h.Ancestor a (h.lca s t) := by
  obtain ⟨k, bound, same, passed⟩ := h.climb_up (h.depth s) t s tNode sNode (Nat.le_refl _)
  obtain ⟨n, nBound, rfl⟩ := (h.ancestor_iff_up a s sNode).mp left
  have order : k ≤ n := by
    by_contra less
    exact passed n (by omega) right
  have split : n = (n - k) + k := by omega
  rw [lca, same, split, h.up_add]
  have depth := h.up_depth k s sNode bound
  exact h.ancestor_up (n - k) _ (h.up_member k s sNode bound) (by omega)

theorem lca_parent [DecidableEq Q] (s t : Q) (sNode : h.member s) (tNode : h.member t)
    (apart : ¬ h.Ancestor s t) : h.lca s t = h.climb t (h.depth s) (h.parent s) := by
  have proper : s ≠ h.top := fun same => apart (same ▸ h.ancestor_top t tNode)
  have step := h.parent_depth s sNode proper
  have enough : ∀ n q, h.member q → h.depth q ≤ n → h.climb t n q = h.climb t (n + 1) q := by
    intro n
    induction n with
    | zero =>
        intro q qNode bound
        have root := h.depth_zero q qNode (by omega)
        have ancestor : h.Ancestor q t := root ▸ h.ancestor_top t tNode
        simp only [climb, if_pos ancestor]
    | succ n ih =>
        intro q qNode bound
        rw [climb]
        conv_rhs => rw [climb]
        split
        · rfl
        · rename_i notAncestor
          have below : q ≠ h.top := fun same => notAncestor (same ▸ h.ancestor_top t tNode)
          have level := h.parent_depth q qNode below
          exact ih (h.parent q) (h.parent_member q qNode below) (by omega)
  rw [lca, step, climb, if_neg apart]
  exact enough _ _ (h.parent_member s sNode proper) (Nat.le_refl _)

theorem climb_here [DecidableEq Q] (n : Nat) (t q : Q) (ancestor : h.Ancestor q t) : h.climb t n q = q := by
  cases n with
  | zero => rfl
  | succ n => rw [climb, if_pos ancestor]

theorem iterate_reverse (n : Nat) (t : Q) : (List.iterate h.parent t (n + 1)).reverse =
    h.up n t :: (List.iterate h.parent t n).reverse := by
  rw [List.iterate_add, List.reverse_append]
  rfl

theorem below_self (q : Q) : h.below q q = [] := by simp [below]

theorem below_cons (q a : Q) (node : h.member q) (deeper : h.depth a < h.depth q) :
    h.below q a = q :: h.below (h.parent q) a := by
  have proper : q ≠ h.top := fun same => by rw [same, h.top_depth] at deeper; omega
  have step := h.parent_depth q node proper
  have count : h.depth q - h.depth a = (h.depth (h.parent q) - h.depth a) + 1 := by omega
  rw [below, below, count, List.iterate]

theorem below_parent (q : Q) (node : h.member q) (proper : q ≠ h.top) : h.below q (h.parent q) = [q] := by
  have step := h.parent_depth q node proper
  rw [h.below_cons q _ node (by omega), h.below_self]

theorem below_append (q b a : Q) (lower : h.Ancestor b q) (upper : h.depth a ≤ h.depth b) :
    h.below q b ++ h.below b a = h.below q a := by
  have split : h.depth q - h.depth a = (h.depth q - h.depth b) + (h.depth b - h.depth a) := by
    have := lower.1
    omega
  rw [below, below, below, split, List.iterate_add]
  exact congrArg _ (congrArg (fun r => List.iterate h.parent r _) lower.2.symm)

end Hierarchy

end Rooted
