import CameraController.Hsm
import CameraController.Lib.Rooted

set_option autoImplicit false

namespace CameraController

open Effects Rooted

namespace HsmClass

variable {Q W E X : Type} [DecidableEq Q]

def scope (h : Hierarchy Q) (s t : Q) : Q :=
  if h.Ancestor s t ∧ s ≠ t then s
  else if h.Ancestor t s ∧ t ≠ s then t
  else if t = s then h.parent s
  else h.lca s t

section Semantics

variable (T : HsmClass Q W E X) (h : Hierarchy Q)

-- Offers ev to q and to the states above it, n of them below Hsm_top, until
-- one answers HANDLED or TRAN.
def offerUp (ev : Event E) : Nat → Q → Prog W X (Q × Reply Q)
  | 0, q => pure (q, .ignored)
  | n + 1, q => do
      match ← T.handler q ev with
      | .unhandled => offerUp ev n (h.parent q)
      | .tranSuper _ => offerUp ev n (h.parent q)
      | reply => pure (q, reply)

def visit (ev : Event E) : List Q → Prog W X Unit
  | [] => pure ()
  | q :: rest => do
      let _ ← T.handler q ev
      visit ev rest

-- A state n levels above the deepest ones follows at most n initial transitions.
def drill : Nat → Q → Prog W X Q
  | 0, q => do
      let _ ← T.handler q .evInit
      pure q
  | n + 1, q => do
      match ← T.handler q .evInit with
      | .transition d => do
          T.visit .evEntry (h.below d q).reverse
          drill n d
      | _ => pure q

def dispatch (ev : Event E) (S : Q) : Prog W X Q := do
  match ← T.offerUp h ev (h.depth S) S with
  | (s, .transition t) => do
      T.visit .evExit (h.below S (scope h s t))
      T.visit .evEntry (h.below t (scope h s t)).reverse
      T.drill h (h.levels - h.depth t) t
  | _ => pure S

-- A transition from s to t stays within path, which has no cell for a sixth
-- level: in the worst case it holds the target with all the states above it.
def PathFits (s t : Q) : Prop :=
  h.depth t < 5 ∨ s = t ∨ h.parent s = h.parent t ∨ h.parent s = t ∨ h.Ancestor s t ∧ h.depth t < h.depth s + 5

instance (s t : Q) : Decidable (PathFits h s t) := inferInstanceAs (Decidable (_ ∨ _))

def boundedDrill : Nat → Q → Prog W X Q
  | 0, q => do
      let _ ← T.handler q .evInit
      pure q
  | n + 1, q => do
      match ← T.handler q .evInit with
      | .transition d =>
          if h.depth d ≤ h.depth q + 5 then do
            T.visit .evEntry (h.below d q).reverse
            boundedDrill n d
          else Prog.fault .outOfBounds
      | _ => pure q

def boundedDispatch (ev : Event E) (S : Q) : Prog W X Q := do
  match ← T.offerUp h ev (h.depth S) S with
  | (s, .transition t) => do
      T.visit .evExit (h.below S s)
      if PathFits h s t then do
        T.visit .evExit (h.below s (scope h s t))
        T.visit .evEntry (h.below t (scope h s t)).reverse
        T.boundedDrill h (h.levels - h.depth t) t
      else Prog.fault .outOfBounds
  | _ => pure S

def DrillFits : Nat → Q → W → Prop
  | 0, _, _ => True
  | n + 1, q, world => ∀ d after, T.handler q .evInit world = .ok (.transition d) after →
      h.depth d ≤ h.depth q + 5 ∧
      ∀ entered, T.visit .evEntry (h.below d q).reverse after = .ok () entered → DrillFits n d entered

def DispatchFits (ev : Event E) (S : Q) (world : W) : Prop :=
  ∀ s t offered, T.offerUp h ev (h.depth S) S world = .ok (s, .transition t) offered →
  ∀ left, T.visit .evExit (h.below S s) offered = .ok () left →
    PathFits h s t ∧
    ∀ exited, T.visit .evExit (h.below s (scope h s t)) left = .ok () exited →
    ∀ entered, T.visit .evEntry (h.below t (scope h s t)).reverse exited = .ok () entered →
      DrillFits T h (h.levels - h.depth t) t entered

end Semantics

-- What the answers of the handlers have to do with the tree. Nothing is asked
-- of EV_ENTRY: handleEvent drops both its return value and what it leaves in temp.
structure Contract (T : HsmClass Q W E X) (h : Hierarchy Q) : Prop where
  top : T.hsmTop = h.top
  onEmpty : ∀ q, h.member q → q ≠ h.top → T.handler q .evEmpty = pure (.tranSuper (h.parent q))
  onExit : ∀ q, h.member q → q ≠ h.top → ∀ world after reply,
    T.handler q .evExit world = .ok reply after → reply = .handled ∨ reply = .tranSuper (h.parent q)
  onInit : ∀ q, h.member q → q ≠ h.top → ∀ world after d,
    T.handler q .evInit world = .ok (.transition d) after →
      h.member d ∧ h.Ancestor q d ∧ q ≠ d
  onSignal : ∀ q, h.member q → q ≠ h.top → ∀ ev world after reply,
    T.handler q (.signal ev) world = .ok reply after →
      (∀ t, reply = .transition t → h.member t ∧ t ≠ h.top) ∧
      (∀ p, reply = .tranSuper p → p = h.parent q)

end HsmClass

end CameraController
