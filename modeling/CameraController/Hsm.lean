import Mathlib.Logic.Function.Basic
import CameraController.Lib.Prog

set_option autoImplicit false

namespace CameraController

open Effects

-- sig >= EV_FIRST_SIGNAL is the constructor signal; the four reserved values
-- are the constants C_EV_ENTRY, C_EV_EXIT, C_EV_EMPTY and C_EV_INIT.
inductive Event (E : Type) where
  | evEntry
  | evExit
  | evEmpty
  | evInit
  | signal (ev : E)
deriving DecidableEq, Repr

inductive State where
  | handled
  | ignored
  | tran
  | super
  | unhandled
deriving DecidableEq, Repr

-- A handler's return value together with what it leaves in this->temp:
-- transition(&T::s) and tran_super(&T::s) write temp and return the code.
inductive Reply (Q : Type) where
  | handled
  | ignored
  | unhandled
  | transition (nextState : Q)
  | tranSuper (superState : Q)
deriving DecidableEq, Repr

namespace Reply

variable {Q : Type}

def code : Reply Q → State
  | .handled => .handled
  | .ignored => .ignored
  | .unhandled => .unhandled
  | .transition _ => .tran
  | .tranSuper _ => .super

def temp (before : Q) : Reply Q → Q
  | .transition nextState => nextState
  | .tranSuper superState => superState
  | _ => before

@[simp] theorem code_handled : (handled : Reply Q).code = .handled := rfl

@[simp] theorem code_ignored : (ignored : Reply Q).code = .ignored := rfl

@[simp] theorem code_unhandled : (unhandled : Reply Q).code = .unhandled := rfl

@[simp] theorem code_transition (nextState : Q) : (transition nextState).code = .tran := rfl

@[simp] theorem code_tranSuper (superState : Q) : (tranSuper superState).code = .super := rfl

@[simp] theorem temp_transition (before nextState : Q) : (transition nextState).temp before = nextState := rfl

@[simp] theorem temp_tranSuper (before superState : Q) : (tranSuper superState).temp before = superState := rfl

end Reply

structure HsmClass (Q W E X : Type) where
  hsmTop : Q
  handler : Q → Event E → Prog W X (Reply Q)

structure Registers (Q : Type) where
  state : Q
  temp : Q
deriving DecidableEq, Repr

def hsmMaxNestDepth : Int := 5

-- StateHandler path[HSM_MAX_NEST_DEPTH], none for a cell not written yet. Its
-- int8_t index never wraps: a write outside the array comes first.
abbrev Path (Q : Type) := Nat → Option Q

namespace Path

variable {Q W X : Type}

def blank : Path Q := fun _ => none

def write (path : Path Q) (index : Int) (q : Q) : Prog W X (Path Q) :=
  if 0 ≤ index ∧ index < hsmMaxNestDepth then pure (Function.update path index.toNat (some q))
  else Prog.fault .outOfBounds

def read (path : Path Q) (index : Int) : Prog W X Q :=
  if 0 ≤ index ∧ index < hsmMaxNestDepth then
    match path index.toNat with
    | some q => pure q
    | none => Prog.fault .uninitialised
  else Prog.fault .outOfBounds

def scan [DecidableEq Q] (path : Path Q) (target : Q) : Nat → Prog W X (Option Nat)
  | 0 => do
      let q ← path.read 0
      if target = q then pure (some 0) else pure none
  | tempIndex + 1 => do
      let q ← path.read (tempIndex + 1 : Nat)
      if target = q then pure (some (tempIndex + 1)) else scan path target tempIndex

end Path

def require {W X : Type} (condition : Prop) [Decidable condition] : Prog W X Unit :=
  if condition then pure () else Prog.fault .assertFailed

namespace HsmClass

variable {Q W E X : Type} [DecidableEq Q] (T : HsmClass Q W E X)

-- The call through a pointer to member. Hsm_top answers IGNORED to everything.
def call (q : Q) (ev : Event E) (temp : Q) : Prog W X (State × Q) :=
  if q = T.hsmTop then pure (.ignored, temp)
  else do
    let reply ← T.handler q ev
    pure (reply.code, reply.temp temp)

-- Each loop of the source takes the number of turns it may make.
def offer (ev : Event E) : Nat → Q → Prog W X (Q × State × Q)
  | 0, _ => Prog.fault .outOfFuel
  | fuel + 1, temp => do
      let source := temp
      let (retState, temp) ← T.call source ev temp
      let (retState, temp) ←
        if retState = .unhandled then T.call source .evEmpty temp else pure (retState, temp)
      if retState = .super then offer ev fuel temp else pure (source, retState, temp)

def exitToSuper (target temp : Q) : Prog W X Q := do
  let (retState, temp) ← T.call target .evExit temp
  if retState = .handled then
    let (_, temp) ← T.call target .evEmpty temp
    pure temp
  else pure temp

def exitToSource (source : Q) : Nat → Q → Q → Prog W X Q
  | 0, _, _ => Prog.fault .outOfFuel
  | fuel + 1, target, temp =>
      if target = source then pure temp
      else do
        let temp ← T.exitToSuper target temp
        exitToSource source fuel temp temp

-- The while loop of case (E). The flag is the source's tempIndex == 1.
def climbTarget (source : Q) : Nat → Path Q → Int → State → Q → Prog W X (Path Q × Int × Bool × Q)
  | 0, _, _, _, _ => Prog.fault .outOfFuel
  | fuel + 1, path, index, retState, temp =>
      if retState = .super then do
        let index := index + 1
        let path ← path.write index temp
        if temp = source then do
          require (index < hsmMaxNestDepth)
          pure (path, index - 1, true, temp)
        else do
          let (retState, temp) ← T.call temp .evEmpty temp
          climbTarget source fuel path index retState temp
      else pure (path, index, false, temp)

-- Case (G): exit source->super->... until it is on the entry path.
def exitToLca (path : Path Q) (index : Int) : Nat → Q → Q → Prog W X Int
  | 0, _, _ => Prog.fault .outOfFuel
  | fuel + 1, target, temp => do
      let target ← T.exitToSuper target temp
      match ← path.scan target index.toNat with
      | some tempIndex => pure (tempIndex - 1)
      | none => exitToLca path index fuel target target

-- Cases (A) to (G): the entry path and the index of its first state to enter.
def findEntryPath (fuel : Nat) (source : Q) (path : Path Q) (temp : Q) : Prog W X (Path Q × Int) := do
  let target ← path.read 0
  if source = target then do
    let _ ← T.call source .evExit temp
    pure (path, 0)
  else do
    let (_, temp) ← T.call target .evEmpty temp
    let target := temp
    if source = target then pure (path, 0)
    else do
      let (_, temp) ← T.call source .evEmpty temp
      if temp = target then do
        let _ ← T.call source .evExit temp
        pure (path, 0)
      else if temp = (← path.read 0) then do
        let _ ← T.call source .evExit temp
        pure (path, -1)
      else do
        let path ← path.write 1 target
        let target := temp
        let (retState, temp) ← T.call (← path.read 1) .evEmpty temp
        let (path, index, lcaFound, temp) ← T.climbTarget source fuel path 1 retState temp
        if lcaFound then pure (path, index)
        else do
          require (index < hsmMaxNestDepth)
          let (_, temp) ← T.call source .evExit temp
          match ← path.scan target index.toNat with
          | some tempIndex => pure (path, tempIndex - 1)
          | none => do
              let index ← T.exitToLca path index fuel target temp
              pure (path, index)

def enterPath (path : Path Q) : Nat → Q → Prog W X Q
  | 0, temp => pure temp
  | index + 1, temp => do
      let (_, temp) ← T.call (← path.read index) .evEntry temp
      enterPath path index temp

def climbToTarget (target : Q) : Nat → Path Q → Int → Q → Prog W X (Path Q × Int)
  | 0, _, _, _ => Prog.fault .outOfFuel
  | fuel + 1, path, index, temp =>
      if temp = target then pure (path, index)
      else do
        let index := index + 1
        let path ← path.write index temp
        let (_, temp) ← T.call temp .evEmpty temp
        climbToTarget target fuel path index temp

def drillInit (bound : Nat) : Nat → Path Q → Q → Q → Prog W X Q
  | 0, _, _, _ => Prog.fault .outOfFuel
  | fuel + 1, path, target, temp => do
      let (retState, temp) ← T.call target .evInit temp
      if retState = .tran then do
        let path ← path.write 0 temp
        let (_, temp) ← T.call temp .evEmpty temp
        let (path, index) ← T.climbToTarget target bound path 0 temp
        let temp ← path.read 0
        require (index < hsmMaxNestDepth)
        let temp ← T.enterPath path (index + 1).toNat temp
        let target ← path.read 0
        drillInit bound fuel path target temp
      else pure target

def handleEvent (fuel : Nat) (e : Event E) (this : Registers Q) : Prog W X (Registers Q) := do
  let target := this.state
  let (source, retState, temp) ← T.offer e fuel this.temp
  if retState = .tran then do
    let path ← Path.blank.write 0 temp
    let path ← path.write 1 target
    let temp ← T.exitToSource source fuel target temp
    let (path, index) ← T.findEntryPath fuel source path temp
    -- this->temp = target follows the retrace loop, whatever ENTRY left there.
    let _ ← T.enterPath path (index + 1).toNat temp
    let target ← path.read 0
    let target ← T.drillInit fuel fuel path target target
    pure { state := target, temp := target }
  else pure { state := target, temp := target }

-- The inner loop of init() gives up climbing at the last cell of statePath.
def climbInit (target : Q) : Nat → Path Q → Int → Q → Prog W X (Path Q × Int)
  | 0, _, _, _ => Prog.fault .outOfFuel
  | fuel + 1, path, index, temp =>
      if temp ≠ target ∧ index < hsmMaxNestDepth - 1 then do
        let index := index + 1
        let path ← path.write index temp
        let (_, temp) ← T.call temp .evEmpty temp
        require (index < hsmMaxNestDepth)
        climbInit target fuel path index temp
      else pure (path, index)

def initLoop (bound : Nat) : Nat → Q → Q → Prog W X Q
  | 0, _, _ => Prog.fault .outOfFuel
  | fuel + 1, target, temp => do
      let path ← Path.blank.write 0 temp
      let (_, temp) ← T.call temp .evEmpty temp
      let (path, index) ← T.climbInit target bound path 0 temp
      let temp ← path.read 0
      -- An ENTRY handler may write temp, and EV_INIT goes to temp.
      let temp ← T.enterPath path (index + 1).toNat temp
      let target ← path.read 0
      let (retState, temp) ← T.call temp .evInit temp
      if retState = .tran then initLoop bound fuel target temp else pure target

def init (fuel : Nat) (this : Registers Q) : Prog W X (Registers Q) := do
  let (s, temp) ← T.call this.temp .evEmpty this.temp
  require (s = .tran)
  let target ← T.initLoop fuel fuel this.state temp
  pure { state := target, temp := target }

end HsmClass

end CameraController
