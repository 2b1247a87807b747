import CameraController.Lib.Prog
import CameraController.Events

set_option autoImplicit false

namespace CameraController

open Effects

def gpOk : Int := 0

def gpErrorBadParameters : Int := -2

inductive CameraWidgetType where
  | gpWidgetWindow
  | gpWidgetSection
  | gpWidgetText
  | gpWidgetRange
  | gpWidgetToggle
  | gpWidgetRadio
  | gpWidgetMenu
  | gpWidgetButton
  | gpWidgetDate
deriving DecidableEq, Repr

-- A CameraWidget pointer, with the configuration entry it was made from.
structure Widget where
  id : Nat
  configName : String
deriving DecidableEq, Repr

inductive NumericError where
  | invalidArgument
  | outOfRange
deriving DecidableEq, Repr

-- What c_str() shows of a string: the part before its first NUL.
def cString (s : String) : String := String.ofList (s.toList.takeWhile fun c => c.toNat != 0)

-- The strings in the two arrays of a CameraFilePath.
structure CameraFilePath where
  name : String
  folder : String
deriving DecidableEq, Repr

-- The camera argument of a call is none for nullptr.
inductive Call where
  | gpCameraNew
  | gpCameraInit (camera : Option Nat)
  | gpCameraExit (camera : Option Nat)
  | gpCameraFree (camera : Option Nat)
  | gpCameraGetSingleConfig (camera : Option Nat) (name : String)
  | gpCameraSetSingleConfig (camera : Option Nat) (name : String) (widget : Widget)
  | gpCameraCapture (camera : Option Nat)
  | gpCameraFileGet (camera : Option Nat) (folder name : String)
  | gpWidgetGetType (widget : Widget)
  | gpWidgetGetName (widget : Widget)
  | gpWidgetGetReadonly (widget : Widget)
  | gpWidgetCountChoices (widget : Widget)
  | gpWidgetGetChoice (widget : Widget) (index : Nat)
  | gpWidgetGetValueString (widget : Widget)
  | gpWidgetGetValueFloat (widget : Widget)
  | gpWidgetSetValue (widget : Widget) (value : String)
  | gpWidgetFree (widget : Widget)
  | gpFileNewFromFd (fd : Int)
  | gpFileFree
  | fopen (path : String)
  | fileno
  | fclose
  | fsExists (path : String)
  | fsCreateDirectory (path : String)
deriving DecidableEq, Repr

namespace Call

-- The result code with the out parameters. fopen answers whether the file was
-- opened; fsExists answers none when it throws a filesystem_error.
@[reducible] def Ret (F : Type) : Call → Type
  | .gpCameraCapture _ => Int × CameraPath
  | .gpWidgetGetType _ => Int × CameraWidgetType
  | .gpWidgetGetName _ => Int × String
  | .gpWidgetGetReadonly _ => Int × Int
  | .gpWidgetGetChoice _ _ => Int × String
  | .gpWidgetGetValueString _ => Int × String
  | .gpWidgetGetValueFloat _ => Int × F
  | .fopen _ => Bool
  | .fsExists _ => Option Bool
  | .fsCreateDirectory _ => Bool
  | _ => Int

def handle : Call → Option Nat
  | .gpCameraInit camera => camera
  | .gpCameraExit camera => camera
  | .gpCameraFree camera => camera
  | .gpCameraGetSingleConfig camera _ => camera
  | .gpCameraSetSingleConfig camera _ _ => camera
  | .gpCameraCapture camera => camera
  | .gpCameraFileGet camera _ _ => camera
  | _ => none

def makesCamera {F : Type} : (call : Call) → call.Ret F → Bool
  | .gpCameraNew, result => result == gpOk
  | _, _ => false

def freesCamera : Call → Option Nat
  | .gpCameraFree camera => camera
  | _ => none

def makesWidget {F : Type} : (call : Call) → call.Ret F → Bool
  | .gpCameraGetSingleConfig _ _, result => result == gpOk
  | _, _ => false

end Call

abbrev Answer (F : Type) := (call : Call) × call.Ret F

-- Everything behind the program: gphoto2 with the camera, the file system, the
-- threads that post commands, the float arithmetic of the machine, and the sizes
-- of the arrays in gphoto2's CameraFilePath. C is the state of all that, so an
-- answer may depend on everything that went before.
structure Platform (C F : Type) where
  answer : (call : Call) → C → call.Ret F × C
  arrivals : C → List Command × C
  stof : String → Except NumericError F
  ofInt : Int → F
  mul : F → F → F
  div : F → F → F
  toInt : F → Int
  fixed : Int → F → String
  general : F → String
  nameCapacity : Nat := 128
  folderCapacity : Nat := 1024

-- created counts the camera handles made so far, which are numbered from 0;
-- misused lists the calls that were handed a handle already freed.
structure Gphoto (C F : Type) where
  outside : C
  log : List (Answer F)
  created : Nat
  freed : List Nat
  misused : List Call
  widgets : Nat

namespace Gphoto

variable {C F X : Type}

def initial (outside : C) : Gphoto C F where
  outside := outside
  log := []
  created := 0
  freed := []
  misused := []
  widgets := 0

def record (gp : Gphoto C F) (call : Call) (result : call.Ret F) (outside : C) : Gphoto C F where
  outside := outside
  log := gp.log ++ [⟨call, result⟩]
  created := if call.makesCamera result then gp.created + 1 else gp.created
  freed := gp.freed ++ call.freesCamera.toList
  misused := if ∃ handle ∈ call.handle, handle ∈ gp.freed then gp.misused ++ [call] else gp.misused
  widgets := if call.makesWidget result then gp.widgets + 1 else gp.widgets

def foreign (platform : Platform C F) (call : Call) : Prog (Gphoto C F) X (call.Ret F) := fun gp =>
  let answered := platform.answer call gp.outside
  .ok answered.1 (gp.record call answered.1 answered.2)

end Gphoto

end CameraController
