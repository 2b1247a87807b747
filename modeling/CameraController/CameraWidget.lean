import CameraController.Gphoto

set_option autoImplicit false

namespace CameraController

open Effects

inductive Exn where
  | gPhotoError (error : Int)
  | widgetReadOnlyError (widget : String)
  | numeric (error : NumericError)
  | filesystemError (what path : String)
  | rangeError (what : String)
deriving DecidableEq, Repr

structure CameraWrapper where
  connected : Bool := false
  serial : String := "NOT_A_GOOD_SERIAL"
  camera : Option Nat := none
deriving DecidableEq, Repr

-- The wrapper together with what it calls. The context never changes and is
-- left out of the arguments of every call.
structure Camera (C F : Type) where
  wrapper : CameraWrapper
  gp : Gphoto C F

section Foreign

variable {C F : Type} (platform : Platform C F)

def call (c : Call) : Prog (Camera C F) Exn (c.Ret F) :=
  Prog.zoom Camera.gp (fun gp camera => { camera with gp := gp }) (Gphoto.foreign platform c)

def cameraPtr : Prog (Camera C F) Exn (Option Nat) := do
  let camera ← Prog.get
  pure camera.wrapper.camera

end Foreign

namespace CameraWidget

variable {C F A : Type} (platform : Platform C F)

-- The constructor from a config_name. It fails before there is an object, so
-- no destructor runs then.
def construct (configName : String) : Prog (Camera C F) Exn Widget := do
  let before ← Prog.get
  let result ← call platform (.gpCameraGetSingleConfig before.wrapper.camera configName)
  if result ≠ gpOk then Prog.throw (.gPhotoError result)
  else pure { id := before.gp.widgets, configName := configName }

def destroy (widget : Widget) : Prog (Camera C F) Exn Unit := do
  let _ ← call platform (.gpWidgetFree widget)
  pure ()

def getType (widget : Widget) : Prog (Camera C F) Exn CameraWidgetType := do
  let (result, type) ← call platform (.gpWidgetGetType widget)
  if result ≠ gpOk then Prog.throw (.gPhotoError result) else pure type

def getName (widget : Widget) : Prog (Camera C F) Exn String := do
  let (result, value) ← call platform (.gpWidgetGetName widget)
  if result ≠ gpOk then pure "" else pure value

def isReadOnly (widget : Widget) : Prog (Camera C F) Exn Bool := do
  let (result, value) ← call platform (.gpWidgetGetReadonly widget)
  if result ≠ gpOk then pure true else pure (value != 0)

-- The loop over i, with n choices still to read.
def readChoices (widget : Widget) : Nat → Nat → List String → Prog (Camera C F) Exn (List String)
  | 0, _, choices => pure choices
  | n + 1, i, choices => do
      let (result, choice) ← call platform (.gpWidgetGetChoice widget i)
      if result = gpOk then readChoices widget n (i + 1) (choices ++ [choice]) else pure []

def getAvailableValues (widget : Widget) : Prog (Camera C F) Exn (List String) := do
  let choicesNum ← call platform (.gpWidgetCountChoices widget)
  readChoices platform widget choicesNum.toNat 0 []

def apply (widget : Widget) : Prog (Camera C F) Exn Unit := do
  if !(← isReadOnly platform widget) then
    let result ← call platform (.gpCameraSetSingleConfig (← cameraPtr) widget.configName widget)
    if result ≠ gpOk then Prog.throw (.gPhotoError result) else pure ()
  else
    Prog.throw (.widgetReadOnlyError (← getName platform widget))

-- A local CameraWidgetString or CameraWidgetRange and the rest of its scope. A
-- type that does not fit fails after the base is constructed, so the base is
-- destroyed then too.
def withWidget (fits : CameraWidgetType → Bool) (configName : String) (body : Widget → Prog (Camera C F) Exn A) :
    Prog (Camera C F) Exn A := do
  let widget ← construct platform configName
  Prog.withDestructor
    (do
      let type ← getType platform widget
      if fits type then body widget else Prog.throw (.gPhotoError gpErrorBadParameters))
    (destroy platform widget)

def isString (type : CameraWidgetType) : Bool :=
  type == .gpWidgetMenu || type == .gpWidgetRadio || type == .gpWidgetText

def isRange (type : CameraWidgetType) : Bool := type == .gpWidgetRange

def cameraWidgetString (configName : String) (body : Widget → Prog (Camera C F) Exn A) : Prog (Camera C F) Exn A :=
  withWidget platform isString configName body

def cameraWidgetRange (configName : String) (body : Widget → Prog (Camera C F) Exn A) : Prog (Camera C F) Exn A :=
  withWidget platform isRange configName body

def getValue (widget : Widget) : Prog (Camera C F) Exn String := do
  let (result, value) ← call platform (.gpWidgetGetValueString widget)
  if result ≠ gpOk then Prog.throw (.gPhotoError result) else pure value

-- The result of gp_widget_set_value is dropped.
def setValue (widget : Widget) (value : String) : Prog (Camera C F) Exn Unit := do
  let _ ← call platform (.gpWidgetSetValue widget value)
  pure ()

def getRangeValue (widget : Widget) : Prog (Camera C F) Exn F := do
  let (result, value) ← call platform (.gpWidgetGetValueFloat widget)
  if result ≠ gpOk then Prog.throw (.gPhotoError result) else pure value

end CameraWidget

end CameraController
