import Mathlib.Data.List.Basic

set_option autoImplicit false

namespace CameraController

-- A uint16_t signal: the names of CCEvent, or a number that has none.
inductive CcEvent where
  | evCameraConnect
  | evCameraConnected
  | evCameraConnectionError
  | evCameraDisconnect
  | evCameraDisconnected
  | evCameraGenericError
  | evCameraSetConfig
  | evCameraGetStatus
  | evCameraValConfig
  | evCameraValStatus
  | evCameraGetOptions
  | evCameraOptionsShutterSpeed
  | evCameraOptionsAperture
  | evCameraOptionsIso
  | evCameraOptionsTriggerMode
  | evCameraCaptureWired
  | evCameraCaptureSuccess
  | evCameraCaptureError
  | evCameraDownload
  | evCameraDownloadSuccess
  | evCameraDownloadError
  | unnamed (value : UInt16)
deriving DecidableEq, Repr

inductive CcTopic where
  | topicCameraCmd
  | topicCameraEvent
  | topicCameraStatus
deriving DecidableEq, Repr

structure CameraPath where
  folder : String
  name : String
deriving DecidableEq, Repr

structure CameraStatus where
  battery : Int
  exposureProgram : String
  focalLength : Int
deriving DecidableEq, Repr

structure CameraConfig where
  shutterSpeed : Int := -1
  aperture : Int := -1
  iso : Int := -1
  triggerMode : String := ""
deriving DecidableEq, Repr

-- The dynamic type of an event with the fields that its class adds to Event.
inductive Payload where
  | event
  | cameraConnectedEvent (serial : String)
  | cameraErrorEvent (errorcode : Int)
  | cameraStatusEvent (status : CameraStatus)
  | cameraConfigEvent (config : CameraConfig)
  | cameraOptionListEventInt (options : List Int)
  | cameraOptionListEventString (options : List String)
  | cameraCaptureSuccessEvent (path : CameraPath)
  | cameraDownloadEvent (cameraPath : CameraPath)
  | cameraDownloadSuccessEvent (cameraPath : CameraPath) (path : String)
deriving DecidableEq, Repr

inductive EventClass where
  | event
  | cameraConnectedEvent
  | cameraErrorEvent
  | cameraStatusEvent
  | cameraConfigEvent
  | cameraOptionListEventInt
  | cameraOptionListEventString
  | cameraCaptureSuccessEvent
  | cameraDownloadEvent
  | cameraDownloadSuccessEvent
deriving DecidableEq, Repr

def Payload.eventClass : Payload → EventClass
  | .event => .event
  | .cameraConnectedEvent _ => .cameraConnectedEvent
  | .cameraErrorEvent _ => .cameraErrorEvent
  | .cameraStatusEvent _ => .cameraStatusEvent
  | .cameraConfigEvent _ => .cameraConfigEvent
  | .cameraOptionListEventInt _ => .cameraOptionListEventInt
  | .cameraOptionListEventString _ => .cameraOptionListEventString
  | .cameraCaptureSuccessEvent _ => .cameraCaptureSuccessEvent
  | .cameraDownloadEvent _ => .cameraDownloadEvent
  | .cameraDownloadSuccessEvent _ _ => .cameraDownloadSuccessEvent

def CcEvent.eventClass : CcEvent → EventClass
  | .evCameraConnected => .cameraConnectedEvent
  | .evCameraConnectionError => .cameraErrorEvent
  | .evCameraGenericError => .cameraErrorEvent
  | .evCameraSetConfig => .cameraConfigEvent
  | .evCameraValConfig => .cameraConfigEvent
  | .evCameraValStatus => .cameraStatusEvent
  | .evCameraOptionsShutterSpeed => .cameraOptionListEventInt
  | .evCameraOptionsAperture => .cameraOptionListEventInt
  | .evCameraOptionsIso => .cameraOptionListEventInt
  | .evCameraOptionsTriggerMode => .cameraOptionListEventString
  | .evCameraCaptureSuccess => .cameraCaptureSuccessEvent
  | .evCameraCaptureError => .cameraErrorEvent
  | .evCameraDownload => .cameraDownloadEvent
  | .evCameraDownloadSuccess => .cameraDownloadSuccessEvent
  | _ => .event

-- id stands for the address of the shared event: every event that is made gets
-- an id of its own, and a copy of the pointer keeps it.
structure EventPtr where
  id : Nat
  sig : CcEvent
  payload : Payload
deriving DecidableEq, Repr

instance : Inhabited EventPtr := ⟨⟨0, .unnamed 0, .event⟩⟩

namespace EventPtr

def Typed (ev : EventPtr) : Prop := ev.payload.eventClass = ev.sig.eventClass

instance (ev : EventPtr) : Decidable ev.Typed := inferInstanceAs (Decidable (_ = _))

-- The signals that stateConnected defers and stateIdle executes.
def deferrable (ev : EventPtr) : Bool :=
  match ev.sig with
  | .evCameraSetConfig => true
  | .evCameraGetStatus => true
  | .evCameraGetOptions => true
  | .evCameraCaptureWired => true
  | .evCameraDownload => true
  | _ => false

end EventPtr

-- What a thread outside the controller posts on TOPIC_CAMERA_CMD.
inductive Command where
  | connect
  | disconnect
  | setConfig (config : CameraConfig)
  | getStatus
  | getOptions
  | captureWired
  | download (cameraPath : CameraPath)
deriving DecidableEq, Repr

namespace Command

def sig : Command → CcEvent
  | .connect => .evCameraConnect
  | .disconnect => .evCameraDisconnect
  | .setConfig _ => .evCameraSetConfig
  | .getStatus => .evCameraGetStatus
  | .getOptions => .evCameraGetOptions
  | .captureWired => .evCameraCaptureWired
  | .download _ => .evCameraDownload

def payload : Command → Payload
  | .setConfig config => .cameraConfigEvent config
  | .download cameraPath => .cameraDownloadEvent cameraPath
  | _ => .event

def toEvent (command : Command) (id : Nat) : EventPtr where
  id := id
  sig := command.sig
  payload := command.payload

theorem to_event_typed (command : Command) (id : Nat) : (command.toEvent id).Typed := by
  cases command <;> rfl

end Command

end CameraController
