import CameraController.Controller

set_option autoImplicit false

namespace CameraController

open Effects

namespace CcEvent

-- The order of the enumeration, which starts at EV_FIRST_SIGNAL.
def named : List CcEvent :=
  [.evCameraConnect, .evCameraConnected, .evCameraConnectionError, .evCameraDisconnect, .evCameraDisconnected,
    .evCameraGenericError, .evCameraSetConfig, .evCameraGetStatus, .evCameraValConfig, .evCameraValStatus,
    .evCameraGetOptions, .evCameraOptionsShutterSpeed, .evCameraOptionsAperture, .evCameraOptionsIso,
    .evCameraOptionsTriggerMode, .evCameraCaptureWired, .evCameraCaptureSuccess, .evCameraCaptureError,
    .evCameraDownload, .evCameraDownloadSuccess, .evCameraDownloadError]

def evFirstSignal : Nat := 4

def ofValue (value : UInt16) : CcEvent :=
  if value.toNat < evFirstSignal then .unnamed value else (named[value.toNat - evFirstSignal]?).getD (.unnamed value)

theorem of_value_entry (value : UInt16) (entry : ofValue value = .unnamed 0) : value = 0 := by
  unfold ofValue at entry
  split at entry
  · exact CcEvent.unnamed.inj entry
  · cases found : named[value.toNat - evFirstSignal]? with
    | none =>
        rw [found] at entry
        exact CcEvent.unnamed.inj entry
    | some sig =>
        rw [found] at entry
        have nameless : ∀ sig ∈ named, sig ≠ .unnamed 0 := by decide
        exact absurd entry (nameless sig (List.mem_of_getElem? found))

end CcEvent

def CcTopic.value : CcTopic → UInt8
  | .topicCameraCmd => 0
  | .topicCameraEvent => 1
  | .topicCameraStatus => 2

def getEventName : CcEvent → String
  | .evCameraConnect => "EV_CAMERA_CONNECT"
  | .evCameraConnected => "EV_CAMERA_CONNECTED"
  | .evCameraConnectionError => "EV_CAMERA_CONNECTION_ERROR"
  | .evCameraDisconnect => "EV_CAMERA_DISCONNECT"
  | .evCameraDisconnected => "EV_CAMERA_DISCONNECTED"
  | .evCameraGenericError => "EV_CAMERA_GENERIC_ERROR"
  | .evCameraSetConfig => "EV_CAMERA_SET_CONFIG"
  | .evCameraGetStatus => "EV_CAMERA_GET_STATUS"
  | .evCameraValConfig => "EV_CAMERA_VAL_CONFIG"
  | .evCameraValStatus => "EV_CAMERA_VAL_STATUS"
  | .evCameraGetOptions => "EV_CAMERA_GET_OPTIONS"
  | .evCameraOptionsShutterSpeed => "EV_CAMERA_OPTIONS_SHUTTER_SPEED"
  | .evCameraOptionsAperture => "EV_CAMERA_OPTIONS_APERTURE"
  | .evCameraOptionsIso => "EV_CAMERA_OPTIONS_ISO"
  | .evCameraOptionsTriggerMode => "EV_CAMERA_OPTIONS_TRIGGER_MODE"
  | .evCameraCaptureWired => "EV_CAMERA_CAPTURE_WIRED"
  | .evCameraCaptureSuccess => "EV_CAMERA_CAPTURE_SUCCESS"
  | .evCameraCaptureError => "EV_CAMERA_CAPTURE_ERROR"
  | .evCameraDownload => "EV_CAMERA_DOWNLOAD"
  | .evCameraDownloadSuccess => "EV_CAMERA_DOWNLOAD_SUCCESS"
  | .evCameraDownloadError => "EV_CAMERA_DOWNLOAD_ERROR"
  | .unnamed value => toString value.toNat

def getTopicName (topic : UInt8) : String :=
  if topic = 0 then "TOPIC_CAMERA_CMD"
  else if topic = 1 then "TOPIC_CAMERA_EVENT"
  else if topic = 2 then "TOPIC_CAMERA_STATUS"
  else toString topic.toNat

namespace EventLogger

section Casts

variable {W : Type}

def castConnected (ev : EventPtr) : Prog W Exn String :=
  match ev.payload with
  | .cameraConnectedEvent serial => pure serial
  | _ => Prog.fault .badCast

def castStatus (ev : EventPtr) : Prog W Exn CameraStatus :=
  match ev.payload with
  | .cameraStatusEvent status => pure status
  | _ => Prog.fault .badCast

def castOptionsInt (ev : EventPtr) : Prog W Exn (List Int) :=
  match ev.payload with
  | .cameraOptionListEventInt options => pure options
  | _ => Prog.fault .badCast

def castOptionsString (ev : EventPtr) : Prog W Exn (List String) :=
  match ev.payload with
  | .cameraOptionListEventString options => pure options
  | _ => Prog.fault .badCast

def castDownloadSuccess (ev : EventPtr) : Prog W Exn (CameraPath × String) :=
  match ev.payload with
  | .cameraDownloadSuccessEvent cameraPath path => pure (cameraPath, path)
  | _ => Prog.fault .badCast

end Casts

-- CameraPath::getPath().
def getPath (path : CameraPath) : String := path.folder ++ "/" ++ path.name

-- Log.d: the lines that the logger has written.
def logLine (line : String) : Prog (List String) Exn Unit := Prog.modify (fun lines => lines ++ [line])

def listed (options : List String) : String :=
  ", ".intercalate (options.map (fun option => "'" ++ option ++ "'"))

section Callback

variable {C F : Type} (platform : Platform C F) (gpResultAsString : Int → String)

open CameraStringConversion in
def onEventReceived (ev : EventPtr) (topic : UInt8) : Prog (List String) Exn Unit := do
  let head := "(" ++ getTopicName topic ++ ") " ++ getEventName ev.sig
  match ev.sig with
  | .evCameraConnected => do
      let serial ← castConnected ev
      logLine (head ++ " (" ++ serial ++ ")")
  | .evCameraConnectionError | .evCameraGenericError => do
      let errorcode ← Controller.castError ev
      logLine (head ++ " Error " ++ ToString.toString errorcode ++ ": " ++ gpResultAsString errorcode)
  | .evCameraValStatus => do
      let status ← castStatus ev
      logLine (head ++ " (battery=" ++ ToString.toString status.battery ++ ", program='" ++ status.exposureProgram ++
        "', focal_length=" ++ ToString.toString status.focalLength ++ ")")
  | .evCameraValConfig => do
      let config ← Controller.castConfig ev
      logLine (head ++ " (shutter=" ++ shutterSpeedToString platform config.shutterSpeed ++ ", aperture='" ++
        apertureToString platform config.aperture ++ "', iso=" ++ ToString.toString config.iso ++ ", trigger='" ++
        config.triggerMode ++ "')")
  | .evCameraOptionsShutterSpeed => do
      let options ← castOptionsInt ev
      logLine (head ++ " \x7b" ++ listed (options.map (shutterSpeedToString platform)) ++ "\x7d")
  | .evCameraOptionsAperture => do
      let options ← castOptionsInt ev
      logLine (head ++ " \x7b" ++ listed (options.map (apertureToString platform)) ++ "\x7d")
  | .evCameraOptionsIso => do
      let options ← castOptionsInt ev
      logLine (head ++ " \x7b" ++ listed (options.map ToString.toString) ++ "\x7d")
  | .evCameraOptionsTriggerMode => do
      let options ← castOptionsString ev
      logLine (head ++ " \x7b" ++ listed options ++ "\x7d")
  | .evCameraCaptureSuccess => do
      let path ← Controller.castCaptureSuccess ev
      logLine (head ++ " (" ++ getPath path ++ ")")
  | .evCameraDownload => do
      let cameraPath ← Controller.castDownload ev
      logLine (head ++ " (" ++ getPath cameraPath ++ ")")
  | .evCameraDownloadSuccess => do
      let (cameraPath, path) ← castDownloadSuccess ev
      logLine (head ++ " (" ++ getPath cameraPath ++ " -> " ++ path ++ ")")
  | _ => logLine head

def casts (sig : CcEvent) : Bool :=
  match sig with
  | .evCameraSetConfig => false
  | .evCameraCaptureError => false
  | sig => sig.eventClass != .event

theorem casts_class (sig : CcEvent) (others : sig ≠ .evCameraSetConfig ∧ sig ≠ .evCameraCaptureError) :
    casts sig = true ↔ sig.eventClass ≠ .event := by
  unfold casts
  split
  · exact absurd rfl others.1
  · exact absurd rfl others.2
  · exact bne_iff_ne

theorem plain_typed (ev : EventPtr) (plain : ev.payload = .event) (cast : casts ev.sig = false)
    (others : ev.sig ≠ .evCameraSetConfig ∧ ev.sig ≠ .evCameraCaptureError) : ev.Typed := by
  have calls := mt (casts_class ev.sig others).mpr (by simp [cast])
  rw [EventPtr.Typed, plain]
  exact (not_not.mp calls).symm

theorem plain_apart (ev : EventPtr) (plain : ev.payload = .event) (cast : casts ev.sig = true) : ¬ ev.Typed := by
  have others : ev.sig ≠ .evCameraSetConfig ∧ ev.sig ≠ .evCameraCaptureError := by
    constructor <;> intro named <;> rw [named] at cast <;> cases cast
  intro typed
  rw [EventPtr.Typed, plain] at typed
  exact (casts_class ev.sig others).mp cast typed.symm

theorem received_cases (ev : EventPtr) (topic : UInt8) (lines : List String) :
    (∃ line, onEventReceived platform gpResultAsString ev topic lines = .ok () (lines ++ [line])) ∧
        (casts ev.sig = true → ev.Typed) ∨
      onEventReceived platform gpResultAsString ev topic lines = .fault .badCast ∧ casts ev.sig = true ∧ ¬ ev.Typed := by
  obtain ⟨id, sig, payload⟩ := ev
  cases sig with
  | evCameraConnected =>
      cases payload with
      | cameraConnectedEvent serial => exact .inl ⟨⟨_, rfl⟩, fun _ => rfl⟩
      | _ => exact .inr ⟨rfl, rfl, nofun⟩
  | evCameraConnectionError =>
      cases payload with
      | cameraErrorEvent errorcode => exact .inl ⟨⟨_, rfl⟩, fun _ => rfl⟩
      | _ => exact .inr ⟨rfl, rfl, nofun⟩
  | evCameraGenericError =>
      cases payload with
      | cameraErrorEvent errorcode => exact .inl ⟨⟨_, rfl⟩, fun _ => rfl⟩
      | _ => exact .inr ⟨rfl, rfl, nofun⟩
  | evCameraValConfig =>
      cases payload with
      | cameraConfigEvent config => exact .inl ⟨⟨_, rfl⟩, fun _ => rfl⟩
      | _ => exact .inr ⟨rfl, rfl, nofun⟩
  | evCameraValStatus =>
      cases payload with
      | cameraStatusEvent status => exact .inl ⟨⟨_, rfl⟩, fun _ => rfl⟩
      | _ => exact .inr ⟨rfl, rfl, nofun⟩
  | evCameraOptionsShutterSpeed =>
      cases payload with
      | cameraOptionListEventInt options => exact .inl ⟨⟨_, rfl⟩, fun _ => rfl⟩
      | _ => exact .inr ⟨rfl, rfl, nofun⟩
  | evCameraOptionsAperture =>
      cases payload with
      | cameraOptionListEventInt options => exact .inl ⟨⟨_, rfl⟩, fun _ => rfl⟩
      | _ => exact .inr ⟨rfl, rfl, nofun⟩
  | evCameraOptionsIso =>
      cases payload with
      | cameraOptionListEventInt options => exact .inl ⟨⟨_, rfl⟩, fun _ => rfl⟩
      | _ => exact .inr ⟨rfl, rfl, nofun⟩
  | evCameraOptionsTriggerMode =>
      cases payload with
      | cameraOptionListEventString options => exact .inl ⟨⟨_, rfl⟩, fun _ => rfl⟩
      | _ => exact .inr ⟨rfl, rfl, nofun⟩
  | evCameraCaptureSuccess =>
      cases payload with
      | cameraCaptureSuccessEvent path => exact .inl ⟨⟨_, rfl⟩, fun _ => rfl⟩
      | _ => exact .inr ⟨rfl, rfl, nofun⟩
  | evCameraDownload =>
      cases payload with
      | cameraDownloadEvent cameraPath => exact .inl ⟨⟨_, rfl⟩, fun _ => rfl⟩
      | _ => exact .inr ⟨rfl, rfl, nofun⟩
  | evCameraDownloadSuccess =>
      cases payload with
      | cameraDownloadSuccessEvent cameraPath path => exact .inl ⟨⟨_, rfl⟩, fun _ => rfl⟩
      | _ => exact .inr ⟨rfl, rfl, nofun⟩
  | _ => exact .inl ⟨⟨_, rfl⟩, nofun⟩

theorem received_logs (ev : EventPtr) (topic : UInt8) (lines : List String) (fits : casts ev.sig = true → ev.Typed) :
    ∃ line, onEventReceived platform gpResultAsString ev topic lines = .ok () (lines ++ [line]) := by
  cases received_cases platform gpResultAsString ev topic lines with
  | inl logs => exact logs.1
  | inr faults => exact absurd (fits faults.2.1) faults.2.2

theorem received_faults (ev : EventPtr) (topic : UInt8) (lines : List String) (cast : casts ev.sig = true) (apart : ¬ ev.Typed) :
    onEventReceived platform gpResultAsString ev topic lines = .fault .badCast := by
  cases received_cases platform gpResultAsString ev topic lines with
  | inl logs => exact absurd (logs.2 cast) apart
  | inr faults => exact faults.1

end Callback

end EventLogger

end CameraController
