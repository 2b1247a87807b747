import CameraController.CameraWrapper
import CameraController.CircularBuffer
import CameraController.Hsm

set_option autoImplicit false

namespace CameraController

open Effects

-- A deferred event being posted again, with what had been posted from outside by
-- then and what was deferred when the loop began.
structure Repost where
  ev : EventPtr
  posted : List EventPtr
  deferred : List EventPtr
deriving DecidableEq, Repr

-- The fields of CameraController and the event queue of its EventHandler. The
-- fields from posted on record what happened; no function reads them.
structure World (C F : Type) where
  camera : Camera C F
  eventList : List EventPtr
  deferredEvents : CircularBuffer EventPtr 1000
  cameraConfig : CameraConfig
  toDownload : CameraPath
  downloadDir : String
  reconnectAttempts : Int
  nextId : Nat
  published : List (EventPtr × CcTopic)
  posted : List EventPtr
  executed : List EventPtr
  overwritten : List EventPtr
  reposts : List Repost

inductive ControllerState where
  | hsmTop
  | stateInit
  | stateDisconnected
  | stateConnecting
  | stateError
  | stateConnected
  | stateIdle
  | stateCaptureWired
  | stateDownloading
deriving DecidableEq, Repr

namespace Controller

open CameraWrapper

section Posting

variable {C F A : Type} (platform : Platform C F)

def onCamera (p : Prog (Camera C F) Exn A) : Prog (World C F) Exn A :=
  Prog.zoom World.camera (fun camera world => { world with camera := camera }) p

def arrive (world : World C F) (command : Command) : World C F :=
  { world with
    eventList := world.eventList ++ [command.toEvent world.nextId]
    nextId := world.nextId + 1
    posted := world.posted ++ [command.toEvent world.nextId] }

-- The other threads may have put any number of commands before each put.
def poll : Prog (World C F) Exn Unit := Prog.modify fun world =>
  let arrived := platform.arrivals world.camera.gp.outside
  let camera := { world.camera with gp := { world.camera.gp with outside := arrived.2 } }
  arrived.1.foldl arrive { world with camera := camera }

def put (ev : EventPtr) : Prog (World C F) Exn Unit :=
  Prog.modify fun world => { world with eventList := world.eventList ++ [ev] }

def postEvent (ev : EventPtr) : Prog (World C F) Exn Unit := do
  poll platform
  put ev

def getEvPointer (sig : CcEvent) (payload : Payload) : Prog (World C F) Exn EventPtr := fun world =>
  .ok { id := world.nextId, sig := sig, payload := payload } { world with nextId := world.nextId + 1 }

-- The topics that the constructor subscribes the controller to.
def subscribed (topic : CcTopic) : Bool := topic == .topicCameraCmd || topic == .topicCameraEvent

-- sEventBroker.post: what the other subscribers do with it is not modelled.
def brokerPost (ev : EventPtr) (topic : CcTopic) : Prog (World C F) Exn Unit := do
  Prog.modify (fun world => { world with published := world.published ++ [(ev, topic)] })
  if subscribed topic then postEvent platform ev else pure ()

-- EventPtr ev = getEvPointer(...); sEventBroker.post(ev, topic).
def postNew (sig : CcEvent) (payload : Payload) (topic : CcTopic) : Prog (World C F) Exn Unit := do
  let ev ← getEvPointer sig payload
  brokerPost platform ev topic

def catchGPhotoError (body : Prog (World C F) Exn A) (clause : Int → Prog (World C F) Exn A) :
    Prog (World C F) Exn A :=
  Prog.tryCatch body fun e =>
    match e with
    | .gPhotoError error => some (clause error)
    | _ => none

def criticalError (gpResult : Int) : Bool := gpResult ≤ -4 && gpResult ≥ -70

def postGPhotoError (error : Int) : Prog (World C F) Exn Unit :=
  postNew platform .evCameraGenericError (.cameraErrorEvent error) .topicCameraEvent

end Posting

section Functions

variable {C F : Type} (platform : Platform C F)

def connect : Prog (World C F) Exn Unit :=
  catchGPhotoError
    (do
      let serial ← onCamera (CameraWrapper.connect platform)
      postNew platform .evCameraConnected (.cameraConnectedEvent serial) .topicCameraEvent)
    (fun error => postNew platform .evCameraConnectionError (.cameraErrorEvent error) .topicCameraEvent)

def disconnect : Prog (World C F) Exn Unit := do
  if ← onCamera (CameraWrapper.disconnect platform) then
    postNew platform .evCameraDisconnected .event .topicCameraEvent
  else pure ()

-- One of the four try blocks of setConfig().
def setOption (requested : CameraConfig → Bool) (setter : CameraConfig → Prog (Camera C F) Exn Unit) :
    Prog (World C F) Exn Unit :=
  catchGPhotoError
    (do
      let world ← Prog.get
      if requested world.cameraConfig then onCamera (setter world.cameraConfig) else pure ())
    (postGPhotoError platform)

def setConfig : Prog (World C F) Exn Unit := do
  setOption platform (fun config => config.aperture > 0) (fun config => setAperture platform config.aperture)
  setOption platform (fun config => config.shutterSpeed ≥ 0)
    (fun config => setExposureTime platform config.shutterSpeed)
  setOption platform (fun config => config.iso > 0) (fun config => setISO platform config.iso)
  setOption platform (fun config => config.triggerMode != "") (fun config => setTriggerMode platform config.triggerMode)

def readStatus : Prog (World C F) Exn Unit :=
  catchGPhotoError
    (do
      let shutterSpeed ← onCamera (getExposureTime platform)
      let aperture ← onCamera (getAperture platform)
      let iso ← onCamera (getISO platform)
      let triggerMode ← onCamera (getTriggerMode platform)
      postNew platform .evCameraValConfig
        (.cameraConfigEvent { shutterSpeed, aperture, iso, triggerMode }) .topicCameraStatus
      let battery ← onCamera (getBatteryPercent platform)
      let exposureProgram ← onCamera (getExposureProgram platform)
      let focalLength ← onCamera (getFocalLength platform)
      postNew platform .evCameraValStatus
        (.cameraStatusEvent { battery, exposureProgram, focalLength }) .topicCameraStatus)
    (postGPhotoError platform)

-- One of the four try blocks of readOptions().
def postOptions {A : Type} (sig : CcEvent) (options : Prog (Camera C F) Exn (List A)) (payload : List A → Payload) :
    Prog (World C F) Exn Unit :=
  catchGPhotoError
    (do
      let listed ← onCamera options
      postNew platform sig (payload listed) .topicCameraStatus)
    (postGPhotoError platform)

def readOptions : Prog (World C F) Exn Unit := do
  postOptions platform .evCameraOptionsShutterSpeed (listExposureTimes platform) .cameraOptionListEventInt
  postOptions platform .evCameraOptionsAperture (listApertures platform) .cameraOptionListEventInt
  postOptions platform .evCameraOptionsIso (listISOs platform) .cameraOptionListEventInt
  postOptions platform .evCameraOptionsTriggerMode (listTriggerModes platform) .cameraOptionListEventString

def captureWired : Prog (World C F) Exn Unit :=
  catchGPhotoError
    (do
      let p ← onCamera (wiredCapture platform)
      postNew platform .evCameraCaptureSuccess (.cameraCaptureSuccessEvent p) .topicCameraEvent)
    (fun error => postNew platform .evCameraCaptureError (.cameraErrorEvent error) .topicCameraEvent)

-- path(dir) / name: an absolute name replaces the directory.
def joinPath (dir name : String) : String :=
  if name.toList.head? = some '/' then name
  else if dir.toList.isEmpty || dir.toList.getLast? = some '/' then dir ++ name
  else dir ++ "/" ++ name

-- fs::exists without an error_code, outside the try block.
def downloadDirExists (dir : String) : Prog (World C F) Exn Bool := do
  match ← onCamera (call platform (.fsExists dir)) with
  | some found => pure found
  | none => Prog.throw (.filesystemError "status" dir)

def ensureDownloadDir (dir : String) : Prog (World C F) Exn Unit := do
  if !(← downloadDirExists platform dir) then
    if !(← onCamera (call platform (.fsCreateDirectory dir))) then
      postNew platform .evCameraDownloadError .event .topicCameraEvent
    else pure ()
  else pure ()

def download : Prog (World C F) Exn Unit := do
  let world ← Prog.get
  let photo := joinPath world.downloadDir world.toDownload.name
  ensureDownloadDir platform world.downloadDir
  Prog.tryCatch
    (do
      let path ← toCameraFilePath platform world.toDownload
      onCamera (downloadFile platform path photo)
      postNew platform .evCameraDownloadSuccess (.cameraDownloadSuccessEvent world.toDownload photo) .topicCameraEvent)
    (fun e =>
      match e with
      | .filesystemError _ _ => some (postNew platform .evCameraDownloadError .event .topicCameraEvent)
      | .gPhotoError error => some (postGPhotoError platform error)
      | _ => none)

def maxReconnectAttemps : Int := 3

-- postEvent(deferred_events.pop()): the pop has been done.
def repost (begun : List EventPtr) (ev : EventPtr) : Prog (World C F) Exn Unit := do
  poll platform
  Prog.modify fun world => { world with reposts := world.reposts ++ [⟨ev, world.posted, begun⟩] }
  put ev

-- The while loop of the entry to stateIdle, which makes n turns at most. It began
-- with begun, which only goes into the record.
def flushDeferred (begun : List EventPtr) : Nat → Prog (World C F) Exn Unit
  | 0 => do
      let world ← Prog.get
      if world.deferredEvents.isEmpty then pure () else Prog.fault .outOfFuel
  | n + 1 => do
      let world ← Prog.get
      if world.deferredEvents.isEmpty then pure ()
      else
        match world.deferredEvents.pop with
        | .error what => Prog.throw (.rangeError what)
        | .ok (ev, rest) => do
            Prog.modify (fun world => { world with deferredEvents := rest })
            repost platform begun ev
            flushDeferred begun n

def deferEvent (ev : EventPtr) : Prog (World C F) Exn Unit := Prog.modify fun world =>
  { world with
    deferredEvents := world.deferredEvents.put ev
    overwritten := world.overwritten ++ if world.deferredEvents.isFull then world.deferredEvents.contents.take 1 else [] }

def execute (ev : EventPtr) : Prog (World C F) Exn Unit :=
  Prog.modify fun world => { world with executed := world.executed ++ [ev] }

end Functions

section Casts

variable {W : Type}

def castError (ev : EventPtr) : Prog W Exn Int :=
  match ev.payload with
  | .cameraErrorEvent errorcode => pure errorcode
  | _ => Prog.fault .badCast

def castConfig (ev : EventPtr) : Prog W Exn CameraConfig :=
  match ev.payload with
  | .cameraConfigEvent config => pure config
  | _ => Prog.fault .badCast

def castCaptureSuccess (ev : EventPtr) : Prog W Exn CameraPath :=
  match ev.payload with
  | .cameraCaptureSuccessEvent path => pure path
  | _ => Prog.fault .badCast

def castDownload (ev : EventPtr) : Prog W Exn CameraPath :=
  match ev.payload with
  | .cameraDownloadEvent cameraPath => pure cameraPath
  | _ => Prog.fault .badCast

end Casts

section Handlers

variable {C F : Type} (platform : Platform C F)

def stateInit (_ : Event EventPtr) : Prog (World C F) Exn (Reply ControllerState) :=
  pure (.transition .stateDisconnected)

def stateDisconnected : Event EventPtr → Prog (World C F) Exn (Reply ControllerState)
  | .evEntry => pure .handled
  | .evInit => pure .handled
  | .evExit => pure .handled
  | .evEmpty => pure (.tranSuper .hsmTop)
  | .signal ev =>
      match ev.sig with
      | .evCameraConnect => pure (.transition .stateConnecting)
      | _ => pure (.tranSuper .hsmTop)

def stateConnecting : Event EventPtr → Prog (World C F) Exn (Reply ControllerState)
  | .evEntry => do
      connect platform
      pure .handled
  | .evInit => pure .handled
  | .evExit => pure .handled
  | .evEmpty => pure (.tranSuper .hsmTop)
  | .signal ev =>
      match ev.sig with
      | .evCameraConnectionError => pure (.transition .stateError)
      | .evCameraGenericError => do
          let _ ← castError ev
          pure .handled
      | .evCameraConnected => do
          setConfig platform
          readStatus platform
          readOptions platform
          pure (.transition .stateConnected)
      | _ => pure (.tranSuper .hsmTop)

def stateError : Event EventPtr → Prog (World C F) Exn (Reply ControllerState)
  | .evEntry => do
      disconnect platform
      pure .handled
  | .evInit => pure .handled
  | .evExit => pure .handled
  | .evEmpty => pure (.tranSuper .hsmTop)
  | .signal ev =>
      match ev.sig with
      | .evCameraConnect => pure (.transition .stateConnecting)
      | _ => pure (.tranSuper .hsmTop)

def stateConnected : Event EventPtr → Prog (World C F) Exn (Reply ControllerState)
  | .evEntry => do
      Prog.modify (fun world => { world with reconnectAttempts := maxReconnectAttemps })
      pure .handled
  | .evInit => pure (.transition .stateIdle)
  | .evExit => pure .handled
  | .evEmpty => pure (.tranSuper .hsmTop)
  | .signal ev =>
      match ev.sig with
      | .evCameraGenericError => do
          let errorcode ← castError ev
          if criticalError errorcode then pure (.transition .stateError) else pure .handled
      | .evCameraSetConfig => do deferEvent ev; pure .handled
      | .evCameraGetStatus => do deferEvent ev; pure .handled
      | .evCameraGetOptions => do deferEvent ev; pure .handled
      | .evCameraCaptureWired => do deferEvent ev; pure .handled
      | .evCameraDownload => do deferEvent ev; pure .handled
      | _ => pure (.tranSuper .hsmTop)

def stateIdle : Event EventPtr → Prog (World C F) Exn (Reply ControllerState)
  | .evEntry => do
      if !(← onCamera (isResponsive platform)) then pure (.transition .stateError)
      else
        readStatus platform
        let world ← Prog.get
        flushDeferred platform world.deferredEvents.contents world.deferredEvents.count
        pure .handled
  | .evInit => pure .handled
  | .evExit => pure .handled
  | .evEmpty => pure (.tranSuper .stateConnected)
  | .signal ev =>
      match ev.sig with
      | .evCameraSetConfig => do
          execute ev
          let config ← castConfig ev
          Prog.modify (fun world => { world with cameraConfig := config })
          setConfig platform
          readStatus platform
          pure .handled
      | .evCameraGetStatus => do
          execute ev
          readStatus platform
          pure .handled
      | .evCameraGetOptions => do
          execute ev
          readOptions platform
          pure .handled
      | .evCameraCaptureWired => do
          execute ev
          pure (.transition .stateCaptureWired)
      | .evCameraDownload => do
          execute ev
          let cameraPath ← castDownload ev
          Prog.modify (fun world => { world with toDownload := cameraPath })
          pure (.transition .stateDownloading)
      | .evCameraDisconnect => pure (.transition .stateDisconnected)
      | _ => pure (.tranSuper .stateConnected)

def stateCaptureWired : Event EventPtr → Prog (World C F) Exn (Reply ControllerState)
  | .evEntry => do
      if !(← onCamera (isResponsive platform)) then pure (.transition .stateError)
      else
        captureWired platform
        pure .handled
  | .evInit => pure .handled
  | .evExit => pure .handled
  | .evEmpty => pure (.tranSuper .stateConnected)
  | .signal ev =>
      match ev.sig with
      | .evCameraCaptureError => pure (.transition .stateError)
      | .evCameraCaptureSuccess => do
          let _ ← castCaptureSuccess ev
          pure (.transition .stateIdle)
      | _ => pure (.tranSuper .stateConnected)

def stateDownloading : Event EventPtr → Prog (World C F) Exn (Reply ControllerState)
  | .evEntry => do
      if !(← onCamera (isResponsive platform)) then pure (.transition .stateError)
      else
        download platform
        pure .handled
  | .evInit => pure .handled
  | .evExit => pure .handled
  | .evEmpty => pure (.tranSuper .stateConnected)
  | .signal ev =>
      match ev.sig with
      | .evCameraDownloadError => pure (.transition .stateIdle)
      | .evCameraDownloadSuccess => pure (.transition .stateIdle)
      | _ => pure (.tranSuper .stateConnected)

def machine : HsmClass ControllerState (World C F) EventPtr Exn where
  hsmTop := .hsmTop
  handler := fun state =>
    match state with
    | .hsmTop => fun _ => pure .ignored
    | .stateInit => stateInit
    | .stateDisconnected => stateDisconnected
    | .stateConnecting => stateConnecting platform
    | .stateError => stateError platform
    | .stateConnected => stateConnected
    | .stateIdle => stateIdle platform
    | .stateCaptureWired => stateCaptureWired platform
    | .stateDownloading => stateDownloading platform

end Handlers

end Controller

end CameraController
