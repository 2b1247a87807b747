import CameraController.CameraWidget
import CameraController.StringConversion

set_option autoImplicit false

namespace CameraController

open Effects CameraWidget CameraStringConversion

def configSerialNumber : String := "serialnumber"
def configExposureTime : String := "shutterspeed"
def configAperture : String := "f-number"
def configIso : String := "iso"
def configTriggerMode : String := "capturemode"
def configBatteryLevel : String := "batterylevel"
def configExposureProgram : String := "expprogram"
def configBurstCount : String := "burstnumber"
def configFocalLenght : String := "focallength"

namespace CameraWrapper

variable {C F A : Type} (platform : Platform C F)

def update (f : CameraWrapper → CameraWrapper) : Prog (Camera C F) Exn Unit :=
  Prog.modify (fun camera => { camera with wrapper := f camera.wrapper })

-- A numeric conversion outside any try block of the wrapper.
def parsed (result : Except NumericError A) : Prog (Camera C F) Exn A :=
  match result with
  | .ok value => pure value
  | .error error => Prog.throw (.numeric error)

section Families

def readWidget (configName : String) (convert : String → Except NumericError A) : Prog (Camera C F) Exn A :=
  cameraWidgetString platform configName fun widget => do
    let value ← getValue platform widget
    parsed (convert value)

def writeWidget (configName value : String) : Prog (Camera C F) Exn Unit :=
  cameraWidgetString platform configName fun widget => do
    setValue platform widget value
    apply platform widget

def convertAll (convert : String → Except NumericError A) : List String → List A → Prog (Camera C F) Exn (List A)
  | [], out => pure out
  | c :: choices, out => do
      let value ← parsed (convert c)
      convertAll convert choices (out ++ [value])

def listWidget (configName : String) (convert : String → Except NumericError A) : Prog (Camera C F) Exn (List A) :=
  cameraWidgetString platform configName fun widget => do
    let choices ← getAvailableValues platform widget
    convertAll convert choices []

end Families

def getSerialNumber : Prog (Camera C F) Exn String := readWidget platform configSerialNumber .ok

def getExposureTime : Prog (Camera C F) Exn Int :=
  readWidget platform configExposureTime (fun value => .ok (shutterSpeedToInt platform value))

def setExposureTime (exposureTime : Int) : Prog (Camera C F) Exn Unit :=
  writeWidget platform configExposureTime (shutterSpeedToString platform exposureTime)

def listExposureTimes : Prog (Camera C F) Exn (List Int) :=
  listWidget platform configExposureTime (fun c => .ok (shutterSpeedToInt platform c))

def getAperture : Prog (Camera C F) Exn Int :=
  readWidget platform configAperture (fun value => .ok (apertureToInt platform value))

def setAperture (aperture : Int) : Prog (Camera C F) Exn Unit :=
  writeWidget platform configAperture (apertureToString platform aperture)

def listApertures : Prog (Camera C F) Exn (List Int) :=
  listWidget platform configAperture (fun c => .ok (apertureToInt platform c))

def getISO : Prog (Camera C F) Exn Int := readWidget platform configIso stoi

def setISO (iso : Int) : Prog (Camera C F) Exn Unit := writeWidget platform configIso (ToString.toString iso)

def listISOs : Prog (Camera C F) Exn (List Int) := listWidget platform configIso stoi

def getBatteryPercent : Prog (Camera C F) Exn Int :=
  readWidget platform configBatteryLevel (fun value => .ok (batteryLevelToInt value))

def getExposureProgram : Prog (Camera C F) Exn String := readWidget platform configExposureProgram .ok

def getTriggerMode : Prog (Camera C F) Exn String := readWidget platform configTriggerMode .ok

def getFocalLength : Prog (Camera C F) Exn Int :=
  cameraWidgetRange platform configFocalLenght fun widget => do
    let value ← getRangeValue platform widget
    pure (platform.toInt value)

def setTriggerMode (mode : String) : Prog (Camera C F) Exn Unit := writeWidget platform configTriggerMode mode

def listTriggerModes : Prog (Camera C F) Exn (List String) := listWidget platform configTriggerMode .ok

def getBurstCount : Prog (Camera C F) Exn Int := readWidget platform configBurstCount stoi

def setBurstCount (burst : Int) : Prog (Camera C F) Exn Unit :=
  writeWidget platform configBurstCount (ToString.toString burst)

-- choices[choices.size() - 1] is out of bounds when there is no choice.
def getMaxBurstCount : Prog (Camera C F) Exn Int :=
  cameraWidgetString platform configBurstCount fun widget => do
    let choices ← getAvailableValues platform widget
    match choices.getLast? with
    | some last => parsed (stoi last)
    | none => Prog.fault .outOfBounds

def wiredCapture : Prog (Camera C F) Exn CameraPath := do
  let (result, path) ← call platform (.gpCameraCapture (← cameraPtr))
  if result = gpOk then pure path else Prog.throw (.gPhotoError result)

section Paths

variable {W : Type}

-- strcpy(path.name, source.c_str()) into an array of this size, which has to
-- hold the terminating NUL as well.
def strcpy (capacity : Nat) (source : String) : Prog W Exn String :=
  if (cString source).utf8ByteSize < capacity then pure (cString source) else Prog.fault .overflow

def toCameraFilePath (path : CameraPath) : Prog W Exn CameraFilePath := do
  let name ← strcpy platform.nameCapacity path.name
  let folder ← strcpy platform.folderCapacity path.folder
  pure { name, folder }

end Paths

def openError (destFilePath : String) : Exn := .filesystemError "Cannot open file" destFilePath

-- The statements before out: with f open and fd valid. The flag that the
-- second jump tests is whether gp_file_new_from_fd succeeded.
def transfer (path : CameraFilePath) (fd : Int) : Prog (Camera C F) Exn (Int × Bool) := do
  let result ← call platform (.gpFileNewFromFd fd)
  if result ≠ gpOk then pure (result, false)
  else
    let result ← call platform (.gpCameraFileGet (← cameraPtr) path.folder path.name)
    pure (result, true)

def downloadFile (path : CameraFilePath) (destFilePath : String) : Prog (Camera C F) Exn Unit := do
  let opened ← call platform (.fopen (cString destFilePath))
  if !opened then Prog.throw (openError destFilePath)
  else
    let fd ← call platform .fileno
    if fd < 0 then
      let _ ← call platform .fclose
      Prog.throw (openError destFilePath)
    else
      let (result, gpFileCreated) ← transfer platform path fd
      let _ ← call platform .fclose
      if gpFileCreated then
        let _ ← call platform .gpFileFree
      if result ≠ gpOk then Prog.throw (.gPhotoError result) else pure ()

def freeCamera : Prog (Camera C F) Exn Unit := do
  match ← cameraPtr with
  | none => pure ()
  | some camera =>
      let _ ← call platform (.gpCameraExit (some camera))
      let _ ← call platform (.gpCameraFree (some camera))
      update (fun wrapper => { wrapper with camera := none })

-- On GP_OK gp_camera_new stores a fresh handle in camera; otherwise camera
-- keeps its value.
def newCamera : Prog (Camera C F) Exn Int := do
  let before ← Prog.get
  let result ← call platform .gpCameraNew
  if result = gpOk then
    update (fun wrapper => { wrapper with camera := some before.gp.created })
    pure result
  else pure result

def connect : Prog (Camera C F) Exn String := do
  let before ← Prog.get
  if !before.wrapper.connected then
    let result ← newCamera platform
    if result ≠ gpOk then Prog.throw (.gPhotoError result)
    else
      let result ← call platform (.gpCameraInit (← cameraPtr))
      if result = gpOk then
        let serial ← getSerialNumber platform
        update (fun wrapper => { wrapper with serial := serial })
        update (fun wrapper => { wrapper with connected := true })
        pure serial
      else
        let _ ← call platform (.gpCameraFree (← cameraPtr))
        Prog.throw (.gPhotoError result)
  else pure before.wrapper.serial

def disconnect : Prog (Camera C F) Exn Bool := do
  let before ← Prog.get
  if before.wrapper.connected then
    freeCamera platform
    update (fun wrapper => { wrapper with connected := false })
    pure true
  else pure false

def isConnected (camera : Camera C F) : Bool := camera.wrapper.connected

-- GPhotoError and WidgetReadOnlyError derive from CameraException.
def cameraException : Exn → Bool
  | .gPhotoError _ => true
  | .widgetReadOnlyError _ => true
  | _ => false

def isResponsive : Prog (Camera C F) Exn Bool :=
  Prog.tryCatch
    (do
      let before ← Prog.get
      if before.wrapper.connected then
        let serial ← getSerialNumber platform
        pure (serial == before.wrapper.serial)
      else pure false)
    (fun e => if cameraException e then some (pure false) else none)

def destroy : Prog (Camera C F) Exn Unit := freeCamera platform

end CameraWrapper

end CameraController
