import CameraController.ControllerConnection
import CameraController.ControllerDownload
import CameraController.ControllerExceptions
import CameraController.Lib.Turns
import CameraController.WrapperFaults

set_option autoImplicit false

namespace CameraController

open Effects CameraWidget CameraWrapper

-- The array of a string literal, with the zero at its end.
def literal (text : String) : List Char := text.toList ++ ['\u0000']

-- The std::string made from a pointer into a literal. It reads up to the zero,
-- so there is none when the pointer leaves the array.
def fromLiteral (text : String) (offset : Int) : Option String :=
  if 0 ≤ offset ∧ offset < (literal text).length then
    some (String.ofList (((literal text).drop offset.toNat).takeWhile (fun c => c != '\u0000')))
  else none

-- What GPhotoError hands to CameraException: "GPhoto returned error code" + gphoto_error.
def gPhotoErrorWhat (gphotoError : Int) : Option String := fromLiteral "GPhoto returned error code" gphotoError

def literalHolds (code : Int) : Prop := 0 ≤ code ∧ code ≤ 26

theorem what_defined_iff (code : Int) : (gPhotoErrorWhat code).isSome = true ↔ literalHolds code := by
  have length : (literal "GPhoto returned error code").length = 27 := by decide
  rw [gPhotoErrorWhat, fromLiteral, length, literalHolds]
  split <;> simp <;> omega

example : gPhotoErrorWhat 7 = some "returned error code" := by decide

namespace Controller

section Recounting

variable {C F A B : Type} (platform : Platform C F)

-- The program meets the faults of a script, posts its events and ends as it says.
def Recounts (script : List (String × Int) → List EventPtr → Except Exn A → Prop) (p : Prog (World C F) Exn A)
    (world : World C F) : Prop :=
  ∃ after calls posts ending, script (faults calls) (posts.map Prod.fst) ending ∧
    after.camera.gp.log = world.camera.gp.log ++ calls ∧ after.published = world.published ++ posts ∧
    p world = concluded after ending

theorem raised_other (name : String) (error : Exn) (other : ¬ gphotoError error) :
    raised name (.error error : Except Exn A) = [] := by
  cases error with
  | gPhotoError code => exact absurd (gphoto_error code) other
  | _ => rfl

theorem catch_other (body : Prog (World C F) Exn A) (clause : Int → Prog (World C F) Exn A) (world after : World C F)
    (error : Exn) (other : ¬ gphotoError error) (run : body world = .threw error after) :
    catchGPhotoError body clause world = .threw error after := by
  rw [catchGPhotoError, Prog.tryCatch, run]
  cases error with
  | gPhotoError code => exact absurd (gphoto_error code) other
  | _ => rfl

variable (script : List (String × Int) → List EventPtr → Except Exn A → Prop) (world : World C F)

theorem recounts_camera (p : Prog (Camera C F) Exn B) (next : B → Prog (World C F) Exn A) (named : String → Prop)
    (told : Logs (Raises named) p world.camera) (bad : ∀ name code, named name → script [(name, code)] [] (.error (.gPhotoError code)))
    (other : ∀ error, ¬ gphotoError error → script [] [] (.error error))
    (rest : ∀ value after, Recounts script (next value) after) : Recounts script (onCamera p >>= next) world := by
  obtain ⟨camera, calls, ending, ⟨name, holds, found⟩, logged, run⟩ := told
  have zoomed : onCamera p world = concluded { world with camera := camera } ending := by
    simp only [onCamera, Prog.zoom, run]
    cases ending <;> rfl
  cases ending with
  | ok value =>
      obtain ⟨after, more, posts, ending, fits, extended, published, ends⟩ := rest value { world with camera := camera }
      refine ⟨after, calls ++ more, posts, ending, ?_, ?_, published, ?_⟩
      · rw [faults_append, found]
        exact fits
      · rw [extended, logged, List.append_assoc]
      · rw [Prog.bind_ok _ _ _ _ _ zoomed]
        exact ends
  | error error =>
      refine ⟨{ world with camera := camera }, calls, [], .error error, ?_, logged, (List.append_nil _).symm,
        Prog.bind_threw _ _ _ _ _ zoomed⟩
      rw [found]
      by_cases gphoto : gphotoError error
      · obtain ⟨code, rfl⟩ := gphoto
        exact bad name code holds
      · rw [raised_other name error gphoto]
        exact other error gphoto

theorem recounts_post (sig : CcEvent) (payload : Payload) (topic : CcTopic) (next : Unit → Prog (World C F) Exn A)
    (rest : ∀ id after, Recounts (fun found events ending => script found (⟨id, sig, payload⟩ :: events) ending) (next ()) after) :
    Recounts script (postNew platform sig payload topic >>= next) world := by
  have posted := post_new_emitted platform sig payload topic world
  have published := emitted_published platform sig payload topic world
  have untouched := emitted_untouched platform sig payload topic world
  obtain ⟨after, calls, posts, ending, fits, logged, more, ends⟩ := rest world.nextId (emitted platform sig payload topic world)
  refine ⟨after, calls, (⟨world.nextId, sig, payload⟩, topic) :: posts, ending, fits, ?_, ?_, ?_⟩
  · rw [logged, untouched.2]
  · rw [more, published, List.append_assoc]
    rfl
  · rw [Prog.bind_ok _ _ _ _ _ posted]
    exact ends

theorem recounts_pure (value : A) (fits : script [] [] (.ok value)) : Recounts script (pure value) world :=
  ⟨world, [], [], .ok value, fits, (List.append_nil _).symm, (List.append_nil _).symm, rfl⟩

theorem recounts_last (sig : CcEvent) (payload : Payload) (topic : CcTopic)
    (script : List (String × Int) → List EventPtr → Except Exn Unit → Prop)
    (fits : ∀ id, script [] [⟨id, sig, payload⟩] (.ok ())) : Recounts script (postNew platform sig payload topic) world := by
  have last : (postNew platform sig payload topic >>= fun _ => pure ()) = postNew platform sig payload topic := bind_pure _
  rw [← last]
  apply recounts_post
  exact fun id after => recounts_pure _ after () (fits id)

theorem recounts_catch (inner outer : List (String × Int) → List EventPtr → Except Exn Unit → Prop)
    (body : Prog (World C F) Exn Unit) (sig : CcEvent) (told : Recounts inner body world)
    (fine : ∀ found events, inner found events (.ok ()) → outer found events (.ok ()))
    (caught : ∀ found events code id, inner found events (.error (.gPhotoError code)) →
      outer found (events ++ [⟨id, sig, .cameraErrorEvent code⟩]) (.ok ()))
    (uncaught : ∀ found events error, inner found events (.error error) → outer found events (.error error)) :
    Recounts outer (catchGPhotoError body fun error =>
      postNew platform sig (.cameraErrorEvent error) .topicCameraEvent) world := by
  obtain ⟨after, calls, posts, ending, fits, logged, published, run⟩ := told
  cases ending with
  | ok value =>
      refine ⟨after, calls, posts, .ok value, fine _ _ fits, logged, published, ?_⟩
      rw [catchGPhotoError, Prog.tryCatch, run]
      rfl
  | error error =>
      by_cases gphoto : gphotoError error
      · obtain ⟨code, rfl⟩ := gphoto
        have posted := post_new_emitted platform sig (.cameraErrorEvent code) .topicCameraEvent after
        refine ⟨emitted platform sig (.cameraErrorEvent code) .topicCameraEvent after, calls,
          posts ++ [(⟨after.nextId, sig, .cameraErrorEvent code⟩, .topicCameraEvent)], .ok (), ?_, ?_, ?_, ?_⟩
        · rw [List.map_append]
          exact caught _ _ code after.nextId fits
        · rw [(emitted_untouched platform _ _ _ after).2, logged]
        · rw [emitted_published, published, List.append_assoc]
        · rw [catchGPhotoError, Prog.tryCatch, run]
          exact posted
      · exact ⟨after, calls, posts, .error error, uncaught _ _ error fits, logged, published,
          catch_other body _ world after error gphoto run⟩

end Recounting

section Reporting

variable {C F A : Type} (platform : Platform C F)

def SingleReport (success failure : CcEvent) (found : List (String × Int)) (events : List EventPtr) : Prop :=
  (found = [] ∧ ∃ ev : EventPtr, ev.sig = success ∧ ev.Typed ∧ events = [ev]) ∨
    ∃ id name code, found = [(name, code)] ∧ events = [⟨id, failure, .cameraErrorEvent code⟩]

def returning (script : List (String × Int) → List EventPtr → Prop) (found : List (String × Int)) (events : List EventPtr) :
    Except Exn Unit → Prop
  | .ok _ => script found events
  | .error _ => True

def throwing (script : List (String × Int) → List EventPtr → Prop)
    (failed : List (String × Int) → List EventPtr → Int → Prop) (found : List (String × Int)) (events : List EventPtr) :
    Except Exn Unit → Prop
  | .ok _ => script found events
  | .error (.gPhotoError code) => failed found events code
  | .error _ => True

theorem throwing_other (script : List (String × Int) → List EventPtr → Prop)
    (failed : List (String × Int) → List EventPtr → Int → Prop) (error : Exn) (other : ¬ gphotoError error)
    (found : List (String × Int)) (events : List EventPtr) : throwing script failed found events (.error error) := by
  cases error with
  | gPhotoError code => exact absurd (gphoto_error code) other
  | _ => trivial

theorem block_reports (p : Prog (Camera C F) Exn A) (success failure : CcEvent) (payload : A → Payload) (topic : CcTopic)
    (typed : ∀ value, (payload value).eventClass = success.eventClass) (world : World C F)
    (told : Logs (Raises (fun _ => True)) p world.camera) :
    Recounts (returning (SingleReport success failure))
      (catchGPhotoError
        (do
          let value ← onCamera p
          postNew platform success (payload value) topic)
        (fun error => postNew platform failure (.cameraErrorEvent error) .topicCameraEvent)) world := by
  apply recounts_catch platform world (throwing (SingleReport success failure)
    (fun found events code => events = [] ∧ ∃ name, found = [(name, code)]))
  · apply recounts_camera _ world p _ _ told
    · exact fun name code _ => ⟨rfl, name, rfl⟩
    · exact fun error other => throwing_other _ _ error other _ _
    · intro value after
      apply recounts_last
      exact fun id => .inl ⟨rfl, ⟨id, success, payload value⟩, rfl, typed value, rfl⟩
  · exact fun found events fits => fits
  · rintro found events code id ⟨rfl, name, same⟩
    exact .inr ⟨id, name, code, same, rfl⟩
  · exact fun found events error fits => trivial

def configReads : List String := [configExposureTime, configAperture, configIso, configTriggerMode]

def statusReads : List String := [configBatteryLevel, configExposureProgram, configFocalLenght]

-- What readStatus() posts: both values, the configuration and the error of a
-- later read, or the error of one of the first four.
inductive StatusReport : List (String × Int) → List EventPtr → Prop where
  | complete (first second : Nat) (config : CameraConfig) (status : CameraStatus) :
      StatusReport [] [⟨first, .evCameraValConfig, .cameraConfigEvent config⟩,
        ⟨second, .evCameraValStatus, .cameraStatusEvent status⟩]
  | half (first second : Nat) (config : CameraConfig) (name : String) (code : Int) (late : name ∈ statusReads) :
      StatusReport [(name, code)] [⟨first, .evCameraValConfig, .cameraConfigEvent config⟩,
        ⟨second, .evCameraGenericError, .cameraErrorEvent code⟩]
  | failed (id : Nat) (name : String) (code : Int) (early : name ∈ configReads) :
      StatusReport [(name, code)] [⟨id, .evCameraGenericError, .cameraErrorEvent code⟩]

def statusFailed (found : List (String × Int)) (events : List EventPtr) (code : Int) : Prop :=
  ∃ name, found = [(name, code)] ∧ ((name ∈ configReads ∧ events = []) ∨
    name ∈ statusReads ∧ ∃ id config, events = [⟨id, .evCameraValConfig, .cameraConfigEvent config⟩])

theorem config_read (getter : Prog (Camera C F) Exn A) (next : A → Prog (World C F) Exn Unit) (world : World C F)
    (told : Logs (Raises (fun name => name ∈ configReads)) getter world.camera)
    (rest : ∀ value after, Recounts (throwing StatusReport statusFailed) (next value) after) :
    Recounts (throwing StatusReport statusFailed) (onCamera getter >>= next) world := by
  apply recounts_camera _ world getter next _ told _ _ rest
  · exact fun name code early => ⟨name, rfl, .inl ⟨early, rfl⟩⟩
  · exact fun error other => throwing_other _ _ error other _ _

theorem status_read (id : Nat) (config : CameraConfig) (getter : Prog (Camera C F) Exn A)
    (next : A → Prog (World C F) Exn Unit) (world : World C F)
    (told : Logs (Raises (fun name => name ∈ statusReads)) getter world.camera)
    (rest : ∀ value after, Recounts (fun found events =>
      throwing StatusReport statusFailed found (⟨id, .evCameraValConfig, .cameraConfigEvent config⟩ :: events)) (next value) after) :
    Recounts (fun found events =>
      throwing StatusReport statusFailed found (⟨id, .evCameraValConfig, .cameraConfigEvent config⟩ :: events))
      (onCamera getter >>= next) world := by
  apply recounts_camera _ world getter next _ told _ _ rest
  · exact fun name code late => ⟨name, rfl, .inr ⟨late, id, config, rfl⟩⟩
  · exact fun error other => throwing_other _ _ error other _ _

theorem read_status_reports (world : World C F) : Recounts (returning StatusReport) (readStatus platform) world := by
  have reads : ∀ (named : String → Prop) (name : String), named name → widgetFits name = isString → ∀ (B : Type)
      (convert : String → Except NumericError B) (camera : Camera C F),
      Logs (Raises named) (readWidget platform name convert) camera :=
    fun named name holds text _ convert camera =>
      tells_raises named name _ camera holds (read_widget_faults platform name convert camera text)
  apply recounts_catch platform world (throwing StatusReport statusFailed)
  · apply config_read _ _ _ (reads _ configExposureTime (by decide) (if_neg (by decide)) _ _ _)
    intro shutterSpeed timed
    apply config_read _ _ _ (reads _ configAperture (by decide) (if_neg (by decide)) _ _ _)
    intro aperture opened
    apply config_read _ _ _ (reads _ configIso (by decide) (if_neg (by decide)) _ _ _)
    intro iso sensed
    apply config_read _ _ _ (reads _ configTriggerMode (by decide) (if_neg (by decide)) _ _ _)
    intro triggerMode triggered
    apply recounts_post
    intro first posted
    apply status_read first _ _ _ _ (reads _ configBatteryLevel (by decide) (if_neg (by decide)) _ _ _)
    intro battery charged
    apply status_read first _ _ _ _ (reads _ configExposureProgram (by decide) (if_neg (by decide)) _ _ _)
    intro exposureProgram set
    apply status_read first _ _ _ _ (tells_raises _ configFocalLenght _ _ (by decide) (get_focal_length_faults platform _))
    intro focalLength focused
    apply recounts_last
    exact fun second => .complete first second _ _
  · exact fun found events fits => fits
  · rintro found events code id ⟨name, rfl, either⟩
    cases either with
    | inl early =>
        obtain ⟨early, rfl⟩ := early
        exact .failed id name code early
    | inr late =>
        obtain ⟨late, first, config, rfl⟩ := late
        exact .half first id config name code late
  · exact fun found events error fits => trivial

theorem connect_reports (world : World C F) : Recounts (returning (SingleReport .evCameraConnected .evCameraConnectionError))
    (connect platform) world :=
  block_reports platform (CameraWrapper.connect platform) .evCameraConnected .evCameraConnectionError .cameraConnectedEvent
    .topicCameraEvent (fun _ => rfl) world (connect_faults platform world.camera)

theorem capture_wired_reports (world : World C F) :
    Recounts (returning (SingleReport .evCameraCaptureSuccess .evCameraCaptureError)) (captureWired platform) world :=
  block_reports platform (wiredCapture platform) .evCameraCaptureSuccess .evCameraCaptureError .cameraCaptureSuccessEvent
    .topicCameraEvent (fun _ => rfl) world (tells_raises _ "" _ _ trivial (wired_capture_faults platform world.camera))

inductive OptionList where
  | shutterSpeed
  | aperture
  | iso
  | triggerMode
deriving DecidableEq, Repr

def OptionList.inOrder : List OptionList := [.shutterSpeed, .aperture, .iso, .triggerMode]

def OptionList.sig : OptionList → CcEvent
  | .shutterSpeed => .evCameraOptionsShutterSpeed
  | .aperture => .evCameraOptionsAperture
  | .iso => .evCameraOptionsIso
  | .triggerMode => .evCameraOptionsTriggerMode

def postList (list : OptionList) : Prog (World C F) Exn Unit :=
  match list with
  | .shutterSpeed => postOptions platform list.sig (listExposureTimes platform) .cameraOptionListEventInt
  | .aperture => postOptions platform list.sig (listApertures platform) .cameraOptionListEventInt
  | .iso => postOptions platform list.sig (listISOs platform) .cameraOptionListEventInt
  | .triggerMode => postOptions platform list.sig (listTriggerModes platform) .cameraOptionListEventString

theorem read_options_each : readOptions platform = Prog.each (postList platform) OptionList.inOrder := by
  have last : ∀ p : Prog (World C F) Exn Unit, (p >>= fun _ => pure ()) = p := bind_pure
  simp only [OptionList.inOrder, Prog.each, last]
  rfl

theorem post_list_reports (list : OptionList) (world : World C F) :
    Recounts (returning (SingleReport list.sig .evCameraGenericError)) (postList platform list) world := by
  have lists : ∀ (name : String), widgetFits name = isString → ∀ (B : Type) (convert : String → Except NumericError B),
      Logs (Raises (fun _ => True)) (listWidget platform name convert) world.camera :=
    fun name text _ convert => tells_raises _ name _ _ trivial (list_widget_faults platform name convert world.camera text)
  cases list with
  | shutterSpeed => exact block_reports platform _ _ _ _ _ (fun _ => rfl) world (lists configExposureTime (if_neg (by decide)) _ _)
  | aperture => exact block_reports platform _ _ _ _ _ (fun _ => rfl) world (lists configAperture (if_neg (by decide)) _ _)
  | iso => exact block_reports platform _ _ _ _ _ (fun _ => rfl) world (lists configIso (if_neg (by decide)) _ _)
  | triggerMode => exact block_reports platform _ _ _ _ _ (fun _ => rfl) world (lists configTriggerMode (if_neg (by decide)) _ _)

theorem recounts_returned (script : List (String × Int) → List EventPtr → Prop) (p : Prog (World C F) Exn Unit)
    (world after : World C F) (recounts : Recounts (returning script) p world) (run : p world = .ok () after) :
    script (faults (answersSince world.camera after.camera)) (announced world after) := by
  obtain ⟨last, calls, posts, ending, fits, logged, published, ends⟩ := recounts
  rw [run] at ends
  cases ending with
  | error error => cases ends
  | ok value =>
      cases ends
      rw [since_logged world.camera after.camera calls logged, announced_published world after posts published]
      exact fits

inductive Reporter where
  | connect
  | captureWired
  | readStatus
  | readOptions
deriving DecidableEq, Repr

def runReporter : Reporter → Prog (World C F) Exn Unit
  | .connect => connect platform
  | .captureWired => captureWired platform
  | .readStatus => readStatus platform
  | .readOptions => readOptions platform

-- What a function posts, by the faults that the camera answered with. Every
-- list of readOptions() has its own faults and its own event.
def Reports (reporter : Reporter) (world after : World C F) : Prop :=
  let found := faults (answersSince world.camera after.camera)
  match reporter with
  | .connect => SingleReport .evCameraConnected .evCameraConnectionError found (announced world after)
  | .captureWired => SingleReport .evCameraCaptureSuccess .evCameraCaptureError found (announced world after)
  | .readStatus => StatusReport found (announced world after)
  | .readOptions => ∀ list, ∃ before last, Prog.Turn (postList platform) OptionList.inOrder world list before last ∧
      SingleReport list.sig .evCameraGenericError (faults (answersSince before.camera last.camera)) (announced before last)

-- The function returns, what it posts is right, and every GPhotoError on the way
-- has been constructed from inside its literal.
def CodesIntact (reporter : Reporter) (world : World C F) : Prop :=
  ∃ after, runReporter platform reporter world = .ok () after ∧ Reports platform reporter world after ∧
    ∀ name code, (name, code) ∈ faults (answersSince world.camera after.camera) → (gPhotoErrorWhat code).isSome = true

theorem reporter_reports (reporter : Reporter) (world after : World C F) (run : runReporter platform reporter world = .ok () after) :
    Reports platform reporter world after := by
  cases reporter with
  | connect => exact recounts_returned _ _ world after (connect_reports platform world) run
  | captureWired => exact recounts_returned _ _ world after (capture_wired_reports platform world) run
  | readStatus => exact recounts_returned _ _ world after (read_status_reports platform world) run
  | readOptions =>
      intro list
      have each : Prog.each (postList platform) OptionList.inOrder world = .ok () after := by
        rw [← read_options_each]
        exact run
      have listed : list ∈ OptionList.inOrder := by
        cases list <;> simp [OptionList.inOrder]
      obtain ⟨before, last, turn⟩ := Prog.each_turns _ _ _ _ each list listed
      exact ⟨before, last, turn, recounts_returned _ _ before last (post_list_reports platform list before)
        (Prog.turn_ran _ _ _ _ _ _ turn)⟩

theorem reporter_escapes (reporter : Reporter) : Escapes uncaught False (runReporter (C := C) platform reporter) := by
  cases reporter with
  | connect => exact Prog.blames_loud heard escaping uncaught False _ (connect_controller_escapes platform)
  | captureWired => exact Prog.blames_loud heard escaping uncaught False _ (capture_wired_controller_escapes platform)
  | readStatus => exact Prog.blames_loud heard escaping uncaught False _ (read_status_escapes platform)
  | readOptions => exact read_options_escapes platform

end Reporting

def unattached : Platform Nat Unit := attached (fun _ => gpOk) fun c =>
  match c with
  | .gpCameraInit _ => some (-105)
  | _ => none

end Controller

end CameraController
