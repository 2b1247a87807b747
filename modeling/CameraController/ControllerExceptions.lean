import CameraController.ControllerFrame
import CameraController.WrapperExceptions

set_option autoImplicit false

namespace CameraController

open Effects Transition

namespace Controller

section Escapes

variable {C F A : Type} (platform : Platform C F)

def heard (world : World C F) : List (Answer F) := world.camera.gp.log

-- What leaves p is no exception unless the answers of the camera and of the
-- file system are of the kind that nobody catches.
abbrev Escapes (mild : Exn → Prop) (silent : Prop) (p : Prog (World C F) Exn A) : Prop :=
  Prog.Blames heard escaping mild silent p

def uncaught : Exn → Prop := fun _ => False

theorem on_camera_escapes (mild : Exn → Prop) (silent : Prop) (p : Prog (Camera C F) Exn A)
    (accuses : Accuses escaping mild silent p) : Escapes mild silent (onCamera p) :=
  Prog.blames_zoom heard escaping mild _ _ p silent answered (fun _ => rfl) (fun _ _ => rfl) accuses

theorem arrivals_camera (commands : List Command) (world : World C F) :
    (commands.foldl arrive world).camera = world.camera := by
  induction commands generalizing world with
  | nil => rfl
  | cons command commands ih => exact ih (arrive world command)

theorem polled_heard (world : World C F) : heard (polled platform world) = heard world := by
  rw [heard, polled, arrivals_camera]
  rfl

theorem ok_total (convert : String → A) (value : String) (error : NumericError)
    (fails : (Except.ok (convert value) : Except NumericError A) = .error error) : False := nomatch fails

section Posting

variable (mild : Exn → Prop)

theorem modify_escapes (f : World C F → World C F) (unheard : ∀ world, heard (f world) = heard world) :
    Escapes mild True (Prog.modify f) := Prog.blames_modify heard escaping mild True f unheard

theorem poll_escapes : Escapes mild True (poll (F := F) platform) :=
  modify_escapes mild _ (polled_heard platform)

theorem post_new_escapes (sig : CcEvent) (payload : Payload) (topic : CcTopic) :
    Escapes mild True (postNew platform sig payload topic) := by
  have minted : Escapes mild True (getEvPointer (C := C) (F := F) sig payload) := fun world =>
    ⟨[], (List.append_nil _).symm, escaping.harmful_nil, fun _ => escaping.quiet_nil⟩
  apply Prog.blames_quiet heard escaping mild _ _ minted
  intro ev
  apply Prog.blames_quiet heard escaping mild
  · exact modify_escapes mild (fun world => { world with published := world.published ++ [(ev, topic)] }) (fun _ => rfl)
  intro _
  split
  · exact Prog.blames_quiet heard escaping mild _ _ (poll_escapes platform mild)
      (fun _ => modify_escapes mild _ (fun _ => rfl))
  · exact Prog.blames_pure heard escaping mild True ()

end Posting

theorem catch_escapes (silent : Prop) (body : Prog (World C F) Exn A) (clause : Int → Prog (World C F) Exn A)
    (bodyEscapes : Escapes gphotoError silent body) (clauseEscapes : ∀ error, Escapes uncaught True (clause error)) :
    Escapes uncaught silent (catchGPhotoError body clause) := by
  apply Prog.blames_tryCatch heard escaping gphotoError uncaught silent body _ bodyEscapes
  · intro error handler found
    cases error with
    | gPhotoError code =>
        cases found
        exact ⟨gphoto_error code, clauseEscapes code⟩
    | _ => cases found
  · intro error found
    cases error with
    | gPhotoError code => cases found
    | _ => exact ⟨False.elim, fun ⟨_, contrary⟩ => nomatch contrary⟩

theorem connect_controller_escapes : Escapes uncaught True (connect platform) := by
  apply catch_escapes
  · apply Prog.blames_quiet heard escaping gphotoError _ _ (on_camera_escapes _ _ _ (connect_escapes platform))
    intro serial
    exact post_new_escapes platform _ _ _ _
  · exact fun error => post_new_escapes platform _ _ _ _

theorem disconnect_controller_escapes : Escapes uncaught True (disconnect platform) := by
  apply Prog.blames_quiet heard escaping uncaught _ _ (on_camera_escapes _ _ _ (disconnect_escapes platform uncaught))
  intro released
  cases released with
  | true => exact post_new_escapes platform _ _ _ _
  | false => exact Prog.blames_pure heard escaping uncaught True ()

theorem set_option_escapes (requested : CameraConfig → Bool) (setter : CameraConfig → Prog (Camera C F) Exn Unit)
    (setterEscapes : ∀ config, Accuses escaping gphotoError True (setter config)) :
    Escapes uncaught True (setOption platform requested setter) := by
  apply catch_escapes
  · apply Prog.blames_quiet heard escaping gphotoError _ _ (Prog.blames_get heard escaping gphotoError True)
    intro world
    split
    · exact on_camera_escapes _ _ _ (setterEscapes world.cameraConfig)
    · exact Prog.blames_pure heard escaping gphotoError True ()
  · exact fun error => post_new_escapes platform _ _ _ _

theorem set_config_escapes : Escapes uncaught True (setConfig platform) := by
  apply Prog.blames_quiet heard escaping uncaught _ _ (set_option_escapes platform _ _ (fun _ => write_escapes platform _ _))
  intro _
  apply Prog.blames_quiet heard escaping uncaught _ _ (set_option_escapes platform _ _ (fun _ => write_escapes platform _ _))
  intro _
  apply Prog.blames_quiet heard escaping uncaught _ _ (set_option_escapes platform _ _ (fun _ => write_escapes platform _ _))
  intro _
  exact set_option_escapes platform _ _ (fun _ => write_escapes platform _ _)

theorem after_read (getter : Prog (Camera C F) Exn A) (next : A → Prog (World C F) Exn Unit)
    (accuses : Accuses escaping gphotoError True getter) (nextEscapes : ∀ value, Escapes gphotoError True (next value)) :
    Escapes gphotoError True (onCamera getter >>= next) :=
  Prog.blames_quiet heard escaping gphotoError _ _ (on_camera_escapes _ _ _ accuses) nextEscapes

theorem read_status_escapes : Escapes uncaught True (readStatus platform) := by
  apply catch_escapes _ _ _ _ (fun error => post_new_escapes platform _ _ _ _)
  apply after_read _ _ (read_escapes platform configExposureTime (by decide) _ (ok_total _))
  intro shutterSpeed
  apply after_read _ _ (read_escapes platform configAperture (by decide) _ (ok_total _))
  intro aperture
  apply after_read _ _ (get_iso_escapes platform)
  intro iso
  apply after_read _ _ (read_escapes platform configTriggerMode (by decide) _ (ok_total _))
  intro triggerMode
  apply Prog.blames_quiet heard escaping gphotoError _ _ (post_new_escapes platform _ _ _ _)
  intro _
  apply after_read _ _ (read_escapes platform configBatteryLevel (by decide) _ (ok_total _))
  intro battery
  apply after_read _ _ (read_escapes platform configExposureProgram (by decide) _ (ok_total _))
  intro exposureProgram
  apply after_read _ _ (get_focal_length_escapes platform)
  intro focalLength
  exact post_new_escapes platform _ _ _ _

theorem post_options_escapes (silent : Prop) (sig : CcEvent) (options : Prog (Camera C F) Exn (List A)) (payload : List A → Payload)
    (accuses : Accuses escaping gphotoError silent options) : Escapes uncaught silent (postOptions platform sig options payload) := by
  apply catch_escapes _ _ _ _ (fun error => post_new_escapes platform _ _ _ _)
  exact Prog.blames_bind heard escaping gphotoError silent silent True _ _ (.inr trivial) (fun silence => ⟨silence, trivial⟩)
    (on_camera_escapes _ _ _ accuses) (fun listed => post_new_escapes platform _ _ _ _)

theorem read_options_escapes : Escapes uncaught False (readOptions platform) := by
  have other : ∀ configName, configName ≠ configIso → ∀ (B : Type) (convert : String → Except NumericError B),
      (∀ value error, convert value = .error error → False) →
      Accuses escaping gphotoError True (CameraWrapper.listWidget (C := C) platform configName convert) :=
    fun configName different _ convert total => list_escapes platform configName different convert total
  apply Prog.blames_bind heard escaping uncaught False True False _ _ (.inl trivial) False.elim
    (post_options_escapes platform True _ _ _ (other configExposureTime (by decide) _ _ (ok_total _)))
  intro _
  apply Prog.blames_bind heard escaping uncaught False True False _ _ (.inl trivial) False.elim
    (post_options_escapes platform True _ _ _ (other configAperture (by decide) _ _ (ok_total _)))
  intro _
  apply Prog.blames_bind heard escaping uncaught False False True _ _ (.inr trivial) False.elim
    (post_options_escapes platform False _ _ _ (list_isos_escapes platform))
  intro _
  exact post_options_escapes platform True _ _ _ (other configTriggerMode (by decide) _ _ (ok_total _))

theorem capture_wired_controller_escapes : Escapes uncaught True (captureWired platform) := by
  apply catch_escapes
  · apply Prog.blames_quiet heard escaping gphotoError _ _ (on_camera_escapes _ _ _ (wired_capture_escapes platform))
    intro p
    exact post_new_escapes platform _ _ _ _
  · exact fun error => post_new_escapes platform _ _ _ _

theorem download_dir_exists_escapes (dir : String) : Escapes uncaught True (downloadDirExists platform dir) := by
  intro world
  rw [downloadDirExists, Prog.bind_apply, onCamera, Prog.zoom, call_apply]
  obtain ⟨result, outside⟩ := platform.answer (.fsExists dir) world.camera.gp.outside
  obtain ⟨harm, quiet⟩ := escaping_single (F := F) ⟨.fsExists dir, result⟩ rfl
  cases result with
  | some found => exact ⟨[⟨.fsExists dir, some found⟩], rfl, fun harmful => (nomatch (harm.mp harmful)), fun _ => quiet⟩
  | none => exact ⟨[⟨.fsExists dir, none⟩], rfl, ⟨fun _ => id, fun _ => harm.mpr rfl⟩, fun _ => quiet⟩

theorem ensure_download_dir_escapes (dir : String) : Escapes uncaught True (ensureDownloadDir platform dir) := by
  apply Prog.blames_quiet heard escaping uncaught _ _ (download_dir_exists_escapes platform dir)
  intro found
  cases found with
  | true => exact Prog.blames_pure heard escaping uncaught True ()
  | false =>
      apply Prog.blames_quiet heard escaping uncaught
      · exact on_camera_escapes _ _ _ (ignored_call platform escaping uncaught _ (escaping_ignores _ (fun _ => rfl) (fun _ => id)))
      · intro created
        cases created with
        | true => exact Prog.blames_pure heard escaping uncaught True ()
        | false => exact post_new_escapes platform _ _ _ _

theorem download_escapes (world : World C F) (room : CameraWrapper.fits platform world.toDownload = true) :
    Prog.Verdict heard escaping uncaught True (heard world) (download platform world) := by
  rw [download_fits platform world room]
  refine Prog.blames_quiet heard escaping uncaught _ _ (ensure_download_dir_escapes platform world.downloadDir) ?_ world
  intro _
  apply Prog.blames_tryCatch heard escaping copyError uncaught True
  · apply Prog.blames_quiet heard escaping copyError _ _ (on_camera_escapes _ _ _ (download_file_escapes platform _ _))
    intro _
    exact post_new_escapes platform _ _ _ _
  · intro error handler found
    cases error with
    | gPhotoError code =>
        cases found
        exact ⟨.inl (gphoto_error code), post_new_escapes platform _ _ _ _⟩
    | filesystemError what path =>
        cases found
        exact ⟨.inr ⟨what, path, rfl⟩, post_new_escapes platform _ _ _ _⟩
    | _ => cases found
  · intro error found
    refine ⟨False.elim, fun caught => ?_⟩
    cases caught with
    | inl gphoto =>
        obtain ⟨code, rfl⟩ := gphoto
        cases found
    | inr filesystem =>
        obtain ⟨what, path, rfl⟩ := filesystem
        cases found

theorem guarded_escapes (body : Prog (World C F) Exn Unit) (escapes : Escapes uncaught True body) :
    Escapes uncaught True (onCamera (CameraWrapper.isResponsive platform) >>= fun responsive =>
      if !responsive then pure () else body) := by
  apply Prog.blames_quiet heard escaping uncaught
  · exact on_camera_escapes _ _ _ (responsive_escapes platform uncaught (fun _ _ => id))
  · intro responsive
    cases responsive with
    | false => exact Prog.blames_pure heard escaping uncaught True ()
    | true => exact escapes

theorem flush_escapes (begun : List EventPtr) (n : Nat) (world : World C F) (enough : world.deferredEvents.count ≤ n) :
    Prog.Verdict heard escaping uncaught True (heard world) (flushDeferred platform begun n world) := by
  induction n generalizing world with
  | zero =>
      have empty : world.deferredEvents.isEmpty = true := world.deferredEvents.empty_iff.mpr (Nat.le_zero.mp enough)
      rw [flush_empty platform begun 0 world empty]
      exact Prog.blames_pure heard escaping uncaught True () world
  | succ n ih =>
      by_cases empty : world.deferredEvents.isEmpty = true
      · rw [flush_empty platform begun (n + 1) world empty]
        exact Prog.blames_pure heard escaping uncaught True () world
      · obtain ⟨ev, rest, popped, holds⟩ := holds_one world.deferredEvents empty
        rw [flush_turn platform begun n world ev rest empty popped]
        have count : rest.count + 1 = world.deferredEvents.count := by
          rw [← CircularBuffer.contents_length, ← CircularBuffer.contents_length, holds, List.length_cons]
        have same : heard (recalled begun (polled platform world) ev rest) = heard world := polled_heard platform world
        have later : rest.count ≤ n := by omega
        exact same ▸ ih (recalled begun (polled platform world) ev rest) later

theorem refresh_escapes : Escapes uncaught True (refresh platform) := by
  apply Prog.blames_quiet heard escaping uncaught _ _ (read_status_escapes platform)
  intro _ world
  rw [Prog.bind_ok Prog.get _ world world world rfl]
  exact flush_escapes platform _ _ world (Nat.le_refl _)

theorem enter_downloading_escapes (world : World C F) (room : CameraWrapper.fits platform world.toDownload = true) :
    Prog.Verdict heard escaping uncaught True (heard world) (enterDownloading platform world) := by
  apply Prog.verdict_quiet heard escaping uncaught
  · exact on_camera_escapes _ _ _ (responsive_escapes platform uncaught (fun _ _ => id)) world
  · intro responsive after run
    obtain ⟨camera, _, rfl⟩ := Prog.zoom_eq_ok _ _ _ _ _ _ run
    cases responsive with
    | false => exact Prog.blames_pure heard escaping uncaught True () _
    | true => exact download_escapes platform { world with camera := camera } room

theorem enter_escapes (state : ControllerState) (elsewhere : state ≠ .stateDownloading) :
    Escapes uncaught True (enter platform state) := by
  cases state with
  | stateConnecting => exact connect_controller_escapes platform
  | stateError => exact disconnect_controller_escapes platform
  | stateConnected => exact modify_escapes uncaught _ (fun _ => rfl)
  | stateIdle => exact guarded_escapes platform _ (refresh_escapes platform)
  | stateCaptureWired => exact guarded_escapes platform _ (capture_wired_controller_escapes platform)
  | stateDownloading => exact absurd rfl elsewhere
  | hsmTop => exact Prog.blames_pure heard escaping uncaught True ()
  | stateInit => exact Prog.blames_pure heard escaping uncaught True ()
  | stateDisconnected => exact Prog.blames_pure heard escaping uncaught True ()

theorem go_to_escapes (state : ControllerState) (elsewhere : state ≠ .stateDownloading) :
    Escapes uncaught True (goTo platform state) :=
  Prog.blames_quiet heard escaping uncaught _ _ (enter_escapes platform state elsewhere)
    (fun _ => Prog.blames_pure heard escaping uncaught True state)

theorem cast_escapes (cast : EventPtr → Prog (World C F) Exn A) (ev : EventPtr)
    (defined : ∃ value, cast ev = pure value) : Escapes uncaught True (cast ev) := by
  obtain ⟨value, same⟩ := defined
  rw [same]
  exact Prog.blames_pure heard escaping uncaught True value

theorem cast_error_defined (ev : EventPtr) (typed : ev.Typed) (calledFor : ev.sig.eventClass = .cameraErrorEvent) :
    ∃ value, castError (W := World C F) ev = pure value := by
  obtain ⟨id, sig, payload⟩ := ev
  have same : payload.eventClass = .cameraErrorEvent := Eq.trans typed calledFor
  cases payload with
  | cameraErrorEvent errorcode => exact ⟨errorcode, rfl⟩
  | _ => cases same

theorem cast_config_defined (ev : EventPtr) (typed : ev.Typed) (calledFor : ev.sig.eventClass = .cameraConfigEvent) :
    ∃ value, castConfig (W := World C F) ev = pure value := by
  obtain ⟨id, sig, payload⟩ := ev
  have same : payload.eventClass = .cameraConfigEvent := Eq.trans typed calledFor
  cases payload with
  | cameraConfigEvent config => exact ⟨config, rfl⟩
  | _ => cases same

theorem cast_capture_success_defined (ev : EventPtr) (typed : ev.Typed)
    (calledFor : ev.sig.eventClass = .cameraCaptureSuccessEvent) : ∃ value, castCaptureSuccess (W := World C F) ev = pure value := by
  obtain ⟨id, sig, payload⟩ := ev
  have same : payload.eventClass = .cameraCaptureSuccessEvent := Eq.trans typed calledFor
  cases payload with
  | cameraCaptureSuccessEvent path => exact ⟨path, rfl⟩
  | _ => cases same

theorem download_carried (ev : EventPtr) (typed : ev.Typed) (calledFor : ev.sig.eventClass = .cameraDownloadEvent) :
    ∃ path, ev.payload = .cameraDownloadEvent path := by
  obtain ⟨id, sig, payload⟩ := ev
  have same : payload.eventClass = .cameraDownloadEvent := Eq.trans typed calledFor
  cases payload with
  | cameraDownloadEvent cameraPath => exact ⟨cameraPath, rfl⟩
  | _ => cases same

theorem download_named (ev : EventPtr) (typed : ev.Typed) (path : CameraPath) (carried : ev.payload = .cameraDownloadEvent path) :
    ev.sig = .evCameraDownload := by
  obtain ⟨id, sig, payload⟩ := ev
  obtain rfl := carried
  have same : sig.eventClass = .cameraDownloadEvent := typed.symm
  cases sig <;> first | rfl | cases same

def Roomy (ev : EventPtr) : Prop :=
  ∀ path, ev.payload = .cameraDownloadEvent path → CameraWrapper.fits platform path = true

theorem in_connected_escapes (S : ControllerState) (ev : EventPtr) (typed : ev.Typed) :
    Escapes uncaught True (inConnected platform S ev) := by
  have deferred : Escapes uncaught True (do deferEvent ev; pure S : Prog (World C F) Exn ControllerState) :=
    Prog.blames_quiet heard escaping uncaught _ _ (modify_escapes uncaught _ (fun _ => rfl))
      (fun _ => Prog.blames_pure heard escaping uncaught True S)
  unfold inConnected
  split
  · rename_i named
    apply Prog.blames_quiet heard escaping uncaught
    · exact cast_escapes castError ev (cast_error_defined ev typed (by rw [named]; rfl))
    · intro errorcode
      split
      · exact go_to_escapes platform .stateError (by decide)
      · exact Prog.blames_pure heard escaping uncaught True S
  · exact deferred
  · exact deferred
  · exact deferred
  · exact deferred
  · exact deferred
  · exact Prog.blames_pure heard escaping uncaught True S

theorem loud (p : Prog (World C F) Exn A) (escapes : Escapes uncaught True p) : Escapes uncaught False p :=
  Prog.blames_loud heard escaping uncaught False p escapes

theorem execute_escapes (ev : EventPtr) (next : Prog (World C F) Exn A) (silent : Prop) (nextEscapes : Escapes uncaught silent next) :
    Escapes uncaught silent (execute ev >>= fun _ => next) :=
  Prog.blames_bind heard escaping uncaught silent True silent _ _ (.inl trivial) (fun silence => ⟨trivial, silence⟩)
    (modify_escapes uncaught _ (fun _ => rfl)) (fun _ => nextEscapes)

theorem connecting_escapes (ev : EventPtr) (typed : ev.Typed) : Escapes uncaught False (react platform .stateConnecting ev) := by
  rw [react]
  split
  · exact loud _ (go_to_escapes platform .stateError (by decide))
  · rename_i named
    apply loud
    apply Prog.blames_quiet heard escaping uncaught
    · exact cast_escapes castError ev (cast_error_defined ev typed (by rw [named]; rfl))
    · exact fun _ => Prog.blames_pure heard escaping uncaught True _
  · apply Prog.blames_bind heard escaping uncaught False True False _ _ (.inl trivial) False.elim (set_config_escapes platform)
    intro _
    apply Prog.blames_bind heard escaping uncaught False True False _ _ (.inl trivial) False.elim (read_status_escapes platform)
    intro _
    apply Prog.blames_bind heard escaping uncaught False False True _ _ (.inr trivial) False.elim (read_options_escapes platform)
    intro _
    exact Prog.blames_quiet heard escaping uncaught _ _ (enter_escapes platform .stateConnected (by decide))
      (fun _ => go_to_escapes platform .stateIdle (by decide))
  · exact Prog.blames_pure heard escaping uncaught False _

theorem idle_escapes (ev : EventPtr) (typed : ev.Typed) (roomy : Roomy platform ev) :
    Escapes uncaught False (react platform .stateIdle ev) := by
  rw [react]
  split
  · rename_i named
    apply execute_escapes
    apply loud
    apply Prog.blames_quiet heard escaping uncaught
    · exact cast_escapes castConfig ev (cast_config_defined ev typed (by rw [named]; rfl))
    · intro config
      apply Prog.blames_quiet heard escaping uncaught
      · exact modify_escapes uncaught (fun world => { world with cameraConfig := config }) (fun _ => rfl)
      · intro _
        apply Prog.blames_quiet heard escaping uncaught _ _ (set_config_escapes platform)
        intro _
        exact Prog.blames_quiet heard escaping uncaught _ _ (read_status_escapes platform)
          (fun _ => Prog.blames_pure heard escaping uncaught True _)
  · apply execute_escapes
    apply loud
    exact Prog.blames_quiet heard escaping uncaught _ _ (read_status_escapes platform)
      (fun _ => Prog.blames_pure heard escaping uncaught True _)
  · apply execute_escapes
    exact Prog.blames_bind heard escaping uncaught False False True _ _ (.inr trivial) False.elim (read_options_escapes platform)
      (fun _ => Prog.blames_pure heard escaping uncaught True _)
  · apply execute_escapes
    exact loud _ (go_to_escapes platform .stateCaptureWired (by decide))
  · rename_i named
    apply execute_escapes
    apply loud
    obtain ⟨path, carried⟩ := download_carried ev typed (by rw [named]; rfl)
    have cast : castDownload (W := World C F) ev = pure path := by rw [castDownload, carried]
    rw [cast, pure_bind]
    intro world
    apply Prog.verdict_quiet heard escaping uncaught
    · exact modify_escapes uncaught (fun world => { world with toDownload := path }) (fun _ => rfl) world
    · intro _ after run
      cases run
      apply Prog.verdict_quiet heard escaping uncaught
      · exact enter_downloading_escapes platform { world with toDownload := path } (roomy path carried)
      · exact fun _ after _ => Prog.blames_pure heard escaping uncaught True _ after
  · exact Prog.blames_pure heard escaping uncaught False _
  · exact loud _ (in_connected_escapes platform .stateIdle ev typed)

theorem react_escapes (S : ControllerState) (rests : resting S = true) (ev : EventPtr) (typed : ev.Typed)
    (roomy : S = .stateIdle → Roomy platform ev) : Escapes uncaught False (react platform S ev) := by
  cases S with
  | stateDisconnected =>
      rw [react]
      split
      · exact loud _ (go_to_escapes platform .stateConnecting (by decide))
      · exact Prog.blames_pure heard escaping uncaught False _
  | stateConnecting => exact connecting_escapes platform ev typed
  | stateError =>
      rw [react]
      split
      · exact loud _ (go_to_escapes platform .stateConnecting (by decide))
      · exact Prog.blames_pure heard escaping uncaught False _
  | stateIdle => exact idle_escapes platform ev typed (roomy rfl)
  | stateCaptureWired =>
      apply loud
      rw [react]
      split
      · exact go_to_escapes platform .stateError (by decide)
      · rename_i named
        apply Prog.blames_quiet heard escaping uncaught
        · exact cast_escapes castCaptureSuccess ev (cast_capture_success_defined ev typed (by rw [named]; rfl))
        · exact fun _ => go_to_escapes platform .stateIdle (by decide)
      · exact in_connected_escapes platform .stateCaptureWired ev typed
  | stateDownloading =>
      apply loud
      rw [react]
      split
      · exact go_to_escapes platform .stateIdle (by decide)
      · exact go_to_escapes platform .stateIdle (by decide)
      · exact in_connected_escapes platform .stateDownloading ev typed
  | hsmTop => cases rests
  | stateInit => cases rests
  | stateConnected => cases rests

end Escapes

end Controller

end CameraController
