import Mathlib.Data.List.Perm.Subperm
import CameraController.ControllerCommands
import CameraController.WrapperResources

set_option autoImplicit false

namespace CameraController

open Effects Transition

namespace Controller

open CameraWrapper (Served GivesBack tidy_served served_trans served_gives_back)

section Driving

variable {C F A : Type} (platform : Platform C F)

-- What the controller's thread does with the camera, and time passing.
inductive CameraAction where
  | perform (c : WrapperCall)
  | fsExists (path : String)
  | fsCreateDirectory (path : String)
  | passes
deriving DecidableEq, Repr

inductive CameraStep : Camera C F → CameraAction → Camera C F → Prop where
  | performs (camera after : Camera C F) (c : WrapperCall) (step : WrapperStep platform camera c after) :
      CameraStep camera (.perform c) after
  | finds (camera after : Camera C F) (path : String) (answer : Option Bool)
      (run : call platform (.fsExists path) camera = .ok answer after) : CameraStep camera (.fsExists path) after
  | creates (camera after : Camera C F) (path : String) (answer : Bool)
      (run : call platform (.fsCreateDirectory path) camera = .ok answer after) : CameraStep camera (.fsCreateDirectory path) after
  | passes (camera : Camera C F) (outside : C) :
      CameraStep camera .passes { camera with gp := { camera.gp with outside := outside } }

def CameraAction.order : CameraAction → Option Order
  | .perform c => CameraWrapper.order c
  | _ => none

-- What is asked for is what the arrays of a CameraFilePath hold of the path.
def transferred (path : CameraPath) : Option Order :=
  if CameraWrapper.fits platform path then some (.transfer (CameraWrapper.filePath path)) else none

def ordered (ev : EventPtr) : Option Order :=
  match ev.sig, ev.payload with
  | .evCameraCaptureWired, _ => some .capture
  | .evCameraDownload, .cameraDownloadEvent cameraPath => transferred platform cameraPath
  | _, _ => none

-- The camera is used through the wrapper, with at most the orders that are due,
-- while these commands are begun.
def Drives (due : List Order) (done : List EventPtr) (before after : World C F) : Prop :=
  after.executed = before.executed ++ done ∧
    ∃ actions, Run (CameraStep platform) before.camera actions after.camera ∧ (actions.filterMap CameraAction.order).Sublist due

variable (due : List Order) (done : List EventPtr)

theorem drives_trans (later : List Order) (more : List EventPtr) (before middle after : World C F)
    (left : Drives platform due done before middle) (right : Drives platform later more middle after) :
    Drives platform (due ++ later) (done ++ more) before after := by
  obtain ⟨begun, first, head, fewer⟩ := left
  obtain ⟨begun', second, tail, fewer'⟩ := right
  refine ⟨by rw [begun', begun, List.append_assoc], first ++ second, run_append _ _ _ _ _ _ head tail, ?_⟩
  rw [List.filterMap_append]
  exact fewer.append fewer'

theorem drives_more (larger : List Order) (within : due.Sublist larger) (before after : World C F)
    (drives : Drives platform due done before after) : Drives platform larger done before after := by
  obtain ⟨begun, actions, run, fewer⟩ := drives
  exact ⟨begun, actions, run, fewer.trans within⟩

abbrev Quiet : World C F → World C F → Prop := Drives platform [] []

theorem quiet_same (before after : World C F) (executed : after.executed = before.executed)
    (camera : after.camera = before.camera) : Quiet platform before after := by
  refine ⟨by rw [executed, List.append_nil], [], ?_, List.Sublist.refl []⟩
  rw [camera]
  exact .done _

theorem quiet_trans (first second third : World C F) (left : Quiet platform first second)
    (right : Quiet platform second third) : Quiet platform first third :=
  drives_trans platform [] [] [] [] first second third left right

theorem drives_quiet (before middle after : World C F) (left : Drives platform due done before middle)
    (right : Quiet platform middle after) : Drives platform due done before after := by
  have whole := drives_trans platform due done [] [] before middle after left right
  rwa [List.append_nil, List.append_nil] at whole

theorem quiet_drives (before middle after : World C F) (left : Quiet platform before middle)
    (right : Drives platform due done middle after) : Drives platform due done before after :=
  drives_trans platform [] [] due done before middle after left right

instance : Std.Refl (Quiet platform) := ⟨fun world => quiet_same platform world world rfl rfl⟩

instance : IsTrans (World C F) (Quiet platform) := ⟨quiet_trans platform⟩

theorem quiet_posts : Posts (Quiet platform) (fun _ => True) where
  refl := refl_of (Quiet platform)
  trans := quiet_trans platform
  mint := fun world => quiet_same platform world _ rfl rfl
  publish := fun world _ => quiet_same platform world _ rfl rfl
  poll := fun world outside =>
    ⟨(List.append_nil _).symm, [.passes], run_single _ _ _ _ (.passes world.camera outside), List.Sublist.refl []⟩
  arrival := fun world _ => quiet_same platform world _ rfl rfl
  own := fun world _ _ => quiet_same platform world _ rfl rfl

theorem quiet_emits : Emits platform (fun _ => Quiet platform) (fun _ => 0) (fun _ _ => True) :=
  (quiet_posts platform).emits platform

theorem post_quiet (sig : CcEvent) (payload : Payload) (topic : CcTopic) :
    Prog.Within (Quiet platform) (postNew platform sig payload topic) :=
  post_new_within platform (quiet_posts platform) sig payload topic trivial

theorem step_drives (world : World C F) (after : Camera C F) (action : CameraAction)
    (step : CameraStep platform world.camera action after) :
    Drives platform action.order.toList [] world { world with camera := after } := by
  refine ⟨(List.append_nil _).symm, [action], run_single _ _ _ _ step, ?_⟩
  cases order : action.order with
  | none => simp [order]
  | some given => simp [order]

theorem on_camera_drives (c : WrapperCall) (p : Prog (Camera C F) Exn A) (same : CameraWrapper.perform platform c = ignore p) :
    Prog.Within (Drives platform (CameraWrapper.order c).toList []) (onCamera p) := by
  intro world
  have performs := fun after step => step_drives platform world after (.perform c) (.performs world.camera after c step)
  rw [onCamera, Prog.zoom]
  cases run : p world.camera with
  | fault cause => trivial
  | ok value after =>
      apply performs after
      apply WrapperStep.returned
      rw [same, ignore, Prog.bind_ok _ _ _ _ _ run]
      rfl
  | threw error after =>
      apply performs after
      apply WrapperStep.threw _ _ _ error
      rw [same, ignore, Prog.bind_threw _ _ _ _ _ run]

theorem ignore_unit (p : Prog (Camera C F) Exn Unit) : p = ignore p := (bind_pure p).symm

theorem on_camera_quiet (c : WrapperCall) (p : Prog (Camera C F) Exn A) (same : CameraWrapper.perform platform c = ignore p)
    (none : CameraWrapper.order c = none) : Prog.Within (Quiet platform) (onCamera p) := by
  have drives := on_camera_drives platform c p same
  rwa [none] at drives

section Functions

theorem post_error_quiet (error : Int) : Prog.Within (Quiet platform) (postGPhotoError platform error) :=
  post_quiet platform _ _ _

theorem connect_quiet : Prog.Within (Quiet platform) (connect platform) :=
  report_within (quiet_emits platform) _ _ .evCameraConnectionError _ _ _ (on_camera_quiet platform .connect _ rfl rfl) (fun _ => trivial)
    (fun _ => post_quiet platform _ _ _)

theorem disconnect_quiet : Prog.Within (Quiet platform) (disconnect platform) := by
  apply Prog.within_bind _ _ _ (on_camera_quiet platform .disconnect _ rfl rfl)
  intro released
  cases released with
  | true => exact post_quiet platform _ _ _
  | false => exact Prog.within_pure _ _

theorem set_option_quiet (requested : CameraConfig → Bool) (setter : CameraConfig → Prog (Camera C F) Exn Unit)
    (setterQuiet : ∀ config, Prog.Within (Quiet platform) (onCamera (setter config))) :
    Prog.Within (Quiet platform) (setOption platform requested setter) := by
  apply catch_within (quiet_emits platform) 0 0 _ _ _ (post_error_quiet platform)
  apply Prog.within_bind _ _ _ (Prog.within_get _)
  intro world
  split
  · exact setterQuiet world.cameraConfig
  · exact Prog.within_pure _ _

theorem set_config_quiet : Prog.Within (Quiet platform) (setConfig platform) := by
  have each := fun requested setter quiet => set_option_quiet platform requested setter quiet
  apply Prog.within_bind _ _ _ (each _ _ (fun config => on_camera_quiet platform (.setAperture config.aperture) _ (ignore_unit _) rfl))
  intro _
  apply Prog.within_bind _ _ _ (each _ _ (fun config =>
    on_camera_quiet platform (.setExposureTime config.shutterSpeed) _ (ignore_unit _) rfl))
  intro _
  apply Prog.within_bind _ _ _ (each _ _ (fun config => on_camera_quiet platform (.setISO config.iso) _ (ignore_unit _) rfl))
  intro _
  exact each _ _ (fun config => on_camera_quiet platform (.setTriggerMode config.triggerMode) _ (ignore_unit _) rfl)

theorem read_status_quiet : Prog.Within (Quiet platform) (readStatus platform) := by
  apply catch_within (quiet_emits platform) 0 0 _ _ _ (post_error_quiet platform)
  apply Prog.within_bind _ _ _ (on_camera_quiet platform .getExposureTime _ rfl rfl)
  intro shutterSpeed
  apply Prog.within_bind _ _ _ (on_camera_quiet platform .getAperture _ rfl rfl)
  intro aperture
  apply Prog.within_bind _ _ _ (on_camera_quiet platform .getISO _ rfl rfl)
  intro iso
  apply Prog.within_bind _ _ _ (on_camera_quiet platform .getTriggerMode _ rfl rfl)
  intro triggerMode
  apply Prog.within_bind _ _ _ (post_quiet platform _ _ _)
  intro _
  apply Prog.within_bind _ _ _ (on_camera_quiet platform .getBatteryPercent _ rfl rfl)
  intro battery
  apply Prog.within_bind _ _ _ (on_camera_quiet platform .getExposureProgram _ rfl rfl)
  intro exposureProgram
  apply Prog.within_bind _ _ _ (on_camera_quiet platform .getFocalLength _ rfl rfl)
  intro focalLength
  exact post_quiet platform _ _ _

theorem post_options_quiet (sig : CcEvent) (options : Prog (Camera C F) Exn (List A)) (payload : List A → Payload)
    (c : WrapperCall) (same : CameraWrapper.perform platform c = ignore options) (none : CameraWrapper.order c = none) :
    Prog.Within (Quiet platform) (postOptions platform sig options payload) :=
  report_within (quiet_emits platform) _ _ .evCameraGenericError _ _ _ (on_camera_quiet platform c _ same none)
    (fun _ => trivial) (post_error_quiet platform)

theorem read_options_quiet : Prog.Within (Quiet platform) (readOptions platform) := by
  apply Prog.within_bind _ _ _ (post_options_quiet platform _ _ _ .listExposureTimes rfl rfl)
  intro _
  apply Prog.within_bind _ _ _ (post_options_quiet platform _ _ _ .listApertures rfl rfl)
  intro _
  apply Prog.within_bind _ _ _ (post_options_quiet platform _ _ _ .listISOs rfl rfl)
  intro _
  exact post_options_quiet platform _ _ _ .listTriggerModes rfl rfl

theorem file_system_quiet (c : Call) (action : CameraAction) (none : action.order = none)
    (step : ∀ camera after answer, call platform c camera = .ok answer after → CameraStep platform camera action after) :
    Prog.Within (Quiet platform) (onCamera (call platform c)) := by
  intro world
  have quiet := step_drives platform world _ action (step world.camera _ _ (call_apply platform c world.camera))
  rwa [none] at quiet

theorem ensure_download_dir_quiet (dir : String) : Prog.Within (Quiet platform) (ensureDownloadDir platform dir) := by
  have finds := file_system_quiet platform (.fsExists dir) (.fsExists dir) rfl (fun _ _ answer => .finds _ _ dir answer)
  have creates := file_system_quiet platform (.fsCreateDirectory dir) (.fsCreateDirectory dir) rfl
    (fun _ _ answer => .creates _ _ dir answer)
  apply Prog.within_bind
  · apply Prog.within_bind _ _ _ finds
    intro answered
    cases answered with
    | some found => exact Prog.within_pure _ _
    | none => exact Prog.within_throw _ _
  · intro found
    cases found with
    | true => exact Prog.within_pure _ _
    | false =>
        apply Prog.within_bind _ _ _ creates
        intro created
        cases created with
        | true => exact Prog.within_pure _ _
        | false => exact post_quiet platform _ _ _

theorem repost_quiet (begun : List EventPtr) (ev : EventPtr) : Prog.Within (Quiet platform) (repost platform begun ev) := by
  apply Prog.within_bind _ _ _ (poll_within platform (quiet_posts platform))
  intro _
  apply Prog.within_bind
  · exact fun world => quiet_same platform world _ rfl rfl
  · exact fun _ world => quiet_same platform world _ rfl rfl

theorem flush_quiet (begun : List EventPtr) (n : Nat) : Prog.Within (Quiet platform) (flushDeferred platform begun n) := by
  induction n with
  | zero =>
      apply Prog.within_bind _ _ _ (Prog.within_get _)
      intro world
      split
      · exact Prog.within_pure _ _
      · exact Prog.within_fault _ _
  | succ n ih =>
      apply Prog.within_bind _ _ _ (Prog.within_get _)
      intro world
      split
      · exact Prog.within_pure _ _
      · cases world.deferredEvents.pop with
        | error what => exact Prog.within_throw _ _
        | ok popped =>
            apply Prog.within_bind
            · exact fun world => quiet_same platform world _ rfl rfl
            · intro _
              exact Prog.within_bind _ _ _ (repost_quiet platform begun popped.1) (fun _ => ih)

theorem is_responsive_quiet : Prog.Within (Quiet platform) (onCamera (CameraWrapper.isResponsive platform)) :=
  on_camera_quiet platform .isResponsive _ rfl rfl

theorem enter_idle_quiet : Prog.Within (Quiet platform) (enterIdle platform) := by
  apply Prog.within_bind _ _ _ (is_responsive_quiet platform)
  intro responsive
  cases responsive with
  | false => exact Prog.within_pure _ _
  | true =>
      apply Prog.within_bind _ _ _ (read_status_quiet platform)
      intro _
      exact Prog.within_bind _ _ _ (Prog.within_get _) (fun world => flush_quiet platform _ _)

theorem then_quiet {B : Type} (first : Prog (World C F) Exn A) (next : A → Prog (World C F) Exn B)
    (firstDrives : Prog.Within (Drives platform due []) first) (nextQuiet : ∀ value, Prog.Within (Quiet platform) (next value)) :
    Prog.Within (Drives platform due []) (first >>= next) :=
  Prog.within_seq _ _ _ first next (drives_quiet platform due []) (fun _ _ step => step) firstDrives nextQuiet

theorem caught_quiet (body : Prog (World C F) Exn A) (clause : Exn → Option (Prog (World C F) Exn A))
    (bodyDrives : Prog.Within (Drives platform due []) body)
    (clauseQuiet : ∀ error handler, clause error = some handler → Prog.Within (Quiet platform) handler) :
    Prog.Within (Drives platform due []) (Prog.tryCatch body clause) :=
  Prog.within_caught _ _ _ body clause (drives_quiet platform due []) (fun _ _ step => step) bodyDrives clauseQuiet

theorem gphoto_clause_quiet (clause : Int → Prog (World C F) Exn A) (quiet : ∀ error, Prog.Within (Quiet platform) (clause error))
    (error : Exn) (handler : Prog (World C F) Exn A)
    (found : (match error with | .gPhotoError error => some (clause error) | _ => none) = some handler) :
    Prog.Within (Quiet platform) handler := by
  cases error with
  | gPhotoError error =>
      cases found
      exact quiet error
  | _ => cases found

theorem capture_wired_drives : Prog.Within (Drives platform [.capture] []) (captureWired platform) := by
  apply caught_quiet platform _ _ _ _ (gphoto_clause_quiet platform _ (fun _ => post_quiet platform _ _ _))
  exact then_quiet platform _ _ _ (on_camera_drives platform .wiredCapture _ rfl) (fun _ => post_quiet platform _ _ _)

theorem guarded_drives (body : Prog (World C F) Exn Unit) (world : World C F)
    (bodyDrives : ∀ after, after.toDownload = world.toDownload → (body after).Ends (Drives platform due [] after)) :
    ((onCamera (CameraWrapper.isResponsive platform) >>= fun responsive => if !responsive then pure () else body) world).Ends
      (Drives platform due [] world) := by
  have asked := is_responsive_quiet platform world
  have idle := fun after step => drives_more platform [] [] due (List.nil_sublist due) world after step
  rw [Prog.bind_apply]
  cases run : onCamera (CameraWrapper.isResponsive platform) world with
  | fault cause => trivial
  | threw error after =>
      rw [run] at asked
      exact idle after asked
  | ok responsive after =>
      rw [run] at asked
      cases responsive with
      | false => exact idle after asked
      | true =>
          obtain ⟨camera, _, rfl⟩ := Prog.zoom_eq_ok _ _ _ _ _ _ run
          exact Outcome.ends_mono _ _ _ (fun last step => quiet_drives platform due [] world _ last asked step) (bodyDrives _ rfl)

theorem enter_capture_wired_drives (world : World C F) :
    (enterCaptureWired platform world).Ends (Drives platform [.capture] [] world) :=
  guarded_drives platform _ _ world (fun after _ => capture_wired_drives platform after)

theorem copy_photo_drives (path : CameraPath) (photo : String) :
    Prog.Within (Drives platform [.transfer (CameraWrapper.filePath path)] []) (copyPhoto platform path photo) := by
  apply caught_quiet
  · exact then_quiet platform _ _ _ (on_camera_drives platform (.downloadFile (CameraWrapper.filePath path) _) _ (ignore_unit _))
      (fun _ => post_quiet platform _ _ _)
  · intro error handler found
    cases error with
    | filesystemError what path =>
        cases found
        exact post_quiet platform _ _ _
    | gPhotoError error =>
        cases found
        exact post_error_quiet platform error
    | _ => cases found

theorem download_drives (world : World C F) :
    (download platform world).Ends (Drives platform (transferred platform world.toDownload).toList [] world) := by
  rw [download_copies, transferred]
  refine Prog.within_seq (Quiet platform) (Drives platform _ []) (Drives platform _ []) _ _ (quiet_drives platform _ [])
    (drives_more platform [] [] _ (List.nil_sublist _)) (ensure_download_dir_quiet platform world.downloadDir) ?_ world
  intro _
  split
  · exact copy_photo_drives platform _ _
  · exact Prog.within_fault _ _

theorem enter_downloading_drives (world : World C F) :
    (enterDownloading platform world).Ends (Drives platform (transferred platform world.toDownload).toList [] world) :=
  guarded_drives platform _ _ world (fun after same => same ▸ download_drives platform after)

end Functions

section Reacting

def Answers (before after : World C F) : Prop := ∃ done, Drives platform (done.filterMap (ordered platform)) done before after

theorem quiet_answers (p : Prog (World C F) Exn A) (quiet : Prog.Within (Quiet platform) p) (world : World C F) :
    (p world).Ends (Answers platform world) :=
  Outcome.ends_mono _ _ _ (fun _ step => ⟨[], step⟩) (quiet world)

theorem go_to_quiet (state : ControllerState) (quiet : Prog.Within (Quiet platform) (enter platform state)) :
    Prog.Within (Quiet platform) (goTo platform state) :=
  Prog.within_bind _ _ _ quiet (fun _ => Prog.within_pure _ _)

theorem defer_quiet (ev : EventPtr) : Prog.Within (Quiet platform) (deferEvent ev) :=
  fun world => quiet_same platform world _ rfl rfl

theorem in_connected_quiet (state : ControllerState) (ev : EventPtr) :
    Prog.Within (Quiet platform) (inConnected platform state ev) := by
  obtain ⟨id, sig, payload⟩ := ev
  have defers : Prog.Within (Quiet platform) (deferEvent ⟨id, sig, payload⟩ >>= fun _ => (pure state : Prog (World C F) Exn _)) :=
    Prog.within_bind _ _ _ (defer_quiet platform _) (fun _ => Prog.within_pure _ _)
  cases sig with
  | evCameraGenericError =>
      cases payload with
      | cameraErrorEvent errorcode =>
          have leaves := go_to_quiet platform .stateError (disconnect_quiet platform)
          change Prog.Within _ (if criticalError errorcode then goTo platform .stateError else pure state)
          split
          · exact leaves
          · exact Prog.within_pure _ _
      | _ => exact Prog.within_fault _ _
  | evCameraSetConfig => exact defers
  | evCameraGetStatus => exact defers
  | evCameraGetOptions => exact defers
  | evCameraCaptureWired => exact defers
  | evCameraDownload => exact defers
  | _ => exact Prog.within_pure _ _

theorem entering_ends {B : Type} (P : World C F → Prop) (p : Prog (World C F) Exn A) (value : A → B) (world : World C F)
    (ends : (p world).Ends P) : ((p >>= fun result => pure (value result)) world).Ends P := by
  rw [Prog.bind_apply]
  cases run : p world with
  | ok result after => rwa [run] at ends
  | threw error after => rwa [run] at ends
  | fault cause => trivial

theorem executing_answers (ev : EventPtr) (p : Prog (World C F) Exn A) (world : World C F)
    (drives : (p (executing world ev)).Ends (Drives platform (ordered platform ev).toList [] (executing world ev))) :
    ((execute ev >>= fun _ => p) world).Ends (Answers platform world) := by
  have begun : Drives platform [] [ev] world (executing world ev) :=
    ⟨rfl, [], .done _, List.Sublist.refl []⟩
  apply Outcome.ends_mono _ _ _ _ drives
  intro after step
  refine ⟨[ev], ?_⟩
  have whole := drives_trans platform [] [ev] _ _ world _ after begun step
  cases order : ordered platform ev with
  | none => simpa [order] using whole
  | some given => simpa [order] using whole

theorem idle_answers (ev : EventPtr) (world : World C F) : (react platform .stateIdle ev world).Ends (Answers platform world) := by
  obtain ⟨id, sig, payload⟩ := ev
  have passes : ∀ p : Prog (World C F) Exn ControllerState, Prog.Within (Quiet platform) p → ∀ after : World C F,
      ordered platform ⟨id, sig, payload⟩ = none →
        (p after).Ends (Drives platform (ordered platform ⟨id, sig, payload⟩).toList [] after) := by
    intro p quiet after none
    rw [none]
    exact quiet after
  have inherits := quiet_answers platform _ (in_connected_quiet platform .stateIdle ⟨id, sig, payload⟩) world
  cases sig with
  | evCameraSetConfig =>
      apply executing_answers platform
      cases payload with
      | cameraConfigEvent config =>
          apply passes _ _ _ rfl
          apply Prog.within_bind _ _ _ (Prog.within_pure _ _)
          intro config
          apply Prog.within_bind
          · exact fun world => quiet_same platform world _ rfl rfl
          · intro _
            apply Prog.within_bind _ _ _ (set_config_quiet platform)
            intro _
            exact Prog.within_bind _ _ _ (read_status_quiet platform) (fun _ => Prog.within_pure _ _)
      | _ => trivial
  | evCameraGetStatus =>
      apply executing_answers platform
      exact passes _ (Prog.within_bind _ _ _ (read_status_quiet platform) (fun _ => Prog.within_pure _ _)) _ rfl
  | evCameraGetOptions =>
      apply executing_answers platform
      exact passes _ (Prog.within_bind _ _ _ (read_options_quiet platform) (fun _ => Prog.within_pure _ _)) _ rfl
  | evCameraCaptureWired =>
      apply executing_answers platform
      exact entering_ends _ _ _ _ (enter_capture_wired_drives platform _)
  | evCameraDownload =>
      apply executing_answers platform
      cases payload with
      | cameraDownloadEvent cameraPath =>
          exact entering_ends _ _ _ _ (enter_downloading_drives platform { executing world _ with toDownload := cameraPath })
      | _ => trivial
  | evCameraDisconnect => exact quiet_answers platform _ (Prog.within_pure _ _) world
  | _ => exact inherits

theorem react_answers (S : ControllerState) (rests : resting S = true) (ev : EventPtr) (world : World C F) :
    (react platform S ev world).Ends (Answers platform world) := by
  have connects := quiet_answers platform _ (go_to_quiet platform .stateConnecting (connect_quiet platform)) world
  have fails := quiet_answers platform _ (go_to_quiet platform .stateError (disconnect_quiet platform)) world
  have idles := go_to_quiet platform .stateIdle (enter_idle_quiet platform)
  have stays := fun (state : ControllerState) => quiet_answers platform (pure state) (Prog.within_pure _ _) world
  have inherits := quiet_answers platform _ (in_connected_quiet platform S ev) world
  have returns := quiet_answers platform _ idles world
  cases S with
  | stateIdle => exact idle_answers platform ev world
  | stateDisconnected =>
      obtain ⟨id, sig, payload⟩ := ev
      cases sig with
      | evCameraConnect => exact connects
      | _ => exact stays _
  | stateError =>
      obtain ⟨id, sig, payload⟩ := ev
      cases sig with
      | evCameraConnect => exact connects
      | _ => exact stays _
  | stateConnecting =>
      obtain ⟨id, sig, payload⟩ := ev
      cases sig with
      | evCameraConnectionError => exact fails
      | evCameraGenericError =>
          cases payload with
          | cameraErrorEvent errorcode => exact stays .stateConnecting
          | _ => trivial
      | evCameraConnected =>
          apply quiet_answers
          apply Prog.within_bind _ _ _ (set_config_quiet platform)
          intro _
          apply Prog.within_bind _ _ _ (read_status_quiet platform)
          intro _
          apply Prog.within_bind _ _ _ (read_options_quiet platform)
          intro _
          apply Prog.within_bind
          · exact fun world => quiet_same platform world _ rfl rfl
          · exact fun _ => idles
      | _ => exact stays _
  | stateCaptureWired =>
      obtain ⟨id, sig, payload⟩ := ev
      cases sig with
      | evCameraCaptureError => exact fails
      | evCameraCaptureSuccess =>
          cases payload with
          | cameraCaptureSuccessEvent path => exact returns
          | _ => trivial
      | _ => exact inherits
  | stateDownloading =>
      obtain ⟨id, sig, payload⟩ := ev
      cases sig with
      | evCameraDownloadError => exact returns
      | evCameraDownloadSuccess => exact returns
      | _ => exact inherits
  | hsmTop => cases rests
  | stateInit => cases rests
  | stateConnected => cases rests

theorem handle_event_answers (c : Config C F) (settled : Settled c) (ev : EventPtr) (rest : List EventPtr) :
    ((machine platform).handleEvent turns (.signal ev) c.this (World.dequeued c.world rest)).Ends (Answers platform c.world) := by
  obtain ⟨⟨state, temp⟩, world, dropped⟩ := c
  obtain rfl : temp = state := settled.registers
  rw [handle_event_react platform temp settled.rests turns (Nat.le_refl 6) ev]
  exact entering_ends _ _ _ _ (react_answers platform temp settled.rests ev (World.dequeued world rest))

theorem step_answers (c next : Config C F) (input : Input) (settled : Settled c) (step : ControllerStep platform c input next) :
    Answers platform c.world next.world := by
  cases step with
  | post command => exact ⟨[], quiet_same platform c.world _ rfl rfl⟩
  | handle ev rest this after head run =>
      have ends := handle_event_answers platform c settled ev rest
      rwa [run] at ends

theorem answers_trans (first second third : World C F) (left : Answers platform first second)
    (right : Answers platform second third) : Answers platform first third := by
  obtain ⟨done, drives⟩ := left
  obtain ⟨more, later⟩ := right
  refine ⟨done ++ more, ?_⟩
  rw [List.filterMap_append]
  exact drives_trans platform _ _ _ _ first second third drives later

theorem run_answers (outside : C) (downloadDir : String) (inputs : List Input) (c : Config C F)
    (run : Run (ControllerStep platform) (started outside downloadDir) inputs c) :
    Settled c ∧ Answers platform (createdWorld outside downloadDir) c.world := by
  apply run_invariant (ControllerStep platform)
    (fun c => Settled c ∧ Answers platform (createdWorld outside downloadDir) c.world) _ _ _ _
    ⟨started_settled outside downloadDir, [], refl_of (Quiet platform) _⟩ run
  rintro before input after ⟨settled, answers⟩ step
  exact ⟨(step_cases platform before after input settled step).1,
    answers_trans platform _ _ _ answers (step_answers platform before after input settled step)⟩

end Reacting

section Serving

theorem file_call_served (c : Call) (answer : c.Ret F) (camera after : Camera C F) (run : call platform c camera = .ok answer after)
    (idle : ∀ widgets result, movesOf (F := F) widgets ⟨c, result⟩ = [] ∧ asked (F := F) ⟨c, result⟩ = none) :
    Served [] camera after :=
  tidy_served camera after (Prog.within_ok _ _ camera after answer (idle_call_tidy platform [] c idle) run)

theorem action_served (camera after : Camera C F) (action : CameraAction) (step : CameraStep platform camera action after) :
    Served action.order.toList camera after := by
  cases step with
  | performs _ c step => exact CameraWrapper.step_served platform camera after c step
  | finds _ path answer run => exact file_call_served platform (.fsExists path) answer camera after run (fun _ _ => ⟨rfl, rfl⟩)
  | creates _ path answer run => exact file_call_served platform (.fsCreateDirectory path) answer camera after run (fun _ _ => ⟨rfl, rfl⟩)
  | passes outside => exact ⟨[], [], ⟨[], by simp, rfl, rfl, rfl⟩, Ownership.balanced_nil [], List.Sublist.refl []⟩

theorem actions_served (camera after : Camera C F) (actions : List CameraAction)
    (run : Run (CameraStep platform) camera actions after) : Served (actions.filterMap CameraAction.order) camera after := by
  induction run with
  | done camera => exact tidy_served camera camera (refl_of (Tidy []) camera)
  | next camera middle after action actions step _ ih =>
      have first := action_served platform camera middle action step
      have whole := served_trans _ _ camera middle after first ih
      cases order : action.order with
      | none => simpa [order] using whole
      | some given => simpa [order] using whole

end Serving

section Camera

variable (outside : C) (downloadDir : String)

theorem answers_served (world : World C F) (answers : Answers platform (createdWorld outside downloadDir) world) :
    GivesBack world.camera ∧ (world.camera.gp.log.filterMap asked).Sublist (world.executed.filterMap (ordered platform)) := by
  obtain ⟨done, begun, actions, run, fewer⟩ := answers
  obtain ⟨back, asks⟩ := served_gives_back _ outside world.camera (actions_served platform _ _ actions run)
  have executed : world.executed = done := begun
  rw [executed]
  exact ⟨back, asks.trans fewer⟩

-- Every widget, every FILE and every CameraFile is given back exactly once and
-- not used afterwards, whatever fails and also when an exception leaves
-- handleEvent.
theorem resources_given_back (inputs : List Input) (c : Config C F)
    (run : Run (ControllerStep platform) (started outside downloadDir) inputs c) : GivesBack c.world.camera ∧
      ∀ ev rest, c.world.eventList = ev :: rest →
        ((machine platform).handleEvent turns (.signal ev) c.this (World.dequeued c.world rest)).Ends
          (fun after => GivesBack after.camera) := by
  obtain ⟨settled, answers⟩ := run_answers platform outside downloadDir inputs c run
  refine ⟨(answers_served platform outside downloadDir c.world answers).1, ?_⟩
  intro ev rest _
  apply Outcome.ends_mono _ _ _ _ (handle_event_answers platform c settled ev rest)
  intro after later
  exact (answers_served platform outside downloadDir after (answers_trans platform _ _ _ answers later)).1

theorem executed_subperm (c : Config C F) (inputs : List Input)
    (run : Run (ControllerStep platform) (started outside downloadDir) inputs c) : c.world.executed.Subperm c.world.posted := by
  obtain ⟨_, moved⟩ := run_moves platform outside downloadDir inputs c run
  have accounted := Deferral.Line.moves_accounted 1000 _ _ moved Deferral.Line.empty_accounted
  apply List.subperm_of_subset (c.line.executed_nodup accounted)
  intro ev executed
  exact List.mem_of_mem_filter (c.line.executed_posted accounted ev executed)

-- The camera takes no picture and sends no file but for a command: one at most
-- for each, and in the order in which stateIdle began them.
theorem orders_commanded (inputs : List Input) (c : Config C F)
    (run : Run (ControllerStep platform) (started outside downloadDir) inputs c) :
    (c.world.camera.gp.log.filterMap asked).Sublist (c.world.executed.filterMap (ordered platform)) ∧
      (c.world.camera.gp.log.filterMap asked).Subperm (c.world.posted.filterMap (ordered platform)) := by
  obtain ⟨_, answers⟩ := run_answers platform outside downloadDir inputs c run
  have fewer := (answers_served platform outside downloadDir c.world answers).2
  obtain ⟨same, permuted, within⟩ := executed_subperm platform outside downloadDir c inputs run
  refine ⟨fewer, fewer.subperm.trans ?_⟩
  exact ⟨same.filterMap (ordered platform), permuted.filterMap (ordered platform), within.filterMap (ordered platform)⟩

end Camera

end Driving

def photographing : List Input :=
  [.post .connect, .handle, .handle, .post .captureWired, .post (.download ⟨"/store", "a.jpg"⟩), .handle, .handle, .handle,
    .handle, .handle]

theorem photographing_gives_back : ∃ c, Run (ControllerStep working) (started 0 "/photos") photographing c ∧
    c.world.camera.gp.widgets = 38 ∧ GivesBack c.world.camera := by
  obtain ⟨c, run, widgets⟩ := advance_all_observed working (fun c => c.world.camera.gp.widgets) (started 0 "/photos")
    photographing 38 (by decide +kernel)
  exact ⟨c, run, widgets, (resources_given_back working 0 "/photos" photographing c run).1⟩

theorem photographing_commanded : ∃ c, Run (ControllerStep working) (started 0 "/photos") photographing c ∧
    c.world.camera.gp.log.filterMap asked = [.capture, .transfer { folder := "/store", name := "a.jpg" }] ∧
    (c.world.camera.gp.log.filterMap asked).Sublist (c.world.executed.filterMap (ordered working)) := by
  obtain ⟨c, run, orders⟩ := advance_all_observed working (fun c => c.world.camera.gp.log.filterMap asked)
    (started 0 "/photos") photographing [.capture, .transfer { folder := "/store", name := "a.jpg" }] (by decide +kernel)
  exact ⟨c, run, orders, (orders_commanded working 0 "/photos" photographing c run).1⟩

end Controller

end CameraController
