import Mathlib.Data.List.Nodup
import CameraController.Lib.Transition
import CameraController.WrapperConnect

set_option autoImplicit false

namespace CameraController

open Effects Transition CameraWidget

inductive WrapperCall where
  | connect
  | disconnect
  | isConnected
  | isResponsive
  | getSerialNumber
  | getExposureTime
  | setExposureTime (exposureTime : Int)
  | listExposureTimes
  | getAperture
  | setAperture (aperture : Int)
  | listApertures
  | getISO
  | setISO (iso : Int)
  | listISOs
  | getBatteryPercent
  | getExposureProgram
  | getTriggerMode
  | getFocalLength
  | setTriggerMode (mode : String)
  | listTriggerModes
  | getBurstCount
  | setBurstCount (burst : Int)
  | getMaxBurstCount
  | wiredCapture
  | downloadFile (path : CameraFilePath) (destFilePath : String)
deriving DecidableEq, Repr

section Sequences

variable {C F A : Type} (platform : Platform C F)

def ignore (p : Prog (Camera C F) Exn A) : Prog (Camera C F) Exn Unit := do
  let _ ← p
  pure ()

def CameraWrapper.perform : WrapperCall → Prog (Camera C F) Exn Unit
  | .connect => ignore (connect platform)
  | .disconnect => ignore (disconnect platform)
  | .isConnected => pure ()
  | .isResponsive => ignore (isResponsive platform)
  | .getSerialNumber => ignore (getSerialNumber platform)
  | .getExposureTime => ignore (getExposureTime platform)
  | .setExposureTime exposureTime => setExposureTime platform exposureTime
  | .listExposureTimes => ignore (listExposureTimes platform)
  | .getAperture => ignore (getAperture platform)
  | .setAperture aperture => setAperture platform aperture
  | .listApertures => ignore (listApertures platform)
  | .getISO => ignore (getISO platform)
  | .setISO iso => setISO platform iso
  | .listISOs => ignore (listISOs platform)
  | .getBatteryPercent => ignore (getBatteryPercent platform)
  | .getExposureProgram => ignore (getExposureProgram platform)
  | .getTriggerMode => ignore (getTriggerMode platform)
  | .getFocalLength => ignore (getFocalLength platform)
  | .setTriggerMode mode => setTriggerMode platform mode
  | .listTriggerModes => ignore (listTriggerModes platform)
  | .getBurstCount => ignore (getBurstCount platform)
  | .setBurstCount burst => setBurstCount platform burst
  | .getMaxBurstCount => ignore (getMaxBurstCount platform)
  | .wiredCapture => ignore (wiredCapture platform)
  | .downloadFile path destFilePath => downloadFile platform path destFilePath

-- A call returns or throws; either way the wrapper can be used again.
inductive WrapperStep : Camera C F → WrapperCall → Camera C F → Prop where
  | returned (camera after : Camera C F) (c : WrapperCall) (run : CameraWrapper.perform platform c camera = .ok () after) :
      WrapperStep camera c after
  | threw (camera after : Camera C F) (c : WrapperCall) (error : Exn)
      (run : CameraWrapper.perform platform c camera = .threw error after) : WrapperStep camera c after

def constructed (outside : C) : Camera C F where
  wrapper := {}
  gp := .initial outside

structure OneHandle (camera : Camera C F) : Prop where
  pointer : camera.wrapper.camera.isSome = camera.wrapper.connected
  live : ∀ handle, (handle < camera.gp.created ∧ handle ∉ camera.gp.freed) ↔ camera.wrapper.camera = some handle
  made : ∀ handle ∈ camera.gp.freed, handle < camera.gp.created
  once : camera.gp.freed.Nodup
  unused : camera.gp.misused = []

def answersSince (before after : Camera C F) : List (Answer F) := after.gp.log.drop before.gp.log.length

def Granted (before after : Camera C F) : Prop := ∀ entry ∈ answersSince before after, ¬ failed entry

theorem constructed_one_handle (outside : C) : OneHandle (constructed outside : Camera C F) where
  pointer := rfl
  live := by simp [constructed, Gphoto.initial]
  made := by simp [constructed, Gphoto.initial]
  once := List.nodup_nil
  unused := rfl

theorem same_one_handle (camera after : Camera C F) (one : OneHandle camera) (same : SameHandles camera after) :
    OneHandle after := by
  have live : ∀ handle, camera.wrapper.camera = some handle → handle ∉ camera.gp.freed :=
    fun handle own => ((one.live handle).mpr own).2
  refine ⟨?_, ?_, ?_, ?_, (same.misused live).trans one.unused⟩
  · rw [same.wrapper]; exact one.pointer
  · rw [same.wrapper, same.created, same.freed]; exact one.live
  · rw [same.created, same.freed]; exact one.made
  · rw [same.freed]; exact one.once

theorem ignore_within (R : Camera C F → Camera C F → Prop) [Std.Refl R] [IsTrans (Camera C F) R] (p : Prog (Camera C F) Exn A)
    (within : Prog.Within R p) : Prog.Within R (ignore p) :=
  Prog.within_bind _ _ _ within (fun _ => Prog.within_pure _ _)

def WrapperCall.widgetOnly : WrapperCall → Bool
  | .connect | .disconnect | .wiredCapture | .downloadFile _ _ => false
  | _ => true

open CameraWrapper in
theorem perform_keeps {inner : Widget → Camera C F → Camera C F → Prop} {outer : Camera C F → Camera C F → Prop}
    [∀ widget, Std.Refl (inner widget)] [∀ widget, IsTrans (Camera C F) (inner widget)] [Std.Refl outer]
    [IsTrans (Camera C F) outer] (keeps : ScopeKeeps platform inner outer) (c : WrapperCall) (only : c.widgetOnly = true) :
    Prog.Within outer (CameraWrapper.perform platform c) := by
  have reads : ∀ {A : Type} (configName : String) (convert : String → Except NumericError A),
      Prog.Within outer (ignore (readWidget platform configName convert)) :=
    fun configName convert => ignore_within outer _ (read_widget_keeps platform keeps configName convert)
  have lists : ∀ {A : Type} (configName : String) (convert : String → Except NumericError A),
      Prog.Within outer (ignore (listWidget platform configName convert)) :=
    fun configName convert => ignore_within outer _ (list_widget_keeps platform keeps configName convert)
  cases c with
  | connect | disconnect | wiredCapture | downloadFile => cases only
  | isConnected => exact Prog.within_pure _ _
  | isResponsive => exact ignore_within outer _ (is_responsive_keeps platform keeps)
  | getFocalLength => exact ignore_within outer _ (get_focal_length_keeps platform keeps)
  | getMaxBurstCount => exact ignore_within outer _ (get_max_burst_count_keeps platform keeps)
  | setExposureTime | setAperture | setISO | setTriggerMode | setBurstCount => exact write_widget_keeps platform keeps _ _
  | listExposureTimes | listApertures | listISOs | listTriggerModes => exact lists _ _
  | getSerialNumber | getExposureTime | getAperture | getISO | getBatteryPercent | getExposureProgram | getTriggerMode
  | getBurstCount => exact reads _ _

theorem is_responsive_within : Prog.Within SameHandles (CameraWrapper.isResponsive platform) :=
  CameraWrapper.is_responsive_keeps platform (same_scope_keeps platform)

theorem perform_within (c : WrapperCall) (notConnect : c ≠ .connect) (notDisconnect : c ≠ .disconnect) :
    Prog.Within SameHandles (CameraWrapper.perform platform c) := by
  cases c with
  | connect => exact absurd rfl notConnect
  | disconnect => exact absurd rfl notDisconnect
  | wiredCapture => exact ignore_within SameHandles _ (CameraWrapper.wired_capture_within platform)
  | downloadFile path destFilePath => exact CameraWrapper.download_file_within platform _ _
  | _ => exact perform_keeps platform (same_scope_keeps platform) _ rfl

-- freeCamera() with a handle: gp_camera_exit, gp_camera_free, and nullptr.
structure Freed (camera : Camera C F) (handle : Nat) (after : Camera C F) : Prop where
  wrapper : after.wrapper = { camera.wrapper with camera := none }
  created : after.gp.created = camera.gp.created
  freed : after.gp.freed = camera.gp.freed ++ [handle]
  misused : handle ∉ camera.gp.freed → after.gp.misused = camera.gp.misused

theorem free_camera_some (camera : Camera C F) (handle : Nat) (own : camera.wrapper.camera = some handle) :
    ∃ after, CameraWrapper.freeCamera platform camera = .ok () after ∧ Freed camera handle after := by
  rw [CameraWrapper.freeCamera, Prog.bind_ok cameraPtr _ camera camera camera.wrapper.camera rfl, own]
  refine ⟨_, rfl, rfl, rfl, ?_, ?_⟩
  · simp [Gphoto.record, Call.freesCamera]
  · intro live
    simp [Gphoto.record, Call.freesCamera, Call.handle, live]

theorem free_camera_none (camera : Camera C F) (own : camera.wrapper.camera = none) :
    CameraWrapper.freeCamera platform camera = .ok () camera := by
  rw [CameraWrapper.freeCamera, Prog.bind_ok cameraPtr _ camera camera camera.wrapper.camera rfl, own]
  rfl

theorem freed_one_handle (camera after : Camera C F) (handle : Nat) (one : OneHandle camera)
    (own : camera.wrapper.camera = some handle) (freed : Freed camera handle after) (last : Camera C F)
    (wrapper : last.wrapper = { after.wrapper with connected := false }) (gp : last.gp = after.gp) : OneHandle last := by
  obtain ⟨below, live⟩ := (one.live handle).mpr own
  have only : ∀ other, (other < camera.gp.created ∧ other ∉ camera.gp.freed) ↔ handle = other := by
    intro other
    rw [one.live other, own, Option.some.injEq]
  refine ⟨?_, ?_, ?_, ?_, ?_⟩
  · rw [wrapper, freed.wrapper]
    rfl
  · intro other
    rw [wrapper, gp, freed.wrapper, freed.created, freed.freed, List.mem_append, List.mem_singleton, not_or, ← and_assoc,
      only other]
    constructor
    · rintro ⟨same, apart⟩
      exact absurd same.symm apart
    · intro contrary
      cases contrary
  · intro other member
    rw [gp, freed.created]
    rw [gp, freed.freed] at member
    cases List.mem_append.mp member with
    | inl earlier => exact one.made other earlier
    | inr here => rwa [List.mem_singleton.mp here]
  · rw [gp, freed.freed]
    exact List.Nodup.append one.once (List.nodup_singleton handle) (List.disjoint_singleton.mpr live)
  · rw [gp, freed.misused live, one.unused]

theorem step_returned (camera after last : Camera C F) (c : WrapperCall) (step : WrapperStep platform camera c after)
    (run : CameraWrapper.perform platform c camera = .ok () last) : after = last := by
  cases step with
  | returned _ _ ends => cases ends.symm.trans run; rfl
  | threw _ _ error ends => cases ends.symm.trans run

theorem disconnect_one_handle (camera after : Camera C F) (one : OneHandle camera)
    (step : WrapperStep platform camera .disconnect after) : OneHandle after := by
  have run : CameraWrapper.perform platform .disconnect camera = ignore (CameraWrapper.disconnect platform) camera := rfl
  rw [ignore, Prog.bind_apply, CameraWrapper.disconnect, Prog.bind_ok Prog.get _ camera camera camera rfl] at run
  cases connected : camera.wrapper.connected with
  | false =>
      simp only [connected, Bool.false_eq_true, if_false] at run
      rw [step_returned platform camera after camera _ step run]
      exact one
  | true =>
      obtain ⟨handle, own⟩ := Option.isSome_iff_exists.mp (one.pointer.trans connected)
      obtain ⟨freed, frees, effect⟩ := free_camera_some platform camera handle own
      rw [if_pos connected, Prog.bind_ok _ _ _ _ _ frees] at run
      rw [step_returned platform camera after _ _ step run]
      exact freed_one_handle camera freed handle one own effect _ rfl rfl

theorem connect_step (camera after : Camera C F) (step : WrapperStep platform camera .connect after) :
    (∃ serial, CameraWrapper.connect platform camera = .ok serial after) ∨
      ∃ error, CameraWrapper.connect platform camera = .threw error after := by
  have run : CameraWrapper.perform platform .connect camera = ignore (CameraWrapper.connect platform) camera := rfl
  rw [ignore, Prog.bind_apply] at run
  cases connects : CameraWrapper.connect platform camera with
  | ok serial reached =>
      rw [connects] at run
      exact .inl ⟨serial, by rw [step_returned platform camera after reached _ step run]⟩
  | threw error reached =>
      rw [connects] at run
      cases step with
      | returned _ _ ends => cases ends.symm.trans run
      | threw _ _ _ ends => cases ends.symm.trans run; exact .inr ⟨error, rfl⟩
  | fault cause =>
      rw [connects] at run
      cases step with
      | returned _ _ ends => cases ends.symm.trans run
      | threw _ _ _ ends => cases ends.symm.trans run

theorem since_logged (camera after : Camera C F) (added : List (Answer F)) (logged : after.gp.log = camera.gp.log ++ added) :
    answersSince camera after = added := by
  rw [answersSince, logged, List.drop_left]

theorem connected_one_handle (camera after : Camera C F) (one : OneHandle camera)
    (apart : camera.wrapper.connected = false) (serial : String)
    (wrapper : after.wrapper = { connected := true, serial := serial, camera := some camera.gp.created })
    (created : after.gp.created = camera.gp.created + 1) (freed : after.gp.freed = camera.gp.freed)
    (misused : camera.gp.created ∉ camera.gp.freed → after.gp.misused = camera.gp.misused) : OneHandle after := by
  have none : camera.wrapper.camera = none := 
    Option.not_isSome_iff_eq_none.mp (by rw [one.pointer, apart]; exact Bool.false_ne_true)
  have spent : ∀ handle, handle < camera.gp.created → handle ∈ camera.gp.freed := by
    intro handle below
    by_contra live
    have own := (one.live handle).mp ⟨below, live⟩
    rw [none] at own
    cases own
  have fresh : camera.gp.created ∉ camera.gp.freed := fun member => Nat.lt_irrefl _ (one.made _ member)
  refine ⟨by rw [wrapper]; rfl, ?_, ?_, by rw [freed]; exact one.once, by rw [misused fresh, one.unused]⟩
  · intro handle
    rw [wrapper, created, freed, Option.some.injEq]
    constructor
    · rintro ⟨below, live⟩
      cases Nat.lt_succ_iff_lt_or_eq.mp below with
      | inl older => exact absurd (spent handle older) live
      | inr same => exact same.symm
    · intro same
      subst same
      exact ⟨Nat.lt_succ_self _, fresh⟩
  · intro handle member
    rw [freed] at member
    rw [created]
    exact Nat.lt_succ_of_lt (one.made handle member)

theorem connect_one_handle (camera after : Camera C F) (one : OneHandle camera)
    (granted : camera.wrapper.connected = false → Granted camera after)
    (step : WrapperStep platform camera .connect after) : OneHandle after := by
  cases connected : camera.wrapper.connected with
  | true =>
      have run : CameraWrapper.perform platform .connect camera = ignore (CameraWrapper.connect platform) camera := rfl
      rw [ignore, Prog.bind_apply, CameraWrapper.connect, Prog.bind_ok Prog.get _ camera camera camera rfl] at run
      simp only [connected, Bool.not_true, Bool.false_eq_true, if_false] at run
      rw [step_returned platform camera after camera _ step run]
      exact one
  | false =>
      have outcome := connect_cases platform camera connected
      cases connect_step platform camera after step with
      | inl returned =>
          obtain ⟨serial, run⟩ := returned
          rw [run] at outcome
          cases outcome with
          | connects _ _ added _ read logged wrapper created freed misused =>
              exact connected_one_handle camera after one connected serial wrapper created freed misused
      | inr threw =>
          obtain ⟨error, run⟩ := threw
          rw [run] at outcome
          cases outcome with
          | refused result _ failure logged wrapper created freed misused =>
              exact same_one_handle camera after one
                ⟨wrapper, created, freed, fun _ => misused, logged ▸ List.prefix_append _ _⟩
          | abandoned _ _ added failure logged wrapper =>
              obtain ⟨entry, member, fails⟩ := failure
              apply absurd fails
              apply granted connected entry
              rw [since_logged camera after _ logged]
              exact List.mem_cons_of_mem _ member

theorem abandoned_not_one_handle (camera after : Camera C F) (connected : camera.wrapper.connected = false)
    (step : WrapperStep platform camera .connect after) (denied : ¬ Granted camera after) : ¬ OneHandle after := by
  have outcome := connect_cases platform camera connected
  cases connect_step platform camera after step with
  | inl returned =>
      obtain ⟨serial, run⟩ := returned
      rw [run] at outcome
      cases outcome with
      | connects _ _ added granted read logged wrapper created freed misused =>
          apply absurd _ denied
          intro entry member fails
          rw [since_logged camera after _ logged] at member
          cases List.mem_cons.mp member with
          | inl new => rw [new] at fails; exact fails
          | inr later => exact granted ⟨entry, later, fails⟩
  | inr threw =>
      obtain ⟨error, run⟩ := threw
      rw [run] at outcome
      cases outcome with
      | refused result _ failure logged wrapper created freed misused =>
          apply absurd _ denied
          intro entry member fails
          rw [since_logged camera after _ logged] at member
          cases List.mem_singleton.mp member
          exact fails
      | abandoned _ _ added failure logged wrapper =>
          intro one
          have pointer := one.pointer
          rw [wrapper] at pointer
          exact Bool.false_ne_true (connected.symm.trans pointer.symm)

-- What is asked of a sequence of calls on one wrapper and its destructor.
structure Keeps (outside : C) (calls : List WrapperCall) (last : Camera C F) : Prop where
  invariant : ∀ past reached, past <+: calls → Run (WrapperStep platform) (constructed outside) past reached →
    OneHandle reached
  unchanged : ∀ past before error after, (past ++ [.connect]) <+: calls →
    Run (WrapperStep platform) (constructed outside) past before →
    CameraWrapper.connect platform before = .threw error after → after.wrapper = before.wrapper
  released : ∃ after, CameraWrapper.destroy platform last = .ok () after ∧
    after.gp.freed.Perm (List.range after.gp.created) ∧ after.gp.misused = []

theorem all_freed (camera : Camera C F) (one : OneHandle camera) (none : camera.wrapper.camera = none) :
    camera.gp.freed.Perm (List.range camera.gp.created) := by
  apply (List.perm_ext_iff_of_nodup one.once List.nodup_range).mpr
  intro handle
  rw [List.mem_range]
  constructor
  · exact one.made handle
  · intro below
    by_contra live
    have own := (one.live handle).mp ⟨below, live⟩
    rw [none] at own
    cases own

theorem destroy_releases (last : Camera C F) (one : OneHandle last) :
    ∃ after, CameraWrapper.destroy platform last = .ok () after ∧
      after.gp.freed.Perm (List.range after.gp.created) ∧ after.gp.misused = [] := by
  cases own : last.wrapper.camera with
  | none => exact ⟨last, free_camera_none platform last own, all_freed last one own, one.unused⟩
  | some handle =>
      obtain ⟨after, run, freed⟩ := free_camera_some platform last handle own
      have gone : OneHandle { after with wrapper := { after.wrapper with connected := false } } :=
        freed_one_handle last after handle one own freed _ rfl rfl
      have spent := all_freed { after with wrapper := { after.wrapper with connected := false } } gone
        (by rw [freed.wrapper])
      exact ⟨after, run, spent, gone.unused⟩

theorem one_handle_iff (outside : C) (calls : List WrapperCall) (last : Camera C F)
    (run : Run (WrapperStep platform) (constructed outside) calls last) :
    Keeps platform outside calls last ↔
      ∀ past before after, (past ++ [.connect]) <+: calls →
        Run (WrapperStep platform) (constructed outside) past before → WrapperStep platform before .connect after →
        before.wrapper.connected = false → Granted before after := by
  constructor
  · intro keeps past before after front prior step connected
    by_contra denied
    apply abandoned_not_one_handle platform before after connected step denied
    exact keeps.invariant (past ++ [.connect]) after front
      (run_append _ _ _ _ _ _ prior (run_single _ _ _ _ step))
  · intro granted
    have invariant : ∀ past reached, past <+: calls → Run (WrapperStep platform) (constructed outside) past reached →
        OneHandle reached := by
      apply run_along (WrapperStep platform) OneHandle (constructed outside) calls (constructed_one_handle outside)
      intro past before c after front prior one step
      by_cases connects : c = .connect
      · subst connects
        exact connect_one_handle platform before after one (granted past before after front prior step) step
      · by_cases disconnects : c = .disconnect
        · subst disconnects
          exact disconnect_one_handle platform before after one step
        · have within := perform_within platform c connects disconnects
          cases step with
          | returned _ _ ends => exact same_one_handle before after one (Prog.within_ok _ _ _ _ _ within ends)
          | threw _ _ _ ends => exact same_one_handle before after one (Prog.within_threw _ _ _ _ _ within ends)
    refine ⟨invariant, ?_, destroy_releases platform last (invariant calls last List.prefix_rfl run)⟩
    intro past before error after front prior threw
    have one := invariant past before ((List.prefix_append past [.connect]).trans front) prior
    have step : WrapperStep platform before .connect after :=
      .threw before after .connect error (Prog.bind_threw _ _ _ _ _ threw)
    cases connected : before.wrapper.connected with
    | true =>
        rw [CameraWrapper.connect, Prog.bind_ok Prog.get _ before before before rfl] at threw
        simp only [connected, Bool.not_true, Bool.false_eq_true, if_false] at threw
        cases threw
    | false =>
        have outcome := connect_cases platform before connected
        rw [threw] at outcome
        cases outcome with
        | refused result _ failure logged wrapper created freed misused => exact wrapper
        | abandoned _ _ added failure logged wrapper =>
            obtain ⟨entry, member, fails⟩ := failure
            apply absurd fails
            apply granted past before after front prior step connected entry
            rw [since_logged before after _ logged]
            exact List.mem_cons_of_mem _ member

end Sequences

def cameraAnswering (init : Int) : Platform Unit Unit where
  answer := fun c _ =>
    (match c with
      | .gpCameraInit _ => init
      | .gpCameraCapture _ => (gpOk, ⟨"/", "IMG_0001.JPG"⟩)
      | .gpWidgetGetType _ => (gpOk, .gpWidgetText)
      | .gpWidgetGetName widget => (gpOk, widget.configName)
      | .gpWidgetGetReadonly _ => (gpOk, 0)
      | .gpWidgetGetChoice _ _ => (gpOk, "100")
      | .gpWidgetGetValueString _ => (gpOk, "100")
      | .gpWidgetGetValueFloat _ => (gpOk, ())
      | .fopen _ => true
      | .fsExists _ => some true
      | .fsCreateDirectory _ => true
      | .gpCameraNew => gpOk
      | .gpCameraExit _ => gpOk
      | .gpCameraFree _ => gpOk
      | .gpCameraGetSingleConfig _ _ => gpOk
      | .gpCameraSetSingleConfig _ _ _ => gpOk
      | .gpCameraFileGet _ _ _ => gpOk
      | .gpWidgetCountChoices _ => 1
      | .gpWidgetSetValue _ _ => gpOk
      | .gpWidgetFree _ => gpOk
      | .gpFileNewFromFd _ => gpOk
      | .gpFileFree => gpOk
      | .fileno => 3
      | .fclose => 0, ())
  arrivals := fun _ => ([], ())
  stof := fun _ => .ok ()
  ofInt := fun _ => ()
  mul := fun _ _ => ()
  div := fun _ _ => ()
  toInt := fun _ => 0
  fixed := fun _ _ => "0"
  general := fun _ => "0"

theorem connect_then_disconnect :
    ∃ last, Run (WrapperStep (cameraAnswering gpOk)) (constructed ()) [.connect, .disconnect] last ∧
      (Keeps (cameraAnswering gpOk) () [.connect, .disconnect] last ↔
        ∀ past before after, (past ++ [.connect]) <+: [.connect, .disconnect] →
          Run (WrapperStep (cameraAnswering gpOk)) (constructed ()) past before →
          WrapperStep (cameraAnswering gpOk) before .connect after → before.wrapper.connected = false →
          Granted before after) := by
  have run : ∃ last, Run (WrapperStep (cameraAnswering gpOk)) (constructed ()) [.connect, .disconnect] last := by
    refine ⟨_, .next _ _ _ _ _ (.returned _ _ .connect rfl) (run_single _ _ _ _ (.returned _ _ .disconnect rfl))⟩
  obtain ⟨last, run⟩ := run
  exact ⟨last, run, one_handle_iff (cameraAnswering gpOk) () [.connect, .disconnect] last run⟩

-- gp_camera_init answers -105: no camera of a known model is attached.
theorem failed_init_dangles : ¬ ∀ (calls : List WrapperCall) (last : Camera Unit Unit),
    Run (WrapperStep (cameraAnswering (-105))) (constructed ()) calls last →
      Keeps (cameraAnswering (-105)) () calls last := by
  intro keeps
  have run : Run (WrapperStep (cameraAnswering (-105))) (constructed ()) [.connect] _ :=
    run_single _ _ _ _ (.threw _ _ .connect (.gPhotoError (-105)) rfl)
  have pointer := ((keeps [.connect] _ run).invariant [.connect] _ List.prefix_rfl run).pointer
  exact Bool.false_ne_true pointer.symm

end CameraController
