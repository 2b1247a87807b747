import CameraController.WrapperBlame

set_option autoImplicit false

namespace CameraController

open Effects CameraWidget

section Connecting

variable {C F A : Type} (platform : Platform C F)

def failed : Answer F → Prop
  | ⟨.gpCameraInit _, result⟩ => result ≠ gpOk
  | ⟨.gpCameraGetSingleConfig _ _, result⟩ => result ≠ gpOk
  | ⟨.gpWidgetGetType _, result⟩ => ¬ (result.1 = gpOk ∧ isString result.2 = true)
  | ⟨.gpWidgetGetValueString _, result⟩ => result.1 ≠ gpOk
  | _ => False

def failing : Harm (Answer F) := Harm.ofEntry failed

theorem failing_single (entry : Answer F) : failing.harmful [entry] ↔ failed entry := by
  simp only [failing, Harm.ofEntry, List.mem_singleton, exists_eq_left]

theorem failing_cons (entry : Answer F) (rest : List (Answer F)) :
    failing.harmful (entry :: rest) ↔ failed entry ∨ failing.harmful rest := by
  simp only [failing, Harm.ofEntry, List.mem_cons, exists_eq_or_imp]

theorem judged_failing (good : Prop) (entry : Answer F) (error : Exn) (same : failed entry ↔ ¬ good) :
    Judged failing (fun _ => False) good entry error := by
  refine ⟨trivial, ?_, ?_⟩
  · intro holds
    rw [failing_single, same]
    exact not_not.mpr holds
  · intro fails
    rw [failing_single, same]
    exact ⟨fun _ => not_false, fun _ => fails⟩

theorem get_serial_number_accuses :
    Accuses failing (fun _ => False) True (CameraWrapper.getSerialNumber platform) := by
  apply read_widget_accuses platform failing (fun _ => False)
  · refine ⟨?_, ?_, ?_⟩
    · intro ptr result
      exact judged_failing _ _ _ Iff.rfl
    · intro widget result
      exact judged_failing _ _ _ Iff.rfl
    · intro widget result
      exact ⟨by rw [failing_single]; exact id, trivial⟩
  · intro widget _ result
    refine ⟨trivial, ?_, ?_, ?_⟩
    · intro fails
      rw [failing_single]
      exact ⟨fun _ => not_false, fun _ => fails⟩
    · intro good _ _
      rw [failing_single]
      exact not_not.mpr good
    · intro good error contrary
      cases contrary

theorem get_serial_number_logged (serial : String) (camera after : Camera C F)
    (run : CameraWrapper.getSerialNumber platform camera = .ok serial after) :
    ∃ first widget last, after.gp.log = camera.gp.log ++ first ++ ⟨.gpWidgetGetValueString widget, (gpOk, serial)⟩ :: last ∧
      widget.configName = configSerialNumber := by
  obtain ⟨widget, made, constructed, run⟩ := Prog.bind_eq_ok _ _ _ _ _ run
  obtain ⟨read, body, destroyed⟩ := Prog.withDestructor_eq_ok _ _ _ _ _ run
  obtain ⟨type, checked, typed, body⟩ := Prog.bind_eq_ok _ _ _ _ _ body
  obtain ⟨code, _, _, rfl, rfl⟩ := checked_returns platform (.gpCameraGetSingleConfig camera.wrapper.camera configSerialNumber)
    (fun result => result) (fun _ => Widget.mk camera.gp.widgets configSerialNumber) camera made widget constructed
  obtain ⟨found, _, _, _, rfl⟩ := checked_returns platform (.gpWidgetGetType _) Prod.fst Prod.snd _ checked type typed
  cases fit : isString type with
  | false => rw [fit] at body; cases body
  | true =>
      rw [fit, if_pos rfl] at body
      obtain ⟨value, valued, got, body⟩ := Prog.bind_eq_ok _ _ _ _ _ body
      obtain ⟨answer, _, good, rfl, rfl⟩ := checked_returns platform (.gpWidgetGetValueString _) Prod.fst Prod.snd _ valued value got
      cases body
      obtain ⟨freed, _, rfl⟩ := destroy_returns platform _ _ _ destroyed
      rw [← good]
      refine ⟨[⟨_, code⟩, ⟨.gpWidgetGetType _, found⟩], Widget.mk camera.gp.widgets configSerialNumber,
        [⟨.gpWidgetFree _, freed⟩], ?_, rfl⟩
      simp only [recorded, Gphoto.record, List.append_assoc, List.cons_append, List.nil_append]

inductive ConnectOutcome (before : Camera C F) : Outcome (Camera C F) Exn String → Prop where
  | refused (result : Int) (after : Camera C F) (failure : result ≠ gpOk)
      (logged : after.gp.log = before.gp.log ++ [⟨.gpCameraNew, result⟩]) (wrapper : after.wrapper = before.wrapper)
      (created : after.gp.created = before.gp.created) (freed : after.gp.freed = before.gp.freed)
      (misused : after.gp.misused = before.gp.misused) : ConnectOutcome before (.threw (.gPhotoError result) after)
  | abandoned (error : Exn) (after : Camera C F) (added : List (Answer F)) (failure : failing.harmful added)
      (logged : after.gp.log = before.gp.log ++ ⟨.gpCameraNew, gpOk⟩ :: added)
      (wrapper : after.wrapper = { before.wrapper with camera := some before.gp.created }) :
      ConnectOutcome before (.threw error after)
  | connects (serial : String) (after : Camera C F) (added : List (Answer F)) (granted : ¬ failing.harmful added)
      (read : ∃ widget, widget.configName = configSerialNumber ∧
        (⟨.gpWidgetGetValueString widget, (gpOk, serial)⟩ : Answer F) ∈ added)
      (logged : after.gp.log = before.gp.log ++ ⟨.gpCameraNew, gpOk⟩ :: added)
      (wrapper : after.wrapper = { connected := true, serial := serial, camera := some before.gp.created })
      (created : after.gp.created = before.gp.created + 1) (freed : after.gp.freed = before.gp.freed)
      (misused : before.gp.created ∉ before.gp.freed → after.gp.misused = before.gp.misused) :
      ConnectOutcome before (.ok serial after)

-- The wrapper while connect() holds the handle it has just made.
def opening (camera : Camera C F) (outside : C) : Camera C F where
  wrapper := { camera.wrapper with camera := some camera.gp.created }
  gp := camera.gp.record .gpCameraNew gpOk outside

theorem new_camera_cases (camera : Camera C F) :
    (∃ result outside, result ≠ gpOk ∧
      CameraWrapper.newCamera platform camera = .ok result (recorded camera .gpCameraNew result outside)) ∨
    ∃ outside, CameraWrapper.newCamera platform camera = .ok gpOk (opening camera outside) := by
  simp only [CameraWrapper.newCamera, Prog.bind_apply, Prog.get_apply, call_apply]
  obtain ⟨result, outside⟩ := platform.answer .gpCameraNew camera.gp.outside
  by_cases made : result = gpOk
  · subst made
    exact .inr ⟨outside, rfl⟩
  · simp only [made, if_false]
    exact .inl ⟨result, outside, made, rfl⟩

-- What follows a successful gp_camera_new.
def initialise : Prog (Camera C F) Exn String := do
  let result ← call platform (.gpCameraInit (← cameraPtr))
  if result = gpOk then
    let serial ← CameraWrapper.getSerialNumber platform
    CameraWrapper.update (fun wrapper => { wrapper with serial := serial })
    CameraWrapper.update (fun wrapper => { wrapper with connected := true })
    pure serial
  else
    let _ ← call platform (.gpCameraFree (← cameraPtr))
    Prog.throw (.gPhotoError result)

inductive InitialiseOutcome (before : Camera C F) : Outcome (Camera C F) Exn String → Prop where
  | abandoned (error : Exn) (after : Camera C F) (added : List (Answer F)) (failure : failing.harmful added)
      (logged : after.gp.log = before.gp.log ++ added) (wrapper : after.wrapper = before.wrapper) :
      InitialiseOutcome before (.threw error after)
  | connects (serial : String) (after : Camera C F) (added : List (Answer F)) (granted : ¬ failing.harmful added)
      (read : ∃ widget, widget.configName = configSerialNumber ∧
        (⟨.gpWidgetGetValueString widget, (gpOk, serial)⟩ : Answer F) ∈ added)
      (logged : after.gp.log = before.gp.log ++ added)
      (wrapper : after.wrapper = { connected := true, serial := serial, camera := before.wrapper.camera })
      (created : after.gp.created = before.gp.created) (freed : after.gp.freed = before.gp.freed)
      (misused : (∀ handle, before.wrapper.camera = some handle → handle ∉ before.gp.freed) →
        after.gp.misused = before.gp.misused) : InitialiseOutcome before (.ok serial after)

theorem initialise_cases (camera : Camera C F) : InitialiseOutcome camera (initialise platform camera) := by
  rw [initialise, Prog.bind_ok cameraPtr _ camera camera camera.wrapper.camera rfl,
    Prog.bind_ok _ _ _ _ _ (call_apply platform _ camera)]
  obtain ⟨result, outside⟩ := platform.answer (.gpCameraInit camera.wrapper.camera) camera.gp.outside
  have frame := same_recorded camera (.gpCameraInit camera.wrapper.camera) result outside rfl rfl (.inr rfl)
  by_cases good : result = gpOk
  · rw [if_pos good]
    have accuses := get_serial_number_accuses platform (recorded camera (.gpCameraInit camera.wrapper.camera) result outside)
    have within := CameraWrapper.read_widget_within platform configSerialNumber .ok
      (recorded camera (.gpCameraInit camera.wrapper.camera) result outside)
    rw [Prog.bind_apply]
    cases run : CameraWrapper.getSerialNumber platform
        (recorded camera (.gpCameraInit camera.wrapper.camera) result outside) with
    | ok serial after =>
        rw [run] at accuses
        have kept := trans_of SameHandles frame (Prog.within_ok SameHandles _ _ _ _
          (CameraWrapper.read_widget_within platform configSerialNumber .ok) run)
        obtain ⟨added, logged, granted, _⟩ := accuses
        obtain ⟨first, widget, last, answers, named⟩ := get_serial_number_logged platform serial _ after run
        have whole : added = first ++ ⟨.gpWidgetGetValueString widget, (gpOk, serial)⟩ :: last :=
          List.append_cancel_left (logged.symm.trans (answers.trans (List.append_assoc _ _ _)))
        apply InitialiseOutcome.connects serial _ (⟨.gpCameraInit camera.wrapper.camera, result⟩ :: added)
        · rw [failing_cons]
          exact not_or.mpr ⟨not_not.mpr good, granted⟩
        · exact ⟨widget, named, by simp [whole]⟩
        · exact logged.trans (by simp [answered, recorded, Gphoto.record])
        · simp only [← kept.wrapper]
        · exact kept.created
        · exact kept.freed
        · exact kept.misused
    | threw error after =>
        rw [run] at accuses
        have kept := trans_of SameHandles frame (Prog.within_threw SameHandles _ _ _ _
          (CameraWrapper.read_widget_within platform configSerialNumber .ok) run)
        obtain ⟨added, logged, harm, _⟩ := accuses
        apply InitialiseOutcome.abandoned error after (⟨.gpCameraInit camera.wrapper.camera, result⟩ :: added)
        · rw [failing_cons]
          exact .inr (harm.mpr not_false)
        · exact logged.trans (by simp [answered, recorded, Gphoto.record])
        · exact kept.wrapper
    | fault cause => rw [run] at accuses; exact accuses.elim
  · rw [if_neg good]
    dsimp only
    rw [Prog.bind_ok cameraPtr _ _ _ _ rfl, Prog.bind_ok _ _ _ _ _ (call_apply platform _ _)]
    apply InitialiseOutcome.abandoned (.gPhotoError result) _ (⟨.gpCameraInit camera.wrapper.camera, result⟩ ::
      [⟨.gpCameraFree camera.wrapper.camera, _⟩])
    · exact ⟨_, List.mem_cons_self, good⟩
    · simp only [recorded, Gphoto.record, List.append_assoc, List.cons_append, List.nil_append]
      rfl
    · rfl

theorem connect_cases (camera : Camera C F) (apart : camera.wrapper.connected = false) :
    ConnectOutcome camera (CameraWrapper.connect platform camera) := by
  simp only [CameraWrapper.connect, Prog.bind_apply, Prog.get_apply, apart, Bool.not_false, if_true]
  cases new_camera_cases platform camera with
  | inl refused =>
      obtain ⟨result, outside, failure, run⟩ := refused
      rw [run]
      simp only [ne_eq, failure, not_false_eq_true, if_true, Prog.throw_apply]
      exact .refused result _ failure rfl rfl (by simp [recorded, Gphoto.record, Call.makesCamera, failure])
        (by simp [recorded, Gphoto.record, Call.freesCamera]) (by simp [recorded, Gphoto.record, Call.handle])
  | inr made =>
      obtain ⟨outside, run⟩ := made
      rw [run]
      simp only [ne_eq, not_true_eq_false, if_false]
      change ConnectOutcome camera (initialise platform (opening camera outside))
      have tail := initialise_cases platform (opening camera outside)
      generalize initialise platform (opening camera outside) = outcome at tail
      have answers : ∀ added, (opening camera outside).gp.log ++ added = camera.gp.log ++ ⟨.gpCameraNew, gpOk⟩ :: added := by
        intro added
        simp only [opening, Gphoto.record, List.append_assoc, List.cons_append, List.nil_append]
      cases tail with
      | abandoned error after added failure logged wrapper =>
          exact .abandoned error after added failure (logged.trans (answers added)) wrapper
      | connects serial after added granted read logged wrapper created freed misused =>
          have kept : (opening camera outside).gp.freed = camera.gp.freed := List.append_nil _
          apply ConnectOutcome.connects serial after added granted read (logged.trans (answers added)) wrapper created
            (freed.trans kept)
          intro fresh
          rw [misused]
          · simp [opening, Gphoto.record, Call.handle]
          · intro handle own
            cases own
            rwa [kept]

end Connecting

end CameraController
