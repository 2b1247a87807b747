import CameraController.WrapperWalks

set_option autoImplicit false

namespace CameraController

open Effects CameraWidget

section Frame

variable {C F A B : Type} (platform : Platform C F)

-- What every call of gphoto2 leaves alone unless it makes or frees a camera,
-- as long as the handle of the wrapper is not one already freed. The log only
-- grows.
structure SameHandles (before after : Camera C F) : Prop where
  wrapper : after.wrapper = before.wrapper
  created : after.gp.created = before.gp.created
  freed : after.gp.freed = before.gp.freed
  misused : (∀ handle, before.wrapper.camera = some handle → handle ∉ before.gp.freed) →
    after.gp.misused = before.gp.misused
  logged : before.gp.log <+: after.gp.log

instance : Std.Refl (SameHandles (C := C) (F := F)) where
  refl := fun _ => ⟨rfl, rfl, rfl, fun _ => rfl, List.prefix_rfl⟩

instance : IsTrans (Camera C F) SameHandles where
  trans := by
    intro first second third left right
    refine ⟨right.wrapper.trans left.wrapper, right.created.trans left.created, right.freed.trans left.freed, ?_,
      left.logged.trans right.logged⟩
    intro live
    rw [right.misused (by rwa [left.wrapper, left.freed]), left.misused live]

def recorded (camera : Camera C F) (c : Call) (result : c.Ret F) (outside : C) : Camera C F :=
  { camera with gp := camera.gp.record c result outside }

theorem call_apply (c : Call) (camera : Camera C F) : call platform c camera =
    .ok (platform.answer c camera.gp.outside).1
      (recorded camera c (platform.answer c camera.gp.outside).1 (platform.answer c camera.gp.outside).2) := rfl

theorem same_recorded (camera : Camera C F) (c : Call) (result : c.Ret F) (outside : C)
    (makes : c.makesCamera result = false) (frees : c.freesCamera = none)
    (passes : c.handle = none ∨ c.handle = camera.wrapper.camera) :
    SameHandles camera (recorded camera c result outside) := by
  refine ⟨rfl, ?_, ?_, ?_, List.prefix_append _ _⟩
  · simp [recorded, Gphoto.record, makes]
  · simp [recorded, Gphoto.record, frees]
  · intro live
    apply if_neg
    rintro ⟨handle, passed, gone⟩
    cases passes with
    | inl none => rw [none] at passed; cases passed
    | inr own => exact live handle (own ▸ passed) gone

theorem within_call (c : Call) (makes : ∀ result : c.Ret F, c.makesCamera result = false)
    (frees : c.freesCamera = none) (passes : c.handle = none) : Prog.Within SameHandles (call platform c) :=
  fun camera => same_recorded camera c _ _ (makes _) frees (.inl passes)

theorem after_own_call (c : Call) (camera : Camera C F) (next : c.Ret F → Prog (Camera C F) Exn B)
    (makes : ∀ result : c.Ret F, c.makesCamera result = false) (frees : c.freesCamera = none)
    (passes : c.handle = camera.wrapper.camera) (nextWithin : ∀ result, Prog.Within SameHandles (next result)) :
    ((call platform c >>= next) camera).Ends (SameHandles camera) := by
  have here := same_recorded camera c _ (platform.answer c camera.gp.outside).2
    (makes (platform.answer c camera.gp.outside).1) frees (.inr passes)
  exact Outcome.ends_mono _ _ _ (fun _ step => trans_of SameHandles here step) (nextWithin _ _)

theorem checked_returns (c : Call) (code : c.Ret F → Int) (value : c.Ret F → A) (camera after : Camera C F) (v : A)
    (run : (call platform c >>= fun result =>
      if code result ≠ gpOk then Prog.throw (.gPhotoError (code result)) else pure (value result)) camera =
        .ok v after) :
    ∃ result outside, code result = gpOk ∧ v = value result ∧ after = recorded camera c result outside := by
  rw [Prog.bind_ok _ _ _ _ _ (call_apply platform c camera)] at run
  by_cases good : code (platform.answer c camera.gp.outside).1 = gpOk
  · rw [if_neg (not_not.mpr good)] at run
    cases run
    exact ⟨_, _, good, rfl, rfl⟩
  · rw [if_pos good] at run
    cases run

theorem construct_within (configName : String) : Prog.Within SameHandles (construct platform configName) := by
  intro camera
  apply after_own_call platform (.gpCameraGetSingleConfig camera.wrapper.camera configName) camera
    (fun result => if result ≠ gpOk then Prog.throw (.gPhotoError result) else pure _) (fun _ => rfl) rfl rfl
  intro result
  exact throw_unless_within _ result _

theorem destroy_returns (widget : Widget) (camera after : Camera C F) (run : destroy platform widget camera = .ok () after) :
    ∃ result outside, after = recorded camera (.gpWidgetFree widget) result outside := by
  cases run
  exact ⟨_, _, rfl⟩

theorem destroy_within (widget : Widget) : Prog.Within SameHandles (destroy platform widget) :=
  Prog.within_bind _ _ _ (within_call platform _ (fun _ => rfl) rfl rfl) (fun _ => Prog.within_pure _ _)

theorem same_widget_keeps (widget : Widget) : WidgetKeeps platform (SameHandles (C := C) (F := F)) widget where
  asks := by
    intro c about
    cases c <;> first | exact within_call platform _ (fun _ => rfl) rfl rfl | cases about
  sets := by
    intro camera
    exact same_recorded camera (.gpCameraSetSingleConfig camera.wrapper.camera widget.configName widget) _ _ rfl rfl (.inr rfl)

theorem with_widget_within (fits : CameraWidgetType → Bool) (configName : String)
    (body : Widget → Prog (Camera C F) Exn A) (bodyWithin : ∀ widget, Prog.Within SameHandles (body widget)) :
    Prog.Within SameHandles (withWidget platform fits configName body) := by
  apply Prog.within_bind _ _ _ (construct_within platform configName)
  intro widget
  apply Prog.within_withDestructor _ _ _ _ (destroy_within platform widget)
  apply Prog.within_bind _ _ _ (get_type_within platform (same_widget_keeps platform widget))
  intro type
  cases fits type with
  | true => exact bodyWithin widget
  | false => exact Prog.within_throw _ _

theorem same_scope_keeps : ScopeKeeps platform (fun _ => SameHandles (C := C) (F := F)) SameHandles where
  widget := same_widget_keeps platform
  scope := with_widget_within platform

end Frame

namespace CameraWrapper

variable {C F A : Type} (platform : Platform C F)

theorem read_widget_within (configName : String) (convert : String → Except NumericError A) :
    Prog.Within SameHandles (readWidget platform configName convert) :=
  read_widget_keeps platform (same_scope_keeps platform) configName convert

theorem write_widget_within (configName value : String) : Prog.Within SameHandles (writeWidget platform configName value) :=
  write_widget_keeps platform (same_scope_keeps platform) configName value

theorem list_widget_within (configName : String) (convert : String → Except NumericError A) :
    Prog.Within SameHandles (listWidget platform configName convert) :=
  list_widget_keeps platform (same_scope_keeps platform) configName convert

theorem get_focal_length_within : Prog.Within SameHandles (getFocalLength platform) :=
  get_focal_length_keeps platform (same_scope_keeps platform)

theorem wired_capture_within : Prog.Within SameHandles (wiredCapture platform) := by
  intro camera
  apply after_own_call platform (.gpCameraCapture camera.wrapper.camera) camera
    (fun answered => if answered.1 = gpOk then pure answered.2 else Prog.throw (.gPhotoError answered.1))
    (fun _ => rfl) rfl rfl
  intro answered
  split
  · exact Prog.within_pure _ _
  · exact Prog.within_throw _ _

def filePath (path : CameraPath) : CameraFilePath where
  name := cString path.name
  folder := cString path.folder

def fits (path : CameraPath) : Bool :=
  (cString path.name).utf8ByteSize < platform.nameCapacity && (cString path.folder).utf8ByteSize < platform.folderCapacity

theorem to_camera_file_path_bind {W B : Type} (path : CameraPath) (next : CameraFilePath → Prog W Exn B) :
    (toCameraFilePath platform path >>= next) = if fits platform path then next (filePath path) else Prog.fault .overflow := by
  unfold toCameraFilePath strcpy fits
  rw [bind_assoc]
  by_cases name : (cString path.name).utf8ByteSize < platform.nameCapacity
  · rw [if_pos name, pure_bind, bind_assoc]
    by_cases folder : (cString path.folder).utf8ByteSize < platform.folderCapacity
    · rw [if_pos folder, pure_bind, pure_bind]
      simp [name, folder, filePath]
    · rw [if_neg folder, Prog.fault_bind]
      simp [folder]
  · rw [if_neg name, Prog.fault_bind]
    simp [name]

theorem transfer_within (path : CameraFilePath) (fd : Int) : Prog.Within SameHandles (transfer platform path fd) := by
  apply Prog.within_bind _ _ _ (within_call platform _ (fun _ => rfl) rfl rfl)
  intro result
  split
  · exact Prog.within_pure _ _
  · intro camera
    exact after_own_call platform (.gpCameraFileGet camera.wrapper.camera path.folder path.name) camera
      (fun result => pure (result, true)) (fun _ => rfl) rfl rfl (fun _ => Prog.within_pure _ _)

theorem download_file_within (path : CameraFilePath) (destFilePath : String) :
    Prog.Within SameHandles (downloadFile platform path destFilePath) := by
  apply Prog.within_bind _ _ _ (within_call platform _ (fun _ => rfl) rfl rfl)
  intro opened
  cases opened with
  | false => exact Prog.within_throw _ _
  | true =>
      apply Prog.within_bind _ _ _ (within_call platform _ (fun _ => rfl) rfl rfl)
      intro fd
      dsimp only
      split
      · exact Prog.within_bind _ _ _ (within_call platform _ (fun _ => rfl) rfl rfl) (fun _ => Prog.within_throw _ _)
      · apply Prog.within_bind _ _ _ (transfer_within platform path fd)
        intro transferred
        apply Prog.within_bind _ _ _ (within_call platform _ (fun _ => rfl) rfl rfl)
        intro _
        cases transferred.2 with
        | false => exact throw_unless_within _ _ _
        | true =>
            exact Prog.within_bind _ _ _ (within_call platform _ (fun _ => rfl) rfl rfl)
              (fun _ => throw_unless_within _ _ _)

end CameraWrapper

end CameraController
