import CameraController.Lib.Blame
import CameraController.WrapperFrame

set_option autoImplicit false

namespace CameraController

open Effects CameraWidget

section Answers

variable {C F A : Type} (platform : Platform C F) (H : Harm (Answer F)) (mild : Exn → Prop)

def answered (camera : Camera C F) : List (Answer F) := camera.gp.log

abbrev Accuses (silent : Prop) (p : Prog (Camera C F) Exn A) : Prop := Prog.Blames answered H mild silent p

def Judged (good : Prop) (entry : Answer F) (error : Exn) : Prop :=
  H.quiet [entry] ∧ (good → ¬ H.harmful [entry]) ∧ (¬ good → (H.harmful [entry] ↔ ¬ mild error))

theorem verdict_call (silent : Prop) (c : Call) (camera : Camera C F) (next : c.Ret F → Prog (Camera C F) Exn A)
    (quiet : ∀ result, H.quiet [⟨c, result⟩])
    (judged : ∀ result, (¬ H.harmful [⟨c, result⟩] ∧ Accuses H mild silent (next result)) ∨
      ∃ error, next result = Prog.throw error ∧ (H.harmful [⟨c, result⟩] ↔ ¬ mild error)) :
    Prog.Verdict answered H mild silent (answered camera) ((call platform c >>= next) camera) := by
  rw [Prog.bind_ok _ _ _ _ _ (call_apply platform c camera)]
  cases judged (platform.answer c camera.gp.outside).1 with
  | inl goes =>
      apply Prog.verdict_after answered H mild silent silent _ _ [⟨c, _⟩] goes.1 (.inl (quiet _))
        (fun silence => ⟨quiet _, silence⟩)
      exact goes.2 _
  | inr stops =>
      obtain ⟨error, throws, harm⟩ := stops
      rw [throws]
      exact ⟨[⟨c, _⟩], rfl, harm, fun _ => quiet _⟩

theorem accuses_call (c : Call) (harmless : ∀ result : c.Ret F, ¬ H.harmful [⟨c, result⟩])
    (quiet : ∀ result : c.Ret F, H.quiet [⟨c, result⟩]) : Accuses H mild True (call platform c) := by
  intro camera
  exact ⟨[⟨c, _⟩], rfl, harmless _, fun _ => quiet _⟩

theorem verdict_checked (c : Call) (camera : Camera C F) (code : c.Ret F → Int) (value : c.Ret F → A)
    (judged : ∀ result, Judged H mild (code result = gpOk) ⟨c, result⟩ (.gPhotoError (code result))) :
    Prog.Verdict answered H mild True (answered camera)
      ((call platform c >>= fun result =>
        if code result ≠ gpOk then Prog.throw (.gPhotoError (code result)) else pure (value result)) camera) := by
  apply verdict_call platform H mild True c camera _ (fun result => (judged result).1)
  intro result
  obtain ⟨_, harmless, harm⟩ := judged result
  by_cases good : code result = gpOk
  · rw [if_neg (not_not.mpr good)]
    exact .inl ⟨harmless good, Prog.blames_pure answered H mild True _⟩
  · rw [if_pos good]
    exact .inr ⟨_, rfl, harm good⟩

theorem construct_accuses (configName : String)
    (judged : ∀ ptr result, Judged H mild (result = gpOk) ⟨.gpCameraGetSingleConfig ptr configName, result⟩
      (.gPhotoError result)) : Accuses H mild True (construct platform (C := C) configName) := by
  intro camera
  exact verdict_checked platform H mild (.gpCameraGetSingleConfig camera.wrapper.camera configName) camera
    (fun result => result) (fun _ => Widget.mk camera.gp.widgets configName)
    (judged camera.wrapper.camera)

theorem construct_named (configName : String) (camera : Camera C F) (widget : Widget) (after : Camera C F)
    (run : construct platform configName camera = .ok widget after) : widget.configName = configName := by
  rw [construct] at run
  obtain ⟨before, start, _, run⟩ := Prog.bind_eq_ok _ _ _ _ _ run
  obtain ⟨result, called, _, run⟩ := Prog.bind_eq_ok _ _ _ _ _ run
  by_cases good : result = gpOk
  · rw [if_neg (not_not.mpr good)] at run
    cases run
    rfl
  · rw [if_pos good] at run
    cases run

structure JudgesScope (fits : CameraWidgetType → Bool) (configName : String) : Prop where
  constructs : ∀ ptr result, Judged H mild (result = gpOk) ⟨.gpCameraGetSingleConfig ptr configName, result⟩
    (.gPhotoError result)
  checks : ∀ widget result, Judged H mild (result.1 = gpOk ∧ fits result.2 = true) ⟨.gpWidgetGetType widget, result⟩
    (.gPhotoError (if result.1 = gpOk then gpErrorBadParameters else result.1))
  frees : ∀ widget result, ¬ H.harmful [⟨.gpWidgetFree widget, result⟩] ∧ H.quiet [⟨.gpWidgetFree widget, result⟩]

theorem with_widget_accuses (silent : Prop) (fits : CameraWidgetType → Bool) (configName : String)
    (body : Widget → Prog (Camera C F) Exn A) (judges : JudgesScope H mild fits configName)
    (bodyAccuses : ∀ widget, widget.configName = configName → Accuses H mild silent (body widget)) :
    Accuses H mild silent (withWidget platform fits configName body) := by
  have opened := construct_accuses platform H mild configName judges.constructs
  apply Prog.blames_bind_of answered H mild silent True silent _ _ (fun widget : Widget => widget.configName = configName)
    (.inl trivial) (fun silence => ⟨trivial, silence⟩) opened (construct_named platform configName)
  intro widget named
  apply Prog.blames_withDestructor answered H mild silent
  · intro camera
    rw [getType, bind_assoc]
    apply verdict_call platform H mild silent (.gpWidgetGetType widget) camera _ (fun result => (judges.checks widget result).1)
    intro result
    obtain ⟨_, harmless, harm⟩ := judges.checks widget result
    by_cases good : result.1 = gpOk
    · rw [if_pos good] at harm
      simp only [ne_eq, good, not_true_eq_false, if_false, pure_bind]
      cases fit : fits result.2 with
      | true => exact .inl ⟨harmless ⟨good, fit⟩, bodyAccuses widget named⟩
      | false => exact .inr ⟨_, rfl, harm (by simp [fit])⟩
    · rw [if_neg good] at harm
      simp only [ne_eq, good, not_false_eq_true, if_true]
      exact .inr ⟨_, rfl, harm (fun both => good both.1)⟩
  · intro camera
    exact ⟨_, [⟨.gpWidgetFree widget, _⟩], rfl, rfl, (judges.frees widget _).1, (judges.frees widget _).2⟩

def JudgesValue (convert : String → Except NumericError A) (widget : Widget) (result : Int × String) : Prop :=
  H.quiet [⟨.gpWidgetGetValueString widget, result⟩] ∧
    (result.1 ≠ gpOk → (H.harmful [⟨.gpWidgetGetValueString widget, result⟩] ↔ ¬ mild (.gPhotoError result.1))) ∧
    (result.1 = gpOk → ∀ value, convert result.2 = .ok value → ¬ H.harmful [⟨.gpWidgetGetValueString widget, result⟩]) ∧
    (result.1 = gpOk → ∀ error, convert result.2 = .error error →
      (H.harmful [⟨.gpWidgetGetValueString widget, result⟩] ↔ ¬ mild (.numeric error)))

theorem read_widget_accuses (configName : String) (convert : String → Except NumericError A)
    (judges : JudgesScope H mild isString configName)
    (judged : ∀ widget, widget.configName = configName → ∀ result, JudgesValue H mild convert widget result) :
    Accuses H mild True (CameraWrapper.readWidget platform (C := C) configName convert) := by
  apply with_widget_accuses platform H mild True isString configName _ judges
  intro widget named camera
  rw [getValue, bind_assoc]
  apply verdict_call platform H mild True (.gpWidgetGetValueString widget) camera _
    (fun result => (judged widget named result).1)
  intro result
  obtain ⟨_, unread, converts, fails⟩ := judged widget named result
  by_cases good : result.1 = gpOk
  · simp only [ne_eq, good, not_true_eq_false, if_false, pure_bind]
    cases converted : convert result.2 with
    | ok value => exact .inl ⟨converts good value converted, Prog.blames_pure answered H mild True value⟩
    | error error => exact .inr ⟨.numeric error, rfl, fails good error converted⟩
  · simp only [ne_eq, good, not_false_eq_true, if_true]
    exact .inr ⟨_, rfl, unread good⟩

end Answers

end CameraController
