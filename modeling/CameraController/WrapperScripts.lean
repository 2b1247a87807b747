import CameraController.WrapperFrame

set_option autoImplicit false

namespace CameraController

open Effects CameraWidget

section Scripts

variable {C F A B : Type} (platform : Platform C F)

def concluded {X A : Type} (after : X) : Except Exn A → Outcome X Exn A
  | .ok value => .ok value after
  | .error error => .threw error after

-- The program makes the calls of a script, with the answers it has there, ends
-- as the script says and leaves the wrapper as it was.
def Tells (script : List (Answer F) → Except Exn A → Prop) (p : Prog (Camera C F) Exn A) (camera : Camera C F) : Prop :=
  ∃ after calls ending, script calls ending ∧ after.gp.log = camera.gp.log ++ calls ∧ after.wrapper = camera.wrapper ∧
    p camera = concluded after ending

def Logs (script : List (Answer F) → Except Exn A → Prop) (p : Prog (Camera C F) Exn A) (camera : Camera C F) : Prop :=
  ∃ after calls ending, script calls ending ∧ after.gp.log = camera.gp.log ++ calls ∧ p camera = concluded after ending

variable (script : List (Answer F) → Except Exn A → Prop) (camera : Camera C F)

theorem tells_logs (p : Prog (Camera C F) Exn A) (told : Tells script p camera) : Logs script p camera := by
  obtain ⟨after, calls, ending, fits, logged, _, run⟩ := told
  exact ⟨after, calls, ending, fits, logged, run⟩

theorem tells_pure (value : A) (fits : script [] (.ok value)) : Tells script (pure value) camera :=
  ⟨camera, [], .ok value, fits, (List.append_nil _).symm, rfl, rfl⟩

theorem tells_throw (error : Exn) (fits : script [] (.error error)) : Tells script (Prog.throw error) camera :=
  ⟨camera, [], .error error, fits, (List.append_nil _).symm, rfl, rfl⟩

theorem tells_mono (stronger : List (Answer F) → Except Exn A → Prop) (p : Prog (Camera C F) Exn A)
    (told : Tells stronger p camera) (weaker : ∀ calls ending, stronger calls ending → script calls ending) :
    Tells script p camera := by
  obtain ⟨after, calls, ending, fits, rest⟩ := told
  exact ⟨after, calls, ending, weaker calls ending fits, rest⟩

theorem tells_call (c : Call) (next : c.Ret F → Prog (Camera C F) Exn A)
    (rest : ∀ result after, after.wrapper = camera.wrapper →
      Tells (fun calls ending => script (⟨c, result⟩ :: calls) ending) (next result) after) :
    Tells script (call platform c >>= next) camera := by
  have run := call_apply platform c camera
  generalize platform.answer c camera.gp.outside = answer at run
  obtain ⟨result, outside⟩ := answer
  obtain ⟨after, calls, ending, fits, logged, wrapper, ends⟩ := rest result (recorded camera c result outside) rfl
  refine ⟨after, ⟨c, result⟩ :: calls, ending, fits, ?_, wrapper, ?_⟩
  · simpa [recorded, Gphoto.record] using logged
  · rw [Prog.bind_ok _ _ _ _ _ run]
    exact ends

theorem tells_bind (heads : List (Answer F) → Except Exn B → Prop) (first : Prog (Camera C F) Exn B)
    (next : B → Prog (Camera C F) Exn A) (told : Tells heads first camera)
    (fails : ∀ calls error, heads calls (.error error) → script calls (.error error))
    (rest : ∀ calls value after, heads calls (.ok value) → after.wrapper = camera.wrapper →
      Tells (fun more ending => script (calls ++ more) ending) (next value) after) : Tells script (first >>= next) camera := by
  obtain ⟨middle, calls, ending, fits, logged, wrapper, ends⟩ := told
  cases ending with
  | error error =>
      exact ⟨middle, calls, .error error, fails calls error fits, logged, wrapper, Prog.bind_threw _ _ _ _ _ ends⟩
  | ok value =>
      obtain ⟨after, more, ending, whole, extended, kept, run⟩ := rest calls value middle fits wrapper
      refine ⟨after, calls ++ more, ending, whole, ?_, kept.trans wrapper, ?_⟩
      · rw [extended, logged, List.append_assoc]
      · rw [Prog.bind_ok _ _ _ _ _ ends]
        exact run

theorem tells_own (next : Option Nat → Prog (Camera C F) Exn A) (rest : Tells script (next camera.wrapper.camera) camera) :
    Tells script (cameraPtr >>= next) camera := rest

theorem tells_checked (c : Call) (code : c.Ret F → Int) (value : c.Ret F → B) (next : B → Prog (Camera C F) Exn A)
    (bad : ∀ result, code result ≠ gpOk → script [⟨c, result⟩] (.error (.gPhotoError (code result))))
    (rest : ∀ result after, code result = gpOk → after.wrapper = camera.wrapper →
      Tells (fun calls ending => script (⟨c, result⟩ :: calls) ending) (next (value result)) after) :
    Tells script ((call platform c >>= fun result =>
      if code result ≠ gpOk then Prog.throw (.gPhotoError (code result)) else pure (value result)) >>= next) camera := by
  rw [bind_assoc]
  apply tells_call
  intro result after same
  by_cases good : code result = gpOk
  · rw [if_neg (not_not.mpr good), pure_bind]
    exact rest result after good same
  · rw [if_pos good]
    exact tells_throw _ after (.gPhotoError (code result)) (bad result good)

theorem tells_destroyed (widget : Widget) (body : Prog (Camera C F) Exn A)
    (told : Tells (fun calls ending => ∀ freed, script (calls ++ [⟨.gpWidgetFree widget, freed⟩]) ending) body camera) :
    Tells script (Prog.withDestructor body (destroy platform widget)) camera := by
  obtain ⟨after, calls, ending, fits, logged, wrapper, ends⟩ := told
  have freed := call_apply platform (.gpWidgetFree widget) after
  generalize platform.answer (.gpWidgetFree widget) after.gp.outside = answer at freed
  obtain ⟨result, outside⟩ := answer
  refine ⟨recorded after (.gpWidgetFree widget) result outside, _, ending, fits result, ?_, wrapper, ?_⟩
  · simp [recorded, Gphoto.record, logged]
  · rw [Prog.withDestructor, ends]
    cases ending with
    | ok value => simp only [concluded, destroy, Prog.bind_apply, freed, Prog.pure_apply, Prog.ret]
    | error error => simp only [concluded, destroy, Prog.bind_apply, freed, Prog.pure_apply, Prog.throw_apply]

theorem tells_with_widget (fits : CameraWidgetType → Bool) (configName : String) (body : Widget → Prog (Camera C F) Exn A)
    (unread : ∀ result : Int, result ≠ gpOk →
      script [⟨.gpCameraGetSingleConfig camera.wrapper.camera configName, result⟩] (.error (.gPhotoError result)))
    (untyped : ∀ id result type, result ≠ gpOk → ∀ freed : Int,
      script [⟨.gpCameraGetSingleConfig camera.wrapper.camera configName, gpOk⟩,
        ⟨.gpWidgetGetType ⟨id, configName⟩, (result, type)⟩, ⟨.gpWidgetFree ⟨id, configName⟩, freed⟩] (.error (.gPhotoError result)))
    (mistyped : ∀ id type, fits type = false → ∀ freed : Int,
      script [⟨.gpCameraGetSingleConfig camera.wrapper.camera configName, gpOk⟩,
        ⟨.gpWidgetGetType ⟨id, configName⟩, (gpOk, type)⟩, ⟨.gpWidgetFree ⟨id, configName⟩, freed⟩]
          (.error (.gPhotoError gpErrorBadParameters)))
    (within : ∀ id type after, fits type = true → after.wrapper = camera.wrapper →
      Tells (fun calls ending => ∀ freed : Int,
        script (⟨.gpCameraGetSingleConfig camera.wrapper.camera configName, gpOk⟩ ::
          ⟨.gpWidgetGetType ⟨id, configName⟩, (gpOk, type)⟩ :: calls ++ [⟨.gpWidgetFree ⟨id, configName⟩, freed⟩]) ending)
        (body ⟨id, configName⟩) after) :
    Tells script (withWidget platform fits configName body) camera := by
  apply tells_checked platform script camera (.gpCameraGetSingleConfig camera.wrapper.camera configName)
    (fun result => result) (fun _ => Widget.mk camera.gp.widgets configName) _ unread
  intro result opened good same
  have answer : result = gpOk := good
  subst answer
  apply tells_destroyed
  apply tells_checked platform _ opened (.gpWidgetGetType _) Prod.fst Prod.snd
  · intro result bad freed
    exact untyped _ result.1 result.2 bad freed
  · intro result typed good kept
    obtain ⟨code, type⟩ := result
    have answer : code = gpOk := good
    subst answer
    cases fit : fits type with
    | true =>
        rw [if_pos rfl]
        exact within _ type typed fit (kept.trans same)
    | false =>
        rw [if_neg Bool.noConfusion]
        exact tells_throw _ typed _ (mistyped _ type fit)

end Scripts

end CameraController
