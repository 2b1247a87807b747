import CameraController.WrapperConnect
import CameraController.WrapperScripts

set_option autoImplicit false

namespace CameraController

open Effects CameraWidget CameraWrapper

section Faults

variable {C F A : Type} (platform : Platform C F)

def Call.entryName : Call → String
  | .gpCameraGetSingleConfig _ name => name
  | .gpWidgetGetType widget => widget.configName
  | .gpWidgetGetValueString widget => widget.configName
  | .gpWidgetGetValueFloat widget => widget.configName
  | _ => ""

def widgetFits (name : String) : CameraWidgetType → Bool := if name = configFocalLenght then isRange else isString

def checkedCode (result : Int) : Option Int := if result = gpOk then none else some result

-- The code of the GPhotoError that the answer to a checked call leads to.
def errorCode : Answer F → Option Int
  | ⟨.gpCameraNew, result⟩ => checkedCode result
  | ⟨.gpCameraInit _, result⟩ => checkedCode result
  | ⟨.gpCameraGetSingleConfig _ _, result⟩ => checkedCode result
  | ⟨.gpWidgetGetType widget, result⟩ =>
      if result.1 = gpOk ∧ widgetFits widget.configName result.2 = false then some gpErrorBadParameters
      else checkedCode result.1
  | ⟨.gpWidgetGetValueString _, result⟩ => checkedCode result.1
  | ⟨.gpWidgetGetValueFloat _, result⟩ => checkedCode result.1
  | ⟨.gpCameraCapture _, result⟩ => checkedCode result.1
  | _ => none

def fault (entry : Answer F) : Option (String × Int) := (errorCode entry).map (fun code => (entry.1.entryName, code))

def faults (calls : List (Answer F)) : List (String × Int) := calls.filterMap fault

-- The fault that a GPhotoError at the end of a program speaks of.
def raised (name : String) : Except Exn A → List (String × Int)
  | .error (.gPhotoError code) => [(name, code)]
  | _ => []

@[simp] theorem faults_nil : faults ([] : List (Answer F)) = [] := rfl

@[simp] theorem faults_append (first second : List (Answer F)) : faults (first ++ second) = faults first ++ faults second :=
  List.filterMap_append

theorem faults_bad (entry : Answer F) (calls : List (Answer F)) (code : Int) (bad : errorCode entry = some code) :
    faults (entry :: calls) = (entry.1.entryName, code) :: faults calls := by
  simp [faults, fault, bad]

theorem faults_good (entry : Answer F) (calls : List (Answer F)) (good : errorCode entry = none) :
    faults (entry :: calls) = faults calls := by
  simp [faults, fault, good]

theorem checked_bad (result : Int) (bad : result ≠ gpOk) : checkedCode result = some result := if_neg bad

theorem with_widget_faults (name : String) (body : Widget → Prog (Camera C F) Exn A) (camera : Camera C F)
    (bodyTells : ∀ widget after, widget.configName = name → Tells (fun calls ending => faults calls = raised name ending)
      (body widget) after) :
    Tells (fun calls ending => faults calls = raised name ending) (withWidget platform (widgetFits name) name body) camera := by
  apply tells_with_widget
  · intro result bad
    exact faults_bad _ _ result (checked_bad result bad)
  · intro id result type bad freed
    have code : errorCode (F := F) ⟨.gpWidgetGetType ⟨id, name⟩, (result, type)⟩ = some result := by
      simp [errorCode, bad, checkedCode]
    rw [faults_good _ _ rfl, faults_bad _ _ result code]
    rfl
  · intro id type unfit freed
    have code : errorCode (F := F) ⟨.gpWidgetGetType ⟨id, name⟩, (gpOk, type)⟩ = some gpErrorBadParameters := by
      simp [errorCode, unfit]
    rw [faults_good _ _ rfl, faults_bad _ _ _ code]
    rfl
  · intro id type after fit same
    have code : errorCode (F := F) ⟨.gpWidgetGetType ⟨id, name⟩, (gpOk, type)⟩ = none := by
      simp [errorCode, fit, checkedCode]
    apply tells_mono _ _ _ _ (bodyTells ⟨id, name⟩ after rfl)
    intro calls ending told freed
    rw [List.cons_append, faults_good _ _ rfl, List.cons_append, faults_good _ _ code, faults_append, told,
      faults_good _ _ rfl, faults_nil, List.append_nil]

theorem parsed_faults (name : String) (result : Except NumericError A) (camera : Camera C F) :
    Tells (fun calls ending => faults calls = raised name ending) (parsed result) camera := by
  cases result with
  | ok value => exact tells_pure _ camera value rfl
  | error error => exact tells_throw _ camera (.numeric error) rfl

theorem read_value_faults {B V : Type} (name : String) (c : Call) (code : c.Ret F → Int) (value : c.Ret F → V)
    (next : V → Prog (Camera C F) Exn B) (camera : Camera C F) (named : c.entryName = name)
    (checks : ∀ result, errorCode (F := F) ⟨c, result⟩ = checkedCode (code result))
    (rest : ∀ value after, Tells (fun calls ending => faults calls = raised name ending) (next value) after) :
    Tells (fun calls ending => faults calls = raised name ending) ((call platform c >>= fun result =>
      if code result ≠ gpOk then Prog.throw (.gPhotoError (code result)) else pure (value result)) >>= next) camera := by
  apply tells_checked
  · intro result bad
    rw [faults_bad _ _ (code result) (by rw [checks, checked_bad _ bad]), named]
    rfl
  · intro result after good same
    apply tells_mono _ _ _ _ (rest (value result) after)
    intro calls ending told
    exact (faults_good _ _ (by rw [checks, good]; rfl)).trans told

theorem read_widget_faults (name : String) (convert : String → Except NumericError A) (camera : Camera C F)
    (text : widgetFits name = isString) :
    Tells (fun calls ending => faults calls = raised name ending) (readWidget platform name convert) camera := by
  rw [readWidget, cameraWidgetString, ← text]
  apply with_widget_faults
  intro widget after named
  exact read_value_faults platform name (.gpWidgetGetValueString widget) Prod.fst Prod.snd
    (fun value => parsed (convert value)) after named (fun _ => rfl) (fun value last => parsed_faults name _ last)

theorem get_focal_length_faults (camera : Camera C F) :
    Tells (fun calls ending => faults calls = raised configFocalLenght ending) (getFocalLength platform) camera := by
  have range : widgetFits configFocalLenght = isRange := if_pos rfl
  rw [getFocalLength, cameraWidgetRange, ← range]
  apply with_widget_faults
  intro widget after named
  exact read_value_faults platform configFocalLenght (.gpWidgetGetValueFloat widget) Prod.fst Prod.snd
    (fun value => pure (platform.toInt value)) after named (fun _ => rfl) (fun value last => tells_pure _ last _ rfl)

theorem read_choices_faults (widget : Widget) (n i : Nat) (choices : List String) (camera : Camera C F) :
    Tells (fun calls ending => faults calls = [] ∧ ∃ read, ending = .ok read) (readChoices platform widget n i choices) camera := by
  induction n generalizing i choices camera with
  | zero => exact tells_pure _ camera choices ⟨rfl, choices, rfl⟩
  | succ n ih =>
      apply tells_call
      intro result after same
      dsimp only
      by_cases good : result.1 = gpOk
      · rw [if_pos good]
        exact ih (i + 1) (choices ++ [result.2]) after
      · rw [if_neg good]
        exact tells_pure _ after [] ⟨rfl, [], rfl⟩

theorem convert_all_faults (name : String) (convert : String → Except NumericError A) (choices : List String) (out : List A)
    (camera : Camera C F) :
    Tells (fun calls ending => faults calls = raised name ending) (convertAll convert choices out) camera := by
  induction choices generalizing out with
  | nil => exact tells_pure _ camera out rfl
  | cons c choices ih =>
      rw [convertAll]
      cases convert c with
      | ok value => exact ih (out ++ [value])
      | error error => exact tells_throw _ camera (.numeric error) rfl

theorem list_widget_faults (name : String) (convert : String → Except NumericError A) (camera : Camera C F)
    (text : widgetFits name = isString) :
    Tells (fun calls ending => faults calls = raised name ending) (listWidget platform name convert) camera := by
  rw [listWidget, cameraWidgetString, ← text]
  apply with_widget_faults
  intro widget after named
  rw [getAvailableValues, bind_assoc]
  apply tells_call
  intro count counted same
  apply tells_bind _ _ _ _ _ (read_choices_faults platform widget _ 0 [] counted)
  · rintro calls error ⟨_, read, contrary⟩
    cases contrary
  · rintro calls choices last ⟨none, _⟩ kept
    apply tells_mono _ _ _ _ (convert_all_faults name convert choices [] last)
    intro more ending told
    have silent : faults (⟨.gpWidgetCountChoices widget, count⟩ :: (calls ++ more)) = faults (calls ++ more) := faults_good _ _ rfl
    rw [silent, faults_append, none, told, List.nil_append]

theorem wired_capture_faults (camera : Camera C F) :
    Tells (fun calls ending => faults calls = raised "" ending) (wiredCapture platform) camera := by
  apply tells_own
  apply tells_call
  intro result after same
  dsimp only
  by_cases good : result.1 = gpOk
  · rw [if_pos good]
    exact tells_pure _ after _ (faults_good _ _ (if_pos good))
  · rw [if_neg good]
    exact tells_throw _ after _ (faults_bad _ _ result.1 (checked_bad _ good))

def Raises (named : String → Prop) (calls : List (Answer F)) (ending : Except Exn A) : Prop :=
  ∃ name, named name ∧ faults calls = raised name ending

theorem tells_raises (named : String → Prop) (name : String) (p : Prog (Camera C F) Exn A) (camera : Camera C F)
    (holds : named name) (told : Tells (fun calls ending => faults calls = raised name ending) p camera) :
    Logs (Raises named) p camera :=
  tells_logs _ camera p (tells_mono _ camera _ p told (fun _ _ found => ⟨name, holds, found⟩))

theorem initialise_faults (camera : Camera C F) : Logs (Raises (fun _ => True)) (initialise platform) camera := by
  rw [Logs, initialise, Prog.bind_ok cameraPtr _ camera camera camera.wrapper.camera rfl,
    Prog.bind_ok _ _ _ _ _ (call_apply platform _ camera)]
  generalize platform.answer (.gpCameraInit camera.wrapper.camera) camera.gp.outside = answer
  obtain ⟨result, outside⟩ := answer
  dsimp only
  by_cases good : result = gpOk
  · rw [if_pos good]
    obtain ⟨after, calls, ending, told, logged, _, run⟩ := read_widget_faults platform configSerialNumber .ok
      (recorded camera (.gpCameraInit camera.wrapper.camera) result outside) (if_neg (by decide))
    have unraised : faults (⟨.gpCameraInit camera.wrapper.camera, result⟩ :: calls) = faults calls :=
      faults_good _ _ (if_pos good)
    have whole : after.gp.log = camera.gp.log ++ ⟨.gpCameraInit camera.wrapper.camera, result⟩ :: calls := by
      simpa [recorded, Gphoto.record] using logged
    cases ending with
    | error error =>
        refine ⟨after, _, .error error, ⟨configSerialNumber, trivial, unraised.trans told⟩, whole, ?_⟩
        exact Prog.bind_threw _ _ _ _ _ run
    | ok serial =>
        refine ⟨{ after with wrapper := { after.wrapper with serial := serial, connected := true } }, _, .ok serial,
          ⟨"", trivial, unraised.trans told⟩, whole, ?_⟩
        exact Prog.bind_ok _ _ _ _ _ run
  · rw [if_neg good, Prog.bind_ok cameraPtr _ _ _ _ rfl, Prog.bind_ok _ _ _ _ _ (call_apply platform _ _)]
    generalize platform.answer (.gpCameraFree _) _ = answer
    obtain ⟨freed, beyond⟩ := answer
    refine ⟨_, [⟨.gpCameraInit camera.wrapper.camera, result⟩, ⟨.gpCameraFree camera.wrapper.camera, freed⟩],
      .error (.gPhotoError result), ⟨"", trivial, faults_bad _ _ result (checked_bad _ good)⟩, ?_, rfl⟩
    simp [recorded, Gphoto.record]

theorem connect_faults (camera : Camera C F) : Logs (Raises (fun _ => True)) (CameraWrapper.connect platform) camera := by
  cases apart : camera.wrapper.connected with
  | true =>
      refine ⟨camera, [], .ok camera.wrapper.serial, ⟨"", trivial, rfl⟩, (List.append_nil _).symm, ?_⟩
      simp [CameraWrapper.connect, Prog.bind_apply, apart, concluded]
  | false =>
      simp only [Logs, CameraWrapper.connect, Prog.bind_apply, Prog.get_apply, apart, Bool.not_false, if_true]
      cases new_camera_cases platform camera with
      | inl refused =>
          obtain ⟨result, outside, failure, run⟩ := refused
          rw [run]
          simp only [ne_eq, failure, not_false_eq_true, if_true, Prog.throw_apply]
          exact ⟨_, [⟨.gpCameraNew, result⟩], .error (.gPhotoError result),
            ⟨"", trivial, faults_bad _ _ result (checked_bad _ failure)⟩, rfl, rfl⟩
      | inr made =>
          obtain ⟨outside, run⟩ := made
          rw [run]
          simp only [ne_eq, not_true_eq_false, if_false]
          obtain ⟨after, calls, ending, ⟨name, _, told⟩, logged, ends⟩ := initialise_faults platform (opening camera outside)
          refine ⟨after, ⟨.gpCameraNew, gpOk⟩ :: calls, ending, ⟨name, trivial, (faults_good _ _ rfl).trans told⟩, ?_, ends⟩
          simpa [opening, Gphoto.record] using logged

end Faults

end CameraController
