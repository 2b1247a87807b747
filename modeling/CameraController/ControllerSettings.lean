import CameraController.ControllerCommands
import CameraController.ControllerConnection
import CameraController.ControllerDownload
import CameraController.Lib.Turns
import CameraController.WrapperScripts

set_option autoImplicit false

namespace CameraController

open Effects CameraWidget CameraWrapper CameraStringConversion

section Writing

variable {C F : Type} (platform : Platform C F)

-- The ways through a setter: what was answered on each, and how it ends.
inductive Written (camera : Option Nat) (name value : String) : List (Answer F) → Except Exn Unit → Prop where
  | unread (result : Int) (refused : result ≠ gpOk) :
      Written camera name value [⟨.gpCameraGetSingleConfig camera name, result⟩] (.error (.gPhotoError result))
  | untyped (id : Nat) (result : Int) (type : CameraWidgetType) (freed : Int) (refused : result ≠ gpOk) :
      Written camera name value [⟨.gpCameraGetSingleConfig camera name, gpOk⟩, ⟨.gpWidgetGetType ⟨id, name⟩, (result, type)⟩,
        ⟨.gpWidgetFree ⟨id, name⟩, freed⟩] (.error (.gPhotoError result))
  | mistyped (id : Nat) (type : CameraWidgetType) (freed : Int) (unfit : isString type = false) :
      Written camera name value [⟨.gpCameraGetSingleConfig camera name, gpOk⟩, ⟨.gpWidgetGetType ⟨id, name⟩, (gpOk, type)⟩,
        ⟨.gpWidgetFree ⟨id, name⟩, freed⟩] (.error (.gPhotoError gpErrorBadParameters))
  | readOnly (id : Nat) (type : CameraWidgetType) (set freed : Int) (flag : Int × Int) (named : Int × String) (widget : String)
      (fit : isString type = true) (fixed : flag.1 ≠ gpOk ∨ flag.2 ≠ 0) :
      Written camera name value [⟨.gpCameraGetSingleConfig camera name, gpOk⟩, ⟨.gpWidgetGetType ⟨id, name⟩, (gpOk, type)⟩,
        ⟨.gpWidgetSetValue ⟨id, name⟩ value, set⟩, ⟨.gpWidgetGetReadonly ⟨id, name⟩, flag⟩,
        ⟨.gpWidgetGetName ⟨id, name⟩, named⟩, ⟨.gpWidgetFree ⟨id, name⟩, freed⟩] (.error (.widgetReadOnlyError widget))
  | unapplied (id : Nat) (type : CameraWidgetType) (set result freed : Int) (fit : isString type = true)
      (refused : result ≠ gpOk) :
      Written camera name value [⟨.gpCameraGetSingleConfig camera name, gpOk⟩, ⟨.gpWidgetGetType ⟨id, name⟩, (gpOk, type)⟩,
        ⟨.gpWidgetSetValue ⟨id, name⟩ value, set⟩, ⟨.gpWidgetGetReadonly ⟨id, name⟩, (gpOk, 0)⟩,
        ⟨.gpCameraSetSingleConfig camera name ⟨id, name⟩, result⟩, ⟨.gpWidgetFree ⟨id, name⟩, freed⟩]
        (.error (.gPhotoError result))
  | complete (id : Nat) (type : CameraWidgetType) (set freed : Int) (fit : isString type = true) :
      Written camera name value [⟨.gpCameraGetSingleConfig camera name, gpOk⟩, ⟨.gpWidgetGetType ⟨id, name⟩, (gpOk, type)⟩,
        ⟨.gpWidgetSetValue ⟨id, name⟩ value, set⟩, ⟨.gpWidgetGetReadonly ⟨id, name⟩, (gpOk, 0)⟩,
        ⟨.gpCameraSetSingleConfig camera name ⟨id, name⟩, gpOk⟩, ⟨.gpWidgetFree ⟨id, name⟩, freed⟩] (.ok ())

theorem read_only_tells (widget : Widget) (camera : Camera C F) (script : List (Answer F) → Except Exn Unit → Prop)
    (told : ∀ named text, script [⟨.gpWidgetGetName widget, named⟩] (.error (.widgetReadOnlyError text))) :
    Tells script (getName platform widget >>= fun text => Prog.throw (.widgetReadOnlyError text)) camera := by
  rw [getName, bind_assoc]
  apply tells_call
  intro named after same
  by_cases good : named.1 = gpOk
  · simp only [good, ne_eq, not_true_eq_false, if_false, pure_bind]
    exact tells_throw _ after _ (told named named.2)
  · simp only [good, ne_eq, not_false_eq_true, if_true, pure_bind]
    exact tells_throw _ after _ (told named "")

theorem apply_tells (widget : Widget) (camera : Camera C F) (script : List (Answer F) → Except Exn Unit → Prop)
    (readOnly : ∀ flag named text, flag.1 ≠ gpOk ∨ flag.2 ≠ 0 →
      script [⟨.gpWidgetGetReadonly widget, flag⟩, ⟨.gpWidgetGetName widget, named⟩] (.error (.widgetReadOnlyError text)))
    (unapplied : ∀ result : Int, result ≠ gpOk → script [⟨.gpWidgetGetReadonly widget, (gpOk, 0)⟩,
      ⟨.gpCameraSetSingleConfig camera.wrapper.camera widget.configName widget, result⟩] (.error (.gPhotoError result)))
    (complete : script [⟨.gpWidgetGetReadonly widget, (gpOk, 0)⟩,
      ⟨.gpCameraSetSingleConfig camera.wrapper.camera widget.configName widget, gpOk⟩] (.ok ())) :
    Tells script (apply platform widget) camera := by
  rw [apply, isReadOnly, bind_assoc]
  apply tells_call
  intro flag asked same
  by_cases good : flag.1 = gpOk
  · by_cases writable : flag.2 = 0
    · simp only [good, writable, ne_eq, not_true_eq_false, if_false, pure_bind, bne_self_eq_false, Bool.not_false, if_true]
      obtain ⟨code, value⟩ := flag
      subst good writable
      rw [← same] at unapplied complete
      apply tells_own
      apply tells_call
      intro result after kept
      by_cases set : result = gpOk
      · subst set
        exact tells_pure _ after () complete
      · rw [if_pos set]
        exact tells_throw _ after _ (unapplied result set)
    · have flagged : (flag.2 != 0) = true := bne_iff_ne.mpr writable
      simp only [good, flagged, ne_eq, not_true_eq_false, if_false, pure_bind, Bool.not_true, Bool.false_eq_true]
      exact read_only_tells platform widget asked _ (fun named text => readOnly flag named text (.inr writable))
  · simp only [good, ne_eq, not_false_eq_true, if_true, pure_bind, Bool.not_true, Bool.false_eq_true, if_false]
    exact read_only_tells platform widget asked _ (fun named text => readOnly flag named text (.inl good))

theorem write_widget_written (name value : String) (camera : Camera C F) :
    Tells (Written camera.wrapper.camera name value) (writeWidget platform name value) camera := by
  apply tells_with_widget platform _ camera isString name
  · exact fun result bad => .unread result bad
  · exact fun id result type bad freed => .untyped id result type freed bad
  · exact fun id type unfit freed => .mistyped id type freed unfit
  · intro id type opened fit same
    rw [setValue, bind_assoc]
    apply tells_call
    intro set ready kept
    have own : ready.wrapper.camera = camera.wrapper.camera := by rw [kept, same]
    apply apply_tells
    · exact fun flag named text fixed freed => .readOnly id type set freed flag named text fit fixed
    · intro result bad freed
      rw [own]
      exact .unapplied id type set result freed fit bad
    · intro freed
      rw [own]
      exact .complete id type set freed fit

-- What the widgets hold while the calls are made: gp_widget_set_value that fails
-- leaves the old value in place. The camera accepts the widget with the value.
def Applied (name value : String) : (Widget → String) → List (Answer F) → Prop
  | _, [] => False
  | held, ⟨.gpWidgetSetValue widget text, result⟩ :: rest =>
      Applied name value (if result = gpOk then Function.update held widget text else held) rest
  | held, ⟨.gpCameraSetSingleConfig _ entry widget, result⟩ :: rest =>
      (entry = name ∧ result = gpOk ∧ held widget = value) ∨ Applied name value held rest
  | held, _ :: rest => Applied name value held rest

def refusesValue (widget : Widget) (value : String) : Answer F → Prop
  | ⟨.gpWidgetSetValue target text, result⟩ => target = widget ∧ text = value ∧ result ≠ gpOk
  | _ => False

def acceptsWidget (name : String) (widget : Widget) : Answer F → Prop
  | ⟨.gpCameraSetSingleConfig _ entry target, result⟩ => entry = name ∧ target = widget ∧ result = gpOk
  | _ => False

-- The camera accepts a widget that did not take the value and held another one.
def Dropped (name value : String) (held : Widget → String) (calls : List (Answer F)) : Prop :=
  ∃ widget, (∃ entry ∈ calls, refusesValue widget value entry) ∧ (∃ entry ∈ calls, acceptsWidget name widget entry) ∧
    held widget ≠ value

theorem written_applied (camera : Option Nat) (name value : String) (held : Widget → String) (calls : List (Answer F))
    (ending : Except Exn Unit) (written : Written camera name value calls ending) :
    Applied name value held calls ↔ ending = .ok () ∧ ¬ Dropped name value held calls := by
  cases written with
  | unread result refused => simp [Applied]
  | untyped id result type freed refused => simp [Applied]
  | mistyped id type freed unfit => simp [Applied]
  | readOnly id type set freed flag named widget fit fixed => simp [Applied]
  | unapplied id type set result freed fit refused => simp [Applied, refused]
  | complete id type set freed fit =>
      by_cases good : set = gpOk
      · simp [Applied, Dropped, refusesValue, good]
      · simp [Applied, Dropped, refusesValue, acceptsWidget, good]

theorem written_dropped (camera : Option Nat) (name value : String) (held : Widget → String) (calls : List (Answer F))
    (ending : Except Exn Unit) (written : Written camera name value calls ending) (failed : ending ≠ .ok ()) :
    ¬ Dropped name value held calls := by
  cases written with
  | unread result refused => simp [Dropped, refusesValue]
  | untyped id result type freed refused => simp [Dropped, refusesValue]
  | mistyped id type freed unfit => simp [Dropped, refusesValue]
  | readOnly id type set freed flag named widget fit fixed => simp [Dropped, acceptsWidget]
  | unapplied id type set result freed fit refused => simp [Dropped, acceptsWidget, refused]
  | complete id type set freed fit => exact absurd rfl failed

structure Results where
  single : Int
  type : Int × CameraWidgetType
  readonly : Int × Int
  applied : Int

def Results.Give (results : Results) : Answer F → Prop
  | ⟨.gpCameraGetSingleConfig _ _, result⟩ => result = results.single
  | ⟨.gpWidgetGetType _, result⟩ => result = results.type
  | ⟨.gpWidgetGetReadonly _, result⟩ => result = results.readonly
  | ⟨.gpCameraSetSingleConfig _ _ _, result⟩ => result = results.applied
  | _ => True

def Widget.anonymous (widget : Widget) : Widget := { widget with id := 0 }

-- A call with no regard to which widget of a configuration entry it is for.
def Call.anonymous : Call → Call
  | .gpCameraSetSingleConfig camera name widget => .gpCameraSetSingleConfig camera name widget.anonymous
  | .gpWidgetGetType widget => .gpWidgetGetType widget.anonymous
  | .gpWidgetGetName widget => .gpWidgetGetName widget.anonymous
  | .gpWidgetGetReadonly widget => .gpWidgetGetReadonly widget.anonymous
  | .gpWidgetCountChoices widget => .gpWidgetCountChoices widget.anonymous
  | .gpWidgetGetChoice widget index => .gpWidgetGetChoice widget.anonymous index
  | .gpWidgetGetValueString widget => .gpWidgetGetValueString widget.anonymous
  | .gpWidgetGetValueFloat widget => .gpWidgetGetValueFloat widget.anonymous
  | .gpWidgetSetValue widget value => .gpWidgetSetValue widget.anonymous value
  | .gpWidgetFree widget => .gpWidgetFree widget.anonymous
  | call => call

def callsOf (calls : List (Answer F)) : List Call := calls.map (fun entry => entry.1.anonymous)

-- The calls that the results lead to, and the code of the GPhotoError at their
-- end. A widget that is read-only ends in another exception.
def conduct (camera : Option Nat) (name value : String) (results : Results) : List Call × Option Int :=
  let widget : Widget := ⟨0, name⟩
  let single : Call := .gpCameraGetSingleConfig camera name
  let type : Call := .gpWidgetGetType widget
  let set : Call := .gpWidgetSetValue widget value
  let readonly : Call := .gpWidgetGetReadonly widget
  let applied : Call := .gpCameraSetSingleConfig camera name widget
  let free : Call := .gpWidgetFree widget
  if results.single ≠ gpOk then ([single], some results.single)
  else if results.type.1 ≠ gpOk then ([single, type, free], some results.type.1)
  else if isString results.type.2 = false then ([single, type, free], some gpErrorBadParameters)
  else if results.readonly ≠ (gpOk, 0) then ([single, type, set, readonly, .gpWidgetGetName widget, free], none)
  else if results.applied ≠ gpOk then ([single, type, set, readonly, applied, free], some results.applied)
  else ([single, type, set, readonly, applied, free], none)

def codeOf : Except Exn Unit → Option Int
  | .error (.gPhotoError error) => some error
  | _ => none

theorem written_conduct (camera : Option Nat) (name value : String) (calls : List (Answer F)) (ending : Except Exn Unit)
    (written : Written camera name value calls ending) (results : Results) (given : ∀ entry ∈ calls, results.Give entry) :
    (callsOf calls, codeOf ending) = conduct camera name value results := by
  cases written with
  | unread result refused =>
      have single : result = results.single := by simpa [Results.Give] using given
      simp [conduct, callsOf, codeOf, Call.anonymous, ← single, refused]
  | untyped id result type freed refused =>
      obtain ⟨single, typed⟩ : gpOk = results.single ∧ (result, type) = results.type := by
        simpa [Results.Give] using given
      simp [conduct, callsOf, codeOf, Call.anonymous, Widget.anonymous, ← single, ← typed, refused]
  | mistyped id type freed unfit =>
      obtain ⟨single, typed⟩ : gpOk = results.single ∧ (gpOk, type) = results.type := by
        simpa [Results.Give] using given
      simp [conduct, callsOf, codeOf, Call.anonymous, Widget.anonymous, ← single, ← typed, unfit]
  | readOnly id type set freed flag named widget fit fixed =>
      obtain ⟨single, typed, flagged⟩ : gpOk = results.single ∧ (gpOk, type) = results.type ∧ flag = results.readonly := by
        simpa [Results.Give] using given
      have differs : flag ≠ (gpOk, 0) := by
        intro same
        rw [same] at fixed
        exact fixed.elim (fun unread => unread rfl) (fun only => only rfl)
      simp [conduct, callsOf, codeOf, Call.anonymous, Widget.anonymous, ← single, ← typed, ← flagged, fit, differs]
  | unapplied id type set result freed fit refused =>
      obtain ⟨single, typed, flagged, applied⟩ : gpOk = results.single ∧ (gpOk, type) = results.type ∧
          (gpOk, 0) = results.readonly ∧ result = results.applied := by
        simpa [Results.Give] using given
      simp [conduct, callsOf, codeOf, Call.anonymous, Widget.anonymous, ← single, ← typed, ← flagged, ← applied, fit, refused]
  | complete id type set freed fit =>
      obtain ⟨single, typed, flagged, applied⟩ : gpOk = results.single ∧ (gpOk, type) = results.type ∧
          (gpOk, 0) = results.readonly ∧ gpOk = results.applied := by
        simpa [Results.Give] using given
      simp [conduct, callsOf, codeOf, Call.anonymous, Widget.anonymous, ← single, ← typed, ← flagged, ← applied, fit]

end Writing

namespace Controller

inductive Setting where
  | aperture
  | exposureTime
  | iso
  | triggerMode
deriving DecidableEq, Repr

namespace Setting

variable {C F : Type} (platform : Platform C F)

def requested (config : CameraConfig) : Setting → Bool
  | .aperture => config.aperture > 0
  | .exposureTime => config.shutterSpeed ≥ 0
  | .iso => config.iso > 0
  | .triggerMode => config.triggerMode != ""

def configName : Setting → String
  | .aperture => configAperture
  | .exposureTime => configExposureTime
  | .iso => configIso
  | .triggerMode => configTriggerMode

def value (config : CameraConfig) : Setting → String
  | .aperture => apertureToString platform config.aperture
  | .exposureTime => shutterSpeedToString platform config.shutterSpeed
  | .iso => ToString.toString config.iso
  | .triggerMode => config.triggerMode

def inOrder : List Setting := [.aperture, .exposureTime, .iso, .triggerMode]

theorem all_in_order (setting : Setting) : setting ∈ inOrder := by
  cases setting <;> simp [inOrder]

end Setting

section Settings

variable {C F : Type} (platform : Platform C F)

def setSetting (setting : Setting) : Prog (World C F) Exn Unit :=
  setOption platform (fun config => setting.requested config)
    (fun config => writeWidget platform setting.configName (setting.value platform config))

theorem set_config_each : setConfig platform = Prog.each (setSetting platform) Setting.inOrder := by
  have last : ∀ p : Prog (World C F) Exn Unit, (p >>= fun _ => pure ()) = p := bind_pure
  simp only [Setting.inOrder, Prog.each, last]
  rfl

abbrev Attempt (world : World C F) (setting : Setting) (before after : World C F) : Prop :=
  Prog.Turn (setSetting platform) Setting.inOrder world setting before after

structure Configured (before after : World C F) : Prop where
  config : after.cameraConfig = before.cameraConfig
  wrapper : after.camera.wrapper = before.camera.wrapper

instance : Std.Refl (Configured (C := C) (F := F)) where
  refl := fun _ => ⟨rfl, rfl⟩

instance : IsTrans (World C F) Configured where
  trans := fun _ _ _ left right => ⟨right.config.trans left.config, right.wrapper.trans left.wrapper⟩

theorem attempt_configured (world : World C F) (setting : Setting) (before after : World C F)
    (attempt : Attempt platform world setting before after) : Configured world before := by
  apply Prog.turn_kept (setSetting platform) Configured _ _ world setting before after attempt
  intro other world after run
  have written : ∀ config, Prog.Within SameHandles (writeWidget (C := C) platform other.configName (other.value platform config)) :=
    fun config => write_widget_within platform other.configName (other.value platform config)
  exact ⟨(Prog.within_ok _ _ world after () (set_option_within (unset_carries.feeds platform) _ _ written) run).1,
    Prog.within_ok _ _ world after () (set_option_within (wrapped_carries.feeds platform) _ _ written) run⟩

theorem set_setting_skipped (setting : Setting) (world after : World C F)
    (unrequested : setting.requested world.cameraConfig = false) (run : setSetting platform setting world = .ok () after) :
    after = world := by
  have skipped : setSetting platform setting world = .ok () world := by
    simp [setSetting, setOption, catchGPhotoError, Prog.tryCatch, Prog.bind_apply, unrequested]
  rw [skipped] at run
  cases run
  rfl

def complaint (id : Nat) : Option Int → List EventPtr
  | some error => [⟨id, .evCameraGenericError, .cameraErrorEvent error⟩]
  | none => []

theorem set_setting_written (setting : Setting) (world after : World C F)
    (requested : setting.requested world.cameraConfig = true) (run : setSetting platform setting world = .ok () after) :
    ∃ id ending, Written world.camera.wrapper.camera setting.configName (setting.value platform world.cameraConfig)
        (answersSince world.camera after.camera) ending ∧
      announced world after = complaint id (codeOf ending) ∧ (codeOf ending = none → ending = .ok ()) := by
  obtain ⟨camera, calls, ending, written, logged, _, ends⟩ := write_widget_written platform setting.configName
    (setting.value platform world.cameraConfig) world.camera
  have body : (do
      let world ← Prog.get
      if setting.requested world.cameraConfig then
        onCamera (writeWidget platform setting.configName (setting.value platform world.cameraConfig)) else pure () :
        Prog (World C F) Exn Unit) world = concluded { world with camera := camera } ending := by
    simp only [Prog.bind_apply, Prog.get_apply, requested, if_true, onCamera, Prog.zoom, ends]
    cases ending <;> rfl
  cases Prog.tryCatch_eq_ok _ _ _ _ _ run with
  | inl returned =>
      rw [body] at returned
      cases ending with
      | error error => cases returned
      | ok value =>
          cases returned
          refine ⟨0, .ok (), ?_, ?_, fun _ => rfl⟩
          · rw [since_logged world.camera camera calls logged]
            exact written
          · simp [announced, complaint, codeOf]
  | inr caught =>
      obtain ⟨error, failed, handler, threw, found, posted⟩ := caught
      rw [body] at threw
      cases ending with
      | ok value => cases threw
      | error thrown =>
          cases threw
          cases error with
          | gPhotoError code =>
              cases found
              obtain ⟨same, id, published⟩ := post_tells platform (.evCameraGenericError, .cameraErrorEvent code) _ after posted
              refine ⟨id, .error (.gPhotoError code), ?_, ?_, by simp [codeOf]⟩
              · rw [since_logged world.camera after.camera calls (same.trans logged)]
                exact written
              · rw [announced_published world after _ published]
                rfl
          | _ => cases found

def Served (held : Widget → String) (name value : String) (before after : World C F) : Prop :=
  (Applied name value held (answersSince before.camera after.camera) ∧ announced before after = []) ∨
    (¬ Applied name value held (answersSince before.camera after.camera) ∧
      ∃ id error, announced before after = [⟨id, .evCameraGenericError, .cameraErrorEvent error⟩])

-- held says what a widget holds before gp_widget_set_value has set it.
structure AppliedOrReported (held : Widget → String) (world : World C F) : Prop where
  attempted : ∀ setting, ∃ before after, Attempt platform world setting before after
  requested : ∀ setting before after, Attempt platform world setting before after →
    setting.requested world.cameraConfig = true →
    Served held setting.configName (setting.value platform world.cameraConfig) before after
  unrequested : ∀ setting before after, Attempt platform world setting before after →
    setting.requested world.cameraConfig = false →
    answersSince before.camera after.camera = [] ∧ announced before after = []
  independent : ∀ (other : Platform C F) (elsewhere : World C F) setting before after opened closed (results : Results),
    setting.requested elsewhere.cameraConfig = setting.requested world.cameraConfig →
    setting.value other elsewhere.cameraConfig = setting.value platform world.cameraConfig →
    elsewhere.camera.wrapper.camera = world.camera.wrapper.camera →
    Attempt platform world setting before after → Attempt other elsewhere setting opened closed →
    (∀ entry ∈ answersSince before.camera after.camera, results.Give entry) →
    (∀ entry ∈ answersSince opened.camera closed.camera, results.Give entry) →
    callsOf (answersSince opened.camera closed.camera) = callsOf (answersSince before.camera after.camera) ∧
      (announced opened closed).map (fun ev => (ev.sig, ev.payload)) =
        (announced before after).map (fun ev => (ev.sig, ev.payload))

theorem attempt_skipped (world : World C F) (setting : Setting) (before after : World C F)
    (attempt : Attempt platform world setting before after) (unrequested : setting.requested world.cameraConfig = false) :
    answersSince before.camera after.camera = [] ∧ announced before after = [] := by
  have kept := attempt_configured platform world setting before after attempt
  have run := Prog.turn_ran _ _ _ _ _ _ attempt
  rw [← kept.config] at unrequested
  rw [set_setting_skipped platform setting before after unrequested run]
  simp [answersSince, announced]

theorem attempt_written (world : World C F) (setting : Setting) (before after : World C F)
    (attempt : Attempt platform world setting before after) (requested : setting.requested world.cameraConfig = true) :
    ∃ id ending, Written world.camera.wrapper.camera setting.configName (setting.value platform world.cameraConfig)
        (answersSince before.camera after.camera) ending ∧
      announced before after = complaint id (codeOf ending) ∧ (codeOf ending = none → ending = .ok ()) := by
  have kept := attempt_configured platform world setting before after attempt
  have run := Prog.turn_ran _ _ _ _ _ _ attempt
  rw [← kept.config] at requested
  rw [← kept.config, ← kept.wrapper]
  exact set_setting_written platform setting before after requested run

theorem attempt_served_iff (held : Widget → String) (world : World C F) (setting : Setting) (before after : World C F)
    (attempt : Attempt platform world setting before after) (requested : setting.requested world.cameraConfig = true) :
    Served held setting.configName (setting.value platform world.cameraConfig) before after ↔
      ¬ Dropped setting.configName (setting.value platform world.cameraConfig) held (answersSince before.camera after.camera) := by
  obtain ⟨id, ending, written, posted, normal⟩ := attempt_written platform world setting before after attempt requested
  have applied := written_applied _ _ _ held _ ending written
  rw [Served, applied, posted]
  cases code : codeOf ending with
  | none =>
      have good := normal code
      simp [good, complaint]
  | some error =>
      have failed : ending ≠ .ok () := by
        intro good
        rw [good] at code
        cases code
      simpa [failed, complaint] using written_dropped _ _ _ held _ ending written failed

theorem attempt_conduct (world : World C F) (setting : Setting) (before after : World C F) (results : Results)
    (attempt : Attempt platform world setting before after)
    (given : ∀ entry ∈ answersSince before.camera after.camera, results.Give entry) :
    callsOf (answersSince before.camera after.camera) =
        (if setting.requested world.cameraConfig then
          (conduct world.camera.wrapper.camera setting.configName (setting.value platform world.cameraConfig) results).1 else []) ∧
      (announced before after).map (fun ev => (ev.sig, ev.payload)) =
        (if setting.requested world.cameraConfig then
          (complaint 0 (conduct world.camera.wrapper.camera setting.configName (setting.value platform world.cameraConfig) results).2).map
            (fun ev => (ev.sig, ev.payload)) else []) := by
  cases requested : setting.requested world.cameraConfig with
  | false =>
      obtain ⟨uncalled, unposted⟩ := attempt_skipped platform world setting before after attempt requested
      simp [uncalled, unposted, callsOf]
  | true =>
      obtain ⟨id, ending, written, posted, _⟩ := attempt_written platform world setting before after attempt requested
      have same := written_conduct _ _ _ _ ending written results given
      rw [if_pos rfl, if_pos rfl, ← same, posted]
      cases codeOf ending <;> exact ⟨rfl, rfl⟩

theorem attempts_independent (other : Platform C F) (world elsewhere : World C F) (setting : Setting)
    (before after opened closed : World C F) (results : Results)
    (request : setting.requested elsewhere.cameraConfig = setting.requested world.cameraConfig)
    (value : setting.value other elsewhere.cameraConfig = setting.value platform world.cameraConfig)
    (handle : elsewhere.camera.wrapper.camera = world.camera.wrapper.camera)
    (attempt : Attempt platform world setting before after) (again : Attempt other elsewhere setting opened closed)
    (given : ∀ entry ∈ answersSince before.camera after.camera, results.Give entry)
    (regiven : ∀ entry ∈ answersSince opened.camera closed.camera, results.Give entry) :
    callsOf (answersSince opened.camera closed.camera) = callsOf (answersSince before.camera after.camera) ∧
      (announced opened closed).map (fun ev => (ev.sig, ev.payload)) =
        (announced before after).map (fun ev => (ev.sig, ev.payload)) := by
  obtain ⟨calls, events⟩ := attempt_conduct platform world setting before after results attempt given
  obtain ⟨recalls, reevents⟩ := attempt_conduct other elsewhere setting opened closed results again regiven
  rw [request, value, handle] at recalls reevents
  exact ⟨recalls.trans calls.symm, reevents.trans events.symm⟩

end Settings

def wanting : World Nat Unit := { createdWorld 0 "/photos" with cameraConfig := { iso := 100 } }

def unmoved : Platform Nat Unit := attached (fun _ => gpOk) fun c =>
  match c with
  | .gpWidgetSetValue _ _ => some (-1)
  | _ => none

end Controller

end CameraController
