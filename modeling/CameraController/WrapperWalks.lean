import CameraController.CameraWrapper

set_option autoImplicit false

namespace CameraController

open Effects CameraWidget

def Call.widget : Call → Option Widget
  | .gpWidgetGetType widget | .gpWidgetGetName widget | .gpWidgetGetReadonly widget | .gpWidgetCountChoices widget
  | .gpWidgetGetChoice widget _ | .gpWidgetGetValueString widget | .gpWidgetGetValueFloat widget
  | .gpWidgetSetValue widget _ => some widget
  | _ => none

section Walks

variable {C F A : Type} (platform : Platform C F)

-- A relation between the states before and after that is kept by what a
-- CameraWidget does with its widget.
structure WidgetKeeps (R : Camera C F → Camera C F → Prop) (widget : Widget) : Prop where
  asks : ∀ c : Call, c.widget = some widget → Prog.Within R (call platform c)
  sets : Prog.Within R
    (cameraPtr >>= fun camera => call platform (.gpCameraSetSingleConfig camera widget.configName widget))

section Widgets

variable (R : Camera C F → Camera C F → Prop) [Std.Refl R]

theorem throw_unless_within (result : Int) (value : A) : Prog.Within R
    (if result ≠ gpOk then Prog.throw (.gPhotoError result) else pure value : Prog (Camera C F) Exn A) := by
  split
  · exact Prog.within_throw _ _
  · exact Prog.within_pure _ _

variable [IsTrans (Camera C F) R] {R} {widget : Widget} (keeps : WidgetKeeps platform R widget)

include keeps

theorem get_type_within : Prog.Within R (getType platform widget) :=
  Prog.within_bind _ _ _ (keeps.asks _ rfl) (fun _ => throw_unless_within R _ _)

theorem get_value_within : Prog.Within R (getValue platform widget) :=
  Prog.within_bind _ _ _ (keeps.asks _ rfl) (fun _ => throw_unless_within R _ _)

theorem get_range_value_within : Prog.Within R (getRangeValue platform widget) :=
  Prog.within_bind _ _ _ (keeps.asks _ rfl) (fun _ => throw_unless_within R _ _)

theorem set_value_within (value : String) : Prog.Within R (setValue platform widget value) :=
  Prog.within_bind _ _ _ (keeps.asks _ rfl) (fun _ => Prog.within_pure _ _)

theorem get_name_within : Prog.Within R (getName platform widget) := by
  apply Prog.within_bind _ _ _ (keeps.asks _ rfl)
  intro answered
  dsimp only
  split
  · exact Prog.within_pure _ _
  · exact Prog.within_pure _ _

theorem is_read_only_within : Prog.Within R (isReadOnly platform widget) := by
  apply Prog.within_bind _ _ _ (keeps.asks _ rfl)
  intro answered
  dsimp only
  split
  · exact Prog.within_pure _ _
  · exact Prog.within_pure _ _

theorem read_choices_within (n i : Nat) (choices : List String) :
    Prog.Within R (readChoices platform widget n i choices) := by
  induction n generalizing i choices with
  | zero => exact Prog.within_pure _ _
  | succ n ih =>
      apply Prog.within_bind _ _ _ (keeps.asks _ rfl)
      intro answered
      dsimp only
      split
      · exact ih _ _
      · exact Prog.within_pure _ _

theorem get_available_values_within : Prog.Within R (getAvailableValues platform widget) :=
  Prog.within_bind _ _ _ (keeps.asks _ rfl) (fun _ => read_choices_within platform keeps _ _ _)

theorem apply_within : Prog.Within R (apply platform widget) := by
  apply Prog.within_bind _ _ _ (is_read_only_within platform keeps)
  intro readOnly
  cases readOnly with
  | false =>
      have checked := Prog.within_bind _ _ (fun result =>
        if result ≠ gpOk then Prog.throw (.gPhotoError result) else pure ()) keeps.sets (fun _ => throw_unless_within R _ ())
      rwa [bind_assoc] at checked
  | true => exact Prog.within_bind _ _ _ (get_name_within platform keeps) (fun _ => Prog.within_throw _ _)

end Widgets

-- A relation that the scope of a widget keeps when what is done in it keeps
-- another one.
structure ScopeKeeps (inner : Widget → Camera C F → Camera C F → Prop) (outer : Camera C F → Camera C F → Prop) : Prop where
  widget : ∀ widget, WidgetKeeps platform (inner widget) widget
  scope : ∀ {A : Type} (fits : CameraWidgetType → Bool) (configName : String) (body : Widget → Prog (Camera C F) Exn A),
    (∀ widget, Prog.Within (inner widget) (body widget)) → Prog.Within outer (withWidget platform fits configName body)

end Walks

namespace CameraWrapper

variable {C F A : Type} (platform : Platform C F)

section Parsing

variable (R : Camera C F → Camera C F → Prop) [Std.Refl R]

theorem parsed_within (result : Except NumericError A) :
    Prog.Within R (parsed result : Prog (Camera C F) Exn A) := by
  cases result with
  | ok value => exact Prog.within_pure _ _
  | error error => exact Prog.within_throw _ _

theorem convert_all_within [IsTrans (Camera C F) R] (convert : String → Except NumericError A) (choices : List String)
    (out : List A) : Prog.Within R (convertAll convert choices out : Prog (Camera C F) Exn (List A)) := by
  induction choices generalizing out with
  | nil => exact Prog.within_pure _ _
  | cons c choices ih => exact Prog.within_bind _ _ _ (parsed_within R _) (fun value => ih _)

end Parsing

section Scopes

variable {inner : Widget → Camera C F → Camera C F → Prop} {outer : Camera C F → Camera C F → Prop}
  [∀ widget, Std.Refl (inner widget)] [∀ widget, IsTrans (Camera C F) (inner widget)]
  (keeps : ScopeKeeps platform inner outer)

include keeps

theorem read_widget_keeps (configName : String) (convert : String → Except NumericError A) :
    Prog.Within outer (readWidget platform configName convert) :=
  keeps.scope _ _ _ (fun widget =>
    Prog.within_bind _ _ _ (get_value_within platform (keeps.widget widget)) (fun _ => parsed_within _ _))

theorem write_widget_keeps (configName value : String) : Prog.Within outer (writeWidget platform configName value) :=
  keeps.scope _ _ _ (fun widget =>
    Prog.within_bind _ _ _ (set_value_within platform (keeps.widget widget) value)
      (fun _ => apply_within platform (keeps.widget widget)))

theorem list_widget_keeps (configName : String) (convert : String → Except NumericError A) :
    Prog.Within outer (listWidget platform configName convert) :=
  keeps.scope _ _ _ (fun widget =>
    Prog.within_bind _ _ _ (get_available_values_within platform (keeps.widget widget))
      (fun _ => convert_all_within _ convert _ _))

theorem get_focal_length_keeps : Prog.Within outer (getFocalLength platform) :=
  keeps.scope _ _ _ (fun widget =>
    Prog.within_bind _ _ _ (get_range_value_within platform (keeps.widget widget)) (fun _ => Prog.within_pure _ _))

theorem get_max_burst_count_keeps : Prog.Within outer (getMaxBurstCount platform) := by
  apply keeps.scope
  intro widget
  apply Prog.within_bind _ _ _ (get_available_values_within platform (keeps.widget widget))
  intro choices
  cases choices.getLast? with
  | some last => exact parsed_within _ _
  | none => exact Prog.within_fault _ _

theorem is_responsive_keeps [Std.Refl outer] [IsTrans (Camera C F) outer] : Prog.Within outer (isResponsive platform) := by
  apply Prog.within_tryCatch
  · apply Prog.within_bind _ _ _ (Prog.within_get _)
    intro before
    cases before.wrapper.connected with
    | false => exact Prog.within_pure _ _
    | true => exact Prog.within_bind _ _ _ (read_widget_keeps platform keeps _ _) (fun _ => Prog.within_pure _ _)
  · intro error handler found
    cases caught : cameraException error with
    | false => simp [caught] at found
    | true =>
        simp only [caught, if_true, Option.some.injEq] at found
        exact found ▸ Prog.within_pure _ _

end Scopes

end CameraWrapper

end CameraController
