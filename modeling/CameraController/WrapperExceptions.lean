import CameraController.WrapperBlame
import CameraController.WrapperHandles

set_option autoImplicit false

namespace CameraController

open Effects CameraWidget CameraStringConversion

section Ignoring

variable {C F A : Type} (platform : Platform C F) (H : Harm (Answer F)) (mild : Exn → Prop)

def Ignores (c : Call) : Prop := ∀ result : c.Ret F, ¬ H.harmful [⟨c, result⟩] ∧ H.quiet [⟨c, result⟩]

theorem ignored_call (c : Call) (ignores : Ignores H c) : Accuses H mild True (call (C := C) platform c) :=
  accuses_call platform H mild c (fun result => (ignores result).1) (fun result => (ignores result).2)

theorem after_ignored (silent : Prop) (c : Call) (next : c.Ret F → Prog (Camera C F) Exn A) (ignores : Ignores H c)
    (nextAccuses : ∀ result, Accuses H mild silent (next result)) : Accuses H mild silent (call platform c >>= next) :=
  Prog.blames_bind answered H mild silent True silent _ _ (.inl trivial) (fun silence => ⟨trivial, silence⟩)
    (ignored_call platform H mild c ignores) nextAccuses

theorem after_own_ignored (silent : Prop) (c : Option Nat → Call)
    (next : (camera : Option Nat) → (c camera).Ret F → Prog (Camera C F) Exn A)
    (ignores : ∀ camera, Ignores H (c camera)) (nextAccuses : ∀ camera result, Accuses H mild silent (next camera result)) :
    Accuses H mild silent (cameraPtr >>= fun camera => call platform (c camera) >>= next camera) := by
  intro camera
  rw [Prog.bind_ok cameraPtr _ camera camera camera.wrapper.camera rfl]
  exact after_ignored platform H mild silent (c camera.wrapper.camera) (next camera.wrapper.camera)
    (ignores _) (nextAccuses _) camera

theorem accuses_throw_unless (result : Int) (value : A) (gphoto : ∀ error, mild (.gPhotoError error)) :
    Accuses H mild True (if result ≠ gpOk then Prog.throw (.gPhotoError result) else pure value : Prog (Camera C F) Exn A) := by
  split
  · exact Prog.blames_throw answered H mild True _ (gphoto result)
  · exact Prog.blames_pure answered H mild True value

variable (gphoto : ∀ error, mild (.gPhotoError error))

include gphoto

theorem judged_ignored (good : Prop) (c : Call) (result : c.Ret F) (error : Int) (ignores : Ignores H c) :
    Judged H mild good ⟨c, result⟩ (.gPhotoError error) :=
  ⟨(ignores result).2, fun _ => (ignores result).1,
    fun _ => ⟨fun harm => absurd harm (ignores result).1, fun harsh => absurd (gphoto error) harsh⟩⟩

theorem scope_ignored (fits : CameraWidgetType → Bool) (configName : String)
    (constructs : ∀ camera, Ignores H (.gpCameraGetSingleConfig camera configName))
    (types : ∀ widget, Ignores H (.gpWidgetGetType widget)) (frees : ∀ widget, Ignores H (.gpWidgetFree widget)) :
    JudgesScope H mild fits configName where
  constructs := fun camera result => judged_ignored H mild gphoto _ _ result _ (constructs camera)
  checks := fun widget result => judged_ignored H mild gphoto _ _ result _ (types widget)
  frees := fun widget result => frees widget result

theorem value_ignored (convert : String → Except NumericError A) (widget : Widget) (result : Int × String)
    (ignores : Ignores H (.gpWidgetGetValueString widget)) (total : ∀ value error, convert value = .error error → False) :
    JudgesValue H mild convert widget result :=
  ⟨(ignores result).2, fun _ => ⟨fun harm => absurd harm (ignores result).1, fun harsh => absurd (gphoto _) harsh⟩,
    fun _ _ _ => (ignores result).1, fun _ error converted => (total _ error converted).elim⟩

end Ignoring

section Calls

variable {C F A : Type} (platform : Platform C F) (H : Harm (Answer F))

-- The serial number is compared inside a try block that catches what the
-- widgets throw.
theorem is_responsive_accuses (mild : Exn → Prop)
    (constructs : ∀ camera, Ignores H (.gpCameraGetSingleConfig camera configSerialNumber))
    (types : ∀ widget, Ignores H (.gpWidgetGetType widget)) (frees : ∀ widget, Ignores H (.gpWidgetFree widget))
    (values : ∀ widget, widget.configName = configSerialNumber → Ignores H (.gpWidgetGetValueString widget))
    (uncaught : ∀ error, CameraWrapper.cameraException error = false → ¬ mild error) :
    Accuses H mild True (CameraWrapper.isResponsive (C := C) platform) := by
  apply Prog.blames_tryCatch answered H (fun error => CameraWrapper.cameraException error = true) mild True
  · apply Prog.blames_quiet answered H _ _ _ (Prog.blames_get answered H _ True)
    intro before
    split
    · apply Prog.blames_quiet answered H
      · apply read_widget_accuses platform H _ configSerialNumber
        · exact scope_ignored H _ (fun _ => rfl) _ _ constructs types frees
        · intro widget named result
          exact value_ignored H _ (fun _ => rfl) _ widget result (values widget named) (fun _ _ contrary => nomatch contrary)
      · intro serial
        exact Prog.blames_pure answered H _ True _
    · exact Prog.blames_pure answered H _ True false
  · intro error handler found
    split at found
    · rename_i caught
      cases found
      exact ⟨caught, Prog.blames_pure answered H mild True false⟩
    · cases found
  · intro error found
    split at found
    · cases found
    · rename_i escaped
      exact ⟨fun isMild => absurd isMild (uncaught error (Bool.not_eq_true _ ▸ escaped)), fun caught => absurd caught escaped⟩

theorem download_file_accuses (mild : Exn → Prop) (gphoto : ∀ error, mild (.gPhotoError error))
    (filesystem : ∀ what path, mild (.filesystemError what path)) (opens : ∀ path, Ignores H (.fopen path))
    (numbers : Ignores H .fileno) (creates : ∀ fd, Ignores H (.gpFileNewFromFd fd))
    (copies : ∀ camera folder name, Ignores H (.gpCameraFileGet camera folder name)) (closes : Ignores H .fclose)
    (frees : Ignores H .gpFileFree) (path : CameraFilePath) (destFilePath : String) :
    Accuses H mild True (CameraWrapper.downloadFile (C := C) platform path destFilePath) := by
  have refused : Accuses H mild True (Prog.throw (CameraWrapper.openError destFilePath) : Prog (Camera C F) Exn Unit) :=
    Prog.blames_throw answered H mild True _ (filesystem _ _)
  have transfers : ∀ fd, Accuses H mild True (CameraWrapper.transfer (C := C) platform path fd) := by
    intro fd
    apply after_ignored platform H mild True _ _ (creates fd)
    intro result
    split
    · exact Prog.blames_pure answered H mild True _
    · exact after_own_ignored platform H mild True (fun camera => .gpCameraFileGet camera path.folder path.name)
        (fun _ result => pure (result, true)) (fun camera => copies camera _ _) (fun _ _ => Prog.blames_pure answered H mild True _)
  apply after_ignored platform H mild True _ _ (opens (cString destFilePath))
  intro opened
  cases opened with
  | false => exact refused
  | true =>
      apply after_ignored platform H mild True _ _ numbers
      intro fd
      dsimp only
      split
      · exact after_ignored platform H mild True _ _ closes (fun _ => refused)
      · apply Prog.blames_quiet answered H mild _ _ (transfers fd)
        intro transferred
        apply after_ignored platform H mild True _ _ closes
        intro _
        cases transferred.2 with
        | false => exact accuses_throw_unless H mild _ () gphoto
        | true => exact after_ignored platform H mild True _ _ frees (fun _ => accuses_throw_unless H mild _ () gphoto)

end Calls

section Escaping

variable {C F A : Type} (platform : Platform C F)

def unparsable (text : String) : Prop := ∃ error, stoi text = .error error

def isoChoice : Answer F → Option (Int × String)
  | ⟨.gpWidgetGetChoice widget _, result⟩ => if widget.configName = configIso then some result else none
  | _ => none

def isoChoices (log : List (Answer F)) : List (Int × String) := log.filterMap isoChoice

-- The answers that end in an exception of a kind that no caller catches.
def escapes : Answer F → Prop
  | ⟨.gpWidgetGetReadonly _, result⟩ => result.1 ≠ gpOk ∨ result.2 ≠ 0
  | ⟨.gpWidgetGetValueString widget, result⟩ => widget.configName = configIso ∧ result.1 = gpOk ∧ unparsable result.2
  | ⟨.fsExists _, result⟩ => result = none
  | _ => False

-- listISOs() converts the choices only when all of them could be read.
def misread (choices : List (Int × String)) : Prop :=
  (∀ choice ∈ choices, choice.1 = gpOk) ∧ ∃ choice ∈ choices, unparsable choice.2

def escaping : Harm (Answer F) where
  harmful := fun log => (∃ entry ∈ log, escapes entry) ∨ misread (isoChoices log)
  quiet := fun log => isoChoices log = []
  harmful_nil := by simp [isoChoices, misread]
  quiet_nil := rfl
  quiet_append := by
    intro first second left right
    rw [isoChoices, List.filterMap_append]
    exact List.append_eq_nil_iff.mpr ⟨left, right⟩
  harmful_append := by
    intro first second quiet
    have choices : isoChoices (first ++ second) = isoChoices first ++ isoChoices second := List.filterMap_append
    have none : ¬ misread ([] : List (Int × String)) := by simp [misread]
    rw [choices]
    cases quiet with
    | inl left =>
        rw [left, List.nil_append]
        simp only [List.mem_append, or_and_right, exists_or, none, or_false, or_assoc]
    | inr right =>
        rw [right, List.append_nil]
        simp only [List.mem_append, or_and_right, exists_or, none, or_false]
        exact or_right_comm

theorem escaping_single (entry : Answer F) (silent : isoChoice entry = none) :
    (escaping.harmful [entry] ↔ escapes entry) ∧ escaping.quiet [entry] := by
  have quiet : isoChoices [entry] = [] := by simp [isoChoices, silent]
  have none : ¬ misread ([] : List (Int × String)) := by simp [misread]
  refine ⟨?_, quiet⟩
  simp only [escaping, quiet, none, or_false, List.mem_singleton, exists_eq_left]

theorem escaping_ignores (c : Call) (silent : ∀ result : c.Ret F, isoChoice ⟨c, result⟩ = none)
    (harmless : ∀ result : c.Ret F, ¬ escapes ⟨c, result⟩) : Ignores (F := F) escaping c := by
  intro result
  obtain ⟨harm, quiet⟩ := escaping_single ⟨c, result⟩ (silent result)
  exact ⟨fun harmful => harmless result (harm.mp harmful), quiet⟩

def gphotoError (error : Exn) : Prop := ∃ code, error = .gPhotoError code

theorem gphoto_error (code : Int) : gphotoError (.gPhotoError code) := ⟨code, rfl⟩

theorem get_single_config_ignored (camera : Option Nat) (name : String) :
    Ignores (F := F) escaping (.gpCameraGetSingleConfig camera name) := escaping_ignores _ (fun _ => rfl) (fun _ => id)

theorem widget_type_ignored (widget : Widget) : Ignores (F := F) escaping (.gpWidgetGetType widget) :=
  escaping_ignores _ (fun _ => rfl) (fun _ => id)

theorem widget_free_ignored (widget : Widget) : Ignores (F := F) escaping (.gpWidgetFree widget) :=
  escaping_ignores _ (fun _ => rfl) (fun _ => id)

theorem widget_value_ignored (widget : Widget) (other : widget.configName ≠ configIso) :
    Ignores (F := F) escaping (.gpWidgetGetValueString widget) :=
  escaping_ignores _ (fun _ => rfl) (fun _ bad => other bad.1)

theorem escaping_scope (mild : Exn → Prop) (gphoto : ∀ error, mild (.gPhotoError error))
    (fits : CameraWidgetType → Bool) (configName : String) : JudgesScope (F := F) escaping mild fits configName :=
  scope_ignored escaping mild gphoto fits configName (fun camera => get_single_config_ignored camera configName)
    widget_type_ignored widget_free_ignored

theorem responsive_escapes (mild : Exn → Prop)
    (uncaught : ∀ error, CameraWrapper.cameraException error = false → ¬ mild error) :
    Accuses escaping mild True (CameraWrapper.isResponsive (C := C) platform) := by
  apply is_responsive_accuses platform escaping mild (fun camera => get_single_config_ignored camera _)
    widget_type_ignored widget_free_ignored _ uncaught
  intro widget named
  exact widget_value_ignored widget (by rw [named]; decide)

theorem read_escapes (configName : String) (other : configName ≠ configIso) (convert : String → Except NumericError A)
    (total : ∀ value error, convert value = .error error → False) :
    Accuses escaping gphotoError True (CameraWrapper.readWidget (C := C) platform configName convert) := by
  apply read_widget_accuses platform escaping gphotoError configName convert (escaping_scope _ gphoto_error _ _)
  intro widget named result
  exact value_ignored escaping gphotoError gphoto_error convert widget result
    (widget_value_ignored widget (by rw [named]; exact other)) total

theorem get_iso_escapes : Accuses escaping gphotoError True (CameraWrapper.getISO (C := C) platform) := by
  apply read_widget_accuses platform escaping gphotoError configIso stoi (escaping_scope _ gphoto_error _ _)
  intro widget named result
  obtain ⟨harm, quiet⟩ := escaping_single (F := F) ⟨.gpWidgetGetValueString widget, result⟩ rfl
  refine ⟨quiet, ?_, ?_, ?_⟩
  · intro unread
    exact ⟨fun harmful => absurd (harm.mp harmful).2.1 unread, fun harsh => absurd (gphoto_error _) harsh⟩
  · intro _ value converted harmful
    obtain ⟨_, _, error, fails⟩ := harm.mp harmful
    rw [converted] at fails
    cases fails
  · intro good error fails
    exact ⟨fun _ contrary => (nomatch contrary), fun _ => harm.mpr ⟨named, good, error, fails⟩⟩

theorem get_focal_length_escapes : Accuses escaping gphotoError True (CameraWrapper.getFocalLength (C := C) platform) := by
  apply with_widget_accuses platform escaping gphotoError True isRange configFocalLenght _ (escaping_scope _ gphoto_error _ _)
  intro widget _
  apply Prog.blames_quiet answered escaping gphotoError
  · intro camera
    exact verdict_checked platform escaping gphotoError (.gpWidgetGetValueFloat widget) camera Prod.fst Prod.snd
      (fun result => judged_ignored escaping gphotoError gphoto_error _ _ result _
        (escaping_ignores _ (fun _ => rfl) (fun _ => id)))
  · intro value
    exact Prog.blames_pure answered escaping gphotoError True _

theorem get_name_returns (widget : Widget) (camera : Camera C F) : ∃ name result outside,
    getName platform widget camera = .ok name (recorded camera (.gpWidgetGetName widget) result outside) := by
  rw [getName, Prog.bind_ok _ _ _ _ _ (call_apply platform _ camera)]
  dsimp only
  split
  · exact ⟨_, _, _, rfl⟩
  · exact ⟨_, _, _, rfl⟩

theorem apply_read_only (widget : Widget) (camera : Camera C F) (entry : Answer F) (bad : escapes entry)
    (quiet : escaping.quiet [entry]) (start : List (Answer F)) (logged : camera.gp.log = start ++ [entry]) :
    Prog.Verdict answered escaping gphotoError True start
      ((getName platform widget >>= fun name => (Prog.throw (.widgetReadOnlyError name) : Prog (Camera C F) Exn Unit)) camera) := by
  obtain ⟨name, result, outside, run⟩ := get_name_returns platform widget camera
  rw [Prog.bind_ok _ _ _ _ _ run]
  have unheard := (escaping_single (F := F) ⟨.gpWidgetGetName widget, result⟩ rfl).2
  refine ⟨[entry] ++ [⟨.gpWidgetGetName widget, result⟩], ?_, ?_, ?_⟩
  · simp only [answered, recorded, Gphoto.record, logged, List.append_assoc]
  · constructor
    · rintro told ⟨code, contrary⟩
      cases contrary
    · exact fun _ => .inl ⟨entry, List.mem_append_left _ List.mem_cons_self, bad⟩
  · exact fun _ => escaping.quiet_append _ _ quiet unheard

theorem apply_escapes (widget : Widget) : Accuses escaping gphotoError True (apply (C := C) platform widget) := by
  intro camera
  rw [apply, isReadOnly, bind_assoc, Prog.bind_ok _ _ _ _ _ (call_apply platform _ camera)]
  obtain ⟨result, outside⟩ := platform.answer (.gpWidgetGetReadonly widget) camera.gp.outside
  obtain ⟨harm, quiet⟩ := escaping_single (F := F) ⟨.gpWidgetGetReadonly widget, result⟩ rfl
  dsimp only
  by_cases good : result.1 = gpOk
  · by_cases writable : result.2 = 0
    · simp only [good, writable, ne_eq, not_true_eq_false, if_false, pure_bind, bne_self_eq_false, Bool.not_false, if_true]
      apply Prog.verdict_after answered escaping gphotoError True True _ _ [⟨.gpWidgetGetReadonly widget, result⟩]
        (fun harmful => (harm.mp harmful).elim (fun unread => unread good) (fun only => only writable)) (.inl quiet)
        (fun _ => ⟨quiet, trivial⟩)
      exact after_own_ignored platform escaping gphotoError True
        (fun pointer => .gpCameraSetSingleConfig pointer widget.configName widget) _
        (fun _ => escaping_ignores _ (fun _ => rfl) (fun _ => id))
        (fun _ result => accuses_throw_unless escaping gphotoError result () gphoto_error) _
    · have flag : (result.2 != 0) = true := bne_iff_ne.mpr writable
      simp only [good, flag, ne_eq, not_true_eq_false, if_false, pure_bind, Bool.not_true, Bool.false_eq_true]
      exact apply_read_only platform widget _ ⟨.gpWidgetGetReadonly widget, result⟩ (.inr writable) quiet _ rfl
  · simp only [good, ne_eq, not_false_eq_true, if_true, pure_bind, Bool.not_true, Bool.false_eq_true, if_false]
    exact apply_read_only platform widget _ ⟨.gpWidgetGetReadonly widget, result⟩ (.inl good) quiet _ rfl

theorem write_escapes (configName value : String) :
    Accuses escaping gphotoError True (CameraWrapper.writeWidget (C := C) platform configName value) := by
  apply with_widget_accuses platform escaping gphotoError True isString configName _ (escaping_scope _ gphoto_error _ _)
  intro widget _
  apply Prog.blames_quiet answered escaping gphotoError
  · exact after_ignored platform escaping gphotoError True _ _ (escaping_ignores _ (fun _ => rfl) (fun _ => id))
      (fun _ => Prog.blames_pure answered escaping gphotoError True ())
  · exact fun _ => apply_escapes platform widget

theorem convert_all_total (convert : String → Except NumericError A) (total : ∀ value error, convert value = .error error → False)
    (choices : List String) (out : List A) :
    Accuses escaping gphotoError True (CameraWrapper.convertAll (C := C) (F := F) convert choices out) := by
  induction choices generalizing out with
  | nil => exact Prog.blames_pure answered escaping gphotoError True out
  | cons c choices ih =>
      cases converted : convert c with
      | ok value =>
          rw [CameraWrapper.convertAll, converted]
          exact ih _
      | error error => exact (total c error converted).elim

theorem read_choices_other (widget : Widget) (other : widget.configName ≠ configIso) (n i : Nat) (choices : List String) :
    Accuses escaping gphotoError True (readChoices (C := C) platform widget n i choices) := by
  induction n generalizing i choices with
  | zero => exact Prog.blames_pure answered escaping gphotoError True choices
  | succ n ih =>
      apply after_ignored platform escaping gphotoError True (.gpWidgetGetChoice widget i)
      · exact escaping_ignores _ (fun _ => if_neg other) (fun _ => id)
      · intro answered
        dsimp only
        split
        · exact ih _ _
        · exact Prog.blames_pure _ escaping gphotoError True []

theorem list_escapes (configName : String) (other : configName ≠ configIso) (convert : String → Except NumericError A)
    (total : ∀ value error, convert value = .error error → False) :
    Accuses escaping gphotoError True (CameraWrapper.listWidget (C := C) platform configName convert) := by
  apply with_widget_accuses platform escaping gphotoError True isString configName _ (escaping_scope _ gphoto_error _ _)
  intro widget named
  apply Prog.blames_quiet answered escaping gphotoError
  · exact after_ignored platform escaping gphotoError True _ _ (escaping_ignores _ (fun _ => rfl) (fun _ => id))
      (fun _ => read_choices_other platform widget (by rw [named]; exact other) _ _ _)
  · exact fun choices => convert_all_total convert total choices []

-- What reading the choices of the ISO widget adds to the log, and what it
-- returns: every choice, or nothing when one could not be read.
theorem read_iso_choices (widget : Widget) (named : widget.configName = configIso) (n i : Nat) (choices : List String)
    (camera : Camera C F) : ∃ read after added, readChoices platform widget n i choices camera = .ok read after ∧
      after.gp.log = camera.gp.log ++ added ∧ (∀ entry ∈ added, ¬ escapes entry) ∧
      (((∀ choice ∈ isoChoices added, choice.1 = gpOk) ∧ read = choices ++ (isoChoices added).map Prod.snd) ∨
        ((∃ choice ∈ isoChoices added, choice.1 ≠ gpOk) ∧ read = [])) := by
  induction n generalizing i choices camera with
  | zero => exact ⟨choices, camera, [], rfl, (List.append_nil _).symm, by simp, .inl (by simp [isoChoices])⟩
  | succ n ih =>
      rw [readChoices, Prog.bind_ok _ _ _ _ _ (call_apply platform _ camera)]
      obtain ⟨result, outside⟩ := platform.answer (.gpWidgetGetChoice widget i) camera.gp.outside
      have chosen : isoChoice (F := F) ⟨.gpWidgetGetChoice widget i, result⟩ = some result := if_pos named
      dsimp only
      by_cases good : result.1 = gpOk
      · rw [if_pos good]
        obtain ⟨read, after, added, run, logged, harmless, either⟩ := ih (i + 1) (choices ++ [result.2])
          (recorded camera (.gpWidgetGetChoice widget i) result outside)
        have extended : isoChoices (⟨.gpWidgetGetChoice widget i, result⟩ :: added) = result :: isoChoices added := by
          simp only [isoChoices, List.filterMap_cons, chosen]
        refine ⟨read, after, ⟨.gpWidgetGetChoice widget i, result⟩ :: added, run, ?_, ?_, ?_⟩
        · rw [logged]
          simp only [recorded, Gphoto.record, List.append_assoc, List.cons_append, List.nil_append]
        · intro entry member
          cases List.mem_cons.mp member with
          | inl same => rw [same]; exact id
          | inr later => exact harmless entry later
        · rw [extended]
          cases either with
          | inl all =>
              refine .inl ⟨?_, by rw [all.2, List.map_cons, List.append_assoc]; rfl⟩
              intro choice member
              cases List.mem_cons.mp member with
              | inl same => rw [same]; exact good
              | inr later => exact all.1 choice later
          | inr some =>
              obtain ⟨⟨choice, member, unread⟩, none⟩ := some
              exact .inr ⟨⟨choice, List.mem_cons_of_mem _ member, unread⟩, none⟩
      · rw [if_neg good]
        refine ⟨[], _, [⟨.gpWidgetGetChoice widget i, result⟩], rfl, rfl, ?_, .inr ⟨⟨result, ?_, good⟩, rfl⟩⟩
        · intro entry member
          rw [List.mem_singleton.mp member]
          exact id
        · simp only [isoChoices, List.filterMap_cons, chosen, List.filterMap_nil, List.mem_singleton]

theorem convert_all_stoi (choices : List String) (out : List Int) (camera : Camera C F) :
    ((∃ listed, CameraWrapper.convertAll stoi choices out camera = .ok listed camera) ∧ ¬ ∃ c ∈ choices, unparsable c) ∨
    ((∃ error, CameraWrapper.convertAll stoi choices out camera = .threw (.numeric error) camera) ∧ ∃ c ∈ choices, unparsable c) := by
  induction choices generalizing out with
  | nil => exact .inl ⟨⟨out, rfl⟩, by simp⟩
  | cons c choices ih =>
      cases converted : stoi c with
      | ok value =>
          have fine : ¬ unparsable c := by
            rintro ⟨error, fails⟩
            rw [converted] at fails
            cases fails
          have turn : CameraWrapper.convertAll stoi (c :: choices) out camera =
              CameraWrapper.convertAll stoi choices (out ++ [value]) camera := by
            rw [CameraWrapper.convertAll, converted]
            rfl
          rw [turn]
          simpa only [List.mem_cons, exists_eq_or_imp, fine, false_or] using ih (out ++ [value])
      | error error =>
          refine .inr ⟨⟨error, ?_⟩, c, List.mem_cons_self, error, converted⟩
          rw [CameraWrapper.convertAll, converted]
          rfl

theorem list_isos_escapes : Accuses escaping gphotoError False (CameraWrapper.listISOs (C := C) platform) := by
  apply with_widget_accuses platform escaping gphotoError False isString configIso _ (escaping_scope _ gphoto_error _ _)
  intro widget named camera
  rw [getAvailableValues, bind_assoc, Prog.bind_ok _ _ _ _ _ (call_apply platform _ camera)]
  obtain ⟨count, outside⟩ := platform.answer (.gpWidgetCountChoices widget) camera.gp.outside
  obtain ⟨read, after, added, run, logged, harmless, either⟩ := read_iso_choices platform widget named count.toNat 0 []
    (recorded camera (.gpWidgetCountChoices widget) count outside)
  have counted := escaping_ignores (F := F) (.gpWidgetCountChoices widget) (fun _ => rfl) (fun _ => id) count
  apply Prog.verdict_after answered escaping gphotoError False False _ _ [⟨.gpWidgetCountChoices widget, count⟩] counted.1
    (.inl counted.2) (fun contrary => contrary.elim)
  rw [Prog.bind_ok _ _ _ _ _ run]
  have harm : escaping.harmful added ↔ misread (isoChoices added) :=
    or_iff_right (fun ⟨entry, member, bad⟩ => harmless entry member bad)
  have misreads : misread (isoChoices added) ↔ ∃ c ∈ read, unparsable c := by
    cases either with
    | inl all =>
        rw [all.2, List.nil_append]
        simp only [misread, List.mem_map, exists_exists_and_eq_and]
        exact and_iff_right all.1
    | inr some =>
        obtain ⟨⟨choice, member, unread⟩, none⟩ := some
        rw [none]
        simp only [List.not_mem_nil, false_and, exists_false, iff_false]
        exact fun bad => unread (bad.1 choice member)
  cases convert_all_stoi read [] after with
  | inl fine =>
      obtain ⟨⟨listed, converted⟩, parsed⟩ := fine
      rw [converted]
      exact ⟨added, logged, fun harmful => parsed (misreads.mp (harm.mp harmful)), fun contrary => contrary.elim⟩
  | inr bad =>
      obtain ⟨⟨error, converted⟩, fails⟩ := bad
      rw [converted]
      exact ⟨added, logged, ⟨fun _ contrary => (nomatch contrary), fun _ => harm.mpr (misreads.mpr fails)⟩,
        fun contrary => contrary.elim⟩

theorem wired_capture_escapes : Accuses escaping gphotoError True (CameraWrapper.wiredCapture (C := C) platform) := by
  apply after_own_ignored platform escaping gphotoError True (fun camera => .gpCameraCapture camera)
  · exact fun _ => escaping_ignores _ (fun _ => rfl) (fun _ => id)
  · rintro camera ⟨result, path⟩
    dsimp only
    split
    · exact Prog.blames_pure answered escaping gphotoError True _
    · exact Prog.blames_throw answered escaping gphotoError True _ (gphoto_error _)

def copyError (error : Exn) : Prop := gphotoError error ∨ ∃ what path, error = .filesystemError what path

theorem download_file_escapes (path : CameraFilePath) (destFilePath : String) :
    Accuses escaping copyError True (CameraWrapper.downloadFile (C := C) platform path destFilePath) :=
  download_file_accuses platform escaping copyError (fun code => .inl (gphoto_error code))
    (fun what path => .inr ⟨what, path, rfl⟩) (fun _ => escaping_ignores _ (fun _ => rfl) (fun _ => id))
    (escaping_ignores _ (fun _ => rfl) (fun _ => id)) (fun _ => escaping_ignores _ (fun _ => rfl) (fun _ => id))
    (fun _ _ _ => escaping_ignores _ (fun _ => rfl) (fun _ => id)) (escaping_ignores _ (fun _ => rfl) (fun _ => id))
    (escaping_ignores _ (fun _ => rfl) (fun _ => id)) path destFilePath

theorem update_escapes (mild : Exn → Prop) (f : CameraWrapper → CameraWrapper) :
    Accuses escaping mild True (CameraWrapper.update (C := C) (F := F) f) :=
  Prog.blames_modify answered escaping mild True _ (fun _ => rfl)

theorem free_camera_escapes (mild : Exn → Prop) : Accuses escaping mild True (CameraWrapper.freeCamera (C := C) platform) := by
  intro camera
  rw [CameraWrapper.freeCamera, Prog.bind_ok cameraPtr _ camera camera camera.wrapper.camera rfl]
  cases camera.wrapper.camera with
  | none => exact Prog.blames_pure answered escaping mild True () camera
  | some handle =>
      apply after_ignored platform escaping mild True _ _ (escaping_ignores _ (fun _ => rfl) (fun _ => id))
      intro _
      apply after_ignored platform escaping mild True _ _ (escaping_ignores _ (fun _ => rfl) (fun _ => id))
      intro _
      exact update_escapes mild _

theorem disconnect_escapes (mild : Exn → Prop) : Accuses escaping mild True (CameraWrapper.disconnect (C := C) platform) := by
  apply Prog.blames_quiet answered escaping mild _ _ (Prog.blames_get answered escaping mild True)
  intro before
  split
  · apply Prog.blames_quiet answered escaping mild _ _ (free_camera_escapes platform mild)
    intro _
    exact Prog.blames_quiet answered escaping mild _ _ (update_escapes mild _)
      (fun _ => Prog.blames_pure answered escaping mild True true)
  · exact Prog.blames_pure answered escaping mild True false

theorem new_camera_escapes : Accuses escaping gphotoError True (CameraWrapper.newCamera (C := C) platform) := by
  apply Prog.blames_quiet answered escaping gphotoError _ _ (Prog.blames_get answered escaping gphotoError True)
  intro before
  apply after_ignored platform escaping gphotoError True _ _ (escaping_ignores _ (fun _ => rfl) (fun _ => id))
  intro result
  split
  · exact Prog.blames_quiet answered escaping gphotoError _ _ (update_escapes gphotoError _)
      (fun _ => Prog.blames_pure answered escaping gphotoError True result)
  · exact Prog.blames_pure answered escaping gphotoError True result

theorem connect_escapes : Accuses escaping gphotoError True (CameraWrapper.connect (C := C) platform) := by
  have refused : ∀ result, Accuses escaping gphotoError True
      (Prog.throw (.gPhotoError result) : Prog (Camera C F) Exn String) := fun result =>
    Prog.blames_throw answered escaping gphotoError True _ (gphoto_error result)
  apply Prog.blames_quiet answered escaping gphotoError _ _ (Prog.blames_get answered escaping gphotoError True)
  intro before
  split
  · apply Prog.blames_quiet answered escaping gphotoError _ _ (new_camera_escapes platform)
    intro made
    split
    · exact refused made
    · apply after_own_ignored platform escaping gphotoError True (fun camera => .gpCameraInit camera)
      · exact fun _ => escaping_ignores _ (fun _ => rfl) (fun _ => id)
      · intro camera result
        split
        · apply Prog.blames_quiet answered escaping gphotoError _ _
            (read_escapes platform configSerialNumber (by decide) .ok (fun _ _ contrary => nomatch contrary))
          intro serial
          apply Prog.blames_quiet answered escaping gphotoError _ _ (update_escapes gphotoError _)
          intro _
          exact Prog.blames_quiet answered escaping gphotoError _ _ (update_escapes gphotoError _)
            (fun _ => Prog.blames_pure answered escaping gphotoError True serial)
        · exact after_own_ignored platform escaping gphotoError True (fun camera => .gpCameraFree camera) _
            (fun _ => escaping_ignores _ (fun _ => rfl) (fun _ => id)) (fun _ _ => refused result)
  · exact Prog.blames_pure answered escaping gphotoError True _

end Escaping

end CameraController
