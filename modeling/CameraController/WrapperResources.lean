import CameraController.Lib.Ownership
import CameraController.WrapperHandles
import Mathlib.Algebra.GroupWithZero.Nat

set_option autoImplicit false

namespace CameraController

open Effects CameraWidget Linearization Ownership

-- What the wrapper has to give back besides the camera: the widgets that
-- gp_camera_get_single_config makes, numbered from 0, the FILE of a download and
-- the CameraFile that gphoto2 writes through it.
inductive Resource where
  | widget (id : Nat)
  | file
  | cameraFile
deriving DecidableEq, Repr

section Resources

variable {C F A : Type} (platform : Platform C F)

def movesOf (widgets : Nat) : Answer F → List (Move Resource)
  | ⟨.gpCameraGetSingleConfig _ _, result⟩ => if result = gpOk then [.acquire (.widget widgets)] else []
  | ⟨.gpCameraSetSingleConfig _ _ widget, _⟩ => [.use (.widget widget.id)]
  | ⟨.gpWidgetGetType widget, _⟩ => [.use (.widget widget.id)]
  | ⟨.gpWidgetGetName widget, _⟩ => [.use (.widget widget.id)]
  | ⟨.gpWidgetGetReadonly widget, _⟩ => [.use (.widget widget.id)]
  | ⟨.gpWidgetCountChoices widget, _⟩ => [.use (.widget widget.id)]
  | ⟨.gpWidgetGetChoice widget _, _⟩ => [.use (.widget widget.id)]
  | ⟨.gpWidgetGetValueString widget, _⟩ => [.use (.widget widget.id)]
  | ⟨.gpWidgetGetValueFloat widget, _⟩ => [.use (.widget widget.id)]
  | ⟨.gpWidgetSetValue widget _, _⟩ => [.use (.widget widget.id)]
  | ⟨.gpWidgetFree widget, _⟩ => [.release (.widget widget.id)]
  | ⟨.fopen _, opened⟩ => if opened then [.acquire .file] else []
  | ⟨.fileno, _⟩ => [.use .file]
  | ⟨.fclose, _⟩ => [.release .file]
  | ⟨.gpFileNewFromFd _, result⟩ => .use .file :: if result = gpOk then [.acquire .cameraFile] else []
  | ⟨.gpCameraFileGet _ _ _, _⟩ => [.use .file, .use .cameraFile]
  | ⟨.gpFileFree, _⟩ => [.release .cameraFile]
  | _ => []

def widgetMade (entry : Answer F) : Nat := if entry.1.makesWidget entry.2 then 1 else 0

def moves (widgets : Nat) : List (Answer F) → List (Move Resource)
  | [] => []
  | entry :: rest => movesOf widgets entry ++ moves (widgets + widgetMade entry) rest

def widgetsMade (entries : List (Answer F)) : Nat := (entries.map widgetMade).sum

theorem moves_append (widgets : Nat) (first second : List (Answer F)) :
    moves widgets (first ++ second) = moves widgets first ++ moves (widgets + widgetsMade first) second := by
  induction first generalizing widgets with
  | nil => rfl
  | cons entry first ih =>
      simp [moves, widgetsMade, ih, Nat.add_assoc]

inductive Order where
  | capture
  | transfer (path : CameraFilePath)
deriving DecidableEq, Repr

def asked : Answer F → Option Order
  | ⟨.gpCameraCapture _, _⟩ => some .capture
  | ⟨.gpCameraFileGet _ folder name, _⟩ => some (.transfer { name, folder })
  | _ => none

-- The calls that were made, read as moves and as orders.
def Writes (before : Camera C F) (moved : List (Move Resource)) (orders : List Order) (after : Camera C F) : Prop :=
  ∃ entries, after.gp.log = before.gp.log ++ entries ∧ after.gp.widgets = before.gp.widgets + widgetsMade entries ∧
    moved = moves before.gp.widgets entries ∧ orders = entries.filterMap asked

theorem writes_none (camera : Camera C F) : Writes camera [] [] camera := ⟨[], by simp, rfl, rfl, rfl⟩

theorem writes_append (camera middle after : Camera C F) (first second : List (Move Resource)) (earlier later : List Order)
    (left : Writes camera first earlier middle) (right : Writes middle second later after) :
    Writes camera (first ++ second) (earlier ++ later) after := by
  obtain ⟨before, logged, widgets, rfl, rfl⟩ := left
  obtain ⟨behind, logged', widgets', rfl, rfl⟩ := right
  refine ⟨before ++ behind, ?_, ?_, ?_, ?_⟩
  · rw [logged', logged, List.append_assoc]
  · rw [widgets', widgets, widgetsMade, widgetsMade, widgetsMade, List.map_append, List.sum_append, Nat.add_assoc]
  · rw [moves_append, widgets]
  · rw [List.filterMap_append]

theorem call_writes (c : Call) (camera : Camera C F) (result : c.Ret F) (outside : C) :
    Writes camera (movesOf camera.gp.widgets ⟨c, result⟩) (asked ⟨c, result⟩).toList (recorded camera c result outside) := by
  refine ⟨[⟨c, result⟩], rfl, ?_, ?_, ?_⟩
  · simp only [recorded, Gphoto.record, widgetsMade, widgetMade, List.map_cons, List.map_nil, List.sum_cons, List.sum_nil]
    split <;> rfl
  · simp [moves]
  · cases order : asked ⟨c, result⟩ <;> simp [order]

def Adds (before : Camera C F) (moved : List (Move Resource)) (after : Camera C F) : Prop := Writes before moved [] after

theorem adds_journal : Journal (Adds (C := C) (F := F)) where
  nil := writes_none
  append := fun camera middle after first second => writes_append camera middle after first second [] []

theorem call_adds (c : Call) (camera : Camera C F) (result : c.Ret F) (outside : C) (quiet : asked ⟨c, result⟩ = none) :
    Adds camera (movesOf camera.gp.widgets ⟨c, result⟩) (recorded camera c result outside) := by
  have written := call_writes c camera result outside
  rwa [quiet] at written

-- No order was given, everything that was acquired has been given back, and what
-- was held before is still held.
def Tidy (held : List Resource) : Camera C F → Camera C F → Prop := Restores Adds held

instance (held : List Resource) : Std.Refl (Tidy (C := C) (F := F) held) := ⟨restores_refl adds_journal held⟩

instance (held : List Resource) : IsTrans (Camera C F) (Tidy held) := ⟨restores_trans adds_journal held⟩

variable (held : List Resource)

theorem call_tidy (c : Call) (moved : List (Move Resource)) (balanced : Balanced held moved)
    (moves : ∀ widgets result, movesOf (F := F) widgets ⟨c, result⟩ = moved ∧ asked (F := F) ⟨c, result⟩ = none) :
    Prog.Within (Tidy held) (call platform c) := by
  intro camera
  obtain ⟨same, quiet⟩ := moves camera.gp.widgets (platform.answer c camera.gp.outside).1
  refine ⟨moved, ?_, balanced⟩
  have added := call_adds c camera _ (platform.answer c camera.gp.outside).2 quiet
  rwa [same] at added

theorem idle_call_tidy (c : Call) (idle : ∀ widgets result, movesOf (F := F) widgets ⟨c, result⟩ = [] ∧
      asked (F := F) ⟨c, result⟩ = none) : Prog.Within (Tidy held) (call platform c) :=
  call_tidy platform held c _ (balanced_nil held) idle

theorem camera_ptr_tidy : Prog.Within (Tidy held) (cameraPtr : Prog (Camera C F) Exn (Option Nat)) :=
  Prog.within_bind _ _ _ (Prog.within_get _) (fun _ => Prog.within_pure _ _)

theorem widget_keeps_tidy {held : List Resource} (widget : Widget) (has : .widget widget.id ∈ held) :
    WidgetKeeps platform (Tidy (C := C) (F := F) held) widget where
  asks := by
    intro c about
    have uses := balanced_use held _ has
    cases c <;> cases about <;> exact call_tidy platform held _ _ uses (fun _ _ => ⟨rfl, rfl⟩)
  sets := Prog.within_bind _ _ _ (camera_ptr_tidy held)
    (fun _ => call_tidy platform held _ _ (balanced_use held _ has) (fun _ _ => ⟨rfl, rfl⟩))

theorem construct_opens (configName : String) (camera after : Camera C F) (widget : Widget)
    (run : construct platform configName camera = .ok widget after) :
    Adds camera [.acquire (.widget widget.id)] after := by
  obtain ⟨result, outside, good, rfl, rfl⟩ := checked_returns platform
    (.gpCameraGetSingleConfig camera.wrapper.camera configName) (fun result => result)
    (fun _ => Widget.mk camera.gp.widgets configName) camera after widget run
  have added := call_adds (.gpCameraGetSingleConfig camera.wrapper.camera configName) camera result outside rfl
  rwa [movesOf, if_pos good] at added

theorem construct_fails (configName : String) (camera after : Camera C F) (error : Exn)
    (run : construct platform configName camera = .threw error after) : Tidy held camera after := by
  change (call platform (.gpCameraGetSingleConfig camera.wrapper.camera configName) >>= fun result =>
    if result ≠ gpOk then Prog.throw (.gPhotoError result) else pure _) camera = _ at run
  rw [Prog.bind_ok _ _ _ _ _ (call_apply platform _ camera)] at run
  split at run
  · rename_i bad
    cases run
    have added := call_adds (.gpCameraGetSingleConfig camera.wrapper.camera configName) camera
      (platform.answer (.gpCameraGetSingleConfig camera.wrapper.camera configName) camera.gp.outside).1
      (platform.answer (.gpCameraGetSingleConfig camera.wrapper.camera configName) camera.gp.outside).2 rfl
    rw [movesOf, if_neg bad] at added
    exact ⟨[], added, balanced_nil held⟩
  · cases run

theorem with_widget_tidy (fits : CameraWidgetType → Bool) (configName : String) (body : Widget → Prog (Camera C F) Exn A)
    (bodyTidy : ∀ widget, Prog.Within (Tidy (.widget widget.id :: held)) (body widget)) :
    Prog.Within (Tidy held) (withWidget platform fits configName body) := by
  apply scope_restores adds_journal held (construct platform configName) (fun widget => .widget widget.id)
  · exact construct_opens platform configName
  · exact construct_fails platform held configName
  · intro widget
    apply Prog.within_bind _ _ _ (get_type_within platform (widget_keeps_tidy platform widget (List.mem_cons_self ..)))
    intro type
    cases fits type with
    | true => exact bodyTidy widget
    | false => exact Prog.within_throw _ _
  · intro widget camera
    exact ⟨_, rfl, call_adds (.gpWidgetFree widget) camera _ _ rfl⟩

theorem scope_keeps_tidy : ScopeKeeps platform (fun widget => Tidy (C := C) (F := F) [.widget widget.id]) (Tidy []) where
  widget := fun widget => widget_keeps_tidy platform widget (List.mem_cons_self ..)
  scope := with_widget_tidy platform []

end Resources

namespace CameraWrapper

variable {C F A : Type} (platform : Platform C F)

theorem read_widget_tidy (configName : String) (convert : String → Except NumericError A) :
    Prog.Within (Tidy []) (readWidget platform configName convert) :=
  read_widget_keeps platform (scope_keeps_tidy platform) configName convert

-- At most the orders that were due have been given, and everything that was
-- acquired has been given back.
def Served (due : List Order) (before after : Camera C F) : Prop :=
  ∃ moved orders, Writes before moved orders after ∧ Balanced [] moved ∧ orders.Sublist due

theorem tidy_served (camera after : Camera C F) (tidy : Tidy [] camera after) : Served [] camera after := by
  obtain ⟨moved, added, balanced⟩ := tidy
  exact ⟨moved, [], added, balanced, List.Sublist.refl []⟩

theorem ends_call (P : Camera C F → Prop) (c : Call) (next : c.Ret F → Prog (Camera C F) Exn A) (camera : Camera C F)
    (rest : ∀ result after, Writes camera (movesOf camera.gp.widgets ⟨c, result⟩) (asked ⟨c, result⟩).toList after →
      (next result after).Ends P) : ((call platform c >>= next) camera).Ends P := by
  rw [Prog.bind_ok _ _ _ _ _ (call_apply platform c camera)]
  exact rest _ _ (call_writes c camera _ _)

theorem wired_capture_served : Prog.Within (Served [.capture]) (wiredCapture platform) := by
  intro camera
  apply ends_call platform _ (.gpCameraCapture camera.wrapper.camera)
    (fun answered => if answered.1 = gpOk then pure answered.2 else Prog.throw (.gPhotoError answered.1))
  intro answered after written
  have served : Served [.capture] camera after := ⟨_, _, written, balanced_nil [], List.Sublist.refl _⟩
  split
  · exact served
  · exact served

-- The jumps of downloadFile() leave its FILE open and its CameraFile allocated
-- exactly as far as they have been made.
theorem transfer_writes (path : CameraFilePath) (fd : Int) (camera : Camera C F) :
    ∃ result created after, transfer platform path fd camera = .ok (result, created) after ∧
      Writes camera (if created then [.use .file, .acquire .cameraFile, .use .file, .use .cameraFile] else [.use .file])
        (if created then [.transfer path] else []) after := by
  rw [transfer, Prog.bind_ok _ _ _ _ _ (call_apply platform (.gpFileNewFromFd fd) camera)]
  have opened := call_writes (.gpFileNewFromFd fd) camera (platform.answer (.gpFileNewFromFd fd) camera.gp.outside).1
    (platform.answer (.gpFileNewFromFd fd) camera.gp.outside).2
  rw [movesOf] at opened
  split
  · rename_i bad
    rw [if_neg bad] at opened
    exact ⟨_, false, _, rfl, opened⟩
  · rename_i good
    rw [if_pos (not_not.mp good)] at opened
    refine ⟨_, true, _, rfl, ?_⟩
    exact writes_append _ _ _ _ _ _ _ opened (call_writes _ _ _ _)

theorem closes_served (path : CameraFilePath) (camera after closed : Camera C F) (created : Bool) (moved : List (Move Resource))
    (opened : Writes camera (.acquire .file :: .use .file ::
      (if created then [.use .file, .acquire .cameraFile, .use .file, .use .cameraFile] else [.use .file]))
      (if created then [.transfer path] else []) after)
    (closes : Writes after moved [] closed)
    (gives : moved = if created then [.release .file, .release .cameraFile] else [.release .file]) :
    Served [.transfer path] camera closed := by
  refine ⟨_, _, writes_append _ _ _ _ _ _ _ opened closes, ?_, ?_⟩
  · intro live _
    subst gives
    cases created with
    | true => simp [replay, move]
    | false => simp [replay, move]
  · cases created with
    | true => exact List.Sublist.refl _
    | false => exact List.nil_sublist _

theorem download_file_served (path : CameraFilePath) (destFilePath : String) :
    Prog.Within (Served [.transfer path]) (downloadFile platform path destFilePath) := by
  intro camera
  apply ends_call platform
  intro opened first came
  cases opened with
  | false => exact ⟨[], [], came, balanced_nil [], List.nil_sublist _⟩
  | true =>
      apply ends_call platform
      intro fd second used
      have ready := writes_append _ _ _ _ _ _ _ came used
      dsimp only
      split
      · apply ends_call platform
        intro _ third closed
        have whole : Writes camera [.acquire .file, .use .file, .release .file] [] third :=
          writes_append _ _ _ _ _ _ _ ready closed
        have inner : Balanced [Resource.file] [.use .file] := balanced_use _ _ (List.mem_cons_self ..)
        exact ⟨_, _, whole, balanced_scope [] _ _ inner, List.nil_sublist _⟩
      · obtain ⟨result, created, third, run, moved⟩ := transfer_writes platform path fd second
        have whole := writes_append _ _ _ _ _ _ _ ready moved
        rw [Prog.bind_ok _ _ _ _ _ run]
        apply ends_call platform
        intro _ fourth closed
        have ends : ∀ last : Camera C F, Served [.transfer path] camera last →
            ((if result ≠ gpOk then Prog.throw (.gPhotoError result) else pure () : Prog (Camera C F) Exn Unit) last).Ends
              (Served [.transfer path] camera) := by
          intro last served
          split
          · exact served
          · exact served
        cases created with
        | false => exact ends fourth (closes_served path camera third fourth false _ whole closed rfl)
        | true =>
            apply ends_call platform
            intro _ fifth freed
            exact ends fifth (closes_served path camera third fifth true _ whole (writes_append _ _ _ _ _ _ _ closed freed) rfl)

theorem update_tidy (f : CameraWrapper → CameraWrapper) : Prog.Within (Tidy []) (update f : Prog (Camera C F) Exn Unit) :=
  fun camera => ⟨[], ⟨[], by simp, rfl, rfl, rfl⟩, balanced_nil []⟩

theorem free_camera_tidy : Prog.Within (Tidy []) (freeCamera platform) := by
  apply Prog.within_bind _ _ _ (camera_ptr_tidy [])
  intro handle
  cases handle with
  | none => exact Prog.within_pure _ _
  | some camera =>
      apply Prog.within_bind _ _ _ (idle_call_tidy platform [] _ (fun _ _ => ⟨rfl, rfl⟩))
      intro _
      exact Prog.within_bind _ _ _ (idle_call_tidy platform [] _ (fun _ _ => ⟨rfl, rfl⟩)) (fun _ => update_tidy _)

theorem new_camera_tidy : Prog.Within (Tidy []) (newCamera platform) := by
  apply Prog.within_bind _ _ _ (Prog.within_get _)
  intro before
  apply Prog.within_bind _ _ _ (idle_call_tidy platform [] _ (fun _ _ => ⟨rfl, rfl⟩))
  intro result
  split
  · exact Prog.within_bind _ _ _ (update_tidy _) (fun _ => Prog.within_pure _ _)
  · exact Prog.within_pure _ _

theorem connect_tidy : Prog.Within (Tidy []) (connect platform) := by
  apply Prog.within_bind _ _ _ (Prog.within_get _)
  intro before
  cases before.wrapper.connected with
  | true => exact Prog.within_pure _ _
  | false =>
      apply Prog.within_bind _ _ _ (new_camera_tidy platform)
      intro result
      split
      · exact Prog.within_throw _ _
      · apply Prog.within_bind _ _ _ (camera_ptr_tidy [])
        intro handle
        apply Prog.within_bind _ _ _ (idle_call_tidy platform [] _ (fun _ _ => ⟨rfl, rfl⟩))
        intro result
        split
        · apply Prog.within_bind _ _ _ (read_widget_tidy platform _ _)
          intro serial
          apply Prog.within_bind _ _ _ (update_tidy _)
          intro _
          exact Prog.within_bind _ _ _ (update_tidy _) (fun _ => Prog.within_pure _ _)
        · apply Prog.within_bind _ _ _ (camera_ptr_tidy [])
          intro handle
          exact Prog.within_bind _ _ _ (idle_call_tidy platform [] _ (fun _ _ => ⟨rfl, rfl⟩)) (fun _ => Prog.within_throw _ _)

theorem disconnect_tidy : Prog.Within (Tidy []) (disconnect platform) := by
  apply Prog.within_bind _ _ _ (Prog.within_get _)
  intro before
  split
  · apply Prog.within_bind _ _ _ (free_camera_tidy platform)
    intro _
    exact Prog.within_bind _ _ _ (update_tidy _) (fun _ => Prog.within_pure _ _)
  · exact Prog.within_pure _ _

theorem ignore_served (due : List Order) (p : Prog (Camera C F) Exn A) (served : Prog.Within (Served due) p) :
    Prog.Within (Served due) (ignore p) := by
  intro camera
  have ends := served camera
  rw [ignore, Prog.bind_apply]
  cases run : p camera with
  | ok value after => rwa [run] at ends
  | threw error after => rwa [run] at ends
  | fault cause => trivial

def order : WrapperCall → Option Order
  | .wiredCapture => some .capture
  | .downloadFile path _ => some (.transfer path)
  | _ => none

theorem perform_served (c : WrapperCall) : Prog.Within (Served (order c).toList) (perform platform c) := by
  have quiet : ∀ {A : Type} (p : Prog (Camera C F) Exn A), Prog.Within (Tidy []) p → Prog.Within (Served []) p :=
    fun p tidy => Prog.within_mono _ _ p tidy_served tidy
  cases c with
  | connect => exact quiet _ (ignore_within (Tidy []) _ (connect_tidy platform))
  | disconnect => exact quiet _ (ignore_within (Tidy []) _ (disconnect_tidy platform))
  | wiredCapture => exact ignore_served _ _ (wired_capture_served platform)
  | downloadFile path destFilePath => exact download_file_served platform path destFilePath
  | _ => exact quiet _ (perform_keeps platform (scope_keeps_tidy platform) _ rfl)

theorem step_served (camera after : Camera C F) (c : WrapperCall) (step : WrapperStep platform camera c after) :
    Served (order c).toList camera after := by
  cases step with
  | returned _ _ run => exact Prog.within_ok _ _ camera after () (perform_served platform c) run
  | threw _ _ error run => exact Prog.within_threw _ _ camera after error (perform_served platform c) run

theorem served_trans (earlier later : List Order) (camera middle after : Camera C F) (left : Served earlier camera middle)
    (right : Served later middle after) : Served (earlier ++ later) camera after := by
  obtain ⟨first, given, written, balanced, fewer⟩ := left
  obtain ⟨second, given', written', balanced', fewer'⟩ := right
  exact ⟨first ++ second, given ++ given', writes_append _ _ _ _ _ _ _ written written',
    balanced_append [] first second balanced balanced', fewer.append fewer'⟩

-- Every widget was opened once and nothing that was taken is kept; no thing is
-- used but between the two.
structure GivesBack (camera : Camera C F) : Prop where
  empty : replay move (moves 0 camera.gp.log) [] = some []
  opened : ∀ id, acquired (moves 0 camera.gp.log) (.widget id) = if id < camera.gp.widgets then 1 else 0
  balanced : ∀ r, released (moves 0 camera.gp.log) r = acquired (moves 0 camera.gp.log) r
  used : ∀ before rest r, moves 0 camera.gp.log = before ++ .use r :: rest → released before r < acquired before r

theorem moved_widgets (widgets id : Nat) (entry : Answer F) :
    acquired (movesOf widgets entry) (.widget id) = if id = widgets then widgetMade entry else 0 := by
  obtain ⟨c, result⟩ := entry
  cases c with
  | gpCameraGetSingleConfig camera name =>
      simp only [movesOf, widgetMade, Call.makesWidget, acquired, beq_iff_eq]
      by_cases good : result = gpOk
      · by_cases same : id = widgets
        · simp [good, same]
        · simp [good, same, Ne.symm same]
      · simp [good]
  | fopen path => cases result <;> simp [movesOf, widgetMade, Call.makesWidget, acquired]
  | gpFileNewFromFd fd => by_cases good : result = gpOk <;> simp [movesOf, widgetMade, Call.makesWidget, acquired, good]
  | _ => simp [movesOf, widgetMade, Call.makesWidget, acquired]

theorem widgets_opened (widgets id : Nat) (entries : List (Answer F)) :
    acquired (moves widgets entries) (.widget id) = if widgets ≤ id ∧ id < widgets + widgetsMade entries then 1 else 0 := by
  induction entries generalizing widgets with
  | nil =>
      rw [if_neg (by simp [widgetsMade])]
      rfl
  | cons entry entries ih =>
      have one : widgetMade entry = 0 ∨ widgetMade entry = 1 := by
        rw [widgetMade]
        split
        · exact .inr rfl
        · exact .inl rfl
      have total : widgetsMade (entry :: entries) = widgetMade entry + widgetsMade entries := by simp [widgetsMade]
      rw [moves, acquired_append, moved_widgets, ih, total]
      split <;> split <;> split <;> omega

theorem served_gives_back (due : List Order) (outside : C) (camera : Camera C F) (served : Served due (constructed outside) camera) :
    GivesBack camera ∧ (camera.gp.log.filterMap asked).Sublist due := by
  obtain ⟨moved, orders, ⟨entries, logged, widgets, rfl, rfl⟩, balanced, fewer⟩ := served
  have whole : camera.gp.log = entries := logged
  have counted : camera.gp.widgets = 0 + widgetsMade entries := widgets
  have empty : replay move (moves 0 entries) [] = some [] := balanced [] (List.Subset.refl [])
  rw [← whole] at empty fewer
  refine ⟨⟨empty, ?_, ?_, ?_⟩, fewer⟩
  · intro id
    rw [whole, widgets_opened, counted]
    simp
  · intro r
    have count := replay_count _ _ _ empty r
    simpa using count
  · intro before rest r same
    rw [same] at empty
    have later := replay_used before rest r [] [] empty
    simpa using later

end CameraWrapper

end CameraController
