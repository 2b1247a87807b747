import CameraController.ControllerCamera
import CameraController.ControllerSessions
import CameraController.WrapperScripts

set_option autoImplicit false

namespace CameraController

open Effects Transition

namespace Controller

open CameraWrapper (Served)

section Captures

variable {C F A : Type} (platform : Platform C F)

-- The event that a capture is due, by the answer of gphoto2.
def taken : Answer F → Option (CcEvent × Payload)
  | ⟨.gpCameraCapture _, (code, path)⟩ =>
      some (if code = gpOk then (.evCameraCaptureSuccess, .cameraCaptureSuccessEvent path)
        else (.evCameraCaptureError, .cameraErrorEvent code))
  | _ => none

def news (post : EventPtr × CcTopic) : Option (CcEvent × Payload) :=
  if captured post.1.sig = 1 then some (post.1.sig, post.1.payload) else none

def Announced (world : World C F) : Prop := world.camera.gp.log.filterMap taken = world.published.filterMap news

theorem taken_asked (entry : Answer F) (due : CcEvent × Payload) (found : taken entry = some due) :
    asked entry = some .capture := by
  obtain ⟨c, answer⟩ := entry
  cases c <;> first | rfl | cases found

theorem news_captured (post : EventPtr × CcTopic) (other : captured post.1.sig = 0) : news post = none :=
  if_neg (by rw [other]; decide)

def Untaken (before after : Camera C F) : Prop :=
  ∃ entries, after.gp.log = before.gp.log ++ entries ∧ entries.filterMap taken = []

theorem served_untaken (due : List Order) (none : .capture ∉ due) (before after : Camera C F) (served : Served due before after) :
    Untaken before after := by
  obtain ⟨_, orders, ⟨entries, logged, _, _, rfl⟩, _, fewer⟩ := served
  refine ⟨entries, logged, ?_⟩
  rw [List.filterMap_eq_nil_iff]
  intro entry member
  cases found : taken entry with
  | none => rfl
  | some result =>
      have order : .capture ∈ entries.filterMap asked :=
        List.mem_filterMap.mpr ⟨entry, member, taken_asked entry result found⟩
      exact absurd (fewer.subset order) none

theorem drives_untaken (due : List Order) (none : .capture ∉ due) (done : List EventPtr) (before after : World C F)
    (drives : Drives platform due done before after) : Untaken before.camera after.camera := by
  obtain ⟨_, actions, run, fewer⟩ := drives
  exact served_untaken _ (fun order => none (fewer.subset order)) _ _ (actions_served platform _ _ actions run)

theorem quiet_untaken (p : Prog (World C F) Exn A) (quiet : Prog.Within (Quiet platform) p) (before after : World C F) (value : A)
    (run : p before = .ok value after) : Untaken before.camera after.camera :=
  drives_untaken platform [] List.not_mem_nil [] before after (Prog.within_ok _ _ _ _ _ quiet run)

def Brings (k : Nat) (before after : World C F) : Prop :=
  ∃ fresh, after.published = before.published ++ fresh ∧ (fresh.filterMap news).length ≤ k

theorem brings_none (before after : World C F) (published : after.published = before.published) : Brings 0 before after :=
  ⟨[], by rw [published, List.append_nil], Nat.le_refl 0⟩

theorem brings_emits : Emits platform (Brings (C := C) (F := F)) captured (fun _ _ => True) where
  refl := fun world => brings_none world world rfl
  trans := by
    rintro j k first second third ⟨fresh, published, few⟩ ⟨later, after, fewer⟩
    refine ⟨fresh ++ later, by rw [after, published, List.append_assoc], ?_⟩
    rw [List.filterMap_append, List.length_append]
    omega
  more := by
    rintro j k before after le ⟨fresh, published, few⟩
    exact ⟨fresh, published, few.trans le⟩
  polls := by
    intro world
    obtain ⟨_, polls⟩ := polled_added platform (fun _ _ => True) world
    exact brings_none world _ (polls.published.trans (List.append_nil _))
  post := by
    intro sig payload topic _ world
    rw [post_new_emitted]
    refine ⟨_, emitted_published platform sig payload topic world, ?_⟩
    by_cases other : captured sig = 0
    · rw [List.filterMap_cons_none (news_captured _ other), other]
      exact Nat.le_refl 0
    · exact (List.length_filterMap_le _ _).trans (Nat.one_le_iff_ne_zero.mpr other)

theorem brings_feeds : Feeds platform (Brings (C := C) (F := F)) captured where
  toEmits := { brings_emits platform with
    post := fun sig payload topic _ => (brings_emits platform).post sig payload topic trivial }
  camera := fun world _ _ => brings_none world _ rfl

theorem reaction_brings (S next : ControllerState) (ev : EventPtr) (w after : World C F)
    (reaction : Reaction platform S ev w next after) : Brings (price captured ev.sig) w after := by
  have emits := brings_emits (C := C) (F := F) platform
  have free : ∀ (world : World C F) (camera : Camera C F), Brings 0 world { world with camera := camera } :=
    fun world _ => brings_none world _ rfl
  have silent : ∀ before after : World C F, after.published = before.published → Brings (price captured ev.sig) before after :=
    fun before after same => emits.more 0 _ _ _ (Nat.zero_le _) (brings_none before after same)
  cases reaction_conduct (brings_feeds platform) (fun _ world ev rest _ => brings_none world _ rfl)
    (fun before after aloof => brings_none before after aloof.published) S next ev w after reaction with
  | ignores kept stays => exact silent w w rfl
  | connects _ start named run =>
      rw [named]
      exact Prog.within_ok _ _ _ _ _ (connect_within emits free (fun _ => trivial) (fun _ => trivial)) run
  | breaks _ reason cheap run =>
      rw [cheap]
      exact Prog.within_ok _ _ _ _ _ (disconnect_within emits free trivial) run
  | defers _ occupied command run =>
      cases run
      exact silent w _ rfl
  | carried _ _ route effect => exact effect

theorem announced_after (before after : World C F) (entries : List (Answer F)) (fresh : List (EventPtr × CcTopic))
    (announced : Announced before) (logged : after.camera.gp.log = before.camera.gp.log ++ entries)
    (published : after.published = before.published ++ fresh) (same : entries.filterMap taken = fresh.filterMap news) :
    Announced after := by
  rw [Announced, logged, published, List.filterMap_append, List.filterMap_append, announced, same]

theorem untaken_refl (camera : Camera C F) : Untaken camera camera := ⟨[], (List.append_nil _).symm, rfl⟩

theorem untaken_trans (first second third : Camera C F) (left : Untaken first second) (right : Untaken second third) :
    Untaken first third := by
  obtain ⟨entries, logged, none⟩ := left
  obtain ⟨later, after, nothing⟩ := right
  exact ⟨entries ++ later, by rw [after, logged, List.append_assoc], by rw [List.filterMap_append, none, nothing]; rfl⟩

theorem set_up_quiet : Prog.Within (Quiet platform) (do setConfig platform; readStatus platform; readOptions platform) := by
  apply Prog.within_bind _ _ _ (set_config_quiet platform)
  intro _
  exact Prog.within_bind _ _ _ (read_status_quiet platform) (fun _ => read_options_quiet platform)

theorem configure_quiet : Prog.Within (Quiet platform) (do setConfig platform; readStatus platform) :=
  Prog.within_bind _ _ _ (set_config_quiet platform) (fun _ => read_status_quiet platform)

theorem reaction_untaken (S next : ControllerState) (ev : EventPtr) (w after : World C F) (other : ev.sig ≠ .evCameraCaptureWired)
    (reaction : Reaction platform S ev w next after) : Untaken w.camera after.camera := by
  cases reaction with
  | ignores _ _ _ kept stays => exact untaken_refl _
  | connects _ _ _ _ start named run => exact quiet_untaken platform _ (connect_quiet platform) w after () run
  | refused _ _ _ named run => exact quiet_untaken platform _ (disconnect_quiet platform) w after () run
  | established _ _ ready set _ named setUp attempts run =>
      have first := quiet_untaken platform _ (set_up_quiet platform) w ready () setUp
      have second := quiet_untaken platform _ (enter_idle_quiet platform) set after () run
      rw [attempts] at second
      exact untaken_trans _ _ _ first second
  | fails _ _ _ _ substate broken run => exact quiet_untaken platform _ (disconnect_quiet platform) w after () run
  | defers _ _ _ _ occupied command run =>
      cases run
      exact untaken_refl _
  | configures _ _ _ config named carries run =>
      exact quiet_untaken platform _ (configure_quiet platform) { executing w ev with cameraConfig := config } after () run
  | reports _ _ _ named run => exact quiet_untaken platform _ (read_status_quiet platform) (executing w ev) after () run
  | lists _ _ _ named run => exact quiet_untaken platform _ (read_options_quiet platform) (executing w ev) after () run
  | captures _ _ _ named run => exact absurd named other
  | downloads _ _ _ cameraPath named carries run =>
      have drives := enter_downloading_drives platform { executing w ev with toDownload := cameraPath }
      rw [run] at drives
      have pictureless : Order.capture ∉ (transferred platform cameraPath).toList := by
        unfold transferred
        split <;> simp
      exact drives_untaken platform _ pictureless [] { executing w ev with toDownload := cameraPath } after drives
  | leaves _ _ named => exact untaken_refl _
  | completes _ _ _ _ ended run => exact quiet_untaken platform _ (enter_idle_quiet platform) w after () run

theorem wired_capture_tells (camera : Camera C F) : Tells (fun calls ending => ∃ handle code path,
    calls = [⟨.gpCameraCapture handle, (code, path)⟩] ∧
      ending = if code = gpOk then .ok path else .error (.gPhotoError code))
    (CameraWrapper.wiredCapture platform) camera := by
  apply tells_own
  apply tells_call
  intro result after same
  obtain ⟨code, path⟩ := result
  dsimp only
  by_cases good : code = gpOk
  · rw [if_pos good]
    exact tells_pure _ after path ⟨_, code, path, rfl, (if_pos good).symm⟩
  · rw [if_neg good]
    exact tells_throw _ after _ ⟨_, code, path, rfl, (if_neg good).symm⟩

theorem emitted_announced (sig : CcEvent) (payload : Payload) (world : World C F) (camera : Camera C F)
    (announced : Announced world) (entry : Answer F) (logged : camera.gp.log = world.camera.gp.log ++ [entry])
    (same : taken entry = news ({ id := world.nextId, sig := sig, payload := payload }, .topicCameraEvent)) :
    Announced (emitted platform sig payload .topicCameraEvent { world with camera := camera }) := by
  have published := emitted_published platform sig payload .topicCameraEvent { world with camera := camera }
  apply announced_after world _ [entry] _ announced _ published
  · rw [List.filterMap_cons, List.filterMap_cons, same]
    rfl
  · rw [(emitted_untouched platform _ _ _ _).2, logged]

theorem capture_wired_announced (world after : World C F) (announced : Announced world)
    (run : captureWired platform world = .ok () after) : Announced after := by
  obtain ⟨camera, calls, ending, ⟨handle, code, path, rfl, ended⟩, logged, _, told⟩ := wired_capture_tells platform world.camera
  cases Prog.tryCatch_eq_ok _ _ _ _ _ run with
  | inl returned =>
      obtain ⟨p, middle, captures, posts⟩ := Prog.bind_eq_ok _ _ _ _ _ returned
      obtain ⟨last, took, rfl⟩ := Prog.zoom_eq_ok _ _ _ world middle p captures
      rw [post_new_emitted] at posts
      obtain ⟨_, rfl⟩ := Outcome.ok.inj posts
      rw [told] at took
      by_cases good : code = gpOk
      · rw [if_pos good] at ended
        subst ended
        cases took
        exact emitted_announced platform _ _ world _ announced _ logged (congrArg some (if_pos good))
      · rw [if_neg good] at ended
        subst ended
        cases took
  | inr caught =>
      obtain ⟨error, middle, handler, threw, found, posts⟩ := caught
      obtain ⟨last, thrown, rfl⟩ := block_threw platform _ _ _ world middle error threw
      rw [told] at thrown
      by_cases good : code = gpOk
      · rw [if_pos good] at ended
        subst ended
        cases thrown
      · rw [if_neg good] at ended
        subst ended
        cases thrown
        cases found
        have posted := (post_new_emitted platform _ _ _ _).symm.trans posts
        obtain ⟨_, rfl⟩ := Outcome.ok.inj posted
        exact emitted_announced platform _ _ world _ announced _ logged (congrArg some (if_neg good))

theorem enter_capture_wired_announced (world after : World C F) (announced : Announced world)
    (run : enterCaptureWired platform world = .ok () after) : Announced after := by
  obtain ⟨responsive, middle, asks, rest⟩ := Prog.bind_eq_ok _ _ _ _ _ run
  obtain ⟨entries, logged, none⟩ := quiet_untaken platform _ (is_responsive_quiet platform) world middle responsive asks
  obtain ⟨camera, _, rfl⟩ := Prog.zoom_eq_ok _ _ _ world middle responsive asks
  have still := announced_after world { world with camera := camera } entries [] announced logged (List.append_nil _).symm none
  cases responsive with
  | false =>
      cases rest
      exact still
  | true => exact capture_wired_announced platform _ after still rest

theorem reaction_announced (S next : ControllerState) (ev : EventPtr) (w after : World C F) (announced : Announced w)
    (reaction : Reaction platform S ev w next after) : Announced after := by
  by_cases capturing : ev.sig = .evCameraCaptureWired
  · cases reaction with
    | ignores _ _ _ kept stays => exact announced
    | defers _ _ _ _ occupied command run =>
        cases run
        exact announced
    | captures _ _ _ named run => exact enter_capture_wired_announced platform (executing w ev) after announced run
    | fails _ _ _ _ substate broken run =>
        have named := breaks_named S ev broken
        rw [capturing] at named
        rcases named with named | named <;> cases named
    | completes _ _ _ _ ended run =>
        have named := finishes_named S ev ended
        rw [capturing] at named
        rcases named with named | named | named <;> cases named
    | connects _ _ _ _ start named run => cases capturing.symm.trans named
    | refused _ _ _ named run => cases capturing.symm.trans named
    | established _ _ ready set _ named setUp attempts run => cases capturing.symm.trans named
    | configures _ _ _ config named carries run => cases capturing.symm.trans named
    | reports _ _ _ named run => cases capturing.symm.trans named
    | lists _ _ _ named run => cases capturing.symm.trans named
    | downloads _ _ _ cameraPath named carries run => cases capturing.symm.trans named
    | leaves _ _ named => cases capturing.symm.trans named
  · obtain ⟨entries, logged, none⟩ := reaction_untaken platform S next ev w after capturing reaction
    obtain ⟨fresh, published, few⟩ := reaction_brings platform S next ev w after reaction
    rw [captured_price ev.sig capturing] at few
    exact announced_after w after entries fresh announced logged published
      (none.trans (List.eq_nil_of_length_eq_zero (Nat.le_zero.mp few)).symm)

-- The captures that gphoto2 answered are the ones that are published, each once,
-- in the same order, and with its path or its code.
theorem captures_announced (outside : C) (downloadDir : String) (inputs : List Input) (c : Config C F)
    (run : Run (ControllerStep platform) (started outside downloadDir) inputs c) :
    c.world.camera.gp.log.filterMap taken = c.world.published.filterMap news := by
  have held := run_holds platform (fun c => Announced c.world) outside downloadDir rfl (fun _ _ _ announced => announced)
    (fun c next ev rest _ announced _ _ reaction =>
      reaction_announced platform _ _ ev (World.dequeued c.world rest) next.world announced reaction) inputs c run
  exact held.2

end Captures

theorem captures_announced_working : ∃ c, Run (ControllerStep working) (started 0 "/photos") photographing c ∧
    c.world.camera.gp.log.filterMap taken = [(.evCameraCaptureSuccess, .cameraCaptureSuccessEvent ⟨"/", "IMG_0001.JPG"⟩)] ∧
    c.world.camera.gp.log.filterMap taken = c.world.published.filterMap news := by
  obtain ⟨c, run, seen⟩ := advance_all_observed working (fun c => c.world.camera.gp.log.filterMap taken) (started 0 "/photos")
    photographing [(.evCameraCaptureSuccess, .cameraCaptureSuccessEvent ⟨"/", "IMG_0001.JPG"⟩)] (by decide +kernel)
  exact ⟨c, run, seen, captures_announced working 0 "/photos" photographing c run⟩

end Controller

end CameraController
