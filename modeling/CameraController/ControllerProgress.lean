import CameraController.ControllerPosts
import CameraController.WrapperDownload
import CameraController.WrapperExceptions

set_option autoImplicit false

namespace CameraController

open Effects Transition CameraWidget

section Copying

variable {C F A : Type} (platform : Platform C F)

theorem since_more (before middle after : Camera C F) (start : before.gp.log <+: middle.gp.log)
    (logged : middle.gp.log <+: after.gp.log) :
    answersSince before after = answersSince before middle ++ answersSince middle after := by
  obtain ⟨first, front⟩ := start
  obtain ⟨second, whole⟩ := logged
  have all : after.gp.log = before.gp.log ++ (first ++ second) := by rw [← whole, ← front, List.append_assoc]
  rw [since_logged before middle first front.symm, since_logged middle after second whole.symm,
    since_logged before after (first ++ second) all]

-- A transfer that goes wrong in a way that stateConnected does not hold to be
-- critical.
def stalls : Answer F → Prop
  | ⟨.gpFileNewFromFd _, result⟩ => result ≠ gpOk ∧ Controller.criticalError result = false
  | ⟨.gpCameraFileGet _ _ _, result⟩ => result ≠ gpOk ∧ Controller.criticalError result = false
  | _ => False

theorem fetch_stalls (path : CameraFilePath) (dest : String) (handle : Option Nat) (answers : List (Answer F)) (code : Int)
    (fetch : Fetch path dest handle answers (some (.gPhotoError code))) (minor : Controller.criticalError code = false) :
    ∃ entry ∈ answers, stalls entry := by
  cases fetch with
  | unmade fd result closed refused => exact ⟨⟨.gpFileNewFromFd fd, code⟩, by simp, refused, minor⟩
  | broken fd result closed freed failed => exact ⟨⟨.gpCameraFileGet handle path.folder path.name, code⟩, by simp, failed, minor⟩

theorem download_file_stalls (path : CameraFilePath) (destFilePath : String) (camera after : Camera C F) (code : Int)
    (run : CameraWrapper.downloadFile platform path destFilePath camera = .threw (.gPhotoError code) after)
    (minor : Controller.criticalError code = false) : ∃ entry ∈ answersSince camera after, stalls entry := by
  obtain ⟨last, answers, failure, fetch, logged, outcome⟩ := download_file_fetch platform path destFilePath camera
  obtain ⟨rfl, rfl⟩ := ended_threw _ _ _ _ failure (outcome.symm.trans run)
  rw [since_logged camera last answers logged]
  exact fetch_stalls path _ _ answers code fetch minor

def refusesDirectory : Answer F → Prop
  | ⟨.fsCreateDirectory _, result⟩ => result = false
  | _ => False

def refusing : Harm (Answer F) := Harm.ofEntry refusesDirectory

theorem refusing_ignores (c : Call) (other : ∀ result : c.Ret F, ¬ refusesDirectory ⟨c, result⟩) : Ignores (F := F) refusing c := by
  intro result
  refine ⟨?_, trivial⟩
  rintro ⟨entry, member, refuses⟩
  rw [List.mem_singleton.mp member] at refuses
  exact other result refuses

theorem never_refused (mild : Exn → Prop) (p : Prog (Camera C F) Exn A) (accuses : Accuses refusing mild True p)
    (camera after : Camera C F)
    (ended : (∃ value, p camera = .ok value after) ∨ ∃ error, mild error ∧ p camera = .threw error after) :
    ∀ entry ∈ answersSince camera after, ¬ refusesDirectory entry := by
  have since : ∀ added, answered after = answered camera ++ added → ¬ refusing.harmful added →
      ∀ entry ∈ answersSince camera after, ¬ refusesDirectory entry := by
    intro added logged harmless entry member refuses
    rw [since_logged camera after added logged] at member
    exact harmless ⟨entry, member, refuses⟩
  have verdict := accuses camera
  cases ended with
  | inl returned =>
      obtain ⟨value, run⟩ := returned
      rw [run] at verdict
      obtain ⟨added, logged, harmless, _⟩ := verdict
      exact since added logged harmless
  | inr threw =>
      obtain ⟨error, isMild, run⟩ := threw
      rw [run] at verdict
      obtain ⟨added, logged, harm, _⟩ := verdict
      exact since added logged (fun harmful => harm.mp harmful isMild)

theorem responsive_refuses_nothing : Accuses refusing (fun error => CameraWrapper.cameraException error = true) True
    (CameraWrapper.isResponsive (C := C) platform) :=
  is_responsive_accuses platform refusing _ (fun _ => refusing_ignores _ (fun _ => id))
    (fun _ => refusing_ignores _ (fun _ => id)) (fun _ => refusing_ignores _ (fun _ => id))
    (fun _ _ => refusing_ignores _ (fun _ => id)) (fun _ other caught => absurd caught (by rw [other]; exact Bool.false_ne_true))

theorem copy_refuses_nothing (path : CameraFilePath) (destFilePath : String) :
    Accuses refusing (fun _ => True) True (CameraWrapper.downloadFile (C := C) platform path destFilePath) :=
  download_file_accuses platform refusing _ (fun _ => trivial) (fun _ _ => trivial) (fun _ => refusing_ignores _ (fun _ => id))
    (refusing_ignores _ (fun _ => id)) (fun _ => refusing_ignores _ (fun _ => id))
    (fun _ _ _ => refusing_ignores _ (fun _ => id)) (refusing_ignores _ (fun _ => id)) (refusing_ignores _ (fun _ => id))
    path destFilePath

end Copying

namespace Controller

section Progress

variable {C F A : Type} (platform : Platform C F)

structure Grows (before after : World C F) : Prop where
  log : before.camera.gp.log <+: after.camera.gp.log
  queue : before.eventList <+: after.eventList

theorem grows_posts : Posts (Grows (C := C) (F := F)) (fun _ => True) where
  refl := fun _ => ⟨List.prefix_rfl, List.prefix_rfl⟩
  trans := fun _ _ _ left right => ⟨left.log.trans right.log, left.queue.trans right.queue⟩
  mint := fun _ => ⟨List.prefix_rfl, List.prefix_rfl⟩
  publish := fun _ _ => ⟨List.prefix_rfl, List.prefix_rfl⟩
  poll := fun _ _ => ⟨List.prefix_rfl, List.prefix_rfl⟩
  arrival := fun _ _ => ⟨List.prefix_rfl, List.prefix_append _ _⟩
  own := fun _ _ _ => ⟨List.prefix_rfl, List.prefix_append _ _⟩

theorem grows_carries : Carries (Grows (C := C) (F := F)) where
  toPosts := { grows_posts with own := fun world ev _ => grows_posts.own world ev trivial }
  camera := fun _ _ same => ⟨same.logged, List.prefix_rfl⟩

theorem unasked_posts : Posts (fun before after : World C F => after.camera.gp.log = before.camera.gp.log) (fun _ => True) where
  refl := fun _ => rfl
  trans := fun _ _ _ left right => right.trans left
  mint := fun _ => rfl
  publish := fun _ _ => rfl
  poll := fun _ _ => rfl
  arrival := fun _ _ => rfl
  own := fun _ _ _ => rfl

theorem post_new_queued (sig : CcEvent) (payload : Payload) (world after : World C F)
    (run : postNew platform sig payload .topicCameraEvent world = .ok () after) :
    ∃ ev ∈ after.eventList, ev.sig = sig ∧ ev.payload = payload := by
  cases run
  exact ⟨⟨world.nextId, sig, payload⟩, List.mem_append_right _ List.mem_cons_self, rfl, rfl⟩

theorem reports_queued (body : Prog (Camera C F) Exn A) (success failure : CcEvent) (payload : A → Payload) (world after : World C F)
    (run : catchGPhotoError
      (do
        let value ← onCamera body
        postNew platform success (payload value) .topicCameraEvent)
      (fun error => postNew platform failure (.cameraErrorEvent error) .topicCameraEvent) world = .ok () after) :
    ∃ ev ∈ after.eventList, ev.sig = success ∨ ev.sig = failure := by
  cases Prog.tryCatch_eq_ok _ _ _ _ _ run with
  | inl returned =>
      obtain ⟨value, middle, _, posts⟩ := Prog.bind_eq_ok _ _ _ _ _ returned
      obtain ⟨ev, member, named, _⟩ := post_new_queued platform success _ middle after posts
      exact ⟨ev, member, .inl named⟩
  | inr caught =>
      obtain ⟨error, middle, handler, _, found, posts⟩ := caught
      cases error with
      | gPhotoError code =>
          cases found
          obtain ⟨ev, member, named, _⟩ := post_new_queued platform failure _ middle after posts
          exact ⟨ev, member, .inr named⟩
      | _ => cases found

theorem connect_queues (world after : World C F) (run : connect platform world = .ok () after) :
    ∃ ev ∈ after.eventList, exits .stateConnecting ev = true := by
  obtain ⟨ev, member, named⟩ := reports_queued platform _ _ _ _ world after run
  refine ⟨ev, member, ?_⟩
  cases named with
  | inl success => rw [exits, success]; rfl
  | inr failure => rw [exits, failure]; rfl

theorem capture_wired_queues (world after : World C F) (run : captureWired platform world = .ok () after) :
    ∃ ev ∈ after.eventList, exits .stateCaptureWired ev = true := by
  obtain ⟨ev, member, named⟩ := reports_queued platform _ _ _ _ world after run
  refine ⟨ev, member, ?_⟩
  cases named with
  | inl success => simp [exits, finishes, success]
  | inr failure => simp [exits, breaks, failure]

-- How a transfer has to end for the controller to notice: it works, or fails
-- with a critical code, or there was no directory to put the photo in.
def Noticed (answers : List (Answer F)) : Prop :=
  (∀ entry ∈ answers, ¬ stalls entry) ∨ ∃ entry ∈ answers, refusesDirectory entry

theorem asked_call (c : Call) (world after : World C F) (result : c.Ret F)
    (run : onCamera (call platform c) world = .ok result after) :
    ∃ outside, after = { world with camera := recorded world.camera c result outside } := by
  cases run
  exact ⟨_, rfl⟩

theorem since_recorded (camera : Camera C F) (c : Call) (result : c.Ret F) (outside : C) :
    answersSince camera (recorded camera c result outside) = [⟨c, result⟩] := List.drop_left

theorem download_dir_asked (dir : String) (world after : World C F) (found : Bool)
    (run : downloadDirExists platform dir world = .ok found after) :
    ∃ outside, after = { world with camera := recorded world.camera (.fsExists dir) (some found) outside } := by
  obtain ⟨answer, told, looked, answered⟩ := Prog.bind_eq_ok _ _ _ _ _ run
  obtain ⟨outside, rfl⟩ := asked_call platform (.fsExists dir) world told answer looked
  cases answer with
  | some _ => cases answered; exact ⟨outside, rfl⟩
  | none => cases answered

theorem refused_queues (dir : String) (world after : World C F) (run : ensureDownloadDir platform dir world = .ok () after)
    (refused : ∃ entry ∈ answersSince world.camera after.camera, refusesDirectory entry) :
    ∃ ev ∈ after.eventList, exits .stateDownloading ev = true := by
  obtain ⟨found, asked, looked, run⟩ := Prog.bind_eq_ok _ _ _ _ _ run
  obtain ⟨outside, rfl⟩ := download_dir_asked platform dir world asked found looked
  obtain ⟨entry, member, refuses⟩ := refused
  cases found with
  | true =>
      cases run
      rw [since_recorded, List.mem_singleton] at member
      rw [member] at refuses
      cases refuses
  | false =>
      obtain ⟨created, made, makes, run⟩ := Prog.bind_eq_ok _ _ _ _ _ run
      obtain ⟨beyond, rfl⟩ := asked_call platform (.fsCreateDirectory dir) _ made created makes
      cases created with
      | true =>
          cases run
          rw [since_more world.camera _ _ (List.prefix_append _ _) (List.prefix_append _ _), since_recorded, since_recorded] at member
          cases List.mem_append.mp member with
          | inl first => rw [List.mem_singleton.mp first] at refuses; cases refuses
          | inr second => rw [List.mem_singleton.mp second] at refuses; cases refuses
      | false =>
          obtain ⟨ev, queued, named, _⟩ := post_new_queued platform _ _ _ after run
          exact ⟨ev, queued, by simp [exits, finishes, named]⟩

theorem download_queues (world after : World C F) (run : download platform world = .ok () after)
    (noticed : Noticed (answersSince world.camera after.camera)) :
    ∃ ev ∈ after.eventList, exits .stateDownloading ev = true := by
  rw [download_fits platform world (download_room platform world after run)] at run
  obtain ⟨_, ready, ensured, run⟩ := Prog.bind_eq_ok _ _ _ _ _ run
  have prepares := Prog.within_ok _ _ _ _ _ (ensure_download_dir_within (grows_carries.feeds platform) world.downloadDir) ensured
  cases Prog.tryCatch_eq_ok _ _ _ _ _ run with
  | inl returned =>
      obtain ⟨_, copied, _, posts⟩ := Prog.bind_eq_ok _ _ _ _ _ returned
      obtain ⟨ev, member, named, _⟩ := post_new_queued platform _ _ copied after posts
      exact ⟨ev, member, by simp [exits, finishes, named]⟩
  | inr caught =>
      obtain ⟨error, failed, handler, threw, found, posts⟩ := caught
      obtain ⟨camera, copy, rfl⟩ := block_threw platform _ _ (fun _ => _) ready failed error threw
      cases error with
      | filesystemError what path =>
          cases found
          obtain ⟨ev, member, named, _⟩ := post_new_queued platform _ _ _ after posts
          exact ⟨ev, member, by simp [exits, finishes, named]⟩
      | gPhotoError code =>
          cases found
          obtain ⟨ev, member, named, carries⟩ := post_new_queued platform _ _ _ after posts
          cases isCritical : criticalError code with
          | true => exact ⟨ev, member, by simp [exits, breaks, critical, named, carries, isCritical]⟩
          | false =>
              have quiet := Prog.within_ok _ _ _ _ _ (post_new_within platform unasked_posts _ _ _ trivial) posts
              have grown := Prog.within_ok _ _ _ _ _ (post_new_within platform grows_posts _ _ _ trivial) posts
              have copies := Prog.within_threw _ _ _ _ _ (CameraWrapper.download_file_within platform _ _) copy
              have same : answersSince ready.camera after.camera = answersSince ready.camera camera := by
                rw [answersSince, quiet]
                rfl
              rw [since_more _ _ _ prepares.log (copies.logged.trans grown.log), same] at noticed
              cases noticed with
              | inl smooth =>
                  obtain ⟨entry, stalled, bad⟩ := download_file_stalls platform _ _ _ _ code copy isCritical
                  exact absurd bad (smooth entry (List.mem_append_right _ stalled))
              | inr refused =>
                  obtain ⟨entry, place, refuses⟩ := refused
                  cases List.mem_append.mp place with
                  | inl before =>
                      obtain ⟨earlier, queued, ends⟩ := refused_queues platform _ world ready ensured ⟨entry, before, refuses⟩
                      exact ⟨earlier, grown.queue.subset queued, ends⟩
                  | inr during =>
                      exact absurd refuses (never_refused _ _ (copy_refuses_nothing platform _ _) _ _
                        (.inr ⟨_, trivial, copy⟩) entry during)
      | _ => cases found

-- The camera answers with the serial number it was connected with.
def Responsive (camera : Camera C F) : Prop := ∃ after, CameraWrapper.isResponsive platform camera = .ok true after

theorem asked_responsive (world asked : World C F) (responsive : Bool) (good : Responsive platform world.camera)
    (run : onCamera (CameraWrapper.isResponsive platform) world = .ok responsive asked) :
    responsive = true ∧ ∃ camera, CameraWrapper.isResponsive platform world.camera = .ok true camera ∧
      asked = { world with camera := camera } := by
  obtain ⟨camera, answered, same⟩ := Prog.zoom_eq_ok _ _ _ world asked responsive run
  obtain ⟨after, expected⟩ := good
  rw [expected] at answered
  obtain ⟨rfl, rfl⟩ := Outcome.ok.inj answered
  exact ⟨rfl, _, expected, same⟩

theorem enter_capture_wired_queues (world after : World C F) (good : Responsive platform world.camera)
    (run : enterCaptureWired platform world = .ok () after) : ∃ ev ∈ after.eventList, exits .stateCaptureWired ev = true := by
  obtain ⟨responsive, asked, answered, run⟩ := Prog.bind_eq_ok _ _ _ _ _ run
  obtain ⟨rfl, _, _, _⟩ := asked_responsive platform world asked responsive good answered
  exact capture_wired_queues platform asked after run

theorem enter_downloading_queues (world after : World C F) (good : Responsive platform world.camera)
    (noticed : Noticed (answersSince world.camera after.camera)) (run : enterDownloading platform world = .ok () after) :
    ∃ ev ∈ after.eventList, exits .stateDownloading ev = true := by
  obtain ⟨responsive, asked, answered, run⟩ := Prog.bind_eq_ok _ _ _ _ _ run
  obtain ⟨rfl, camera, returned, rfl⟩ := asked_responsive platform world asked responsive good answered
  apply download_queues platform _ after run
  have first := Prog.within_ok _ _ _ _ _ (is_responsive_within platform) returned
  have second := Prog.within_ok _ _ _ _ _ (download_within (grows_carries.feeds platform)) run
  rw [since_more _ camera _ first.logged second.log] at noticed
  cases noticed with
  | inl smooth => exact .inl (fun entry member => smooth entry (List.mem_append_right _ member))
  | inr refused =>
      obtain ⟨entry, place, refuses⟩ := refused
      cases List.mem_append.mp place with
      | inl before =>
          exact absurd refuses (never_refused _ _ (responsive_refuses_nothing platform) _ _ (.inl ⟨true, returned⟩) entry before)
      | inr during => exact .inr ⟨entry, during, refuses⟩

def transient (state : ControllerState) : Bool := state == .stateConnecting || busy state

def Pending (state : ControllerState) (world : World C F) : Prop :=
  transient state = true → ∃ ev ∈ world.eventList, exits state ev = true

-- What is asked of the camera in a step, from the event at the head of the
-- queue: it responds when a capture or a download begins, and the end of the
-- download can be noticed.
structure Cooperates (before : Config C F) (input : Input) (after : Config C F) : Prop where
  responsive : ∀ ev rest, input = .handle → before.this.state = .stateIdle → before.world.eventList = ev :: rest →
    (ev.sig = .evCameraCaptureWired ∨ ev.sig = .evCameraDownload) → Responsive platform before.world.camera
  noticed : ∀ ev rest, input = .handle → before.this.state = .stateIdle → before.world.eventList = ev :: rest →
    ev.sig = .evCameraDownload → Noticed (answersSince before.world.camera after.world.camera)

theorem pending_rest (S : ControllerState) (world : World C F) (ev : EventPtr) (rest : List EventPtr)
    (head : world.eventList = ev :: rest) (stays : exits S ev = false) (pending : Pending S world) :
    Pending S (World.dequeued world rest) := by
  intro waits
  obtain ⟨other, member, ends⟩ := pending waits
  rw [head] at member
  cases List.mem_cons.mp member with
  | inl same => rw [same, stays] at ends; cases ends
  | inr later => exact ⟨other, later, ends⟩

theorem defers_stays (S : ControllerState) (ev : EventPtr) (occupied : busy S = true) (command : ev.deferrable = true) :
    exits S ev = false := by
  obtain ⟨id, sig, payload⟩ := ev
  cases S with
  | stateCaptureWired => cases sig <;> first | (cases payload <;> rfl) | cases command
  | stateDownloading => cases sig <;> first | (cases payload <;> rfl) | cases command
  | _ => cases occupied

theorem reaction_pending (c next : Config C F) (ev : EventPtr) (rest : List EventPtr) (head : c.world.eventList = ev :: rest)
    (pending : Pending c.this.state c.world) (cooperates : Cooperates platform c .handle next)
    (reaction : Reaction platform c.this.state ev (World.dequeued c.world rest) next.this.state next.world) :
    Pending next.this.state next.world := by
  have responsive := cooperates.responsive ev rest rfl
  have noticed := cooperates.noticed ev rest rfl
  have kept := pending_rest c.this.state c.world ev rest head
  generalize c.this.state = S at reaction responsive noticed kept pending
  generalize next.this.state = T at reaction ⊢
  generalize next.world = after at reaction noticed ⊢
  cases reaction with
  | ignores _ _ _ _ stays => exact kept stays pending
  | connects _ _ _ _ start named run => exact fun _ => connect_queues platform _ _ run
  | defers _ _ _ _ occupied command run =>
      cases run
      exact kept (defers_stays S ev occupied command) pending
  | captures _ _ _ named run =>
      intro _
      have good : Responsive platform (executing (World.dequeued c.world rest) ev).camera := responsive rfl head (.inl named)
      exact enter_capture_wired_queues platform _ _ good run
  | downloads _ _ _ cameraPath named carried run =>
      intro _
      exact enter_downloading_queues platform { executing (World.dequeued c.world rest) ev with toDownload := cameraPath } after
        (responsive rfl head (.inr named)) (noticed rfl head named) run
  | refused _ _ _ named run => exact fun contrary => nomatch contrary
  | established _ _ ready set _ named setUp attempts run => exact fun contrary => nomatch contrary
  | fails _ _ _ _ substate broken run => exact fun contrary => nomatch contrary
  | configures _ _ _ config named carried run => exact fun contrary => nomatch contrary
  | reports _ _ _ named run => exact fun contrary => nomatch contrary
  | lists _ _ _ named run => exact fun contrary => nomatch contrary
  | leaves _ _ named => exact fun contrary => nomatch contrary
  | completes _ _ _ _ ended run => exact fun contrary => nomatch contrary

def TakesOut (state : ControllerState) (ev : EventPtr) : Prop :=
  ∀ (world after : World C F) this,
    (machine platform).handleEvent turns (.signal ev) { state := state, temp := state } world = .ok this after →
      this.state ≠ state

theorem exits_takes_out (S : ControllerState) (rests : resting S = true) (waits : transient S = true) (ev : EventPtr)
    (ends : exits S ev = true) : TakesOut platform S ev := by
  intro world after this run
  obtain ⟨_, reaction⟩ := handle_event_reaction platform this S rests ev world after run
  generalize this.state = T at reaction ⊢
  cases reaction with
  | ignores _ _ _ _ stays => rw [stays] at ends; cases ends
  | defers _ _ _ _ occupied command _ => rw [defers_stays S ev occupied command] at ends; cases ends
  | connects _ _ _ _ start _ _ =>
      intro same
      rw [← same] at start
      exact start.elim ControllerState.noConfusion ControllerState.noConfusion
  | fails _ _ _ _ substate _ _ =>
      intro same
      rw [← same] at substate
      cases substate
  | completes _ _ _ _ ended _ =>
      intro same
      rw [← same] at ended
      cases ended
  | refused _ _ _ _ _ => exact ControllerState.noConfusion
  | established _ _ _ _ _ _ _ _ _ => exact ControllerState.noConfusion
  | configures _ _ _ _ _ _ _ => cases waits
  | reports _ _ _ _ _ => cases waits
  | lists _ _ _ _ _ => cases waits
  | captures _ _ _ _ _ => exact ControllerState.noConfusion
  | downloads _ _ _ _ _ _ _ => exact ControllerState.noConfusion
  | leaves _ _ _ => exact ControllerState.noConfusion

theorem calm_states (S : ControllerState) (rests : resting S = true) (still : transient S = false) :
    S = .stateDisconnected ∨ S = .stateError ∨ S = .stateIdle := by
  cases S with
  | stateDisconnected => exact .inl rfl
  | stateError => exact .inr (.inl rfl)
  | stateIdle => exact .inr (.inr rfl)
  | stateConnecting => cases still
  | stateCaptureWired => cases still
  | stateDownloading => cases still
  | hsmTop => cases rests
  | stateInit => cases rests
  | stateConnected => cases rests

structure NotStranded (c : Config C F) : Prop where
  atRest : c.world.eventList = [] →
    c.this.state = .stateDisconnected ∨ c.this.state = .stateError ∨ c.this.state = .stateIdle
  waiting : transient c.this.state = true → ∃ ev ∈ c.world.eventList, TakesOut platform c.this.state ev

theorem never_stranded (outside : C) (downloadDir : String) (inputs : List Input) (c : Config C F)
    (run : Run (Meeting (ControllerStep platform) (Cooperates platform)) (started outside downloadDir) inputs c) :
    NotStranded platform c := by
  obtain ⟨settled, pending⟩ := run_keeps platform (Cooperates platform) (fun c => Pending c.this.state c.world) outside
    downloadDir (fun contrary => nomatch contrary)
    (by
      intro c command _ pending waits
      obtain ⟨ev, member, ends⟩ := pending waits
      exact ⟨ev, List.mem_append_left _ member, ends⟩)
    (fun c next ev rest _ pending cooperates head _ reaction => reaction_pending platform c next ev rest head pending cooperates reaction)
    inputs c run
  constructor
  · intro empty
    have still : transient c.this.state = false := by
      cases waits : transient c.this.state with
      | false => rfl
      | true =>
          obtain ⟨ev, member, _⟩ := pending waits
          rw [empty] at member
          cases member
    exact calm_states c.this.state settled.rests still
  · intro waits
    obtain ⟨ev, member, ends⟩ := pending waits
    exact ⟨ev, member, exits_takes_out platform c.this.state settled.rests waits ev ends⟩

end Progress

def cooperative (before : Config Nat Unit) (input : Input) (_ : Config Nat Unit) : Bool :=
  match input, before.world.eventList with
  | .handle, ev :: _ =>
      ev.sig != .evCameraDownload && (ev.sig != .evCameraCaptureWired ||
        match CameraWrapper.isResponsive working before.world.camera with
        | .ok responsive _ => responsive
        | _ => false)
  | _, _ => true

theorem cooperative_sound (before : Config Nat Unit) (input : Input) (after : Config Nat Unit)
    (checked : cooperative before input after = true) : Cooperates working before input after := by
  constructor
  · intro ev rest handles _ head named
    subst handles
    simp only [cooperative, head] at checked
    obtain ⟨plain, responds⟩ := Bool.and_eq_true_iff.mp checked
    cases named with
    | inr download => rw [download] at plain; cases plain
    | inl capture =>
        rw [capture] at responds
        cases answered : CameraWrapper.isResponsive working before.world.camera with
        | ok responsive camera =>
            rw [answered] at responds
            obtain rfl : responsive = true := responds
            exact ⟨camera, answered⟩
        | threw error camera => rw [answered] at responds; cases responds
        | fault cause => rw [answered] at responds; cases responds
  · intro ev rest handles _ head download
    subst handles
    simp only [cooperative, head, download] at checked
    cases checked

theorem capture_not_stranded : ∃ c, Run (Meeting (ControllerStep working) (Cooperates working)) (started 0 "/photos")
    [.post .connect, .handle, .handle, .post .captureWired, .handle] c ∧ c.this.state = .stateCaptureWired ∧
    NotStranded working c := by
  let inputs : List Input := [.post .connect, .handle, .handle, .post .captureWired, .handle]
  have evaluated : (advanceAll working cooperative (started 0 "/photos") inputs).map (fun c => c.this.state) =
      some .stateCaptureWired := by decide +kernel
  obtain ⟨c, ended, state⟩ := Option.map_eq_some_iff.mp evaluated
  have run := advance_all_run working cooperative (Cooperates working) cooperative_sound _ c inputs ended
  exact ⟨c, run, state, never_stranded working 0 "/photos" inputs c run⟩

def silenced : Platform Nat Unit := attached (fun reads => if reads < 2 then gpOk else -7) (fun _ => none)

theorem silent_camera_strands : ¬ ∀ (inputs : List Input) (c : Config Nat Unit),
    Run (ControllerStep silenced) (started 0 "/photos") inputs c → c.world.eventList = [] →
      c.this.state = .stateDisconnected ∨ c.this.state = .stateError ∨ c.this.state = .stateIdle := by
  intro claimed
  obtain ⟨c, run, seen⟩ := advance_all_observed silenced (fun c => (c.this.state, c.world.eventList)) (started 0 "/photos")
    [.post .connect, .handle, .handle, .post .captureWired, .handle] (.stateCaptureWired, []) (by decide +kernel)
  obtain ⟨state, empty⟩ := Prod.mk.inj seen
  have atRest := claimed _ c run empty
  rw [state] at atRest
  exact atRest.elim ControllerState.noConfusion (fun other => other.elim ControllerState.noConfusion ControllerState.noConfusion)

end Controller

end CameraController
