import CameraController.ControllerRun

set_option autoImplicit false

namespace CameraController

open Effects

namespace Controller

-- The signals of the events that the controller makes while it talks to a
-- connected camera. connect() and disconnect() make the other ones.
def reported (sig : CcEvent) : Bool :=
  match sig with
  | .evCameraGenericError => true
  | .evCameraValConfig => true
  | .evCameraValStatus => true
  | .evCameraOptionsShutterSpeed => true
  | .evCameraOptionsAperture => true
  | .evCameraOptionsIso => true
  | .evCameraOptionsTriggerMode => true
  | .evCameraCaptureSuccess => true
  | .evCameraCaptureError => true
  | .evCameraDownloadSuccess => true
  | .evCameraDownloadError => true
  | _ => false

section Carrying

variable {C F A : Type} (platform : Platform C F)

-- The try block of download(), once the path is copied.
def copyPhoto (path : CameraPath) (photo : String) : Prog (World C F) Exn Unit :=
  Prog.tryCatch
    (do
      onCamera (CameraWrapper.downloadFile platform (CameraWrapper.filePath path) photo)
      postNew platform .evCameraDownloadSuccess (.cameraDownloadSuccessEvent path photo) .topicCameraEvent)
    (fun e =>
      match e with
      | .filesystemError _ _ => some (postNew platform .evCameraDownloadError .event .topicCameraEvent)
      | .gPhotoError error => some (postGPhotoError platform error)
      | _ => none)

theorem download_copies (world : World C F) : download platform world =
    (ensureDownloadDir platform world.downloadDir >>= fun _ =>
      if CameraWrapper.fits platform world.toDownload then
        copyPhoto platform world.toDownload (joinPath world.downloadDir world.toDownload.name)
      else Prog.fault .overflow) world := by
  rw [download, Prog.bind_ok Prog.get _ world world world rfl]
  simp only [CameraWrapper.to_camera_file_path_bind]
  split
  · rfl
  · rfl

theorem download_fits (world : World C F) (room : CameraWrapper.fits platform world.toDownload = true) : download platform world =
    (ensureDownloadDir platform world.downloadDir >>= fun _ =>
      copyPhoto platform world.toDownload (joinPath world.downloadDir world.toDownload.name)) world := by
  rw [download_copies, if_pos room]

theorem download_overflows (world : World C F) (long : CameraWrapper.fits platform world.toDownload = false) :
    download platform world = (ensureDownloadDir platform world.downloadDir >>= fun _ => Prog.fault .overflow) world := by
  rw [download_copies, if_neg (by rw [long]; exact Bool.false_ne_true)]

theorem download_room (world after : World C F) (run : download platform world = .ok () after) :
    CameraWrapper.fits platform world.toDownload = true := by
  cases room : CameraWrapper.fits platform world.toDownload with
  | true => rfl
  | false =>
      rw [download_overflows platform world room] at run
      obtain ⟨_, _, _, run⟩ := Prog.bind_eq_ok _ _ _ _ _ run
      cases run

-- A relation between worlds that the elementary effects of the functions that
-- post events have.
structure Posts (R : World C F → World C F → Prop) (own : CcEvent → Prop) : Prop where
  refl : ∀ world, R world world
  trans : ∀ first second third, R first second → R second third → R first third
  mint : ∀ world, R world { world with nextId := world.nextId + 1 }
  publish : ∀ world published, R world { world with published := published }
  poll : ∀ world outside, R world { world with camera := { world.camera with gp := { world.camera.gp with outside := outside } } }
  arrival : ∀ world command, R world (arrive world command)
  own : ∀ world ev, own ev.sig → R world { world with eventList := world.eventList ++ [ev] }

structure Carries (R : World C F → World C F → Prop) : Prop extends Posts R (fun sig => reported sig = true) where
  camera : ∀ world after, SameHandles world.camera after → R world { world with camera := after }

theorem any_camera_within (R : World C F → World C F → Prop) (free : ∀ world after, R world { world with camera := after })
    (p : Prog (Camera C F) Exn A) : Prog.Within R (onCamera p) := by
  apply Prog.within_zoom _ _ p (fun _ _ => True) R
  · intro camera
    cases p camera <;> trivial
  · exact fun world after _ => free world after

section PostRules

variable {R : World C F → World C F → Prop} {own : CcEvent → Prop} (posts : Posts R own)

include posts

theorem arrivals_within (commands : List Command) (world : World C F) : R world (commands.foldl arrive world) := by
  induction commands generalizing world with
  | nil => exact posts.refl world
  | cons command commands ih => exact posts.trans _ _ _ (posts.arrival world command) (ih (arrive world command))

theorem poll_within : Prog.Within R (poll platform) := fun world =>
  posts.trans _ _ _ (posts.poll world (platform.arrivals world.camera.gp.outside).2)
    (arrivals_within posts (platform.arrivals world.camera.gp.outside).1 _)

theorem post_event_within (ev : EventPtr) (fits : own ev.sig) : Prog.Within R (postEvent platform ev) := by
  have : IsTrans (World C F) R := ⟨posts.trans⟩
  exact Prog.within_bind R _ _ (poll_within platform posts) (fun _ world => posts.own world ev fits)

theorem post_new_within (sig : CcEvent) (payload : Payload) (topic : CcTopic) (fits : own sig) :
    Prog.Within R (postNew platform sig payload topic) := by
  have : IsTrans (World C F) R := ⟨posts.trans⟩
  intro world
  have made := posts.mint world
  have tail : Prog.Within R (brokerPost platform ⟨world.nextId, sig, payload⟩ topic) := by
    apply Prog.within_bind R
    · exact fun w => posts.publish w _
    · intro _
      split
      · exact post_event_within platform posts _ fits
      · exact fun w => posts.refl w
  exact Outcome.ends_mono _ _ _ (fun _ step => posts.trans _ _ _ made step) (tail _)

end PostRules

def polled (world : World C F) : World C F :=
  (platform.arrivals world.camera.gp.outside).1.foldl arrive
    { world with camera := { world.camera with
        gp := { world.camera.gp with outside := (platform.arrivals world.camera.gp.outside).2 } } }

-- A relation with a price that adds up along the effects of the functions that
-- post events: cost says what a post of each signal may add to it.
structure Emits (R : Nat → World C F → World C F → Prop) (cost : CcEvent → Nat) (own : CcEvent → Payload → Prop) : Prop where
  refl : ∀ world, R 0 world world
  trans : ∀ j k first second third, R j first second → R k second third → R (j + k) first third
  more : ∀ j k before after, j ≤ k → R j before after → R k before after
  polls : ∀ world, R 0 world (polled platform world)
  post : ∀ sig payload topic, own sig payload → Prog.Within (R (cost sig)) (postNew platform sig payload topic)

def reports (sig : CcEvent) (payload : Payload) : Prop := reported sig = true ∧ payload.eventClass = sig.eventClass

structure Feeds (R : Nat → World C F → World C F → Prop) (cost : CcEvent → Nat) : Prop extends
    Emits platform R cost reports where
  camera : ∀ world after, SameHandles world.camera after → R 0 world { world with camera := after }

theorem Posts.emits {R : World C F → World C F → Prop} {own : CcEvent → Prop} (posts : Posts R own) :
    Emits platform (fun _ => R) (fun _ => 0) (fun sig _ => own sig) where
  refl := posts.refl
  trans := fun _ _ => posts.trans
  more := fun _ _ _ _ _ step => step
  polls := fun world => Prog.within_ok R _ world _ () (poll_within platform posts) rfl
  post := fun sig payload topic fits => post_new_within platform posts sig payload topic fits

theorem Carries.feeds {R : World C F → World C F → Prop} (carries : Carries R) :
    Feeds platform (fun _ => R) (fun _ => 0) where
  toEmits := { carries.toPosts.emits platform with
    post := fun sig payload topic fits => post_new_within platform carries.toPosts sig payload topic fits.1 }
  camera := carries.camera

theorem post_new_returns (sig : CcEvent) (payload : Payload) (topic : CcTopic) (world : World C F) :
    ∃ after, postNew platform sig payload topic world = .ok () after := by
  cases topic <;> exact ⟨_, rfl⟩

section EmitRules

variable {platform} {R : Nat → World C F → World C F → Prop} {cost : CcEvent → Nat} {own : CcEvent → Payload → Prop}
  (emits : Emits platform R cost own)

include emits

theorem bind_within {B : Type} (j k : Nat) (first : Prog (World C F) Exn A) (next : A → Prog (World C F) Exn B)
    (firstWithin : Prog.Within (R j) first) (nextWithin : ∀ value, Prog.Within (R k) (next value)) :
    Prog.Within (R (j + k)) (first >>= next) :=
  Prog.within_seq (R j) (R k) (R (j + k)) first next (emits.trans j k)
    (fun before after => emits.more j (j + k) before after (Nat.le_add_right j k)) firstWithin nextWithin

theorem pure_within (k : Nat) (value : A) : Prog.Within (R k) (pure value : Prog (World C F) Exn A) := fun world =>
  emits.more 0 k world world (Nat.zero_le k) (emits.refl world)

theorem get_within : Prog.Within (R 0) (Prog.get : Prog (World C F) Exn (World C F)) := fun world => emits.refl world

theorem throw_within (error : Exn) : Prog.Within (R 0) (Prog.throw error : Prog (World C F) Exn A) := fun world =>
  emits.refl world

theorem more_within (j k : Nat) (p : Prog (World C F) Exn A) (less : j ≤ k) (within : Prog.Within (R j) p) :
    Prog.Within (R k) p :=
  Prog.within_mono (R j) (R k) p (fun before after => emits.more j k before after less) within

theorem catch_within (j k : Nat) (body : Prog (World C F) Exn A) (clause : Int → Prog (World C F) Exn A)
    (bodyWithin : Prog.Within (R j) body) (clauseWithin : ∀ error, Prog.Within (R k) (clause error)) :
    Prog.Within (R (j + k)) (catchGPhotoError body clause) := by
  apply Prog.within_caught (R j) (R k) (R (j + k)) body _ (emits.trans j k)
    (fun before after => emits.more j (j + k) before after (Nat.le_add_right j k)) bodyWithin
  intro e handler found
  cases e with
  | gPhotoError error => cases found; exact clauseWithin error
  | _ => cases found

theorem report_within (body : Prog (Camera C F) Exn A) (success failure : CcEvent) (payload : A → Payload)
    (topic : CcTopic) (clause : Int → Prog (World C F) Exn Unit) (bodyWithin : Prog.Within (R 0) (onCamera body))
    (succeeds : ∀ value, own success (payload value)) (fails : ∀ error, Prog.Within (R (cost failure)) (clause error)) :
    Prog.Within (R (max (cost success) (cost failure))) (catchGPhotoError
      (do
        let value ← onCamera body
        postNew platform success (payload value) topic)
      clause) := by
  intro world
  have reached := bodyWithin world
  unfold catchGPhotoError Prog.tryCatch
  rw [Prog.bind_apply]
  cases run : onCamera body world with
  | ok value after =>
      rw [run] at reached
      have posts := emits.post success (payload value) topic (succeeds value) after
      obtain ⟨final, posted⟩ := post_new_returns platform success (payload value) topic after
      dsimp only
      rw [posted] at posts ⊢
      exact emits.more _ _ _ _ (Nat.le_max_left _ _) (Nat.zero_add (cost success) ▸ emits.trans 0 _ _ _ _ reached posts)
  | threw error after =>
      rw [run] at reached
      cases error with
      | gPhotoError code =>
          have handles := fails code after
          exact Outcome.ends_mono _ _ _ (fun final step => emits.more _ _ _ _ (Nat.le_max_right _ _)
            (Nat.zero_add (cost failure) ▸ emits.trans 0 _ _ _ _ reached step)) handles
      | _ => exact emits.more 0 _ _ _ (Nat.zero_le _) reached
  | fault cause => trivial

section AnyCamera

variable (free : ∀ world after, R 0 world { world with camera := after })

include free

theorem connect_within (connected : ∀ serial, own .evCameraConnected (.cameraConnectedEvent serial))
    (refused : ∀ error, own .evCameraConnectionError (.cameraErrorEvent error)) :
    Prog.Within (R (max (cost .evCameraConnected) (cost .evCameraConnectionError))) (connect platform) :=
  report_within emits (CameraWrapper.connect platform) _ _ _ _ _ (any_camera_within (R 0) free (CameraWrapper.connect platform))
    connected (fun error => emits.post _ _ _ (refused error))

theorem disconnect_within (disconnected : own .evCameraDisconnected .event) :
    Prog.Within (R (0 + cost .evCameraDisconnected)) (disconnect platform) := by
  apply bind_within emits 0 _ _ _ (any_camera_within (R 0) free (CameraWrapper.disconnect platform))
  intro released
  cases released with
  | true => exact emits.post _ _ _ disconnected
  | false => exact pure_within emits _ ()

end AnyCamera

end EmitRules

section CameraRules

variable {platform} {R : Nat → World C F → World C F → Prop} {cost : CcEvent → Nat} (feeds : Feeds platform R cost)

include feeds

theorem on_camera_within (p : Prog (Camera C F) Exn A) (within : Prog.Within SameHandles p) :
    Prog.Within (R 0) (onCamera p) :=
  Prog.within_zoom _ _ p SameHandles (R 0) within (fun world after step => feeds.camera world after step)

theorem post_gphoto_error_within (error : Int) :
    Prog.Within (R (cost .evCameraGenericError)) (postGPhotoError platform error) :=
  feeds.post _ _ _ ⟨rfl, rfl⟩

theorem set_option_within (requested : CameraConfig → Bool) (setter : CameraConfig → Prog (Camera C F) Exn Unit)
    (setterWithin : ∀ config, Prog.Within SameHandles (setter config)) :
    Prog.Within (R (cost .evCameraGenericError)) (setOption platform requested setter) := by
  have emits := feeds.toEmits
  rw [← Nat.zero_add (cost .evCameraGenericError)]
  apply catch_within emits 0
  · apply bind_within emits 0 0 _ _ (get_within emits)
    intro world
    split
    · exact on_camera_within feeds _ (setterWithin world.cameraConfig)
    · exact pure_within emits 0 ()
  · exact post_gphoto_error_within feeds

theorem set_config_within : Prog.Within (R (4 * cost .evCameraGenericError)) (setConfig platform) := by
  have emits := feeds.toEmits
  have write : ∀ configName value, Prog.Within SameHandles (CameraWrapper.writeWidget (C := C) platform configName value) :=
    CameraWrapper.write_widget_within platform
  have each := fun requested setter within => set_option_within feeds requested setter within
  rw [show 4 * cost .evCameraGenericError = cost .evCameraGenericError + (cost .evCameraGenericError +
    (cost .evCameraGenericError + cost .evCameraGenericError)) by omega]
  apply bind_within emits _ _ _ _ (each _ _ (fun _ => write _ _))
  intro _
  apply bind_within emits _ _ _ _ (each _ _ (fun _ => write _ _))
  intro _
  apply bind_within emits _ _ _ _ (each _ _ (fun _ => write _ _))
  intro _
  exact each _ _ (fun _ => write _ _)

theorem read_within (configName : String) (convert : String → Except NumericError A) :
    Prog.Within (R 0) (onCamera (CameraWrapper.readWidget platform configName convert)) :=
  on_camera_within feeds _ (CameraWrapper.read_widget_within platform configName convert)

def readStatusCost (cost : CcEvent → Nat) : Nat :=
  cost .evCameraValConfig + cost .evCameraValStatus + cost .evCameraGenericError

theorem read_status_within : Prog.Within (R (readStatusCost cost)) (readStatus platform) := by
  have emits := feeds.toEmits
  have read := fun configName convert => read_within feeds (A := Int) configName convert
  have readString := fun configName convert => read_within feeds (A := String) configName convert
  apply catch_within emits _ _ _ _ _ (post_gphoto_error_within feeds)
  apply Prog.within_mono (R (0 + (0 + (0 + (0 + (cost .evCameraValConfig + (0 + (0 + (0 + cost .evCameraValStatus)))))))))
  · exact fun before after => emits.more _ _ before after (by omega)
  apply bind_within emits 0 _ _ _ (read _ _)
  intro shutterSpeed
  apply bind_within emits 0 _ _ _ (read _ _)
  intro aperture
  apply bind_within emits 0 _ _ _ (read _ _)
  intro iso
  apply bind_within emits 0 _ _ _ (readString _ _)
  intro triggerMode
  apply bind_within emits _ _ _ _ (emits.post _ _ _ ⟨rfl, rfl⟩)
  intro _
  apply bind_within emits 0 _ _ _ (read _ _)
  intro battery
  apply bind_within emits 0 _ _ _ (readString _ _)
  intro exposureProgram
  apply bind_within emits 0 _ _ _ (on_camera_within feeds _ (CameraWrapper.get_focal_length_within platform))
  intro focalLength
  exact emits.post _ _ _ ⟨rfl, rfl⟩

theorem post_options_within (sig : CcEvent) (configName : String) (convert : String → Except NumericError A)
    (payload : List A → Payload) (fits : ∀ listed, reports sig (payload listed)) :
    Prog.Within (R (max (cost sig) (cost .evCameraGenericError)))
      (postOptions platform sig (CameraWrapper.listWidget platform configName convert) payload) :=
  report_within feeds.toEmits (CameraWrapper.listWidget platform configName convert) _ _ _ _ _
    (on_camera_within feeds _ (CameraWrapper.list_widget_within platform configName convert)) fits
    (post_gphoto_error_within feeds)

def readOptionsCost (cost : CcEvent → Nat) : Nat :=
  max (cost .evCameraOptionsShutterSpeed) (cost .evCameraGenericError) +
    (max (cost .evCameraOptionsAperture) (cost .evCameraGenericError) +
      (max (cost .evCameraOptionsIso) (cost .evCameraGenericError) +
        max (cost .evCameraOptionsTriggerMode) (cost .evCameraGenericError)))

theorem read_options_within : Prog.Within (R (readOptionsCost cost)) (readOptions platform) := by
  have emits := feeds.toEmits
  apply bind_within emits _ _ _ _ (post_options_within feeds _ _ _ _ (fun _ => ⟨rfl, rfl⟩))
  intro _
  apply bind_within emits _ _ _ _ (post_options_within feeds _ _ _ _ (fun _ => ⟨rfl, rfl⟩))
  intro _
  apply bind_within emits _ _ _ _ (post_options_within feeds _ _ _ _ (fun _ => ⟨rfl, rfl⟩))
  intro _
  exact post_options_within feeds _ _ _ _ (fun _ => ⟨rfl, rfl⟩)

def captureWiredCost (cost : CcEvent → Nat) : Nat := max (cost .evCameraCaptureSuccess) (cost .evCameraCaptureError)

theorem capture_wired_within : Prog.Within (R (captureWiredCost cost)) (captureWired platform) :=
  report_within feeds.toEmits (CameraWrapper.wiredCapture platform) _ _ _ _ _
    (on_camera_within feeds _ (CameraWrapper.wired_capture_within platform)) (fun _ => ⟨rfl, rfl⟩)
    (fun _ => feeds.post _ _ _ ⟨rfl, rfl⟩)

theorem ensure_download_dir_within (dir : String) :
    Prog.Within (R (cost .evCameraDownloadError)) (ensureDownloadDir platform dir) := by
  have emits := feeds.toEmits
  rw [← Nat.zero_add (cost .evCameraDownloadError)]
  apply bind_within emits 0
  · apply bind_within emits 0 0 _ _ (on_camera_within feeds _ (within_call platform _ (fun _ => rfl) rfl rfl))
    intro answered
    cases answered with
    | some found => exact pure_within emits 0 found
    | none => exact throw_within emits _
  · intro found
    cases found with
    | true => exact pure_within emits _ ()
    | false =>
        rw [← Nat.zero_add (cost .evCameraDownloadError)]
        apply bind_within emits 0 _ _ _ (on_camera_within feeds _ (within_call platform _ (fun _ => rfl) rfl rfl))
        intro created
        cases created with
        | true => exact pure_within emits _ ()
        | false => exact emits.post _ _ _ ⟨rfl, rfl⟩

def downloadCost (cost : CcEvent → Nat) : Nat :=
  cost .evCameraDownloadError + (cost .evCameraDownloadSuccess + (cost .evCameraDownloadError + cost .evCameraGenericError))

theorem copy_photo_within (path : CameraPath) (photo : String) : Prog.Within
    (R (cost .evCameraDownloadSuccess + (cost .evCameraDownloadError + cost .evCameraGenericError)))
    (copyPhoto platform path photo) := by
  have emits := feeds.toEmits
  apply Prog.within_caught _ _ _ _ _ (emits.trans _ _) (fun before after => emits.more _ _ before after (Nat.le_add_right _ _))
  · rw [← Nat.zero_add (cost .evCameraDownloadSuccess)]
    apply bind_within emits 0 _ _ _ (on_camera_within feeds _ (CameraWrapper.download_file_within platform _ _))
    intro _
    exact emits.post _ _ _ ⟨rfl, rfl⟩
  · intro e handler found
    cases e with
    | filesystemError _ _ =>
        cases found
        exact more_within emits _ _ _ (Nat.le_add_right _ _) (emits.post _ _ _ ⟨rfl, rfl⟩)
    | gPhotoError error =>
        cases found
        exact more_within emits _ _ _ (Nat.le_add_left _ _) (post_gphoto_error_within feeds error)
    | _ => cases found

theorem download_within : Prog.Within (R (downloadCost cost)) (download platform) := by
  intro world
  rw [download_copies]
  refine bind_within feeds.toEmits _ _ _ _ (ensure_download_dir_within feeds world.downloadDir) ?_ world
  intro _
  split
  · exact copy_photo_within feeds _ _
  · exact Prog.within_fault _ _

theorem guarded_within (n : Nat) (body : Prog (World C F) Exn Unit) (within : Prog.Within (R n) body) :
    Prog.Within (R n) (onCamera (CameraWrapper.isResponsive platform) >>= fun responsive =>
      if !responsive then pure () else body) := by
  rw [← Nat.zero_add n]
  apply bind_within feeds.toEmits 0 _ _ _ (on_camera_within feeds _ (is_responsive_within platform))
  intro responsive
  cases responsive with
  | false => exact pure_within feeds.toEmits _ ()
  | true => exact within

theorem enter_capture_wired_within : Prog.Within (R (captureWiredCost cost)) (enterCaptureWired platform) :=
  guarded_within feeds _ _ (capture_wired_within feeds)

theorem enter_downloading_within : Prog.Within (R (downloadCost cost)) (enterDownloading platform) :=
  guarded_within feeds _ _ (download_within feeds)

theorem configure_within : Prog.Within (R (4 * cost .evCameraGenericError + readStatusCost cost))
    (do setConfig platform; readStatus platform) :=
  bind_within feeds.toEmits _ _ _ _ (set_config_within feeds) (fun _ => read_status_within feeds)

theorem set_up_within : Prog.Within (R (4 * cost .evCameraGenericError + (readStatusCost cost + readOptionsCost cost)))
    (do setConfig platform; readStatus platform; readOptions platform) := by
  apply bind_within feeds.toEmits _ _ _ _ (set_config_within feeds)
  intro _
  exact bind_within feeds.toEmits _ _ _ _ (read_status_within feeds) (fun _ => read_options_within feeds)

end CameraRules

section Flushing

variable (begun : List EventPtr)

def recalled (world : World C F) (ev : EventPtr) (rest : CircularBuffer EventPtr 1000) : World C F :=
  { world with
    deferredEvents := rest
    eventList := world.eventList ++ [ev]
    reposts := world.reposts ++ [⟨ev, world.posted, begun⟩] }

theorem arrivals_aside (commands : List Command) (world : World C F) (rest : CircularBuffer EventPtr 1000) :
    commands.foldl arrive { world with deferredEvents := rest } =
      { commands.foldl arrive world with deferredEvents := rest } := by
  induction commands generalizing world with
  | nil => rfl
  | cons command commands ih => exact ih (arrive world command)

theorem arrivals_keep (commands : List Command) (world : World C F) :
    (commands.foldl arrive world).deferredEvents = world.deferredEvents := by
  induction commands generalizing world with
  | nil => rfl
  | cons command commands ih => exact ih (arrive world command)

theorem polled_keeps (world : World C F) : (polled platform world).deferredEvents = world.deferredEvents :=
  arrivals_keep _ _

theorem repost_recalled (world : World C F) (ev : EventPtr) (rest : CircularBuffer EventPtr 1000) :
    repost platform begun ev { world with deferredEvents := rest } = .ok () (recalled begun (polled platform world) ev rest) := by
  have moved : polled platform { world with deferredEvents := rest } =
      { polled platform world with deferredEvents := rest } :=
    arrivals_aside (platform.arrivals world.camera.gp.outside).1 { world with camera := { world.camera with
      gp := { world.camera.gp with outside := (platform.arrivals world.camera.gp.outside).2 } } } rest
  have run : repost platform begun ev { world with deferredEvents := rest } =
      .ok () (recalled begun (polled platform { world with deferredEvents := rest }) ev
        (polled platform { world with deferredEvents := rest }).deferredEvents) := rfl
  rw [run, moved]
  rfl

theorem flush_empty (n : Nat) (world : World C F) (empty : world.deferredEvents.isEmpty = true) :
    flushDeferred platform begun n world = .ok () world := by
  cases n with
  | zero =>
      rw [flushDeferred, Prog.bind_apply, Prog.get_apply]
      dsimp only
      rw [if_pos empty]
      rfl
  | succ n =>
      rw [flushDeferred, Prog.bind_apply, Prog.get_apply]
      dsimp only
      rw [if_pos empty]
      rfl

theorem flush_starved (world : World C F) (holding : ¬ world.deferredEvents.isEmpty = true) :
    flushDeferred platform begun 0 world = .fault .outOfFuel := by
  rw [flushDeferred, Prog.bind_apply, Prog.get_apply]
  dsimp only
  rw [if_neg holding]
  rfl

theorem flush_turn (n : Nat) (world : World C F) (ev : EventPtr) (rest : CircularBuffer EventPtr 1000)
    (holding : ¬ world.deferredEvents.isEmpty = true) (popped : world.deferredEvents.pop = .ok (ev, rest)) :
    flushDeferred platform begun (n + 1) world = flushDeferred platform begun n (recalled begun (polled platform world) ev rest) := by
  rw [flushDeferred, Prog.bind_apply, Prog.get_apply]
  dsimp only
  rw [if_neg holding, popped]
  dsimp only
  rw [Prog.bind_ok _ _ _ _ _ (Prog.modify_apply _ world), Prog.bind_ok _ _ _ _ _ (repost_recalled platform begun world ev rest)]

theorem holds_one (buffer : CircularBuffer EventPtr 1000) (holding : ¬ buffer.isEmpty = true) :
    ∃ ev rest, buffer.pop = .ok (ev, rest) ∧ buffer.contents = ev :: rest.contents := by
  cases holds : buffer.contents with
  | nil =>
      have none : buffer.count = 0 := by rw [← buffer.contents_length, holds, List.length_nil]
      exact absurd (buffer.empty_iff.mpr none) holding
  | cons ev tail =>
      obtain ⟨rest, popped, left⟩ := buffer.pop_contents ev tail holds
      exact ⟨ev, rest, popped, by rw [left]⟩

-- The loop rule: what holds when nothing is deferred and is kept backwards by
-- each turn holds of every flush that returns.
theorem flush_rule (P : World C F → World C F → Prop)
    (done : ∀ world, world.deferredEvents.contents = [] → P world world)
    (turn : ∀ world ev rest after, (polled platform world).deferredEvents.pop = .ok (ev, rest) →
      (polled platform world).deferredEvents.contents = ev :: rest.contents →
      P (recalled begun (polled platform world) ev rest) after → P world after)
    (n : Nat) (world after : World C F) (run : flushDeferred platform begun n world = .ok () after) : P world after := by
  induction n generalizing world with
  | zero =>
      by_cases empty : world.deferredEvents.isEmpty = true
      · rw [flush_empty platform begun 0 world empty] at run
        obtain ⟨_, same⟩ := Outcome.ok.inj run
        exact same ▸ done world (world.deferredEvents.contents_empty empty)
      · rw [flush_starved platform begun world empty] at run
        cases run
  | succ n ih =>
      by_cases empty : world.deferredEvents.isEmpty = true
      · rw [flush_empty platform begun (n + 1) world empty] at run
        obtain ⟨_, same⟩ := Outcome.ok.inj run
        exact same ▸ done world (world.deferredEvents.contents_empty empty)
      · obtain ⟨ev, rest, popped, holds⟩ := holds_one world.deferredEvents empty
        rw [flush_turn platform begun n world ev rest empty popped] at run
        apply turn world ev rest after
        · rw [polled_keeps, popped]
        · rw [polled_keeps, holds]
        · exact ih _ run

variable {platform} {R : Nat → World C F → World C F → Prop} {cost : CcEvent → Nat} (feeds : Feeds platform R cost)
  (calls : ∀ begun world ev rest, world.deferredEvents.pop = .ok (ev, rest) → R 0 world (recalled begun world ev rest))

include feeds calls

theorem flush_within (n : Nat) : Prog.Within (R 0) (flushDeferred platform begun n) := by
  induction n with
  | zero =>
      intro world
      by_cases empty : world.deferredEvents.isEmpty = true
      · rw [flush_empty platform begun 0 world empty]
        exact feeds.refl world
      · rw [flush_starved platform begun world empty]
        trivial
  | succ n ih =>
      intro world
      by_cases empty : world.deferredEvents.isEmpty = true
      · rw [flush_empty platform begun (n + 1) world empty]
        exact feeds.refl world
      · obtain ⟨ev, rest, popped, _⟩ := holds_one world.deferredEvents empty
        rw [flush_turn platform begun n world ev rest empty popped]
        have recalls := calls begun (polled platform world) ev rest (by rw [polled_keeps, popped])
        have turn := feeds.trans 0 0 _ _ _ (feeds.polls world) recalls
        exact Outcome.ends_mono _ _ _ (fun _ later => feeds.trans 0 0 _ _ _ turn later) (ih _)

theorem refresh_within : Prog.Within (R (readStatusCost cost)) (refresh platform) := by
  have emits := feeds.toEmits
  apply bind_within emits (readStatusCost cost) 0 _ _ (read_status_within feeds)
  intro _
  apply bind_within emits 0 0 _ _ (get_within emits)
  intro world
  exact flush_within world.deferredEvents.contents feeds calls world.deferredEvents.count

theorem enter_idle_within : Prog.Within (R (readStatusCost cost)) (enterIdle platform) :=
  guarded_within feeds _ _ (refresh_within feeds calls)

theorem enter_idle_carried (world after : World C F) (run : enterIdle platform world = .ok () after) :
    R (readStatusCost cost) world after :=
  Prog.within_ok _ _ world after () (enter_idle_within feeds calls) run

end Flushing

end Carrying

end Controller

end CameraController
