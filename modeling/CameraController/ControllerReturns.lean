import CameraController.ControllerExceptions

set_option autoImplicit false

namespace CameraController

open Effects Transition

namespace Controller

section Returning

variable {C F B : Type} (platform : Platform C F)

def answersDuring (world : World C F) (p : Prog (World C F) Exn B) : List (Answer F) :=
  match p world with
  | .ok _ after => answersSince world.camera after.camera
  | .threw _ after => answersSince world.camera after.camera
  | .fault _ => []

theorem answers_during_bind {A : Type} (world : World C F) (p : Prog (World C F) Exn A) (value : A → B) :
    answersDuring world (p >>= fun result => pure (value result)) = answersDuring world p := by
  unfold answersDuring
  rw [Prog.bind_apply]
  cases p world <;> rfl

theorem returns_bind {A : Type} (world : World C F) (p : Prog (World C F) Exn A) (value : A → B) :
    (∃ result after, (p >>= fun result => pure (value result)) world = .ok result after) ↔
      ∃ result after, p world = .ok result after := by
  rw [Prog.bind_apply]
  cases p world <;> simp

theorem faults_bind {A : Type} (world : World C F) (p : Prog (World C F) Exn A) (value : A → B) (cause : Fault)
    (run : (p >>= fun result => pure (value result)) world = .fault cause) : p world = .fault cause := by
  rw [Prog.bind_apply] at run
  cases ended : p world with
  | ok result after => rw [ended] at run; cases run
  | threw error after => rw [ended] at run; cases run
  | fault other =>
      rw [ended] at run
      cases run
      rfl

theorem returns_iff (p : Prog (World C F) Exn B) (world : World C F)
    (verdict : Prog.Verdict heard escaping uncaught False (heard world) (p world)) :
    ((∃ value after, p world = .ok value after) ↔ ¬ escaping.harmful (answersDuring world p)) ∧
      ∀ cause, p world ≠ .fault cause := by
  have since : ∀ (after : World C F) added, heard after = heard world ++ added →
      answersSince world.camera after.camera = added := by
    intro after added logged
    have rest : (heard world ++ added).drop (heard world).length = added := List.drop_left
    rw [← logged] at rest
    exact rest
  unfold answersDuring
  cases run : p world with
  | ok value after =>
      rw [run] at verdict
      obtain ⟨added, logged, harmless, _⟩ := verdict
      refine ⟨?_, fun _ contrary => nomatch contrary⟩
      dsimp only
      rw [since after added logged]
      exact ⟨fun _ => harmless, fun _ => ⟨value, after, rfl⟩⟩
  | threw error after =>
      rw [run] at verdict
      obtain ⟨added, logged, harm, _⟩ := verdict
      refine ⟨?_, fun _ contrary => nomatch contrary⟩
      dsimp only
      rw [since after added logged]
      exact ⟨fun ⟨_, _, contrary⟩ => (nomatch contrary), fun harmless => absurd (harm.mpr id) harmless⟩
  | fault cause =>
      rw [run] at verdict
      exact verdict.elim

section Overflow

theorem on_camera_call (c : Call) (world : World C F) : ∃ outside, onCamera (call platform c) world =
    .ok (platform.answer c world.camera.gp.outside).1
      { world with camera := recorded world.camera c (platform.answer c world.camera.gp.outside).1 outside } := ⟨_, rfl⟩

theorem ensure_throws (dir : String) (world : World C F)
    (unknown : (platform.answer (.fsExists dir) world.camera.gp.outside).1 = none) : ∃ outside, ensureDownloadDir platform dir world =
      .threw (.filesystemError "status" dir) { world with camera := recorded world.camera (.fsExists dir) none outside } := by
  obtain ⟨outside, asked⟩ := on_camera_call platform (.fsExists dir) world
  rw [unknown] at asked
  refine ⟨outside, ?_⟩
  rw [ensureDownloadDir, downloadDirExists, bind_assoc, Prog.bind_ok _ _ _ _ _ asked]
  rfl

theorem ensure_returns (dir : String) (world : World C F) (found : Bool)
    (known : (platform.answer (.fsExists dir) world.camera.gp.outside).1 = some found) :
    ∃ after, ensureDownloadDir platform dir world = .ok () after := by
  obtain ⟨outside, asked⟩ := on_camera_call platform (.fsExists dir) world
  rw [known] at asked
  generalize { world with camera := recorded world.camera (.fsExists dir) (some found) outside } = middle at asked
  have looked : downloadDirExists platform dir world = .ok found middle := by
    rw [downloadDirExists, Prog.bind_ok _ _ _ _ _ asked]
    rfl
  rw [ensureDownloadDir, Prog.bind_ok _ _ _ _ _ looked]
  cases found with
  | true => exact ⟨_, rfl⟩
  | false =>
      obtain ⟨beyond, made⟩ := on_camera_call platform (.fsCreateDirectory dir) middle
      generalize (platform.answer (.fsCreateDirectory dir) middle.camera.gp.outside).1 = created at made
      change ∃ after, (onCamera (call platform (.fsCreateDirectory dir)) >>= _) middle = .ok () after
      rw [Prog.bind_ok _ _ _ _ _ made]
      cases created with
      | true => exact ⟨_, rfl⟩
      | false => exact ⟨_, rfl⟩

theorem ensure_returns_iff (dir : String) (world : World C F) : (∃ after, ensureDownloadDir platform dir world = .ok () after) ↔
    (platform.answer (.fsExists dir) world.camera.gp.outside).1 ≠ none := by
  constructor
  · rintro ⟨after, run⟩ unknown
    obtain ⟨outside, threw⟩ := ensure_throws platform dir world unknown
    rw [threw] at run
    cases run
  · intro known
    obtain ⟨found, known⟩ := Option.ne_none_iff_exists'.mp known
    exact ensure_returns platform dir world found known

-- The entry to stateDownloading up to the copy of the path: whether it comes to
-- that.
def approach (dir : String) : Prog (World C F) Exn Bool := do
  let responsive ← onCamera (CameraWrapper.isResponsive platform)
  if !responsive then pure false
  else
    ensureDownloadDir platform dir
    pure true

theorem approach_escapes (dir : String) : Escapes uncaught True (approach platform dir) := by
  apply Prog.blames_quiet heard escaping uncaught
  · exact on_camera_escapes _ _ _ (responsive_escapes platform uncaught (fun _ _ => id))
  · intro responsive
    cases responsive with
    | false => exact Prog.blames_pure heard escaping uncaught True false
    | true =>
        exact Prog.blames_quiet heard escaping uncaught _ _ (ensure_download_dir_escapes platform dir)
          (fun _ => Prog.blames_pure heard escaping uncaught True true)

def Reaches (world : World C F) : Prop :=
  ∃ camera, CameraWrapper.isResponsive platform world.camera = .ok true camera ∧
    (platform.answer (.fsExists world.downloadDir) camera.gp.outside).1 ≠ none

theorem approach_reaches (world : World C F) :
    (∃ after, approach platform world.downloadDir world = .ok true after) ↔ Reaches platform world := by
  constructor
  · rintro ⟨after, run⟩
    obtain ⟨responsive, middle, answered, run⟩ := Prog.bind_eq_ok _ _ _ _ _ run
    obtain ⟨camera, responds, rfl⟩ := Prog.zoom_eq_ok _ _ _ _ _ _ answered
    cases responsive with
    | false => cases run
    | true =>
        obtain ⟨_, ready, ensured, _⟩ := Prog.bind_eq_ok _ _ _ _ _ run
        exact ⟨camera, responds, (ensure_returns_iff platform _ _).mp ⟨ready, ensured⟩⟩
  · rintro ⟨camera, responds, tells⟩
    have answered : onCamera (CameraWrapper.isResponsive platform) world = .ok true { world with camera := camera } := by
      rw [onCamera, Prog.zoom, responds]
    obtain ⟨ready, ensured⟩ := (ensure_returns_iff platform world.downloadDir { world with camera := camera }).mpr tells
    refine ⟨ready, ?_⟩
    rw [approach, Prog.bind_ok _ _ _ _ _ answered]
    exact Prog.bind_ok _ _ _ _ _ ensured

theorem enter_downloading_overflows (world : World C F) (long : CameraWrapper.fits platform world.toDownload = false) :
    enterDownloading platform world = (approach platform world.downloadDir >>= fun copies =>
      if copies then Prog.fault .overflow else pure ()) world := by
  rw [enterDownloading, approach, bind_assoc]
  apply Prog.bind_congr_ok
  intro responsive after run
  obtain ⟨camera, _, rfl⟩ := Prog.zoom_eq_ok _ _ _ _ _ _ run
  cases responsive with
  | false => rfl
  | true =>
      change download platform _ = ((ensureDownloadDir platform world.downloadDir >>= fun _ => pure true) >>= _) _
      rw [bind_assoc]
      exact download_overflows platform { world with camera := camera } long

theorem returns_unless (first : Prog (World C F) Exn Bool) (other : B) (cause : Fault) (world : World C F)
    (escapes : Escapes uncaught True first) (p : Prog (World C F) Exn B) (start : World C F) (same : start.camera = world.camera)
    (runs : p start = (first >>= fun stops => if stops then Prog.fault cause else pure other) world) :
    ((∃ value after, p start = .ok value after) ↔
      ¬ escaping.harmful (answersDuring start p) ∧ ¬ ∃ after, first world = .ok true after) ∧
    ∀ fault, p start = .fault fault → fault = cause ∧ ∃ after, first world = .ok true after := by
  have judged := (returns_iff first world (loud first escapes world)).1
  rw [Prog.bind_apply] at runs
  unfold answersDuring at judged ⊢
  rw [runs, same]
  cases ended : first world with
  | ok stops after =>
      rw [ended] at judged
      cases stops with
      | true => simp
      | false => simpa using judged
  | threw error after =>
      rw [ended] at judged
      simpa using judged
  | fault other => exact absurd ended ((returns_iff first world (loud first escapes world)).2 other)

end Overflow

-- stateIdle takes an EV_CAMERA_DOWNLOAD whose path is too long, and gets as far
-- as copying it.
structure Overruns (S : ControllerState) (ev : EventPtr) (world : World C F) : Prop where
  idle : S = .stateIdle
  sig : ev.sig = .evCameraDownload
  long : ∃ path, ev.payload = .cameraDownloadEvent path ∧ CameraWrapper.fits platform path = false
  reaches : Reaches platform world

theorem idle_long_returns (ev : EventPtr) (path : CameraPath) (world : World C F) (named : ev.sig = .evCameraDownload)
    (carried : ev.payload = .cameraDownloadEvent path) (long : CameraWrapper.fits platform path = false) :
    ((∃ next after, react platform .stateIdle ev world = .ok next after) ↔
      ¬ escaping.harmful (answersDuring world (react platform .stateIdle ev)) ∧ ¬ Reaches platform world) ∧
    ∀ cause, react platform .stateIdle ev world = .fault cause → cause = .overflow ∧ Reaches platform world := by
  let entered : World C F := { executing world ev with toDownload := path }
  have runs : react platform .stateIdle ev world = (approach platform entered.downloadDir >>= fun stops =>
      if stops then Prog.fault .overflow else pure .stateDownloading) entered := by
    have enters : react platform .stateIdle ev world = (enterDownloading platform >>= fun _ => pure .stateDownloading) entered := by
      obtain ⟨id, sig, payload⟩ := ev
      obtain rfl := named
      obtain rfl := carried
      rfl
    rw [enters, Prog.bind_apply, enter_downloading_overflows platform entered long, Prog.bind_apply, Prog.bind_apply]
    cases approach platform entered.downloadDir entered with
    | ok stops after => cases stops <;> rfl
    | threw error after => rfl
    | fault cause => rfl
  have reaches : (∃ after, approach platform entered.downloadDir entered = .ok true after) ↔ Reaches platform world :=
    approach_reaches platform entered
  rw [← reaches]
  exact returns_unless _ _ _ entered (approach_escapes platform entered.downloadDir) _ world rfl runs

theorem react_returns_iff (S : ControllerState) (rests : resting S = true) (ev : EventPtr) (typed : ev.Typed) (world : World C F) :
    ((∃ next after, react platform S ev world = .ok next after) ↔
      ¬ escaping.harmful (answersDuring world (react platform S ev)) ∧ ¬ Overruns platform S ev world) ∧
    ∀ cause, react platform S ev world = .fault cause → cause = .overflow ∧ Overruns platform S ev world := by
  by_cases roomy : S = .stateIdle → Roomy platform ev
  · obtain ⟨returns, sound⟩ := returns_iff _ world (react_escapes platform S rests ev typed roomy world)
    have short : ¬ Overruns platform S ev world := by
      rintro ⟨idle, _, ⟨path, carried, long⟩, _⟩
      rw [roomy idle path carried] at long
      cases long
    exact ⟨by rw [returns, and_iff_left short], fun cause run => absurd run (sound cause)⟩
  · obtain ⟨rfl, tight⟩ := Classical.not_imp.mp roomy
    obtain ⟨path, carried, tight⟩ : ∃ path, ev.payload = .cameraDownloadEvent path ∧ ¬ CameraWrapper.fits platform path = true := by
      simpa [Roomy] using tight
    have long := Bool.not_eq_true _ ▸ tight
    have named : ev.sig = .evCameraDownload := download_named ev typed path carried
    have overruns : Reaches platform world ↔ Overruns platform .stateIdle ev world :=
      ⟨fun reaches => ⟨rfl, named, ⟨path, carried, long⟩, reaches⟩, Overruns.reaches⟩
    rw [← overruns]
    exact idle_long_returns platform ev path world named carried long

theorem rested_returns_iff (S : ControllerState) (rests : resting S = true) (ev : EventPtr) (typed : ev.Typed)
    (world : World C F) :
    ((∃ this after, (machine platform).handleEvent turns (.signal ev) { state := S, temp := S } world = .ok this after) ↔
      ¬ escaping.harmful (answersDuring world ((machine platform).handleEvent turns (.signal ev) { state := S, temp := S })) ∧
        ¬ Overruns platform S ev world) ∧
    ∀ cause, (machine platform).handleEvent turns (.signal ev) { state := S, temp := S } world = .fault cause →
      cause = .overflow ∧ Overruns platform S ev world := by
  obtain ⟨returns, faults⟩ := react_returns_iff platform S rests ev typed world
  rw [handle_event_react platform S rests turns (Nat.le_refl 6) ev, returns_bind, answers_during_bind]
  exact ⟨returns, fun cause run => faults cause (faults_bind world _ _ cause run)⟩

-- In every state of the machine that a run reaches, whatever the world is like
-- then, handleEvent returns exactly when no answer is one of those and no path
-- overflows.
theorem handle_event_returns_iff (outside : C) (downloadDir : String) (inputs : List Input) (c : Config C F)
    (run : Run (ControllerStep platform) (started outside downloadDir) inputs c) (ev : EventPtr) (typed : ev.Typed)
    (world : World C F) :
    ((∃ this after, (machine platform).handleEvent turns (.signal ev) c.this world = .ok this after) ↔
      ¬ escaping.harmful (answersDuring world ((machine platform).handleEvent turns (.signal ev) c.this)) ∧
        ¬ Overruns platform c.this.state ev world) ∧
    ∀ cause, (machine platform).handleEvent turns (.signal ev) c.this world = .fault cause →
      cause = .overflow ∧ Overruns platform c.this.state ev world := by
  have settled := (run_holds platform (fun _ => True) outside downloadDir trivial (fun _ _ _ _ => trivial)
    (fun _ _ _ _ _ _ _ _ _ => trivial) inputs c run).1
  obtain ⟨⟨state, temp⟩, _, _⟩ := c
  obtain rfl : temp = state := settled.registers
  exact rested_returns_iff platform temp settled.rests ev typed world

end Returning

theorem connected_returns_iff : ∃ c, Run (ControllerStep working) (started 0 "/photos") [.post .connect, .handle] c ∧
    c.this.state = .stateConnecting ∧
    ((∃ this after, (machine working).handleEvent turns (.signal ⟨1, .evCameraConnected, .cameraConnectedEvent "100"⟩)
        c.this c.world = .ok this after) ↔
      ¬ escaping.harmful (answersDuring c.world ((machine working).handleEvent turns
        (.signal ⟨1, .evCameraConnected, .cameraConnectedEvent "100"⟩) c.this)) ∧
        ¬ Overruns working c.this.state ⟨1, .evCameraConnected, .cameraConnectedEvent "100"⟩ c.world) := by
  obtain ⟨c, run, state⟩ := advance_all_observed working (fun c => c.this.state) (started 0 "/photos")
    [.post .connect, .handle] .stateConnecting (by decide +kernel)
  exact ⟨c, run, state, (handle_event_returns_iff working 0 "/photos" [.post .connect, .handle] c run
    ⟨1, .evCameraConnected, .cameraConnectedEvent "100"⟩ rfl c.world).1⟩

def autoIso : Platform Nat Unit := attached (fun _ => gpOk) fun c =>
  match c with
  | .gpWidgetGetValueString widget => if widget.configName = configIso then some (gpOk, "Auto") else none
  | _ => none

theorem auto_iso_escapes : ¬ ∀ (inputs : List Input) (c : Config Nat Unit),
    Run (ControllerStep autoIso) (started 0 "/photos") inputs c → ∀ ev : EventPtr, ev.Typed →
      ∃ this after, (machine autoIso).handleEvent turns (.signal ev) c.this c.world = .ok this after := by
  intro claimed
  let connected : EventPtr := ⟨1, .evCameraConnected, .cameraConnectedEvent "100"⟩
  obtain ⟨c, run, threw⟩ := advance_all_observed autoIso
    (fun c => ((machine autoIso).handleEvent turns (.signal connected) c.this c.world).thrown)
    (started 0 "/photos") [.post .connect, .handle] (some (.numeric .invalidArgument)) (by decide +kernel)
  obtain ⟨this, after, returned⟩ := claimed _ c run connected rfl
  rw [returned] at threw
  cases threw

end Controller

end CameraController
