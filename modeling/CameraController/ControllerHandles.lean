import CameraController.ControllerCamera
import CameraController.ControllerConnection

set_option autoImplicit false

namespace CameraController

open Effects Transition CameraWidget

section Handles

variable {C F A : Type} (platform : Platform C F)

-- What the handles of a wrapper are like in any case: each was freed once, and
-- no call was handed one after that.
structure Clean (camera : Camera C F) : Prop where
  made : ∀ handle ∈ camera.gp.freed, handle < camera.gp.created
  once : camera.gp.freed.Nodup
  unused : camera.gp.misused = []

def Live (camera : Camera C F) : Prop :=
  ∃ handle, camera.wrapper.camera = some handle ∧ handle < camera.gp.created ∧ handle ∉ camera.gp.freed

-- A failed connect() leaves the handle that it made in the wrapper, freed or
-- not, but a wrapper that is connected has a live one.
structure Sound (camera : Camera C F) : Prop where
  clean : Clean camera
  live : camera.wrapper.connected = true → Live camera

theorem same_clean (camera after : Camera C F) (live : Live camera) (clean : Clean camera)
    (same : SameHandles camera after) : Live after ∧ Clean after := by
  obtain ⟨handle, own, below, kept⟩ := live
  refine ⟨⟨handle, ?_, ?_, ?_⟩, ⟨?_, ?_, ?_⟩⟩
  · rw [same.wrapper, own]
  · rwa [same.created]
  · rwa [same.freed]
  · rw [same.created, same.freed]
    exact clean.made
  · rw [same.freed]
    exact clean.once
  · apply (same.misused _).trans clean.unused
    intro other mine
    cases own.symm.trans mine
    exact kept

theorem freed_once (freed : List Nat) (created handle : Nat) (made : ∀ other ∈ freed, other < created) (once : freed.Nodup)
    (below : handle < created) (kept : handle ∉ freed) :
    (∀ other ∈ freed ++ [handle], other < created) ∧ (freed ++ [handle]).Nodup := by
  constructor
  · intro other member
    cases List.mem_append.mp member with
    | inl earlier => exact made other earlier
    | inr last => exact List.mem_singleton.mp last ▸ below
  · rw [List.nodup_append]
    refine ⟨once, List.nodup_singleton handle, ?_⟩
    rintro other earlier last member rfl
    cases List.mem_singleton.mp member
    exact kept earlier

theorem freed_clean (camera : Camera C F) (handle : Nat) (result : Int) (outside : C) (clean : Clean camera)
    (below : handle < camera.gp.created) (kept : handle ∉ camera.gp.freed) :
    Clean (recorded camera (.gpCameraFree (some handle)) result outside) := by
  obtain ⟨made, once⟩ := freed_once camera.gp.freed camera.gp.created handle clean.made clean.once below kept
  refine ⟨made, once, ?_⟩
  have unmarked : ¬ ∃ other ∈ (Call.gpCameraFree (some handle)).handle, other ∈ camera.gp.freed := by
    rintro ⟨other, passed, gone⟩
    cases passed
    exact kept gone
  simp only [recorded, Gphoto.record, if_neg unmarked]
  exact clean.unused

theorem opening_live (camera : Camera C F) (outside : C) (clean : Clean camera) :
    Live (opening camera outside) ∧ Clean (opening camera outside) := by
  have fresh : camera.gp.created ∉ camera.gp.freed := fun gone => Nat.lt_irrefl _ (clean.made _ gone)
  have freed : (opening camera outside).gp.freed = camera.gp.freed := List.append_nil _
  refine ⟨⟨camera.gp.created, rfl, Nat.lt_succ_self _, by rwa [freed]⟩, ⟨?_, by rw [freed]; exact clean.once, ?_⟩⟩
  · intro handle gone
    rw [freed] at gone
    exact Nat.lt_succ_of_lt (clean.made handle gone)
  · simpa [opening, Gphoto.record, Call.handle] using clean.unused

theorem initialise_sound (camera : Camera C F) (apart : camera.wrapper.connected = false) (live : Live camera)
    (clean : Clean camera) : (initialise platform camera).Ends Sound := by
  rw [initialise, Prog.bind_ok cameraPtr _ camera camera camera.wrapper.camera rfl,
    Prog.bind_ok _ _ _ _ _ (call_apply platform _ camera)]
  have frame := same_recorded camera (.gpCameraInit camera.wrapper.camera)
    (platform.answer (.gpCameraInit camera.wrapper.camera) camera.gp.outside).1
    (platform.answer (.gpCameraInit camera.wrapper.camera) camera.gp.outside).2 rfl rfl (.inr rfl)
  obtain ⟨opened, unspoilt⟩ := same_clean camera _ live clean frame
  split
  · apply Outcome.ends_mono (fun after => Live after ∧ Clean after ∧ (after.wrapper.connected = true → Live after)) Sound _
      (fun after held => ⟨held.2.1, held.2.2⟩)
    have serial := CameraWrapper.read_widget_within platform configSerialNumber .ok
      (recorded camera (.gpCameraInit camera.wrapper.camera)
        (platform.answer (.gpCameraInit camera.wrapper.camera) camera.gp.outside).1
        (platform.answer (.gpCameraInit camera.wrapper.camera) camera.gp.outside).2)
    rw [Prog.bind_apply]
    change Outcome.Ends _ (CameraWrapper.getSerialNumber platform _) at serial
    cases run : CameraWrapper.getSerialNumber platform (recorded camera (.gpCameraInit camera.wrapper.camera)
        (platform.answer (.gpCameraInit camera.wrapper.camera) camera.gp.outside).1
        (platform.answer (.gpCameraInit camera.wrapper.camera) camera.gp.outside).2) with
    | fault cause => trivial
    | threw error after =>
        rw [run] at serial
        obtain ⟨still, tidy⟩ := same_clean _ after opened unspoilt serial
        exact ⟨still, tidy, fun _ => still⟩
    | ok value after =>
        rw [run] at serial
        obtain ⟨still, tidy⟩ := same_clean _ after opened unspoilt serial
        exact ⟨still, ⟨tidy.made, tidy.once, tidy.unused⟩, fun _ => still⟩
  · obtain ⟨handle, own, below, kept⟩ := opened
    have mine : camera.wrapper.camera = some handle := own
    rw [Prog.bind_ok cameraPtr _ _ _ _ rfl, Prog.bind_ok _ _ _ _ _ (call_apply platform _ _)]
    refine ⟨?_, fun connected => absurd (connected.symm.trans apart) Bool.noConfusion⟩
    rw [own]
    exact freed_clean _ handle _ _ unspoilt below kept

theorem connect_sound (camera : Camera C F) (sound : Sound camera) : (CameraWrapper.connect platform camera).Ends Sound := by
  rw [CameraWrapper.connect, Prog.bind_ok Prog.get _ camera camera camera rfl]
  cases connected : camera.wrapper.connected with
  | true => exact sound
  | false =>
      simp only [Bool.not_false, if_true]
      cases new_camera_cases platform camera with
      | inl refused =>
          obtain ⟨result, outside, failure, run⟩ := refused
          rw [Prog.bind_ok _ _ _ _ _ run, if_pos failure]
          refine ⟨⟨?_, ?_, ?_⟩, fun contrary => absurd (contrary.symm.trans connected) Bool.noConfusion⟩
          · simpa [recorded, Gphoto.record, Call.makesCamera, Call.freesCamera, failure] using sound.clean.made
          · simpa [recorded, Gphoto.record, Call.freesCamera] using sound.clean.once
          · simpa [recorded, Gphoto.record, Call.handle] using sound.clean.unused
      | inr opens =>
          obtain ⟨outside, run⟩ := opens
          obtain ⟨live, clean⟩ := opening_live camera outside sound.clean
          rw [Prog.bind_ok _ _ _ _ _ run, if_neg (not_not.mpr rfl)]
          exact initialise_sound platform (opening camera outside) connected live clean

theorem disconnect_sound (camera : Camera C F) (sound : Sound camera) :
    (CameraWrapper.disconnect platform camera).Ends Sound := by
  rw [CameraWrapper.disconnect, Prog.bind_ok Prog.get _ camera camera camera rfl]
  cases connected : camera.wrapper.connected with
  | false => exact sound
  | true =>
      obtain ⟨handle, own, below, kept⟩ := sound.live connected
      obtain ⟨after, run, freed⟩ := free_camera_some platform camera handle own
      rw [if_pos rfl, Prog.bind_ok _ _ _ _ _ run]
      obtain ⟨made, once⟩ := freed_once camera.gp.freed camera.gp.created handle sound.clean.made sound.clean.once below kept
      rw [← freed.freed, ← freed.created] at made
      rw [← freed.freed] at once
      exact ⟨⟨made, once, (freed.misused kept).trans sound.clean.unused⟩, fun contrary => Bool.noConfusion contrary⟩

end Handles

namespace Controller

section Safety

variable {C F A : Type} (platform : Platform C F)

def Soundly (before after : World C F) : Prop := Sound before.camera → Sound after.camera

def Guards (before after : World C F) : Prop :=
  before.camera.wrapper.connected = true ∧ Sound before.camera → after.camera.wrapper.connected = true ∧ Sound after.camera

theorem soundly_posts : Posts (Soundly (C := C) (F := F)) (fun _ => True) where
  refl := fun _ sound => sound
  trans := fun _ _ _ left right sound => right (left sound)
  mint := fun _ sound => sound
  publish := fun _ _ sound => sound
  poll := fun _ _ sound => ⟨⟨sound.clean.made, sound.clean.once, sound.clean.unused⟩, sound.live⟩
  arrival := fun _ _ sound => sound
  own := fun _ _ _ sound => sound

theorem guards_carries : Carries (Guards (C := C) (F := F)) where
  refl := fun _ held => held
  trans := fun _ _ _ left right held => right (left held)
  mint := fun _ held => held
  publish := fun _ _ held => held
  poll := fun _ _ held => ⟨held.1, ⟨held.2.clean.made, held.2.clean.once, held.2.clean.unused⟩, held.2.live⟩
  arrival := fun _ _ held => held
  own := fun _ _ _ held => held
  camera := by
    rintro world after same ⟨connected, sound⟩
    obtain ⟨live, clean⟩ := same_clean world.camera after (sound.live connected) sound.clean same
    exact ⟨same.wrapper ▸ connected, clean, fun _ => live⟩

theorem soundly_emits : Emits platform (fun _ => Soundly) (fun _ => 0) (fun _ _ => True) := soundly_posts.emits platform

theorem on_camera_soundly (p : Prog (Camera C F) Exn A) (keeps : ∀ camera, Sound camera → (p camera).Ends Sound) :
    Prog.Within Soundly (onCamera p) := by
  intro world
  rw [onCamera, Prog.zoom]
  cases run : p world.camera with
  | fault cause => trivial
  | ok value after =>
      intro sound
      have ends := keeps world.camera sound
      rwa [run] at ends
  | threw error after =>
      intro sound
      have ends := keeps world.camera sound
      rwa [run] at ends

theorem connect_soundly : Prog.Within Soundly (connect platform) :=
  report_within (soundly_emits platform) _ _ .evCameraConnectionError _ _ _
    (on_camera_soundly _ (connect_sound platform)) (fun _ => trivial)
    (fun _ => post_new_within platform soundly_posts _ _ _ trivial)

theorem disconnect_soundly : Prog.Within Soundly (disconnect platform) := by
  have : IsTrans (World C F) Soundly := ⟨soundly_posts.trans⟩
  apply Prog.within_bind _ _ _ (on_camera_soundly _ (disconnect_sound platform))
  intro released
  cases released with
  | true => exact post_new_within platform soundly_posts _ _ _ trivial
  | false => exact fun _ sound => sound

def talks (S : ControllerState) (ev : EventPtr) : Prop :=
  joined S = true ∨ S = .stateConnecting ∧ ev.sig = .evCameraConnected

instance : Std.Refl (Guards (C := C) (F := F)) := ⟨guards_carries.refl⟩

instance : IsTrans (World C F) Guards := ⟨guards_carries.trans⟩

theorem set_config_guards : Prog.Within Guards (setConfig platform) := set_config_within (guards_carries.feeds platform)

theorem read_status_guards : Prog.Within Guards (readStatus platform) := read_status_within (guards_carries.feeds platform)

theorem read_options_guards : Prog.Within Guards (readOptions platform) := read_options_within (guards_carries.feeds platform)

theorem enter_idle_guards : Prog.Within Guards (goTo platform .stateIdle) :=
  Prog.within_bind _ _ _ (enter_idle_within (guards_carries.feeds platform) (fun _ _ _ _ _ held => held))
    (fun _ => Prog.within_pure _ _)

theorem idle_guards (ev : EventPtr) (other : ev.sig ≠ .evCameraGenericError) :
    Prog.Within Guards (react platform .stateIdle ev) := by
  obtain ⟨id, sig, payload⟩ := ev
  have feeds := guards_carries.feeds platform
  have executes : Prog.Within Guards (execute ⟨id, sig, payload⟩ : Prog (World C F) Exn Unit) := fun _ held => held
  cases sig with
  | evCameraGenericError => exact absurd rfl other
  | evCameraSetConfig =>
      apply Prog.within_bind _ _ _ executes
      intro _
      cases payload with
      | cameraConfigEvent config =>
          apply Prog.within_bind _ _ _ (Prog.within_pure _ _)
          intro _
          apply Prog.within_bind
          · exact fun _ held => held
          · intro _
            apply Prog.within_bind _ _ _ (set_config_guards platform)
            intro _
            exact Prog.within_bind _ _ _ (read_status_guards platform) (fun _ => Prog.within_pure _ _)
      | _ => exact Prog.within_fault _ _
  | evCameraGetStatus =>
      apply Prog.within_bind _ _ _ executes
      exact fun _ => Prog.within_bind _ _ _ (read_status_guards platform) (fun _ => Prog.within_pure _ _)
  | evCameraGetOptions =>
      apply Prog.within_bind _ _ _ executes
      exact fun _ => Prog.within_bind _ _ _ (read_options_guards platform) (fun _ => Prog.within_pure _ _)
  | evCameraCaptureWired =>
      apply Prog.within_bind _ _ _ executes
      exact fun _ => Prog.within_bind _ _ _ (enter_capture_wired_within feeds) (fun _ => Prog.within_pure _ _)
  | evCameraDownload =>
      apply Prog.within_bind _ _ _ executes
      intro _
      cases payload with
      | cameraDownloadEvent cameraPath =>
          apply Prog.within_bind _ _ _ (Prog.within_pure _ _)
          intro _
          apply Prog.within_bind
          · exact fun _ held => held
          · exact fun _ => Prog.within_bind _ _ _ (enter_downloading_within feeds) (fun _ => Prog.within_pure _ _)
      | _ => exact Prog.within_fault _ _
  | _ => exact Prog.within_pure _ _

theorem react_sound (S : ControllerState) (rests : resting S = true) (ev : EventPtr) (world : World C F)
    (sound : Sound world.camera) (connected : talks S ev → world.camera.wrapper.connected = true) :
    (react platform S ev world).Ends (fun after => Sound after.camera) := by
  have connects : (goTo platform .stateConnecting world).Ends (fun after => Sound after.camera) :=
    entering_ends _ _ _ _ (Outcome.ends_mono _ _ _ (fun _ step => step sound) (connect_soundly platform world))
  have fails : (goTo platform .stateError world).Ends (fun after => Sound after.camera) :=
    entering_ends _ _ _ _ (Outcome.ends_mono _ _ _ (fun _ step => step sound) (disconnect_soundly platform world))
  have guarded : ∀ p : Prog (World C F) Exn ControllerState, talks S ev → Prog.Within Guards p →
      (p world).Ends (fun after => Sound after.camera) := fun p talking guards =>
    Outcome.ends_mono _ _ _ (fun _ step => (step ⟨connected talking, sound⟩).2) (guards world)
  have inherits : (inConnected platform S ev world).Ends (fun after => Sound after.camera) := by
    obtain ⟨id, sig, payload⟩ := ev
    cases sig with
    | evCameraGenericError =>
        cases payload with
        | cameraErrorEvent errorcode =>
            change ((if criticalError errorcode then goTo platform .stateError else pure S :
              Prog (World C F) Exn ControllerState) world).Ends _
            split
            · exact fails
            · exact sound
        | _ => trivial
    | _ => exact sound
  obtain ⟨id, sig, payload⟩ := ev
  cases S with
  | stateDisconnected =>
      cases sig with
      | evCameraConnect => exact connects
      | _ => exact sound
  | stateError =>
      cases sig with
      | evCameraConnect => exact connects
      | _ => exact sound
  | stateConnecting =>
      cases sig with
      | evCameraConnectionError => exact fails
      | evCameraGenericError =>
          cases payload with
          | cameraErrorEvent errorcode => exact sound
          | _ => trivial
      | evCameraConnected =>
          apply guarded _ (.inr ⟨rfl, rfl⟩)
          apply Prog.within_bind _ _ _ (set_config_guards platform)
          intro _
          apply Prog.within_bind _ _ _ (read_status_guards platform)
          intro _
          apply Prog.within_bind _ _ _ (read_options_guards platform)
          intro _
          apply Prog.within_bind
          · exact fun world held => held
          · exact fun _ => enter_idle_guards platform
      | _ => exact sound
  | stateIdle =>
      by_cases generic : sig = .evCameraGenericError
      · subst generic
        exact inherits
      · exact guarded _ (.inl rfl) (idle_guards platform _ generic)
  | stateCaptureWired =>
      cases sig with
      | evCameraCaptureError => exact fails
      | evCameraCaptureSuccess =>
          cases payload with
          | cameraCaptureSuccessEvent path => exact guarded _ (.inl rfl) (enter_idle_guards platform)
          | _ => trivial
      | _ => exact inherits
  | stateDownloading =>
      cases sig with
      | evCameraDownloadError => exact guarded _ (.inl rfl) (enter_idle_guards platform)
      | evCameraDownloadSuccess => exact guarded _ (.inl rfl) (enter_idle_guards platform)
      | _ => exact inherits
  | hsmTop => cases rests
  | stateInit => cases rests
  | stateConnected => cases rests

structure Informed (S : ControllerState) (world : World C F) : Prop where
  joined : joined S = true → world.camera.wrapper.connected = true
  announced : S = .stateConnecting → ∀ ev ∈ world.eventList, ev.sig = .evCameraConnected →
    world.camera.wrapper.connected = true

theorem connect_returns (camera after : Camera C F) (serial : String)
    (run : CameraWrapper.connect platform camera = .ok serial after) : after.wrapper.connected = true := by
  cases connected : camera.wrapper.connected with
  | false => exact connect_connected platform camera after serial connected run
  | true =>
      rw [CameraWrapper.connect, Prog.bind_ok Prog.get _ camera camera camera rfl, connected] at run
      cases run
      exact connected

theorem connects_informed (world after : World C F) (none : total link world = 0) (run : connect platform world = .ok () after) :
    Informed .stateConnecting after := by
  refine ⟨fun contrary => (nomatch contrary), ?_⟩
  intro _ ev member named
  obtain ⟨camera, opened | refused⟩ := connect_emits platform world after run
  · obtain ⟨serial, opens, rfl⟩ := opened
    rw [(emitted_untouched platform _ _ _ _).1]
    exact connect_returns platform _ _ serial opens
  · obtain ⟨code, _, rfl⟩ := refused
    have only := emitted_only platform _ _ { world with camera := camera } none ev member (by rw [named]; rfl)
    rw [named] at only
    cases only

theorem reaction_informed (c next : Config C F) (ev : EventPtr) (rest : List EventPtr) (head : c.world.eventList = ev :: rest)
    (linked : Linked c.this.state c.world) (informed : Informed c.this.state c.world)
    (reaction : Reaction platform c.this.state ev (World.dequeued c.world rest) next.this.state next.world) :
    Informed next.this.state next.world := by
  have conduct := reaction_conduct (wrapped_carries.feeds platform) (fun _ _ _ _ _ => rfl)
    (fun _ _ aloof => by rw [Wrapped, aloof.camera]) _ _ ev _ _ reaction
  have whole := total_dequeued link c.world ev rest head
  have here : ev ∈ c.world.eventList := by rw [head]; exact List.mem_cons_self
  unfold Linked at linked
  generalize c.this.state = S at conduct linked informed
  generalize next.this.state = T at conduct ⊢
  generalize next.world = after at conduct ⊢
  cases conduct with
  | ignores kept _ =>
      refine ⟨informed.joined, fun opening other member => informed.announced opening other ?_⟩
      rw [head]
      exact List.mem_cons_of_mem ev member
  | connects _ start named run =>
      have apart : S ≠ .stateConnecting := by rcases start with rfl | rfl <;> exact ControllerState.noConfusion
      rw [if_neg apart] at linked
      exact connects_informed platform _ after (by omega) run
  | breaks _ reason cheap run => exact ⟨Bool.noConfusion, ControllerState.noConfusion⟩
  | defers _ occupied command run =>
      have substate := busy_joined S occupied
      cases run
      refine ⟨informed.joined, ?_⟩
      rintro rfl
      cases occupied
  | carried _ _ route effect =>
      have connected : after.camera.wrapper.connected = true := by
        rw [effect]
        rcases route_start S T ev route with ⟨opening, named⟩ | substate
        · exact informed.announced opening ev here named
        · exact informed.joined substate
      exact ⟨fun _ => connected, fun _ _ _ _ => connected⟩

theorem handled_sound (c : Config C F) (settled : Settled c) (ev : EventPtr) (rest : List EventPtr)
    (head : c.world.eventList = ev :: rest) (informed : Informed c.this.state c.world) (sound : Sound c.world.camera) :
    ((machine platform).handleEvent turns (.signal ev) c.this (World.dequeued c.world rest)).Ends
      (fun after => Sound after.camera) := by
  obtain ⟨⟨state, temp⟩, world, dropped⟩ := c
  obtain rfl : temp = state := settled.registers
  rw [handle_event_react platform temp settled.rests turns (Nat.le_refl 6) ev]
  apply entering_ends
  apply react_sound platform temp settled.rests ev (World.dequeued world rest) sound
  rintro (substate | ⟨opening, named⟩)
  · exact informed.joined substate
  · exact informed.announced opening ev (by rw [head]; exact List.mem_cons_self) named

theorem step_sound (c next : Config C F) (input : Input) (settled : Settled c) (informed : Informed c.this.state c.world)
    (sound : Sound c.world.camera) (step : ControllerStep platform c input next) : Sound next.world.camera := by
  cases step with
  | post command => exact sound
  | handle ev rest this after head run =>
      have ends := handled_sound platform c settled ev rest head informed sound
      rwa [run] at ends

theorem run_sound (outside : C) (downloadDir : String) (inputs : List Input) (c : Config C F)
    (run : Run (ControllerStep platform) (started outside downloadDir) inputs c) :
    Settled c ∧ Linked c.this.state c.world ∧ Informed c.this.state c.world ∧ Sound c.world.camera := by
  apply run_invariant (ControllerStep platform)
    (fun c => Settled c ∧ Linked c.this.state c.world ∧ Informed c.this.state c.world ∧ Sound c.world.camera) _ _ _ _ _ run
  · rintro before input after ⟨settled, linked, informed, sound⟩ step
    have kept := step_sound platform before after input settled informed sound step
    obtain ⟨rests, post | handle⟩ := step_cases platform before after input settled step
    · obtain ⟨command, _, rfl⟩ := post
      refine ⟨rests, arrive_linked _ _ command linked, ⟨informed.joined, ?_⟩, kept⟩
      intro opening ev member named
      cases List.mem_append.mp member with
      | inl earlier => exact informed.announced opening ev earlier named
      | inr last =>
          have unlinked : link ev.sig = 0 :=
            List.mem_singleton.mp last ▸ commanded_unlinked _ ⟨command, before.world.nextId, rfl⟩
          rw [named] at unlinked
          cases unlinked
    · obtain ⟨ev, rest, _, head, _, reaction⟩ := handle
      exact ⟨rests, reaction_linked platform before after ev rest head linked reaction,
        reaction_informed platform before after ev rest head linked informed reaction, kept⟩
  · refine ⟨started_settled outside downloadDir, started_linked outside downloadDir,
      ⟨fun contrary => (nomatch contrary), fun contrary => (nomatch contrary)⟩, ⟨?_, List.nodup_nil, rfl⟩,
      fun contrary => nomatch contrary⟩
    exact fun _ none => absurd none List.not_mem_nil

-- No call of gphoto2 is ever handed a handle that was freed, although a failed
-- connect() leaves one in the wrapper, and none is freed twice.
theorem no_freed_handle_used (outside : C) (downloadDir : String) (inputs : List Input) (c : Config C F)
    (run : Run (ControllerStep platform) (started outside downloadDir) inputs c) :
    c.world.camera.gp.misused = [] ∧ c.world.camera.gp.freed.Nodup ∧
      (joined c.this.state = true → Live c.world.camera) ∧ ∀ ev rest, c.world.eventList = ev :: rest →
        ((machine platform).handleEvent turns (.signal ev) c.this (World.dequeued c.world rest)).Ends
          (fun after => after.camera.gp.misused = [] ∧ after.camera.gp.freed.Nodup) := by
  obtain ⟨settled, _, informed, sound⟩ := run_sound platform outside downloadDir inputs c run
  refine ⟨sound.clean.unused, sound.clean.once, fun substate => sound.live (informed.joined substate), ?_⟩
  intro ev rest head
  exact Outcome.ends_mono _ _ _ (fun _ after => ⟨after.clean.unused, after.clean.once⟩)
    (handled_sound platform c settled ev rest head informed sound)

end Safety

def uninitialised : Platform Nat Unit := attached (fun _ => gpOk) fun c =>
  match c with
  | .gpCameraInit _ => some (-1)
  | _ => none

def retrying : List Input := [.post .connect, .handle, .handle, .post .connect, .handle, .handle]

theorem retrying_safe : ∃ c, Run (ControllerStep uninitialised) (started 0 "/photos") retrying c ∧
    (c.world.camera.gp.freed = [0, 1] ∧ c.world.camera.wrapper.camera = some 1) ∧ c.world.camera.gp.misused = [] := by
  obtain ⟨c, run, seen⟩ := advance_all_observed uninitialised
    (fun c => (c.world.camera.gp.freed, c.world.camera.wrapper.camera)) (started 0 "/photos") retrying ([0, 1], some 1)
    (by decide +kernel)
  exact ⟨c, run, by simpa only [Prod.mk.injEq] using seen, (no_freed_handle_used uninitialised 0 "/photos" retrying c run).1⟩

end Controller

end CameraController
