import CameraController.Main

set_option autoImplicit false

namespace CameraController

open Effects Transition Controller

namespace Program

-- No cast goes wrong on such an event: nobody casts EV_CAMERA_CAPTURE_ERROR. It
-- is not taken for an entry either.
structure Fit (ev : EventPtr) : Prop where
  signal : ev.sig ≠ .unnamed 0
  typed : ev.sig ≠ .evCameraCaptureError → ev.Typed

def fitting (sig : CcEvent) (payload : Payload) : Prop := sig ≠ .unnamed 0 ∧ payload.eventClass = sig.eventClass

theorem commanded_fit (ev : EventPtr) (commanded : Commanded ev) : Fit ev := by
  obtain ⟨command, id, rfl⟩ := commanded
  refine ⟨?_, fun _ => command.to_event_typed id⟩
  cases command <;> exact CcEvent.noConfusion

theorem reports_fitting (sig : CcEvent) (payload : Payload) (own : reports sig payload) : fitting sig payload := by
  refine ⟨?_, own.2⟩
  rintro rfl
  cases own.1

section Stock

variable {C F : Type} (platform : Platform C F)

structure Stocked (world : World C F) : Prop where
  queue : ∀ ev ∈ world.eventList, Fit ev
  deferred : ∀ ev ∈ world.deferredEvents.contents, Fit ev
  published : ∀ post ∈ world.published, Fit post.1

def Stocks (before after : World C F) : Prop := Stocked before → Stocked after

instance : Std.Refl (Stocks (C := C) (F := F)) := ⟨fun _ stocked => stocked⟩

instance : IsTrans (World C F) Stocks := ⟨fun _ _ _ first second stocked => second (first stocked)⟩

theorem added_stocks (before after : World C F) (fresh : List (EventPtr × CcTopic)) (added : List EventPtr)
    (effect : Added fitting before after fresh added) (deferred : after.deferredEvents = before.deferredEvents) :
    Stocks before after := by
  intro stocked
  have fit : ∀ post ∈ fresh, Fit post.1 := fun post mem =>
    ⟨(effect.owned post mem).1, fun _ => (effect.owned post mem).2⟩
  refine ⟨?_, deferred.symm ▸ stocked.deferred, ?_⟩
  · intro ev mem
    rw [effect.queue] at mem
    cases List.mem_append.mp mem with
    | inl earlier => exact stocked.queue ev earlier
    | inr new =>
        cases effect.sources ev new with
        | inl commanded => exact commanded_fit ev commanded
        | inr own =>
            obtain ⟨post, there, rfl⟩ := List.mem_map.mp own
            exact fit post there
  · intro post mem
    rw [effect.published] at mem
    cases List.mem_append.mp mem with
    | inl earlier => exact stocked.published post earlier
    | inr new => exact fit post new

theorem stocks_emits : Emits platform (fun _ => Stocks (C := C) (F := F)) (fun _ => 0) fitting where
  refl := fun _ stocked => stocked
  trans := fun _ _ _ _ _ first second stocked => second (first stocked)
  more := fun _ _ _ _ _ step => step
  polls := by
    intro world
    obtain ⟨added, effect⟩ := polled_added platform fitting world
    exact added_stocks _ _ _ _ effect (polled_keeps platform world)
  post := by
    intro sig payload topic fits world
    rw [post_new_emitted]
    obtain ⟨fresh, added, effect⟩ := emitted_added platform fitting sig payload topic world fits
    exact added_stocks _ _ _ _ effect (emitted_deferred platform sig payload topic world)

theorem stocks_any_camera (world : World C F) (after : Camera C F) : Stocks world { world with camera := after } :=
  fun stocked => ⟨stocked.queue, stocked.deferred, stocked.published⟩

theorem stocks_feeds : Feeds platform (fun _ => Stocks (C := C) (F := F)) (fun _ => 0) where
  toEmits := { stocks_emits platform with
    post := fun sig payload topic own => (stocks_emits platform).post sig payload topic (reports_fitting sig payload own) }
  camera := fun world after _ => stocks_any_camera world after

theorem recalled_stocks (begun : List EventPtr) (world : World C F) (ev : EventPtr) (rest : CircularBuffer EventPtr 1000)
    (popped : world.deferredEvents.pop = .ok (ev, rest)) : Stocks world (recalled begun world ev rest) := by
  intro stocked
  have contents := popped_contents world.deferredEvents rest ev popped
  refine ⟨?_, ?_, stocked.published⟩
  · intro other mem
    cases List.mem_append.mp mem with
    | inl earlier => exact stocked.queue other earlier
    | inr last =>
        apply stocked.deferred other
        rw [contents, List.mem_singleton.mp last]
        exact List.mem_cons_self
  · intro other mem
    apply stocked.deferred other
    rw [contents]
    exact List.mem_cons_of_mem ev mem

theorem defer_stocks (ev : EventPtr) (fit : Fit ev) : Prog.Within Stocks (deferEvent (C := C) (F := F) ev) := by
  intro world stocked
  refine ⟨stocked.queue, ?_, stocked.published⟩
  intro other mem
  rw [CircularBuffer.contents_put] at mem
  cases List.mem_append.mp mem with
  | inl earlier =>
      apply stocked.deferred other
      split at earlier
      · exact List.mem_of_mem_tail earlier
      · exact earlier
  | inr last => exact List.mem_singleton.mp last ▸ fit

theorem modify_stocks (f : World C F → World C F) (queue : ∀ world, (f world).eventList = world.eventList)
    (deferred : ∀ world, (f world).deferredEvents = world.deferredEvents)
    (published : ∀ world, (f world).published = world.published) : Prog.Within Stocks (Prog.modify (X := Exn) f) := by
  intro world stocked
  refine ⟨?_, ?_, ?_⟩
  · rw [queue]; exact stocked.queue
  · rw [deferred]; exact stocked.deferred
  · rw [published]; exact stocked.published

theorem enter_stocks (state : ControllerState) : Prog.Within Stocks (enter platform state) := by
  have feeds := stocks_feeds platform
  cases state with
  | stateConnecting =>
      exact connect_within (stocks_emits platform) stocks_any_camera (fun _ => ⟨CcEvent.noConfusion, rfl⟩)
        (fun _ => ⟨CcEvent.noConfusion, rfl⟩)
  | stateError => exact disconnect_within (stocks_emits platform) stocks_any_camera ⟨CcEvent.noConfusion, rfl⟩
  | stateConnected => exact modify_stocks _ (fun _ => rfl) (fun _ => rfl) (fun _ => rfl)
  | stateIdle => exact enter_idle_within feeds recalled_stocks
  | stateCaptureWired => exact enter_capture_wired_within feeds
  | stateDownloading => exact enter_downloading_within feeds
  | hsmTop => exact Prog.within_pure Stocks ()
  | stateInit => exact Prog.within_pure Stocks ()
  | stateDisconnected => exact Prog.within_pure Stocks ()

theorem go_to_stocks (state : ControllerState) : Prog.Within Stocks (goTo platform state) :=
  Prog.within_bind Stocks _ _ (enter_stocks platform state) (fun _ => Prog.within_pure Stocks state)

theorem cast_stocks {A : Type} (cast : EventPtr → Prog (World C F) Exn A) (ev : EventPtr)
    (either : (∃ value, cast ev = pure value) ∨ cast ev = Prog.fault .badCast) : Prog.Within Stocks (cast ev) := by
  cases either with
  | inl defined =>
      obtain ⟨value, same⟩ := defined
      rw [same]
      exact Prog.within_pure Stocks value
  | inr fails =>
      rw [fails]
      exact Prog.within_fault Stocks .badCast

theorem cast_error_stocks (ev : EventPtr) : Prog.Within Stocks (castError ev : Prog (World C F) Exn Int) := by
  apply cast_stocks castError ev
  obtain ⟨id, sig, payload⟩ := ev
  cases payload with
  | cameraErrorEvent errorcode => exact .inl ⟨errorcode, rfl⟩
  | _ => exact .inr rfl

theorem cast_config_stocks (ev : EventPtr) : Prog.Within Stocks (castConfig ev : Prog (World C F) Exn CameraConfig) := by
  apply cast_stocks castConfig ev
  obtain ⟨id, sig, payload⟩ := ev
  cases payload with
  | cameraConfigEvent config => exact .inl ⟨config, rfl⟩
  | _ => exact .inr rfl

theorem cast_capture_success_stocks (ev : EventPtr) :
    Prog.Within Stocks (castCaptureSuccess ev : Prog (World C F) Exn CameraPath) := by
  apply cast_stocks castCaptureSuccess ev
  obtain ⟨id, sig, payload⟩ := ev
  cases payload with
  | cameraCaptureSuccessEvent path => exact .inl ⟨path, rfl⟩
  | _ => exact .inr rfl

theorem cast_download_stocks (ev : EventPtr) : Prog.Within Stocks (castDownload ev : Prog (World C F) Exn CameraPath) := by
  apply cast_stocks castDownload ev
  obtain ⟨id, sig, payload⟩ := ev
  cases payload with
  | cameraDownloadEvent cameraPath => exact .inl ⟨cameraPath, rfl⟩
  | _ => exact .inr rfl

theorem in_connected_stocks (S : ControllerState) (ev : EventPtr) (fit : Fit ev) :
    Prog.Within Stocks (inConnected platform S ev) := by
  have deferred : Prog.Within Stocks (do deferEvent ev; pure S : Prog (World C F) Exn ControllerState) :=
    Prog.within_bind Stocks _ _ (defer_stocks ev fit) (fun _ => Prog.within_pure Stocks S)
  unfold inConnected
  split
  · apply Prog.within_bind Stocks _ _ (cast_error_stocks ev)
    intro errorcode
    split
    · exact go_to_stocks platform .stateError
    · exact Prog.within_pure Stocks S
  · exact deferred
  · exact deferred
  · exact deferred
  · exact deferred
  · exact deferred
  · exact Prog.within_pure Stocks S

theorem connecting_stocks (ev : EventPtr) : Prog.Within Stocks (react platform .stateConnecting ev) := by
  have feeds := stocks_feeds platform
  rw [react]
  split
  · exact go_to_stocks platform .stateError
  · exact Prog.within_bind Stocks _ _ (cast_error_stocks ev) (fun _ => Prog.within_pure Stocks _)
  · apply Prog.within_bind Stocks _ _ (set_config_within feeds)
    intro _
    apply Prog.within_bind Stocks _ _ (read_status_within feeds)
    intro _
    apply Prog.within_bind Stocks _ _ (read_options_within feeds)
    intro _
    exact Prog.within_bind Stocks _ _ (enter_stocks platform .stateConnected) (fun _ => go_to_stocks platform .stateIdle)
  · exact Prog.within_pure Stocks _

theorem idle_stocks (ev : EventPtr) (fit : Fit ev) : Prog.Within Stocks (react platform .stateIdle ev) := by
  have feeds := stocks_feeds platform
  have executes : Prog.Within Stocks (execute ev : Prog (World C F) Exn Unit) :=
    modify_stocks _ (fun _ => rfl) (fun _ => rfl) (fun _ => rfl)
  rw [react]
  split
  · apply Prog.within_bind Stocks _ _ executes
    intro _
    apply Prog.within_bind Stocks _ _ (cast_config_stocks ev)
    intro config
    apply Prog.within_bind Stocks
    · exact modify_stocks (fun world => { world with cameraConfig := config }) (fun _ => rfl) (fun _ => rfl) (fun _ => rfl)
    intro _
    apply Prog.within_bind Stocks _ _ (set_config_within feeds)
    intro _
    exact Prog.within_bind Stocks _ _ (read_status_within feeds) (fun _ => Prog.within_pure Stocks _)
  · apply Prog.within_bind Stocks _ _ executes
    intro _
    exact Prog.within_bind Stocks _ _ (read_status_within feeds) (fun _ => Prog.within_pure Stocks _)
  · apply Prog.within_bind Stocks _ _ executes
    intro _
    exact Prog.within_bind Stocks _ _ (read_options_within feeds) (fun _ => Prog.within_pure Stocks _)
  · exact Prog.within_bind Stocks _ _ executes (fun _ => go_to_stocks platform .stateCaptureWired)
  · apply Prog.within_bind Stocks _ _ executes
    intro _
    apply Prog.within_bind Stocks _ _ (cast_download_stocks ev)
    intro cameraPath
    apply Prog.within_bind Stocks
    · exact modify_stocks (fun world => { world with toDownload := cameraPath }) (fun _ => rfl) (fun _ => rfl) (fun _ => rfl)
    · exact fun _ => go_to_stocks platform .stateDownloading
  · exact Prog.within_pure Stocks _
  · exact in_connected_stocks platform .stateIdle ev fit

theorem react_stocks (S : ControllerState) (rests : resting S = true) (ev : EventPtr) (fit : Fit ev) :
    Prog.Within Stocks (react platform S ev) := by
  cases S with
  | stateDisconnected =>
      rw [react]
      split
      · exact go_to_stocks platform .stateConnecting
      · exact Prog.within_pure Stocks _
  | stateConnecting => exact connecting_stocks platform ev
  | stateError =>
      rw [react]
      split
      · exact go_to_stocks platform .stateConnecting
      · exact Prog.within_pure Stocks _
  | stateIdle => exact idle_stocks platform ev fit
  | stateCaptureWired =>
      rw [react]
      split
      · exact go_to_stocks platform .stateError
      · exact Prog.within_bind Stocks _ _ (cast_capture_success_stocks ev) (fun _ => go_to_stocks platform .stateIdle)
      · exact in_connected_stocks platform .stateCaptureWired ev fit
  | stateDownloading =>
      rw [react]
      split
      · exact go_to_stocks platform .stateIdle
      · exact go_to_stocks platform .stateIdle
      · exact in_connected_stocks platform .stateDownloading ev fit
  | hsmTop => cases rests
  | stateInit => cases rests
  | stateConnected => cases rests

theorem capture_error_payload (S : ControllerState) (rests : resting S = true) (id : Nat) (payload : Payload) :
    react platform S ⟨id, .evCameraCaptureError, payload⟩ = react platform S ⟨id, .evCameraCaptureError, .cameraErrorEvent 0⟩ := by
  cases S with
  | hsmTop => cases rests
  | stateInit => cases rests
  | stateConnected => cases rests
  | _ => rfl

theorem react_sound (S : ControllerState) (rests : resting S = true) (ev : EventPtr) (fit : Fit ev) (world : World C F)
    (cause : Fault) (run : react platform S ev world = .fault cause) : cause = .overflow := by
  by_cases unread : ev.sig = .evCameraCaptureError
  · obtain ⟨id, sig, payload⟩ := ev
    obtain rfl := unread
    rw [capture_error_payload platform S rests id payload] at run
    exact ((react_returns_iff platform S rests ⟨id, .evCameraCaptureError, .cameraErrorEvent 0⟩ rfl world).2 cause run).1
  · exact ((react_returns_iff platform S rests ev (fit.typed unread) world).2 cause run).1

theorem reserved_ignored (S : ControllerState) (rests : resting S = true) (e : Event EventPtr)
    (reserved : e = .evExit ∨ e = .evEmpty ∨ e = .evInit) :
    (machine platform).handleEvent turns e { state := S, temp := S } = pure { state := S, temp := S } := by
  rcases reserved with rfl | rfl | rfl <;> cases S <;> first | rfl | cases rests

theorem dispatched_cases (ev : EventPtr) (signal : ev.sig ≠ .unnamed 0) :
    dispatched ev = .signal ev ∨ dispatched ev = .evExit ∨ dispatched ev = .evEmpty ∨ dispatched ev = .evInit := by
  unfold dispatched
  split
  · rename_i value named
    have nonzero : value ≠ 0 := fun zero => signal (zero ▸ named)
    rw [if_neg nonzero]
    split
    · exact .inr (.inl rfl)
    · split
      · exact .inr (.inr (.inl rfl))
      · split
        · exact .inr (.inr (.inr rfl))
        · exact .inl rfl
  · exact .inl rfl

def Soundly (world : World C F) : Outcome (World C F) Exn (Registers ControllerState) → Prop
  | .ok this after => this.temp = this.state ∧ resting this.state = true ∧ Stocks world after
  | .threw _ after => Stocks world after
  | .fault cause => cause = .overflow

theorem handle_event_sound (S : ControllerState) (rests : resting S = true) (ev : EventPtr) (fit : Fit ev) (world : World C F) :
    Soundly world ((machine platform).handleEvent turns (dispatched ev) { state := S, temp := S } world) := by
  cases dispatched_cases ev fit.signal with
  | inr reserved =>
      rw [reserved_ignored platform S rests _ reserved]
      exact ⟨rfl, rests, id⟩
  | inl signal =>
      rw [signal, handle_event_react platform S rests turns (Nat.le_refl 6) ev, Prog.bind_apply]
      have stocks := react_stocks platform S rests ev fit world
      cases run : react platform S ev world with
      | ok next after =>
          rw [run] at stocks
          exact ⟨rfl, reaction_resting platform S next rests ev world after (react_reaction platform S next rests ev world after run),
            stocks⟩
      | threw error after =>
          rw [run] at stocks
          exact stocks
      | fault cause => exact react_sound platform S rests ev fit world cause run

end Stock

section Runs

variable {C F : Type} (platform : Platform C F) (gpResultAsString : Int → String)

-- When the injector posts a plain Event that a sniffer hears, its signal is one
-- whose events are not cast.
def Harmless (s : Program C F) (act : Act) (_ : Program C F) : Prop :=
  act = .post → s.injector.pc = .posting .event → s.injector.target.toNat < s.subscriptions →
    EventLogger.casts (CcEvent.ofValue s.injector.ev) = false

structure Sound (s : Program C F) : Prop where
  registers : s.this.temp = s.this.state
  rests : resting s.this.state = true
  stocked : Stocked s.world
  coming : ∀ ev ∈ s.coming, Fit ev
  sniffing : ∀ delivery ∈ s.sniffing, Fit delivery.1
  built : s.injector.Built
  matched : s.miscast = false

theorem launched_sound (outside : C) (downloadDir : String) (ev topic : UInt16) :
    Sound (launched outside downloadDir ev topic : Program C F) where
  registers := rfl
  rests := rfl
  stocked := ⟨fun _ none => absurd none List.not_mem_nil, fun _ none => absurd none List.not_mem_nil,
    fun _ none => absurd none List.not_mem_nil⟩
  coming := fun _ none => absurd none List.not_mem_nil
  sniffing := fun _ none => absurd none List.not_mem_nil
  built := trivial
  matched := rfl

theorem fit_casts (ev : EventPtr) (fit : Fit ev) (cast : EventLogger.casts ev.sig = true) : ev.Typed := by
  apply fit.typed
  intro unread
  rw [unread] at cast
  cases cast

theorem sniffed_sound (s : Program C F) (ev : EventPtr) (topic : UInt8) (rest : List (EventPtr × UInt8))
    (head : s.sniffing = (ev, topic) :: rest) (sound : Sound s) : Sound (s.sniffed platform gpResultAsString ev topic rest) := by
  have fit := sound.sniffing (ev, topic) (by rw [head]; exact List.mem_cons_self)
  obtain ⟨line, logs⟩ := EventLogger.received_logs platform gpResultAsString ev topic s.logged (fit_casts ev fit)
  rw [sniffed, logs]
  refine ⟨sound.registers, sound.rests, sound.stocked, sound.coming, ?_, sound.built, sound.matched⟩
  intro delivery mem
  exact sound.sniffing delivery (by rw [head]; exact List.mem_cons_of_mem _ mem)

theorem announced_fit (s : Program C F) (after : World C F) (stocked : Stocked after) :
    ∀ delivery ∈ s.announced after, Fit delivery.1 := by
  intro delivery mem
  obtain ⟨post, there, rfl⟩ := List.mem_map.mp mem
  exact stocked.published post (List.mem_of_mem_drop there)

theorem handled_sound (s : Program C F) (ev : EventPtr) (rest : List EventPtr) (head : s.world.eventList = ev :: rest)
    (sound : Sound s) : Sound (s.handled platform ev rest) := by
  have fit := sound.stocked.queue ev (by rw [head]; exact List.mem_cons_self)
  have waiting : Stocked (World.dequeued s.world rest) :=
    ⟨fun other mem => sound.stocked.queue other (by rw [head]; exact List.mem_cons_of_mem ev mem), sound.stocked.deferred,
      sound.stocked.published⟩
  have outcome := handle_event_sound platform s.this.state sound.rests ev fit (World.dequeued s.world rest)
  have here : s.this = { state := s.this.state, temp := s.this.state } :=
    congrArg (fun temp => Registers.mk s.this.state temp) sound.registers
  rw [← here] at outcome
  rw [handled]
  have both : ∀ after, Stocked after → ∀ delivery ∈ s.sniffing ++ s.announced after, Fit delivery.1 := by
    intro after stocked delivery mem
    cases List.mem_append.mp mem with
    | inl earlier => exact sound.sniffing delivery earlier
    | inr new => exact announced_fit s after stocked delivery new
  cases run : (machine platform).handleEvent turns (dispatched ev) s.this (World.dequeued s.world rest) with
  | ok this after =>
      rw [run] at outcome
      obtain ⟨registers, rests, stocks⟩ := outcome
      have stocked := stocks waiting
      exact ⟨registers, rests, ⟨waiting.queue, stocked.deferred, stocked.published⟩,
        fun other mem => stocked.queue other (List.mem_of_mem_drop mem), both after stocked, sound.built, sound.matched⟩
  | threw error after =>
      rw [run] at outcome
      exact ⟨sound.registers, sound.rests, sound.stocked, sound.coming, both after (outcome waiting), sound.built, sound.matched⟩
  | fault cause =>
      rw [run] at outcome
      obtain rfl : cause = .overflow := outcome
      exact ⟨sound.registers, sound.rests, sound.stocked, sound.coming, sound.sniffing, sound.built, by simpa using sound.matched⟩

theorem posted_fit (s : Program C F) (sound : Sound s) (payload : Payload) (posting : s.injector.pc = .posting payload)
    (harmless : s.injector.pc = .posting .event → EventLogger.casts (CcEvent.ofValue s.injector.ev) = false) :
    Fit (s.injector.event s.world.nextId payload) := by
  have built := sound.built
  simp only [EventInjector.Built, posting] at built
  obtain ⟨nonzero, choice⟩ := built
  refine ⟨fun entry => nonzero (CcEvent.of_value_entry s.injector.ev entry), ?_⟩
  intro read
  cases choice with
  | inl plain =>
      obtain ⟨rfl, other⟩ := plain
      exact EventLogger.plain_typed _ rfl (harmless posting) ⟨other, read⟩
  | inr config =>
      obtain ⟨named, same⟩ := config
      change payload.eventClass = (CcEvent.ofValue s.injector.ev).eventClass
      rw [same, named]
      rfl

theorem broker_post_sound (s : Program C F) (sound : Sound s) (ev : EventPtr) (topic : UInt8)
    (fit : topic.toNat < s.subscriptions → Fit ev) : Sound (s.brokerPost ev topic) := by
  have deliveries : ∀ delivery ∈ (if topic.toNat < s.subscriptions then [(ev, topic)] else []), Fit delivery.1 := by
    intro delivery mem
    by_cases heard : topic.toNat < s.subscriptions
    · rw [if_pos heard] at mem
      rw [List.mem_singleton.mp mem]
      exact fit heard
    · rw [if_neg heard] at mem
      cases mem
  have queued : ∀ other ∈ (if topic = 0 ∧ 256 < s.subscriptions ∨ topic = 1 ∧ 257 < s.subscriptions then [ev] else []), Fit other := by
    intro other mem
    by_cases subscribed : topic = 0 ∧ 256 < s.subscriptions ∨ topic = 1 ∧ 257 < s.subscriptions
    · rw [if_pos subscribed] at mem
      rw [List.mem_singleton.mp mem]
      apply fit
      have bound := topic.toNat_lt
      omega
    · rw [if_neg subscribed] at mem
      cases mem
  refine ⟨sound.registers, sound.rests, ⟨?_, sound.stocked.deferred, sound.stocked.published⟩, sound.coming, ?_, sound.built,
    sound.matched⟩
  · intro other mem
    cases List.mem_append.mp mem with
    | inl earlier => exact sound.stocked.queue other earlier
    | inr new => exact queued other new
  · intro delivery mem
    cases List.mem_append.mp mem with
    | inl earlier => exact sound.sniffing delivery earlier
    | inr new => exact deliveries delivery new

theorem sound_step (s next : Program C F) (act : Act) (sound : Sound s) (step : Step platform gpResultAsString s act next)
    (harmless : Harmless s act next) : Sound next := by
  cases step with
  | subscribe running left =>
      exact ⟨sound.registers, sound.rests, sound.stocked, sound.coming, sound.sniffing, sound.built, sound.matched⟩
  | readLine text running reading =>
      exact ⟨sound.registers, sound.rests, sound.stocked, sound.coming, sound.sniffing,
        EventInjector.read_line_built s.injector text, sound.matched⟩
  | readConfig text running reading =>
      exact ⟨sound.registers, sound.rests, sound.stocked, sound.coming, sound.sniffing,
        EventInjector.read_config_built s.injector text reading sound.built, sound.matched⟩
  | post payload running posting =>
      have posted := broker_post_sound s sound (s.injector.event s.world.nextId payload) s.injector.target
        (fun heard => posted_fit s sound payload posting (fun plain => harmless rfl plain heard))
      exact ⟨posted.registers, posted.rests, posted.stocked, posted.coming, posted.sniffing, trivial, posted.matched⟩
  | sniff ev topic rest head => exact sniffed_sound platform gpResultAsString s ev topic rest head sound
  | arrive ev rest running head =>
      refine ⟨sound.registers, sound.rests, ⟨?_, sound.stocked.deferred, sound.stocked.published⟩, ?_, sound.sniffing,
        sound.built, sound.matched⟩
      · intro other mem
        cases List.mem_append.mp mem with
        | inl earlier => exact sound.stocked.queue other earlier
        | inr last =>
            rw [List.mem_singleton.mp last]
            exact sound.coming ev (by rw [head]; exact List.mem_cons_self)
      · intro other mem
        exact sound.coming other (by rw [head]; exact List.mem_cons_of_mem ev mem)
  | handle ev rest running started done head => exact handled_sound platform s ev rest head sound

theorem run_sound (s : Program C F) (outside : C) (downloadDir : String) (ev topic : UInt16) (acts : List Act)
    (run : Run (Meeting (Step platform gpResultAsString) Harmless) (launched outside downloadDir ev topic) acts s) : Sound s :=
  run_invariant _ Sound (fun s act next sound step => sound_step platform gpResultAsString s next act sound step.1 step.2)
    _ s acts (launched_sound outside downloadDir ev topic) run

theorem sniffed_in_turn (s : Program C F) (ev : EventPtr) (topic : UInt8) (waits : (ev, topic) ∈ s.sniffing)
    (cast : EventLogger.casts ev.sig = true) (apart : ¬ ev.Typed) :
    ∃ n last, Run (Step platform gpResultAsString) s (List.replicate n .sniff) last ∧ last.miscast = true := by
  induction list : s.sniffing generalizing s with
  | nil => rw [list] at waits; cases waits
  | cons first rest ih =>
      obtain ⟨other, place⟩ := first
      have step : Step platform gpResultAsString s .sniff _ := .sniff s other place rest list
      by_cases fits : EventLogger.casts other.sig = true → other.Typed
      · obtain ⟨line, written⟩ := EventLogger.received_logs platform gpResultAsString other place s.logged fits
        have later : (ev, topic) ∈ rest := by
          rw [list] at waits
          cases List.mem_cons.mp waits with
          | inl same =>
              obtain ⟨rfl, _⟩ := Prod.mk.inj same
              exact absurd (fits cast) apart
          | inr later => exact later
        have remaining : (s.sniffed platform gpResultAsString other place rest).sniffing = rest := by
          rw [sniffed, written]
        obtain ⟨n, last, run, wrong⟩ := ih _ (by rw [remaining]; exact later) remaining
        exact ⟨n + 1, last, .next s _ last _ _ step run, wrong⟩
      · obtain ⟨named, wrong⟩ := Classical.not_imp.mp fits
        refine ⟨1, _, run_single _ _ _ _ step, ?_⟩
        rw [sniffed, EventLogger.received_faults platform gpResultAsString other place s.logged named wrong]
        simp

-- The casts match in every state of a run in which the injector's posts are
-- harmless, and after a post that is not harmless one need not match.
theorem casts_match (s : Program C F) (outside : C) (downloadDir : String) (ev topic : UInt16) (acts : List Act)
    (run : Run (Meeting (Step platform gpResultAsString) Harmless) (launched outside downloadDir ev topic) acts s) :
    s.miscast = false ∧ ∀ next, Step platform gpResultAsString s .post next → ¬ Harmless s .post next →
      ∃ n last, Run (Step platform gpResultAsString) next (List.replicate n .sniff) last ∧ last.miscast = true := by
  refine ⟨(run_sound platform gpResultAsString s outside downloadDir ev topic acts run).matched, ?_⟩
  intro next step harmful
  simp only [Harmless, true_implies, not_forall, Bool.not_eq_false] at harmful
  obtain ⟨plain, heard, cast⟩ := harmful
  cases step with
  | post payload running posting =>
      rw [posting] at plain
      obtain rfl := EventInjector.RunPc.posting.inj plain
      refine sniffed_in_turn platform gpResultAsString _ (s.injector.event s.world.nextId .event) s.injector.target ?_ cast
        (EventLogger.plain_apart _ rfl cast)
      simp [injectorPost, brokerPost, heard]

end Runs

theorem casts_match_connect : ∃ s : Program Nat Unit, s.logged = ["(TOPIC_CAMERA_CMD) EV_CAMERA_CONNECT",
    "(TOPIC_CAMERA_EVENT) EV_CAMERA_CONNECTED (100)"] ∧ s.miscast = false := by
  let acts : List Act := List.replicate 258 .subscribe ++ [.line "4 0", .post, .sniff, .handle, .sniff, .arrive]
  let harmless : Program Nat Unit → Act → Bool := fun s _ => !EventLogger.casts (CcEvent.ofValue s.injector.ev)
  let logs := ["(TOPIC_CAMERA_CMD) EV_CAMERA_CONNECT", "(TOPIC_CAMERA_EVENT) EV_CAMERA_CONNECTED (100)"]
  have evaluated : (follow (advance working (fun _ => "")) harmless (launched 0 "/photos" 0 0) acts).map (fun s => s.logged) =
      some logs := by decide +kernel
  obtain ⟨s, ended, logged⟩ := Option.map_eq_some_iff.mp evaluated
  have sound : ∀ s act next, harmless s act = true → Harmless s act next := by
    intro s act next checked _ _ _
    simpa [harmless] using checked
  have run := follow_run (Step working (fun _ => "")) (advance working (fun _ => "")) (advance_step working (fun _ => ""))
    harmless Harmless sound _ s acts ended
  exact ⟨s, logged, (casts_match working (fun _ => "") s 0 "/photos" 0 0 acts run).1⟩

theorem download_miscast : ¬ ∀ (acts : List Act) (s : Program Nat Unit),
    Run (Step working (fun _ => "")) (launched 0 "/photos" 0 0) acts s → s.miscast = false := by
  intro claimed
  let acts : List Act := List.replicate 258 .subscribe ++ [.line "22 0", .post, .sniff]
  have evaluated : (follow (advance working (fun _ => "")) (fun _ _ => true) (launched 0 "/photos" 0 0) acts).map
      (fun s => s.miscast) = some true := by decide +kernel
  obtain ⟨s, ended, wrong⟩ := Option.map_eq_some_iff.mp evaluated
  have run := follow_reached (Step working (fun _ => "")) (advance working (fun _ => "")) (advance_step working (fun _ => ""))
    _ s acts ended
  rw [claimed acts s run] at wrong
  cases wrong

end Program

end CameraController
