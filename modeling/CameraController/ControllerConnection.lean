import CameraController.ControllerPosts

set_option autoImplicit false

namespace CameraController

open Effects Transition CameraWidget

namespace Controller

def link : CcEvent → Nat
  | .evCameraConnected => 1
  | .evCameraConnectionError => 1
  | _ => 0

theorem link_commands (commands : List Command) : loadOf link commands = 0 := by
  induction commands with
  | nil => rfl
  | cons command commands ih =>
      have none : link command.sig = 0 := by cases command <;> rfl
      simp only [loadOf, List.map_cons, List.sum_cons] at *
      omega

theorem link_deferrable (ev : EventPtr) (command : ev.deferrable = true) : link ev.sig = 0 := by
  obtain ⟨id, sig, payload⟩ := ev
  cases sig <;> first | rfl | cases command

theorem commanded_unlinked (ev : EventPtr) (commanded : Commanded ev) : link ev.sig = 0 := by
  obtain ⟨command, id, rfl⟩ := commanded
  cases command <;> rfl

theorem link_price (sig : CcEvent) (other : sig ≠ .evCameraConnect) : price link sig = 0 := by
  cases sig <;> first | rfl | exact absurd rfl other

section Connection

variable {C F A : Type} (platform : Platform C F)

def Untouched (before after : World C F) : Prop :=
  after.camera.wrapper = before.camera.wrapper ∧ after.camera.gp.log = before.camera.gp.log

theorem untouched_posts : Posts (Untouched (C := C) (F := F)) (fun _ => True) where
  refl := fun _ => ⟨rfl, rfl⟩
  trans := fun _ _ _ left right => ⟨right.1.trans left.1, right.2.trans left.2⟩
  mint := fun _ => ⟨rfl, rfl⟩
  publish := fun _ _ => ⟨rfl, rfl⟩
  poll := fun _ _ => ⟨rfl, rfl⟩
  arrival := fun _ _ => ⟨rfl, rfl⟩
  own := fun _ _ _ => ⟨rfl, rfl⟩

theorem emitted_untouched (sig : CcEvent) (payload : Payload) (topic : CcTopic) (world : World C F) :
    Untouched world (emitted platform sig payload topic world) :=
  Prog.within_ok _ _ _ _ () (post_new_within platform untouched_posts sig payload topic trivial)
    (post_new_emitted platform sig payload topic world)

def Wrapped (before after : World C F) : Prop := after.camera.wrapper = before.camera.wrapper

theorem wrapped_carries : Carries (Wrapped (C := C) (F := F)) where
  refl := fun _ => rfl
  trans := fun _ _ _ left right => Eq.trans right left
  mint := fun _ => rfl
  publish := fun _ _ => rfl
  poll := fun _ _ => rfl
  arrival := fun _ _ => rfl
  own := fun _ _ _ => rfl
  camera := fun _ _ same => same.wrapper

theorem connect_emits (world after : World C F) (run : connect platform world = .ok () after) : ∃ camera,
    (∃ serial, CameraWrapper.connect platform world.camera = .ok serial camera ∧
      after = emitted platform .evCameraConnected (.cameraConnectedEvent serial) .topicCameraEvent { world with camera := camera }) ∨
    ∃ code, CameraWrapper.connect platform world.camera = .threw (.gPhotoError code) camera ∧
      after = emitted platform .evCameraConnectionError (.cameraErrorEvent code) .topicCameraEvent { world with camera := camera } := by
  cases Prog.tryCatch_eq_ok _ _ _ _ _ run with
  | inl returned =>
      obtain ⟨serial, middle, connects, posts⟩ := Prog.bind_eq_ok _ _ _ _ _ returned
      obtain ⟨camera, opened, rfl⟩ := Prog.zoom_eq_ok _ _ _ world middle serial connects
      rw [post_new_emitted] at posts
      exact ⟨camera, .inl ⟨serial, opened, (Outcome.ok.inj posts).2.symm⟩⟩
  | inr caught =>
      obtain ⟨error, middle, handler, threw, found, posts⟩ := caught
      obtain ⟨camera, thrown, rfl⟩ := block_threw platform _ _ _ world middle error threw
      cases error with
      | gPhotoError code =>
          cases found
          have posted := (post_new_emitted platform _ _ _ _).symm.trans posts
          exact ⟨camera, .inr ⟨code, thrown, (Outcome.ok.inj posted).2.symm⟩⟩
      | _ => cases found

theorem disconnect_releases (world after : World C F) (run : disconnect platform world = .ok () after) :
    after.camera.wrapper.connected = false := by
  obtain ⟨released, middle, disconnects, posts⟩ := Prog.bind_eq_ok _ _ _ _ _ run
  obtain ⟨camera, ended, rfl⟩ := Prog.zoom_eq_ok _ _ _ world middle released disconnects
  rw [CameraWrapper.disconnect, Prog.bind_ok Prog.get _ world.camera world.camera world.camera rfl] at ended
  cases connected : world.camera.wrapper.connected with
  | false =>
      simp only [connected, Bool.false_eq_true, if_false] at ended
      obtain ⟨rfl, rfl⟩ := Outcome.ok.inj ended
      cases posts
      exact connected
  | true =>
      simp only [connected, if_true] at ended
      obtain ⟨_, freed, _, ended⟩ := Prog.bind_eq_ok _ _ _ _ _ ended
      obtain ⟨_, updated, updates, ended⟩ := Prog.bind_eq_ok _ _ _ _ _ ended
      cases updates
      obtain ⟨rfl, rfl⟩ := Outcome.ok.inj ended
      rw [if_pos rfl, post_new_emitted] at posts
      rw [← (Outcome.ok.inj posts).2, (emitted_untouched platform _ _ _ _).1]

-- One event that ends stateConnecting waits while the machine is there, and
-- none otherwise.
def Linked (S : ControllerState) (world : World C F) : Prop :=
  total link world = if S = .stateConnecting then 1 else 0

theorem emitted_link (sig : CcEvent) (payload : Payload) (world : World C F) (links : link sig = 1)
    (none : total link world = 0) : total link (emitted platform sig payload .topicCameraEvent world) = 1 := by
  obtain ⟨arrived, _, weighed⟩ := weighs_heaps link _ _ _ (emitted_deferred platform sig payload .topicCameraEvent world)
    (emitted_loaded platform link sig payload .topicCameraEvent world)
  rw [link_commands, links, none] at weighed
  let ev : EventPtr := { id := world.nextId, sig := sig, payload := payload }
  have member : ev ∈ (emitted platform sig payload .topicCameraEvent world).eventList :=
    List.mem_append_right _ List.mem_cons_self
  have least := load_member link _ ev member
  have part : load link (emitted platform sig payload .topicCameraEvent world).eventList ≤
      total link (emitted platform sig payload .topicCameraEvent world) := Nat.le_add_right _ _
  have own : link ev.sig = 1 := links
  omega

theorem weighs_unlinked (sig : CcEvent) (world after : World C F) (other : sig ≠ .evCameraConnect)
    (weighs : Weighs link (price link sig) world after) : total link after ≤ total link world := by
  obtain ⟨arrived, _, bound⟩ := weighs
  rwa [link_commands, link_price sig other] at bound

theorem reaction_linked (c next : Config C F) (ev : EventPtr) (rest : List EventPtr) (head : c.world.eventList = ev :: rest)
    (linked : Linked c.this.state c.world)
    (reaction : Reaction platform c.this.state ev (World.dequeued c.world rest) next.this.state next.world) :
    Linked next.this.state next.world := by
  have whole := total_dequeued link c.world ev rest head
  have conduct := reaction_conduct (weighs_feeds platform link) (weighs_recalled link) (weighs_still link) _ _ ev _ _ reaction
  unfold Linked at linked ⊢
  generalize c.this.state = S at conduct linked
  generalize next.this.state = T at conduct ⊢
  generalize next.world = after at conduct ⊢
  cases conduct with
  | ignores kept stays =>
      have own : S = .stateConnecting → link ev.sig = 0 := by
        rintro rfl
        obtain ⟨id, sig, payload⟩ := ev
        cases sig <;> first | rfl | cases stays
      by_cases opening : S = .stateConnecting
      · rw [if_pos opening] at linked ⊢
        rw [own opening] at whole
        omega
      · rw [if_neg opening] at linked ⊢
        omega
  | connects _ start named run =>
      have apart : S ≠ .stateConnecting := by rcases start with rfl | rfl <;> exact ControllerState.noConfusion
      rw [if_neg apart] at linked
      rw [if_pos rfl]
      have none : total link (World.dequeued c.world rest) = 0 := by omega
      obtain ⟨camera, opened | refused⟩ := connect_emits platform _ _ run
      · obtain ⟨serial, _, rfl⟩ := opened
        exact emitted_link platform _ _ _ rfl none
      · obtain ⟨code, _, rfl⟩ := refused
        exact emitted_link platform _ _ _ rfl none
  | breaks _ reason cheap run =>
      have weighs := Prog.within_ok _ _ _ _ _
        (disconnect_within (weighs_emits platform link) (weighs_any_camera link) trivial) run
      have bound := weighs_unlinked .evCameraDisconnect _ after CcEvent.noConfusion weighs
      rw [if_neg ControllerState.noConfusion]
      rcases reason with ⟨rfl, named⟩ | ⟨substate, _⟩
      · rw [if_pos rfl, whole, named, link] at linked
        omega
      · rw [if_neg (by rintro rfl; cases substate)] at linked
        omega
  | defers _ occupied command run =>
      have apart : S ≠ .stateConnecting := by rintro rfl; cases occupied
      have bound := total_deferred link ev _ after run
      rw [link_deferrable ev command] at bound whole
      rw [if_neg apart] at linked ⊢
      omega
  | carried _ _ route effect =>
      have bound := weighs_unlinked ev.sig _ after (route_other S T ev route) effect
      have settled : T ≠ .stateConnecting := by
        rcases route_end S T ev route with substate | ⟨_, _, rfl⟩
        · rintro rfl
          cases substate
        · exact ControllerState.noConfusion
      rw [if_neg settled]
      rcases route_start S T ev route with ⟨rfl, named⟩ | substate
      · rw [if_pos rfl, whole, named, link] at linked
        omega
      · rw [if_neg (by rintro rfl; cases substate)] at linked
        omega

theorem started_linked (outside : C) (downloadDir : String) :
    Linked .stateDisconnected (started outside downloadDir : Config C F).world := by
  have empty : (started outside downloadDir : Config C F).world.deferredEvents.contents = [] := CircularBuffer.contents_fresh
  rw [Linked, total, empty]
  rfl

theorem arrive_linked (S : ControllerState) (world : World C F) (command : Command) (linked : Linked S world) :
    Linked S (arrive world command) := by
  have unlinked : link (command.toEvent world.nextId).sig = 0 := commanded_unlinked _ ⟨command, _, rfl⟩
  have more : total link (arrive world command) = total link world := by
    simp only [total, arrive, load_append, load_cons, load_nil, unlinked]
    omega
  exact more.trans linked

-- The wrapper is connected in the substates of stateConnected, as well as
-- while the news of it are on their way.
structure Agreed (S : ControllerState) (world : World C F) : Prop where
  joined : joined S = true → world.camera.wrapper.connected = true
  released : S = .stateDisconnected ∨ S = .stateError → world.camera.wrapper.connected = false
  announced : S = .stateConnecting → ∀ ev ∈ world.eventList,
    (ev.sig = .evCameraConnected → world.camera.wrapper.connected = true) ∧
      (ev.sig = .evCameraConnectionError → world.camera.wrapper.connected = false)

theorem agreed_joined (S : ControllerState) (world : World C F) (substate : Controller.joined S = true)
    (connected : world.camera.wrapper.connected = true) : Agreed S world where
  joined := fun _ => connected
  released := by
    intro apart
    rcases apart with rfl | rfl <;> cases substate
  announced := by
    rintro rfl
    cases substate

theorem agreed_error (world : World C F) (released : world.camera.wrapper.connected = false) : Agreed .stateError world where
  joined := fun contrary => nomatch contrary
  released := fun _ => released
  announced := fun contrary => nomatch contrary

theorem agreed_connecting (world : World C F) (announced : ∀ ev ∈ world.eventList,
    (ev.sig = .evCameraConnected → world.camera.wrapper.connected = true) ∧
      (ev.sig = .evCameraConnectionError → world.camera.wrapper.connected = false)) : Agreed .stateConnecting world where
  joined := fun contrary => nomatch contrary
  released := by
    intro apart
    rcases apart with same | same <;> cases same
  announced := fun _ => announced

theorem connect_connected (camera after : Camera C F) (serial : String) (apart : camera.wrapper.connected = false)
    (run : CameraWrapper.connect platform camera = .ok serial after) : after.wrapper.connected = true := by
  have outcome := connect_cases platform camera apart
  rw [run] at outcome
  cases outcome with
  | connects _ _ added granted read logged wrapper created freed misused => rw [wrapper]

theorem connect_refused (camera after : Camera C F) (error : Exn) (apart : camera.wrapper.connected = false)
    (run : CameraWrapper.connect platform camera = .threw error after) : after.wrapper.connected = false := by
  have outcome := connect_cases platform camera apart
  rw [run] at outcome
  cases outcome with
  | refused result _ failure logged wrapper created freed misused => rw [wrapper, apart]
  | abandoned _ _ added failure logged wrapper => rw [wrapper, apart]

theorem emitted_only (sig : CcEvent) (payload : Payload) (world : World C F) (none : total link world = 0) (ev : EventPtr)
    (member : ev ∈ (emitted platform sig payload .topicCameraEvent world).eventList) (links : link ev.sig = 1) :
    ev.sig = sig := by
  obtain ⟨fresh, added, effect⟩ := emitted_added platform (fun other _ => other = sig) sig payload .topicCameraEvent world rfl
  rw [effect.queue] at member
  cases List.mem_append.mp member with
  | inl earlier =>
      have old := load_member link world.eventList ev earlier
      have part : load link world.eventList ≤ total link world := Nat.le_add_right _ _
      omega
  | inr new =>
      cases effect.sources ev new with
      | inl commanded =>
          rw [commanded_unlinked ev commanded] at links
          cases links
      | inr made =>
          obtain ⟨post, here, same⟩ := List.mem_map.mp made
          rw [← same]
          exact effect.owned post here

theorem connects_agreed (world after : World C F) (apart : world.camera.wrapper.connected = false)
    (none : total link world = 0) (run : connect platform world = .ok () after) : Agreed .stateConnecting after := by
  obtain ⟨camera, opened | refused⟩ := connect_emits platform world after run
  · obtain ⟨serial, opens, rfl⟩ := opened
    apply agreed_connecting
    intro ev member
    rw [(emitted_untouched platform _ _ _ _).1]
    refine ⟨fun _ => connect_connected platform _ _ serial apart opens, ?_⟩
    intro named
    have only := emitted_only platform _ _ { world with camera := camera } none ev member (by rw [named]; rfl)
    rw [named] at only
    cases only
  · obtain ⟨code, threw, rfl⟩ := refused
    apply agreed_connecting
    intro ev member
    rw [(emitted_untouched platform _ _ _ _).1]
    refine ⟨?_, fun _ => connect_refused platform _ _ _ apart threw⟩
    intro named
    have only := emitted_only platform _ _ { world with camera := camera } none ev member (by rw [named]; rfl)
    rw [named] at only
    cases only

-- stateIdle does not let go of the camera on a DISCONNECT.
def Stays (before : Config C F) (input : Input) (_ : Config C F) : Prop :=
  ∀ ev rest, input = .handle → before.this.state = .stateIdle → before.world.eventList = ev :: rest →
    ev.sig ≠ .evCameraDisconnect

theorem reaction_agreed (c next : Config C F) (ev : EventPtr) (rest : List EventPtr) (head : c.world.eventList = ev :: rest)
    (linked : Linked c.this.state c.world) (agreed : Agreed c.this.state c.world) (stays : Stays c .handle next)
    (reaction : Reaction platform c.this.state ev (World.dequeued c.world rest) next.this.state next.world) :
    Agreed next.this.state next.world := by
  have conduct := reaction_conduct (wrapped_carries.feeds platform) (fun _ _ _ _ _ => rfl)
    (fun _ _ aloof => by rw [Wrapped, aloof.camera]) _ _ ev _ _ reaction
  have whole := total_dequeued link c.world ev rest head
  have remains := stays ev rest rfl
  have here : ev ∈ c.world.eventList := by rw [head]; exact List.mem_cons_self
  unfold Linked at linked
  generalize c.this.state = S at conduct linked agreed remains
  generalize next.this.state = T at conduct ⊢
  generalize next.world = after at conduct ⊢
  cases conduct with
  | ignores kept _ =>
      refine ⟨agreed.joined, agreed.released, fun opening other member => agreed.announced opening other ?_⟩
      rw [head]
      exact List.mem_cons_of_mem ev member
  | connects _ start named run =>
      have apart : S ≠ .stateConnecting := by rcases start with rfl | rfl <;> exact ControllerState.noConfusion
      rw [if_neg apart] at linked
      have none : total link (World.dequeued c.world rest) = 0 := by omega
      exact connects_agreed platform (World.dequeued c.world rest) after (agreed.released start) none run
  | breaks _ reason cheap run => exact agreed_error after (disconnect_releases platform _ after run)
  | defers _ occupied command run =>
      have substate := busy_joined S occupied
      cases run
      exact agreed_joined S _ substate (agreed.joined substate)
  | carried _ _ route effect =>
      have connected : c.world.camera.wrapper.connected = true := by
        rcases route_start S T ev route with ⟨opening, named⟩ | substate
        · exact (agreed.announced opening ev here).1 named
        · exact agreed.joined substate
      rcases route_end S T ev route with substate | ⟨idle, named, _⟩
      · apply agreed_joined T after substate
        rw [effect]
        exact connected
      · exact absurd named (remains idle head)

theorem run_agreed (outside : C) (downloadDir : String) (inputs : List Input) (c : Config C F)
    (run : Run (Meeting (ControllerStep platform) Stays) (started outside downloadDir) inputs c) :
    Settled c ∧ Linked c.this.state c.world ∧ Agreed c.this.state c.world := by
  apply run_keeps platform Stays (fun c => Linked c.this.state c.world ∧ Agreed c.this.state c.world) outside downloadDir _ _ _
    inputs c run
  · exact ⟨started_linked outside downloadDir, fun contrary => (nomatch contrary), fun _ => rfl, fun contrary => (nomatch contrary)⟩
  · rintro c command _ ⟨linked, agreed⟩
    have unlinked : link (command.toEvent c.world.nextId).sig = 0 := commanded_unlinked _ ⟨command, _, rfl⟩
    refine ⟨arrive_linked c.this.state c.world command linked, agreed.joined, agreed.released, ?_⟩
    intro opening ev member
    cases List.mem_append.mp member with
    | inl earlier => exact agreed.announced opening ev earlier
    | inr last =>
        rw [← List.mem_singleton.mp last] at unlinked
        constructor
        · intro named
          rw [named] at unlinked
          cases unlinked
        · intro named
          rw [named] at unlinked
          cases unlinked
  · rintro c next ev rest _ ⟨linked, agreed⟩ stays head _ reaction
    exact ⟨reaction_linked platform c next ev rest head linked reaction,
      reaction_agreed platform c next ev rest head linked agreed stays reaction⟩

def Reconnects (before after : Camera C F) : Prop :=
  ∃ result added, after.gp.log = before.gp.log ++ ⟨.gpCameraNew, result⟩ :: added ∧
    (result = gpOk → after.wrapper.camera = some before.gp.created) ∧
    (CameraWrapper.isConnected after = true → ∃ widget, widget.configName = configSerialNumber ∧
      (⟨.gpWidgetGetValueString widget, (gpOk, after.wrapper.serial)⟩ : Answer F) ∈ added)

theorem wrapper_reconnects (camera after : Camera C F) (apart : camera.wrapper.connected = false)
    (run : (∃ serial, CameraWrapper.connect platform camera = .ok serial after) ∨
      ∃ error, CameraWrapper.connect platform camera = .threw error after) : Reconnects camera after := by
  have outcome := connect_cases platform camera apart
  cases run with
  | inl returned =>
      obtain ⟨serial, run⟩ := returned
      rw [run] at outcome
      cases outcome with
      | connects _ _ added granted read logged wrapper created freed misused =>
          obtain ⟨widget, named, member⟩ := read
          exact ⟨gpOk, added, logged, fun _ => by rw [wrapper], fun _ => ⟨widget, named, by rw [wrapper]; exact member⟩⟩
  | inr threw =>
      obtain ⟨error, run⟩ := threw
      rw [run] at outcome
      have unconnected := connect_refused platform camera after error apart run
      cases outcome with
      | refused result _ failure logged wrapper created freed misused =>
          exact ⟨result, [], logged, fun good => absurd good failure,
            fun connected => absurd (connected.symm.trans unconnected) Bool.noConfusion⟩
      | abandoned _ _ added failure logged wrapper =>
          exact ⟨gpOk, added, logged, fun _ => by rw [wrapper],
            fun connected => absurd (connected.symm.trans unconnected) Bool.noConfusion⟩

theorem untouched_reconnects (camera : Camera C F) (world after : World C F) (untouched : Untouched world after)
    (reconnects : Reconnects camera world.camera) : Reconnects camera after.camera := by
  obtain ⟨result, added, logged, fresh, read⟩ := reconnects
  obtain ⟨wrapper, log⟩ := untouched
  refine ⟨result, added, log.trans logged, by rw [wrapper]; exact fresh, ?_⟩
  rw [CameraWrapper.isConnected, wrapper]
  exact read

theorem connect_reconnects (world after : World C F) (apart : world.camera.wrapper.connected = false)
    (run : connect platform world = .ok () after) : Reconnects world.camera after.camera := by
  obtain ⟨camera, opened | refused⟩ := connect_emits platform world after run
  · obtain ⟨serial, opens, rfl⟩ := opened
    exact untouched_reconnects _ _ _ (emitted_untouched platform _ _ _ _)
      (wrapper_reconnects platform world.camera camera apart (.inl ⟨serial, opens⟩))
  · obtain ⟨code, threw, rfl⟩ := refused
    exact untouched_reconnects _ _ _ (emitted_untouched platform _ _ _ _)
      (wrapper_reconnects platform world.camera camera apart (.inr ⟨_, threw⟩))

theorem connect_handled (S next : ControllerState) (ev : EventPtr) (w after : World C F)
    (start : S = .stateDisconnected ∨ S = .stateError) (named : ev.sig = .evCameraConnect)
    (reaction : Reaction platform S ev w next after) : next = .stateConnecting ∧ connect platform w = .ok () after := by
  have outside : joined S = false ∧ S ≠ .stateConnecting ∧ busy S = false ∧ exits S ev = true := by
    rcases start with rfl | rfl
    · exact ⟨rfl, ControllerState.noConfusion, rfl, beq_iff_eq.mpr named⟩
    · exact ⟨rfl, ControllerState.noConfusion, rfl, beq_iff_eq.mpr named⟩
  obtain ⟨alone, apart, free, leaves⟩ := outside
  cases reaction_conduct (wrapped_carries.feeds platform) (fun _ _ _ _ _ => rfl) (fun _ _ aloof => by rw [Wrapped, aloof.camera])
    S next ev w after reaction with
  | ignores kept stays => exact absurd (leaves.symm.trans stays) Bool.noConfusion
  | connects _ _ _ run => exact ⟨rfl, run⟩
  | breaks _ reason cheap run =>
      rcases reason with ⟨opening, _⟩ | ⟨substate, _⟩
      · exact absurd opening apart
      · exact absurd (substate.symm.trans alone) Bool.noConfusion
  | defers _ occupied command run => exact absurd (occupied.symm.trans free) Bool.noConfusion
  | carried _ _ route effect => exact absurd named (route_other S next ev route)

structure Agrees (c : Config C F) : Prop where
  connected : joined c.this.state = true → CameraWrapper.isConnected c.world.camera = true
  released : c.this.state = .stateDisconnected ∨ c.this.state = .stateError → CameraWrapper.isConnected c.world.camera = false
  reconnects : ∀ next ev rest, c.this.state = .stateDisconnected ∨ c.this.state = .stateError →
    c.world.eventList = ev :: rest → ev.sig = .evCameraConnect → ControllerStep platform c .handle next →
    Reconnects c.world.camera next.world.camera

-- As long as connect() is refused nothing that it needs, the handles agree too.
def HandleKept (before after : World C F) : Prop := OneHandle before.camera → OneHandle after.camera

theorem handle_kept_carries : Carries (HandleKept (C := C) (F := F)) where
  refl := fun _ one => one
  trans := fun _ _ _ left right one => right (left one)
  mint := fun _ one => one
  publish := fun _ _ one => one
  poll := fun _ _ one => same_one_handle _ _ one ⟨rfl, rfl, rfl, fun _ => rfl, List.prefix_rfl⟩
  arrival := fun _ _ one => one
  own := fun _ _ _ one => one
  camera := fun _ _ same one => same_one_handle _ _ one same

theorem emitted_handle_kept (sig : CcEvent) (payload : Payload) (topic : CcTopic) (world : World C F) :
    HandleKept world (emitted platform sig payload topic world) := by
  have posts : Posts (HandleKept (C := C) (F := F)) (fun _ => True) :=
    { handle_kept_carries.toPosts with own := fun _ _ _ one => one }
  exact Prog.within_ok _ _ _ _ () (post_new_within platform posts sig payload topic trivial)
    (post_new_emitted platform sig payload topic world)

theorem disconnect_handle_kept (world after : World C F) (run : disconnect platform world = .ok () after) :
    HandleKept world after := by
  intro one
  obtain ⟨released, middle, disconnects, posts⟩ := Prog.bind_eq_ok _ _ _ _ _ run
  obtain ⟨camera, ended, rfl⟩ := Prog.zoom_eq_ok _ _ _ world middle released disconnects
  have performed : CameraWrapper.perform platform .disconnect world.camera = .ok () camera := Prog.bind_ok _ _ _ _ _ ended
  have kept := disconnect_one_handle platform world.camera camera one (.returned _ _ _ performed)
  cases released with
  | false => cases posts; exact kept
  | true =>
      rw [if_pos rfl, post_new_emitted] at posts
      rw [← (Outcome.ok.inj posts).2]
      exact emitted_handle_kept platform _ _ _ { world with camera := camera } kept

theorem connect_handle_kept (world after : World C F) (granted : Granted world.camera after.camera)
    (run : connect platform world = .ok () after) : HandleKept world after := by
  intro one
  obtain ⟨camera, opened | refused⟩ := connect_emits platform world after run
  · obtain ⟨serial, opens, rfl⟩ := opened
    have unheard := emitted_untouched platform .evCameraConnected (.cameraConnectedEvent serial) .topicCameraEvent
      { world with camera := camera }
    have given : Granted world.camera camera := by
      rw [Granted, answersSince, ← unheard.2]
      exact granted
    exact emitted_handle_kept platform _ _ _ { world with camera := camera } (connect_one_handle platform world.camera camera one
      (fun _ => given) (.returned _ _ _ (Prog.bind_ok _ _ _ _ _ opens)))
  · obtain ⟨code, threw, rfl⟩ := refused
    have unheard := emitted_untouched platform .evCameraConnectionError (.cameraErrorEvent code) .topicCameraEvent
      { world with camera := camera }
    have given : Granted world.camera camera := by
      rw [Granted, answersSince, ← unheard.2]
      exact granted
    exact emitted_handle_kept platform _ _ _ { world with camera := camera } (connect_one_handle platform world.camera camera one
      (fun _ => given) (.threw _ _ _ _ (Prog.bind_threw _ _ _ _ _ threw)))

theorem reaction_handle_kept (S next : ControllerState) (ev : EventPtr) (w after : World C F)
    (granted : S ≠ .stateConnecting → next = .stateConnecting → Granted w.camera after.camera)
    (reaction : Reaction platform S ev w next after) : HandleKept w after := by
  have still : ∀ before after : World C F, Aloof before after → HandleKept before after := by
    intro before after aloof one
    rw [aloof.camera]
    exact one
  cases reaction_conduct (handle_kept_carries.feeds platform) (fun _ _ _ _ _ one => one) still S next ev w after reaction with
  | ignores kept stays => exact id
  | connects _ start named run =>
      have away : S ≠ .stateConnecting := by rcases start with rfl | rfl <;> exact ControllerState.noConfusion
      exact connect_handle_kept platform w after (granted away rfl) run
  | breaks _ reason cheap run => exact disconnect_handle_kept platform w after run
  | defers _ occupied command run => cases run; exact id
  | carried _ _ route effect => exact effect

-- Every connect() that begins without a connection is refused nothing once it
-- has its handle.
def NeverRefused (outside : C) (downloadDir : String) (inputs : List Input) : Prop :=
  ∀ past before next, (past ++ [.handle]) <+: inputs → Run (ControllerStep platform) (started outside downloadDir) past before →
    ControllerStep platform before .handle next → before.this.state ≠ .stateConnecting → next.this.state = .stateConnecting →
    Granted before.world.camera next.world.camera

theorem connection_agrees (outside : C) (downloadDir : String) (inputs : List Input) (c : Config C F)
    (run : Run (Meeting (ControllerStep platform) Stays) (started outside downloadDir) inputs c) :
    Agrees platform c ∧ (NeverRefused platform outside downloadDir inputs → OneHandle c.world.camera) := by
  have agreed : ∀ past reached, Run (Meeting (ControllerStep platform) Stays) (started outside downloadDir) past reached →
      Settled reached ∧ Agreed reached.this.state reached.world := fun past reached prior =>
    ⟨(run_agreed platform outside downloadDir past reached prior).1, (run_agreed platform outside downloadDir past reached prior).2.2⟩
  constructor
  · obtain ⟨settled, agreement⟩ := agreed inputs c run
    refine ⟨agreement.joined, agreement.released, ?_⟩
    intro next ev rest start head named step
    obtain ⟨_, post | handle⟩ := step_cases platform c next .handle settled step
    · obtain ⟨_, contrary, _⟩ := post
      cases contrary
    · obtain ⟨first, others, _, queue, _, reaction⟩ := handle
      obtain ⟨rfl, rfl⟩ := List.cons.inj (head.symm.trans queue)
      obtain ⟨_, connects⟩ := connect_handled platform _ _ ev _ _ start named reaction
      exact connect_reconnects platform (World.dequeued c.world rest) _ (agreement.released start) connects
  · intro granted
    apply run_along (Meeting (ControllerStep platform) Stays) (fun reached => OneHandle reached.world.camera)
      (started outside downloadDir) inputs (constructed_one_handle outside) _ inputs c List.prefix_rfl run
    rintro past before input after front prior one ⟨step, _⟩
    have settled := (agreed past before prior).1
    have plainRun := run_mono _ (ControllerStep platform) (fun _ _ _ met => met.1) _ _ _ prior
    obtain ⟨_, post | handle⟩ := step_cases platform before after input settled step
    · obtain ⟨command, _, rfl⟩ := post
      exact one
    · obtain ⟨ev, rest, rfl, queue, _, reaction⟩ := handle
      exact reaction_handle_kept platform _ _ ev (World.dequeued before.world rest) _
        (granted past before after front plainRun step) reaction one

-- Whether a DISCONNECT has been taken from the queue in a substate of
-- stateConnected, and no CONNECTED since.
def noteDisconnect (asked : Bool) (before : Config C F) (input : Input) (_ : Config C F) : Bool :=
  match input, before.world.eventList with
  | .handle, ev :: _ =>
      if ev.sig = .evCameraConnected then false
      else if ev.sig = .evCameraDisconnect ∧ joined before.this.state = true then true
      else asked
  | _, _ => asked

-- No DISCONNECT is taken from the queue while an operation is under way.
def Heeds (before : Config C F) (input : Input) (_ : Config C F) : Prop :=
  ∀ ev rest, input = .handle → busy before.this.state = true → before.world.eventList = ev :: rest →
    ev.sig ≠ .evCameraDisconnect

theorem reaction_session (S T : ControllerState) (ev : EventPtr) (w after : World C F) (asked : Bool)
    (reaction : Reaction platform S ev w T after) (heeds : busy S = true → ev.sig ≠ .evCameraDisconnect)
    (kept : asked = true → joined S = false)
    (noted : (if ev.sig = .evCameraConnected then false
      else if ev.sig = .evCameraDisconnect ∧ joined S = true then true else asked) = true) : joined T = false := by
  have other : ev.sig ≠ .evCameraConnected := by
    intro named
    rw [if_pos named] at noted
    cases noted
  rw [if_neg other] at noted
  have either : ev.sig = .evCameraDisconnect ∧ S = .stateIdle ∨ joined S = false := by
    by_cases leaves : ev.sig = .evCameraDisconnect ∧ joined S = true
    · left
      refine ⟨leaves.1, ?_⟩
      cases S with
      | stateIdle => rfl
      | stateCaptureWired => exact absurd leaves.1 (heeds rfl)
      | stateDownloading => exact absurd leaves.1 (heeds rfl)
      | _ => exact absurd leaves.2 Bool.noConfusion
    · rw [if_neg leaves] at noted
      exact .inr (kept noted)
  have still : ∀ before after : World C F, Aloof before after → Wrapped before after := fun _ _ aloof => by
    rw [Wrapped, aloof.camera]
  cases reaction_conduct (wrapped_carries.feeds platform) (fun _ _ _ _ _ => rfl) still S T ev w after reaction with
  | ignores _ stays =>
      rcases either with ⟨named, rfl⟩ | outside
      · rw [exits, named] at stays
        cases stays
      · exact outside
  | connects _ start named run => rfl
  | breaks _ reason cheap run => rfl
  | defers _ occupied command run =>
      rcases either with ⟨_, rfl⟩ | outside
      · cases occupied
      · exact absurd ((busy_joined S occupied).symm.trans outside) Bool.noConfusion
  | carried _ _ route effect =>
      rcases either with ⟨named, rfl⟩ | outside
      · cases route with
        | leaves _ _ => rfl
        | serves _ others => rw [named] at others; rcases others with named | named | named <;> cases named
        | captures _ capture => rw [named] at capture; cases capture
        | downloads _ download => rw [named] at download; cases download
        | completes _ _ ended => cases ended
      · rcases route_start S T ev route with ⟨_, named⟩ | substate
        · exact absurd named other
        · exact absurd (substate.symm.trans outside) Bool.noConfusion

theorem run_linked (outside : C) (downloadDir : String) (inputs : List Input) (c : Config C F)
    (run : Run (ControllerStep platform) (started outside downloadDir) inputs c) : Linked c.this.state c.world :=
  (run_holds platform (fun c => Linked c.this.state c.world) outside downloadDir (started_linked outside downloadDir)
    (fun c command _ linked => arrive_linked c.this.state c.world command linked)
    (fun c next ev rest _ linked head _ reaction => reaction_linked platform c next ev rest head linked reaction) inputs c run).2

theorem disconnect_kept (outside : C) (downloadDir : String) (inputs : List Input) (c : Config C F) (asked : Bool)
    (run : Run (Watching (Meeting (ControllerStep platform) Heeds) noteDisconnect) (started outside downloadDir, false) inputs
      (c, asked)) (requested : asked = true) (empty : c.world.eventList = []) :
    c.this.state = .stateDisconnected ∨ c.this.state = .stateError := by
  have session : Settled c ∧ (asked = true → joined c.this.state = false) := by
    refine run_invariant (Watching (Meeting (ControllerStep platform) Heeds) noteDisconnect)
      (fun watched => Settled watched.1 ∧ (watched.2 = true → joined watched.1.this.state = false)) ?_ _ _ _
      ⟨started_settled outside downloadDir, fun _ => rfl⟩ run
    rintro ⟨before, noted⟩ input ⟨after, note⟩ ⟨settled, kept⟩ ⟨⟨step, heeds⟩, same⟩
    dsimp only at settled kept step heeds same ⊢
    subst same
    obtain ⟨still, post | handle⟩ := step_cases platform before after input settled step
    · obtain ⟨command, rfl, rfl⟩ := post
      exact ⟨still, kept⟩
    · obtain ⟨ev, rest, rfl, head, _, reaction⟩ := handle
      refine ⟨still, fun told => ?_⟩
      simp only [noteDisconnect, head] at told
      exact reaction_session platform _ _ ev _ _ noted reaction (fun occupied => heeds ev rest rfl occupied head) kept told
  have plainRun : Run (ControllerStep platform) (started outside downloadDir) inputs c :=
    run_mono _ _ (fun _ _ _ met => met.1) _ _ _ (watched_run _ _ _ _ inputs run)
  obtain ⟨settled, aside, _⟩ := run_sourced platform outside downloadDir inputs c plainRun
  have linked := run_linked platform outside downloadDir inputs c plainRun
  have quiet : total link c.world = 0 := by
    rw [total, empty, total_commanded link commanded_unlinked _ aside]
    rfl
  -- In stateConnecting the news would still be in the queue.
  have closed : c.this.state ≠ .stateConnecting := by
    intro opening
    rw [Linked, if_pos opening, quiet] at linked
    cases linked
  have outer := session.2 requested
  have rests := settled.rests
  generalize c.this.state = S at closed outer rests
  cases S with
  | stateDisconnected => exact .inl rfl
  | stateError => exact .inr rfl
  | stateConnecting => exact absurd rfl closed
  | stateIdle => cases outer
  | stateCaptureWired => cases outer
  | stateDownloading => cases outer
  | hsmTop => cases rests
  | stateInit => cases rests
  | stateConnected => cases rests

end Connection

def staying (before : Config Nat Unit) (input : Input) (_ : Config Nat Unit) : Bool :=
  match input, before.world.eventList with
  | .handle, ev :: _ => ev.sig != .evCameraDisconnect
  | _, _ => true

theorem staying_sound (before : Config Nat Unit) (input : Input) (after : Config Nat Unit)
    (checked : staying before input after = true) : Stays before input after := by
  intro ev rest handles _ head named
  subst handles
  simp only [staying, head, named] at checked
  cases checked

theorem connected_agrees : ∃ c, Run (Meeting (ControllerStep working) Stays) (started 0 "/photos")
    [.post .connect, .handle, .handle] c ∧ c.this.state = .stateIdle ∧ Agrees working c := by
  let inputs : List Input := [.post .connect, .handle, .handle]
  have evaluated : (advanceAll working staying (started 0 "/photos") inputs).map (fun c => c.this.state) = some .stateIdle := by
    decide +kernel
  obtain ⟨c, ended, state⟩ := Option.map_eq_some_iff.mp evaluated
  have run := advance_all_run working staying Stays staying_sound _ c inputs ended
  exact ⟨c, run, state, (connection_agrees working 0 "/photos" inputs c run).1⟩

def heeding (before : Config Nat Unit) (input : Input) (_ : Config Nat Unit) : Bool :=
  match input, before.world.eventList with
  | .handle, ev :: _ => !busy before.this.state || ev.sig != .evCameraDisconnect
  | _, _ => true

theorem heeding_sound (before : Config Nat Unit) (input : Input) (after : Config Nat Unit)
    (checked : heeding before input after = true) : Heeds before input after := by
  intro ev rest handles occupied head named
  subst handles
  simp only [heeding, occupied, head, named] at checked
  cases checked

theorem idle_disconnects : ∃ c, Run (Watching (Meeting (ControllerStep working) Heeds) noteDisconnect)
    (started 0 "/photos", false) [.post .connect, .handle, .handle, .post .disconnect, .handle] (c, true) ∧
    (c.this.state = .stateDisconnected ∨ c.this.state = .stateError) := by
  let inputs : List Input := [.post .connect, .handle, .handle, .post .disconnect, .handle]
  have evaluated : (advanceNoted working heeding noteDisconnect (started 0 "/photos") false inputs).map
      (fun last => (last.2, last.1.world.eventList)) = some (true, []) := by decide +kernel
  obtain ⟨⟨c, asked⟩, ended, seen⟩ := Option.map_eq_some_iff.mp evaluated
  obtain ⟨rfl, empty⟩ := Prod.mk.inj seen
  have run := advance_noted_run working heeding Heeds heeding_sound noteDisconnect _ _ _ inputs ended
  exact ⟨c, run, disconnect_kept working 0 "/photos" inputs c true run rfl empty⟩

theorem disconnect_lost : ¬ ∀ (inputs : List Input) (c : Config Nat Unit) (asked : Bool),
    Run (Watching (ControllerStep working) noteDisconnect) (started 0 "/photos", false) inputs (c, asked) → asked = true →
      c.world.eventList = [] → c.this.state = .stateDisconnected ∨ c.this.state = .stateError := by
  intro claimed
  let inputs : List Input :=
    [.post .connect, .handle, .handle, .post .captureWired, .post .disconnect, .handle, .handle, .handle]
  have evaluated : (advanceNoted working (fun _ _ _ => true) noteDisconnect (started 0 "/photos") false inputs).map
      (fun last => (last.2, last.1.world.eventList, last.1.this.state)) = some (true, [], .stateIdle) := by decide +kernel
  obtain ⟨⟨c, asked⟩, ended, seen⟩ := Option.map_eq_some_iff.mp evaluated
  obtain ⟨told, rest⟩ := Prod.mk.inj seen
  obtain ⟨empty, state⟩ := Prod.mk.inj rest
  have met := advance_noted_run working (fun _ _ _ => true) (fun _ _ _ => True) (fun _ _ _ _ => trivial) noteDisconnect _ _ _
    inputs ended
  have run := run_mono _ (Watching (ControllerStep working) noteDisconnect) (fun _ _ _ step => ⟨step.1.1, step.2⟩) _ _ _ met
  have left := claimed inputs c asked run told empty
  rw [state] at left
  exact left.elim ControllerState.noConfusion ControllerState.noConfusion

theorem disconnect_disagrees : ¬ ∀ (inputs : List Input) (c : Config Nat Unit),
    Run (ControllerStep working) (started 0 "/photos") inputs c → Agrees working c := by
  intro claimed
  obtain ⟨c, run, seen⟩ := advance_all_observed working (fun c => (c.this.state, CameraWrapper.isConnected c.world.camera))
    (started 0 "/photos") [.post .connect, .handle, .handle, .post .disconnect, .handle] (.stateDisconnected, true)
    (by decide +kernel)
  obtain ⟨state, connected⟩ := Prod.mk.inj seen
  have released := (claimed _ c run).released (.inl state)
  rw [connected] at released
  cases released

end Controller

end CameraController
