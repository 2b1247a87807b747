import CameraController.ControllerConnection

set_option autoImplicit false

namespace CameraController

open Effects Transition

namespace Controller

-- What a listener that knows whether the camera is connected makes of an event:
-- none where the event has no place.
def hears (connected : Bool) (sig : CcEvent) : Option Bool :=
  match sig with
  | .evCameraConnected => some true
  | .evCameraConnectionError => if connected then none else some false
  | .evCameraDisconnected => if connected then some false else none
  | sig => if connected && reported sig then some true else none

def follows (connected : Bool) (signals : List CcEvent) : Option Bool := signals.foldlM hears connected

theorem follows_append (connected : Bool) (first second : List CcEvent) :
    follows connected (first ++ second) = (follows connected first).bind (fun known => follows known second) :=
  List.foldlM_append

theorem hears_reported (sig : CcEvent) (own : reported sig = true) : hears true sig = some true := by
  cases sig <;> first | rfl | cases own

theorem follows_reported (signals : List CcEvent) (own : ∀ sig ∈ signals, reported sig = true) :
    follows true signals = some true := by
  induction signals with
  | nil => rfl
  | cons sig signals ih =>
      have rest := ih (fun sig member => own sig (List.mem_cons_of_mem _ member))
      rw [follows] at rest
      rw [follows, List.foldlM_cons, hears_reported sig (own sig List.mem_cons_self)]
      exact rest

section Listening

variable {C F A : Type} (platform : Platform C F)

def signals (world : World C F) : List CcEvent := world.published.map (fun post => post.1.sig)

def Heard (world : World C F) : Prop := follows false (signals world) = some (CameraWrapper.isConnected world.camera)

theorem heard_after (before after : World C F) (fresh : List (EventPtr × CcTopic)) (heard : Heard before)
    (published : after.published = before.published ++ fresh)
    (moves : follows (CameraWrapper.isConnected before.camera) (fresh.map (fun post => post.1.sig)) =
      some (CameraWrapper.isConnected after.camera)) : Heard after := by
  rw [Heard] at heard
  rw [Heard, signals, published, List.map_append, follows_append, ← signals, heard]
  exact moves

theorem heard_emitted (sig : CcEvent) (payload : Payload) (topic : CcTopic) (world : World C F) (camera : Camera C F)
    (heard : Heard world)
    (moves : hears (CameraWrapper.isConnected world.camera) sig = some (CameraWrapper.isConnected camera)) :
    Heard (emitted platform sig payload topic { world with camera := camera }) := by
  apply heard_after world _ [({ id := world.nextId, sig := sig, payload := payload }, topic)] heard
  · rw [emitted_published]
  · have wrapper := (emitted_untouched platform sig payload topic { world with camera := camera }).1
    rw [CameraWrapper.isConnected, CameraWrapper.isConnected] at moves
    rw [CameraWrapper.isConnected, CameraWrapper.isConnected, wrapper, List.map_singleton, follows, List.foldlM_cons, moves]
    rfl

def Speaks (before after : World C F) : Prop :=
  after.camera.wrapper = before.camera.wrapper ∧ ∃ fresh, after.published = before.published ++ fresh ∧
    ∀ post ∈ fresh, reported post.1.sig = true

theorem speaks_silent (before after : World C F) (wrapper : after.camera.wrapper = before.camera.wrapper)
    (published : after.published = before.published) : Speaks before after :=
  ⟨wrapper, [], by rw [published, List.append_nil], fun _ none => absurd none List.not_mem_nil⟩

theorem speaks_feeds : Feeds platform (fun _ => Speaks (C := C) (F := F)) (fun _ => 0) where
  refl := fun world => speaks_silent world world rfl rfl
  trans := by
    rintro _ _ first second third ⟨same, fresh, published, own⟩ ⟨still, later, after, further⟩
    refine ⟨still.trans same, fresh ++ later, by rw [after, published, List.append_assoc], ?_⟩
    intro post member
    exact (List.mem_append.mp member).elim (own post) (further post)
  more := fun _ _ _ _ _ speaks => speaks
  polls := by
    intro world
    obtain ⟨_, polls⟩ := polled_added platform (fun _ _ => True) world
    exact speaks_silent world _ ((wrapped_carries.feeds platform).polls world) (polls.published.trans (List.append_nil _))
  post := by
    intro sig payload topic own world
    rw [post_new_emitted]
    refine ⟨(emitted_untouched platform sig payload topic world).1, _, emitted_published platform sig payload topic world, ?_⟩
    intro post member
    rw [List.mem_singleton.mp member]
    exact own.1
  camera := fun world after same => speaks_silent world _ same.wrapper rfl

theorem speaks_heard (before after : World C F) (heard : Heard before) (connected : before.camera.wrapper.connected = true)
    (speaks : Speaks before after) : Heard after ∧ after.camera.wrapper.connected = true := by
  obtain ⟨wrapper, fresh, published, own⟩ := speaks
  have still : after.camera.wrapper.connected = true := by rw [wrapper, connected]
  refine ⟨heard_after before after fresh heard published ?_, still⟩
  rw [CameraWrapper.isConnected, CameraWrapper.isConnected, connected, still]
  apply follows_reported
  intro sig member
  obtain ⟨post, here, rfl⟩ := List.mem_map.mp member
  exact own post here

theorem connect_again (camera : Camera C F) (connected : camera.wrapper.connected = true) :
    CameraWrapper.connect platform camera = .ok camera.wrapper.serial camera := by
  rw [CameraWrapper.connect, Prog.bind_ok Prog.get _ camera camera camera rfl]
  simp only [connected, Bool.not_true, Bool.false_eq_true, if_false]
  rfl

theorem connect_says (world after : World C F) (run : connect platform world = .ok () after) : ∃ payload camera,
    (camera.wrapper.connected = true ∧
      after = emitted platform .evCameraConnected payload .topicCameraEvent { world with camera := camera }) ∨
    (world.camera.wrapper.connected = false ∧ camera.wrapper.connected = false ∧
      after = emitted platform .evCameraConnectionError payload .topicCameraEvent { world with camera := camera }) := by
  obtain ⟨camera, opened | refused⟩ := connect_emits platform world after run
  · obtain ⟨serial, opens, same⟩ := opened
    refine ⟨_, camera, .inl ⟨?_, same⟩⟩
    cases already : world.camera.wrapper.connected with
    | true =>
        rw [connect_again platform world.camera already] at opens
        cases opens
        exact already
    | false => exact connect_connected platform _ _ serial already opens
  · obtain ⟨code, threw, same⟩ := refused
    refine ⟨.cameraErrorEvent code, camera, .inr ?_⟩
    cases already : world.camera.wrapper.connected with
    | true =>
        rw [connect_again platform world.camera already] at threw
        cases threw
    | false => exact ⟨rfl, connect_refused platform _ _ _ already threw, same⟩

theorem connect_heard (world after : World C F) (heard : Heard world) (run : connect platform world = .ok () after) :
    Heard after := by
  obtain ⟨payload, camera, opened | refused⟩ := connect_says platform world after run
  · obtain ⟨connected, rfl⟩ := opened
    apply heard_emitted platform _ _ _ world camera heard
    rw [CameraWrapper.isConnected, CameraWrapper.isConnected, connected]
    rfl
  · obtain ⟨apart, still, rfl⟩ := refused
    apply heard_emitted platform _ _ _ world camera heard
    rw [CameraWrapper.isConnected, CameraWrapper.isConnected, apart, still]
    rfl

theorem disconnect_heard (world after : World C F) (heard : Heard world) (run : disconnect platform world = .ok () after) :
    Heard after := by
  have last := disconnect_releases platform world after run
  obtain ⟨released, middle, disconnects, posts⟩ := Prog.bind_eq_ok _ _ _ _ _ run
  obtain ⟨camera, ended, rfl⟩ := Prog.zoom_eq_ok _ _ _ world middle released disconnects
  rw [CameraWrapper.disconnect, Prog.bind_ok Prog.get _ world.camera world.camera world.camera rfl] at ended
  cases connected : world.camera.wrapper.connected with
  | false =>
      simp only [connected, Bool.false_eq_true, if_false] at ended
      obtain ⟨rfl, rfl⟩ := Outcome.ok.inj ended
      cases posts
      exact heard
  | true =>
      simp only [connected, if_true] at ended
      obtain ⟨_, freed, _, ended⟩ := Prog.bind_eq_ok _ _ _ _ _ ended
      obtain ⟨_, updated, updates, ended⟩ := Prog.bind_eq_ok _ _ _ _ _ ended
      obtain ⟨rfl, rfl⟩ := Outcome.ok.inj ended
      rw [if_pos rfl, post_new_emitted] at posts
      obtain ⟨_, rfl⟩ := Outcome.ok.inj posts
      apply heard_emitted platform _ _ _ world _ heard
      rw [(emitted_untouched platform _ _ _ _).1] at last
      rw [CameraWrapper.isConnected, CameraWrapper.isConnected, connected, last]
      rfl

-- What the listener is told rests on the wrapper being connected wherever the
-- machine reports.
structure Told (S : ControllerState) (world : World C F) : Prop where
  heard : Heard world
  joined : joined S = true → world.camera.wrapper.connected = true
  announced : S = .stateConnecting → ∀ ev ∈ world.eventList, ev.sig = .evCameraConnected →
    world.camera.wrapper.connected = true

theorem connects_told (world after : World C F) (heard : Heard world) (none : total link world = 0)
    (run : connect platform world = .ok () after) : Told .stateConnecting after where
  heard := connect_heard platform world after heard run
  joined := fun contrary => nomatch contrary
  announced := by
    intro _ ev member named
    obtain ⟨payload, camera, opened | refused⟩ := connect_says platform world after run
    · obtain ⟨connected, rfl⟩ := opened
      rw [(emitted_untouched platform _ _ _ _).1]
      exact connected
    · obtain ⟨_, _, rfl⟩ := refused
      have only := emitted_only platform _ _ { world with camera := camera } none ev member (by rw [named]; rfl)
      rw [named] at only
      cases only

theorem reaction_told (c next : Config C F) (ev : EventPtr) (rest : List EventPtr) (head : c.world.eventList = ev :: rest)
    (linked : Linked c.this.state c.world) (told : Told c.this.state c.world)
    (reaction : Reaction platform c.this.state ev (World.dequeued c.world rest) next.this.state next.world) :
    Told next.this.state next.world := by
  have conduct := reaction_conduct (speaks_feeds platform) (fun _ world ev rest _ => speaks_silent world _ rfl rfl)
    (fun before after aloof => speaks_silent before after (by rw [aloof.camera]) aloof.published) _ _ ev _ _ reaction
  have whole := total_dequeued link c.world ev rest head
  have here : ev ∈ c.world.eventList := by rw [head]; exact List.mem_cons_self
  unfold Linked at linked
  generalize c.this.state = S at conduct linked told
  generalize next.this.state = T at conduct ⊢
  generalize next.world = after at conduct ⊢
  cases conduct with
  | ignores kept _ =>
      refine ⟨told.heard, told.joined, fun opening other member => told.announced opening other ?_⟩
      rw [head]
      exact List.mem_cons_of_mem ev member
  | connects _ start named run =>
      have apart : S ≠ .stateConnecting := by rcases start with rfl | rfl <;> exact ControllerState.noConfusion
      rw [if_neg apart] at linked
      have none : total link (World.dequeued c.world rest) = 0 := by omega
      exact connects_told platform (World.dequeued c.world rest) after told.heard none run
  | breaks _ reason cheap run =>
      exact ⟨disconnect_heard platform (World.dequeued c.world rest) after told.heard run, (nomatch ·), (nomatch ·)⟩
  | defers _ occupied command run =>
      have connected := told.joined (busy_joined S occupied)
      cases run
      exact ⟨told.heard, fun _ => connected, fun _ _ _ _ => connected⟩
  | carried _ _ route effect =>
      have connected : c.world.camera.wrapper.connected = true := by
        rcases route_start S T ev route with ⟨opening, named⟩ | substate
        · exact told.announced opening ev here named
        · exact told.joined substate
      obtain ⟨heard, still⟩ := speaks_heard (World.dequeued c.world rest) after told.heard connected effect
      exact ⟨heard, fun _ => still, fun _ _ _ _ => still⟩

theorem run_told (outside : C) (downloadDir : String) (inputs : List Input) (c : Config C F)
    (run : Run (ControllerStep platform) (started outside downloadDir) inputs c) :
    Settled c ∧ Linked c.this.state c.world ∧ Told c.this.state c.world := by
  apply run_holds platform (fun c => Linked c.this.state c.world ∧ Told c.this.state c.world) outside downloadDir _ _ _
    inputs c run
  · exact ⟨started_linked outside downloadDir, rfl, (nomatch ·), (nomatch ·)⟩
  · rintro c command _ ⟨linked, told⟩
    refine ⟨arrive_linked c.this.state c.world command linked, told.heard, told.joined, ?_⟩
    intro opening ev member named
    cases List.mem_append.mp member with
    | inl earlier => exact told.announced opening ev earlier named
    | inr last =>
        have unlinked : link ev.sig = 0 := commanded_unlinked ev ⟨command, _, List.mem_singleton.mp last⟩
        rw [named] at unlinked
        cases unlinked
  · rintro c next ev rest _ ⟨linked, told⟩ head _ reaction
    exact ⟨reaction_linked platform c next ev rest head linked reaction,
      reaction_told platform c next ev rest head linked told reaction⟩

-- A listener that starts without a connection follows all that is published and
-- knows at every moment between two events whether the wrapper is connected.
theorem listener_knows (outside : C) (downloadDir : String) (inputs : List Input) (c : Config C F)
    (run : Run (ControllerStep platform) (started outside downloadDir) inputs c) :
    follows false (signals c.world) = some (CameraWrapper.isConnected c.world.camera) :=
  (run_told platform outside downloadDir inputs c run).2.2.heard

end Listening

def jammed : Platform Nat Unit := attached (fun _ => gpOk) fun c =>
  match c with
  | .gpCameraCapture _ => some (-1, ⟨"", ""⟩)
  | _ => none

def reconnecting : List Input :=
  [.post .connect, .handle, .handle, .post .captureWired, .handle, .handle, .post .connect, .handle, .handle]

theorem listener_knows_again : ∃ c, Run (ControllerStep jammed) (started 0 "/photos") reconnecting c ∧
    (signals c.world).drop 9 = [.evCameraCaptureError, .evCameraDisconnected, .evCameraConnected] ∧
    follows false (signals c.world) = some (CameraWrapper.isConnected c.world.camera) := by
  obtain ⟨c, run, seen⟩ := advance_all_observed jammed (fun c => (signals c.world).drop 9) (started 0 "/photos") reconnecting
    [.evCameraCaptureError, .evCameraDisconnected, .evCameraConnected] (by decide +kernel)
  exact ⟨c, run, seen, listener_knows jammed 0 "/photos" reconnecting c run⟩

end Controller

end CameraController
