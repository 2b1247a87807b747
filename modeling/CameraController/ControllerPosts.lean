import CameraController.ControllerFrame

set_option autoImplicit false

namespace CameraController

open Effects Transition

namespace Controller

def Commanded (ev : EventPtr) : Prop := ∃ command id, ev = Command.toEvent command id

def load (weight : CcEvent → Nat) (events : List EventPtr) : Nat := (events.map (fun ev => weight ev.sig)).sum

section Loads

variable (weight : CcEvent → Nat)

@[simp] theorem load_nil : load weight [] = 0 := rfl

@[simp] theorem load_cons (ev : EventPtr) (events : List EventPtr) :
    load weight (ev :: events) = weight ev.sig + load weight events := rfl

@[simp] theorem load_append (first second : List EventPtr) :
    load weight (first ++ second) = load weight first + load weight second := by
  simp only [load, List.map_append, List.sum_append]

theorem load_member (events : List EventPtr) (ev : EventPtr) (member : ev ∈ events) : weight ev.sig ≤ load weight events := by
  induction events with
  | nil => cases member
  | cons first rest ih =>
      rw [load_cons]
      cases List.mem_cons.mp member with
      | inl same => rw [same]; omega
      | inr later =>
          have bound := ih later
          omega

theorem total_commanded (weight : CcEvent → Nat) (light : ∀ ev, Commanded ev → weight ev.sig = 0) (events : List EventPtr)
    (commanded : ∀ ev ∈ events, Commanded ev) : load weight events = 0 := by
  induction events with
  | nil => rfl
  | cons first rest ih =>
      rw [load_cons, light first (commanded first List.mem_cons_self),
        ih (fun ev member => commanded ev (List.mem_cons_of_mem first member))]

def loadOf (commands : List Command) : Nat := (commands.map (fun command => weight command.sig)).sum

end Loads

section Posting

variable {C F A : Type} (platform : Platform C F)

def total (weight : CcEvent → Nat) (world : World C F) : Nat :=
  load weight world.eventList + load weight world.deferredEvents.contents

def Weighs (weight : CcEvent → Nat) (k : Nat) (before after : World C F) : Prop :=
  ∃ arrived : List Command, after.posted.length = before.posted.length + arrived.length ∧
    total weight after ≤ total weight before + loadOf weight arrived + k

def Heaps (weight : CcEvent → Nat) (k : Nat) (before after : World C F) : Prop :=
  ∃ arrived : List Command, after.posted.length = before.posted.length + arrived.length ∧
    load weight after.eventList ≤ load weight before.eventList + loadOf weight arrived + k

def Aside (world : World C F) : Prop := ∀ ev ∈ world.deferredEvents.contents, Commanded ev

-- fresh is what was published in between, and added what came into the queue.
structure Added (own : CcEvent → Payload → Prop) (before after : World C F) (fresh : List (EventPtr × CcTopic))
    (added : List EventPtr) : Prop where
  published : after.published = before.published ++ fresh
  queue : after.eventList = before.eventList ++ added
  owned : ∀ post ∈ fresh, own post.1.sig post.1.payload
  sources : ∀ ev ∈ added, Commanded ev ∨ ev ∈ fresh.map Prod.fst

def Works (own : CcEvent → Payload → Prop) (before after : World C F) : Prop :=
  Aside before → Aside after ∧ ∃ fresh added, Added own before after fresh added

theorem added_trans (own : CcEvent → Payload → Prop) (first second third : World C F)
    (fresh later : List (EventPtr × CcTopic)) (added more : List EventPtr) (left : Added own first second fresh added)
    (right : Added own second third later more) : Added own first third (fresh ++ later) (added ++ more) where
  published := by rw [right.published, left.published, List.append_assoc]
  queue := by rw [right.queue, left.queue, List.append_assoc]
  owned := by
    intro post member
    cases List.mem_append.mp member with
    | inl earlier => exact left.owned post earlier
    | inr after => exact right.owned post after
  sources := by
    intro ev member
    rw [List.map_append]
    cases List.mem_append.mp member with
    | inl earlier => exact (left.sources ev earlier).imp id (fun here => List.mem_append_left _ here)
    | inr after => exact (right.sources ev after).imp id (fun here => List.mem_append_right _ here)

theorem added_none (own : CcEvent → Payload → Prop) (before after : World C F) (published : after.published = before.published)
    (queue : after.eventList = before.eventList) : Added own before after [] [] where
  published := by rw [published, List.append_nil]
  queue := by rw [queue, List.append_nil]
  owned := fun _ none => absurd none List.not_mem_nil
  sources := fun _ none => absurd none List.not_mem_nil

theorem arrivals_added (own : CcEvent → Payload → Prop) (commands : List Command) (world : World C F) :
    ∃ added, Added own world (commands.foldl arrive world) [] added := by
  induction commands generalizing world with
  | nil => exact ⟨[], added_none own world world rfl rfl⟩
  | cons command commands ih =>
      obtain ⟨added, rest⟩ := ih (arrive world command)
      have first : Added own world (arrive world command) [] [command.toEvent world.nextId] := by
        refine ⟨(List.append_nil _).symm, rfl, fun _ none => absurd none List.not_mem_nil, ?_⟩
        intro ev member
        exact .inl ⟨command, world.nextId, List.mem_singleton.mp member⟩
      exact ⟨_, added_trans own _ _ _ _ _ _ _ first rest⟩

theorem arrivals_loaded (weight : CcEvent → Nat) (commands : List Command) (world : World C F) :
    (commands.foldl arrive world).posted.length = world.posted.length + commands.length ∧
      load weight (commands.foldl arrive world).eventList = load weight world.eventList + loadOf weight commands := by
  induction commands generalizing world with
  | nil => exact ⟨rfl, rfl⟩
  | cons command commands ih =>
      obtain ⟨count, weighed⟩ := ih (arrive world command)
      have posted : (arrive world command).posted.length = world.posted.length + 1 := List.length_append
      have queue : load weight (arrive world command).eventList = load weight world.eventList + weight command.sig := by
        simp only [arrive, load_append, load_cons, load_nil, Command.toEvent, Nat.add_zero]
      have whole : loadOf weight (command :: commands) = weight command.sig + loadOf weight commands := rfl
      rw [List.foldl_cons, List.length_cons, count, weighed, posted, queue, whole]
      omega

def emitted (sig : CcEvent) (payload : Payload) (topic : CcTopic) (world : World C F) : World C F :=
  let ev : EventPtr := { id := world.nextId, sig := sig, payload := payload }
  let announced := { world with nextId := world.nextId + 1, published := world.published ++ [(ev, topic)] }
  if subscribed topic then { polled platform announced with eventList := (polled platform announced).eventList ++ [ev] }
  else announced

theorem post_new_emitted (sig : CcEvent) (payload : Payload) (topic : CcTopic) (world : World C F) :
    postNew platform sig payload topic world = .ok () (emitted platform sig payload topic world) := by
  cases topic <;> rfl

theorem block_threw (body : Prog (Camera C F) Exn A) (sig : CcEvent) (payload : A → Payload) (world after : World C F)
    (error : Exn) (run : (do
      let value ← onCamera body
      postNew platform sig (payload value) .topicCameraEvent) world = .threw error after) :
    ∃ camera, body world.camera = .threw error camera ∧ after = { world with camera := camera } := by
  cases Prog.bind_eq_threw _ _ _ _ _ run with
  | inl threw => exact Prog.zoom_eq_threw _ _ body world after error threw
  | inr later =>
      obtain ⟨value, middle, _, threw⟩ := later
      rw [post_new_emitted] at threw
      cases threw

theorem polled_added (own : CcEvent → Payload → Prop) (world : World C F) :
    ∃ added, Added own world (polled platform world) [] added := by
  obtain ⟨added, arrivals⟩ := arrivals_added own (platform.arrivals world.camera.gp.outside).1
    { world with camera := { world.camera with
        gp := { world.camera.gp with outside := (platform.arrivals world.camera.gp.outside).2 } } }
  exact ⟨added, arrivals.published, arrivals.queue, arrivals.owned, arrivals.sources⟩

theorem polled_loaded (weight : CcEvent → Nat) (world : World C F) : ∃ arrived : List Command,
    (polled platform world).posted.length = world.posted.length + arrived.length ∧
      load weight (polled platform world).eventList = load weight world.eventList + loadOf weight arrived :=
  ⟨(platform.arrivals world.camera.gp.outside).1, arrivals_loaded weight _ { world with camera := { world.camera with
    gp := { world.camera.gp with outside := (platform.arrivals world.camera.gp.outside).2 } } }⟩

theorem emitted_added (own : CcEvent → Payload → Prop) (sig : CcEvent) (payload : Payload) (topic : CcTopic)
    (world : World C F) (fits : own sig payload) :
    ∃ fresh added, Added own world (emitted platform sig payload topic world) fresh added := by
  let ev : EventPtr := { id := world.nextId, sig := sig, payload := payload }
  let announced : World C F := { world with nextId := world.nextId + 1, published := world.published ++ [(ev, topic)] }
  have announce : Added own world announced [(ev, topic)] [] :=
    ⟨rfl, (List.append_nil _).symm, fun post member => List.mem_singleton.mp member ▸ fits, fun _ none => absurd none List.not_mem_nil⟩
  cases heard : subscribed topic with
  | false =>
      have same : emitted platform sig payload topic world = announced := by simp only [emitted, heard, Bool.false_eq_true, if_false]; rfl
      exact ⟨_, _, same ▸ announce⟩
  | true =>
      have same : emitted platform sig payload topic world =
          { polled platform announced with eventList := (polled platform announced).eventList ++ [ev] } := by
        simp only [emitted, heard, if_true]
        rfl
      obtain ⟨arrived, polls⟩ := polled_added platform own announced
      have both := added_trans own _ _ _ _ _ _ _ announce polls
      refine ⟨[(ev, topic)], arrived ++ [ev], ?_⟩
      rw [same]
      refine ⟨both.published, ?_, announce.owned, ?_⟩
      · rw [← List.append_assoc]
        exact congrArg (fun queue => queue ++ [ev]) both.queue
      · intro other member
        cases List.mem_append.mp member with
        | inl earlier => exact both.sources other earlier
        | inr last => exact .inr (List.mem_singleton.mp last ▸ List.mem_singleton_self ev)

theorem emitted_published (sig : CcEvent) (payload : Payload) (topic : CcTopic) (world : World C F) :
    (emitted platform sig payload topic world).published =
      world.published ++ [({ id := world.nextId, sig := sig, payload := payload }, topic)] := by
  cases heard : subscribed topic with
  | false => simp only [emitted, heard, Bool.false_eq_true, if_false]
  | true =>
      obtain ⟨arrived, polls⟩ := polled_added platform (fun _ _ => True) { world with
        nextId := world.nextId + 1
        published := world.published ++ [({ id := world.nextId, sig := sig, payload := payload }, topic)] }
      have same := polls.published
      rw [List.append_nil] at same
      simp only [emitted, heard, if_true, same]

theorem emitted_deferred (sig : CcEvent) (payload : Payload) (topic : CcTopic) (world : World C F) :
    (emitted platform sig payload topic world).deferredEvents = world.deferredEvents := by
  cases heard : subscribed topic with
  | false => simp only [emitted, heard, Bool.false_eq_true, if_false]
  | true => simp only [emitted, heard, if_true, polled_keeps]

theorem emitted_loaded (weight : CcEvent → Nat) (sig : CcEvent) (payload : Payload) (topic : CcTopic) (world : World C F) :
    Heaps weight (weight sig) world (emitted platform sig payload topic world) := by
  cases heard : subscribed topic with
  | false =>
      refine ⟨[], ?_, ?_⟩
      · simp only [emitted, heard, Bool.false_eq_true, if_false, List.length_nil, Nat.add_zero]
      · simp only [emitted, heard, Bool.false_eq_true, if_false]
        omega
  | true =>
      obtain ⟨arrived, count, weighed⟩ := polled_loaded platform weight { world with
        nextId := world.nextId + 1
        published := world.published ++ [({ id := world.nextId, sig := sig, payload := payload }, topic)] }
      refine ⟨arrived, ?_, ?_⟩
      · simp only [emitted, heard, if_true, count]
      · simp only [emitted, heard, if_true, load_append, weighed, load_cons, load_nil]
        omega

theorem works_emits (own : CcEvent → Payload → Prop) : Emits platform (fun _ => Works (C := C) (F := F) own) (fun _ => 0) own where
  refl := fun world aside => ⟨aside, [], [], added_none own world world rfl rfl⟩
  trans := by
    intro _ _ first second third left right aside
    obtain ⟨kept, fresh, added, here⟩ := left aside
    obtain ⟨still, later, more, there⟩ := right kept
    exact ⟨still, _, _, added_trans own _ _ _ _ _ _ _ here there⟩
  more := fun _ _ _ _ _ step => step
  polls := by
    intro world aside
    refine ⟨?_, [], polled_added platform own world⟩
    rw [Aside, polled_keeps]
    exact aside
  post := by
    intro sig payload topic fits world
    rw [post_new_emitted]
    intro aside
    refine ⟨?_, emitted_added platform own sig payload topic world fits⟩
    rw [Aside, emitted_deferred]
    exact aside

theorem works_still (own : CcEvent → Payload → Prop) (before after : World C F) (published : after.published = before.published)
    (queue : after.eventList = before.eventList) (deferred : after.deferredEvents = before.deferredEvents) :
    Works own before after := by
  intro aside
  refine ⟨?_, [], [], added_none own before after published queue⟩
  rw [Aside, deferred]
  exact aside

theorem works_any_camera (own : CcEvent → Payload → Prop) (world : World C F) (after : Camera C F) :
    Works own world { world with camera := after } := works_still own _ _ rfl rfl rfl

theorem works_feeds : Feeds platform (fun _ => Works (C := C) (F := F) reports) (fun _ => 0) where
  toEmits := works_emits platform reports
  camera := fun world after _ => works_any_camera reports world after

theorem heaps_emits (weight : CcEvent → Nat) : Emits platform (Heaps (C := C) (F := F) weight) weight (fun _ _ => True) where
  refl := fun world => ⟨[], rfl, Nat.le_refl _⟩
  trans := by
    rintro j k first second third ⟨arrived, count, less⟩ ⟨later, more, still⟩
    refine ⟨arrived ++ later, by rw [more, count, List.length_append, Nat.add_assoc], ?_⟩
    simp only [loadOf, List.map_append, List.sum_append] at *
    omega
  more := by
    rintro j k before after le ⟨arrived, count, less⟩
    exact ⟨arrived, count, by omega⟩
  polls := by
    intro world
    obtain ⟨arrived, count, weighed⟩ := polled_loaded platform weight world
    exact ⟨arrived, count, by omega⟩
  post := by
    intro sig payload topic _ world
    rw [post_new_emitted]
    exact emitted_loaded platform weight sig payload topic world

theorem heaps_any_camera (weight : CcEvent → Nat) (world : World C F) (after : Camera C F) :
    Heaps weight 0 world { world with camera := after } := ⟨[], rfl, Nat.le_refl _⟩

theorem heaps_feeds (weight : CcEvent → Nat) : Feeds platform (Heaps (C := C) (F := F) weight) weight where
  toEmits :=
    { heaps_emits platform weight with
      post := fun sig payload topic _ => (heaps_emits platform weight).post sig payload topic trivial }
  camera := fun world after _ => heaps_any_camera weight world after

theorem weighs_heaps (weight : CcEvent → Nat) (k : Nat) (before after : World C F)
    (kept : after.deferredEvents = before.deferredEvents) (heaps : Heaps weight k before after) : Weighs weight k before after := by
  obtain ⟨arrived, count, less⟩ := heaps
  refine ⟨arrived, count, ?_⟩
  simp only [total, kept]
  omega

theorem weighs_emits (weight : CcEvent → Nat) : Emits platform (Weighs (C := C) (F := F) weight) weight (fun _ _ => True) where
  refl := fun world => ⟨[], rfl, Nat.le_refl _⟩
  trans := by
    rintro j k first second third ⟨arrived, count, less⟩ ⟨later, more, still⟩
    refine ⟨arrived ++ later, by rw [more, count, List.length_append, Nat.add_assoc], ?_⟩
    simp only [loadOf, List.map_append, List.sum_append] at *
    omega
  more := by
    rintro j k before after le ⟨arrived, count, less⟩
    exact ⟨arrived, count, by omega⟩
  polls := fun world => weighs_heaps weight 0 _ _ (polled_keeps platform world) ((heaps_emits platform weight).polls world)
  post := by
    intro sig payload topic _ world
    rw [post_new_emitted]
    exact weighs_heaps weight _ _ _ (emitted_deferred platform sig payload topic world)
      (emitted_loaded platform weight sig payload topic world)

theorem weighs_any_camera (weight : CcEvent → Nat) (world : World C F) (after : Camera C F) :
    Weighs weight 0 world { world with camera := after } := ⟨[], rfl, Nat.le_refl _⟩

theorem weighs_feeds (weight : CcEvent → Nat) : Feeds platform (Weighs (C := C) (F := F) weight) weight where
  toEmits :=
    { weighs_emits platform weight with
      post := fun sig payload topic _ => (weighs_emits platform weight).post sig payload topic trivial }
  camera := fun world after _ => weighs_any_camera weight world after

theorem popped_contents (buffer rest : CircularBuffer EventPtr 1000) (ev : EventPtr) (popped : buffer.pop = .ok (ev, rest)) :
    buffer.contents = ev :: rest.contents := by
  have holding : ¬ buffer.isEmpty = true := by
    intro empty
    have drained : buffer.empty = true := empty
    rw [CircularBuffer.pop, drained, if_neg Bool.noConfusion] at popped
    cases popped
  obtain ⟨first, tail, taken, contents⟩ := holds_one buffer holding
  rw [popped] at taken
  cases taken
  exact contents

theorem works_recalled (own : CcEvent → Payload → Prop) (begun : List EventPtr) (world : World C F) (ev : EventPtr)
    (rest : CircularBuffer EventPtr 1000) (popped : world.deferredEvents.pop = .ok (ev, rest)) :
    Works own world (recalled begun world ev rest) := by
  intro aside
  have contents := popped_contents world.deferredEvents rest ev popped
  refine ⟨?_, [], [ev], ?_⟩
  · intro other member
    apply aside other
    rw [contents]
    exact List.mem_cons_of_mem ev member
  · refine ⟨(List.append_nil _).symm, rfl, fun _ none => absurd none List.not_mem_nil, ?_⟩
    intro other member
    apply Or.inl
    apply aside other
    rw [contents, List.mem_singleton.mp member]
    exact List.mem_cons_self

theorem weighs_recalled (weight : CcEvent → Nat) (begun : List EventPtr) (world : World C F) (ev : EventPtr)
    (rest : CircularBuffer EventPtr 1000) (popped : world.deferredEvents.pop = .ok (ev, rest)) :
    Weighs weight 0 world (recalled begun world ev rest) := by
  refine ⟨[], rfl, ?_⟩
  have contents := popped_contents world.deferredEvents rest ev popped
  simp only [total, recalled, contents, load_append, load_cons, load_nil, loadOf, List.map_nil, List.sum_nil]
  omega

theorem total_dequeued (weight : CcEvent → Nat) (world : World C F) (ev : EventPtr) (rest : List EventPtr)
    (head : world.eventList = ev :: rest) :
    total weight world = weight ev.sig + total weight (World.dequeued world rest) := by
  simp only [total, World.dequeued, head, load_cons]
  omega

theorem total_deferred (weight : CcEvent → Nat) (ev : EventPtr) (world after : World C F)
    (run : deferEvent ev world = .ok () after) : total weight after ≤ total weight world + weight ev.sig := by
  cases run
  simp only [total, CircularBuffer.contents_put, load_append, load_cons, load_nil]
  split
  · cases contents : world.deferredEvents.contents with
    | nil => simp only [List.tail_nil, load_nil]; omega
    | cons oldest others => simp only [List.tail_cons, load_cons]; omega
  · omega

-- What the controller posts itself: an event of the class that its signal
-- stands for, and never a command that can be deferred.
def made (sig : CcEvent) (payload : Payload) : Prop :=
  payload.eventClass = sig.eventClass ∧ ∀ id, (EventPtr.mk id sig payload).deferrable = false

theorem reports_made (sig : CcEvent) (payload : Payload) (own : reports sig payload) : made sig payload := by
  refine ⟨own.2, ?_⟩
  intro id
  have named := own.1
  cases sig <;> first | rfl | cases named

theorem works_mono (own weaker : CcEvent → Payload → Prop) (forget : ∀ sig payload, own sig payload → weaker sig payload)
    (before after : World C F) (works : Works own before after) : Works weaker before after := by
  intro aside
  obtain ⟨kept, fresh, added, here⟩ := works aside
  exact ⟨kept, fresh, added, here.published, here.queue, fun post member => forget _ _ (here.owned post member), here.sources⟩

theorem defer_event_aside (ev : EventPtr) (world after : World C F) (run : deferEvent ev world = .ok () after)
    (commanded : Commanded ev) (aside : Aside world) : Aside after := by
  cases run
  intro other member
  have either := CircularBuffer.contents_put world.deferredEvents ev ▸ member
  cases List.mem_append.mp either with
  | inl earlier =>
      apply aside other
      split at earlier
      · exact List.mem_of_mem_tail earlier
      · exact earlier
  | inr last => exact List.mem_singleton.mp last ▸ commanded

def price (cost : CcEvent → Nat) : CcEvent → Nat
  | .evCameraConnect => max (cost .evCameraConnected) (cost .evCameraConnectionError)
  | .evCameraConnected =>
      4 * cost .evCameraGenericError + (readStatusCost cost + readOptionsCost cost) + readStatusCost cost
  | .evCameraConnectionError => 0 + cost .evCameraDisconnected
  | .evCameraGenericError => 0 + cost .evCameraDisconnected
  | .evCameraSetConfig => 4 * cost .evCameraGenericError + readStatusCost cost
  | .evCameraGetStatus => readStatusCost cost
  | .evCameraGetOptions => readOptionsCost cost
  | .evCameraCaptureWired => captureWiredCost cost
  | .evCameraCaptureSuccess => readStatusCost cost
  | .evCameraCaptureError => 0 + cost .evCameraDisconnected
  | .evCameraDownload => downloadCost cost
  | .evCameraDownloadSuccess => readStatusCost cost
  | .evCameraDownloadError => readStatusCost cost
  | _ => 0

theorem finishes_price (cost : CcEvent → Nat) (S : ControllerState) (ev : EventPtr) (ended : finishes S ev = true) :
    price cost ev.sig = readStatusCost cost := by
  rcases finishes_named S ev ended with named | named | named <;> rw [named] <;> rfl

theorem breaks_price (cost : CcEvent → Nat) (S : ControllerState) (ev : EventPtr) (broken : breaks S ev = true) :
    price cost ev.sig = 0 + cost .evCameraDisconnected := by
  rcases breaks_named S ev broken with named | named <;> rw [named] <;> rfl

structure Aloof (before after : World C F) : Prop where
  camera : after.camera = before.camera
  queue : after.eventList = before.eventList
  deferred : after.deferredEvents = before.deferredEvents
  published : after.published = before.published
  posted : after.posted = before.posted

inductive Route : ControllerState → EventPtr → ControllerState → Prop where
  | establishes (ev : EventPtr) (named : ev.sig = .evCameraConnected) : Route .stateConnecting ev .stateIdle
  | serves (ev : EventPtr) (named : ev.sig = .evCameraSetConfig ∨ ev.sig = .evCameraGetStatus ∨ ev.sig = .evCameraGetOptions) :
      Route .stateIdle ev .stateIdle
  | captures (ev : EventPtr) (named : ev.sig = .evCameraCaptureWired) : Route .stateIdle ev .stateCaptureWired
  | downloads (ev : EventPtr) (named : ev.sig = .evCameraDownload) : Route .stateIdle ev .stateDownloading
  | leaves (ev : EventPtr) (named : ev.sig = .evCameraDisconnect) : Route .stateIdle ev .stateDisconnected
  | completes (S : ControllerState) (ev : EventPtr) (ended : finishes S ev = true) : Route S ev .stateIdle

theorem finishes_busy (S : ControllerState) (ev : EventPtr) (ended : finishes S ev = true) : busy S = true := by
  cases S <;> first | rfl | cases ended

theorem busy_joined (S : ControllerState) (occupied : busy S = true) : joined S = true := by
  rw [joined, occupied, Bool.or_true]

theorem route_start (S next : ControllerState) (ev : EventPtr) (route : Route S ev next) :
    S = .stateConnecting ∧ ev.sig = .evCameraConnected ∨ joined S = true := by
  cases route with
  | establishes _ named => exact .inl ⟨rfl, named⟩
  | completes _ _ ended => exact .inr (busy_joined S (finishes_busy S ev ended))
  | _ => exact .inr rfl

theorem route_end (S next : ControllerState) (ev : EventPtr) (route : Route S ev next) :
    joined next = true ∨ S = .stateIdle ∧ ev.sig = .evCameraDisconnect ∧ next = .stateDisconnected := by
  cases route with
  | leaves _ named => exact .inr ⟨rfl, named, rfl⟩
  | _ => exact .inl rfl

theorem route_other (S next : ControllerState) (ev : EventPtr) (route : Route S ev next) : ev.sig ≠ .evCameraConnect := by
  intro contrary
  cases route with
  | establishes _ named => rw [contrary] at named; cases named
  | serves _ named => rw [contrary] at named; rcases named with named | named | named <;> cases named
  | captures _ named => rw [contrary] at named; cases named
  | downloads _ named => rw [contrary] at named; cases named
  | leaves _ named => rw [contrary] at named; cases named
  | completes _ _ ended =>
      have named := finishes_named S ev ended
      rw [contrary] at named
      rcases named with named | named | named <;> cases named

-- The reactions as a relation sees them that the functions carry: connect(),
-- disconnect() and the deferral stand apart.
inductive Conduct (R : Nat → World C F → World C F → Prop) (cost : CcEvent → Nat) (S : ControllerState) (ev : EventPtr)
    (w : World C F) : ControllerState → World C F → Prop where
  | ignores (kept : apart S = true ∨ ev.deferrable = false) (stays : exits S ev = false) : Conduct R cost S ev w S w
  | connects (after : World C F) (start : S = .stateDisconnected ∨ S = .stateError) (named : ev.sig = .evCameraConnect)
      (run : connect platform w = .ok () after) : Conduct R cost S ev w .stateConnecting after
  | breaks (after : World C F) (reason : S = .stateConnecting ∧ ev.sig = .evCameraConnectionError ∨
      joined S = true ∧ Controller.breaks S ev = true) (cheap : price cost ev.sig = 0 + cost .evCameraDisconnected)
      (run : disconnect platform w = .ok () after) : Conduct R cost S ev w .stateError after
  | defers (after : World C F) (occupied : busy S = true) (command : ev.deferrable = true)
      (run : deferEvent ev w = .ok () after) : Conduct R cost S ev w S after
  | carried (next : ControllerState) (after : World C F) (route : Route S ev next) (effect : R (price cost ev.sig) w after) :
      Conduct R cost S ev w next after

section Conducts

variable {platform} {R : Nat → World C F → World C F → Prop} {cost : CcEvent → Nat} (feeds : Feeds platform R cost)
  (calls : ∀ begun world ev rest, world.deferredEvents.pop = .ok (ev, rest) → R 0 world (recalled begun world ev rest))
  (still : ∀ before after, Aloof before after → R 0 before after)

include feeds calls still

theorem reaction_conduct (S next : ControllerState) (ev : EventPtr) (w after : World C F)
    (reaction : Reaction platform S ev w next after) : Conduct platform R cost S ev w next after := by
  have begins : ∀ (k : Nat) (begun : World C F), R k begun after → Aloof w begun → R k w after := by
    intro k begun effect aloof
    have both := feeds.trans 0 k _ _ _ (still w begun aloof) effect
    rwa [Nat.zero_add] at both
  have idle : ∀ begun : World C F, enterIdle platform begun = .ok () after → R (readStatusCost cost) begun after :=
    fun begun run => enter_idle_carried feeds calls begun after run
  cases reaction with
  | ignores _ _ _ kept stays => exact .ignores kept stays
  | connects _ _ _ _ start named run => exact .connects after start named run
  | refused _ _ _ named run => exact .breaks after (.inl ⟨rfl, named⟩) (by rw [named]; rfl) run
  | established _ _ ready set _ named setUp attempts run =>
      have first := Prog.within_ok _ _ _ _ _ (set_up_within feeds) setUp
      have second : R 0 ready set := still ready set (by rw [attempts]; exact ⟨rfl, rfl, rfl, rfl, rfl⟩)
      have whole := feeds.trans _ _ _ _ _ (feeds.trans _ 0 _ _ _ first second) (idle set run)
      exact .carried _ after (.establishes ev named) (by rw [named]; exact whole)
  | fails _ _ _ _ substate broken run => exact .breaks after (.inr ⟨substate, broken⟩) (breaks_price cost S ev broken) run
  | defers _ _ _ _ occupied command run => exact .defers after occupied command run
  | configures _ _ _ config named carried run =>
      have effect := begins _ _ (Prog.within_ok _ _ _ _ _ (configure_within feeds) run) ⟨rfl, rfl, rfl, rfl, rfl⟩
      exact .carried _ after (.serves ev (.inl named)) (by rw [named]; exact effect)
  | reports _ _ _ named run =>
      have effect := begins _ _ (Prog.within_ok _ _ _ _ _ (read_status_within feeds) run) ⟨rfl, rfl, rfl, rfl, rfl⟩
      exact .carried _ after (.serves ev (.inr (.inl named))) (by rw [named]; exact effect)
  | lists _ _ _ named run =>
      have effect := begins _ _ (Prog.within_ok _ _ _ _ _ (read_options_within feeds) run) ⟨rfl, rfl, rfl, rfl, rfl⟩
      exact .carried _ after (.serves ev (.inr (.inr named))) (by rw [named]; exact effect)
  | captures _ _ _ named run =>
      have effect := begins _ _ (Prog.within_ok _ _ _ _ _ (enter_capture_wired_within feeds) run) ⟨rfl, rfl, rfl, rfl, rfl⟩
      exact .carried _ after (.captures ev named) (by rw [named]; exact effect)
  | downloads _ _ _ cameraPath named carried run =>
      have effect := begins _ _ (Prog.within_ok _ _ _ _ _ (enter_downloading_within feeds) run) ⟨rfl, rfl, rfl, rfl, rfl⟩
      exact .carried _ after (.downloads ev named) (by rw [named]; exact effect)
  | leaves _ _ named =>
      exact .carried _ w (.leaves ev named) (by rw [named]; exact feeds.refl w)
  | completes _ _ _ _ ended run =>
      have effect := idle w run
      exact .carried _ after (.completes S ev ended) (by rw [finishes_price cost S ev ended]; exact effect)

end Conducts

theorem reaction_works (S next : ControllerState) (ev : EventPtr) (w after : World C F)
    (commanded : ev.deferrable = true → Commanded ev) (reaction : Reaction platform S ev w next after) :
    Works made w after := by
  have emits := works_emits (C := C) (F := F) platform made
  have still : ∀ before after : World C F, Aloof before after → Works reports before after := fun before after aloof =>
    works_still reports before after aloof.published aloof.queue aloof.deferred
  cases reaction_conduct (works_feeds platform) (works_recalled reports) still S next ev w after reaction with
  | ignores kept stays => exact emits.refl w
  | connects _ start named run =>
      exact Prog.within_ok _ _ _ _ _ (connect_within emits (works_any_camera made)
        (fun _ => ⟨rfl, fun _ => rfl⟩) (fun _ => ⟨rfl, fun _ => rfl⟩)) run
  | breaks _ reason cheap run =>
      exact Prog.within_ok _ _ _ _ _ (disconnect_within emits (works_any_camera made) ⟨rfl, fun _ => rfl⟩) run
  | defers _ occupied command run =>
      intro aside
      refine ⟨defer_event_aside ev w after run (commanded command) aside, [], [], ?_⟩
      cases run
      exact added_none made _ _ rfl rfl
  | carried _ _ route effect => exact works_mono reports made reports_made w after effect

def Sourced (world : World C F) : Prop := ∀ ev ∈ world.eventList, Commanded ev ∨ made ev.sig ev.payload

theorem sourced_commanded (world : World C F) (sourced : Sourced world) (ev : EventPtr) (member : ev ∈ world.eventList)
    (command : ev.deferrable = true) : Commanded ev := by
  cases sourced ev member with
  | inl commanded => exact commanded
  | inr own => exact absurd (command.symm.trans (own.2 ev.id)) Bool.noConfusion

theorem added_sourced (before after : World C F) (fresh : List (EventPtr × CcTopic)) (added : List EventPtr)
    (effect : Added made before after fresh added) (sourced : Sourced before) : Sourced after := by
  intro ev member
  rw [effect.queue] at member
  cases List.mem_append.mp member with
  | inl earlier => exact sourced ev earlier
  | inr new =>
      cases effect.sources ev new with
      | inl commanded => exact .inl commanded
      | inr published =>
          obtain ⟨post, here, same⟩ := List.mem_map.mp published
          exact .inr (same ▸ effect.owned post here)

theorem dequeued_sourced (world : World C F) (ev : EventPtr) (rest : List EventPtr) (head : world.eventList = ev :: rest)
    (sourced : Sourced world) : Sourced (World.dequeued world rest) := fun other member =>
  sourced other (by rw [head]; exact List.mem_cons_of_mem ev member)

theorem arrive_sourced (world : World C F) (command : Command) (sourced : Sourced world) : Sourced (arrive world command) := by
  intro ev member
  cases List.mem_append.mp member with
  | inl earlier => exact sourced ev earlier
  | inr last => exact .inl ⟨command, world.nextId, List.mem_singleton.mp last⟩

theorem started_sourced (outside : C) (downloadDir : String) :
    Aside (started outside downloadDir : Config C F).world ∧ Sourced (started outside downloadDir : Config C F).world := by
  have empty : (started outside downloadDir : Config C F).world.deferredEvents.contents = [] := CircularBuffer.contents_fresh
  refine ⟨?_, fun _ none => absurd none List.not_mem_nil⟩
  intro ev member
  rw [empty] at member
  cases member

theorem reaction_sourced (S next : ControllerState) (world after : World C F) (ev : EventPtr) (rest : List EventPtr)
    (head : world.eventList = ev :: rest) (aside : Aside world) (sourced : Sourced world)
    (reaction : Reaction platform S ev (World.dequeued world rest) next after) :
    Aside after ∧ Sourced after ∧ ∃ fresh added, Added made (World.dequeued world rest) after fresh added := by
  have here : ev ∈ world.eventList := by rw [head]; exact List.mem_cons_self
  obtain ⟨kept, fresh, added, effect⟩ := reaction_works platform S next ev _ after (sourced_commanded world sourced ev here)
    reaction aside
  exact ⟨kept, added_sourced _ _ fresh added effect (dequeued_sourced world ev rest head sourced), fresh, added, effect⟩

theorem run_sourced (outside : C) (downloadDir : String) (inputs : List Input) (c : Config C F)
    (run : Run (ControllerStep platform) (started outside downloadDir) inputs c) :
    Settled c ∧ Aside c.world ∧ Sourced c.world := by
  apply run_holds platform (fun c => Aside c.world ∧ Sourced c.world) outside downloadDir (started_sourced outside downloadDir) _ _
    inputs c run
  · rintro c command _ ⟨aside, sourced⟩
    exact ⟨aside, arrive_sourced c.world command sourced⟩
  · rintro c next ev rest _ ⟨aside, sourced⟩ head _ reaction
    obtain ⟨kept, still, _⟩ := reaction_sourced platform _ _ c.world next.world ev rest head aside sourced reaction
    exact ⟨kept, still⟩

theorem weighs_still (weight : CcEvent → Nat) (before after : World C F) (aloof : Aloof before after) :
    Weighs weight 0 before after := by
  refine ⟨[], by rw [aloof.posted]; rfl, ?_⟩
  rw [total, total, aloof.queue, aloof.deferred]
  omega

-- Either the event is put aside, or handling it costs its price at most.
theorem reaction_weighs (weight : CcEvent → Nat) (S next : ControllerState) (ev : EventPtr) (w after : World C F)
    (reaction : Reaction platform S ev w next after) :
    (ev.deferrable = true ∧ deferEvent ev w = .ok () after) ∨ Weighs weight (price weight ev.sig) w after := by
  have emits := weighs_emits (C := C) (F := F) platform weight
  have free := weighs_any_camera (C := C) (F := F) weight
  cases reaction_conduct (weighs_feeds platform weight) (weighs_recalled weight) (weighs_still weight) S next ev w after reaction with
  | ignores kept stays => exact .inr (emits.more 0 _ _ _ (Nat.zero_le _) (emits.refl w))
  | connects _ start named run =>
      rw [named]
      exact .inr (Prog.within_ok _ _ _ _ _ (connect_within emits free (fun _ => trivial) (fun _ => trivial)) run)
  | breaks _ reason cheap run =>
      rw [cheap]
      exact .inr (Prog.within_ok _ _ _ _ _ (disconnect_within emits free trivial) run)
  | defers _ occupied command run => exact .inl ⟨command, run⟩
  | carried _ _ route effect => exact .inr effect

end Posting

end Controller

end CameraController
