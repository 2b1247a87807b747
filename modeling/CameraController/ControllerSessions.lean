import CameraController.ControllerConnection

set_option autoImplicit false

namespace CameraController

open Effects Transition

namespace Controller

def captured : CcEvent → Nat
  | .evCameraCaptureSuccess => 1
  | .evCameraCaptureError => 1
  | _ => 0

theorem captured_commands (commands : List Command) : loadOf captured commands = 0 := by
  induction commands with
  | nil => rfl
  | cons command commands ih =>
      have none : captured command.sig = 0 := by cases command <;> rfl
      simp only [loadOf, List.map_cons, List.sum_cons] at *
      omega

theorem commanded_uncaptured (ev : EventPtr) (commanded : Commanded ev) : captured ev.sig = 0 := by
  obtain ⟨command, id, rfl⟩ := commanded
  cases command <;> rfl

theorem captured_price (sig : CcEvent) (other : sig ≠ .evCameraCaptureWired) : price captured sig = 0 := by
  cases sig <;> first | rfl | exact absurd rfl other

-- A stretch of the published events, by their positions.
structure Span where
  first : Nat
  last : Nat
deriving DecidableEq, Repr

-- What was published while the machine last entered stateConnecting and
-- stateCaptureWired.
structure Entries where
  connecting : Span
  capturing : Span
deriving DecidableEq, Repr

section Sessions

variable {C F A : Type} (platform : Platform C F)

def Span.posts (span : Span) (world : World C F) : List EventPtr :=
  ((world.published.take span.last).drop span.first).map Prod.fst

def Span.later (span : Span) (world : World C F) : List EventPtr := (world.published.drop span.last).map Prod.fst

def noteEntry (watched : ControllerState) (span : Span) (before after : Config C F) : Span :=
  if before.this.state ≠ watched ∧ after.this.state = watched then
    ⟨before.world.published.length, after.world.published.length⟩
  else span

def noteEntries (entries : Entries) (before : Config C F) (_ : Input) (after : Config C F) : Entries where
  connecting := noteEntry .stateConnecting entries.connecting before after
  capturing := noteEntry .stateCaptureWired entries.capturing before after

theorem posts_kept (span : Span) (before after : World C F) (bound : span.last ≤ before.published.length)
    (grown : before.published <+: after.published) : span.posts after = span.posts before := by
  obtain ⟨fresh, whole⟩ := grown
  rw [Span.posts, Span.posts, ← whole, List.take_append_of_le_length bound]

theorem later_kept (span : Span) (before after : World C F) (grown : before.published <+: after.published) (ev : EventPtr)
    (member : ev ∈ span.later before) : ev ∈ span.later after := by
  obtain ⟨fresh, whole⟩ := grown
  obtain ⟨post, here, same⟩ := List.mem_map.mp member
  refine List.mem_map.mpr ⟨post, ?_, same⟩
  rw [← whole, List.drop_append]
  exact List.mem_append_left _ here

theorem span_posts (before after : World C F) (fresh : List (EventPtr × CcTopic))
    (whole : after.published = before.published ++ fresh) :
    (Span.mk before.published.length after.published.length).posts after = fresh.map Prod.fst := by
  rw [Span.posts, List.take_length, whole, List.drop_left]

theorem fresh_later (span : Span) (before after : World C F) (bound : span.last ≤ before.published.length)
    (fresh : List (EventPtr × CcTopic)) (whole : after.published = before.published ++ fresh) (ev : EventPtr)
    (member : ev ∈ fresh.map Prod.fst) : ev ∈ span.later after := by
  obtain ⟨post, here, same⟩ := List.mem_map.mp member
  refine List.mem_map.mpr ⟨post, ?_, same⟩
  rw [whole, List.drop_append_of_le_length bound]
  exact List.mem_append_right _ here

structure Fresh (S : ControllerState) (world : World C F) (entries : Entries) : Prop where
  aside : Aside world
  sourced : Sourced world
  linked : Linked S world
  opened : entries.connecting.last ≤ world.published.length
  begun : entries.capturing.last ≤ world.published.length
  connecting : S = .stateConnecting → ∃ stale news later, world.eventList = stale ++ news :: later ∧
    link news.sig = 1 ∧ news ∈ entries.connecting.posts world ∧ ∀ ev ∈ later, Commanded ev
  session : joined S = true → ∀ ev ∈ world.eventList, Commanded ev ∨ ev ∈ entries.connecting.later world
  single : joined S = true → total captured world ≤ if S = .stateCaptureWired then 1 else 0
  capture : S = .stateCaptureWired → ∀ ev ∈ world.eventList, captured ev.sig = 1 → ev ∈ entries.capturing.posts world

theorem note_kept (watched : ControllerState) (span : Span) (before after : Config C F)
    (elsewhere : after.this.state = before.this.state ∨ after.this.state ≠ watched) :
    noteEntry watched span before after = span := by
  apply if_neg
  rintro ⟨left, reached⟩
  cases elsewhere with
  | inl same => exact left (same ▸ reached)
  | inr other => exact other reached

theorem note_entered (watched : ControllerState) (span : Span) (before after : Config C F) (left : before.this.state ≠ watched)
    (reached : after.this.state = watched) :
    noteEntry watched span before after = ⟨before.world.published.length, after.world.published.length⟩ :=
  if_pos ⟨left, reached⟩

section Step

variable (c next : Config C F) (entries : Entries) (ev : EventPtr) (rest : List EventPtr) (head : c.world.eventList = ev :: rest)
  (fresh : Fresh c.this.state c.world entries)

include head fresh

theorem news_first (opening : c.this.state = .stateConnecting) (links : link ev.sig = 1) :
    ev ∈ entries.connecting.posts c.world ∧ ∀ other ∈ rest, Commanded other := by
  obtain ⟨stale, news, later, queue, one, own, commanded⟩ := fresh.connecting opening
  have only := fresh.linked
  rw [Linked, if_pos opening, total, queue, load_append, load_cons, one] at only
  cases stale with
  | nil =>
      obtain ⟨rfl, rfl⟩ := List.cons.inj (head.symm.trans queue)
      exact ⟨own, commanded⟩
  | cons first others =>
      obtain ⟨rfl, _⟩ := List.cons.inj (head.symm.trans queue)
      rw [load_cons, links] at only
      omega

theorem news_kept (opening : c.this.state = .stateConnecting) (other : link ev.sig = 0) :
    ∃ stale news later, rest = stale ++ news :: later ∧ link news.sig = 1 ∧ news ∈ entries.connecting.posts c.world ∧
      ∀ ev ∈ later, Commanded ev := by
  obtain ⟨stale, news, later, queue, one, own, commanded⟩ := fresh.connecting opening
  cases stale with
  | nil =>
      obtain ⟨rfl, _⟩ := List.cons.inj (head.symm.trans queue)
      rw [one] at other
      cases other
  | cons first others =>
      obtain ⟨_, rfl⟩ := List.cons.inj (head.symm.trans queue)
      exact ⟨others, news, later, rfl, one, own, commanded⟩

end Step

theorem note_bound (watched : ControllerState) (span : Span) (before after : Config C F)
    (bound : span.last ≤ before.world.published.length) (grown : before.world.published <+: after.world.published) :
    (noteEntry watched span before after).last ≤ after.world.published.length := by
  unfold noteEntry
  split
  · exact Nat.le_refl _
  · exact bound.trans grown.length_le

theorem fresh_step (c next : Config C F) (entries : Entries) (fresh : Fresh c.this.state c.world entries)
    (aside : Aside next.world) (sourced : Sourced next.world) (linked : Linked next.this.state next.world)
    (grown : c.world.published <+: next.world.published)
    (connecting : next.this.state = .stateConnecting → ∃ stale news later, next.world.eventList = stale ++ news :: later ∧
      link news.sig = 1 ∧ news ∈ (noteEntries entries c .handle next).connecting.posts next.world ∧ ∀ ev ∈ later, Commanded ev)
    (session : joined next.this.state = true → ∀ ev ∈ next.world.eventList, Commanded ev ∨
      ev ∈ entries.connecting.later next.world)
    (single : joined next.this.state = true → total captured next.world ≤ if next.this.state = .stateCaptureWired then 1 else 0)
    (capture : next.this.state = .stateCaptureWired → ∀ ev ∈ next.world.eventList, captured ev.sig = 1 →
      ev ∈ (noteEntries entries c .handle next).capturing.posts next.world) :
    Fresh next.this.state next.world (noteEntries entries c .handle next) where
  aside := aside
  sourced := sourced
  linked := linked
  opened := note_bound _ _ c next fresh.opened grown
  begun := note_bound _ _ c next fresh.begun grown
  connecting := connecting
  session := by
    intro substate ev member
    have kept : (noteEntries entries c .handle next).connecting = entries.connecting :=
      note_kept _ _ c next (.inr (by rintro opening; rw [opening] at substate; cases substate))
    rw [kept]
    exact session substate ev member
  single := single
  capture := capture

theorem route_captured (S T : ControllerState) (ev : EventPtr) (waits : Nat) (route : Route S ev T)
    (opening : S = .stateConnecting → waits = 0)
    (session : joined S = true → captured ev.sig + waits ≤ if S = .stateCaptureWired then 1 else 0) :
    waits + price captured ev.sig ≤ if T = .stateCaptureWired then 1 else 0 := by
  cases route with
  | establishes _ named =>
      have none := opening rfl
      rw [named, none]
      exact Nat.le_refl 0
  | serves _ named =>
      have none := session rfl
      have free : price captured ev.sig = 0 := captured_price ev.sig (by
        intro contrary
        rw [contrary] at named
        rcases named with named | named | named <;> cases named)
      rw [if_neg ControllerState.noConfusion] at none ⊢
      omega
  | captures _ named =>
      have none := session rfl
      have one : price captured ev.sig = 1 := by rw [named]; rfl
      rw [if_neg ControllerState.noConfusion] at none
      rw [if_pos rfl]
      omega
  | downloads _ named =>
      have none := session rfl
      have free : price captured ev.sig = 0 := captured_price ev.sig (by rw [named]; exact CcEvent.noConfusion)
      rw [if_neg ControllerState.noConfusion] at none ⊢
      omega
  | leaves _ named =>
      have none := session rfl
      have free : price captured ev.sig = 0 := captured_price ev.sig (by rw [named]; exact CcEvent.noConfusion)
      rw [if_neg ControllerState.noConfusion] at none ⊢
      omega
  | completes _ _ ended =>
      have only := session (busy_joined S (finishes_busy S ev ended))
      have free : price captured ev.sig = 0 := finishes_price captured S ev ended
      rw [if_neg ControllerState.noConfusion]
      by_cases capturing : S = .stateCaptureWired
      · subst capturing
        have named : ev.sig = .evCameraCaptureSuccess := beq_iff_eq.mp ended
        rw [named, if_pos rfl, captured] at only
        omega
      · rw [if_neg capturing] at only
        omega

theorem route_capturing (S T : ControllerState) (ev : EventPtr) (route : Route S ev T) (capturing : T = .stateCaptureWired) :
    S = .stateIdle := by
  cases route with
  | captures _ _ => rfl
  | _ => cases capturing

section Cases

variable (c next : Config C F) (entries : Entries) (ev : EventPtr) (rest : List EventPtr)
  (fresh : Fresh c.this.state c.world entries) (aside : Aside next.world) (sourced : Sourced next.world)
  (linked : Linked next.this.state next.world)

include fresh aside sourced linked

theorem fresh_stays (head : c.world.eventList = ev :: rest) (same : next.this.state = c.this.state)
    (still : next.world.published = c.world.published)
    (queue : next.world.eventList = rest) (lighter : total captured next.world ≤ total captured c.world)
    (other : c.this.state = .stateConnecting → link ev.sig = 0) :
    Fresh next.this.state next.world (noteEntries entries c .handle next) := by
  have grown : c.world.published <+: next.world.published := ⟨[], by rw [still, List.append_nil]⟩
  have waited : ∀ later ∈ next.world.eventList, later ∈ c.world.eventList := by
    intro later member
    rw [queue] at member
    rw [head]
    exact List.mem_cons_of_mem ev member
  have opened : (noteEntries entries c .handle next).connecting = entries.connecting := note_kept _ _ c next (.inl same)
  have begun : (noteEntries entries c .handle next).capturing = entries.capturing := note_kept _ _ c next (.inl same)
  apply fresh_step c next entries fresh aside sourced linked grown
  · intro opening
    rw [opened, queue, posts_kept _ c.world next.world fresh.opened grown]
    exact news_kept c entries ev rest head fresh (same ▸ opening) (other (same ▸ opening))
  · intro substate later member
    exact (fresh.session (same ▸ substate) later (waited later member)).imp id (later_kept _ c.world next.world grown later)
  · intro substate
    rw [same] at substate ⊢
    exact lighter.trans (fresh.single substate)
  · intro capturing later member ends
    rw [begun, posts_kept _ c.world next.world fresh.begun grown]
    exact fresh.capture (same ▸ capturing) later (waited later member) ends

theorem fresh_apart (grown : c.world.published <+: next.world.published) (left : joined next.this.state = false)
    (closed : next.this.state ≠ .stateConnecting) : Fresh next.this.state next.world (noteEntries entries c .handle next) := by
  apply fresh_step c next entries fresh aside sourced linked grown
  · exact fun opening => absurd opening closed
  · exact fun substate => absurd (substate.symm.trans left) Bool.noConfusion
  · exact fun substate => absurd (substate.symm.trans left) Bool.noConfusion
  · intro capturing
    rw [capturing] at left
    cases left

theorem fresh_connects (start : c.this.state = .stateDisconnected ∨ c.this.state = .stateError)
    (opening : next.this.state = .stateConnecting) (run : connect platform (World.dequeued c.world rest) = .ok () next.world) :
    Fresh next.this.state next.world (noteEntries entries c .handle next) := by
  have away : c.this.state ≠ .stateConnecting := by
    rcases start with same | same <;> rw [same] <;> exact ControllerState.noConfusion
  have posted : ∃ stale news topic, next.world.eventList = stale ++ [news] ∧ link news.sig = 1 ∧
      next.world.published = c.world.published ++ [(news, topic)] := by
    obtain ⟨camera, opens | refused⟩ := connect_emits platform _ _ run
    · obtain ⟨serial, _, same⟩ := opens
      rw [same]
      exact ⟨_, _, .topicCameraEvent, rfl, rfl, emitted_published platform _ _ _ _⟩
    · obtain ⟨code, _, same⟩ := refused
      rw [same]
      exact ⟨_, _, .topicCameraEvent, rfl, rfl, emitted_published platform _ _ _ _⟩
  obtain ⟨stale, news, topic, queue, links, whole⟩ := posted
  apply fresh_step c next entries fresh aside sourced linked ⟨_, whole.symm⟩
  · intro _
    refine ⟨stale, news, [], queue, links, ?_, fun _ none => absurd none List.not_mem_nil⟩
    have opened : (noteEntries entries c .handle next).connecting =
        ⟨c.world.published.length, next.world.published.length⟩ := note_entered _ _ c next away opening
    rw [opened, span_posts c.world next.world _ whole]
    exact List.mem_singleton_self news
  · intro substate
    rw [opening] at substate
    cases substate
  · intro substate
    rw [opening] at substate
    cases substate
  · intro capturing
    rw [opening] at capturing
    cases capturing

theorem fresh_carried (head : c.world.eventList = ev :: rest) (route : Route c.this.state ev next.this.state)
    (published : List (EventPtr × CcTopic)) (added : List EventPtr)
    (effect : Added made (World.dequeued c.world rest) next.world published added)
    (weighs : Weighs captured (price captured ev.sig) (World.dequeued c.world rest) next.world) :
    Fresh next.this.state next.world (noteEntries entries c .handle next) := by
  have whole : next.world.published = c.world.published ++ published := effect.published
  have grown : c.world.published <+: next.world.published := ⟨published, whole.symm⟩
  have weight := total_dequeued captured c.world ev rest head
  have queue : next.world.eventList = rest ++ added := effect.queue
  have start := route_start _ _ ev route
  rcases route_end _ _ ev route with substate | ⟨_, _, left⟩
  · have closed : next.this.state ≠ .stateConnecting := by
      intro contrary
      rw [contrary] at substate
      cases substate
    have commanded : c.this.state = .stateConnecting → ∀ other ∈ rest, Commanded other := by
      intro opening
      rcases start with ⟨_, named⟩ | contrary
      · exact (news_first c entries ev rest head fresh opening (by rw [named]; rfl)).2
      · rw [opening] at contrary
        cases contrary
    have bound := route_captured c.this.state next.this.state ev (total captured (World.dequeued c.world rest)) route
      (by
        intro opening
        have queued : load captured rest = 0 := total_commanded captured commanded_uncaptured rest (commanded opening)
        have deferred : load captured c.world.deferredEvents.contents = 0 :=
          total_commanded captured commanded_uncaptured _ fresh.aside
        simp only [total, World.dequeued, queued, deferred])
      (fun within => by rw [← weight]; exact fresh.single within)
    apply fresh_step c next entries fresh aside sourced linked grown
    · exact fun opening => absurd opening closed
    · intro _ later member
      rw [queue] at member
      cases List.mem_append.mp member with
      | inl earlier =>
          rcases start with ⟨opening, _⟩ | within
          · exact .inl (commanded opening later earlier)
          · exact (fresh.session within later (by rw [head]; exact List.mem_cons_of_mem ev earlier)).imp id
              (later_kept _ c.world next.world grown later)
      | inr new =>
          exact (effect.sources later new).imp id (fresh_later _ c.world next.world fresh.opened published whole later)
    · intro _
      obtain ⟨arrived, _, less⟩ := weighs
      rw [captured_commands] at less
      omega
    · intro capturing later member ends
      have idle := route_capturing _ _ ev route capturing
      have away : c.this.state ≠ .stateCaptureWired := by rw [idle]; exact ControllerState.noConfusion
      have entered : (noteEntries entries c .handle next).capturing =
          ⟨c.world.published.length, next.world.published.length⟩ := note_entered _ _ c next away capturing
      rw [entered, span_posts c.world next.world published whole]
      rw [queue] at member
      cases List.mem_append.mp member with
      | inl earlier =>
          have none := fresh.single (by rw [idle]; rfl)
          have least := load_member captured rest later earlier
          have part : load captured rest ≤ total captured (World.dequeued c.world rest) := Nat.le_add_right _ _
          rw [if_neg away] at none
          omega
      | inr new =>
          cases effect.sources later new with
          | inl command =>
              rw [commanded_uncaptured later command] at ends
              cases ends
          | inr posted => exact posted
  · exact fresh_apart c next entries fresh aside sourced linked grown (by rw [left]; rfl) (by rw [left]; exact ControllerState.noConfusion)

end Cases

theorem started_fresh (outside : C) (downloadDir : String) :
    Fresh .stateDisconnected (started outside downloadDir : Config C F).world ⟨⟨0, 0⟩, ⟨0, 0⟩⟩ where
  aside := (started_sourced outside downloadDir).1
  sourced := (started_sourced outside downloadDir).2
  linked := started_linked outside downloadDir
  opened := Nat.le_refl 0
  begun := Nat.le_refl 0
  connecting := fun contrary => nomatch contrary
  session := fun contrary => nomatch contrary
  single := fun contrary => nomatch contrary
  capture := fun contrary => nomatch contrary

theorem arrive_session (c : Config C F) (entries : Entries) (command : Command) (input : Input)
    (fresh : Fresh c.this.state c.world entries) :
    Fresh c.this.state (arrive c.world command) (noteEntries entries c input { c with world := arrive c.world command }) := by
  let sent := command.toEvent c.world.nextId
  have commanded : Commanded sent := ⟨command, _, rfl⟩
  have same : noteEntries entries c input { c with world := arrive c.world command } = entries := by
    simp only [noteEntries, note_kept _ _ c { c with world := arrive c.world command } (.inl rfl)]
  rw [same]
  refine ⟨fresh.aside, arrive_sourced c.world command fresh.sourced, arrive_linked c.this.state c.world command fresh.linked,
    fresh.opened, fresh.begun, ?_, ?_, ?_, ?_⟩
  · intro opening
    obtain ⟨stale, news, later, queue, links, own, others⟩ := fresh.connecting opening
    refine ⟨stale, news, later ++ [sent], ?_, links, own, ?_⟩
    · simp only [arrive, queue, List.append_assoc, List.cons_append]
      rfl
    · intro ev member
      cases List.mem_append.mp member with
      | inl earlier => exact others ev earlier
      | inr last => exact List.mem_singleton.mp last ▸ commanded
  · intro substate ev member
    cases List.mem_append.mp member with
    | inl earlier => exact fresh.session substate ev earlier
    | inr last => exact .inl (List.mem_singleton.mp last ▸ commanded)
  · intro substate
    have light : captured (command.toEvent c.world.nextId).sig = 0 := commanded_uncaptured sent commanded
    have more : total captured (arrive c.world command) = total captured c.world := by
      simp only [total, arrive, load_append, load_cons, load_nil, light]
      omega
    rw [more]
    exact fresh.single substate
  · intro capturing ev member ends
    cases List.mem_append.mp member with
    | inl earlier => exact fresh.capture capturing ev earlier ends
    | inr last =>
        rw [List.mem_singleton.mp last, commanded_uncaptured sent commanded] at ends
        cases ends

theorem reaction_fresh (c next : Config C F) (entries : Entries) (ev : EventPtr) (rest : List EventPtr)
    (head : c.world.eventList = ev :: rest) (fresh : Fresh c.this.state c.world entries)
    (reaction : Reaction platform c.this.state ev (World.dequeued c.world rest) next.this.state next.world) :
    Fresh next.this.state next.world (noteEntries entries c .handle next) := by
  obtain ⟨aside, sourced, published, added, effect⟩ :=
    reaction_sourced platform _ _ c.world next.world ev rest head fresh.aside fresh.sourced reaction
  have linked := reaction_linked platform c next ev rest head fresh.linked reaction
  have grown : c.world.published <+: next.world.published := ⟨published, effect.published.symm⟩
  have weight := total_dequeued captured c.world ev rest head
  have conduct := reaction_conduct (weighs_feeds platform captured) (weighs_recalled captured) (weighs_still captured)
    _ _ ev _ _ reaction
  generalize reached : next.this.state = T at conduct
  generalize ended : next.world = after at conduct
  cases conduct with
  | ignores kept stays =>
      have other : c.this.state = .stateConnecting → link ev.sig = 0 := by
        intro opening
        rw [opening] at stays
        obtain ⟨id, sig, payload⟩ := ev
        cases sig <;> first | rfl | cases stays
      rw [← reached, ← ended]
      exact fresh_stays c next entries ev rest fresh aside sourced linked head reached (by rw [ended]; rfl) (by rw [ended]; rfl)
        (by rw [ended]; omega) other
  | connects _ start named run =>
      rw [← ended] at run ⊢
      rw [← reached]
      exact fresh_connects platform c next entries rest fresh aside sourced linked start reached run
  | breaks _ reason cheap run =>
      rw [← ended, ← reached]
      exact fresh_apart c next entries fresh aside sourced linked grown (by rw [reached]; rfl)
        (by rw [reached]; exact ControllerState.noConfusion)
  | defers _ occupied command run =>
      have free : captured ev.sig = 0 := commanded_uncaptured ev
        (sourced_commanded c.world fresh.sourced ev (by rw [head]; exact List.mem_cons_self) command)
      have lighter := total_deferred captured ev _ after run
      rw [← ended] at lighter
      rw [← reached, ← ended]
      cases run
      exact fresh_stays c next entries ev rest fresh aside sourced linked head reached (by rw [ended]; rfl) (by rw [ended]; rfl)
        (by omega) (fun opening => by rw [opening] at occupied; cases occupied)
  | carried _ _ route weighs =>
      rw [← ended] at weighs ⊢
      rw [← reached] at route ⊢
      exact fresh_carried c next entries ev rest fresh aside sourced linked head route published added effect weighs

theorem run_fresh (outside : C) (downloadDir : String) (inputs : List Input) (c : Config C F) (entries : Entries)
    (run : Run (Watching (ControllerStep platform) noteEntries) (started outside downloadDir, ⟨⟨0, 0⟩, ⟨0, 0⟩⟩) inputs
      (c, entries)) : Settled c ∧ Fresh c.this.state c.world entries := by
  refine run_invariant (Watching (ControllerStep platform) noteEntries)
    (fun watched => Settled watched.1 ∧ Fresh watched.1.this.state watched.1.world watched.2) ?_ _ _ _ ?_ run
  · rintro ⟨before, noted⟩ input ⟨after, note⟩ ⟨settled, fresh⟩ ⟨step, same⟩
    dsimp only at settled fresh step same ⊢
    subst same
    obtain ⟨still, post | handle⟩ := step_cases platform before after input settled step
    · obtain ⟨command, rfl, rfl⟩ := post
      exact ⟨still, arrive_session before noted command _ fresh⟩
    · obtain ⟨ev, rest, rfl, head, _, reaction⟩ := handle
      exact ⟨still, reaction_fresh platform before after noted ev rest head fresh reaction⟩
  · exact ⟨started_settled outside downloadDir, started_fresh outside downloadDir⟩

theorem commanded_goes_nowhere (S : ControllerState) (ev : EventPtr) (commanded : Commanded ev) :
    breaks S ev = false ∧ finishes S ev = false := by
  obtain ⟨command, id, rfl⟩ := commanded
  constructor
  · cases broken : breaks S (command.toEvent id) with
    | false => rfl
    | true =>
        have named := breaks_named S _ broken
        cases command <;> rcases named with named | named <;> cases named
  · cases ended : finishes S (command.toEvent id) with
    | false => rfl
    | true =>
        have named := finishes_named S _ ended
        cases command <;> rcases named with named | named | named <;> cases named

-- Where the event comes from that is handled in the step from c to next.
structure Isolated (c next : Config C F) (entries : Entries) (ev : EventPtr) : Prop where
  connection : c.this.state = .stateConnecting → next.this.state ≠ .stateConnecting →
    (ev.sig = .evCameraConnected ∨ ev.sig = .evCameraConnectionError) ∧ ev ∈ entries.connecting.posts c.world
  session : joined c.this.state = true → next.this.state = .stateError ∨ next.this.state = .stateIdle ∧ c.this.state ≠ .stateIdle →
    ev ∈ entries.connecting.later c.world
  capture : c.this.state = .stateCaptureWired → ev.sig = .evCameraCaptureSuccess ∨ ev.sig = .evCameraCaptureError →
    ev ∈ entries.capturing.posts c.world

theorem leaves_connecting (ev : EventPtr) (w after : World C F) (T : ControllerState)
    (reaction : Reaction platform .stateConnecting ev w T after) (left : T ≠ .stateConnecting) :
    ev.sig = .evCameraConnected ∨ ev.sig = .evCameraConnectionError := by
  cases reaction with
  | ignores _ _ _ kept stays => exact absurd rfl left
  | connects _ _ _ _ start named run => rcases start with start | start <;> cases start
  | refused _ _ _ named run => exact .inr named
  | established _ _ ready set _ named setUp attempts run => exact .inl named
  | fails _ _ _ _ substate broken run => cases substate
  | defers _ _ _ _ occupied command run => cases occupied
  | completes _ _ _ _ ended run => cases ended

theorem leaves_session (S T : ControllerState) (ev : EventPtr) (w after : World C F) (reaction : Reaction platform S ev w T after)
    (substate : joined S = true) (left : T = .stateError ∨ T = .stateIdle ∧ S ≠ .stateIdle) :
    breaks S ev = true ∨ finishes S ev = true := by
  cases reaction with
  | ignores _ _ _ kept stays =>
      rcases left with rfl | ⟨rfl, away⟩
      · cases substate
      · exact absurd rfl away
  | connects _ _ _ _ start named run => rcases start with rfl | rfl <;> cases substate
  | refused _ _ _ named run => cases substate
  | established _ _ ready set _ named setUp attempts run => cases substate
  | fails _ _ _ _ _ broken run => exact .inl broken
  | defers _ _ _ _ occupied command run =>
      rcases left with rfl | ⟨rfl, away⟩
      · cases substate
      · exact absurd rfl away
  | completes _ _ _ _ ended run => exact .inr ended
  | configures _ _ _ config named carried run => exact absurd rfl (left.resolve_left ControllerState.noConfusion).2
  | reports _ _ _ named run => exact absurd rfl (left.resolve_left ControllerState.noConfusion).2
  | lists _ _ _ named run => exact absurd rfl (left.resolve_left ControllerState.noConfusion).2
  | captures _ _ _ named run => exact absurd (left.resolve_left ControllerState.noConfusion).1 ControllerState.noConfusion
  | downloads _ _ _ cameraPath named carried run =>
      exact absurd (left.resolve_left ControllerState.noConfusion).1 ControllerState.noConfusion
  | leaves _ _ named => exact absurd (left.resolve_left ControllerState.noConfusion).1 ControllerState.noConfusion

theorem sessions_isolated (outside : C) (downloadDir : String) (inputs : List Input) (c : Config C F) (entries : Entries)
    (run : Run (Watching (ControllerStep platform) noteEntries) (started outside downloadDir, ⟨⟨0, 0⟩, ⟨0, 0⟩⟩) inputs (c, entries))
    (next : Config C F) (step : ControllerStep platform c .handle next) :
    ∃ ev rest, c.world.eventList = ev :: rest ∧ Isolated c next entries ev := by
  obtain ⟨settled, fresh⟩ := run_fresh platform outside downloadDir inputs c entries run
  obtain ⟨_, post | handle⟩ := step_cases platform c next .handle settled step
  · obtain ⟨_, contrary, _⟩ := post
    cases contrary
  · obtain ⟨ev, rest, _, head, _, reaction⟩ := handle
    have here : ev ∈ c.world.eventList := by rw [head]; exact List.mem_cons_self
    refine ⟨ev, rest, head, ?_, ?_, ?_⟩
    · intro opening left
      rw [opening] at reaction
      have named := leaves_connecting platform ev _ _ _ reaction left
      refine ⟨named, (news_first c entries ev rest head fresh opening ?_).1⟩
      rcases named with named | named <;> rw [named] <;> rfl
    · intro substate left
      have leaves := leaves_session platform _ _ ev _ _ reaction substate left
      refine (fresh.session substate ev here).resolve_left ?_
      intro commanded
      obtain ⟨unbroken, unfinished⟩ := commanded_goes_nowhere c.this.state ev commanded
      rw [unbroken, unfinished] at leaves
      exact leaves.elim Bool.noConfusion Bool.noConfusion
    · intro capturing named
      apply fresh.capture capturing ev here
      rcases named with named | named <;> rw [named] <;> rfl

end Sessions

theorem capture_isolated : ∃ c entries next ev rest, Run (Watching (ControllerStep working) noteEntries)
    (started 0 "/photos", ⟨⟨0, 0⟩, ⟨0, 0⟩⟩) [.post .connect, .handle, .handle, .post .captureWired, .handle] (c, entries) ∧
    c.this.state = .stateCaptureWired ∧ next.this.state = .stateIdle ∧ c.world.eventList = ev :: rest ∧
    Isolated c next entries ev := by
  let inputs : List Input := [.post .connect, .handle, .handle, .post .captureWired, .handle]
  obtain ⟨c, plainRun, seen⟩ := advance_all_observed working
    (fun c => (c.this.state, (advance working c .handle).map (fun next => next.this.state))) (started 0 "/photos") inputs
    (.stateCaptureWired, some .stateIdle) (by decide +kernel)
  obtain ⟨state, reaches⟩ := Prod.mk.inj seen
  obtain ⟨next, advanced, idle⟩ := Option.map_eq_some_iff.mp reaches
  obtain ⟨entries, run⟩ := run_watched (ControllerStep working) noteEntries _ c inputs plainRun ⟨⟨0, 0⟩, ⟨0, 0⟩⟩
  obtain ⟨ev, rest, head, isolated⟩ :=
    sessions_isolated working 0 "/photos" inputs c entries run next (advance_step working c next .handle advanced)
  exact ⟨c, entries, next, ev, rest, run, state, idle, head, isolated⟩

end Controller

end CameraController
