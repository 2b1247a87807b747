import CameraController.ControllerFrame
import CameraController.Lib.Deferral

set_option autoImplicit false

namespace CameraController

open Effects Transition Deferral

namespace Controller

section Lines

variable {C F A : Type} (platform : Platform C F)

-- The controller seen as a line of deferrable commands.
def line (world : World C F) (dropped : List EventPtr) : Line EventPtr where
  queue := world.eventList.filter EventPtr.deferrable
  deferred := world.deferredEvents.contents
  executed := world.executed
  dropped := dropped
  overwritten := world.overwritten
  posted := world.posted.filter EventPtr.deferrable
  recalls := world.reposts.map (fun r => ⟨r.ev, r.posted.filter EventPtr.deferrable, r.deferred⟩)

def Config.line (c : Config C F) : Line EventPtr := Controller.line c.world c.dropped

-- Every command that was posted has an id of its own, and only deferrable
-- events have been deferred.
structure Minted (world : World C F) : Prop where
  below : ∀ ev ∈ world.posted, ev.id < world.nextId
  distinct : (world.posted.map EventPtr.id).Nodup
  aside : ∀ ev ∈ world.deferredEvents.contents, ev.deferrable = true

abbrev Moves (l m : Line EventPtr) : Prop := Relation.ReflTransGen (Line.Move 1000) l m

def Flows (dropped : List EventPtr) (before after : World C F) : Prop :=
  Minted before → Minted after ∧ Moves (line before dropped) (line after dropped)

theorem flows_same (dropped : List EventPtr) (before after : World C F) (posted : after.posted = before.posted)
    (ids : before.nextId ≤ after.nextId) (same : line after dropped = line before dropped) :
    Flows dropped before after := by
  intro minted
  have aside : after.deferredEvents.contents = before.deferredEvents.contents := congrArg Line.deferred same
  refine ⟨⟨?_, by rw [posted]; exact minted.distinct, by rw [aside]; exact minted.aside⟩, by rw [same]⟩
  intro ev member
  exact Nat.lt_of_lt_of_le (minted.below ev (posted ▸ member)) ids

theorem flows_trans (dropped : List EventPtr) (first second third : World C F) (left : Flows dropped first second)
    (right : Flows dropped second third) : Flows dropped first third := by
  intro minted
  obtain ⟨middle, moves⟩ := left minted
  obtain ⟨last, more⟩ := right middle
  exact ⟨last, moves.trans more⟩

theorem arrive_minted (world : World C F) (command : Command) (minted : Minted world) : Minted (arrive world command) := by
  refine ⟨?_, ?_, minted.aside⟩
  · intro ev member
    cases List.mem_append.mp member with
    | inl earlier => exact Nat.lt_succ_of_lt (minted.below ev earlier)
    | inr last =>
        rw [List.mem_singleton.mp last]
        exact Nat.lt_succ_self world.nextId
  · have fresh : world.nextId ∉ world.posted.map EventPtr.id := by
      intro member
      obtain ⟨ev, posted, same⟩ := List.mem_map.mp member
      exact Nat.lt_irrefl world.nextId (same ▸ minted.below ev posted)
    simp only [arrive, List.map_append, List.map_cons, List.map_nil]
    exact List.nodup_append.mpr ⟨minted.distinct, List.nodup_singleton _, by
      intro x member y last same
      have old : x = world.nextId := same.trans (List.mem_singleton.mp last)
      exact fresh (old ▸ member)⟩

theorem line_arrive (world : World C F) (command : Command) (dropped : List EventPtr) :
    line (arrive world command) dropped =
      if (command.toEvent world.nextId).deferrable = true then (line world dropped).arrive (command.toEvent world.nextId)
      else line world dropped := by
  by_cases deferrable : (command.toEvent world.nextId).deferrable = true
  · simp only [line, arrive, Line.arrive, List.filter_append, List.filter_cons, List.filter_nil, deferrable, if_true]
  · simp only [line, arrive, List.filter_append, List.filter_cons, List.filter_nil, deferrable, if_false,
      Bool.false_eq_true, List.append_nil]

theorem arrive_fresh (world : World C F) (command : Command) (dropped : List EventPtr) (minted : Minted world) :
    command.toEvent world.nextId ∉ (line world dropped).posted := by
  intro member
  exact Nat.lt_irrefl world.nextId (minted.below _ (List.mem_filter.mp member).1)

theorem arrive_flows (dropped : List EventPtr) (world : World C F) (command : Command) :
    Flows dropped world (arrive world command) := by
  intro minted
  refine ⟨arrive_minted world command minted, ?_⟩
  rw [line_arrive]
  split
  · exact .single (.arrive _ _ (arrive_fresh world command dropped minted))
  · exact .refl

def plain (sig : CcEvent) : Prop := ∀ id payload, (EventPtr.mk id sig payload).deferrable = false

theorem flows_posts (dropped : List EventPtr) : Posts (Flows (C := C) (F := F) dropped) plain where
  refl := fun world => flows_same dropped world world rfl (Nat.le_refl _) rfl
  trans := flows_trans dropped
  mint := fun world => flows_same dropped world _ rfl (Nat.le_succ _) rfl
  publish := fun world _ => flows_same dropped world _ rfl (Nat.le_refl _) rfl
  poll := fun world _ => flows_same dropped world _ rfl (Nat.le_refl _) rfl
  arrival := arrive_flows dropped
  own := by
    intro world ev own
    refine flows_same dropped world { world with eventList := world.eventList ++ [ev] } rfl (Nat.le_refl _) ?_
    have unseen : ev.deferrable = false := own ev.id ev.payload
    simp only [line, List.filter_append, List.filter_cons, List.filter_nil, unseen, Bool.false_eq_true, if_false,
      List.append_nil]

theorem reported_plain (sig : CcEvent) (own : reported sig = true) : plain sig := by
  intro id payload
  cases sig <;> first | rfl | cases own

theorem flows_carries (dropped : List EventPtr) : Carries (Flows (C := C) (F := F) dropped) where
  toPosts := { flows_posts dropped with own := fun world ev own => (flows_posts dropped).own world ev (reported_plain _ own) }
  camera := fun world _ _ => flows_same dropped world _ rfl (Nat.le_refl _) rfl

theorem flows_camera (dropped : List EventPtr) (world : World C F) (after : Camera C F) :
    Flows dropped world { world with camera := after } := flows_same dropped world _ rfl (Nat.le_refl _) rfl

theorem connect_flows (dropped : List EventPtr) : Prog.Within (Flows dropped) (connect platform) :=
  connect_within ((flows_posts dropped).emits platform) (flows_camera dropped) (fun _ _ _ => rfl) (fun _ _ _ => rfl)

theorem disconnect_flows (dropped : List EventPtr) : Prog.Within (Flows dropped) (disconnect platform) :=
  disconnect_within ((flows_posts dropped).emits platform) (flows_camera dropped) (fun _ _ => rfl)

def Flushes (begun dropped : List EventPtr) (before after : World C F) : Prop :=
  Minted before → Minted after ∧ Line.Flush begun (line before dropped) (line after dropped)

theorem arrivals_flush (begun dropped : List EventPtr) (commands : List Command) (world : World C F) (m : Line EventPtr)
    (minted : Minted world) (flushed : Line.Flush begun (line (commands.foldl arrive world) dropped) m) :
    Line.Flush begun (line world dropped) m := by
  induction commands generalizing world with
  | nil => exact flushed
  | cons command commands ih =>
      have later := ih (arrive world command) (arrive_minted world command minted) flushed
      rw [line_arrive] at later
      split at later
      · exact .arrive _ _ _ (arrive_fresh world command dropped minted) later
      · exact later

theorem arrivals_minted (commands : List Command) (world : World C F) (minted : Minted world) :
    Minted (commands.foldl arrive world) := by
  induction commands generalizing world with
  | nil => exact minted
  | cons command commands ih => exact ih (arrive world command) (arrive_minted world command minted)

theorem line_recalled (begun dropped : List EventPtr) (world : World C F) (ev : EventPtr)
    (rest : CircularBuffer EventPtr 1000) (deferrable : ev.deferrable = true) :
    line (recalled begun world ev rest) dropped = Line.recallOldest begun (line world dropped) ev rest.contents := by
  simp only [line, recalled, Line.recallOldest, List.filter_append, List.filter_cons, List.filter_nil, deferrable, if_true,
    List.map_append, List.map_cons, List.map_nil]

theorem flush_flushes (begun dropped : List EventPtr) (n : Nat) (world after : World C F)
    (run : flushDeferred platform begun n world = .ok () after) : Flushes begun dropped world after := by
  apply flush_rule platform begun (Flushes begun dropped) _ _ n world after run
  · intro world settled minted
    exact ⟨minted, .done _ settled⟩
  · intro world ev rest after popped holds later minted
    have unpolled : Minted { world with camera := { world.camera with gp := { world.camera.gp with
        outside := (platform.arrivals world.camera.gp.outside).2 } } } := ⟨minted.below, minted.distinct, minted.aside⟩
    have arrived : Minted (polled platform world) := arrivals_minted _ _ unpolled
    have deferrable := arrived.aside ev (holds ▸ List.mem_cons_self)
    obtain ⟨last, flushed⟩ := later ⟨arrived.below, arrived.distinct,
      fun e member => arrived.aside e (holds ▸ List.mem_cons_of_mem ev member)⟩
    rw [line_recalled begun dropped _ ev rest deferrable] at flushed
    have called : Line.Flush begun (line (polled platform world) dropped) (line after dropped) :=
      .recallOldest _ _ ev rest.contents holds flushed
    exact ⟨last, arrivals_flush begun dropped _ { world with camera := { world.camera with gp := { world.camera.gp with
      outside := (platform.arrivals world.camera.gp.outside).2 } } } _ unpolled called⟩

theorem enter_idle_flows (dropped : List EventPtr) (world after : World C F) (run : enterIdle platform world = .ok () after) :
    Flows dropped world after := by
  have carries := flows_carries (C := C) (F := F) dropped
  obtain ⟨responsive, asked, answered, run⟩ := Prog.bind_eq_ok _ _ _ _ _ run
  have first := Prog.within_ok _ _ _ _ _ (on_camera_within (carries.feeds platform) _ (is_responsive_within platform)) answered
  cases responsive with
  | false => cases run; exact first
  | true =>
      obtain ⟨_, read, status, run⟩ := Prog.bind_eq_ok (readStatus platform) _ _ _ _ run
      have second := Prog.within_ok _ _ _ _ _ (read_status_within (carries.feeds platform)) status
      intro minted
      obtain ⟨middle, moves⟩ := flows_trans dropped _ _ _ first second minted
      obtain ⟨last, flushed⟩ := flush_flushes platform _ dropped _ read after run middle
      exact ⟨last, moves.tail (.flush _ _ flushed)⟩

theorem breaks_plain (S : ControllerState) (ev : EventPtr) (broken : breaks S ev = true) : ev.deferrable = false := by
  rcases breaks_named S ev broken with named | named <;> simp [EventPtr.deferrable, named]

theorem finishes_plain (S : ControllerState) (ev : EventPtr) (ended : finishes S ev = true) : ev.deferrable = false := by
  rcases finishes_named S ev ended with named | named | named <;> simp [EventPtr.deferrable, named]

theorem drops_plain (S : ControllerState) (ev : EventPtr) (unseen : ev.deferrable = false) : drops S ev = [] := by
  cases S <;> simp [drops, unseen]

theorem drops_apart (S : ControllerState) (ev : EventPtr) (kept : apart S = true) (command : ev.deferrable = true) :
    drops S ev = [ev] := by
  cases S <;> simp [drops, command] <;> cases kept

section Heads

variable (c : Config C F) (ev : EventPtr) (rest : List EventPtr) (head : c.world.eventList = ev :: rest)

include head

theorem line_head (command : ev.deferrable = true) : c.line.queue = ev :: rest.filter EventPtr.deferrable := by
  simp only [Config.line, line, head, List.filter_cons, command, if_true]

theorem line_plain (unseen : ev.deferrable = false) : line (World.dequeued c.world rest) c.dropped = c.line := by
  simp only [Config.line, line, World.dequeued, head, List.filter_cons, unseen, Bool.false_eq_true, if_false]

theorem moves_execute (command : ev.deferrable = true) (begun : World C F)
    (same : line begun c.dropped = line (executing (World.dequeued c.world rest) ev) c.dropped) :
    Moves c.line (line begun c.dropped) := by
  rw [same]
  exact .single (.execute c.line ev (rest.filter EventPtr.deferrable) (line_head c ev rest head command))

theorem moves_drop (command : ev.deferrable = true) :
    Moves c.line (line (World.dequeued c.world rest) (c.dropped ++ [ev])) :=
  .single (.drop c.line ev (rest.filter EventPtr.deferrable) (line_head c ev rest head command))

theorem moves_defer (command : ev.deferrable = true) (after : World C F)
    (run : deferEvent ev (World.dequeued c.world rest) = .ok () after) : Moves c.line (line after c.dropped) := by
  cases run
  have full : (c.world.deferredEvents.isFull = true) ↔ c.world.deferredEvents.contents.length = 1000 := by
    rw [CircularBuffer.isFull, beq_iff_eq, CircularBuffer.contents_length]
  have deferred : line { World.dequeued c.world rest with
      deferredEvents := c.world.deferredEvents.put ev
      overwritten := c.world.overwritten ++
        if c.world.deferredEvents.isFull then c.world.deferredEvents.contents.take 1 else [] } c.dropped =
      c.line.defer 1000 ev (rest.filter EventPtr.deferrable) := by
    by_cases length : c.world.deferredEvents.contents.length = 1000
    · simp only [line, Line.defer, Config.line, World.dequeued, CircularBuffer.contents_put, full.mpr length, length, if_true]
    · simp only [line, Line.defer, Config.line, World.dequeued, CircularBuffer.contents_put, mt full.mp length, length,
        if_false, Bool.false_eq_true]
  exact deferred ▸ .single (.defer c.line ev (rest.filter EventPtr.deferrable) (line_head c ev rest head command))

end Heads

theorem minted_dequeued (world : World C F) (rest : List EventPtr) (minted : Minted world) :
    Minted (World.dequeued world rest) := ⟨minted.below, minted.distinct, minted.aside⟩

theorem reaction_moves (c : Config C F) (S next : ControllerState) (ev : EventPtr) (rest : List EventPtr) (after : World C F)
    (minted : Minted c.world) (head : c.world.eventList = ev :: rest)
    (reaction : Reaction platform S ev (World.dequeued c.world rest) next after) :
    Minted after ∧ Moves c.line (line after (c.dropped ++ drops S ev)) := by
  have base := minted_dequeued c.world rest minted
  have carries := flows_carries (C := C) (F := F) c.dropped
  -- An event that changes the state: the commands only see what the functions do.
  have ordinary : ev.deferrable = false → Flows c.dropped (World.dequeued c.world rest) after →
      Minted after ∧ Moves c.line (line after (c.dropped ++ drops S ev)) := by
    intro unseen flows
    obtain ⟨last, moves⟩ := flows base
    rw [line_plain c ev rest head unseen] at moves
    rw [drops_plain S ev unseen, List.append_nil]
    exact ⟨last, moves⟩
  have served : S = .stateIdle → ev.deferrable = true → ∀ begun,
      line begun c.dropped = line (executing (World.dequeued c.world rest) ev) c.dropped → Minted begun →
      Flows c.dropped begun after → Minted after ∧ Moves c.line (line after (c.dropped ++ drops S ev)) := by
    intro idle command begun same ready flows
    obtain ⟨last, moves⟩ := flows ready
    have kept : drops S ev = [] := by rw [idle]; rfl
    rw [kept, List.append_nil]
    exact ⟨last, (moves_execute c ev rest head command begun same).trans moves⟩
  have ready : Minted (executing (World.dequeued c.world rest) ev) := ⟨base.below, base.distinct, base.aside⟩
  cases reaction with
  | ignores _ _ _ kept stays =>
      cases known : ev.deferrable with
      | false => exact ordinary known (carries.refl _)
      | true =>
          have out : apart S = true := kept.resolve_right (by rw [known]; exact Bool.noConfusion)
          rw [drops_apart S ev out known]
          exact ⟨base, moves_drop c ev rest head known⟩
  | connects _ _ _ _ start named run =>
      exact ordinary (by simp [EventPtr.deferrable, named]) (Prog.within_ok _ _ _ _ _ (connect_flows platform c.dropped) run)
  | refused _ _ _ named run =>
      exact ordinary (by simp [EventPtr.deferrable, named]) (Prog.within_ok _ _ _ _ _ (disconnect_flows platform c.dropped) run)
  | established _ _ ready set _ named setUp attempts run =>
      apply ordinary (by simp [EventPtr.deferrable, named])
      have first := Prog.within_ok _ _ _ _ _ (set_up_within (carries.feeds platform)) setUp
      have second : Flows c.dropped ready set := flows_same c.dropped _ _ (by rw [attempts]) (by rw [attempts]) (by rw [attempts]; rfl)
      exact flows_trans _ _ _ _ first (flows_trans _ _ _ _ second (enter_idle_flows platform c.dropped set after run))
  | fails _ _ _ _ substate broken run =>
      exact ordinary (breaks_plain S ev broken) (Prog.within_ok _ _ _ _ _ (disconnect_flows platform c.dropped) run)
  | defers _ _ _ _ occupied command run =>
      have stays : drops S ev = [] := by cases S <;> first | rfl | cases occupied
      rw [stays, List.append_nil]
      refine ⟨?_, moves_defer c ev rest head command after run⟩
      cases run
      refine ⟨base.below, base.distinct, ?_⟩
      intro e member
      have either := CircularBuffer.contents_put c.world.deferredEvents ev ▸ member
      cases List.mem_append.mp either with
      | inl earlier =>
          apply base.aside e
          split at earlier
          · exact List.mem_of_mem_tail earlier
          · exact earlier
      | inr last => rw [List.mem_singleton.mp last, command]
  | configures _ _ _ config named carried run =>
      have flows := Prog.within_ok _ _ _ _ _ (configure_within (carries.feeds platform)) run
      refine served rfl (by simp [EventPtr.deferrable, named]) _ ?_ ?_ flows
      · rfl
      · exact ⟨ready.below, ready.distinct, ready.aside⟩
  | reports _ _ _ named run =>
      exact served rfl (by simp [EventPtr.deferrable, named]) _ rfl ready
        (Prog.within_ok _ _ _ _ _ (read_status_within (carries.feeds platform)) run)
  | lists _ _ _ named run =>
      exact served rfl (by simp [EventPtr.deferrable, named]) _ rfl ready
        (Prog.within_ok _ _ _ _ _ (read_options_within (carries.feeds platform)) run)
  | captures _ _ _ named run =>
      exact served rfl (by simp [EventPtr.deferrable, named]) _ rfl ready
        (Prog.within_ok _ _ _ _ _ (enter_capture_wired_within (carries.feeds platform)) run)
  | downloads _ _ _ cameraPath named carried run =>
      have flows := Prog.within_ok _ _ _ _ _ (enter_downloading_within (carries.feeds platform)) run
      refine served rfl (by simp [EventPtr.deferrable, named]) _ ?_ ?_ flows
      · rfl
      · exact ⟨ready.below, ready.distinct, ready.aside⟩
  | leaves _ _ named => exact ordinary (by simp [EventPtr.deferrable, named]) (carries.refl _)
  | completes _ _ _ _ ended run =>
      exact ordinary (finishes_plain S ev ended) (enter_idle_flows platform c.dropped _ after run)

theorem run_moves (outside : C) (downloadDir : String) (inputs : List Input) (c : Config C F)
    (run : Run (ControllerStep platform) (started outside downloadDir) inputs c) :
    Minted c.world ∧ Moves Line.empty c.line := by
  refine (run_holds platform (fun c => Minted c.world ∧ Moves Line.empty c.line) outside downloadDir ?_ ?_ ?_ inputs c run).2
  · have settled : (started outside downloadDir : Config C F).world.deferredEvents.contents = [] :=
      CircularBuffer.contents_fresh
    refine ⟨⟨fun _ none => absurd none List.not_mem_nil, List.nodup_nil, ?_⟩, ?_⟩
    · intro ev none
      rw [settled] at none
      exact absurd none List.not_mem_nil
    · have start : (started outside downloadDir : Config C F).line = Line.empty := by
        rw [Config.line, line, settled]
        rfl
      rw [start]
  · rintro c command _ ⟨minted, moves⟩
    obtain ⟨after, more⟩ := arrive_flows c.dropped c.world command minted
    exact ⟨after, moves.trans more⟩
  · rintro c next ev rest _ ⟨minted, moves⟩ head dropped reaction
    obtain ⟨after, more⟩ := reaction_moves platform c _ _ ev rest next.world minted head reaction
    rw [← dropped] at more
    exact ⟨after, moves.trans more⟩

def places (c : Config C F) : List (List EventPtr) :=
  [c.world.eventList, c.world.deferredEvents.contents, c.world.executed, c.dropped, c.world.overwritten]

structure Conserved (c : Config C F) : Prop where
  identities : (c.world.posted.map EventPtr.id).Nodup
  onePlace : ∀ ev ∈ c.world.posted, ev.deferrable = true → ((places c).map (List.count ev)).sum = 1
  executedOnce : c.world.executed.Nodup

theorem commands_conserved (outside : C) (downloadDir : String) (inputs : List Input) (c : Config C F)
    (run : Run (ControllerStep platform) (started outside downloadDir) inputs c) : Conserved c := by
  obtain ⟨minted, moves⟩ := run_moves platform outside downloadDir inputs c run
  have accounted := Line.moves_accounted 1000 _ _ moves Line.empty_accounted
  refine ⟨minted.distinct, ?_, c.line.executed_nodup accounted⟩
  intro ev posted deferrable
  have member : ev ∈ c.line.posted := List.mem_filter.mpr ⟨posted, deferrable⟩
  have once := List.count_eq_one_of_mem accounted.distinct member
  have queue : c.line.queue.count ev = c.world.eventList.count ev := List.count_filter deferrable
  have places := accounted.places ev
  rw [once, Line.occurrences, queue] at places
  simp only [Controller.places, List.map_cons, List.map_nil, List.sum_cons, List.sum_nil]
  simp only [Config.line, line] at places
  omega

def setTo (id : Nat) (iso : Int) : EventPtr := (Command.setConfig { iso := iso }).toEvent id

-- A capture is under way when the first configuration is set; the second one
-- is set after the capture has ended and before the controller has noticed.
def overtaking : List Input :=
  [.post .connect, .handle, .handle, .post .captureWired, .post (.setConfig { iso := 100 }), .handle, .handle,
    .post (.setConfig { iso := 200 }), .handle, .handle, .handle]

theorem overtaking_run : ∃ c, Run (ControllerStep working) (started 0 "/photos") overtaking c ∧
    c.world.posted = [Command.connect.toEvent 0, Command.captureWired.toEvent 10, setTo 11 100, setTo 13 200] ∧
    c.world.executed = [Command.captureWired.toEvent 10, setTo 13 200, setTo 11 100] ∧
    c.world.cameraConfig = { iso := 100 } := by
  obtain ⟨c, run, seen⟩ := advance_all_observed working (fun c => (c.world.posted, c.world.executed, c.world.cameraConfig))
    (started 0 "/photos") overtaking
    ([Command.connect.toEvent 0, Command.captureWired.toEvent 10, setTo 11 100, setTo 13 200],
      [Command.captureWired.toEvent 10, setTo 13 200, setTo 11 100], { iso := 100 }) (by decide +kernel)
  exact ⟨c, run, by simpa only [Prod.mk.injEq] using seen⟩

theorem conserved_while_overtaking : ∃ c, Run (ControllerStep working) (started 0 "/photos") overtaking c ∧ Conserved c := by
  obtain ⟨c, run, _⟩ := overtaking_run
  exact ⟨c, run, commands_conserved working 0 "/photos" overtaking c run⟩

def configOf (ev : EventPtr) : Option CameraConfig :=
  match ev.sig, ev.payload with
  | .evCameraSetConfig, .cameraConfigEvent config => some config
  | _, _ => none

def lastSet (executed : List EventPtr) : CameraConfig := (executed.filterMap configOf).getLast?.getD {}

theorem last_set_other (executed : List EventPtr) (ev : EventPtr) (other : ev.sig ≠ .evCameraSetConfig) :
    lastSet (executed ++ [ev]) = lastSet executed := by
  have unset : configOf ev = none := by
    unfold configOf
    split
    · rename_i named _
      exact absurd named other
    · rfl
  simp only [lastSet, List.filterMap_append, List.filterMap_cons, List.filterMap_nil, unset, List.append_nil]

theorem last_set_config (executed : List EventPtr) (ev : EventPtr) (config : CameraConfig) (named : ev.sig = .evCameraSetConfig)
    (carries : ev.payload = .cameraConfigEvent config) : lastSet (executed ++ [ev]) = config := by
  have sets : configOf ev = some config := by rw [configOf, named, carries]
  simp only [lastSet, List.filterMap_append, List.filterMap_cons, List.filterMap_nil, sets, List.getLast?_concat,
    Option.getD_some]

-- Nothing but stateIdle's own handler looks after the configuration and what
-- has been executed.
def Unset (before after : World C F) : Prop :=
  after.cameraConfig = before.cameraConfig ∧ after.executed = before.executed

theorem unset_posts : Posts (Unset (C := C) (F := F)) (fun _ => True) where
  refl := fun _ => ⟨rfl, rfl⟩
  trans := fun _ _ _ left right => ⟨right.1.trans left.1, right.2.trans left.2⟩
  mint := fun _ => ⟨rfl, rfl⟩
  publish := fun _ _ => ⟨rfl, rfl⟩
  poll := fun _ _ => ⟨rfl, rfl⟩
  arrival := fun _ _ => ⟨rfl, rfl⟩
  own := fun _ _ _ => ⟨rfl, rfl⟩

theorem unset_carries : Carries (Unset (C := C) (F := F)) where
  toPosts := { unset_posts with own := fun world ev _ => unset_posts.own world ev trivial }
  camera := fun _ _ _ => ⟨rfl, rfl⟩

theorem reaction_config (S next : ControllerState) (ev : EventPtr) (w after : World C F)
    (reaction : Reaction platform S ev w next after) (current : w.cameraConfig = lastSet w.executed) :
    after.cameraConfig = lastSet after.executed := by
  have carries := unset_carries (C := C) (F := F)
  have kept : ∀ begun : World C F, begun.cameraConfig = lastSet begun.executed → Unset begun after →
      after.cameraConfig = lastSet after.executed := by
    intro begun same unset
    rw [unset.1, unset.2, same]
  have executed : ev.sig ≠ .evCameraSetConfig → w.cameraConfig = lastSet (executing w ev).executed := fun other =>
    current.trans (last_set_other w.executed ev other).symm
  have idle : ∀ begun : World C F, enterIdle platform begun = .ok () after → Unset begun after := fun begun run =>
    enter_idle_carried (carries.feeds platform) (fun _ _ _ _ _ => ⟨rfl, rfl⟩) begun after run
  cases reaction with
  | ignores _ _ _ kept stays => exact current
  | connects _ _ _ _ start named run =>
      exact kept w current (Prog.within_ok _ _ _ _ _
        (connect_within (unset_posts.emits platform) (fun _ _ => ⟨rfl, rfl⟩) (fun _ => trivial) (fun _ => trivial)) run)
  | refused _ _ _ named run =>
      exact kept w current (Prog.within_ok _ _ _ _ _
        (disconnect_within (unset_posts.emits platform) (fun _ _ => ⟨rfl, rfl⟩) trivial) run)
  | established _ _ ready set _ named setUp attempts run =>
      have first := Prog.within_ok _ _ _ _ _ (set_up_within (carries.feeds platform)) setUp
      have second : Unset ready set := by rw [attempts]; exact ⟨rfl, rfl⟩
      exact kept w current (carries.trans _ _ _ first (carries.trans _ _ _ second (idle set run)))
  | fails _ _ _ _ substate broken run =>
      exact kept w current (Prog.within_ok _ _ _ _ _
        (disconnect_within (unset_posts.emits platform) (fun _ _ => ⟨rfl, rfl⟩) trivial) run)
  | defers _ _ _ _ occupied command run =>
      cases run
      exact current
  | configures _ _ _ config named carried run =>
      apply kept _ _ (Prog.within_ok _ _ _ _ _ (configure_within (carries.feeds platform)) run)
      exact (last_set_config w.executed ev config named carried).symm
  | reports _ _ _ named run =>
      apply kept _ _ (Prog.within_ok _ _ _ _ _ (read_status_within (carries.feeds platform)) run)
      exact executed (by rw [named]; exact CcEvent.noConfusion)
  | lists _ _ _ named run =>
      apply kept _ _ (Prog.within_ok _ _ _ _ _ (read_options_within (carries.feeds platform)) run)
      exact executed (by rw [named]; exact CcEvent.noConfusion)
  | captures _ _ _ named run =>
      apply kept _ _ (Prog.within_ok _ _ _ _ _ (enter_capture_wired_within (carries.feeds platform)) run)
      exact executed (by rw [named]; exact CcEvent.noConfusion)
  | downloads _ _ _ cameraPath named carried run =>
      apply kept _ _ (Prog.within_ok _ _ _ _ _ (enter_downloading_within (carries.feeds platform)) run)
      exact executed (by rw [named]; exact CcEvent.noConfusion)
  | leaves _ _ named => exact current
  | completes _ _ _ _ ended run => exact kept w current (idle w run)

-- Whenever earlier is posted again, later has not been posted yet or was
-- itself deferred when that flush began.
def NotOvertaken (c : Config C F) (earlier later : EventPtr) : Prop :=
  ∀ r ∈ c.world.reposts, r.ev = earlier → later ∈ r.posted → later ∈ r.deferred

structure InOrder (c : Config C F) : Prop where
  executed : ∀ earlier later, earlier.deferrable = true → later.deferrable = true →
    Before c.world.posted earlier later → NotOvertaken c earlier later → earlier ∈ c.world.executed →
    later ∈ c.world.executed → Before c.world.executed earlier later
  config : c.world.cameraConfig = lastSet c.world.executed

theorem executed_in_order (outside : C) (downloadDir : String) (inputs : List Input) (c : Config C F)
    (run : Run (ControllerStep platform) (started outside downloadDir) inputs c) : InOrder c := by
  constructor
  · intro earlier later first second posted overtaken left right
    obtain ⟨minted, moves⟩ := run_moves platform outside downloadDir inputs c run
    have distinct : c.world.posted.Nodup := List.Nodup.of_map EventPtr.id minted.distinct
    have different := before_ne c.world.posted earlier later distinct posted
    apply Line.executed_sorted earlier later different 1000 c.line moves _ left right
    refine ⟨fun _ => before_filter c.world.posted EventPtr.deferrable earlier later first second posted, ?_⟩
    intro r member called arrived
    obtain ⟨r, original, rfl⟩ := List.mem_map.mp member
    exact overtaken r original called (List.mem_filter.mp arrived).1
  · refine (run_holds platform (fun c => c.world.cameraConfig = lastSet c.world.executed) outside downloadDir rfl ?_ ?_
      inputs c run).2
    · exact fun _ _ _ current => current
    · exact fun c next ev rest _ current _ _ reaction => reaction_config platform _ _ ev _ next.world reaction current

end Lines

def inTurn : List Input :=
  [.post .connect, .handle, .handle, .post .captureWired, .post (.setConfig { iso := 100 }),
    .post (.setConfig { iso := 200 }), .handle, .handle, .handle, .handle, .handle, .handle]

theorem set_in_turn : ∃ c, Run (ControllerStep working) (started 0 "/photos") inTurn c ∧ InOrder c ∧
    Before c.world.executed (setTo 11 100) (setTo 12 200) ∧ c.world.cameraConfig.iso = 200 := by
  obtain ⟨c, run, seen⟩ := advance_all_observed working (fun c => (c.world.posted, c.world.executed, c.world.reposts))
    (started 0 "/photos") inTurn
    ([Command.connect.toEvent 0, Command.captureWired.toEvent 10, setTo 11 100, setTo 12 200],
      [Command.captureWired.toEvent 10, setTo 11 100, setTo 12 200],
      [⟨setTo 11 100, [Command.connect.toEvent 0, Command.captureWired.toEvent 10, setTo 11 100, setTo 12 200],
          [setTo 11 100, setTo 12 200]⟩,
        ⟨setTo 12 200, [Command.connect.toEvent 0, Command.captureWired.toEvent 10, setTo 11 100, setTo 12 200],
          [setTo 11 100, setTo 12 200]⟩])
    (by decide +kernel)
  obtain ⟨posted, executed, reposts⟩ : c.world.posted = _ ∧ c.world.executed = _ ∧ c.world.reposts = _ := by
    simpa only [Prod.mk.injEq] using seen
  have ordered := executed_in_order working 0 "/photos" inTurn c run
  refine ⟨c, run, ordered, ?_, ?_⟩
  · apply ordered.executed (setTo 11 100) (setTo 12 200) rfl rfl
    · rw [posted]
      unfold Before
      decide
    · unfold NotOvertaken
      rw [reposts]
      decide
    · rw [executed]
      decide
    · rw [executed]
      decide
  · rw [ordered.config, executed]
    rfl

theorem deferred_overtaken : ¬ ∀ (inputs : List Input) (c : Config Nat Unit),
    Run (ControllerStep working) (started 0 "/photos") inputs c → ∀ earlier later, earlier.deferrable = true →
      later.deferrable = true → Before c.world.posted earlier later → earlier ∈ c.world.executed →
      later ∈ c.world.executed → Before c.world.executed earlier later := by
  intro claimed
  obtain ⟨c, run, posted, executed, _⟩ := overtaking_run
  have order := claimed overtaking c run (setTo 11 100) (setTo 13 200) rfl rfl
  rw [posted, executed] at order
  unfold Before at order
  exact absurd (order (by decide) (by decide) (by decide)) (by decide)

end Controller

end CameraController
