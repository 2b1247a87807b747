import CameraController.ControllerDispatch
import CameraController.Lib.Transition
import CameraController.WrapperHandles

set_option autoImplicit false

namespace CameraController

open Effects Transition

namespace Controller

-- The controller between two events. dropped lists the deferrable commands
-- that were taken from the queue in a state outside stateConnected.
structure Config (C F : Type) where
  this : Registers ControllerState
  world : World C F
  dropped : List EventPtr

-- What happens next: another thread puts a command in the queue, or the
-- controller's thread takes the head of the queue and handles it.
inductive Input where
  | post (command : Command)
  | handle
deriving DecidableEq, Repr

def createdWorld {C F : Type} (outside : C) (downloadDir : String) : World C F where
  camera := constructed outside
  eventList := []
  deferredEvents := .fresh
  cameraConfig := {}
  toDownload := ⟨"", ""⟩
  downloadDir := downloadDir
  reconnectAttempts := 0
  nextId := 0
  published := []
  posted := []
  executed := []
  overwritten := []
  reposts := []

def started {C F : Type} (outside : C) (downloadDir : String) : Config C F where
  this := { state := .stateDisconnected, temp := .stateDisconnected }
  world := createdWorld outside downloadDir
  dropped := []

-- The commands that stateDisconnected, stateConnecting and stateError ignore.
def drops (state : ControllerState) (ev : EventPtr) : List EventPtr :=
  match state with
  | .stateDisconnected => if ev.deferrable then [ev] else []
  | .stateConnecting => if ev.deferrable then [ev] else []
  | .stateError => if ev.deferrable then [ev] else []
  | _ => []

-- Enough turns for the loops of handleEvent on a tree of two levels.
def turns : Nat := 6

def World.dequeued {C F : Type} (world : World C F) (rest : List EventPtr) : World C F :=
  { world with eventList := rest }

section Running

variable {C F : Type} (platform : Platform C F)

-- An exception or a fault in handleEvent ends the program, so there is no step.
inductive ControllerStep : Config C F → Input → Config C F → Prop where
  | post (c : Config C F) (command : Command) : ControllerStep c (.post command) { c with world := arrive c.world command }
  | handle (c : Config C F) (ev : EventPtr) (rest : List EventPtr) (this : Registers ControllerState) (after : World C F)
      (head : c.world.eventList = ev :: rest)
      (run : (machine platform).handleEvent turns (.signal ev) c.this (World.dequeued c.world rest) = .ok this after) :
      ControllerStep c .handle { this := this, world := after, dropped := c.dropped ++ drops c.this.state ev }

theorem starts (outside : C) (downloadDir : String) :
    (machine platform).init 2 { state := .hsmTop, temp := .stateInit } (createdWorld outside downloadDir) =
      .ok (started outside downloadDir : Config C F).this (started outside downloadDir : Config C F).world :=
  init_disconnected platform _

def advance (c : Config C F) : Input → Option (Config C F)
  | .post command => some { c with world := arrive c.world command }
  | .handle =>
      match c.world.eventList with
      | [] => none
      | ev :: rest =>
          match (machine platform).handleEvent turns (.signal ev) c.this (World.dequeued c.world rest) with
          | .ok this after => some { this := this, world := after, dropped := c.dropped ++ drops c.this.state ev }
          | _ => none

def advanceAll (check : Config C F → Input → Config C F → Bool) (c : Config C F) : List Input → Option (Config C F)
  | [] => some c
  | input :: inputs =>
      match advance platform c input with
      | some next => if check c input next then advanceAll check next inputs else none
      | none => none

theorem advance_step (c next : Config C F) (input : Input) (run : advance platform c input = some next) :
    ControllerStep platform c input next := by
  cases input with
  | post command =>
      cases run
      exact .post c command
  | handle =>
      rw [advance] at run
      cases queue : c.world.eventList with
      | nil => rw [queue] at run; cases run
      | cons ev rest =>
          rw [queue] at run
          dsimp only at run
          cases handled : (machine platform).handleEvent turns (.signal ev) c.this (World.dequeued c.world rest) with
          | ok this after =>
              rw [handled] at run
              cases run
              exact .handle c ev rest this after queue handled
          | threw error after => rw [handled] at run; cases run
          | fault cause => rw [handled] at run; cases run

theorem advance_all_run (check : Config C F → Input → Config C F → Bool) (condition : Config C F → Input → Config C F → Prop)
    (sound : ∀ c input next, check c input next = true → condition c input next) (c last : Config C F) (inputs : List Input)
    (run : advanceAll platform check c inputs = some last) :
    Run (Meeting (ControllerStep platform) condition) c inputs last := by
  induction inputs generalizing c with
  | nil => cases run; exact .done _
  | cons input inputs ih =>
      rw [advanceAll] at run
      cases first : advance platform c input with
      | none => rw [first] at run; cases run
      | some next =>
          rw [first] at run
          dsimp only at run
          cases checked : check c input next with
          | true =>
              rw [checked, if_pos rfl] at run
              exact .next c next last input inputs
                ⟨advance_step platform c next input first, sound c input next checked⟩ (ih next run)
          | false => rw [checked] at run; cases run

theorem advance_all_observed {A : Type} (observe : Config C F → A) (c : Config C F) (inputs : List Input) (seen : A)
    (run : (advanceAll platform (fun _ _ _ => true) c inputs).map observe = some seen) :
    ∃ last, Run (ControllerStep platform) c inputs last ∧ observe last = seen := by
  obtain ⟨last, ended, observed⟩ := Option.map_eq_some_iff.mp run
  have met := advance_all_run platform _ (fun _ _ _ => True) (fun _ _ _ _ => trivial) c last inputs ended
  exact ⟨last, run_mono _ _ (fun _ _ _ step => step.1) _ _ _ met, observed⟩

def advanceNoted {H : Type} (check : Config C F → Input → Config C F → Bool) (note : H → Config C F → Input → Config C F → H)
    (c : Config C F) (noted : H) : List Input → Option (Config C F × H)
  | [] => some (c, noted)
  | input :: inputs =>
      match advance platform c input with
      | some next => if check c input next then advanceNoted check note next (note noted c input next) inputs else none
      | none => none

theorem advance_noted_run {H : Type} (check : Config C F → Input → Config C F → Bool)
    (condition : Config C F → Input → Config C F → Prop)
    (sound : ∀ c input next, check c input next = true → condition c input next)
    (note : H → Config C F → Input → Config C F → H) (c : Config C F) (noted : H) (last : Config C F × H) (inputs : List Input)
    (run : advanceNoted platform check note c noted inputs = some last) :
    Run (Watching (Meeting (ControllerStep platform) condition) note) (c, noted) inputs last := by
  induction inputs generalizing c noted with
  | nil => cases run; exact .done _
  | cons input inputs ih =>
      rw [advanceNoted] at run
      cases first : advance platform c input with
      | none => rw [first] at run; cases run
      | some next =>
          rw [first] at run
          dsimp only at run
          cases checked : check c input next with
          | true =>
              rw [checked, if_pos rfl] at run
              exact .next _ (next, note noted c input next) _ input inputs
                ⟨⟨advance_step platform c next input first, sound c input next checked⟩, rfl⟩ (ih next _ run)
          | false => rw [checked] at run; cases run

end Running

section Inversion

variable {C F : Type} (platform : Platform C F)

def executing (world : World C F) (ev : EventPtr) : World C F := { world with executed := world.executed ++ [ev] }

def apart (state : ControllerState) : Bool :=
  match state with
  | .stateDisconnected => true
  | .stateConnecting => true
  | .stateError => true
  | _ => false

def busy (state : ControllerState) : Bool :=
  match state with
  | .stateCaptureWired => true
  | .stateDownloading => true
  | _ => false

def joined (state : ControllerState) : Bool := state == .stateIdle || busy state

def finishes (state : ControllerState) (ev : EventPtr) : Bool :=
  match state with
  | .stateCaptureWired => ev.sig == .evCameraCaptureSuccess
  | .stateDownloading => ev.sig == .evCameraDownloadSuccess || ev.sig == .evCameraDownloadError
  | _ => false

def critical (ev : EventPtr) : Bool :=
  match ev.payload with
  | .cameraErrorEvent errorcode => ev.sig == .evCameraGenericError && criticalError errorcode
  | _ => false

def breaks (state : ControllerState) (ev : EventPtr) : Bool :=
  critical ev || state == .stateCaptureWired && ev.sig == .evCameraCaptureError

theorem critical_named (ev : EventPtr) (fatal : critical ev = true) :
    ev.sig = .evCameraGenericError ∧ ∃ errorcode, ev.payload = .cameraErrorEvent errorcode ∧ criticalError errorcode = true := by
  obtain ⟨id, sig, payload⟩ := ev
  cases payload with
  | cameraErrorEvent errorcode =>
      obtain ⟨named, isCritical⟩ := Bool.and_eq_true_iff.mp fatal
      exact ⟨beq_iff_eq.mp named, errorcode, rfl, isCritical⟩
  | _ => cases fatal

theorem breaks_named (S : ControllerState) (ev : EventPtr) (broken : breaks S ev = true) :
    ev.sig = .evCameraGenericError ∨ ev.sig = .evCameraCaptureError := by
  cases Bool.or_eq_true_iff.mp broken with
  | inl fatal => exact .inl (critical_named ev fatal).1
  | inr failed => exact .inr (beq_iff_eq.mp (Bool.and_eq_true_iff.mp failed).2)

theorem finishes_named (S : ControllerState) (ev : EventPtr) (ended : finishes S ev = true) :
    ev.sig = .evCameraCaptureSuccess ∨ ev.sig = .evCameraDownloadSuccess ∨ ev.sig = .evCameraDownloadError := by
  cases S with
  | stateCaptureWired => exact .inl (beq_iff_eq.mp ended)
  | stateDownloading => exact .inr ((Bool.or_eq_true_iff.mp ended).imp beq_iff_eq.mp beq_iff_eq.mp)
  | _ => cases ended

def exits (state : ControllerState) (ev : EventPtr) : Bool :=
  match state with
  | .stateDisconnected => ev.sig == .evCameraConnect
  | .stateConnecting => ev.sig == .evCameraConnected || ev.sig == .evCameraConnectionError
  | .stateError => ev.sig == .evCameraConnect
  | .stateIdle => ev.sig == .evCameraCaptureWired || ev.sig == .evCameraDownload || ev.sig == .evCameraDisconnect ||
      breaks .stateIdle ev
  | state => finishes state ev || breaks state ev

-- Everything that handling ev in a resting state can do, from the world
-- without ev to the state and the world after it.
inductive Reaction : ControllerState → EventPtr → World C F → ControllerState → World C F → Prop where
  | ignores (S : ControllerState) (ev : EventPtr) (w : World C F) (kept : apart S = true ∨ ev.deferrable = false)
      (stays : exits S ev = false) : Reaction S ev w S w
  | connects (S : ControllerState) (ev : EventPtr) (w after : World C F) (start : S = .stateDisconnected ∨ S = .stateError)
      (named : ev.sig = .evCameraConnect) (run : connect platform w = .ok () after) : Reaction S ev w .stateConnecting after
  | refused (ev : EventPtr) (w after : World C F) (named : ev.sig = .evCameraConnectionError)
      (run : disconnect platform w = .ok () after) : Reaction .stateConnecting ev w .stateError after
  | established (ev : EventPtr) (w ready set after : World C F) (named : ev.sig = .evCameraConnected)
      (setUp : (do setConfig platform; readStatus platform; readOptions platform) w = .ok () ready)
      (attempts : set = { ready with reconnectAttempts := maxReconnectAttemps })
      (run : enterIdle platform set = .ok () after) : Reaction .stateConnecting ev w .stateIdle after
  | fails (S : ControllerState) (ev : EventPtr) (w after : World C F) (substate : joined S = true)
      (broken : breaks S ev = true) (run : disconnect platform w = .ok () after) : Reaction S ev w .stateError after
  | defers (S : ControllerState) (ev : EventPtr) (w after : World C F) (occupied : busy S = true)
      (command : ev.deferrable = true) (run : deferEvent ev w = .ok () after) : Reaction S ev w S after
  | configures (ev : EventPtr) (w after : World C F) (config : CameraConfig) (named : ev.sig = .evCameraSetConfig)
      (carries : ev.payload = .cameraConfigEvent config)
      (run : (do setConfig platform; readStatus platform) { executing w ev with cameraConfig := config } = .ok () after) :
      Reaction .stateIdle ev w .stateIdle after
  | reports (ev : EventPtr) (w after : World C F) (named : ev.sig = .evCameraGetStatus)
      (run : readStatus platform (executing w ev) = .ok () after) : Reaction .stateIdle ev w .stateIdle after
  | lists (ev : EventPtr) (w after : World C F) (named : ev.sig = .evCameraGetOptions)
      (run : readOptions platform (executing w ev) = .ok () after) : Reaction .stateIdle ev w .stateIdle after
  | captures (ev : EventPtr) (w after : World C F) (named : ev.sig = .evCameraCaptureWired)
      (run : enterCaptureWired platform (executing w ev) = .ok () after) : Reaction .stateIdle ev w .stateCaptureWired after
  | downloads (ev : EventPtr) (w after : World C F) (cameraPath : CameraPath) (named : ev.sig = .evCameraDownload)
      (carries : ev.payload = .cameraDownloadEvent cameraPath)
      (run : enterDownloading platform { executing w ev with toDownload := cameraPath } = .ok () after) :
      Reaction .stateIdle ev w .stateDownloading after
  | leaves (ev : EventPtr) (w : World C F) (named : ev.sig = .evCameraDisconnect) :
      Reaction .stateIdle ev w .stateDisconnected w
  | completes (S : ControllerState) (ev : EventPtr) (w after : World C F) (ended : finishes S ev = true)
      (run : enterIdle platform w = .ok () after) : Reaction S ev w .stateIdle after

theorem go_to_ok (state next : ControllerState) (w after : World C F) (run : goTo platform state w = .ok next after) :
    next = state ∧ enter platform state w = .ok () after := by
  obtain ⟨_, middle, entered, ended⟩ := Prog.bind_eq_ok _ _ _ _ _ run
  cases ended
  exact ⟨rfl, entered⟩

theorem exits_generic (S : ControllerState) (ev : EventPtr) (substate : joined S = true)
    (named : ev.sig = .evCameraGenericError) : exits S ev = critical ev := by
  obtain ⟨id, sig, payload⟩ := ev
  cases named
  cases S with
  | stateIdle => exact Bool.or_false _
  | stateCaptureWired => exact Bool.or_false _
  | stateDownloading => exact Bool.or_false _
  | hsmTop => cases substate
  | stateInit => cases substate
  | stateDisconnected => cases substate
  | stateConnecting => cases substate
  | stateError => cases substate
  | stateConnected => cases substate

theorem in_connected_reaction (S next : ControllerState) (ev : EventPtr) (w after : World C F) (substate : joined S = true)
    (passed : ev.deferrable = false → ev.sig ≠ .evCameraGenericError → exits S ev = false)
    (deferred : ev.deferrable = true → busy S = true)
    (run : inConnected platform S ev w = .ok next after) : Reaction platform S ev w next after := by
  obtain ⟨id, sig, payload⟩ := ev
  cases sig with
  | evCameraGenericError =>
      obtain ⟨errorcode, middle, cast, rest⟩ := Prog.bind_eq_ok _ _ _ _ _ run
      have exit := exits_generic S ⟨id, .evCameraGenericError, payload⟩ substate rfl
      cases payload with
      | cameraErrorEvent code =>
          obtain rfl : code = errorcode := by cases cast; rfl
          obtain rfl : w = middle := by cases cast; rfl
          by_cases isCritical : criticalError code = true
          · rw [if_pos isCritical] at rest
            obtain ⟨rfl, entered⟩ := go_to_ok platform _ _ _ _ rest
            exact .fails S _ w after substate (by simp [breaks, critical, isCritical]) entered
          · rw [if_neg isCritical] at rest
            cases rest
            exact .ignores _ _ _ (.inr rfl) (exit.trans (by simp [critical, isCritical]))
      | _ => cases cast
  | evCameraSetConfig => cases run; exact .defers _ _ _ _ (deferred rfl) rfl rfl
  | evCameraGetStatus => cases run; exact .defers _ _ _ _ (deferred rfl) rfl rfl
  | evCameraGetOptions => cases run; exact .defers _ _ _ _ (deferred rfl) rfl rfl
  | evCameraCaptureWired => cases run; exact .defers _ _ _ _ (deferred rfl) rfl rfl
  | evCameraDownload => cases run; exact .defers _ _ _ _ (deferred rfl) rfl rfl
  | _ => cases run; exact .ignores _ _ _ (.inr rfl) (passed rfl CcEvent.noConfusion)

theorem idle_reaction (next : ControllerState) (ev : EventPtr) (w after : World C F)
    (run : react platform .stateIdle ev w = .ok next after) : Reaction platform .stateIdle ev w next after := by
  obtain ⟨id, sig, payload⟩ := ev
  have passes : react platform .stateIdle ⟨id, sig, payload⟩ w = inConnected platform .stateIdle ⟨id, sig, payload⟩ w →
      (EventPtr.mk id sig payload).deferrable = false →
      (sig ≠ .evCameraGenericError → exits .stateIdle ⟨id, sig, payload⟩ = false) →
      Reaction platform .stateIdle ⟨id, sig, payload⟩ w next after := by
    intro same plain stays
    rw [same] at run
    exact in_connected_reaction platform _ next _ w after rfl (fun _ => stays)
      (fun command => absurd (command.symm.trans plain) Bool.noConfusion) run
  cases sig with
  | evCameraSetConfig =>
      cases payload with
      | cameraConfigEvent config =>
          obtain ⟨_, first, set, run⟩ := Prog.bind_eq_ok (setConfig platform) _ _ _ _ run
          obtain ⟨_, second, read, run⟩ := Prog.bind_eq_ok (readStatus platform) _ _ _ _ run
          cases run
          exact .configures _ w after config rfl rfl ((Prog.bind_ok _ _ _ _ _ set).trans read)
      | _ => cases run
  | evCameraGetStatus =>
      obtain ⟨_, middle, read, run⟩ := Prog.bind_eq_ok (readStatus platform) _ _ _ _ run
      cases run
      exact .reports _ w after rfl read
  | evCameraGetOptions =>
      obtain ⟨_, middle, read, run⟩ := Prog.bind_eq_ok (readOptions platform) _ _ _ _ run
      cases run
      exact .lists _ w after rfl read
  | evCameraCaptureWired =>
      obtain ⟨rfl, entered⟩ := go_to_ok platform .stateCaptureWired _ _ _ run
      exact .captures _ w after rfl entered
  | evCameraDownload =>
      cases payload with
      | cameraDownloadEvent cameraPath =>
          obtain ⟨rfl, entered⟩ := go_to_ok platform .stateDownloading _ _ _ run
          exact .downloads _ w after cameraPath rfl rfl entered
      | _ => cases run
  | evCameraDisconnect =>
      cases run
      exact .leaves _ w rfl
  | evCameraGenericError => exact passes rfl rfl (fun other => absurd rfl other)
  | _ => exact passes rfl rfl (fun _ => by cases payload <;> rfl)

theorem capture_wired_reaction (next : ControllerState) (ev : EventPtr) (w after : World C F)
    (run : react platform .stateCaptureWired ev w = .ok next after) : Reaction platform .stateCaptureWired ev w next after := by
  obtain ⟨id, sig, payload⟩ := ev
  have passes : react platform .stateCaptureWired ⟨id, sig, payload⟩ w = inConnected platform .stateCaptureWired ⟨id, sig, payload⟩ w →
      (sig ≠ .evCameraGenericError → exits .stateCaptureWired ⟨id, sig, payload⟩ = false) →
      Reaction platform .stateCaptureWired ⟨id, sig, payload⟩ w next after := by
    intro same stays
    rw [same] at run
    exact in_connected_reaction platform _ next _ w after rfl (fun _ => stays) (fun _ => rfl) run
  cases sig with
  | evCameraCaptureError =>
      obtain ⟨rfl, entered⟩ := go_to_ok platform .stateError _ _ _ run
      exact .fails _ _ w after rfl (by simp [breaks]) entered
  | evCameraCaptureSuccess =>
      obtain ⟨_, middle, cast, run⟩ := Prog.bind_eq_ok _ _ _ _ _ run
      obtain ⟨rfl, entered⟩ := go_to_ok platform .stateIdle _ _ _ run
      cases payload with
      | cameraCaptureSuccessEvent path =>
          cases cast
          exact .completes _ _ w after rfl entered
      | _ => cases cast
  | evCameraGenericError => exact passes rfl (fun other => absurd rfl other)
  | _ => exact passes rfl (fun _ => by cases payload <;> rfl)

theorem downloading_reaction (next : ControllerState) (ev : EventPtr) (w after : World C F)
    (run : react platform .stateDownloading ev w = .ok next after) : Reaction platform .stateDownloading ev w next after := by
  obtain ⟨id, sig, payload⟩ := ev
  have passes : react platform .stateDownloading ⟨id, sig, payload⟩ w = inConnected platform .stateDownloading ⟨id, sig, payload⟩ w →
      (sig ≠ .evCameraGenericError → exits .stateDownloading ⟨id, sig, payload⟩ = false) →
      Reaction platform .stateDownloading ⟨id, sig, payload⟩ w next after := by
    intro same stays
    rw [same] at run
    exact in_connected_reaction platform _ next _ w after rfl (fun _ => stays) (fun _ => rfl) run
  cases sig with
  | evCameraDownloadError =>
      obtain ⟨rfl, entered⟩ := go_to_ok platform .stateIdle _ _ _ run
      exact .completes _ _ w after rfl entered
  | evCameraDownloadSuccess =>
      obtain ⟨rfl, entered⟩ := go_to_ok platform .stateIdle _ _ _ run
      exact .completes _ _ w after rfl entered
  | evCameraGenericError => exact passes rfl (fun other => absurd rfl other)
  | _ => exact passes rfl (fun _ => by cases payload <;> rfl)

theorem connecting_reaction (next : ControllerState) (ev : EventPtr) (w after : World C F)
    (run : react platform .stateConnecting ev w = .ok next after) : Reaction platform .stateConnecting ev w next after := by
  obtain ⟨id, sig, payload⟩ := ev
  cases sig with
  | evCameraConnectionError =>
      obtain ⟨rfl, entered⟩ := go_to_ok platform .stateError _ _ _ run
      exact .refused _ w after rfl entered
  | evCameraGenericError =>
      obtain ⟨_, middle, cast, run⟩ := Prog.bind_eq_ok _ _ _ _ _ run
      cases payload with
      | cameraErrorEvent errorcode =>
          cases cast
          cases run
          exact .ignores _ _ _ (.inl rfl) rfl
      | _ => cases cast
  | evCameraConnected =>
      obtain ⟨_, configured, set, run⟩ := Prog.bind_eq_ok (setConfig platform) _ _ _ _ run
      obtain ⟨_, reported, read, run⟩ := Prog.bind_eq_ok (readStatus platform) _ _ _ _ run
      obtain ⟨_, ready, listed, run⟩ := Prog.bind_eq_ok (readOptions platform) _ _ _ _ run
      obtain ⟨rfl, entered⟩ := go_to_ok platform .stateIdle _ _ _ run
      exact .established _ w ready _ after rfl
        ((Prog.bind_ok _ _ _ _ _ set).trans ((Prog.bind_ok _ _ _ _ _ read).trans listed)) rfl entered
  | _ => cases run; exact .ignores _ _ _ (.inl rfl) rfl

theorem waiting_reaction (S next : ControllerState) (start : S = .stateDisconnected ∨ S = .stateError) (ev : EventPtr)
    (w after : World C F) (run : react platform S ev w = .ok next after) : Reaction platform S ev w next after := by
  obtain ⟨id, sig, payload⟩ := ev
  cases start with
  | inl same =>
      subst same
      cases sig with
      | evCameraConnect =>
          obtain ⟨rfl, entered⟩ := go_to_ok platform .stateConnecting _ _ _ run
          exact .connects _ _ w after (.inl rfl) rfl entered
      | _ => cases run; exact .ignores _ _ _ (.inl rfl) rfl
  | inr same =>
      subst same
      cases sig with
      | evCameraConnect =>
          obtain ⟨rfl, entered⟩ := go_to_ok platform .stateConnecting _ _ _ run
          exact .connects _ _ w after (.inr rfl) rfl entered
      | _ => cases run; exact .ignores _ _ _ (.inl rfl) rfl

theorem react_reaction (S next : ControllerState) (rests : resting S = true) (ev : EventPtr) (w after : World C F)
    (run : react platform S ev w = .ok next after) : Reaction platform S ev w next after := by
  cases S with
  | stateDisconnected => exact waiting_reaction platform _ next (.inl rfl) ev w after run
  | stateConnecting => exact connecting_reaction platform next ev w after run
  | stateError => exact waiting_reaction platform _ next (.inr rfl) ev w after run
  | stateIdle => exact idle_reaction platform next ev w after run
  | stateCaptureWired => exact capture_wired_reaction platform next ev w after run
  | stateDownloading => exact downloading_reaction platform next ev w after run
  | hsmTop => cases rests
  | stateInit => cases rests
  | stateConnected => cases rests

theorem reaction_resting (S next : ControllerState) (rests : resting S = true) (ev : EventPtr) (w after : World C F)
    (reaction : Reaction platform S ev w next after) : resting next = true := by
  cases reaction <;> first | exact rests | rfl

-- Both registers hold the state the machine rests in.
structure Settled (c : Config C F) : Prop where
  registers : c.this.temp = c.this.state
  rests : resting c.this.state = true

theorem started_settled (outside : C) (downloadDir : String) : Settled (started outside downloadDir : Config C F) :=
  ⟨rfl, rfl⟩

theorem handle_event_reaction (this : Registers ControllerState) (S : ControllerState) (rests : resting S = true)
    (ev : EventPtr) (w after : World C F)
    (run : (machine platform).handleEvent turns (.signal ev) { state := S, temp := S } w = .ok this after) :
    this.temp = this.state ∧ Reaction platform S ev w this.state after := by
  rw [handle_event_react platform S rests turns (Nat.le_refl 6) ev] at run
  obtain ⟨next, middle, reacted, ended⟩ := Prog.bind_eq_ok _ _ _ _ _ run
  cases ended
  exact ⟨rfl, react_reaction platform S next rests ev w after reacted⟩

theorem step_cases (c next : Config C F) (input : Input) (settled : Settled c) (step : ControllerStep platform c input next) :
    Settled next ∧ ((∃ command, input = .post command ∧ next = { c with world := arrive c.world command }) ∨
      ∃ ev rest, input = .handle ∧ c.world.eventList = ev :: rest ∧
        next.dropped = c.dropped ++ drops c.this.state ev ∧
        Reaction platform c.this.state ev (World.dequeued c.world rest) next.this.state next.world) := by
  cases step with
  | post command => exact ⟨⟨settled.registers, settled.rests⟩, .inl ⟨command, rfl, rfl⟩⟩
  | handle ev rest this after head run =>
      obtain ⟨⟨state, temp⟩, world, dropped⟩ := c
      obtain rfl : temp = state := settled.registers
      obtain ⟨same, reaction⟩ := handle_event_reaction platform this temp settled.rests ev _ after run
      exact ⟨⟨same, reaction_resting platform _ _ settled.rests ev _ _ reaction⟩,
        .inr ⟨ev, rest, rfl, head, rfl, reaction⟩⟩

theorem run_keeps (condition : Config C F → Input → Config C F → Prop) (I : Config C F → Prop) (outside : C)
    (downloadDir : String) (initial : I (started outside downloadDir))
    (posted : ∀ c command, Settled c → I c → I { c with world := arrive c.world command })
    (handled : ∀ c next ev rest, Settled c → I c → condition c .handle next → c.world.eventList = ev :: rest →
      next.dropped = c.dropped ++ drops c.this.state ev →
      Reaction platform c.this.state ev (World.dequeued c.world rest) next.this.state next.world → I next)
    (inputs : List Input) (last : Config C F)
    (run : Run (Meeting (ControllerStep platform) condition) (started outside downloadDir) inputs last) :
    Settled last ∧ I last := by
  apply run_invariant (Meeting (ControllerStep platform) condition) (fun c => Settled c ∧ I c) _ _ _ _
    ⟨started_settled outside downloadDir, initial⟩ run
  rintro c input next ⟨settled, holds⟩ ⟨step, meets⟩
  obtain ⟨after, cases⟩ := step_cases platform c next input settled step
  refine ⟨after, ?_⟩
  cases cases with
  | inl post =>
      obtain ⟨command, rfl, rfl⟩ := post
      exact posted c command settled holds
  | inr handle =>
      obtain ⟨ev, rest, rfl, head, dropped, reaction⟩ := handle
      exact handled c next ev rest settled holds meets head dropped reaction

theorem run_holds (I : Config C F → Prop) (outside : C) (downloadDir : String) (initial : I (started outside downloadDir))
    (posted : ∀ c command, Settled c → I c → I { c with world := arrive c.world command })
    (handled : ∀ c next ev rest, Settled c → I c → c.world.eventList = ev :: rest →
      next.dropped = c.dropped ++ drops c.this.state ev →
      Reaction platform c.this.state ev (World.dequeued c.world rest) next.this.state next.world → I next)
    (inputs : List Input) (last : Config C F)
    (run : Run (ControllerStep platform) (started outside downloadDir) inputs last) : Settled last ∧ I last :=
  run_keeps platform (fun _ _ _ => True) I outside downloadDir initial posted
    (fun c next ev rest settled holds _ => handled c next ev rest settled holds) inputs last
    (run_mono _ _ (fun _ _ _ step => ⟨step, trivial⟩) _ _ _ run)

end Inversion

-- A camera that works, but for the answers given by fault. Its reads of the
-- serial number are counted, and read says how each of them goes.
def attached (read : Nat → Int) (fault : (c : Call) → Option (c.Ret Unit)) : Platform Nat Unit where
  answer := fun c reads =>
    let usual := (fault c).getD ((cameraAnswering gpOk).answer c ()).1
    match c, usual with
    | .gpCameraGetSingleConfig _ name, usual =>
        if name = configSerialNumber then (read reads, reads + 1) else (usual, reads)
    | .gpWidgetGetType widget, usual =>
        if widget.configName = configFocalLenght then ((gpOk, .gpWidgetRange), reads) else (usual, reads)
    | _, usual => (usual, reads)
  arrivals := fun reads => ([], reads)
  stof := fun _ => .ok ()
  ofInt := fun _ => ()
  mul := fun _ _ => ()
  div := fun _ _ => ()
  toInt := fun _ => 0
  fixed := fun _ _ => "0"
  general := fun _ => "0"

def working : Platform Nat Unit := attached (fun _ => gpOk) (fun _ => none)

end Controller

end CameraController
