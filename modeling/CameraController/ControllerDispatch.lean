import CameraController.Controller
import CameraController.HsmDispatch

set_option autoImplicit false

namespace CameraController

open Effects Rooted

namespace Controller

-- The states below Hsm_top. stateInit only starts the machine.
def hierarchy : Hierarchy ControllerState where
  top := .hsmTop
  parent := fun state =>
    match state with
    | .stateIdle => .stateConnected
    | .stateCaptureWired => .stateConnected
    | .stateDownloading => .stateConnected
    | _ => .hsmTop
  depth := fun state =>
    match state with
    | .hsmTop => 0
    | .stateIdle => 2
    | .stateCaptureWired => 2
    | .stateDownloading => 2
    | _ => 1
  levels := 2
  member := fun state => state ≠ .stateInit
  top_member := by decide
  top_depth := rfl
  parent_member := by
    intro state _ _
    cases state <;> decide
  parent_depth := by
    intro state node proper
    cases state <;> first | rfl | exact absurd rfl node | exact absurd rfl proper
  depth_levels := by
    intro state _
    cases state <;> decide

section Answers

variable {C F A : Type} (platform : Platform C F)

def Replies (allowed : Reply ControllerState → Prop) (p : Prog (World C F) Exn (Reply ControllerState)) : Prop :=
  ∀ world after reply, p world = .ok reply after → allowed reply

variable (allowed : Reply ControllerState → Prop)

theorem replies_pure (reply : Reply ControllerState) (allows : allowed reply) :
    Replies allowed (pure reply : Prog (World C F) Exn (Reply ControllerState)) := by
  intro world after same run
  cases run
  exact allows

theorem replies_bind (first : Prog (World C F) Exn A) (next : A → Prog (World C F) Exn (Reply ControllerState))
    (replies : ∀ value, Replies allowed (next value)) : Replies allowed (first >>= next) := by
  intro world after reply run
  obtain ⟨value, middle, _, rest⟩ := Prog.bind_eq_ok _ _ _ _ _ run
  exact replies value middle after reply rest

end Answers

section Table

variable {C F : Type} (platform : Platform C F)

def allowed (state : ControllerState) : Reply ControllerState → Bool
  | .transition t => t != .stateInit && t != .hsmTop
  | .tranSuper p => p == hierarchy.parent state
  | _ => true

abbrev Obeys (state : ControllerState) (p : Prog (World C F) Exn (Reply ControllerState)) : Prop :=
  Replies (fun reply => allowed state reply = true) p

theorem disconnected_obeys (ev : EventPtr) : Obeys .stateDisconnected (stateDisconnected (C := C) (F := F) (.signal ev)) := by
  unfold stateDisconnected
  dsimp only
  split <;> exact replies_pure _ _ rfl

theorem connecting_obeys (ev : EventPtr) : Obeys .stateConnecting (stateConnecting platform (.signal ev)) := by
  unfold stateConnecting
  dsimp only
  split
  · exact replies_pure _ _ rfl
  · exact replies_bind _ _ _ (fun _ => replies_pure _ _ rfl)
  · exact replies_bind _ _ _ (fun _ => replies_bind _ _ _ (fun _ => replies_bind _ _ _ (fun _ =>
      replies_pure _ _ rfl)))
  · exact replies_pure _ _ rfl

theorem error_obeys (ev : EventPtr) : Obeys .stateError (stateError platform (.signal ev)) := by
  unfold stateError
  dsimp only
  split <;> exact replies_pure _ _ rfl

theorem connected_obeys (ev : EventPtr) : Obeys .stateConnected (stateConnected (C := C) (F := F) (.signal ev)) := by
  unfold stateConnected
  dsimp only
  split
  · apply replies_bind
    intro code
    split <;> exact replies_pure _ _ rfl
  all_goals first | exact replies_pure _ _ rfl | exact replies_bind _ _ _ (fun _ => replies_pure _ _ rfl)

theorem idle_obeys (ev : EventPtr) : Obeys .stateIdle (stateIdle platform (.signal ev)) := by
  unfold stateIdle
  dsimp only
  split
  all_goals repeat first | exact replies_pure _ _ rfl | (apply replies_bind; intro _)

theorem capture_wired_obeys (ev : EventPtr) : Obeys .stateCaptureWired (stateCaptureWired platform (.signal ev)) := by
  unfold stateCaptureWired
  dsimp only
  split
  · exact replies_pure _ _ rfl
  · exact replies_bind _ _ _ (fun _ => replies_pure _ _ rfl)
  · exact replies_pure _ _ rfl

theorem downloading_obeys (ev : EventPtr) : Obeys .stateDownloading (stateDownloading platform (.signal ev)) := by
  unfold stateDownloading
  dsimp only
  split <;> exact replies_pure _ _ rfl

theorem machine_obeys (state : ControllerState) (node : hierarchy.member state) (proper : state ≠ hierarchy.top)
    (ev : EventPtr) : Obeys state ((machine platform).handler state (.signal ev)) := by
  cases state with
  | hsmTop => exact absurd rfl proper
  | stateInit => exact absurd rfl node
  | stateDisconnected => exact disconnected_obeys ev
  | stateConnecting => exact connecting_obeys platform ev
  | stateError => exact error_obeys platform ev
  | stateConnected => exact connected_obeys ev
  | stateIdle => exact idle_obeys platform ev
  | stateCaptureWired => exact capture_wired_obeys platform ev
  | stateDownloading => exact downloading_obeys platform ev

theorem machine_contract : HsmClass.Contract (machine platform) hierarchy where
  top := rfl
  onEmpty := by
    intro state node proper
    cases state <;> first | rfl | exact absurd rfl node | exact absurd rfl proper
  onExit := by
    intro state node proper world after reply answer
    cases state <;> first | exact absurd rfl node | exact absurd rfl proper | (cases answer; exact .inl rfl)
  onInit := by
    intro state node proper world after d answer
    cases state <;> first | exact absurd rfl node | exact absurd rfl proper | 
      (cases answer; exact ⟨ControllerState.noConfusion, by decide, by decide⟩) | cases answer
  onSignal := by
    intro state node proper ev world after reply answer
    have obeys := machine_obeys platform state node proper ev world after reply answer
    cases reply with
    | transition t =>
        constructor
        · intro other same
          cases same
          simpa [allowed, hierarchy] using obeys
        · intro p contrary
          cases contrary
    | tranSuper p =>
        constructor
        · intro t contrary
          cases contrary
        · intro other same
          cases same
          exact beq_iff_eq.mp obeys
    | handled => constructor <;> intro _ contrary <;> cases contrary
    | ignored => constructor <;> intro _ contrary <;> cases contrary
    | unhandled => constructor <;> intro _ contrary <;> cases contrary

end Table

section Reactions

variable {C F : Type} (platform : Platform C F)

-- What entering a state does, whatever its handler returns.
def refresh : Prog (World C F) Exn Unit := do
  readStatus platform
  let world ← Prog.get
  flushDeferred platform world.deferredEvents.contents world.deferredEvents.count

def enterIdle : Prog (World C F) Exn Unit := do
  if !(← onCamera (CameraWrapper.isResponsive platform)) then pure () else refresh platform

def enterCaptureWired : Prog (World C F) Exn Unit := do
  if !(← onCamera (CameraWrapper.isResponsive platform)) then pure () else captureWired platform

def enterDownloading : Prog (World C F) Exn Unit := do
  if !(← onCamera (CameraWrapper.isResponsive platform)) then pure () else download platform

def enter : ControllerState → Prog (World C F) Exn Unit
  | .stateConnecting => connect platform
  | .stateError => disconnect platform
  | .stateConnected => Prog.modify (fun world => { world with reconnectAttempts := maxReconnectAttemps })
  | .stateIdle => enterIdle platform
  | .stateCaptureWired => enterCaptureWired platform
  | .stateDownloading => enterDownloading platform
  | _ => pure ()

def goTo (state : ControllerState) : Prog (World C F) Exn ControllerState := do
  enter platform state
  pure state

def inConnected (state : ControllerState) (ev : EventPtr) : Prog (World C F) Exn ControllerState :=
  match ev.sig with
  | .evCameraGenericError => do
      let errorcode ← castError ev
      if criticalError errorcode then goTo platform .stateError else pure state
  | .evCameraSetConfig => do deferEvent ev; pure state
  | .evCameraGetStatus => do deferEvent ev; pure state
  | .evCameraGetOptions => do deferEvent ev; pure state
  | .evCameraCaptureWired => do deferEvent ev; pure state
  | .evCameraDownload => do deferEvent ev; pure state
  | _ => pure state

-- The reaction to an event in each state the machine can rest in, and the
-- state it comes to rest in.
def react : ControllerState → EventPtr → Prog (World C F) Exn ControllerState
  | .stateDisconnected, ev =>
      match ev.sig with
      | .evCameraConnect => goTo platform .stateConnecting
      | _ => pure .stateDisconnected
  | .stateConnecting, ev =>
      match ev.sig with
      | .evCameraConnectionError => goTo platform .stateError
      | .evCameraGenericError => do
          let _ ← castError ev
          pure .stateConnecting
      | .evCameraConnected => do
          setConfig platform
          readStatus platform
          readOptions platform
          enter platform .stateConnected
          goTo platform .stateIdle
      | _ => pure .stateConnecting
  | .stateError, ev =>
      match ev.sig with
      | .evCameraConnect => goTo platform .stateConnecting
      | _ => pure .stateError
  | .stateIdle, ev =>
      match ev.sig with
      | .evCameraSetConfig => do
          execute ev
          let config ← castConfig ev
          Prog.modify (fun world => { world with cameraConfig := config })
          setConfig platform
          readStatus platform
          pure .stateIdle
      | .evCameraGetStatus => do
          execute ev
          readStatus platform
          pure .stateIdle
      | .evCameraGetOptions => do
          execute ev
          readOptions platform
          pure .stateIdle
      | .evCameraCaptureWired => do
          execute ev
          goTo platform .stateCaptureWired
      | .evCameraDownload => do
          execute ev
          let cameraPath ← castDownload ev
          Prog.modify (fun world => { world with toDownload := cameraPath })
          goTo platform .stateDownloading
      | .evCameraDisconnect => pure .stateDisconnected
      | _ => inConnected platform .stateIdle ev
  | .stateCaptureWired, ev =>
      match ev.sig with
      | .evCameraCaptureError => goTo platform .stateError
      | .evCameraCaptureSuccess => do
          let _ ← castCaptureSuccess ev
          goTo platform .stateIdle
      | _ => inConnected platform .stateCaptureWired ev
  | .stateDownloading, ev =>
      match ev.sig with
      | .evCameraDownloadError => goTo platform .stateIdle
      | .evCameraDownloadSuccess => goTo platform .stateIdle
      | _ => inConnected platform .stateDownloading ev
  | state, _ => pure state

def move (S s t : ControllerState) : Prog (World C F) Exn ControllerState := do
  (machine platform).visit .evExit (hierarchy.below S (HsmClass.scope hierarchy s t))
  (machine platform).visit .evEntry (hierarchy.below t (HsmClass.scope hierarchy s t)).reverse
  (machine platform).drill hierarchy (hierarchy.levels - hierarchy.depth t) t

theorem visit_exit (states : List ControllerState) (proper : .stateInit ∉ states) :
    (machine platform).visit .evExit states = pure () := by
  induction states with
  | nil => rfl
  | cons state rest ih =>
      obtain ⟨different, later⟩ := not_or.mp (mt List.mem_cons.mpr proper)
      have exits : (machine platform).handler state .evExit = pure .handled ∨
          (machine platform).handler state .evExit = pure .ignored := by
        cases state <;> first | exact .inl rfl | exact .inr rfl | exact absurd rfl different
      cases exits with
      | inl handled => rw [HsmClass.visit, handled, pure_bind, ih later]
      | inr ignored => rw [HsmClass.visit, ignored, pure_bind, ih later]

-- The reply to EV_ENTRY is dropped, so a transition asked for there is too.
theorem entry_guarded {A : Type} (body : Prog (World C F) Exn Unit) (next : Prog (World C F) Exn A) :
    ((do
      if !(← onCamera (CameraWrapper.isResponsive platform)) then pure (.transition .stateError)
      else do
        body
        pure .handled : Prog (World C F) Exn (Reply ControllerState)) >>= fun _ => next) =
      ((do if !(← onCamera (CameraWrapper.isResponsive platform)) then pure () else body) >>= fun _ => next) := by
  simp only [bind_assoc]
  congr 1
  funext responsive
  cases responsive with
  | false => rfl
  | true => simp

theorem entry {A : Type} (state : ControllerState) (proper : state ≠ .stateInit) (next : Prog (World C F) Exn A) :
    ((machine platform).handler state .evEntry >>= fun _ => next) = (enter platform state >>= fun _ => next) := by
  cases state with
  | hsmTop => rfl
  | stateInit => exact absurd rfl proper
  | stateDisconnected => rfl
  | stateConnecting =>
      exact bind_assoc (connect platform) (fun _ => pure (.handled : Reply ControllerState)) (fun _ => next)
  | stateError =>
      exact bind_assoc (disconnect platform) (fun _ => pure (.handled : Reply ControllerState)) (fun _ => next)
  | stateConnected => rfl
  | stateIdle =>
      change (stateIdle platform .evEntry >>= fun _ => next) = (enterIdle platform >>= fun _ => next)
      unfold enterIdle
      rw [← entry_guarded platform (refresh platform) next]
      unfold stateIdle refresh
      simp only [bind_assoc]
  | stateCaptureWired => exact entry_guarded platform (captureWired platform) next
  | stateDownloading => exact entry_guarded platform (download platform) next

theorem visit_entry (state : ControllerState) (proper : state ≠ .stateInit) :
    (machine platform).visit .evEntry [state] = enter platform state := by
  have enters := entry platform state proper (pure ())
  rw [bind_pure_unit] at enters
  exact enters

theorem move_goes (S s t : ControllerState) (proper : t ≠ .stateInit)
    (exits : .stateInit ∉ hierarchy.below S (HsmClass.scope hierarchy s t))
    (entries : (hierarchy.below t (HsmClass.scope hierarchy s t)).reverse = [t])
    (stays : (machine platform).drill hierarchy (hierarchy.levels - hierarchy.depth t) t = pure t) :
    move platform S s t = goTo platform t := by
  rw [move, visit_exit platform _ exits, entries, visit_entry platform t proper, stays, pure_bind]
  rfl

theorem disconnected_to_connecting :
    move platform .stateDisconnected .stateDisconnected .stateConnecting = goTo platform .stateConnecting :=
  move_goes platform _ _ _ (by decide) (by decide) (by decide) rfl

theorem error_to_connecting : move platform .stateError .stateError .stateConnecting = goTo platform .stateConnecting :=
  move_goes platform _ _ _ (by decide) (by decide) (by decide) rfl

theorem connecting_to_error : move platform .stateConnecting .stateConnecting .stateError = goTo platform .stateError :=
  move_goes platform _ _ _ (by decide) (by decide) (by decide) rfl

theorem connecting_to_connected : move platform .stateConnecting .stateConnecting .stateConnected =
    (do enter platform .stateConnected; goTo platform .stateIdle) := by
  have drills : (machine platform).drill hierarchy 1 .stateConnected =
      ((machine platform).visit .evEntry [.stateIdle] >>= fun _ => pure .stateIdle) := rfl
  have entries : (hierarchy.below .stateConnected
      (HsmClass.scope hierarchy .stateConnecting .stateConnected)).reverse = [.stateConnected] := by decide
  rw [move, visit_exit platform _ (by decide), entries, visit_entry platform _ (by decide), pure_bind]
  change (enter platform .stateConnected >>= fun _ => (machine platform).drill hierarchy 1 .stateConnected) = _
  rw [drills, visit_entry platform _ (by decide)]
  rfl

theorem idle_to_capture_wired : move platform .stateIdle .stateIdle .stateCaptureWired = goTo platform .stateCaptureWired :=
  move_goes platform _ _ _ (by decide) (by decide) (by decide) rfl

theorem idle_to_downloading : move platform .stateIdle .stateIdle .stateDownloading = goTo platform .stateDownloading :=
  move_goes platform _ _ _ (by decide) (by decide) (by decide) rfl

theorem idle_to_disconnected : move platform .stateIdle .stateIdle .stateDisconnected = pure .stateDisconnected :=
  (move_goes platform _ _ _ (by decide) (by decide) (by decide) rfl).trans rfl

theorem substate_to_error (state : ControllerState) (substate : hierarchy.parent state = .stateConnected) :
    move platform state .stateConnected .stateError = goTo platform .stateError := by
  cases state with
  | stateIdle => exact move_goes platform _ _ _ (by decide) (by decide) (by decide) rfl
  | stateCaptureWired => exact move_goes platform _ _ _ (by decide) (by decide) (by decide) rfl
  | stateDownloading => exact move_goes platform _ _ _ (by decide) (by decide) (by decide) rfl
  | hsmTop => cases substate
  | stateInit => cases substate
  | stateDisconnected => cases substate
  | stateConnecting => cases substate
  | stateError => cases substate
  | stateConnected => cases substate

theorem capture_wired_to_error :
    move platform .stateCaptureWired .stateCaptureWired .stateError = goTo platform .stateError :=
  move_goes platform _ _ _ (by decide) (by decide) (by decide) rfl

theorem capture_wired_to_idle : move platform .stateCaptureWired .stateCaptureWired .stateIdle = goTo platform .stateIdle :=
  move_goes platform _ _ _ (by decide) (by decide) (by decide) rfl

theorem downloading_to_idle : move platform .stateDownloading .stateDownloading .stateIdle = goTo platform .stateIdle :=
  move_goes platform _ _ _ (by decide) (by decide) (by decide) rfl

def resolve (S : ControllerState) : ControllerState × Reply ControllerState → Prog (World C F) Exn ControllerState
  | (s, .transition t) => move platform S s t
  | _ => pure S

theorem dispatch_resolve (S : ControllerState) (ev : EventPtr) : (machine platform).dispatch hierarchy (.signal ev) S =
    (machine platform).offerUp hierarchy (.signal ev) (hierarchy.depth S) S >>= resolve platform S := by
  unfold HsmClass.dispatch
  congr 1
  funext offered
  obtain ⟨s, reply⟩ := offered
  cases reply <;> rfl

theorem disconnected_dispatch (ev : EventPtr) : (machine platform).dispatch hierarchy (.signal ev) .stateDisconnected =
    react platform .stateDisconnected ev := by
  obtain ⟨id, sig, payload⟩ := ev
  rw [dispatch_resolve]
  cases sig with
  | evCameraConnect => exact disconnected_to_connecting platform
  | _ => rfl

theorem error_dispatch (ev : EventPtr) : (machine platform).dispatch hierarchy (.signal ev) .stateError =
    react platform .stateError ev := by
  obtain ⟨id, sig, payload⟩ := ev
  rw [dispatch_resolve]
  cases sig with
  | evCameraConnect => exact error_to_connecting platform
  | _ => rfl

theorem connecting_dispatch (ev : EventPtr) : (machine platform).dispatch hierarchy (.signal ev) .stateConnecting =
    react platform .stateConnecting ev := by
  obtain ⟨id, sig, payload⟩ := ev
  rw [dispatch_resolve]
  cases sig with
  | evCameraConnectionError => exact connecting_to_error platform
  | evCameraGenericError => cases payload <;> rfl
  | evCameraConnected =>
      have offered : (machine platform).offerUp hierarchy (.signal ⟨id, .evCameraConnected, payload⟩) 1 .stateConnecting =
          (do setConfig platform; readStatus platform; readOptions platform
              pure (.stateConnecting, .transition .stateConnected)) := by
        change ((setConfig platform >>= fun _ => readStatus platform >>= fun _ => readOptions platform >>= fun _ =>
          pure (.transition .stateConnected : Reply ControllerState)) >>= _) = _
        simp only [bind_assoc, pure_bind]
      change (machine platform).offerUp hierarchy _ 1 .stateConnecting >>= resolve platform .stateConnecting = _
      rw [offered]
      simp only [bind_assoc, pure_bind, resolve, connecting_to_connected]
      rfl
  | _ => rfl

theorem inherited (S : ControllerState) (substate : hierarchy.parent S = .stateConnected) (deep : hierarchy.depth S = 2)
    (ev : EventPtr) (unknown : (machine platform).handler S (.signal ev) = pure (.tranSuper .stateConnected)) :
    (machine platform).dispatch hierarchy (.signal ev) S = inConnected platform S ev := by
  have offered : (machine platform).offerUp hierarchy (.signal ev) 2 S =
      (machine platform).offerUp hierarchy (.signal ev) 1 .stateConnected := by
    rw [HsmClass.offerUp, unknown, pure_bind, ← substate]
  rw [dispatch_resolve, deep, offered]
  obtain ⟨id, sig, payload⟩ := ev
  cases sig with
  | evCameraGenericError =>
      cases payload with
      | cameraErrorEvent errorcode =>
          have toError := substate_to_error platform S substate
          change ((if criticalError errorcode then pure (.transition .stateError) else pure .handled :
            Prog (World C F) Exn (Reply ControllerState)) >>= _) >>= _ =
            (if criticalError errorcode then goTo platform .stateError else pure S)
          cases criticalError errorcode with
          | true => exact toError
          | false => rfl
      | _ => rfl
  | _ => rfl

theorem idle_dispatch (ev : EventPtr) : (machine platform).dispatch hierarchy (.signal ev) .stateIdle =
    react platform .stateIdle ev := by
  obtain ⟨id, sig, payload⟩ := ev
  cases sig with
  | evCameraSetConfig =>
      rw [dispatch_resolve]
      change (stateIdle platform (.signal ⟨id, .evCameraSetConfig, payload⟩) >>= _) >>= _ = _
      simp only [stateIdle, react, bind_assoc, pure_bind]
      rfl
  | evCameraGetStatus =>
      rw [dispatch_resolve]
      change (stateIdle platform (.signal ⟨id, .evCameraGetStatus, payload⟩) >>= _) >>= _ = _
      simp only [stateIdle, react, bind_assoc, pure_bind]
      rfl
  | evCameraGetOptions =>
      rw [dispatch_resolve]
      change (stateIdle platform (.signal ⟨id, .evCameraGetOptions, payload⟩) >>= _) >>= _ = _
      simp only [stateIdle, react, bind_assoc, pure_bind]
      rfl
  | evCameraCaptureWired =>
      rw [dispatch_resolve, react, ← idle_to_capture_wired]
      rfl
  | evCameraDownload =>
      rw [dispatch_resolve, react, ← idle_to_downloading]
      cases payload <;> rfl
  | evCameraDisconnect =>
      rw [dispatch_resolve]
      exact idle_to_disconnected platform
  | _ => exact inherited platform .stateIdle rfl rfl _ rfl

theorem capture_wired_dispatch (ev : EventPtr) : (machine platform).dispatch hierarchy (.signal ev) .stateCaptureWired =
    react platform .stateCaptureWired ev := by
  obtain ⟨id, sig, payload⟩ := ev
  cases sig with
  | evCameraCaptureError =>
      rw [dispatch_resolve]
      exact capture_wired_to_error platform
  | evCameraCaptureSuccess =>
      rw [dispatch_resolve, react, ← capture_wired_to_idle]
      cases payload <;> rfl
  | _ => exact inherited platform .stateCaptureWired rfl rfl _ rfl

theorem downloading_dispatch (ev : EventPtr) : (machine platform).dispatch hierarchy (.signal ev) .stateDownloading =
    react platform .stateDownloading ev := by
  obtain ⟨id, sig, payload⟩ := ev
  cases sig with
  | evCameraDownloadError =>
      rw [dispatch_resolve]
      exact downloading_to_idle platform
  | evCameraDownloadSuccess =>
      rw [dispatch_resolve]
      exact downloading_to_idle platform
  | _ => exact inherited platform .stateDownloading rfl rfl _ rfl

def resting : ControllerState → Bool
  | .stateDisconnected => true
  | .stateConnecting => true
  | .stateError => true
  | .stateIdle => true
  | .stateCaptureWired => true
  | .stateDownloading => true
  | _ => false

theorem dispatch_react (S : ControllerState) (rests : resting S = true) (ev : EventPtr) :
    (machine platform).dispatch hierarchy (.signal ev) S = react platform S ev := by
  cases S with
  | stateDisconnected => exact disconnected_dispatch platform ev
  | stateConnecting => exact connecting_dispatch platform ev
  | stateError => exact error_dispatch platform ev
  | stateIdle => exact idle_dispatch platform ev
  | stateCaptureWired => exact capture_wired_dispatch platform ev
  | stateDownloading => exact downloading_dispatch platform ev
  | hsmTop => cases rests
  | stateInit => cases rests
  | stateConnected => cases rests

-- HSM::handleEvent at a resting state does what react says, also when a
-- handler throws.
theorem handle_event_react (S : ControllerState) (rests : resting S = true) (fuel : Nat) (enough : 6 ≤ fuel) (ev : EventPtr) :
    (machine platform).handleEvent fuel (.signal ev) { state := S, temp := S } =
      react platform S ev >>= fun next => pure { state := next, temp := next } := by
  have node : hierarchy.member S := by
    intro same
    rw [same] at rests
    cases rests
  rw [HsmClass.handle_event_dispatch (machine platform) hierarchy (machine_contract platform) (by decide) fuel enough S node ev,
    dispatch_react platform S rests ev]

theorem init_disconnected (world : World C F) :
    (machine platform).init 2 { state := .hsmTop, temp := .stateInit } world =
      .ok { state := .stateDisconnected, temp := .stateDisconnected } world := by
  rfl

end Reactions

end Controller

end CameraController
