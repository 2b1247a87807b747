import CameraController.ControllerProgress

set_option autoImplicit false

namespace CameraController

open Effects Transition Rooted

namespace Controller

def leads : ControllerState → ControllerState → Bool
  | .stateDisconnected, .stateConnecting => true
  | .stateConnecting, .stateError => true
  | .stateConnecting, .stateConnected => true
  | .stateError, .stateConnecting => true
  | .stateConnected, .stateError => true
  | .stateIdle, .stateCaptureWired => true
  | .stateIdle, .stateDownloading => true
  | .stateIdle, .stateDisconnected => true
  | .stateCaptureWired, .stateError => true
  | .stateCaptureWired, .stateIdle => true
  | .stateDownloading, .stateIdle => true
  | _, _ => false

def asks (state : ControllerState) : Reply ControllerState → Bool
  | .transition t => leads state t
  | _ => true

def guarded : ControllerState → Bool
  | .stateIdle => true
  | .stateCaptureWired => true
  | .stateDownloading => true
  | _ => false

section Table

variable {C F : Type} (platform : Platform C F)

abbrev Asks (state : ControllerState) (p : Prog (World C F) Exn (Reply ControllerState)) : Prop :=
  Replies (fun reply => asks state reply = true) p

theorem connected_asks (ev : EventPtr) : Asks .stateConnected (stateConnected (C := C) (F := F) (.signal ev)) := by
  rw [stateConnected]
  split
  · apply replies_bind
    intro errorcode
    split <;> exact replies_pure _ _ rfl
  all_goals first | exact replies_pure _ _ rfl | exact replies_bind _ _ _ (fun _ => replies_pure _ _ rfl)

theorem machine_asks (state : ControllerState) (node : hierarchy.member state) (ev : EventPtr) :
    Asks state ((machine platform).handler state (.signal ev)) := by
  cases state with
  | hsmTop => exact replies_pure _ _ rfl
  | stateInit => exact absurd rfl node
  | stateConnected => exact connected_asks ev
  | stateDisconnected =>
      simp only [machine, stateDisconnected]
      split <;> exact replies_pure _ _ rfl
  | stateConnecting =>
      simp only [machine, stateConnecting]
      split
      all_goals repeat first | exact replies_pure _ _ rfl | (apply replies_bind; intro _)
  | stateError =>
      simp only [machine, stateError]
      split <;> exact replies_pure _ _ rfl
  | stateIdle =>
      simp only [machine, stateIdle]
      split
      all_goals repeat first | exact replies_pure _ _ rfl | (apply replies_bind; intro _)
  | stateCaptureWired =>
      simp only [machine, stateCaptureWired]
      split
      all_goals repeat first | exact replies_pure _ _ rfl | (apply replies_bind; intro _)
  | stateDownloading =>
      simp only [machine, stateDownloading]
      split <;> exact replies_pure _ _ rfl

theorem offered_leads (ev : EventPtr) (n : Nat) (q s t : ControllerState) (world after : World C F) (node : hierarchy.member q)
    (level : hierarchy.depth q = n)
    (run : (machine platform).offerUp hierarchy (.signal ev) n q world = .ok (s, .transition t) after) : leads s t = true := by
  induction n generalizing q world with
  | zero => cases run
  | succ n ih =>
      have proper : q ≠ hierarchy.top := hierarchy.depth_ne _ _ (by rw [hierarchy.top_depth]; omega)
      have above := hierarchy.parent_depth q node proper
      have up := fun world => ih (hierarchy.parent q) world (hierarchy.parent_member q node proper) (by omega)
      obtain ⟨reply, middle, answer, rest⟩ := Prog.bind_eq_ok _ _ _ _ _ run
      cases reply with
      | transition target =>
          cases rest
          exact machine_asks platform _ node ev world after _ answer
      | unhandled => exact up middle rest
      | tranSuper p => exact up middle rest
      | handled => cases rest
      | ignored => cases rest

end Table

section Guards

variable {C F : Type} (platform : Platform C F)

-- Handling ev in S calls the EV_ENTRY handler of a guarded state, in the world
-- entered: straight after the transition, as no EV_EXIT handler does anything,
-- or by the EV_INIT of stateConnected, whose own EV_ENTRY comes first.
inductive Enters (S : ControllerState) (ev : EventPtr) (w : World C F) : ControllerState → World C F → Prop where
  | directly (s t : ControllerState) (entered : World C F) (asking : guarded t = true)
      (found : (machine platform).offer (.signal ev) turns S w = .ok (s, .tran, t) entered) : Enters S ev w t entered
  | initially (s : ControllerState) (middle : World C F)
      (found : (machine platform).offer (.signal ev) turns S w = .ok (s, .tran, .stateConnected) middle) :
      Enters S ev w .stateIdle { middle with reconnectAttempts := maxReconnectAttemps }

theorem resting_member (S : ControllerState) (rests : resting S = true) : hierarchy.member S := by
  intro same
  rw [same] at rests
  cases rests

theorem found_offered (S s t : ControllerState) (node : hierarchy.member S) (ev : EventPtr) (w middle : World C F)
    (found : (machine platform).offer (.signal ev) turns S w = .ok (s, .tran, t) middle) :
    (machine platform).offerUp hierarchy (.signal ev) (hierarchy.depth S) S w = .ok (s, .transition t) middle := by
  have level := hierarchy.depth_levels S node
  have few : hierarchy.levels = 2 := rfl
  rw [HsmClass.offer_up (machine platform) hierarchy (machine_contract platform) ev (hierarchy.depth S) turns S node rfl
    (by rw [turns]; omega)] at found
  obtain ⟨offered, reached, run, ended⟩ := Prog.bind_eq_ok _ _ _ _ _ found
  obtain ⟨source, reply⟩ := offered
  cases reply with
  | transition target => cases ended; exact run
  | handled => cases ended
  | ignored => cases ended
  | unhandled => cases ended
  | tranSuper p => cases ended

theorem found_moves (S s t : ControllerState) (rests : resting S = true) (ev : EventPtr) (w middle : World C F)
    (found : (machine platform).offer (.signal ev) turns S w = .ok (s, .tran, t) middle) :
    leads s t = true ∧ hierarchy.Ancestor s S ∧
      (machine platform).handleEvent turns (.signal ev) { state := S, temp := S } w =
        (move platform S s t >>= fun next => pure { state := next, temp := next }) middle := by
  have node := resting_member S rests
  have offered := found_offered platform S s t node ev w middle found
  have above := HsmClass.offered_transition (machine platform) hierarchy (machine_contract platform) ev _ S s t w middle node rfl
    offered
  refine ⟨offered_leads platform ev _ S s t w middle node rfl offered, above.1, ?_⟩
  rw [HsmClass.handle_event_dispatch (machine platform) hierarchy (machine_contract platform) (by decide) turns (Nat.le_refl 6) S
    node ev, dispatch_resolve, bind_assoc]
  exact Prog.bind_ok _ _ _ _ _ offered

theorem guarded_move (S s t : ControllerState) (above : hierarchy.Ancestor s S) (leading : leads s t = true)
    (asking : guarded t = true) : move platform S s t = goTo platform t := by
  have lowest : guarded s = true → S = s := by
    intro deep
    cases s <;> first | exact absurd deep Bool.false_ne_true | (cases S <;> first | rfl | exact absurd above (by decide))
  cases s with
  | stateIdle =>
      obtain rfl := lowest rfl
      cases t with
      | stateCaptureWired => exact idle_to_capture_wired platform
      | stateDownloading => exact idle_to_downloading platform
      | _ => cases leading <;> cases asking
  | stateCaptureWired =>
      obtain rfl := lowest rfl
      cases t with
      | stateIdle => exact capture_wired_to_idle platform
      | _ => cases leading <;> cases asking
  | stateDownloading =>
      obtain rfl := lowest rfl
      cases t with
      | stateIdle => exact downloading_to_idle platform
      | _ => cases leading
  | _ => cases t <;> first | exact absurd leading Bool.false_ne_true | cases asking

theorem connected_move (S s : ControllerState) (above : hierarchy.Ancestor s S)
    (leading : leads s .stateConnected = true) :
    move platform S s .stateConnected = (do enter platform .stateConnected; goTo platform .stateIdle) := by
  cases s with
  | stateConnecting =>
      obtain rfl : S = .stateConnecting := by
        cases S <;> first | rfl | exact absurd above (by decide)
      exact connecting_to_connected platform
  | _ => cases leading

theorem enters_handled (S t : ControllerState) (rests : resting S = true) (ev : EventPtr) (w entered : World C F)
    (enters : Enters platform S ev w t entered) : guarded t = true ∧
      (machine platform).handleEvent turns (.signal ev) { state := S, temp := S } w =
        ((machine platform).handler t .evEntry >>= fun _ => pure { state := t, temp := t }) entered := by
  cases enters with
  | directly s _ _ asking found =>
      obtain ⟨leading, above, handled⟩ := found_moves platform S s t rests ev w entered found
      refine ⟨asking, ?_⟩
      rw [handled, guarded_move platform S s t above leading asking, entry platform t (by rintro rfl; cases asking), goTo, bind_assoc]
      rfl
  | initially s middle found =>
      obtain ⟨leading, above, handled⟩ := found_moves platform S s .stateConnected rests ev w middle found
      refine ⟨rfl, ?_⟩
      rw [handled, connected_move platform S s above leading, entry platform .stateIdle ControllerState.noConfusion, bind_assoc]
      have entered : enter platform .stateConnected middle = .ok () { middle with reconnectAttempts := maxReconnectAttemps } := rfl
      rw [Prog.bind_ok _ _ _ _ _ entered, goTo, bind_assoc]
      rfl

theorem guarded_entry (t : ControllerState) (asking : guarded t = true) (entered : World C F) (camera : Camera C F)
    (silent : CameraWrapper.isResponsive platform entered.camera = .ok false camera) :
    (machine platform).handler t .evEntry entered = .ok (.transition .stateError) { entered with camera := camera } := by
  have asked : onCamera (CameraWrapper.isResponsive platform) entered = .ok false { entered with camera := camera } := by
    rw [onCamera, Prog.zoom, silent]
  cases t with
  | stateIdle => exact Prog.bind_ok _ _ _ _ _ asked
  | stateCaptureWired => exact Prog.bind_ok _ _ _ _ _ asked
  | stateDownloading => exact Prog.bind_ok _ _ _ _ _ asked
  | _ => cases asking

-- What the handlers mean by the transition: stateError, a camera that has been
-- disconnected, and nothing posted but that, recalled or executed.
structure GivenUp (entered : World C F) (this : Registers ControllerState) (after : World C F) : Prop where
  state : this.state = .stateError
  disconnected : after.camera.wrapper.connected = false
  recalled : after.reposts = entered.reposts
  posted : ∃ fresh, after.published = entered.published ++ fresh ∧ ∀ post ∈ fresh, post.1.sig = .evCameraDisconnected

-- HSM::handleEvent drops the transition that EV_ENTRY asks for: the machine
-- rests in the state it entered, and the camera is not disconnected.
theorem unresponsive_stays (outside : C) (downloadDir : String) (inputs : List Input) (c : Config C F)
    (run : Run (ControllerStep platform) (started outside downloadDir) inputs c) (ev : EventPtr) (w entered : World C F)
    (t : ControllerState) (enters : Enters platform c.this.state ev w t entered) (camera : Camera C F)
    (silent : CameraWrapper.isResponsive platform entered.camera = .ok false camera) :
    ∃ this after, (machine platform).handleEvent turns (.signal ev) c.this w = .ok this after ∧
      this.state = t ∧ after = { entered with camera := camera } ∧ ¬ GivenUp entered this after := by
  have settled := (run_sourced platform outside downloadDir inputs c run).1
  obtain ⟨⟨state, temp⟩, _, _⟩ := c
  obtain rfl : temp = state := settled.registers
  obtain ⟨asking, handled⟩ := enters_handled platform temp t settled.rests ev w entered enters
  refine ⟨{ state := t, temp := t }, { entered with camera := camera }, ?_, rfl, rfl, ?_⟩
  · rw [handled]
    exact Prog.bind_ok _ _ _ _ _ (guarded_entry platform t asking entered camera silent)
  · intro contrary
    have state := contrary.state
    cases state
    cases asking

theorem capture_enters (ev : EventPtr) (w : World C F) (named : ev.sig = .evCameraCaptureWired) :
    Enters platform .stateIdle ev w .stateCaptureWired (executing w ev) := by
  obtain ⟨id, sig, payload⟩ := ev
  cases named
  exact .directly .stateIdle .stateCaptureWired _ rfl rfl

end Guards

def silentInputs : List Input := [.post .connect, .handle, .handle, .post .captureWired]

def captureEvent : EventPtr := ⟨4, .evCameraCaptureWired, .event⟩

theorem silent_reached : ∃ c camera, Run (ControllerStep silenced) (started 0 "/photos") silentInputs c ∧
    c.this.state = .stateIdle ∧
    CameraWrapper.isResponsive silenced (executing c.world captureEvent).camera = .ok false camera := by
  obtain ⟨c, run, seen⟩ := advance_all_observed silenced
    (fun c => (c.this.state, (CameraWrapper.isResponsive silenced c.world.camera).returned))
    (started 0 "/photos") silentInputs (.stateIdle, some false) (by decide +kernel)
  obtain ⟨state, answered⟩ := Prod.mk.inj seen
  obtain ⟨camera, answer⟩ := Outcome.returned_some _ _ answered
  exact ⟨c, camera, run, state, answer⟩

theorem silent_capture_stays : ∃ c camera, Run (ControllerStep silenced) (started 0 "/photos") silentInputs c ∧
    Enters silenced c.this.state captureEvent c.world .stateCaptureWired (executing c.world captureEvent) ∧
    CameraWrapper.isResponsive silenced (executing c.world captureEvent).camera = .ok false camera ∧
    ∃ this after, (machine silenced).handleEvent turns (.signal captureEvent) c.this c.world = .ok this after ∧
      this.state = .stateCaptureWired ∧ after = { executing c.world captureEvent with camera := camera } ∧
      ¬ GivenUp (executing c.world captureEvent) this after := by
  obtain ⟨c, camera, run, state, silent⟩ := silent_reached
  have enters : Enters silenced c.this.state captureEvent c.world .stateCaptureWired (executing c.world captureEvent) := by
    rw [state]
    exact capture_enters silenced captureEvent c.world rfl
  exact ⟨c, camera, run, enters, silent,
    unresponsive_stays silenced 0 "/photos" silentInputs c run captureEvent c.world _ _ enters camera silent⟩

theorem silent_capture_not_given_up : ¬ ∀ (inputs : List Input) (c : Config Nat Unit),
    Run (ControllerStep silenced) (started 0 "/photos") inputs c →
      ∀ ev w entered t, Enters silenced c.this.state ev w t entered →
        ∀ camera, CameraWrapper.isResponsive silenced entered.camera = .ok false camera →
          ∀ this after, (machine silenced).handleEvent turns (.signal ev) c.this w = .ok this after →
            GivenUp entered this after := by
  intro claimed
  obtain ⟨c, camera, run, state, silent⟩ := silent_reached
  have settled := (run_sourced silenced 0 "/photos" silentInputs c run).1
  obtain ⟨⟨_, temp⟩, world, dropped⟩ := c
  cases state
  obtain rfl : temp = .stateIdle := settled.registers
  have enters := capture_enters silenced captureEvent world rfl
  have handled := (enters_handled silenced .stateIdle .stateCaptureWired rfl captureEvent world _ enters).2
  rw [Prog.bind_ok _ _ _ _ _ (guarded_entry silenced .stateCaptureWired rfl _ camera silent)] at handled
  have given := claimed _ _ run captureEvent world _ _ enters camera silent _ _ handled
  exact absurd given.state ControllerState.noConfusion

end Controller

end CameraController
