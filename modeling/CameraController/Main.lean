import CameraController.ControllerReturns
import CameraController.ControllerPosts
import CameraController.EventInjector

set_option autoImplicit false

namespace CameraController

open Effects Transition Controller

-- The objects that init() creates and what goes on between them. coming is what
-- the running handler has posted to its own queue and sniffing what is being
-- handed to the sniffers. ended is set when the process is over, miscast when a
-- cast was applied to an event of another class.
structure Program (C F : Type) where
  this : Registers ControllerState
  world : World C F
  coming : List EventPtr
  sniffing : List (EventPtr × UInt8)
  injector : EventInjector
  subscriptions : Nat
  logged : List String
  ended : Bool
  miscast : Bool

namespace Program

variable {C F : Type}

-- The calls of subscribe() that init() makes: a sniffer for each topic and then
-- the controller, for TOPIC_CAMERA_CMD and for TOPIC_CAMERA_EVENT.
def subscribeCalls : Nat := 258

-- init() has started the injector. Its variables hold whatever they hold.
def launched (outside : C) (downloadDir : String) (ev topic : UInt16) : Program C F where
  this := (started outside downloadDir : Config C F).this
  world := createdWorld outside downloadDir
  coming := []
  sniffing := []
  injector := { pc := .reading, ev := ev, topic := topic }
  subscriptions := 0
  logged := []
  ended := false
  miscast := false

-- handleEvent() looks at ev->sig: the reserved signals are not signals to it.
def dispatched (ev : EventPtr) : Event EventPtr :=
  match ev.sig with
  | .unnamed value =>
      if value = 0 then .evEntry
      else if value = 1 then .evExit
      else if value = 2 then .evEmpty
      else if value = 3 then .evInit
      else .signal ev
  | _ => .signal ev

-- sEventBroker.post: the sniffer of the topic comes before the controller.
def brokerPost (s : Program C F) (ev : EventPtr) (topic : UInt8) : Program C F :=
  let heard := if topic.toNat < s.subscriptions then [(ev, topic)] else []
  let queued := if topic = 0 ∧ 256 < s.subscriptions ∨ topic = 1 ∧ 257 < s.subscriptions then [ev] else []
  { s with
    sniffing := s.sniffing ++ heard
    world := { s.world with eventList := s.world.eventList ++ queued, nextId := s.world.nextId + 1 } }

def injectorPost (s : Program C F) (payload : Payload) : Program C F :=
  s.brokerPost (s.injector.event s.world.nextId payload) s.injector.target

def announced (s : Program C F) (after : World C F) : List (EventPtr × UInt8) :=
  (after.published.drop s.world.published.length).map (fun post => (post.1, post.2.value))

inductive Act where
  | subscribe
  | line (text : String)
  | post
  | sniff
  | arrive
  | handle
deriving DecidableEq, Repr

section Steps

variable (platform : Platform C F) (gpResultAsString : Int → String)

def sniffed (s : Program C F) (ev : EventPtr) (topic : UInt8) (rest : List (EventPtr × UInt8)) : Program C F :=
  match EventLogger.onEventReceived platform gpResultAsString ev topic s.logged with
  | .ok _ logged => { s with sniffing := rest, logged := logged }
  | .threw _ logged => { s with sniffing := rest, logged := logged, ended := true }
  | .fault cause => { s with sniffing := rest, ended := true, miscast := s.miscast || cause == .badCast }

-- The handler does not read the queue, so what it has posted can come in later,
-- between the posts of the injector. An exception ends the process.
def handled (s : Program C F) (ev : EventPtr) (rest : List EventPtr) : Program C F :=
  match (machine platform).handleEvent turns (dispatched ev) s.this (World.dequeued s.world rest) with
  | .ok this after =>
      { s with
        this := this
        world := { after with eventList := rest }
        coming := after.eventList.drop rest.length
        sniffing := s.sniffing ++ s.announced after }
  | .threw _ after => { s with sniffing := s.sniffing ++ s.announced after, ended := true }
  | .fault cause => { s with ended := true, miscast := s.miscast || cause == .badCast }

-- The threads of the program: init(), the injector, whoever calls the sniffers,
-- and the controller, which is started when all have subscribed.
inductive Step : Program C F → Act → Program C F → Prop where
  | subscribe (s : Program C F) (running : s.ended = false) (left : s.subscriptions < subscribeCalls) :
      Step s .subscribe { s with subscriptions := s.subscriptions + 1 }
  | readLine (s : Program C F) (text : String) (running : s.ended = false) (reading : s.injector.pc = .reading) :
      Step s (.line text) { s with injector := s.injector.readLine text }
  | readConfig (s : Program C F) (text : String) (running : s.ended = false) (reading : s.injector.pc = .readingConfig) :
      Step s (.line text) { s with injector := s.injector.readConfig text }
  | post (s : Program C F) (payload : Payload) (running : s.ended = false) (posting : s.injector.pc = .posting payload) :
      Step s .post { s.injectorPost payload with injector := { s.injector with pc := .reading } }
  | sniff (s : Program C F) (ev : EventPtr) (topic : UInt8) (rest : List (EventPtr × UInt8))
      (head : s.sniffing = (ev, topic) :: rest) : Step s .sniff (s.sniffed platform gpResultAsString ev topic rest)
  | arrive (s : Program C F) (ev : EventPtr) (rest : List EventPtr) (running : s.ended = false) (head : s.coming = ev :: rest) :
      Step s .arrive { s with coming := rest, world := { s.world with eventList := s.world.eventList ++ [ev] } }
  | handle (s : Program C F) (ev : EventPtr) (rest : List EventPtr) (running : s.ended = false)
      (started : s.subscriptions = subscribeCalls) (done : s.coming = []) (head : s.world.eventList = ev :: rest) :
      Step s .handle (s.handled platform ev rest)

def advance (s : Program C F) : Act → Option (Program C F)
  | .subscribe =>
      if s.ended = false ∧ s.subscriptions < subscribeCalls then some { s with subscriptions := s.subscriptions + 1 } else none
  | .line text =>
      match s.ended, s.injector.pc with
      | false, .reading => some { s with injector := s.injector.readLine text }
      | false, .readingConfig => some { s with injector := s.injector.readConfig text }
      | _, _ => none
  | .post =>
      match s.ended, s.injector.pc with
      | false, .posting payload => some { s.injectorPost payload with injector := { s.injector with pc := .reading } }
      | _, _ => none
  | .sniff =>
      match s.sniffing with
      | (ev, topic) :: rest => some (s.sniffed platform gpResultAsString ev topic rest)
      | [] => none
  | .arrive =>
      match s.ended, s.coming with
      | false, ev :: rest => some { s with coming := rest, world := { s.world with eventList := s.world.eventList ++ [ev] } }
      | _, _ => none
  | .handle =>
      match s.ended, s.coming, s.world.eventList with
      | false, [], ev :: rest => if s.subscriptions = subscribeCalls then some (s.handled platform ev rest) else none
      | _, _, _ => none

theorem advance_step (s next : Program C F) (act : Act) (run : s.advance platform gpResultAsString act = some next) :
    Step platform gpResultAsString s act next := by
  cases act with
  | subscribe =>
      rw [advance] at run
      split at run
      · rename_i free
        cases run
        exact .subscribe s free.1 free.2
      · cases run
  | line text =>
      rw [advance] at run
      split at run
      · rename_i running reading
        cases run
        exact .readLine s text running reading
      · rename_i running reading
        cases run
        exact .readConfig s text running reading
      · cases run
  | post =>
      rw [advance] at run
      split at run
      · rename_i payload running posting
        cases run
        exact .post s payload running posting
      · cases run
  | sniff =>
      rw [advance] at run
      split at run
      · rename_i ev topic rest head
        cases run
        exact .sniff s ev topic rest head
      · cases run
  | arrive =>
      rw [advance] at run
      split at run
      · rename_i ev rest running head
        cases run
        exact .arrive s ev rest running head
      · cases run
  | handle =>
      rw [advance] at run
      split at run
      · rename_i ev rest running done head
        split at run
        · rename_i started
          cases run
          exact .handle s ev rest running started done head
        · cases run
      · cases run

end Steps

end Program

end CameraController
