import CameraController.EventLogger

set_option autoImplicit false

namespace CameraController

namespace EventInjector

open CameraStringConversion

-- What an istream has left. A stream that has failed is none, and reads nothing
-- any more.
abbrev Stream := Option (List Char)

section Extraction

variable {A : Type}

-- operator>> for a number. Blanks are skipped; at the end of the text the target
-- keeps its value, without digits it is set to zero, and the stream fails.
def extract (convert : Bool → Nat → A × Bool) (stream : Stream) (before : A) : A × Stream :=
  match stream with
  | none => (before, none)
  | some text =>
      match text.dropWhile isSpace with
      | [] => (before, none)
      | c :: rest =>
          let (negative, number) := signed (c :: rest)
          let (value, fits) := convert negative (decimal (digits number))
          if (digits number).isEmpty then ((convert false 0).1, none)
          else (value, if fits then some (number.dropWhile Char.isDigit) else none)

-- A number out of range gives the nearest bound and fails.
def toUint16 (negative : Bool) (number : Nat) : UInt16 × Bool :=
  if 65535 < number then (65535, false)
  else (if negative then 0 - UInt16.ofNat number else UInt16.ofNat number, true)

def toInt (negative : Bool) (number : Nat) : Int × Bool :=
  let value : Int := if negative then -(number : Int) else number
  if value < -2147483648 then (-2147483648, false)
  else if 2147483647 < value then (2147483647, false)
  else (value, true)

end Extraction

example : extract toUint16 (some "22 1".toList) 0 = (22, some " 1".toList) := by decide

example : extract toUint16 (some "".toList) 7 = (7, none) := by decide

-- Where run() is. The event that it has built waits for sEventBroker.post.
inductive RunPc where
  | reading
  | readingConfig
  | posting (payload : Payload)
  | stopped
deriving DecidableEq, Repr

end EventInjector

-- ev and topic are declared outside the loop, and not initialised.
structure EventInjector where
  pc : EventInjector.RunPc
  ev : UInt16
  topic : UInt16
deriving DecidableEq, Repr

namespace EventInjector

-- getline and the switch.
def readLine (injector : EventInjector) (line : String) : EventInjector :=
  let (ev, stream) := extract toUint16 (some line.toList) injector.ev
  let (topic, _) := extract toUint16 stream injector.topic
  let pc : RunPc :=
    if ev = 0 then .stopped
    else
      match CcEvent.ofValue ev with
      | .evCameraSetConfig => .readingConfig
      | _ => .posting .event
  { pc := pc, ev := ev, topic := topic }

def readConfig (injector : EventInjector) (line : String) : EventInjector :=
  let cfg : CameraConfig := {}
  let (shutterSpeed, stream) := extract toInt (some line.toList) cfg.shutterSpeed
  let (aperture, stream) := extract toInt stream cfg.aperture
  let (iso, _) := extract toInt stream cfg.iso
  { injector with pc := .posting (.cameraConfigEvent { cfg with shutterSpeed, aperture, iso }) }

-- post() takes a uint8_t.
def target (injector : EventInjector) : UInt8 := injector.topic.toUInt8

def event (injector : EventInjector) (id : Nat) (payload : Payload) : EventPtr where
  id := id
  sig := CcEvent.ofValue injector.ev
  payload := payload

def Built (injector : EventInjector) : Prop :=
  match injector.pc with
  | .reading | .stopped => True
  | .readingConfig => CcEvent.ofValue injector.ev = .evCameraSetConfig
  | .posting payload => injector.ev ≠ 0 ∧
      (payload = .event ∧ CcEvent.ofValue injector.ev ≠ .evCameraSetConfig ∨
        CcEvent.ofValue injector.ev = .evCameraSetConfig ∧ payload.eventClass = .cameraConfigEvent)

theorem read_line_built (injector : EventInjector) (line : String) : Built (injector.readLine line) := by
  unfold readLine
  generalize extract toUint16 (some line.toList) injector.ev = first
  obtain ⟨ev, stream⟩ := first
  dsimp only
  generalize extract toUint16 stream injector.topic = second
  obtain ⟨topic, rest⟩ := second
  dsimp only
  by_cases zero : ev = 0
  · rw [if_pos zero]
    trivial
  · rw [if_neg zero]
    cases named : CcEvent.ofValue ev with
    | evCameraSetConfig => exact named
    | _ => exact ⟨zero, .inl ⟨rfl, by rw [named]; exact CcEvent.noConfusion⟩⟩

theorem read_config_built (injector : EventInjector) (line : String) (pc : injector.pc = .readingConfig) (built : Built injector) :
    Built (injector.readConfig line) := by
  simp only [Built, pc] at built
  refine ⟨?_, .inr ⟨built, rfl⟩⟩
  rintro zero
  have same : injector.ev = 0 := zero
  rw [same] at built
  cases built

end EventInjector

end CameraController
