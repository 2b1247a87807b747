import CameraController.EventInjector

set_option autoImplicit false

namespace CameraController

namespace EventInjector

open CameraStringConversion

section Loop

-- What one turn of the while loop did: the line that it read at the event
-- prompt, none at the end of the input; whether the input had ended by the time
-- of the post; and the signal and topic that were posted.
structure Turn where
  line : Option String
  ended : Bool
  posted : Option (UInt16 × UInt8)
deriving DecidableEq, Repr

-- At the end of the input getline leaves the string empty.
def getline : List String → String × List String
  | [] => ("", [])
  | text :: rest => (text, rest)

def turn (injector : EventInjector) (input : List String) : Turn × EventInjector × List String :=
  let (text, rest) := getline input
  let read := injector.readLine text
  match read.pc with
  | .readingConfig =>
      let (parameters, left) := getline rest
      let configured := read.readConfig parameters
      ({ line := input.head?, ended := rest.isEmpty, posted := some (configured.ev, configured.target) },
        { configured with pc := .reading }, left)
  | .posting _ =>
      ({ line := input.head?, ended := input.isEmpty, posted := some (read.ev, read.target) },
        { read with pc := .reading }, rest)
  | _ => ({ line := input.head?, ended := input.isEmpty, posted := none }, read, rest)

-- The first n turns, or fewer when event 0 ends the loop before. stop() ends it
-- after any number of turns.
def turns : Nat → EventInjector → List String → List Turn
  | 0, _, _ => []
  | n + 1, injector, input =>
      match injector.pc with
      | .reading =>
          let (turn, next, rest) := injector.turn input
          turn :: turns n next rest
      | _ => []

end Loop

section Lines

-- An unsigned decimal number of at most bound behind blanks, and what follows it.
def unsignedNumber (bound : Nat) (text : List Char) : Option (Nat × List Char) :=
  let (negative, number) := signed (text.dropWhile isSpace)
  if negative = true ∨ (digits number).isEmpty = true ∨ bound < decimal (digits number) then none
  else some (decimal (digits number), number.dropWhile Char.isDigit)

def eventAndTopic (line : String) : Option (UInt16 × UInt8) :=
  match unsignedNumber 65535 line.toList with
  | none => none
  | some (ev, rest) => (unsignedNumber 255 rest).map (fun topic => (UInt16.ofNat ev, UInt8.ofNat topic.1))

def reaction (line : String) : Option (UInt16 × UInt8) := (eventAndTopic line).filter (fun post => post.1 ≠ 0)

-- Every post is the reaction to the line of its turn, and none comes after the
-- end of the input.
def Determined (turn : Turn) : Prop :=
  (∀ line, turn.line = some line → turn.posted = reaction line) ∧ (turn.ended = true → turn.posted = none)

def Blank (line : String) : Prop := line.toList.dropWhile isSpace = []

def Zero (line : String) : Prop := ¬ Blank line ∧ decimal (digits (signed (line.toList.dropWhile isSpace)).2) = 0

-- ev is what the variable holds when the line is read.
def Clear (ev : UInt16) (line : String) : Prop := (eventAndTopic line).isSome = true ∨ Zero line ∨ Blank line ∧ ev = 0

def AsksConfig (post : Option (UInt16 × UInt8)) : Prop :=
  ∃ ev topic, post = some (ev, topic) ∧ CcEvent.ofValue ev = .evCameraSetConfig

-- Every line read at the prompt is clear, the empty string that getline leaves
-- at the end of the input included, and EV_CAMERA_SET_CONFIG is followed by a
-- line of parameters.
def ClearInput : Nat → EventInjector → List String → Prop
  | 0, _, _ => True
  | n + 1, injector, input => injector.pc = .reading →
      Clear injector.ev (getline input).1 ∧
      (AsksConfig (reaction (getline input).1) → (getline input).2 ≠ []) ∧
      ClearInput n (injector.turn input).2.1 (injector.turn input).2.2

end Lines

section Reading

theorem extract_blank {A : Type} (convert : Bool → Nat → A × Bool) (text : List Char) (before : A)
    (blank : text.dropWhile isSpace = []) : extract convert (some text) before = (before, none) := by
  simp [extract, blank]

theorem extract_value (text : List Char) (before : UInt16) (some : text.dropWhile isSpace ≠ []) :
    (extract toUint16 (.some text) before).1 =
      (toUint16 (signed (text.dropWhile isSpace)).1 (decimal (digits (signed (text.dropWhile isSpace)).2))).1 := by
  obtain ⟨c, rest, shape⟩ := List.exists_cons_of_ne_nil some
  simp only [extract, shape]
  by_cases empty : (digits (signed (c :: rest)).2).isEmpty = true
  · have none : digits (signed (c :: rest)).2 = [] := List.isEmpty_iff.mp empty
    simp [none, decimal, toUint16]
  · simp [empty]

theorem of_nat_zero (n : Nat) (small : n ≤ 65535) : UInt16.ofNat n = 0 ↔ n = 0 := by
  rw [← UInt16.toNat_inj, UInt16.toNat_ofNat_of_lt' (by simp [UInt16.size]; omega)]
  simp

theorem to_uint16_zero (negative : Bool) (n : Nat) : (toUint16 negative n).1 = 0 ↔ n = 0 := by
  by_cases large : 65535 < n
  · simp [toUint16, large]
    omega
  · have zero := of_nat_zero n (by omega)
    have opposite : -UInt16.ofNat n = 0 ↔ UInt16.ofNat n = 0 := by grind
    cases negative with
    | true => simp [toUint16, large, opposite, zero]
    | false => simp [toUint16, large, zero]

theorem unsigned_extracted (bound : Nat) (small : bound ≤ 65535) (text rest : List Char) (before : UInt16) (n : Nat)
    (number : unsignedNumber bound text = some (n, rest)) :
    n ≤ bound ∧ extract toUint16 (some text) before = (UInt16.ofNat n, some rest) := by
  simp [unsignedNumber] at number
  obtain ⟨⟨positive, some, low⟩, rfl, rfl⟩ := number
  have shape : text.dropWhile isSpace ≠ [] := fun blank => by simp [blank, signed, digits] at some
  obtain ⟨c, tail, text⟩ := List.exists_cons_of_ne_nil shape
  simp only [text] at positive some low ⊢
  have fits : ¬ 65535 < decimal (digits (signed (c :: tail)).2) := by omega
  exact ⟨low, by simp [extract, text, toUint16, positive, some, fits]⟩

theorem read_blank (injector : EventInjector) (line : String) (blank : Blank line) :
    (injector.readLine line).ev = injector.ev := by
  simp [readLine, extract_blank toUint16 _ injector.ev blank]

theorem read_some (injector : EventInjector) (line : String) (some : ¬ Blank line) :
    (injector.readLine line).ev = 0 ↔ decimal (digits (signed (line.toList.dropWhile isSpace)).2) = 0 := by
  have value := extract_value line.toList injector.ev some
  rw [← to_uint16_zero, ← value]
  rfl

theorem event_and_topic (line : String) (ev : UInt16) (topic : UInt8) (numbers : eventAndTopic line = some (ev, topic)) :
    ∃ n rest m left, unsignedNumber 65535 line.toList = some (n, rest) ∧ unsignedNumber 255 rest = some (m, left) ∧
      ev = UInt16.ofNat n ∧ topic = UInt8.ofNat m := by
  unfold eventAndTopic at numbers
  cases first : unsignedNumber 65535 line.toList with
  | none => simp [first] at numbers
  | some number =>
      cases second : unsignedNumber 255 number.2 with
      | none => simp [first, second] at numbers
      | some other =>
          simp [first, second] at numbers
          exact ⟨number.1, number.2, other.1, other.2, rfl, second, numbers.1.symm, numbers.2.symm⟩

theorem read_numbers (injector : EventInjector) (line : String) (ev : UInt16) (topic : UInt8)
    (numbers : eventAndTopic line = some (ev, topic)) :
    (injector.readLine line).ev = ev ∧ (injector.readLine line).target = topic := by
  obtain ⟨n, rest, m, left, first, second, rfl, rfl⟩ := event_and_topic line ev topic numbers
  have evRead := (unsigned_extracted 65535 (by decide) line.toList rest injector.ev n first).2
  obtain ⟨low, topicRead⟩ := unsigned_extracted 255 (by decide) rest left injector.topic m second
  refine ⟨by simp [readLine, evRead], ?_⟩
  simp [readLine, target, evRead, topicRead]

end Reading

section Reactions

def readPost (injector : EventInjector) (line : String) : Option (UInt16 × UInt8) :=
  if (injector.readLine line).ev = 0 then none
  else some ((injector.readLine line).ev, (injector.readLine line).target)

theorem read_post_iff (injector : EventInjector) (line : String) :
    injector.readPost line = reaction line ↔ Clear injector.ev line := by
  constructor
  · intro same
    by_contra unclear
    obtain ⟨numbers, zero, empty⟩ := not_or.mp unclear |>.imp_right not_or.mp
    have none : reaction line = none := by
      rw [reaction, Option.not_isSome_iff_eq_none.mp numbers]
      rfl
    have posts : (injector.readLine line).ev = 0 := by
      by_contra nonzero
      simp [readPost, nonzero, none] at same
    by_cases blank : Blank line
    · exact empty ⟨blank, by rwa [read_blank injector line blank] at posts⟩
    · exact zero ⟨blank, (read_some injector line blank).mp posts⟩
  · intro clear
    cases numbers : eventAndTopic line with
    | some post =>
        obtain ⟨ev, topic⟩ := post
        obtain ⟨evRead, topicRead⟩ := read_numbers injector line ev topic numbers
        by_cases zero : ev = 0
        · simp [readPost, reaction, numbers, evRead, zero, Option.filter_some]
        · simp [readPost, reaction, numbers, evRead, topicRead, zero, Option.filter_some]
    | none =>
        have stops : (injector.readLine line).ev = 0 := by
          obtain some | zero | empty := clear
          · simp [numbers] at some
          · exact (read_some injector line zero.1).mpr zero.2
          · rw [read_blank injector line empty.1, empty.2]
        simp [readPost, reaction, numbers, stops]

theorem read_line_pc (injector : EventInjector) (line : String) : (injector.readLine line).pc =
    if (injector.readLine line).ev = 0 then .stopped
    else if CcEvent.ofValue (injector.readLine line).ev = .evCameraSetConfig then .readingConfig
    else .posting .event := by
  unfold readLine
  generalize extract toUint16 (some line.toList) injector.ev = first
  obtain ⟨ev, stream⟩ := first
  dsimp only
  by_cases zero : ev = 0
  · rw [if_pos zero, if_pos zero]
  · rw [if_neg zero, if_neg zero]
    cases named : CcEvent.ofValue ev with
    | evCameraSetConfig => rfl
    | _ => rfl

theorem turn_cases (injector : EventInjector) (input : List String) :
    (injector.turn input).1.line = input.head? ∧
      (injector.turn input).1.posted = injector.readPost (getline input).1 ∧
      ((injector.turn input).1.ended = true ↔
        input = [] ∨ AsksConfig (injector.readPost (getline input).1) ∧ (getline input).2 = []) := by
  have pc := read_line_pc injector (getline input).1
  have short : input = [] → (getline input).2 = [] := by
    rintro rfl
    rfl
  by_cases zero : (injector.readLine (getline input).1).ev = 0
  · rw [if_pos zero] at pc
    simp [turn, pc, readPost, zero, AsksConfig]
  · rw [if_neg zero] at pc
    by_cases config : CcEvent.ofValue (injector.readLine (getline input).1).ev = .evCameraSetConfig
    · rw [if_pos config] at pc
      simp [turn, pc, readPost, zero, AsksConfig, config]
      exact ⟨⟨rfl, rfl⟩, short⟩
    · rw [if_neg config] at pc
      simp [turn, pc, readPost, zero, AsksConfig, config]

theorem determined_turn_iff (injector : EventInjector) (input : List String) :
    Determined (injector.turn input).1 ↔ Clear injector.ev (getline input).1 ∧
      (AsksConfig (reaction (getline input).1) → (getline input).2 ≠ []) := by
  obtain ⟨line, posted, ended⟩ := turn_cases injector input
  rw [Determined, line, posted, ended, ← read_post_iff]
  cases input with
  | nil =>
      have none : reaction (getline []).1 = none := by decide
      simp [none, AsksConfig]
  | cons text rest =>
      change (∀ line, some text = some line → injector.readPost text = reaction line) ∧
        (text :: rest = [] ∨ AsksConfig (injector.readPost text) ∧ rest = [] → injector.readPost text = none) ↔
        injector.readPost text = reaction text ∧ (AsksConfig (reaction text) → rest ≠ [])
      constructor
      · rintro ⟨reacts, quiet⟩
        have same := reacts text rfl
        refine ⟨same, fun asks last => ?_⟩
        rw [← same] at asks
        obtain ⟨ev, topic, posts, _⟩ := asks
        rw [quiet (.inr ⟨⟨ev, topic, posts, by assumption⟩, last⟩)] at posts
        cases posts
      · rintro ⟨same, followed⟩
        refine ⟨fun line read => by cases read; exact same, fun late => ?_⟩
        rw [same] at late
        obtain impossible | ⟨asks, last⟩ := late
        · cases impossible
        · exact absurd last (followed asks)

-- By induction on the number of turns: the turn that is taken is determined
-- exactly when its line is clear.
theorem reaction_by_line_iff (n : Nat) (injector : EventInjector) (input : List String) :
    (∀ turn ∈ turns n injector input, Determined turn) ↔ ClearInput n injector input := by
  induction n generalizing injector input with
  | zero => simp [turns, ClearInput]
  | succ n ih =>
      cases pc : injector.pc with
      | reading =>
          have first := determined_turn_iff injector input
          simp only [turns, ClearInput, pc, List.forall_mem_cons, first, ih, and_assoc, true_implies]
      | _ => simp [turns, ClearInput, pc]

theorem empty_line_reposts : ¬ ∀ turn ∈ turns 2 { pc := .reading, ev := 0, topic := 0 } ["11 0", "", "0"], Determined turn := by
  intro determined
  have second := determined { line := some "", ended := false, posted := some (11, 0) } (by decide)
  have reacts := second.1 "" rfl
  revert reacts
  decide

end Reactions

end EventInjector

end CameraController
