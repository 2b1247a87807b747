import CameraController.Lib.Enumeration
import Mathlib.Data.List.Dedup

set_option autoImplicit false

namespace CameraController

namespace EventGenerator

open Enumeration

section Names

-- The zeros of the decimal digits of Unicode, each with the nine digits behind
-- it. They are what \d matches in a text pattern.
def decimalZeros : List Nat :=
  [0x30, 0x660, 0x6f0, 0x7c0, 0x966, 0x9e6, 0xa66, 0xae6, 0xb66, 0xbe6, 0xc66, 0xce6, 0xd66, 0xde6, 0xe50, 0xed0,
    0xf20, 0x1040, 0x1090, 0x17e0, 0x1810, 0x1946, 0x19d0, 0x1a80, 0x1a90, 0x1b50, 0x1bb0, 0x1c40, 0x1c50, 0xa620,
    0xa8d0, 0xa900, 0xa9d0, 0xa9f0, 0xaa50, 0xabf0, 0xff10, 0x104a0, 0x10d30, 0x11066, 0x110f0, 0x11136, 0x111d0,
    0x112f0, 0x11450, 0x114d0, 0x11650, 0x116c0, 0x11730, 0x118e0, 0x11950, 0x11c50, 0x11d50, 0x11da0, 0x16a60,
    0x16ac0, 0x16b50, 0x1d7ce, 0x1d7d8, 0x1d7e2, 0x1d7ec, 0x1d7f6, 0x1e140, 0x1e2f0, 0x1e950, 0x1fbf0]

def isDecimal (c : Char) : Bool := decimalZeros.any (fun first => first ≤ c.toNat && c.toNat ≤ first + 9)

-- [A-Z\d]
def nameChar (c : Char) : Bool := ('A' ≤ c && c ≤ 'Z') || isDecimal c

-- The whole text matches ^WORD(_[A-Z\d]+)+$.
def fullmatch (word text : String) : Bool :=
  match text.toList.splitOn '_' with
  | [] => false
  | head :: groups => head == word.toList && !groups.isEmpty && groups.all (fun group => !group.isEmpty && group.all nameChar)

structure Matches (word : List Char) (groups : List (List Char)) (text : List Char) : Prop where
  repeated : groups ≠ []
  nonempty : ∀ group ∈ groups, group ≠ []
  chars : ∀ group ∈ groups, ∀ c ∈ group, nameChar c = true
  text : text = word ++ (groups.map (List.cons '_')).flatten

theorem underscore_char : nameChar '_' = false := by decide

theorem intercalate_groups (word : List Char) (groups : List (List Char)) :
    ['_'].intercalate (word :: groups) = word ++ (groups.map (List.cons '_')).flatten := by
  induction groups generalizing word with
  | nil => simp
  | cons group groups ih => simp [List.intercalate_cons_cons, ih]

theorem fullmatch_iff (word text : String) (plain : '_' ∉ word.toList) :
    fullmatch word text = true ↔ ∃ groups, Matches word.toList groups text.toList := by
  constructor
  · intro matched
    unfold fullmatch at matched
    cases pieces : text.toList.splitOn '_' with
    | nil => simp [pieces] at matched
    | cons head groups =>
        simp [pieces] at matched
        obtain ⟨⟨same, repeated⟩, valid⟩ := matched
        refine ⟨groups, repeated, fun group mem => (valid group mem).1, fun group mem => (valid group mem).2, ?_⟩
        rw [← intercalate_groups, ← same, ← pieces, List.intercalate_splitOn]
  · rintro ⟨groups, matched⟩
    have apart : ∀ group ∈ word.toList :: groups, '_' ∉ group := by
      intro group mem
      obtain rfl | group := List.mem_cons.mp mem
      · exact plain
      · intro underscore
        simpa [underscore_char] using matched.chars _ group _ underscore
    have pieces : text.toList.splitOn '_' = word.toList :: groups := by
      rw [matched.text, ← intercalate_groups, List.splitOn_intercalate '_' apart (by simp)]
    simp [fullmatch, pieces, matched.repeated]
    exact fun group mem => ⟨matched.nonempty group mem, matched.chars group mem⟩

def hasDuplicates (names : List String) : Bool := names.length ≠ names.dedup.length

theorem has_duplicates_iff (names : List String) : hasDuplicates names = false ↔ names.Nodup := by
  simp only [hasDuplicates, decide_eq_false_iff_not, ne_eq, not_not]
  constructor
  · intro same
    exact (names.dedup_sublist.eq_of_length same.symm) ▸ names.nodup_dedup
  · intro distinct
    rw [distinct.dedup]

def checkNames (word kind : String) (names : List String) : Bool × List String :=
  let invalid := names.filter (fun name => !fullmatch word name)
  let errors := invalid.map (fun name => "Error: '" ++ name ++ "' is not a valid " ++ kind ++ " name")
  if hasDuplicates names then (false, errors ++ ["Error: Duplicate " ++ kind ++ "s found."])
  else (invalid.isEmpty, errors)

def checkEvents (eventList : List String) : Bool × List String := checkNames "EV" "event" eventList

def checkTopics (topicList : List String) : Bool × List String := checkNames "TOPIC" "topic" topicList

theorem check_names_iff (word kind : String) (names : List String) :
    (checkNames word kind names).1 = true ↔ (∀ name ∈ names, fullmatch word name = true) ∧ names.Nodup := by
  rw [← has_duplicates_iff]
  by_cases twice : hasDuplicates names = true
  · simp [checkNames, twice]
  · simp [checkNames, twice]

end Names

section Text

def endl (names : List String) (name : String) : String := if names.getLast? = some name then "" else ",\n"

-- The loops over the names, which recognise the last one by its name.
def emitted (names : List String) (item : String → String) : String :=
  names.foldl (fun text name => text ++ (item name ++ endl names name)) ""

def mapEntry (name : String) : String := "        \x7b " ++ name ++ ", " ++ ("\"" ++ name ++ "\"") ++ " \x7d"

def eventEnumStr (events : List String) : String :=
  emitted events (fun e => e ++ if events.head? = some e then " = EV_FIRST_SIGNAL" else "")

def eventMapStr (events : List String) : String := emitted events mapEntry

def topicEnumStr (topics : List String) : String := emitted topics (fun t => "    " ++ t)

def topicMapStr (topics : List String) : String := emitted topics mapEntry

-- What the script substitutes in the templates.
structure Generated where
  events : String
  topics : String
  eventMap : String
  topicMap : String
deriving DecidableEq, Repr

-- The substitutions, none when a list is rejected, and the lines that are printed.
def generate (events topics : List String) : Option Generated × List String :=
  let (eventsValid, eventErrors) := checkEvents events
  let (topicsValid, topicErrors) := checkTopics topics
  if !eventsValid then (none, eventErrors ++ ["Terminating unsuccessfully."])
  else if !topicsValid then (none, eventErrors ++ topicErrors ++ ["Terminating unsuccessfully."])
  else
    (some {
      events := eventEnumStr events
      topics := topicEnumStr topics
      eventMap := eventMapStr events
      topicMap := topicMapStr topics }, ["All files generated successfully!"])

theorem emitted_loop (item : String → String) (last : Option String) (rest : List String) (text : String)
    (distinct : rest.Nodup) (ends : rest ≠ [] → rest.getLast? = last) :
    rest.foldl (fun text name => text ++ (item name ++ if last = some name then "" else ",\n")) text =
      text ++ ",\n".intercalate (rest.map item) := by
  induction rest generalizing text with
  | nil => simp
  | cons name rest ih =>
      obtain ⟨new, distinct⟩ := List.nodup_cons.mp distinct
      simp only [List.foldl_cons, List.map_cons]
      by_cases final : rest = []
      · have here : last = some name := by simp [← ends (by simp), final]
        simp [final, here]
      · have later : rest.getLast? = last := by
          rw [← ends (by simp), List.getLast?_cons_of_ne_nil final]
        have different : last ≠ some name := by
          rintro rfl
          exact new (List.mem_of_getLast? later)
        rw [ih _ distinct (fun _ => later), if_neg different,
          String.intercalate_cons_of_ne_nil (by simpa using final)]
        simp [String.append_assoc]

theorem emitted_separated (names : List String) (item : String → String) (distinct : names.Nodup) :
    emitted names item = ",\n".intercalate (names.map item) := by
  have run := emitted_loop item names.getLast? names "" distinct (fun _ => rfl)
  simpa [emitted, endl] using run

end Text

end EventGenerator

end CameraController
