import CameraController.EventGenerator

set_option autoImplicit false

namespace CameraController

namespace EventGenerator

open Enumeration

section Identifiers

-- The characters beyond ASCII that an identifier of C++17 may hold, and those of
-- them that it may not begin with.
def identifierRanges : List (Nat × Nat) :=
  [(0xa8, 0xa8), (0xaa, 0xaa), (0xad, 0xad), (0xaf, 0xaf), (0xb2, 0xb5), (0xb7, 0xba), (0xbc, 0xbe), (0xc0, 0xd6),
    (0xd8, 0xf6), (0xf8, 0xff), (0x100, 0x167f), (0x1681, 0x180d), (0x180f, 0x1fff), (0x200b, 0x200d),
    (0x202a, 0x202e), (0x203f, 0x2040), (0x2054, 0x2054), (0x2060, 0x206f), (0x2070, 0x218f), (0x2460, 0x24ff),
    (0x2776, 0x2793), (0x2c00, 0x2dff), (0x2e80, 0x2fff), (0x3004, 0x3007), (0x3021, 0x302f), (0x3031, 0xd7ff),
    (0xf900, 0xfd3d), (0xfd40, 0xfdcf), (0xfdf0, 0xfe44), (0xfe47, 0xfffd), (0x10000, 0x1fffd), (0x20000, 0x2fffd),
    (0x30000, 0x3fffd), (0x40000, 0x4fffd), (0x50000, 0x5fffd), (0x60000, 0x6fffd), (0x70000, 0x7fffd),
    (0x80000, 0x8fffd), (0x90000, 0x9fffd), (0xa0000, 0xafffd), (0xb0000, 0xbfffd), (0xc0000, 0xcfffd),
    (0xd0000, 0xdfffd), (0xe0000, 0xefffd)]

def combiningRanges : List (Nat × Nat) := [(0x300, 0x36f), (0x1dc0, 0x1dff), (0x20d0, 0x20ff), (0xfe20, 0xfe2f)]

def within (ranges : List (Nat × Nat)) (c : Char) : Bool := ranges.any (fun range => range.1 ≤ c.toNat && c.toNat ≤ range.2)

def keywords : List String :=
  ["alignas", "alignof", "and", "and_eq", "asm", "auto", "bitand", "bitor", "bool", "break", "case", "catch", "char",
    "char16_t", "char32_t", "class", "compl", "const", "constexpr", "const_cast", "continue", "decltype", "default",
    "delete", "do", "double", "dynamic_cast", "else", "enum", "explicit", "export", "extern", "false", "float", "for",
    "friend", "goto", "if", "inline", "int", "long", "mutable", "namespace", "new", "noexcept", "not", "not_eq",
    "nullptr", "operator", "or", "or_eq", "private", "protected", "public", "register", "reinterpret_cast", "return",
    "short", "signed", "sizeof", "static", "static_assert", "static_cast", "struct", "switch", "template", "this",
    "thread_local", "throw", "true", "try", "typedef", "typeid", "typename", "union", "unsigned", "using", "virtual",
    "void", "volatile", "wchar_t", "while", "xor", "xor_eq"]

def identifierStart (c : Char) : Bool :=
  c == '_' || c.isAlpha || within identifierRanges c && !within combiningRanges c

def identifierChar (c : Char) : Bool := c == '_' || c.isAlphanum || within identifierRanges c

def isIdentifier (name : String) : Bool :=
  match name.toList with
  | [] => false
  | c :: rest => identifierStart c && rest.all identifierChar && !keywords.contains name

theorem decimal_ranges : ∀ first ∈ decimalZeros, first ≠ 0x30 →
    ∃ range ∈ identifierRanges, range.1 ≤ first ∧ first + 9 ≤ range.2 := by
  decide +kernel

theorem alpha_upper (c : Char) (upper : c.isUpper = true) : c.isAlpha = true := by
  change (c.isUpper || c.isLower) = true
  rw [upper, Bool.true_or]

theorem alphanum_upper (c : Char) (upper : c.isUpper = true) : c.isAlphanum = true := by
  change (c.isAlpha || c.isDigit) = true
  rw [alpha_upper c upper, Bool.true_or]

theorem name_char_identifier (c : Char) (valid : nameChar c = true) : identifierChar c = true := by
  simp only [nameChar, isDecimal, Bool.or_eq_true, Bool.and_eq_true, decide_eq_true_eq, List.any_eq_true] at valid
  obtain letter | ⟨first, mem, low, high⟩ := valid
  · have upper : c.isUpper = true := decide_eq_true letter
    simp [identifierChar, alphanum_upper c upper]
  · by_cases ascii : first = 0x30
    · subst ascii
      have digit : c.isDigit = true := by
        simp only [Char.isDigit, Bool.and_eq_true, decide_eq_true_eq, UInt32.le_iff_toNat_le]
        exact ⟨low, high⟩
      simp [identifierChar, Char.isAlphanum, digit]
    · obtain ⟨range, listed, above, below⟩ := decimal_ranges first mem ascii
      have inside : within identifierRanges c = true := by
        simp only [within, List.any_eq_true, Bool.and_eq_true, decide_eq_true_eq]
        exact ⟨range, listed, by omega, by omega⟩
      simp [identifierChar, inside]

theorem keywords_lower (keyword : String) (member : keyword ∈ keywords) (c : Char) (first : keyword.toList.head? = some c) :
    c.isUpper = false := by
  have all : keywords.all (fun keyword => keyword.toList.head?.all (fun c => !c.isUpper)) = true := by decide +kernel
  simpa [first] using List.all_eq_true.mp all keyword member

theorem fullmatch_chars (word text : String) (plain : '_' ∉ word.toList) (matched : fullmatch word text = true) :
    ∃ rest, text.toList = word.toList ++ rest ∧ ∀ c ∈ rest, identifierChar c = true := by
  obtain ⟨groups, valid⟩ := (fullmatch_iff word text plain).mp matched
  refine ⟨_, valid.text, ?_⟩
  intro c mem
  obtain ⟨_, piece, inside⟩ := List.mem_flatten.mp mem
  obtain ⟨group, listed, rfl⟩ := List.mem_map.mp piece
  obtain rfl | char := List.mem_cons.mp inside
  · rfl
  · exact name_char_identifier c (valid.chars group listed c char)

theorem fullmatch_identifier (word text : String) (first : Char) (tail : List Char) (shape : word.toList = first :: tail)
    (plain : '_' ∉ word.toList) (upper : first.isUpper = true) (letters : tail.all identifierChar = true)
    (matched : fullmatch word text = true) : isIdentifier text = true := by
  obtain ⟨rest, chars, valid⟩ := fullmatch_chars word text plain matched
  rw [shape] at chars
  have free : text ∉ keywords := by
    intro keyword
    have lower := keywords_lower text keyword first (by simp [chars])
    simp [lower] at upper
  have begins : identifierStart first = true := by simp [identifierStart, alpha_upper first upper]
  simp [isIdentifier, chars, begins, free]
  exact ⟨List.all_eq_true.mp letters, valid⟩

theorem decimal_first (n : Nat) (c : Char) (rest : List Char) (digits : (toString n).toList = c :: rest) : c.isDigit = true := by
  have written : (toString n).toList = Nat.toDigits 10 n := Nat.toList_repr
  have mem : c ∈ Nat.toDigits 10 n := by
    rw [← written, digits]
    exact List.mem_cons_self
  exact Nat.isDigit_of_mem_toDigits (by decide) (by decide) mem

theorem decimal_injective (m n : Nat) (same : toString m = toString n) : m = n := by
  have digits : Nat.toDigits 10 m = Nat.toDigits 10 n := by
    rw [← Nat.toList_repr, ← Nat.toList_repr]
    exact congrArg String.toList same
  rw [← Nat.ofDigitChars_ten_toDigits (n := m), digits, Nat.ofDigitChars_ten_toDigits]

end Identifiers

section Scope

def eventSignal : Scope := [("EV_ENTRY", 0), ("EV_EXIT", 1), ("EV_EMPTY", 2), ("EV_INIT", 3), ("EV_FIRST_SIGNAL", 4)]

def eventEnumerators : List String → List Enumerator
  | [] => []
  | e :: rest => ⟨e, some "EV_FIRST_SIGNAL"⟩ :: rest.map plain

def topicEnumerators (topics : List String) : List Enumerator := topics.map plain

def enumeratorText (enumerator : Enumerator) : String :=
  match enumerator.initializer with
  | none => enumerator.name
  | some value => enumerator.name ++ " = " ++ value

-- The entries of the initializer list of a map: a key, and the text of a literal.
def mapEntries (names : List String) : List (String × String) := names.map (fun name => (name, name))

def entryText (entry : String × String) : String :=
  "        \x7b " ++ entry.1 ++ ", " ++ ("\"" ++ entry.2 ++ "\"") ++ " \x7d"

structure Compiled where
  scope : Scope
  eventString : List (UInt16 × String)
  topicString : List (UInt8 × String)
deriving Repr

def initialized {K : Type} (key : Nat → K) (scope : Scope) (entries : List (String × String)) : Option (List (K × String)) :=
  entries.mapM (fun entry => (scope.lookup entry.1).map (fun value => (key value, entry.2)))

-- CCEvent and CCTopic are unscoped enumerations of uint16_t and uint8_t.
def compile (events topics : List String) : Option Compiled := do
  let scope ← declare 65535 eventSignal 0 (eventEnumerators events)
  let scope ← declare 255 scope 0 (topicEnumerators topics)
  let eventString ← initialized UInt16.ofNat scope (mapEntries events)
  let topicString ← initialized UInt8.ofNat scope (mapEntries topics)
  pure { scope, eventString, topicString }

def Compiled.getEventName (compiled : Compiled) (ev : UInt16) : String :=
  lookupOr compiled.eventString (fun ev => toString ev.toNat) ev

def Compiled.getTopicName (compiled : Compiled) (topic : UInt8) : String :=
  lookupOr compiled.topicString (fun topic => toString topic.toNat) topic

-- The enumerators have the values of their places in the lists, and the lookup
-- functions tell all values apart and give back every name.
structure Named (compiled : Compiled) (events topics : List String) : Prop where
  eventValue : ∀ i (h : i < events.length), compiled.scope.lookup events[i] = some (4 + i) ∧ 4 + i < 65536
  topicValue : ∀ i (h : i < topics.length), compiled.scope.lookup topics[i] = some i ∧ i < 256
  eventInjective : Function.Injective compiled.getEventName
  topicInjective : Function.Injective compiled.getTopicName
  eventName : ∀ i (h : i < events.length), compiled.getEventName (UInt16.ofNat (4 + i)) = events[i]
  topicName : ∀ i (h : i < topics.length), compiled.getTopicName (UInt8.ofNat i) = topics[i]

structure ValidCode (code : Generated) (events topics : List String) : Prop where
  eventEnum : code.events = ",\n".intercalate ((eventEnumerators events).map enumeratorText)
  topicEnum : code.topics = ",\n".intercalate ((topicEnumerators topics).map (fun e => "    " ++ enumeratorText e))
  eventMap : code.eventMap = ",\n".intercalate ((mapEntries events).map entryText)
  topicMap : code.topicMap = ",\n".intercalate ((mapEntries topics).map entryText)
  identifiers : ∀ name ∈ events ++ topics, isIdentifier name = true
  distinct : (eventSignal.map Prod.fst ++ (events ++ topics)).Nodup
  compiles : ∃ compiled, compile events topics = some compiled ∧ Named compiled events topics

def ValidOutput (events topics : List String) : Prop :=
  ∃ code, (generate events topics).1 = some code ∧ ValidCode code events topics

end Scope

section Compilation

variable {K : Type}

def table (key : Nat → K) (next : Nat) (names : List String) : List (K × String) :=
  (names.zipIdx next).map (fun entry => (key entry.2, entry.1))

theorem initialized_numbered (key : Nat → K) (scope : Scope) (names : List String) (next : Nat)
    (declared : ∀ entry ∈ names.zipIdx next, scope.lookup entry.1 = some entry.2) :
    initialized key scope (mapEntries names) = some (table key next names) := by
  induction names generalizing next with
  | nil => rfl
  | cons name names ih =>
      have first : scope.lookup name = some next := declared (name, next) (by simp)
      have rest := ih (next + 1) (fun entry mem => declared entry (by simp [mem]))
      simp only [initialized, mapEntries] at rest
      simp [initialized, mapEntries, first, rest, table]

theorem table_keys (key : Nat → K) (toNat : K → Nat) (limit next : Nat) (names : List String)
    (back : ∀ n ≤ limit, toNat (key n) = n) (short : next + names.length ≤ limit + 1) :
    ((table key next names).map Prod.fst).Nodup := by
  rw [table, List.map_map]
  have keys : (names.zipIdx next).map (Prod.fst ∘ fun entry => (key entry.2, entry.1)) =
      (List.range' next names.length).map key := by
    rw [← List.zipIdx_map_snd, List.map_map]
    rfl
  rw [keys]
  refine List.Nodup.map_on ?_ List.nodup_range'
  intro left leftMem right rightMem same
  have leftBound := List.mem_range'_1.mp leftMem
  have rightBound := List.mem_range'_1.mp rightMem
  rw [← back left (by omega), ← back right (by omega), same]

theorem table_names (key : Nat → K) (next : Nat) (names : List String) :
    (table key next names).map Prod.snd = names := by
  rw [table, List.map_map]
  exact List.zipIdx_map_fst next names

theorem table_lookup [DecidableEq K] (key : Nat → K) (toNat : K → Nat) (limit next : Nat) (names : List String)
    (back : ∀ n ≤ limit, toNat (key n) = n) (same : Function.Injective toNat)
    (short : next + names.length ≤ limit + 1) (distinct : names.Nodup)
    (nondecimal : ∀ name ∈ names, ∀ n : Nat, name ≠ toString n) :
    Function.Injective (lookupOr (table key next names) (fun k => toString (toNat k))) ∧ ∀ i (h : i < names.length),
      lookupOr (table key next names) (fun k => toString (toNat k)) (key (next + i)) = names[i] := by
  constructor
  · apply lookup_or_injective
    · rwa [table_names]
    · intro k listed
      rw [table_names] at listed
      exact nondecimal _ listed (toNat k) rfl
    · intro left right decimal
      exact same (decimal_injective _ _ decimal)
  · intro i h
    apply lookup_or_mem
    · exact table_keys key toNat limit next names back short
    · have entry : (names[i], next + i) ∈ names.zipIdx next :=
        List.mem_iff_getElem.mpr ⟨i, by simpa using h, by simp⟩
      exact List.mem_map.mpr ⟨_, entry, rfl⟩

theorem declare_events (limit : Nat) (events : List String) (result : Scope) (wide : 4 ≤ limit) :
    declare limit eventSignal 0 (eventEnumerators events) = some result ↔
      result = numbered 4 events ++ eventSignal ∧ events.Nodup ∧ (∀ e ∈ events, e ∉ eventSignal.map Prod.fst) ∧
        4 + events.length ≤ limit + 1 := by
  rw [← declare_plain_iff limit 4 eventSignal result events (by omega)]
  cases events with
  | nil => rfl
  | cons e rest => rw [eventEnumerators, declare_initialized limit 0 4 eventSignal e "EV_FIRST_SIGNAL" rest rfl]

end Compilation

section Acceptance

theorem accepted_event (events : List String) (accepted : (checkEvents events).1 = true) :
    events.Nodup ∧ ∀ e ∈ events, isIdentifier e = true ∧ e.toList.head? = some 'E' := by
  obtain ⟨matched, distinct⟩ := (check_names_iff "EV" "event" events).mp accepted
  refine ⟨distinct, fun e mem => ?_⟩
  obtain ⟨rest, chars, _⟩ := fullmatch_chars "EV" e (by decide) (matched e mem)
  exact ⟨fullmatch_identifier "EV" e 'E' ['V'] rfl (by decide) rfl (by decide) (matched e mem), by simp [chars]⟩

theorem accepted_topic (topics : List String) (accepted : (checkTopics topics).1 = true) :
    topics.Nodup ∧ ∀ t ∈ topics, isIdentifier t = true ∧ t.toList.head? = some 'T' := by
  obtain ⟨matched, distinct⟩ := (check_names_iff "TOPIC" "topic" topics).mp accepted
  refine ⟨distinct, fun t mem => ?_⟩
  obtain ⟨rest, chars, _⟩ := fullmatch_chars "TOPIC" t (by decide) (matched t mem)
  exact ⟨fullmatch_identifier "TOPIC" t 'T' ['O', 'P', 'I', 'C'] rfl (by decide) rfl (by decide) (matched t mem), by simp [chars]⟩

theorem nondecimal (name : String) (c : Char) (first : name.toList.head? = some c) (letter : c.isDigit = false) (n : Nat) :
    name ≠ toString n := by
  rintro rfl
  obtain ⟨rest, shape⟩ := List.head?_eq_some_iff.mp first
  simp [decimal_first n c rest shape] at letter

theorem signals_first : ∀ name ∈ eventSignal.map Prod.fst, name.toList.head? = some 'E' := by decide

theorem topic_fresh (events : List String) (t : String) (eventFirst : ∀ e ∈ events, e.toList.head? = some 'E')
    (topicFirst : t.toList.head? = some 'T') : t ∉ eventSignal.map Prod.fst ∧ t ∉ events := by
  have apart : t.toList.head? ≠ some 'E' := by simp [topicFirst]
  exact ⟨fun mem => apart (signals_first t mem), fun mem => apart (eventFirst t mem)⟩

-- What is left for a pair of accepted lists to give valid code.
structure Fits (events topics : List String) : Prop where
  free : ∀ e ∈ events, e ∉ eventSignal.map Prod.fst
  events : events.length ≤ 65532
  topics : topics.length ≤ 256

theorem declared_scope (events topics : List String) (eventsAccepted : (checkEvents events).1 = true)
    (topicsAccepted : (checkTopics topics).1 = true) (fits : Fits events topics) :
    declare 65535 eventSignal 0 (eventEnumerators events) = some (numbered 4 events ++ eventSignal) ∧
      declare 255 (numbered 4 events ++ eventSignal) 0 (topicEnumerators topics) =
        some (numbered 0 topics ++ (numbered 4 events ++ eventSignal)) ∧
      (eventSignal.map Prod.fst ++ (events ++ topics)).Nodup := by
  obtain ⟨eventsDistinct, event⟩ := accepted_event events eventsAccepted
  obtain ⟨topicsDistinct, topic⟩ := accepted_topic topics topicsAccepted
  have fresh : ∀ t ∈ topics, t ∉ eventSignal.map Prod.fst ∧ t ∉ events := fun t mem =>
    topic_fresh events t (fun e listed => (event e listed).2) (topic t mem).2
  refine ⟨?_, ?_, ?_⟩
  · exact (declare_events 65535 events _ (by omega)).mpr ⟨rfl, eventsDistinct, fits.free, by have := fits.events; omega⟩
  · refine (declare_plain_iff 255 0 _ _ topics (by omega)).mpr ⟨rfl, topicsDistinct, ?_, by have := fits.topics; omega⟩
    intro t mem
    rw [List.map_append, numbered_names]
    simpa using (fresh t mem).symm
  · rw [List.nodup_append', List.nodup_append']
    refine ⟨by decide, ⟨eventsDistinct, topicsDistinct, ?_⟩, ?_⟩
    · exact fun e listed other => (fresh e other).2 listed
    · intro name signal listed
      obtain isEvent | isTopic := List.mem_append.mp listed
      · exact fits.free name isEvent signal
      · exact (fresh name isTopic).1 signal

theorem scope_lookup (events topics : List String) (distinct : (eventSignal.map Prod.fst ++ (events ++ topics)).Nodup)
    (name : String) (value : Nat) (entry : (name, value) ∈ events.zipIdx 4 ∨ (name, value) ∈ topics.zipIdx 0) :
    (numbered 0 topics ++ (numbered 4 events ++ eventSignal)).lookup name = some value := by
  apply lookup_mem
  · rw [List.map_append, List.map_append, numbered_names, numbered_names]
    have forward : (topics.reverse ++ (events.reverse ++ eventSignal.map Prod.fst)).Perm
        (topics ++ (events ++ eventSignal.map Prod.fst)) :=
      topics.reverse_perm.append (events.reverse_perm.append_right _)
    have order : (topics ++ (events ++ eventSignal.map Prod.fst)).Perm (eventSignal.map Prod.fst ++ (events ++ topics)) := by
      rw [← List.append_assoc (eventSignal.map Prod.fst)]
      exact List.perm_append_comm.trans (List.perm_append_comm.append_right topics)
    exact (forward.trans order).nodup_iff.mpr distinct
  · simp only [numbered, List.mem_append, List.mem_reverse]
    obtain event | topic := entry
    · exact .inr (.inl event)
    · exact .inl topic

theorem compile_fits (events topics : List String) (eventsAccepted : (checkEvents events).1 = true)
    (topicsAccepted : (checkTopics topics).1 = true) (fits : Fits events topics) :
    ∃ compiled, compile events topics = some compiled ∧ Named compiled events topics := by
  obtain ⟨eventsDistinct, event⟩ := accepted_event events eventsAccepted
  obtain ⟨topicsDistinct, topic⟩ := accepted_topic topics topicsAccepted
  obtain ⟨eventsDeclared, topicsDeclared, distinct⟩ := declared_scope events topics eventsAccepted topicsAccepted fits
  have short := fits.events
  have small := fits.topics
  have value := scope_lookup events topics distinct
  have eventTable := initialized_numbered UInt16.ofNat _ events 4 (fun entry mem => value entry.1 entry.2 (.inl mem))
  have topicTable := initialized_numbered UInt8.ofNat _ topics 0 (fun entry mem => value entry.1 entry.2 (.inr mem))
  obtain ⟨eventInjective, eventName⟩ := table_lookup UInt16.ofNat UInt16.toNat 65535 4 events
    (fun n low => UInt16.toNat_ofNat_of_lt' (by simp [UInt16.size]; omega)) (fun _ _ same => UInt16.toNat_inj.mp same)
    (by omega) eventsDistinct (fun e mem => nondecimal e 'E' (event e mem).2 rfl)
  obtain ⟨topicInjective, topicName⟩ := table_lookup UInt8.ofNat UInt8.toNat 255 0 topics
    (fun n low => UInt8.toNat_ofNat_of_lt' (by simp [UInt8.size]; omega)) (fun _ _ same => UInt8.toNat_inj.mp same)
    (by omega) topicsDistinct (fun t mem => nondecimal t 'T' (topic t mem).2 rfl)
  have compiled : compile events topics = some {
      scope := numbered 0 topics ++ (numbered 4 events ++ eventSignal)
      eventString := table UInt16.ofNat 4 events
      topicString := table UInt8.ofNat 0 topics } := by
    simp [compile, eventsDeclared, topicsDeclared, eventTable, topicTable]
  refine ⟨_, compiled, ?_, ?_, ?_, ?_, ?_, ?_⟩
  · intro i h
    have entry : (events[i], 4 + i) ∈ events.zipIdx 4 := List.mem_iff_getElem.mpr ⟨i, by simpa using h, by simp⟩
    exact ⟨value _ _ (.inl entry), by omega⟩
  · intro i h
    have entry : (topics[i], i) ∈ topics.zipIdx 0 := List.mem_iff_getElem.mpr ⟨i, by simpa using h, by simp⟩
    exact ⟨value _ _ (.inr entry), by omega⟩
  · exact eventInjective
  · exact topicInjective
  · exact eventName
  · simp only [Nat.zero_add] at topicName
    exact topicName

theorem event_enum_text (events : List String) (distinct : events.Nodup) :
    eventEnumStr events = ",\n".intercalate ((eventEnumerators events).map enumeratorText) := by
  rw [eventEnumStr, emitted_separated events _ distinct]
  cases events with
  | nil => rfl
  | cons e rest =>
      obtain ⟨new, _⟩ := List.nodup_cons.mp distinct
      have later : rest.map (fun name => name ++ if (e :: rest).head? = some name then " = EV_FIRST_SIGNAL" else "") =
          (rest.map plain).map enumeratorText := by
        rw [List.map_map]
        refine List.map_congr_left (fun name mem => ?_)
        have different : e ≠ name := fun same => new (same ▸ mem)
        simp [different, plain, enumeratorText]
      rw [List.map_cons, later, List.head?_cons, if_pos rfl]
      simp [eventEnumerators, enumeratorText, String.append_assoc]

theorem map_text (names : List String) (distinct : names.Nodup) :
    emitted names mapEntry = ",\n".intercalate ((mapEntries names).map entryText) := by
  rw [emitted_separated names mapEntry distinct, mapEntries, List.map_map]
  rfl

theorem topic_enum_text (topics : List String) (distinct : topics.Nodup) :
    topicEnumStr topics = ",\n".intercalate ((topicEnumerators topics).map (fun e => "    " ++ enumeratorText e)) := by
  rw [topicEnumStr, emitted_separated topics _ distinct, topicEnumerators, List.map_map]
  rfl

theorem valid_output_iff (events topics : List String) (eventsAccepted : (checkEvents events).1 = true)
    (topicsAccepted : (checkTopics topics).1 = true) : ValidOutput events topics ↔ Fits events topics := by
  obtain ⟨eventsDistinct, event⟩ := accepted_event events eventsAccepted
  obtain ⟨topicsDistinct, topic⟩ := accepted_topic topics topicsAccepted
  constructor
  · rintro ⟨code, _, valid⟩
    obtain ⟨compiled, _, named⟩ := valid.compiles
    refine ⟨?_, ?_, ?_⟩
    · intro e mem signal
      exact List.disjoint_of_nodup_append valid.distinct signal (List.mem_append_left topics mem)
    · by_contra long
      have := (named.eventValue 65532 (by omega)).2
      omega
    · by_contra long
      have := (named.topicValue 256 (by omega)).2
      omega
  · intro fits
    obtain ⟨_, _, distinct⟩ := declared_scope events topics eventsAccepted topicsAccepted fits
    have generated : (generate events topics).1 = some {
        events := eventEnumStr events
        topics := topicEnumStr topics
        eventMap := eventMapStr events
        topicMap := topicMapStr topics } := by
      simp [generate, eventsAccepted, topicsAccepted]
    exact ⟨_, generated, {
      eventEnum := event_enum_text events eventsDistinct
      topicEnum := topic_enum_text topics topicsDistinct
      eventMap := map_text events eventsDistinct
      topicMap := map_text topics topicsDistinct
      identifiers := by
        intro name mem
        obtain e | t := List.mem_append.mp mem
        · exact (event name e).1
        · exact (topic name t).1
      distinct := distinct
      compiles := compile_fits events topics eventsAccepted topicsAccepted fits }⟩

theorem valid_output_camera : ValidOutput ["EV_CAMERA_CONNECT", "EV_CAMERA_CONNECTED"] ["TOPIC_CAMERA_CMD"] :=
  (valid_output_iff ["EV_CAMERA_CONNECT", "EV_CAMERA_CONNECTED"] ["TOPIC_CAMERA_CMD"] (by decide +kernel)
    (by decide +kernel)).mpr ⟨by decide, by decide, by decide⟩

theorem reserved_event_accepted : ¬ ∀ events topics : List String, (checkEvents events).1 = true →
    (checkTopics topics).1 = true → ValidOutput events topics := by
  intro valid
  obtain ⟨code, _, output⟩ := valid ["EV_ENTRY"] ["TOPIC_CAMERA_CMD"] (by decide +kernel) (by decide +kernel)
  exact absurd output.distinct (by decide)

end Acceptance

end EventGenerator

end CameraController
