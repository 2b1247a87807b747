import Mathlib.Data.List.Chain
import CameraController.Lib.Prog
import CameraController.Lib.Transition

set_option autoImplicit false

namespace CameraController

open Effects Transition

inductive LogLevel where
  | logDebug
  | logInfo
  | logWarning
  | logError
deriving DecidableEq, Repr

namespace LogLevel

def value : LogLevel → Nat
  | .logDebug => 0
  | .logInfo => 1
  | .logWarning => 2
  | .logError => 3

def levelString : LogLevel → String
  | .logDebug => "DEBUG"
  | .logInfo => "INFO"
  | .logWarning => "WARNING"
  | .logError => "ERROR"

end LogLevel

-- S stands for ostream pointers.
structure LogStream (S : Type) where
  stream : S
  level : LogLevel
deriving DecidableEq, Repr

-- written lists the lines that reached the streams; no function reads it.
structure Logger (S : Type) where
  streams : List (LogStream S)
  written : List (S × String)
deriving DecidableEq, Repr

namespace Logger

variable {S : Type}

def construct (streams : List (LogStream S)) : Logger S where
  streams := streams
  written := []

def setStreams (streams : List (LogStream S)) : Prog (Logger S) Empty Unit :=
  Prog.modify (fun logger => { logger with streams := streams })

section Iterators

-- An iterator is an index into streams, and end() is its length.
def deref (it : Nat) : Prog (Logger S) Empty (LogStream S) := do
  let logger ← Prog.get
  match logger.streams[it]? with
  | some entry => pure entry
  | none => Prog.fault .outOfBounds

def advance (it : Nat) : Prog (Logger S) Empty Nat := do
  let logger ← Prog.get
  if it < logger.streams.length then pure (it + 1) else Prog.fault .outOfBounds

-- The iterator behind the erased element has the same index.
def erase (it : Nat) : Prog (Logger S) Empty Nat := do
  let logger ← Prog.get
  if it < logger.streams.length then
    setStreams (logger.streams.eraseIdx it)
    pure it
  else Prog.fault .outOfBounds

end Iterators

section Functions

variable [DecidableEq S]

-- The loops that set the level of the first entry of a stream, and return then.
def relevel (stream : S) (level : LogLevel) : List (LogStream S) → Option (List (LogStream S))
  | [] => none
  | s :: rest =>
      if s.stream = stream then some ({ s with level := level } :: rest)
      else (relevel stream level rest).map (s :: ·)

def addStream (stream : S) (minlevel : LogLevel) : Prog (Logger S) Empty Unit := do
  let logger ← Prog.get
  match relevel stream minlevel logger.streams with
  | some streams => setStreams streams
  | none => setStreams (logger.streams ++ [{ stream := stream, level := minlevel }])

def examine (stream : S) (it : Nat) : Prog (Logger S) Empty Nat := do
  let entry ← deref it
  if entry.stream = stream then erase it else pure it

-- The for loop makes n turns at most.
def removeFrom (stream : S) : Nat → Nat → Prog (Logger S) Empty Unit
  | 0, _ => Prog.fault .outOfFuel
  | n + 1, it => do
      let logger ← Prog.get
      if it ≠ logger.streams.length then
        let it ← examine stream it
        let it ← advance it
        removeFrom stream n it
      else pure ()

def removeStream (n : Nat) (stream : S) : Prog (Logger S) Empty Unit := removeFrom stream n 0

def clearStreams : Prog (Logger S) Empty Unit := setStreams []

def setLevel (stream : S) (level : LogLevel) : Prog (Logger S) Empty Unit := do
  let logger ← Prog.get
  match relevel stream level logger.streams with
  | some streams => setStreams streams
  | none => pure ()

end Functions

def getLogLevelString (level : LogLevel) : String := "[" ++ level.levelString ++ "]"

-- What is written for one message. time is the formatted clock; setw(10) with
-- left fills up the level.
def line (time : String) (level : LogLevel) (str : String) : String :=
  let tag := getLogLevelString level
  time ++ tag ++ String.ofList (List.replicate (10 - tag.length) ' ') ++ str ++ "\n"

def log (time : String) (level : LogLevel) (str : String) : Prog (Logger S) Empty Unit :=
  Prog.modify fun logger =>
    { logger with
      written := logger.written ++ (logger.streams.filter (fun entry => entry.level.value ≤ level.value)).map
        (fun entry => (entry.stream, line time level str)) }

inductive Request (S : Type) where
  | addStream (stream : S) (minlevel : LogLevel)
  | removeStream (stream : S)
  | clearStreams
  | setLevel (stream : S) (level : LogLevel)
  | log (time : String) (level : LogLevel) (str : String)
deriving DecidableEq, Repr

def perform [DecidableEq S] (n : Nat) : Request S → Prog (Logger S) Empty Unit
  | .addStream stream minlevel => addStream stream minlevel
  | .removeStream stream => removeStream n stream
  | .clearStreams => clearStreams
  | .setLevel stream level => setLevel stream level
  | .log time level str => log time level str

def Step [DecidableEq S] (before : Logger S) (request : Request S) (after : Logger S) : Prop :=
  ∃ n, perform n request before = .ok () after

section Sweep

variable {A : Type} (p : A → Bool)

-- What the loop makes of the rest of a list: an element that is erased takes
-- the place of the next one, which is then passed over unseen. Behind an erased
-- last element there is nothing to pass over.
def sweep : List A → Option (List A)
  | [] => some []
  | [x] => if p x then none else some [x]
  | x :: y :: rest => if p x then (sweep rest).map (y :: ·) else (sweep (y :: rest)).map (x :: ·)

def Separated (xs : List A) : Prop :=
  xs.IsChain (fun x y => ¬ (p x = true ∧ p y = true)) ∧ ∀ x ∈ xs.getLast?, ¬ p x = true

theorem separated_cons (x y : A) (rest : List A) :
    Separated p (x :: y :: rest) ↔ ¬ (p x = true ∧ p y = true) ∧ Separated p (y :: rest) := by
  simp [Separated, and_assoc]

theorem separated_tail (y : A) (rest : List A) (kept : ¬ p y = true) : Separated p (y :: rest) ↔ Separated p rest := by
  cases rest with
  | nil => simp [Separated, kept]
  | cons z rest => simp [separated_cons, kept]

theorem sweep_filter (xs : List A) : sweep p xs = some (xs.filter (fun x => !p x)) ↔ Separated p xs := by
  fun_induction sweep p xs with
  | case1 => simp [Separated]
  | case2 x matched => simp [Separated, matched]
  | case3 x kept => simp [Separated, kept]
  | case4 x y rest matched ih =>
      rw [separated_cons]
      by_cases next : p y = true
      · -- y is still there, although the filter drops it.
        have absent : ∀ tail : List A, y :: tail ≠ rest.filter (fun x => !p x) := by
          intro tail same
          have member : y ∈ rest.filter (fun x => !p x) := same ▸ List.mem_cons_self
          simp [next] at member
        simp [matched, next, absent]
      · rw [separated_tail p y rest next, ← ih]
        simp [matched, next]
  | case5 x y rest kept ih =>
      rw [separated_tail p x _ kept, ← ih]
      simp [List.filter_cons_of_pos, kept]

end Sweep

section Iteration

theorem deref_at (logger : Logger S) (before rest : List (LogStream S)) (entry : LogStream S)
    (streams : logger.streams = before ++ entry :: rest) : deref before.length logger = .ok entry logger := by
  simp [deref, Prog.bind_apply, streams]

theorem erase_at (logger : Logger S) (before rest : List (LogStream S)) (entry : LogStream S)
    (streams : logger.streams = before ++ entry :: rest) :
    erase before.length logger = .ok before.length { logger with streams := before ++ rest } := by
  have inside : before.length < logger.streams.length := by simp [streams]
  rw [erase, Prog.bind_ok _ _ _ _ _ (Prog.get_apply logger), if_pos inside, setStreams, Prog.bind_apply, Prog.modify_apply]
  simp [streams, List.eraseIdx_append_of_length_le]

theorem advance_inside (logger : Logger S) (it : Nat) (inside : it < logger.streams.length) :
    advance it logger = .ok (it + 1) logger := by
  simp [advance, Prog.bind_apply, inside]

theorem advance_end (logger : Logger S) (it : Nat) (ended : it = logger.streams.length) :
    advance it logger = .fault .outOfBounds := by
  simp [advance, Prog.bind_apply, ended]

end Iteration

section Removing

variable [DecidableEq S]

def holds (stream : S) (entry : LogStream S) : Bool := entry.stream == stream

theorem examine_match (stream : S) (logger : Logger S) (before rest : List (LogStream S)) (entry : LogStream S)
    (streams : logger.streams = before ++ entry :: rest) (matched : holds stream entry = true) :
    examine stream before.length logger = .ok before.length { logger with streams := before ++ rest } := by
  rw [examine, Prog.bind_ok _ _ _ _ _ (deref_at logger before rest entry streams), if_pos (beq_iff_eq.mp matched),
    erase_at logger before rest entry streams]

theorem examine_other (stream : S) (logger : Logger S) (before rest : List (LogStream S)) (entry : LogStream S)
    (streams : logger.streams = before ++ entry :: rest) (other : ¬ holds stream entry = true) :
    examine stream before.length logger = .ok before.length logger := by
  have different : ¬ entry.stream = stream := fun same => other (beq_iff_eq.mpr same)
  rw [examine, Prog.bind_ok _ _ _ _ _ (deref_at logger before rest entry streams), if_neg different, Prog.pure_apply]

theorem remove_from_end (stream : S) (n it : Nat) (logger : Logger S) (ended : it = logger.streams.length) :
    removeFrom stream (n + 1) it logger = .ok () logger := by
  simp [removeFrom, Prog.bind_apply, ended]

theorem remove_from_turn (stream : S) (n it : Nat) (logger : Logger S) (inside : it < logger.streams.length) :
    removeFrom stream (n + 1) it logger =
      (examine stream it >>= fun it => advance it >>= fun it => removeFrom stream n it) logger := by
  rw [removeFrom, Prog.bind_ok _ _ _ _ _ (Prog.get_apply logger), if_pos (Nat.ne_of_lt inside)]

theorem remove_from_other (stream : S) (n : Nat) (logger : Logger S) (before rest : List (LogStream S)) (entry : LogStream S)
    (streams : logger.streams = before ++ entry :: rest) (other : ¬ holds stream entry = true) :
    removeFrom stream (n + 1) before.length logger = removeFrom stream n (before ++ [entry]).length logger := by
  have inside : before.length < logger.streams.length := by simp [streams]
  rw [remove_from_turn stream n _ logger inside,
    Prog.bind_ok _ _ _ _ _ (examine_other stream logger before rest entry streams other),
    Prog.bind_ok _ _ _ _ _ (advance_inside logger _ inside), List.length_append]
  rfl

theorem remove_from_last (stream : S) (n : Nat) (logger : Logger S) (before : List (LogStream S)) (entry : LogStream S)
    (streams : logger.streams = before ++ [entry]) (matched : holds stream entry = true) :
    removeFrom stream (n + 1) before.length logger = .fault .outOfBounds := by
  rw [remove_from_turn stream n _ logger (by simp [streams]),
    Prog.bind_ok _ _ _ _ _ (examine_match stream logger before [] entry streams matched), Prog.bind_apply,
    advance_end _ _ (by simp)]

theorem remove_from_match (stream : S) (n : Nat) (logger : Logger S) (before rest : List (LogStream S))
    (entry next : LogStream S) (streams : logger.streams = before ++ entry :: next :: rest)
    (matched : holds stream entry = true) : removeFrom stream (n + 1) before.length logger =
      removeFrom stream n (before ++ [next]).length { logger with streams := before ++ next :: rest } := by
  rw [remove_from_turn stream n _ logger (by simp [streams]),
    Prog.bind_ok _ _ _ _ _ (examine_match stream logger before _ entry streams matched),
    Prog.bind_ok _ _ _ _ _ (advance_inside _ _ (by simp)), List.length_append]
  rfl

theorem remove_from_sweep (stream : S) (rest : List (LogStream S)) (n : Nat) (logger : Logger S) (before : List (LogStream S))
    (streams : logger.streams = before ++ rest) (enough : rest.length < n) :
    removeFrom stream n before.length logger =
      match sweep (holds stream) rest with
      | some swept => .ok () { logger with streams := before ++ swept }
      | none => .fault .outOfBounds := by
  obtain ⟨n, rfl⟩ : ∃ m, n = m + 1 := ⟨n - 1, by omega⟩
  induction rest using sweep.induct (holds stream) generalizing n logger before with
  | case1 =>
      rw [remove_from_end stream n _ logger (by simp [streams])]
      simp [sweep, ← streams]
  | case2 x matched =>
      rw [remove_from_last stream n logger before x streams matched]
      simp [sweep, matched]
  | case3 x kept =>
      obtain ⟨n, rfl⟩ : ∃ m, n = m + 1 := ⟨n - 1, by simp at enough; omega⟩
      rw [remove_from_other stream _ logger before [] x streams kept, remove_from_end stream n _ logger (by simp [streams])]
      simp [sweep, kept, ← streams]
  | case4 x y rest matched ih =>
      obtain ⟨n, rfl⟩ : ∃ m, n = m + 1 := ⟨n - 1, by simp at enough; omega⟩
      rw [remove_from_match stream _ logger before rest x y streams matched]
      rw [ih _ (before ++ [y]) (by simp) n (by simp at enough; omega)]
      cases swept : sweep (holds stream) rest <;> simp [sweep, matched, swept]
  | case5 x y rest kept ih =>
      obtain ⟨n, rfl⟩ : ∃ m, n = m + 1 := ⟨n - 1, by simp at enough; omega⟩
      rw [remove_from_other stream _ logger before _ x streams kept]
      rw [ih _ (before ++ [x]) (by simp [streams]) n (by simp at enough; simp; omega)]
      cases swept : sweep (holds stream) (y :: rest) <;> simp [sweep, kept, swept]

theorem remove_stream_sweep (stream : S) (n : Nat) (logger : Logger S) (enough : logger.streams.length < n) :
    removeStream n stream logger =
      match sweep (holds stream) logger.streams with
      | some swept => .ok () { logger with streams := swept }
      | none => .fault .outOfBounds :=
  remove_from_sweep stream logger.streams n logger [] rfl enough

theorem log_elsewhere (stream : S) (logger : Logger S) (gone : ∀ entry ∈ logger.streams, ¬ holds stream entry = true)
    (time : String) (level : LogLevel) (str : String) : ∃ lines after, log time level str logger = .ok () after ∧
      after.written = logger.written ++ lines ∧ ∀ written ∈ lines, written.1 ≠ stream := by
  refine ⟨_, _, rfl, rfl, fun written member same => ?_⟩
  obtain ⟨entry, kept, rfl⟩ := List.mem_map.mp member
  exact gone entry (List.mem_of_mem_filter kept) (beq_iff_eq.mpr same)

-- removeStream(stream) returns, has removed the entries of the stream and no
-- other, and log() does not write to the stream any more.
def Removes (n : Nat) (stream : S) (logger : Logger S) : Prop :=
  ∃ after, removeStream n stream logger = .ok () after ∧
    after = { logger with streams := logger.streams.filter (fun entry => !holds stream entry) } ∧
    ∀ time level str, ∃ lines last, log time level str after = .ok () last ∧
      last.written = after.written ++ lines ∧ ∀ written ∈ lines, written.1 ≠ stream

theorem remove_stream_exact_iff (stream : S) (n : Nat) (logger : Logger S) (enough : logger.streams.length < n) :
    Removes n stream logger ↔ Separated (holds stream) logger.streams := by
  rw [← sweep_filter, Removes, remove_stream_sweep stream n logger enough]
  constructor
  · rintro ⟨after, removed, exact, _⟩
    cases swept : sweep (holds stream) logger.streams with
    | none => simp [swept] at removed
    | some kept =>
        simp only [swept, exact, Outcome.ok.injEq, true_and] at removed
        exact congrArg some (congrArg Logger.streams removed)
  · intro swept
    refine ⟨_, by rw [swept], rfl, fun time level str => ?_⟩
    apply log_elsewhere stream _ (fun entry member => ?_)
    simpa using (List.mem_filter.mp member).2

theorem remove_stream_exact_first :
    Removes 3 true (construct [⟨true, .logDebug⟩, ⟨false, .logInfo⟩]) ↔
      Separated (holds true) [⟨true, .logDebug⟩, ⟨false, .logInfo⟩] :=
  remove_stream_exact_iff true 3 (construct [⟨true, .logDebug⟩, ⟨false, .logInfo⟩]) (by decide)

theorem default_stream_not_removed : ¬ Removes 2 () (construct [⟨(), .logDebug⟩]) := by
  rintro ⟨after, removed, _⟩
  cases removed

end Removing

end Logger

end CameraController
