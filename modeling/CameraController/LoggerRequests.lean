import CameraController.Logger
import Mathlib.Logic.Function.Basic

set_option autoImplicit false

namespace CameraController

open Effects Transition

namespace Logger

variable {S : Type} [DecidableEq S]

section Levels

-- A Logger is for a map from its streams to their levels.
def Request.asked (levels : S → Option LogLevel) : Request S → S → Option LogLevel
  | .addStream stream minlevel => Function.update levels stream (some minlevel)
  | .removeStream stream => Function.update levels stream none
  | .clearStreams => fun _ => none
  | .setLevel stream level => if (levels stream).isSome then Function.update levels stream (some level) else levels
  | .log _ _ _ => levels

def Request.tells (levels : S → Option LogLevel) (stream : S) : Request S → List String
  | .log time level str => if (levels stream).any (fun least => least.value ≤ level.value) then [line time level str] else []
  | _ => []

def told (stream : S) (levels : S → Option LogLevel) : List (Request S) → List String
  | [] => []
  | request :: requests => request.tells levels stream ++ told stream (request.asked levels) requests

theorem told_append (stream : S) (levels : S → Option LogLevel) (past : List (Request S)) (request : Request S) :
    told stream levels (past ++ [request]) = told stream levels past ++ request.tells (past.foldl Request.asked levels) stream := by
  induction past generalizing levels with
  | nil => exact List.append_nil _
  | cons first past ih => rw [List.cons_append, told, ih, told, List.append_assoc, List.foldl_cons]

end Levels

section Entries

def levelIn (streams : List (LogStream S)) (stream : S) : Option LogLevel := (streams.find? (holds stream)).map LogStream.level

def Distinct (streams : List (LogStream S)) : Prop := (streams.map LogStream.stream).Nodup

theorem level_cons (entry : LogStream S) (streams : List (LogStream S)) :
    levelIn (entry :: streams) = Function.update (levelIn streams) entry.stream (some entry.level) := by
  funext stream
  by_cases here : stream = entry.stream
  · subst here
    simp [levelIn, holds]
  · rw [Function.update_of_ne here]
    have other : holds stream entry = false := beq_eq_false_iff_ne.mpr (Ne.symm here)
    simp [levelIn, other]

theorem level_absent (streams : List (LogStream S)) (stream : S) (absent : stream ∉ streams.map LogStream.stream) :
    levelIn streams stream = none := by
  rw [levelIn, Option.map_eq_none_iff, List.find?_eq_none]
  intro entry member same
  exact absent (beq_iff_eq.mp same ▸ List.mem_map_of_mem member)

theorem relevel_none (stream : S) (level : LogLevel) (streams : List (LogStream S)) (none : relevel stream level streams = none) :
    stream ∉ streams.map LogStream.stream := by
  induction streams with
  | nil => exact List.not_mem_nil
  | cons entry streams ih =>
      rw [relevel] at none
      split at none
      · cases none
      · rename_i other
        rw [List.map_cons, List.mem_cons, not_or]
        exact ⟨Ne.symm other, ih (Option.map_eq_none_iff.mp none)⟩

theorem relevel_some (stream : S) (level : LogLevel) (streams next : List (LogStream S))
    (some : relevel stream level streams = .some next) : next.map LogStream.stream = streams.map LogStream.stream ∧
      levelIn next = Function.update (levelIn streams) stream (.some level) ∧ (levelIn streams stream).isSome = true := by
  induction streams generalizing next with
  | nil => cases some
  | cons entry streams ih =>
      rw [relevel] at some
      split at some
      · rename_i here
        cases some
        subst here
        refine ⟨rfl, ?_, ?_⟩
        · rw [level_cons, level_cons, Function.update_idem]
        · rw [level_cons, Function.update_self]
          rfl
      · rename_i other
        obtain ⟨rest, found, rfl⟩ := Option.map_eq_some_iff.mp some
        obtain ⟨names, levels, present⟩ := ih rest found
        refine ⟨by rw [List.map_cons, names, List.map_cons], ?_, ?_⟩
        · rw [level_cons, level_cons, levels, Function.update_comm other]
        · rwa [level_cons, Function.update_of_ne (Ne.symm other)]

theorem level_append (streams : List (LogStream S)) (entry : LogStream S)
    (absent : entry.stream ∉ streams.map LogStream.stream) :
    levelIn (streams ++ [entry]) = Function.update (levelIn streams) entry.stream (some entry.level) := by
  induction streams with
  | nil => exact level_cons entry []
  | cons first streams ih =>
      rw [List.map_cons, List.mem_cons, not_or] at absent
      rw [List.cons_append, level_cons, ih absent.2, level_cons, Function.update_comm absent.1]

theorem level_filter (streams : List (LogStream S)) (stream : S) :
    levelIn (streams.filter (fun entry => !holds stream entry)) = Function.update (levelIn streams) stream none := by
  induction streams with
  | nil =>
      funext other
      by_cases here : other = stream
      · rw [here, Function.update_self]
        rfl
      · rw [Function.update_of_ne here]
        rfl
  | cons entry streams ih =>
      by_cases here : entry.stream = stream
      · subst here
        rw [List.filter_cons_of_neg (by simp [holds]), ih, level_cons, Function.update_idem]
      · have other : holds stream entry = false := beq_eq_false_iff_ne.mpr here
        rw [List.filter_cons_of_pos (by simp [other]), level_cons, ih, level_cons, Function.update_comm here]

end Entries

section Removals

theorem separated_distinct (stream : S) (streams : List (LogStream S)) (distinct : Distinct streams) :
    Separated (holds stream) streams ↔ streams.getLast?.map LogStream.stream ≠ some stream := by
  have apart : streams.IsChain (fun x y => ¬ (holds stream x = true ∧ holds stream y = true)) := by
    apply List.Pairwise.isChain
    refine (List.pairwise_map.mp distinct).imp ?_
    rintro x y different ⟨first, second⟩
    exact different ((beq_iff_eq.mp first).trans (beq_iff_eq.mp second).symm)
  rw [Separated, and_iff_right apart]
  cases last : streams.getLast? with
  | none => simp
  | some entry => simp [holds]

theorem sweep_last (stream : S) (before : List (LogStream S)) (entry : LogStream S) (last : holds stream entry = true)
    (others : ∀ x ∈ before, holds stream x = false) : sweep (holds stream) (before ++ [entry]) = none := by
  induction before with
  | nil => simp [sweep, last]
  | cons x before ih =>
      have rest := ih (fun y member => others y (List.mem_cons_of_mem x member))
      have other := others x (List.mem_cons_self ..)
      cases before with
      | nil => simp [sweep, other, last]
      | cons y before =>
          rw [List.cons_append, List.cons_append, sweep, if_neg (by simp [other]), ← List.cons_append, rest]
          rfl

theorem sweep_distinct (stream : S) (streams : List (LogStream S)) (distinct : Distinct streams) :
    sweep (holds stream) streams = if streams.getLast?.map LogStream.stream = some stream then none
      else some (streams.filter (fun entry => !holds stream entry)) := by
  split
  · rename_i last
    obtain ⟨entry, ends, same⟩ := Option.map_eq_some_iff.mp last
    obtain ⟨before, rfl⟩ := List.getLast?_eq_some_iff.mp ends
    refine sweep_last stream before entry (beq_iff_eq.mpr same) (fun x member => ?_)
    rw [Distinct, List.map_append, List.nodup_append] at distinct
    apply beq_eq_false_iff_ne.mpr
    rintro rfl
    exact distinct.2.2 x.stream (List.mem_map_of_mem member) entry.stream (List.mem_singleton_self _) same.symm
  · rename_i other
    exact (sweep_filter (holds stream) streams).mpr ((separated_distinct stream streams distinct).mpr other)

theorem remove_from_more (stream : S) (n m it : Nat) (logger after : Logger S) (more : n ≤ m)
    (run : removeFrom stream n it logger = .ok () after) : removeFrom stream m it logger = .ok () after := by
  induction n generalizing m it logger with
  | zero => cases run
  | succ n ih =>
      obtain ⟨m, rfl⟩ : ∃ k, m = k + 1 := ⟨m - 1, by omega⟩
      rw [removeFrom, Prog.bind_ok _ _ _ _ _ (Prog.get_apply logger)] at run ⊢
      split at run
      · rename_i inside
        obtain ⟨next, middle, examined, rest⟩ := Prog.bind_eq_ok _ _ _ _ _ run
        obtain ⟨onward, further, advanced, rest⟩ := Prog.bind_eq_ok _ _ _ _ _ rest
        rw [if_pos inside, Prog.bind_ok _ _ _ _ _ examined, Prog.bind_ok _ _ _ _ _ advanced]
        exact ih m onward further (by omega) rest
      · rename_i ended
        rwa [if_neg ended]

theorem removed_distinct (stream : S) (logger after : Logger S) (distinct : Distinct logger.streams) :
    Step logger (.removeStream stream) after ↔ logger.streams.getLast?.map LogStream.stream ≠ some stream ∧
      after = { logger with streams := logger.streams.filter (fun entry => !holds stream entry) } := by
  have enough := fun n more => remove_stream_sweep stream n logger more
  simp only [sweep_distinct stream logger.streams distinct] at enough
  constructor
  · rintro ⟨n, run⟩
    have whole := remove_from_more stream n (n + logger.streams.length + 1) 0 logger after (by omega) run
    rw [← removeStream, enough _ (by omega)] at whole
    split at whole
    · rename_i swept found
      split at found
      · cases found
      · rename_i other
        cases found
        cases whole
        exact ⟨other, rfl⟩
    · cases whole
  · rintro ⟨other, rfl⟩
    refine ⟨logger.streams.length + 1, ?_⟩
    rw [perform, enough _ (Nat.lt_succ_self _), if_neg other]

end Removals

section Requests

def levels (logger : Logger S) : S → Option LogLevel := levelIn logger.streams

def linesOf (logger : Logger S) (stream : S) : List String :=
  (logger.written.filter (fun written => written.1 = stream)).map Prod.snd

theorem add_stream_apply (stream : S) (minlevel : LogLevel) (logger : Logger S) :
    addStream stream minlevel logger = .ok ()
      { logger with streams := (relevel stream minlevel logger.streams).getD (logger.streams ++ [⟨stream, minlevel⟩]) } := by
  rw [addStream, Prog.bind_ok _ _ _ _ _ (Prog.get_apply logger)]
  cases relevel stream minlevel logger.streams <;> rfl

theorem set_level_apply (stream : S) (level : LogLevel) (logger : Logger S) : setLevel stream level logger = .ok ()
    { logger with streams := (relevel stream level logger.streams).getD logger.streams } := by
  rw [setLevel, Prog.bind_ok _ _ _ _ _ (Prog.get_apply logger)]
  cases relevel stream level logger.streams <;> rfl

theorem lines_distinct (stream : S) (streams : List (LogStream S)) (distinct : Distinct streams) (level : LogLevel) (text : String) :
    (((streams.filter (fun entry => entry.level.value ≤ level.value)).map (fun entry => (entry.stream, text))).filter
      (fun written => written.1 = stream)).map Prod.snd =
      if (levelIn streams stream).any (fun least => least.value ≤ level.value) then [text] else [] := by
  induction streams with
  | nil => rfl
  | cons entry streams ih =>
      obtain ⟨absent, rest⟩ := List.nodup_cons.mp distinct
      have tail := ih rest
      by_cases here : entry.stream = stream
      · subst here
        rw [level_absent streams entry.stream absent] at tail
        rw [level_cons, Function.update_self]
        by_cases admits : entry.level.value ≤ level.value
        · rw [List.filter_cons_of_pos (by simpa using admits), List.map_cons, List.filter_cons_of_pos (by simp), List.map_cons, tail]
          simp [admits]
        · rw [List.filter_cons_of_neg (by simpa using admits), tail]
          simp [admits]
      · rw [level_cons, Function.update_of_ne (Ne.symm here), ← tail]
        by_cases admits : entry.level.value ≤ level.value
        · rw [List.filter_cons_of_pos (by simpa using admits), List.map_cons, List.filter_cons_of_neg (by simpa using here)]
        · rw [List.filter_cons_of_neg (by simpa using admits)]

structure Tracked (before : Logger S) (request : Request S) (after : Logger S) : Prop where
  distinct : Distinct after.streams
  levels : after.levels = request.asked before.levels
  lines : ∀ stream, after.linesOf stream = before.linesOf stream ++ request.tells before.levels stream

theorem step_tracked (before after : Logger S) (request : Request S) (distinct : Distinct before.streams)
    (step : Step before request after) : Tracked before request after := by
  cases request with
  | addStream stream minlevel =>
      obtain ⟨n, run⟩ := step
      rw [perform, add_stream_apply] at run
      cases run
      cases found : relevel stream minlevel before.streams with
      | none =>
          have absent := relevel_none stream minlevel before.streams found
          refine ⟨?_, level_append before.streams ⟨stream, minlevel⟩ absent, fun _ => (List.append_nil _).symm⟩
          rw [Distinct, Option.getD_none, List.map_append]
          exact List.nodup_append.mpr ⟨distinct, by simp, by simpa using absent⟩
      | some next =>
          obtain ⟨names, levels, _⟩ := relevel_some stream minlevel before.streams next found
          refine ⟨?_, levels, fun _ => (List.append_nil _).symm⟩
          rwa [Distinct, Option.getD_some, names]
  | removeStream stream =>
      obtain ⟨_, rfl⟩ := (removed_distinct stream before after distinct).mp step
      exact ⟨distinct.sublist (List.filter_sublist.map _), level_filter before.streams stream, fun _ => (List.append_nil _).symm⟩
  | clearStreams =>
      obtain ⟨n, run⟩ := step
      cases run
      exact ⟨List.nodup_nil, rfl, fun _ => (List.append_nil _).symm⟩
  | setLevel stream level =>
      obtain ⟨n, run⟩ := step
      rw [perform, set_level_apply] at run
      cases run
      cases found : relevel stream level before.streams with
      | none =>
          have absent : before.levels stream = none :=
            level_absent before.streams stream (relevel_none stream level before.streams found)
          refine ⟨distinct, ?_, fun _ => (List.append_nil _).symm⟩
          rw [Request.asked, absent]
          rfl
      | some next =>
          obtain ⟨names, levels, present⟩ := relevel_some stream level before.streams next found
          refine ⟨?_, ?_, fun _ => (List.append_nil _).symm⟩
          · rwa [Distinct, Option.getD_some, names]
          · rw [Request.asked, Logger.levels, Logger.levels, present, if_pos rfl]
            exact levels
  | log time level str =>
      obtain ⟨n, run⟩ := step
      cases run
      refine ⟨distinct, rfl, fun stream => ?_⟩
      rw [linesOf, List.filter_append, List.map_append]
      exact congrArg (before.linesOf stream ++ ·) (lines_distinct stream before.streams distinct level (line time level str))

-- A Logger of distinct streams keeps the map that it is asked for: after any calls that
-- have returned, each stream has its level and has got the lines that its level admitted
-- at the time, once each. Only the removal of the last of the list does not return.
theorem requests_tracked (streams : List (LogStream S)) (distinct : Distinct streams) (requests : List (Request S))
    (logger : Logger S) (run : Run Step (construct streams) requests logger) :
    logger.levels = requests.foldl Request.asked (levelIn streams) ∧
      (∀ stream, logger.linesOf stream = told stream (levelIn streams) requests) ∧
      ∀ request, (∃ after, Step logger request after) ↔
        ∀ stream, request = .removeStream stream → logger.streams.getLast?.map LogStream.stream ≠ some stream := by
  have tracked : Distinct logger.streams ∧ logger.levels = requests.foldl Request.asked (levelIn streams) ∧
      ∀ stream, logger.linesOf stream = told stream (levelIn streams) requests := by
    apply run_history Step (fun past logger => Distinct logger.streams ∧ logger.levels = past.foldl Request.asked (levelIn streams) ∧
      ∀ stream, logger.linesOf stream = told stream (levelIn streams) past) _ (construct streams) logger [] requests
      ⟨distinct, rfl, fun _ => rfl⟩ run
    rintro past before request after ⟨apart, levels, lines⟩ step
    have next := step_tracked before after request apart step
    refine ⟨next.distinct, ?_, fun stream => ?_⟩
    · rw [next.levels, levels, List.foldl_append, List.foldl_cons, List.foldl_nil]
    · rw [next.lines, lines, levels, told_append]
  refine ⟨tracked.2.1, tracked.2.2, fun request => ?_⟩
  cases request with
  | removeStream stream =>
      constructor
      · rintro ⟨after, step⟩ other same
        cases same
        exact ((removed_distinct stream logger after tracked.1).mp step).1
      · intro other
        exact ⟨_, (removed_distinct stream logger _ tracked.1).mpr ⟨other stream rfl, rfl⟩⟩
  | addStream stream minlevel => exact ⟨fun _ _ => nofun, fun _ => ⟨_, 0, add_stream_apply stream minlevel logger⟩⟩
  | clearStreams => exact ⟨fun _ _ => nofun, fun _ => ⟨_, 0, rfl⟩⟩
  | setLevel stream level => exact ⟨fun _ _ => nofun, fun _ => ⟨_, 0, set_level_apply stream level logger⟩⟩
  | log time level str => exact ⟨fun _ _ => nofun, fun _ => ⟨_, 0, rfl⟩⟩

theorem requests_tracked_file : ∃ logger : Logger Bool, logger.levels false = none ∧ logger.levels true = some .logWarning ∧
    logger.linesOf true = [line "[12:00:01]" .logError "b"] ∧
    logger.linesOf false = [line "[12:00:00]" .logInfo "a", line "[12:00:01]" .logError "b"] ∧
    ¬ ∃ after, Step logger (.removeStream true) after := by
  let requests : List (Request Bool) := [.addStream true .logWarning, .log "[12:00:00]" .logInfo "a", .log "[12:00:01]" .logError "b",
    .removeStream false, .log "[12:00:02]" .logDebug "c"]
  let added : Logger Bool := construct [⟨false, .logDebug⟩, ⟨true, .logWarning⟩]
  let logged : Logger Bool := { added with written := [(false, line "[12:00:00]" .logInfo "a"),
    (false, line "[12:00:01]" .logError "b"), (true, line "[12:00:01]" .logError "b")] }
  let logger : Logger Bool := { logged with streams := [⟨true, .logWarning⟩] }
  have run : Run Step (construct [⟨false, .logDebug⟩]) requests logger :=
    .next _ added _ _ _ ⟨0, rfl⟩ (.next _ _ _ _ _ ⟨0, rfl⟩ (.next _ logged _ _ _ ⟨0, rfl⟩
      (.next _ logger _ _ _ ⟨3, rfl⟩ (.next _ logger _ _ _ ⟨0, rfl⟩ (.done logger)))))
  obtain ⟨levels, lines, returns⟩ := requests_tracked [⟨false, .logDebug⟩] (List.nodup_cons.mpr ⟨List.not_mem_nil, List.nodup_nil⟩)
    requests logger run
  refine ⟨logger, by rw [levels]; rfl, by rw [levels]; rfl, by rw [lines]; rfl, by rw [lines]; rfl, fun step => ?_⟩
  exact (returns (.removeStream true)).mp step true rfl rfl

end Requests

end Logger

end CameraController
