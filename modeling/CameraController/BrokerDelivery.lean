import Mathlib.Data.List.Nodup
import CameraController.EventBroker

set_option autoImplicit false

namespace CameraController

namespace EventBroker

open Transition

variable {A : Type}

def Before (first second : DelayedEvent A) : Prop :=
  first.deadline < second.deadline ∨ (first.deadline = second.deadline ∧ first.call < second.call)

def requested : Action A → Option (A × UInt8 × Int)
  | .postDelayed ev topic delayMs now => some (ev, topic, deadlineOf now delayMs)
  | _ => none

def request (dev : DelayedEvent A) : A × UInt8 × Int := (dev.event, dev.topic, dev.deadline)

structure Accounted (broker : EventBroker A) : Prop where
  places : List.Perm (broker.delayedEvents ++ broker.removed ++ broker.taken) broker.scheduled
  numbered : broker.scheduled.map DelayedEvent.call = List.range broker.calls
  unchanged : ∀ posting ∈ broker.posted,
    posting.event = posting.origin.event ∧ posting.topic = posting.origin.topic

def Sorted (broker : EventBroker A) : Prop := broker.delayedEvents.Pairwise Before

-- Under a clock that does not run backwards: what was taken comes before what
-- is pending, and was due at some reading so far.
def Timely (past : List (Action A)) (broker : EventBroker A) : Prop :=
  (past.filterMap reading).Pairwise (· ≤ ·) →
    (broker.taken ++ broker.delayedEvents).Pairwise Before ∧
      ∀ dev ∈ broker.taken, ∃ now ∈ past.filterMap reading, dev.deadline ≤ now

theorem before_le (first second : DelayedEvent A) (before : Before first second) : first.deadline ≤ second.deadline := by
  cases before with
  | inl earlier => exact Int.le_of_lt earlier
  | inr tie => exact Int.le_of_eq tie.1

theorem before_of_le (first second : DelayedEvent A) (due : first.deadline ≤ second.deadline)
    (older : first.call < second.call) : Before first second := by
  cases Int.lt_or_eq_of_le due with
  | inl earlier => exact .inl earlier
  | inr same => exact .inr ⟨same, older⟩

theorem deadline_of_later (now : Int) (delayMs : UInt32) : now ≤ deadlineOf now delayMs := by
  unfold deadlineOf
  omega

theorem emplace_sorted (dev : DelayedEvent A) (events : List (DelayedEvent A)) (sorted : events.Pairwise Before)
    (older : ∀ it ∈ events, it.call < dev.call) : (emplace dev events).Pairwise Before := by
  induction events with
  | nil => exact List.pairwise_singleton Before dev
  | cons it rest ih =>
      obtain ⟨least, tail⟩ := List.pairwise_cons.mp sorted
      by_cases earlier : dev.deadline < it.deadline
      · rw [emplace, if_pos earlier]
        apply List.Pairwise.cons _ sorted
        intro other member
        cases List.mem_cons.mp member with
        | inl here => exact .inl (here ▸ earlier)
        | inr later => exact .inl (Int.lt_of_lt_of_le earlier (before_le it other (least other later)))
      · rw [emplace, if_neg earlier]
        apply List.Pairwise.cons _ (ih tail (fun other member => older other (List.mem_cons_of_mem it member)))
        intro other member
        cases (mem_emplace dev other rest).mp member with
        | inl here => exact here ▸ before_of_le it dev (Int.not_lt.mp earlier) (older it List.mem_cons_self)
        | inr later => exact least other later

theorem initial_accounted : Accounted (initial : EventBroker A) where
  places := .refl _
  numbered := rfl
  unchanged := by
    intro posting member
    cases member

theorem accounted_older (broker : EventBroker A) (accounted : Accounted broker) (dev : DelayedEvent A)
    (member : dev ∈ broker.delayedEvents ++ broker.removed ++ broker.taken) : dev.call < broker.calls := by
  have listed : dev.call ∈ broker.scheduled.map DelayedEvent.call :=
    List.mem_map_of_mem (accounted.places.mem_iff.mp member)
  rw [accounted.numbered] at listed
  exact List.mem_range.mp listed

theorem pending_older (broker : EventBroker A) (accounted : Accounted broker) (dev : DelayedEvent A)
    (member : dev ∈ broker.delayedEvents) : dev.call < broker.calls :=
  accounted_older broker accounted dev (List.mem_append_left _ (List.mem_append_left _ member))

theorem taken_older (broker : EventBroker A) (accounted : Accounted broker) (dev : DelayedEvent A)
    (member : dev ∈ broker.taken) : dev.call < broker.calls :=
  accounted_older broker accounted dev (List.mem_append_right _ member)

theorem pop_cases (broker : EventBroker A) (now : Int) :
    broker.pop now = broker ∨
      ∃ front rest, broker.delayedEvents = front :: rest ∧ front.deadline ≤ now ∧
        broker.pop now = { broker with delayedEvents := rest, dev := some front } := by
  unfold pop
  cases pending : broker.delayedEvents with
  | nil => exact .inl rfl
  | cons front rest =>
      by_cases due : front.deadline ≤ now
      · exact .inr ⟨front, rest, rfl, due, if_pos due⟩
      · exact .inl (if_neg due)

-- Each place only hands its events on, so it is enough to count one event in
-- every place before and after the step.
theorem places_kept (broker : EventBroker A) (action : Action A) (next : EventBroker A)
    (places : List.Perm (broker.delayedEvents ++ broker.removed ++ broker.taken) broker.scheduled)
    (step : Step broker action next) :
    List.Perm (next.delayedEvents ++ next.removed ++ next.taken) next.scheduled := by
  classical
  apply List.perm_iff_count.mpr
  intro dev
  have before := places.count_eq dev
  simp only [taken, List.count_append] at before ⊢
  cases step with
  | postDelayed ev topic delayMs now =>
      have placed := fun added => (emplace_perm added broker.delayedEvents).count_eq dev
      simp only [postDelayed, List.count_append, placed, List.count_cons, List.count_nil]
      omega
  | removeDelayed id =>
      have split := (erase_id_perm id broker.delayedEvents).count_eq dev
      simp only [removeDelayed, List.count_append] at split ⊢
      omega
  | clearDelayedEvents =>
      simp only [clearDelayedEvents, List.count_append, List.count_nil]
      omega
  | pop now idle =>
      cases pop_cases broker now with
      | inl same => rw [same]; exact before
      | inr took =>
          obtain ⟨front, rest, pending, _, popped⟩ := took
          rw [popped]
          simp only [pending, idle, Option.toList_none, Option.toList_some, List.count_cons, List.count_nil] at before ⊢
          omega
  | post held popped =>
      simp only [popped, postDev, List.map_append, List.count_append, List.map_cons, List.map_nil, Option.toList_none,
        Option.toList_some, List.count_nil] at before ⊢
      omega

theorem accounted_kept (broker : EventBroker A) (action : Action A) (next : EventBroker A)
    (accounted : Accounted broker) (step : Step broker action next) : Accounted next := by
  have places := places_kept broker action next accounted.places step
  cases step with
  | postDelayed ev topic delayMs now =>
      refine ⟨places, ?_, accounted.unchanged⟩
      simp only [postDelayed, List.map_append, List.map_cons, List.map_nil, accounted.numbered, List.range_succ]
  | removeDelayed id => exact ⟨places, accounted.numbered, accounted.unchanged⟩
  | clearDelayedEvents => exact ⟨places, accounted.numbered, accounted.unchanged⟩
  | pop now idle =>
      cases pop_cases broker now with
      | inl same => rwa [same]
      | inr took =>
          obtain ⟨front, rest, _, _, popped⟩ := took
          rw [popped] at places ⊢
          exact ⟨places, accounted.numbered, accounted.unchanged⟩
  | post dev popped =>
      refine ⟨places, accounted.numbered, ?_⟩
      intro posting member
      cases List.mem_append.mp member with
      | inl earlier => exact accounted.unchanged posting earlier
      | inr here =>
          cases List.mem_singleton.mp here
          exact ⟨rfl, rfl⟩

theorem sorted_kept (broker : EventBroker A) (action : Action A) (next : EventBroker A)
    (accounted : Accounted broker) (sorted : Sorted broker) (step : Step broker action next) : Sorted next := by
  cases step with
  | postDelayed ev topic delayMs now => exact emplace_sorted _ _ sorted (pending_older broker accounted)
  | removeDelayed id => exact sorted.sublist (erase_id_sublist id broker.delayedEvents)
  | clearDelayedEvents => exact .nil
  | pop now idle =>
      cases pop_cases broker now with
      | inl same => rwa [same]
      | inr took =>
          obtain ⟨front, rest, pending, _, popped⟩ := took
          rw [Sorted, pending] at sorted
          rw [popped]
          exact (List.pairwise_cons.mp sorted).2
  | post dev popped => exact sorted

theorem readings_before (past : List (Action A)) (action : Action A)
    (forward : ((past ++ [action]).filterMap reading).Pairwise (· ≤ ·)) :
    (past.filterMap reading).Pairwise (· ≤ ·) ∧
      ∀ now, reading action = some now → ∀ earlier ∈ past.filterMap reading, earlier ≤ now := by
  rw [List.filterMap_append, List.pairwise_append] at forward
  refine ⟨forward.1, ?_⟩
  intro now read earlier member
  exact forward.2.2 earlier member now (List.mem_filterMap.mpr ⟨action, List.mem_singleton_self action, read⟩)

theorem timely_kept (past : List (Action A)) (broker : EventBroker A) (action : Action A) (next : EventBroker A)
    (accounted : Accounted broker) (sorted : Sorted next) (timely : Timely past broker)
    (step : Step broker action next) : Timely (past ++ [action]) next := by
  intro forward
  obtain ⟨forwardBefore, latest⟩ := readings_before past action forward
  obtain ⟨ordered, due⟩ := timely forwardBefore
  have dueStill : ∀ dev ∈ broker.taken, ∃ now ∈ (past ++ [action]).filterMap reading, dev.deadline ≤ now := by
    intro dev member
    obtain ⟨now, read, reached⟩ := due dev member
    exact ⟨now, by rw [List.filterMap_append]; exact List.mem_append_left _ read, reached⟩
  cases step with
  | postDelayed ev topic delayMs now =>
      refine ⟨List.pairwise_append.mpr ⟨(List.pairwise_append.mp ordered).1, sorted, ?_⟩, dueStill⟩
      intro dev member pending listed
      cases (mem_emplace _ pending broker.delayedEvents).mp listed with
      | inl here =>
          obtain ⟨seen, read, reached⟩ := due dev member
          have current : dev.deadline ≤ deadlineOf now delayMs :=
            Int.le_trans (Int.le_trans reached (latest now rfl seen read)) (deadline_of_later now delayMs)
          rw [here]
          exact before_of_le dev _ current (taken_older broker accounted dev member)
      | inr older => exact (List.pairwise_append.mp ordered).2.2 dev member pending older
  | removeDelayed id =>
      exact ⟨ordered.sublist (.append_left (erase_id_sublist id broker.delayedEvents) broker.taken), dueStill⟩
  | clearDelayedEvents =>
      exact ⟨ordered.sublist (.append_left (List.nil_sublist broker.delayedEvents) broker.taken), dueStill⟩
  | pop now idle =>
      cases pop_cases broker now with
      | inl same => rw [same]; exact ⟨ordered, dueStill⟩
      | inr took =>
          obtain ⟨front, rest, pending, reached, popped⟩ := took
          rw [popped]
          have moved : (broker.posted.map Posting.origin ++ [front]) ++ rest = broker.taken ++ broker.delayedEvents := by
            rw [taken, idle, pending, Option.toList_none, List.append_nil, List.append_assoc, List.singleton_append]
          refine ⟨moved ▸ ordered, ?_⟩
          intro dev member
          cases List.mem_append.mp member with
          | inl earlier => exact dueStill dev (List.mem_append_left _ earlier)
          | inr here =>
              cases List.mem_singleton.mp here
              exact ⟨now, by simp [reading], reached⟩
  | post held popped =>
      have same : (broker.postDev held).taken = broker.taken := by
        simp [taken, postDev, popped]
      rw [same]
      exact ⟨ordered, dueStill⟩

theorem runs_requested (actions : List (Action A)) (broker : EventBroker A) (run : Runs actions broker) :
    broker.scheduled.map request = actions.filterMap requested := by
  apply run_history Step (fun past broker => broker.scheduled.map request = past.filterMap requested) _
    initial broker [] actions rfl run
  intro past broker action next same step
  rw [List.filterMap_append, ← same]
  cases step with
  | postDelayed ev topic delayMs now => simp [postDelayed, request, requested]
  | removeDelayed id => simp [removeDelayed, requested]
  | clearDelayedEvents => simp [clearDelayedEvents, requested]
  | pop now idle =>
      cases pop_cases broker now with
      | inl unchanged => simp [unchanged, requested]
      | inr took =>
          obtain ⟨front, rest, _, _, popped⟩ := took
          simp [popped, requested]
  | post dev popped => simp [postDev, requested]

def takenBack (broker : EventBroker A) : Action A → List (DelayedEvent A)
  | .removeDelayed id => (broker.delayedEvents.find? (fun it => it.schedId = id)).toList
  | .clearDelayedEvents => broker.delayedEvents
  | _ => []

theorem removed_step (broker : EventBroker A) (action : Action A) (next : EventBroker A) (step : Step broker action next) :
    next.removed = broker.removed ++ broker.takenBack action := by
  cases step with
  | pop now idle =>
      cases pop_cases broker now with
      | inl same => simp [same, takenBack]
      | inr took =>
          obtain ⟨front, rest, _, _, popped⟩ := took
          simp [popped, takenBack]
  | postDelayed | post => exact (List.append_nil _).symm
  | removeDelayed | clearDelayedEvents => rfl

structure Delivering (past : List (Action A)) (broker : EventBroker A) : Prop where
  accounted : Accounted broker
  sorted : Sorted broker
  timely : Timely past broker

theorem runs_delivering (actions : List (Action A)) (broker : EventBroker A) (run : Runs actions broker) :
    Delivering actions broker := by
  apply run_history Step Delivering _ initial broker [] actions _ run
  · intro past broker action next inv step
    have sorted := sorted_kept broker action next inv.accounted inv.sorted step
    exact ⟨accounted_kept broker action next inv.accounted step, sorted,
      timely_kept past broker action next inv.accounted sorted inv.timely step⟩
  · refine ⟨initial_accounted, .nil, ?_⟩
    intro _
    exact ⟨.nil, fun dev member => by cases member⟩

theorem accounted_distinct (broker : EventBroker A) (accounted : Accounted broker) :
    (broker.delayedEvents ++ broker.removed ++ broker.taken).Nodup := by
  rw [accounted.places.nodup_iff]
  apply List.Nodup.of_map DelayedEvent.call
  rw [accounted.numbered]
  exact List.nodup_range

theorem places_apart (broker : EventBroker A) :
    (broker.delayedEvents ++ broker.removed ++ broker.dev.toList ++ broker.posted.map Posting.origin).Perm
      (broker.delayedEvents ++ broker.removed ++ broker.taken) := by
  rw [taken, List.append_assoc (broker.delayedEvents ++ broker.removed)]
  exact List.perm_append_comm.append_left _

structure Due (broker : EventBroker A) (now : Int) (dev : DelayedEvent A) : Prop where
  pending : dev ∈ broker.delayedEvents
  reached : dev.deadline ≤ now
  least : ∀ other ∈ broker.delayedEvents, dev.deadline ≤ other.deadline

theorem pop_due (broker : EventBroker A) (sorted : Sorted broker) (now : Int) (dev : DelayedEvent A)
    (idle : broker.dev = none) (popped : (broker.pop now).dev = some dev) : Due broker now dev := by
  cases pop_cases broker now with
  | inl same => rw [same, idle] at popped; cases popped
  | inr took =>
      obtain ⟨front, rest, pending, reached, result⟩ := took
      rw [result] at popped
      cases popped
      rw [Sorted, pending] at sorted
      refine ⟨by simp [pending], reached, ?_⟩
      intro other member
      rw [pending] at member
      cases List.mem_cons.mp member with
      | inl here => exact Int.le_of_eq (by rw [here])
      | inr later => exact before_le dev other ((List.pairwise_cons.mp sorted).1 other later)

-- What holds of the broker after any run: the order of the pending events, the
-- place of every scheduled event, and, when the clock does not run backwards,
-- the order of the events delivered. scheduled and removed hold what the actions
-- of the run scheduled and took back.
structure Delivers (actions : List (Action A)) (broker : EventBroker A) : Prop where
  sorted : broker.delayedEvents.Pairwise Before
  due : ∀ now dev, broker.dev = none → (broker.pop now).dev = some dev → Due broker now dev
  scheduled : broker.scheduled.map request = actions.filterMap requested
  numbered : broker.scheduled.map DelayedEvent.call = List.range broker.calls
  removals : ∀ dev, dev ∈ broker.removed ↔
    Happens Step (fun before action => dev ∈ before.takenBack action) initial actions broker
  places : List.Perm
    (broker.delayedEvents ++ broker.removed ++ broker.dev.toList ++ broker.posted.map Posting.origin) broker.scheduled
  once : (broker.delayedEvents ++ broker.removed ++ broker.dev.toList ++ broker.posted.map Posting.origin).Nodup
  unchanged : ∀ posting ∈ broker.posted, posting.event = posting.origin.event ∧ posting.topic = posting.origin.topic
  ordered : (actions.filterMap reading).Pairwise (· ≤ ·) → (broker.posted.map Posting.origin).Pairwise Before

theorem runs_deliver (actions : List (Action A)) (broker : EventBroker A) (run : Runs actions broker) :
    Delivers actions broker := by
  have inv := runs_delivering actions broker run
  have regroup := places_apart broker
  refine ⟨inv.sorted, ?_, runs_requested actions broker run, inv.accounted.numbered, ?_, regroup.trans inv.accounted.places,
    regroup.nodup_iff.mpr (accounted_distinct broker inv.accounted), inv.accounted.unchanged, ?_⟩
  · intro now dev idle popped
    exact pop_due broker inv.sorted now dev idle popped
  · intro dev
    have recorded := run_recorded Step (fun _ => True) (fun s => dev ∈ s.removed) (fun before action => dev ∈ before.takenBack action)
      (fun _ _ _ _ _ => trivial) (fun s action t _ step => by rw [removed_step s action t step, List.mem_append]) initial broker
      actions trivial run
    exact recorded.trans (or_iff_right List.not_mem_nil)
  · intro forward
    have taken := (List.pairwise_append.mp (inv.timely forward).1).1
    exact taken.sublist (List.sublist_append_left _ _)

theorem runs_deliver_overtaking :
    Delivers [.postDelayed "late" 0 9 0, .postDelayed "soon" 1 2 0, .pop 2000000, .post]
      ((((initial.postDelayed "late" 0 9 0).2.postDelayed "soon" 1 2 0).2.pop 2000000).postDev
        ⟨1, "soon", 1, 2000000, 1⟩) := by
  apply runs_deliver
  apply Run.next _ _ _ _ _ (.postDelayed _ "late" 0 9 0)
  apply Run.next _ _ _ _ _ (.postDelayed _ "soon" 1 2 0)
  apply Run.next _ _ _ _ _ (.pop _ 2000000 rfl)
  exact run_single Step _ _ _ (.post _ _ (by decide))

end EventBroker

end CameraController
