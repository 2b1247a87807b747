import CameraController.BrokerDelivery

set_option autoImplicit false

namespace CameraController

namespace EventBroker

open Transition

variable {A : Type}

structure Numbered (past : List (Action A)) (broker : EventBroker A) : Prop where
  calls : broker.calls = past.countP isPostDelayed
  counter : broker.eventCounter = UInt16.ofNat broker.calls
  ids : ∀ dev ∈ broker.scheduled, dev.schedId = UInt16.ofNat dev.call

-- The pending ids are distinct, and the id that one postDelayed call returned
-- stands for the event that this call scheduled and for no other.
structure IdsIdentify (broker : EventBroker A) : Prop where
  distinct : (broker.delayedEvents.map DelayedEvent.schedId).Nodup
  removes : ∀ dev ∈ broker.scheduled,
    (broker.removeDelayed dev.schedId).delayedEvents = broker.delayedEvents.filter (fun it => it.call ≠ dev.call)

theorem post_delayed_returns (broker : EventBroker A) (ev : A) (topic : UInt8) (delayMs : UInt32) (now : Int) :
    ∃ dev, (broker.postDelayed ev topic delayMs now).2.scheduled = broker.scheduled ++ [dev] ∧
      dev ∈ (broker.postDelayed ev topic delayMs now).2.delayedEvents ∧
      dev.schedId = (broker.postDelayed ev topic delayMs now).1 ∧ dev.call = broker.calls := by
  refine ⟨_, rfl, ?_, rfl, rfl⟩
  exact (mem_emplace _ _ _).mpr (.inl rfl)

theorem numbered_kept (past : List (Action A)) (broker : EventBroker A) (action : Action A) (next : EventBroker A)
    (numbered : Numbered past broker) (step : Step broker action next) : Numbered (past ++ [action]) next := by
  obtain ⟨calls, counter, ids⟩ := numbered
  cases step with
  | postDelayed ev topic delayMs now =>
      refine ⟨by simp [postDelayed, calls, isPostDelayed], ?_, ?_⟩
      · simp only [postDelayed, counter, UInt16.ofNat_add]
        rfl
      · intro dev member
        cases List.mem_append.mp member with
        | inl earlier => exact ids dev earlier
        | inr here =>
            cases List.mem_singleton.mp here
            exact counter
  | removeDelayed id => exact ⟨by simp [removeDelayed, calls, isPostDelayed], counter, ids⟩
  | clearDelayedEvents => exact ⟨by simp [clearDelayedEvents, calls, isPostDelayed], counter, ids⟩
  | pop now idle =>
      cases pop_cases broker now with
      | inl same => rw [same]; exact ⟨by simp [calls, isPostDelayed], counter, ids⟩
      | inr took =>
          obtain ⟨front, rest, _, _, popped⟩ := took
          rw [popped]
          exact ⟨by simp [calls, isPostDelayed], counter, ids⟩
  | post dev popped => exact ⟨by simp [postDev, calls, isPostDelayed], counter, ids⟩

theorem runs_numbered (actions : List (Action A)) (broker : EventBroker A) (run : Runs actions broker) :
    Numbered actions broker := by
  apply run_history Step Numbered numbered_kept initial broker [] actions _ run
  exact ⟨rfl, rfl, fun dev member => by cases member⟩

theorem pending_scheduled (broker : EventBroker A) (accounted : Accounted broker) (dev : DelayedEvent A)
    (pending : dev ∈ broker.delayedEvents) : dev ∈ broker.scheduled :=
  accounted.places.mem_iff.mp (List.mem_append_left _ (List.mem_append_left _ pending))

theorem scheduled_older (broker : EventBroker A) (accounted : Accounted broker) (dev : DelayedEvent A)
    (member : dev ∈ broker.scheduled) : dev.call < broker.calls :=
  accounted_older broker accounted dev (accounted.places.mem_iff.mpr member)

theorem scheduled_by_call (broker : EventBroker A) (accounted : Accounted broker) (first second : DelayedEvent A)
    (left : first ∈ broker.scheduled) (right : second ∈ broker.scheduled) (same : first.call = second.call) :
    first = second := by
  have nodup : (broker.scheduled.map DelayedEvent.call).Nodup := by
    rw [accounted.numbered]
    exact List.nodup_range
  exact List.inj_on_of_nodup_map nodup left right same

theorem of_nat_injective (first second : Nat) (left : first < 65536) (right : second < 65536)
    (same : UInt16.ofNat first = UInt16.ofNat second) : first = second := by
  have values := congrArg UInt16.toNat same
  rw [UInt16.toNat_ofNat', UInt16.toNat_ofNat'] at values
  omega

theorem ids_injective (past : List (Action A)) (broker : EventBroker A) (accounted : Accounted broker)
    (numbered : Numbered past broker) (few : broker.calls ≤ 65536) (first second : DelayedEvent A)
    (left : first ∈ broker.scheduled) (right : second ∈ broker.scheduled) (same : first.schedId = second.schedId) :
    first.call = second.call := by
  have firstOlder := scheduled_older broker accounted first left
  have secondOlder := scheduled_older broker accounted second right
  rw [numbered.ids first left, numbered.ids second right] at same
  exact of_nat_injective first.call second.call (by omega) (by omega) same

theorem erase_id_filter (id : UInt16) (call : Nat) (events : List (DelayedEvent A))
    (named : ∀ it ∈ events, it.schedId = id ↔ it.call = call)
    (distinct : (events.map DelayedEvent.call).Nodup) : eraseId id events = events.filter (fun it => it.call ≠ call) := by
  induction events with
  | nil => rfl
  | cons it rest ih =>
      obtain ⟨fresh, tail⟩ := List.nodup_cons.mp distinct
      have here := named it List.mem_cons_self
      by_cases hit : it.schedId = id
      · have gone : ∀ other ∈ rest, other.call ≠ call := by
          intro other member same
          apply fresh
          rw [here.mp hit, ← same]
          exact List.mem_map_of_mem member
        rw [eraseId, if_pos hit, List.filter_cons_of_neg (by simpa using here.mp hit)]
        exact (List.filter_eq_self.mpr (by simpa using gone)).symm
      · have kept : it.call ≠ call := fun same => hit (here.mpr same)
        rw [eraseId, if_neg hit, List.filter_cons_of_pos (by simpa using kept)]
        rw [ih (fun other member => named other (List.mem_cons_of_mem it member)) tail]

theorem erase_id_gone (id : UInt16) (events : List (DelayedEvent A))
    (distinct : (events.map DelayedEvent.schedId).Nodup) (other : DelayedEvent A)
    (member : other ∈ eraseId id events) : other.schedId ≠ id := by
  induction events with
  | nil => cases member
  | cons it rest ih =>
      obtain ⟨fresh, tail⟩ := List.nodup_cons.mp distinct
      by_cases hit : it.schedId = id
      · rw [eraseId, if_pos hit] at member
        intro same
        apply fresh
        rw [hit, ← same]
        exact List.mem_map_of_mem member
      · rw [eraseId, if_neg hit] at member
        cases List.mem_cons.mp member with
        | inl here => rwa [here]
        | inr later => exact ih tail later

theorem pending_distinct_calls (broker : EventBroker A) (accounted : Accounted broker) :
    (broker.delayedEvents.map DelayedEvent.call).Nodup := by
  have nodup : (broker.delayedEvents).Nodup :=
    ((accounted_distinct broker accounted).sublist (List.sublist_append_left _ _)).sublist (List.sublist_append_left _ _)
  apply nodup.map_on
  intro first left second right same
  exact scheduled_by_call broker accounted first second (pending_scheduled broker accounted first left)
    (pending_scheduled broker accounted second right) same

theorem few_identify (past : List (Action A)) (broker : EventBroker A) (accounted : Accounted broker)
    (numbered : Numbered past broker) (few : broker.calls ≤ 65536) : IdsIdentify broker := by
  have calls := pending_distinct_calls broker accounted
  have injective := ids_injective past broker accounted numbered few
  refine ⟨?_, ?_⟩
  · apply (List.Nodup.of_map DelayedEvent.call calls).map_on
    intro first left second right same
    exact List.inj_on_of_nodup_map calls left right
      (injective first second (pending_scheduled broker accounted first left)
        (pending_scheduled broker accounted second right) same)
  · intro dev scheduled
    apply erase_id_filter dev.schedId dev.call broker.delayedEvents _ calls
    intro it member
    have listed := pending_scheduled broker accounted it member
    refine ⟨injective it dev listed scheduled, ?_⟩
    intro same
    rw [scheduled_by_call broker accounted it dev listed scheduled same]

theorem wrapped_not_identify (past : List (Action A)) (broker : EventBroker A) (accounted : Accounted broker)
    (numbered : Numbered past broker) (young : DelayedEvent A) (pending : young ∈ broker.delayedEvents)
    (many : 65536 ≤ young.call) : ¬ IdsIdentify broker := by
  intro identify
  have scheduled := pending_scheduled broker accounted young pending
  have old : young.call - 65536 ∈ broker.scheduled.map DelayedEvent.call := by
    rw [accounted.numbered, List.mem_range]
    have older := scheduled_older broker accounted young scheduled
    omega
  obtain ⟨dev, member, call⟩ := List.mem_map.mp old
  have same : dev.schedId = young.schedId := by
    rw [numbered.ids dev member, numbered.ids young scheduled, call]
    apply UInt16.toNat_inj.mp
    rw [UInt16.toNat_ofNat', UInt16.toNat_ofNat']
    omega
  have kept : young ∈ (broker.removeDelayed dev.schedId).delayedEvents := by
    rw [identify.removes dev member]
    exact List.mem_filter.mpr ⟨pending, by simp only [decide_eq_true_eq]; omega⟩
  exact erase_id_gone dev.schedId broker.delayedEvents identify.distinct young kept same.symm

theorem nth_satisfying {L : Type} (p : L → Bool) (n : Nat) (labels : List L) (many : n < labels.countP p) :
    ∃ past label rest, labels = past ++ label :: rest ∧ p label = true ∧ past.countP p = n := by
  induction labels generalizing n with
  | nil => cases many
  | cons first rest ih =>
      by_cases counted : p first = true
      · rw [List.countP_cons_of_pos counted] at many
        cases n with
        | zero => exact ⟨[], first, rest, rfl, counted, rfl⟩
        | succ n =>
            obtain ⟨past, label, tail, split, here, before⟩ := ih n (Nat.lt_of_succ_lt_succ many)
            refine ⟨first :: past, label, tail, by rw [split]; rfl, here, ?_⟩
            rw [List.countP_cons_of_pos counted, before]
      · rw [List.countP_cons_of_neg counted] at many
        obtain ⟨past, label, tail, split, here, before⟩ := ih n many
        refine ⟨first :: past, label, tail, by rw [split]; rfl, here, ?_⟩
        rw [List.countP_cons_of_neg counted, before]

theorem wrapped_reached (past : List (Action A)) (action : Action A) (broker next : EventBroker A)
    (run : Runs past broker) (step : Step broker action next) (posts : isPostDelayed action = true)
    (count : past.countP isPostDelayed = 65536) : ¬ IdsIdentify next := by
  have after : Runs (past ++ [action]) next := run_append Step _ _ _ _ _ run (run_single Step _ _ _ step)
  have calls := (runs_numbered past broker run).calls
  cases step with
  | postDelayed ev topic delayMs now =>
      obtain ⟨dev, _, pending, _, call⟩ := post_delayed_returns broker ev topic delayMs now
      apply wrapped_not_identify _ _ (runs_delivering _ _ after).accounted (runs_numbered _ _ after) dev pending
      exact Nat.le_of_eq (by rw [call, calls, count])
  | removeDelayed id => cases posts
  | clearDelayedEvents => cases posts
  | pop now idle => cases posts
  | post dev popped => cases posts

theorem ids_identify_iff (actions : List (Action A)) (broker : EventBroker A) (run : Runs actions broker) :
    (∀ past reached, past <+: actions → Runs past reached → IdsIdentify reached) ↔
      actions.countP isPostDelayed ≤ 65536 := by
  refine ⟨?_, ?_⟩
  · intro identify
    by_contra many
    obtain ⟨past, action, rest, split, posts, count⟩ := nth_satisfying isPostDelayed 65536 actions (by omega)
    subst split
    obtain ⟨before, left, right⟩ := run_split Step initial broker past (action :: rest) run
    cases right with
    | next _ next _ _ _ step tail =>
        apply wrapped_reached past action before next left step posts count
        apply identify (past ++ [action]) next
        · exact ⟨rest, by simp⟩
        · exact run_append Step _ _ _ _ _ left (run_single Step _ _ _ step)
  · intro few past reached front prior
    have numbered := runs_numbered past reached prior
    apply few_identify past reached (runs_delivering past reached prior).accounted numbered
    rw [numbered.calls]
    exact Nat.le_trans front.sublist.countP_le few

theorem ids_identify_iff_reused :
    (∀ past reached, past <+: [.postDelayed "first" 0 100 0, .removeDelayed 0] → Runs past reached → IdsIdentify reached) ↔
      [Action.postDelayed "first" 0 100 0, .removeDelayed 0].countP isPostDelayed ≤ 65536 := by
  apply ids_identify_iff _ ((initial.postDelayed "first" 0 100 0).2.removeDelayed 0)
  apply Run.next _ _ _ _ _ (.postDelayed _ "first" 0 100 0)
  exact run_single Step _ _ _ (.removeDelayed _ 0)

theorem posting_runs (ev : A) (topic : UInt8) (delayMs : UInt32) (now : Int) (n : Nat) :
    ∃ broker, Runs (List.replicate n (.postDelayed ev topic delayMs now)) broker := by
  induction n with
  | zero => exact ⟨initial, .done initial⟩
  | succ n ih =>
      obtain ⟨broker, run⟩ := ih
      rw [List.replicate_succ']
      exact ⟨_, run_append Step _ _ _ _ _ run (run_single Step _ _ _ (.postDelayed broker ev topic delayMs now))⟩

theorem ids_wrap : ∃ broker,
    Runs (List.replicate 65537 (.postDelayed () 0 4294967295 0)) broker ∧ ¬ IdsIdentify broker := by
  obtain ⟨before, run⟩ := posting_runs () 0 4294967295 0 65536
  have step := Step.postDelayed before () 0 4294967295 0
  refine ⟨_, ?_, wrapped_reached _ _ before _ run step rfl ?_⟩
  · rw [List.replicate_succ']
    exact run_append Step _ _ _ _ _ run (run_single Step _ _ _ step)
  · rw [List.countP_replicate]
    rfl

end EventBroker

end CameraController
