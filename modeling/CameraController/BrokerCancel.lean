import CameraController.BrokerIds

set_option autoImplicit false

namespace CameraController

namespace EventBroker

open Transition

variable {A : Type}

def Cancels : Action A → DelayedEvent A → Prop
  | .removeDelayed id, dev => dev.schedId = id
  | .clearDelayedEvents, _ => True
  | _, _ => False

structure Grows (before after : EventBroker A) : Prop where
  removed : before.removed <+: after.removed
  posted : before.posted <+: after.posted

theorem grows_refl (broker : EventBroker A) : Grows broker broker := ⟨List.prefix_rfl, List.prefix_rfl⟩

theorem grows_trans (first second third : EventBroker A) (left : Grows first second) (right : Grows second third) :
    Grows first third :=
  ⟨left.removed.trans right.removed, left.posted.trans right.posted⟩

theorem step_grows (broker : EventBroker A) (action : Action A) (next : EventBroker A)
    (step : Step broker action next) : Grows broker next := by
  cases step with
  | postDelayed ev topic delayMs now => exact ⟨List.prefix_rfl, List.prefix_rfl⟩
  | removeDelayed id => exact ⟨List.prefix_append _ _, List.prefix_rfl⟩
  | clearDelayedEvents => exact ⟨List.prefix_append _ _, List.prefix_rfl⟩
  | pop now idle =>
      cases pop_cases broker now with
      | inl same => rw [same]; exact grows_refl broker
      | inr took =>
          obtain ⟨front, rest, _, _, popped⟩ := took
          rw [popped]
          exact ⟨List.prefix_rfl, List.prefix_rfl⟩
  | post dev popped => exact ⟨List.prefix_rfl, List.prefix_append _ _⟩

theorem run_grows (actions : List (Action A)) (broker next : EventBroker A) (run : Run Step broker actions next) :
    Grows broker next :=
  run_relation Step Grows grows_refl grows_trans step_grows broker next actions run

theorem cancel_removes (broker : EventBroker A) (action : Action A) (next : EventBroker A)
    (identify : IdsIdentify broker) (step : Step broker action next) (dev : DelayedEvent A)
    (pending : dev ∈ broker.delayedEvents) (cancelled : Cancels action dev) : dev ∈ next.removed := by
  cases step with
  | postDelayed ev topic delayMs now => cases cancelled
  | removeDelayed id =>
      have split := (erase_id_perm id broker.delayedEvents).mem_iff.mpr pending
      cases List.mem_append.mp split with
      | inl left => exact absurd cancelled (erase_id_gone id broker.delayedEvents identify.distinct dev left)
      | inr found => exact List.mem_append_right _ found
  | clearDelayedEvents => exact List.mem_append_right _ pending
  | pop now idle => cases cancelled
  | post held popped => cases cancelled

theorem removed_not_posted (broker : EventBroker A) (accounted : Accounted broker) (dev : DelayedEvent A)
    (removed : dev ∈ broker.removed) : dev ∉ broker.posted.map Posting.origin := by
  intro posted
  have disjoint := (List.nodup_append.mp (accounted_distinct broker accounted)).2.2
  exact disjoint dev (List.mem_append_right _ removed) dev (List.mem_append_left _ posted) rfl

theorem posted_once (broker : EventBroker A) (accounted : Accounted broker) (earlier later : List (Posting A))
    (split : broker.posted = earlier ++ later) (dev : DelayedEvent A) (first : dev ∈ earlier.map Posting.origin) :
    dev ∉ later.map Posting.origin := by
  intro second
  have posted := (List.nodup_append.mp (List.nodup_append.mp (accounted_distinct broker accounted)).2.1).1
  rw [split, List.map_append] at posted
  exact (List.nodup_append.mp posted).2.2 dev first dev second rfl

theorem cancelled_only_popped (past rest : List (Action A)) (action : Action A) (before after broker : EventBroker A)
    (prior : Runs past before) (cancel : Step before action after) (later : Run Step after rest broker)
    (few : (past ++ action :: rest).countP isPostDelayed < 65536) :
    ∃ postings, broker.posted = before.posted ++ postings ∧ (postings.map Posting.origin).Nodup ∧
      ∀ posting ∈ postings, posting.origin ∈ before.scheduled → Cancels action posting.origin →
        before.dev = some posting.origin := by
  have accounted := (runs_delivering past before prior).accounted
  have whole : Runs (past ++ action :: rest) broker :=
    run_append Step _ _ _ _ _ prior (.next _ _ _ _ _ cancel later)
  have final := (runs_delivering _ broker whole).accounted
  have identify : IdsIdentify before := by
    have numbered := runs_numbered past before prior
    apply few_identify past before accounted numbered
    rw [numbered.calls]
    rw [List.countP_append] at few
    omega
  have grows := grows_trans before after broker (step_grows before action after cancel) (run_grows rest after broker later)
  obtain ⟨postings, split⟩ := grows.posted
  have once := (List.nodup_append.mp (List.nodup_append.mp (accounted_distinct broker final)).2.1).1
  rw [← split, List.map_append] at once
  refine ⟨postings, split.symm, (List.nodup_append.mp once).2.1, ?_⟩
  intro posting member scheduled cancelled
  have posted : posting.origin ∈ postings.map Posting.origin := List.mem_map_of_mem member
  have delivered : posting.origin ∈ broker.posted.map Posting.origin := by
    rw [← split, List.map_append]
    exact List.mem_append_right _ posted
  -- Where the event was when the call came decides.
  cases List.mem_append.mp (accounted.places.mem_iff.mpr scheduled) with
  | inl held =>
      cases List.mem_append.mp held with
      | inl pending =>
          have removed := cancel_removes before action after identify cancel posting.origin pending cancelled
          exact absurd delivered (removed_not_posted broker final posting.origin
            ((run_grows rest after broker later).removed.subset removed))
      | inr removed =>
          exact absurd delivered (removed_not_posted broker final posting.origin (grows.removed.subset removed))
  | inr taken =>
      cases List.mem_append.mp taken with
      | inl earlier => exact absurd posted (posted_once broker final before.posted postings split.symm posting.origin earlier)
      | inr popped => exact Option.mem_toList.mp popped

theorem cancelled_only_popped_pending :
    ∃ postings, [] = [] ++ postings ∧ (postings.map Posting.origin).Nodup ∧
      ∀ posting ∈ postings, posting.origin ∈ [⟨0, "first", 0, 100000000, 0⟩] → posting.origin.schedId = 0 →
        none = some posting.origin :=
  cancelled_only_popped [.postDelayed "first" 0 100 0] [.pop 100000000] (.removeDelayed 0)
    (initial.postDelayed "first" 0 100 0).2 ((initial.postDelayed "first" 0 100 0).2.removeDelayed 0)
    (((initial.postDelayed "first" 0 100 0).2.removeDelayed 0).pop 100000000)
    (run_single Step _ _ _ (.postDelayed _ "first" 0 100 0)) (.removeDelayed _ 0)
    (run_single Step _ _ _ (.pop _ 100000000 rfl)) (by decide)

-- removeDelayed returns between the pop and the post of the run thread.
theorem cancelled_yet_posted : ¬ ∀ (past rest : List (Action String)) (action : Action String)
    (before after broker : EventBroker String), Runs past before → Step before action after →
    Run Step after rest broker → (past ++ action :: rest).countP isPostDelayed < 65536 →
    ∃ postings, broker.posted = before.posted ++ postings ∧
      ∀ posting ∈ postings, posting.origin ∈ before.scheduled → ¬ Cancels action posting.origin := by
  intro effective
  have prior : Runs [.postDelayed "first" 0 0 0, .pop 0] ((initial.postDelayed "first" 0 0 0).2.pop 0) := by
    apply Run.next _ _ _ _ _ (.postDelayed _ "first" 0 0 0)
    exact run_single Step _ _ _ (.pop _ 0 rfl)
  obtain ⟨postings, split, silent⟩ := effective _ [.post] (.removeDelayed 0) _ _ _ prior (.removeDelayed _ 0)
    (run_single Step _ _ _ (.post _ ⟨0, "first", 0, 0, 0⟩ (by decide))) (by decide)
  have same : postings = [⟨"first", 0, ⟨0, "first", 0, 0, 0⟩⟩] := split.symm
  subst same
  exact silent _ List.mem_cons_self (by decide) rfl

end EventBroker

end CameraController
