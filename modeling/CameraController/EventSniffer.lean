import Mathlib.Data.List.Infix
import CameraController.BrokerPublish

set_option autoImplicit false

namespace CameraController

open Transition

-- The Sniffers that new has made, each with its topic.
structure EventSniffer (H : Type) where
  sniffers : List (H × UInt8)
  distinct : (sniffers.map Prod.fst).Nodup

def Change.subscriber {H : Type} : Change H → H
  | .subscribe subscriber _ => subscriber
  | .unsubscribe subscriber _ => subscriber
  | .unsubscribeAll subscriber => subscriber

namespace Subscribers

variable {T H E : Type}

def callsOf (among : H → Bool) (changes : List (Change H)) : List (Change H) :=
  changes.filter (fun change => among change.subscriber)

variable [DecidableEq H]

def partOf (among : H → Bool) (subscriptions : List (H × UInt8)) : List (H × UInt8) :=
  subscriptions.filter (fun subscription => among subscription.1)

omit [DecidableEq H] in
theorem part_filter (among : H → Bool) (keep : H × UInt8 → Bool) (subscriptions : List (H × UInt8)) :
    partOf among (subscriptions.filter keep) = (partOf among subscriptions).filter keep := by
  simp only [partOf, List.filter_filter, Bool.and_comm]

omit [DecidableEq H] in
theorem part_untouched (among : H → Bool) (keep : H × UInt8 → Bool) (subscriptions : List (H × UInt8))
    (kept : ∀ subscription, among subscription.1 = true → keep subscription = true) :
    partOf among (subscriptions.filter keep) = partOf among subscriptions := by
  rw [part_filter, List.filter_eq_self]
  intro subscription mem
  exact kept subscription (List.mem_filter.mp mem).2

theorem part_after (among : H → Bool) (subscriptions : List (H × UInt8)) (change : Change H) :
    partOf among (outstandingAfter subscriptions change) =
      if among change.subscriber then outstandingAfter (partOf among subscriptions) change else partOf among subscriptions := by
  cases concerned : among change.subscriber with
  | true =>
      cases change with
      | subscribe subscriber topic => simp [partOf, outstandingAfter, show among subscriber = _ from concerned]
      | unsubscribe subscriber topic => exact part_filter among _ subscriptions
      | unsubscribeAll subscriber => exact part_filter among _ subscriptions
  | false =>
      have others : ∀ handler, among handler = true → handler ≠ change.subscriber := by
        rintro handler mine rfl
        exact Bool.false_ne_true (concerned.symm.trans mine)
      cases change with
      | subscribe subscriber topic => simp [partOf, outstandingAfter, show among subscriber = _ from concerned]
      | unsubscribe subscriber topic =>
          apply part_untouched
          intro subscription mine
          exact decide_eq_true (fun same => others _ mine (congrArg Prod.fst same))
      | unsubscribeAll subscriber =>
          apply part_untouched
          intro subscription mine
          exact decide_eq_true (others _ mine)

theorem outstanding_part (among : H → Bool) (changes : List (Change H)) :
    partOf among (outstanding changes) = outstanding (callsOf among changes) := by
  induction changes using List.reverseRecOn with
  | nil => rfl
  | append_singleton changes change ih =>
      have extended : outstanding (changes ++ [change]) = outstandingAfter (outstanding changes) change := List.foldl_concat ..
      rw [extended, part_after, ih, callsOf, callsOf, List.filter_append]
      cases concerned : among change.subscriber with
      | true => simp [outstanding, concerned]
      | false => simp [concerned]

theorem unsubscribed_all (subscriptions : List (H × UInt8)) (gone : List H) :
    (gone.map Change.unsubscribeAll).foldl outstandingAfter subscriptions =
      subscriptions.filter (fun subscription => subscription.1 ∉ gone) := by
  induction gone generalizing subscriptions with
  | nil => simp
  | cons h gone ih =>
      rw [List.map_cons, List.foldl_cons, ih, outstandingAfter, List.filter_filter]
      apply List.filter_congr
      intro subscription _
      simp [Bool.and_comm]

theorem subscribed_all (subscriptions added : List (H × UInt8)) :
    (added.map (fun s => Change.subscribe s.1 s.2)).foldl outstandingAfter subscriptions = subscriptions ++ added := by
  induction added generalizing subscriptions with
  | nil => simp
  | cons s added ih =>
      rw [List.map_cons, List.foldl_cons, ih, outstandingAfter, List.append_assoc]
      rfl

variable [DecidableEq T]

def Posted (s t : Subscribers T H E) : Prop :=
  s.changes <+: t.changes ∧ ∃ new, t.posts = s.posts ++ new ∧
    ∀ p ∈ new, ∃ front, s.changes <+: front ∧ front <+: t.changes ∧ p.audience = audience front p.topic

omit [DecidableEq T] in
theorem posted_trans (s t u : Subscribers T H E) (first : Posted s t) (second : Posted t u) : Posted s u := by
  obtain ⟨grows, early, old, before⟩ := first
  obtain ⟨further, late, new, after⟩ := second
  refine ⟨grows.trans further, early ++ late, by rw [new, old, List.append_assoc], ?_⟩
  intro p mem
  cases List.mem_append.mp mem with
  | inl there =>
      obtain ⟨front, left, right, same⟩ := before p there
      exact ⟨front, left, right.trans further, same⟩
  | inr there =>
      obtain ⟨front, left, right, same⟩ := after p there
      exact ⟨front, grows.trans left, right, same⟩

theorem posted_step (s t : Subscribers T H E) (act : Act T H E) (step : Step s act t) : Posted s t := by
  have quiet : s.changes <+: t.changes → t.posts = s.posts → Posted s t :=
    fun grows same => ⟨grows, [], by rw [same, List.append_nil], fun _ mem => by cases mem⟩
  cases step with
  | lockPost thread ev topic waits free =>
      refine ⟨List.prefix_rfl, _, rfl, ?_⟩
      intro p mem
      obtain rfl := List.mem_singleton.mp mem
      exact ⟨s.changes, List.prefix_rfl, List.prefix_rfl, rfl⟩
  | change thread change inside => exact quiet (List.prefix_append _ _) rfl
  | _ => exact quiet List.prefix_rfl rfl

theorem run_posted (s t : Subscribers T H E) (acts : List (Act T H E)) (run : Run Step s acts t) : Posted s t :=
  run_relation Step Posted (fun s => ⟨List.prefix_rfl, [], (List.append_nil _).symm, fun _ mem => by cases mem⟩) posted_trans
    (fun s act t => posted_step s t act) s t acts run

omit [DecidableEq T] in
theorem received_prefix (s : Subscribers T H E) (delivering : Delivering s) : s.received <+: script s.posts := by
  by_cases idle : ∀ thread post ev topic next, s.pc thread ≠ .posting post ev topic next
  · rw [delivering.sent.idle idle]
  · simp only [not_forall, not_not] at idle
    obtain ⟨thread, post, ev, topic, next, posting⟩ := idle
    obtain ⟨earlier, list, told⟩ := delivering.sent.busy thread post ev topic next posting
    rw [told, list]
    simp only [script, List.flatMap_append, List.flatMap_singleton, receipts, List.prefix_append_right_inj]
    exact (List.take_prefix _ _).map _

end Subscribers

namespace EventSniffer

open Subscribers

section Calls

variable {H E : Type}

-- The constructor over topics. The Sniffer that it makes in turn i gets the
-- address fresh i.
def construct (fresh : Nat → H) (injective : Function.Injective fresh) (topics : List UInt8) : EventSniffer H where
  sniffers := topics.zipIdx.map (fun turn => (fresh turn.2, turn.1))
  distinct := by
    have addresses : (topics.zipIdx.map (fun turn => (fresh turn.2, turn.1))).map Prod.fst =
        (List.range' 0 topics.length).map fresh := by
      rw [← List.zipIdx_map_snd 0 topics, List.map_map, List.map_map]
      rfl
    rw [addresses]
    exact (List.nodup_range' ..).map injective

-- The topics of the other constructor: t goes from 0 to 255.
def allTopics : List UInt8 := (List.range 256).map UInt8.ofNat

variable (sniffer : EventSniffer H)

def topics : List UInt8 := sniffer.sniffers.map Prod.snd

def subscribeCalls : List (Change H) := sniffer.sniffers.map (fun s => .subscribe s.1 s.2)

def unsubscribeCalls : List (Change H) := (sniffer.sniffers.map Prod.fst).map .unsubscribeAll

variable [DecidableEq H]

def owns (handler : H) : Bool := handler ∈ sniffer.sniffers.map Prod.fst

-- Sniffer::postEvent calls the callback with the event and the topic of the
-- Sniffer.
def postEvent (receipt : Receipt H E) : Option (E × UInt8) :=
  (sniffer.sniffers.find? (fun s => s.1 = receipt.handler)).map (fun s => (receipt.ev, s.2))

def callbacks (received : List (Receipt H E)) : List (E × UInt8) := received.filterMap sniffer.postEvent

theorem post_event_own (receipt : Receipt H E) (topic : UInt8) (mem : (receipt.handler, topic) ∈ sniffer.sniffers) :
    sniffer.postEvent receipt = some (receipt.ev, topic) := by
  obtain ⟨before, after, split⟩ := List.append_of_mem mem
  have distinct := sniffer.distinct
  rw [split, List.map_append, List.map_cons, List.nodup_append] at distinct
  have first : before.find? (fun s => s.1 = receipt.handler) = none := by
    rw [List.find?_eq_none]
    intro s there same
    exact distinct.2.2 s.1 (List.mem_map_of_mem there) receipt.handler (List.mem_cons_self ..) (of_decide_eq_true same)
  rw [postEvent, split, List.find?_append, first, Option.none_or]
  simp

theorem post_event_other (receipt : Receipt H E) (other : sniffer.owns receipt.handler = false) :
    sniffer.postEvent receipt = none := by
  have absent : sniffer.sniffers.find? (fun s => s.1 = receipt.handler) = none := by
    rw [List.find?_eq_none]
    intro s there same
    have member : receipt.handler ∈ sniffer.sniffers.map Prod.fst := of_decide_eq_true same ▸ List.mem_map_of_mem there
    exact Bool.false_ne_true (other.symm.trans (decide_eq_true member))
  rw [postEvent, absent]
  rfl

theorem outstanding_attached : outstanding sniffer.subscribeCalls = sniffer.sniffers :=
  (subscribed_all [] sniffer.sniffers).trans (List.nil_append _)

theorem outstanding_detached : outstanding (sniffer.subscribeCalls ++ sniffer.unsubscribeCalls) = [] := by
  rw [outstanding, List.foldl_append, ← outstanding, outstanding_attached, unsubscribeCalls, unsubscribed_all,
    List.filter_eq_nil_iff]
  intro s there kept
  exact of_decide_eq_true kept (List.mem_map_of_mem there)

-- What the callback hears of posts: each once for every Sniffer of its topic.
def heard (posts : List (Publication H E)) : List (E × UInt8) :=
  posts.flatMap (fun p => List.replicate (sniffer.topics.count p.topic) (p.ev, p.topic))

omit [DecidableEq H] in
theorem all_topics_once (topic : UInt8) : allTopics.count topic = 1 := by
  have nodup : allTopics.Nodup := by decide +kernel
  have member : topic ∈ allTopics := by
    rw [allTopics, List.mem_map]
    exact ⟨topic.toNat, List.mem_range.mpr topic.toNat_lt, UInt8.ofNat_toNat⟩
  exact List.count_eq_one_of_mem nodup member

omit [DecidableEq H] in
theorem construct_topics (fresh : Nat → H) (injective : Function.Injective fresh) (topics : List UInt8) :
    (construct fresh injective topics).topics = topics := by
  rw [EventSniffer.topics, construct, List.map_map]
  exact List.zipIdx_map_fst 0 topics

omit [DecidableEq H] in
theorem heard_all (fresh : Nat → H) (injective : Function.Injective fresh) (posts : List (Publication H E)) :
    (construct fresh injective allTopics).heard posts = posts.map (fun p => (p.ev, p.topic)) := by
  simp only [heard, construct_topics, all_topics_once, List.replicate_one, List.map_eq_flatMap]

theorem callbacks_of_own (audience : List H) (post : Nat) (ev : E) :
    sniffer.callbacks (audience.map (fun handler => ⟨handler, post, ev⟩)) =
      sniffer.callbacks ((audience.filter sniffer.owns).map (fun handler => ⟨handler, post, ev⟩)) := by
  induction audience with
  | nil => rfl
  | cons handler audience ih =>
      rw [callbacks, callbacks] at ih
      cases mine : sniffer.owns handler with
      | true => rw [List.filter_cons_of_pos mine, List.map_cons, List.map_cons, callbacks, callbacks, List.filterMap_cons, ih,
          List.filterMap_cons]
      | false =>
          have silent := sniffer.post_event_other (⟨handler, post, ev⟩ : Receipt H E) mine
          rw [List.filter_cons_of_neg (by simp [mine]), List.map_cons, callbacks, callbacks, List.filterMap_cons_none silent, ih]

theorem callbacks_of_sniffers (some : List (H × UInt8)) (within : some ⊆ sniffer.sniffers) (topic : UInt8)
    (same : ∀ s ∈ some, s.2 = topic) (post : Nat) (ev : E) :
    sniffer.callbacks ((some.map Prod.fst).map (fun handler => ⟨handler, post, ev⟩)) =
      List.replicate some.length (ev, topic) := by
  induction some with
  | nil => rfl
  | cons s some ih =>
      obtain ⟨here, there⟩ := List.cons_subset.mp within
      have called := sniffer.post_event_own (⟨s.1, post, ev⟩ : Receipt H E) s.2 here
      have rest := ih there (fun s mem => same s (List.mem_cons_of_mem _ mem))
      rw [callbacks] at rest
      rw [List.map_cons, List.map_cons, callbacks, List.filterMap_cons_some called, rest, same s (List.mem_cons_self ..)]
      rfl

theorem callbacks_receipts (p : Publication H E) (front : List (Change H)) (asked : p.audience = audience front p.topic)
    (attached : callsOf sniffer.owns front = sniffer.subscribeCalls) :
    sniffer.callbacks (receipts p) = List.replicate (sniffer.topics.count p.topic) (p.ev, p.topic) := by
  have own : p.audience.filter sniffer.owns = (sniffer.sniffers.filter (fun s => s.2 = p.topic)).map Prod.fst := by
    rw [asked, audience, ← sniffer.outstanding_attached, ← attached, ← outstanding_part, partOf, subscribedTo,
      List.filter_map, List.filter_filter, List.filter_filter]
    congr 1
    apply List.filter_congr
    intro s _
    rw [Bool.and_comm]
    rfl
  have counted : (sniffer.sniffers.filter (fun s => s.2 = p.topic)).length = sniffer.topics.count p.topic := by
    rw [topics, List.count, List.countP_map, List.countP_eq_length_filter]
    congr 1
  rw [receipts, callbacks_of_own, own, callbacks_of_sniffers sniffer _ (List.filter_subset_self ..) p.topic, counted]
  intro s mem
  exact of_decide_eq_true (List.mem_filter.mp mem).2

end Calls

section Runs

variable {T H E : Type} [DecidableEq T] [DecidableEq H] (sniffer : EventSniffer H)

def Attached (s : Subscribers T H E) : Prop := callsOf sniffer.owns s.changes = sniffer.subscribeCalls

def Detached (s : Subscribers T H E) : Prop :=
  callsOf sniffer.owns s.changes = sniffer.subscribeCalls ++ sniffer.unsubscribeCalls

def Resting (s : Subscribers T H E) : Prop := ∀ thread post ev topic next, s.pc thread ≠ .posting post ev topic next

omit [DecidableEq H] in
theorem calls_between (among : H → Bool) (first front last : List (Change H)) (calls : List (Change H)) (left : first <+: front)
    (right : front <+: last) (begun : callsOf among first = calls) (ended : callsOf among last = calls) :
    callsOf among front = calls := by
  have lower : callsOf among first <+: callsOf among front := left.filter _
  have upper : callsOf among front <+: callsOf among last := right.filter _
  rw [begun] at lower
  rw [ended] at upper
  exact upper.eq_of_length_le lower.length_le

omit [DecidableEq T] in
theorem callbacks_script (first last : Subscribers T H E) (posts : List (Publication H E)) (begun : sniffer.Attached first)
    (ended : sniffer.Attached last) (asked : ∀ p ∈ posts, ∃ front, first.changes <+: front ∧ front <+: last.changes ∧
      p.audience = audience front p.topic) : sniffer.callbacks (script posts) = sniffer.heard posts := by
  induction posts with
  | nil => rfl
  | cons p posts ih =>
      obtain ⟨front, left, right, same⟩ := asked p (List.mem_cons_self ..)
      have attached := calls_between sniffer.owns _ front _ _ left right begun ended
      have rest := ih (fun p mem => asked p (List.mem_cons_of_mem _ mem))
      rw [callbacks] at rest
      have split : script (p :: posts) = receipts p ++ script posts := rfl
      rw [split, callbacks, List.filterMap_append, rest, ← callbacks, callbacks_receipts sniffer p front same attached]
      rfl

-- While the Sniffers are there, the callback hears every post, in the order of
-- the posts, and with no list of topics each once; when they are deleted it hears
-- nothing any more.
theorem posts_sniffed (before after : Subscribers T H E) (past acts : List (Act T H E)) (reached : Run Step initial past before)
    (run : Run Step before acts after) : ∃ posts received, after.posts = before.posts ++ posts ∧
      after.received = before.received ++ received ∧
      (sniffer.Attached before → sniffer.Attached after → Resting before →
        sniffer.callbacks received <+: sniffer.heard posts ∧
          (Resting after → sniffer.callbacks received = sniffer.heard posts)) ∧
      (sniffer.Detached before → sniffer.Detached after → sniffer.callbacks received = []) ∧
      ∀ fresh injective, sniffer = construct fresh injective allTopics → sniffer.heard posts = posts.map (fun p => (p.ev, p.topic)) := by
  have delivering := run_delivering before past reached
  have later := run_delivering after (past ++ acts) (run_append Step _ _ _ _ _ reached run)
  obtain ⟨_, posts, posted, asked⟩ := run_posted before after acts run
  obtain ⟨received, got, whence⟩ := (run_forward before after acts delivering run).received
  refine ⟨posts, received, posted, got, ?_, ?_, fun fresh injective same => same ▸ heard_all fresh injective posts⟩
  · intro begun ended resting
    have told : script after.posts = before.received ++ script posts := by
      rw [posted, delivering.sent.idle resting, script, script, script, List.flatMap_append]
    have whole := callbacks_script sniffer before after posts begun ended asked
    constructor
    · have front := received_prefix after later
      rw [got, told, List.prefix_append_right_inj] at front
      rw [← whole]
      exact front.filterMap _
    · intro rests
      have all := later.sent.idle rests
      rw [got, told, List.append_cancel_left_eq] at all
      rw [all, whole]
  · intro begun ended
    rw [callbacks, List.filterMap_eq_nil_iff]
    intro receipt mem
    obtain ⟨front, p, left, right, _, _, asked⟩ := whence receipt mem
    apply post_event_other
    have gone := calls_between sniffer.owns _ front _ _ left right begun ended
    have none : partOf sniffer.owns (outstanding front) = [] := by
      rw [outstanding_part, gone, outstanding_detached]
    rw [audience, mem_subscribed] at asked
    rw [partOf, List.filter_eq_nil_iff] at none
    exact Bool.eq_false_iff.mpr (none _ asked)

end Runs

theorem posts_sniffed_two : ∃ before after : Subscribers Bool Nat Nat, ∃ posts received,
    after.posts = before.posts ++ posts ∧ after.received = before.received ++ received ∧
      posts.map Publication.topic = [5, 7] ∧ (construct id Function.injective_id [5, 6]).callbacks received = [(70, 5)] := by
  let sniffer : EventSniffer Nat := construct id Function.injective_id [5, 6]
  let past : List (Act Bool Nat Nat) := sniffer.subscribeCalls.flatMap (fun change =>
    .call true (.change change) :: List.replicate 3 (.step true))
  let acts : List (Act Bool Nat Nat) := [.call false (.change (.subscribe 9 7)), .call true (.post 70 5), .step true, .step true,
    .step true, .step true, .call true (.post 80 7), .step false, .step false, .step false, .step true, .step true, .step true,
    .step true]
  let before : Subscribers Bool Nat Nat := (follow advance (fun _ _ => true) initial past).get (by decide +kernel)
  let after : Subscribers Bool Nat Nat := (follow advance (fun _ _ => true) before acts).get (by decide +kernel)
  have reached : Run Step initial past before := follow_reached Step advance advance_step _ _ _ (Option.some_get _).symm
  have run : Run Step before acts after := follow_reached Step advance advance_step _ _ _ (Option.some_get _).symm
  obtain ⟨posts, received, posted, got, sniffed, _⟩ := posts_sniffed sniffer before after past acts reached run
  have earlier : before.posts = [] := by decide +kernel
  have later : after.posts = [⟨0, 70, 5, [0]⟩, ⟨1, 80, 7, [9]⟩] := by decide +kernel
  rw [earlier, later, List.nil_append] at posted
  have begun : sniffer.Attached before := show callsOf _ _ = _ by decide +kernel
  have ended : sniffer.Attached after := show callsOf _ _ = _ by decide +kernel
  have idle : ∀ thread, before.pc thread = .outside ∧ after.pc thread = .outside := by decide +kernel
  have rests : Resting before := fun thread _ _ _ _ posting => by rw [(idle thread).1] at posting; cases posting
  have still : Resting after := fun thread _ _ _ _ posting => by rw [(idle thread).2] at posting; cases posting
  refine ⟨before, after, posts, received, by rw [earlier, later, posted]; rfl, got, by rw [← posted]; rfl, ?_⟩
  rw [(sniffed begun ended rests).2 still, ← posted]
  decide

end EventSniffer

end CameraController
