import Mathlib.Data.List.Nodup
import CameraController.BrokerSubscribers

set_option autoImplicit false

namespace CameraController

namespace Subscribers

open Transition

section Script

variable {H E : Type}

def receipts (p : Publication H E) : List (Receipt H E) := p.audience.map (fun handler => ⟨handler, p.id, p.ev⟩)

-- What the posts deliver when none interferes with another.
def script (posts : List (Publication H E)) : List (Receipt H E) := posts.flatMap receipts

def receiptsOf (received : List (Receipt H E)) (post : Nat) : List (Receipt H E) :=
  received.filter (fun receipt => receipt.post = post)

def heardBy [DecidableEq H] (received : List (Receipt H E)) (handler : H) : List Nat :=
  (received.filter (fun receipt => receipt.handler = handler)).map Receipt.post

theorem receipts_post (p : Publication H E) (receipt : Receipt H E) (mem : receipt ∈ receipts p) : receipt.post = p.id := by
  obtain ⟨handler, _, rfl⟩ := List.mem_map.mp mem
  rfl

theorem receipts_of_own (p : Publication H E) : receiptsOf (receipts p) p.id = receipts p := by
  rw [receiptsOf, List.filter_eq_self]
  intro receipt mem
  exact decide_eq_true (receipts_post p receipt mem)

theorem receipts_of_others (posts : List (Publication H E)) (post : Nat) (absent : post ∉ posts.map Publication.id) :
    receiptsOf (script posts) post = [] := by
  rw [receiptsOf, List.filter_eq_nil_iff]
  intro receipt mem same
  obtain ⟨p, there, its⟩ := List.mem_flatMap.mp mem
  apply absent
  rw [← of_decide_eq_true same, receipts_post p receipt its]
  exact List.mem_map_of_mem there

theorem receipts_of_script (posts : List (Publication H E)) (nodup : (posts.map Publication.id).Nodup) (p : Publication H E)
    (mem : p ∈ posts) : receiptsOf (script posts) p.id = receipts p := by
  obtain ⟨before, after, rfl⟩ := List.append_of_mem mem
  rw [List.map_append, List.map_cons, List.nodup_append] at nodup
  obtain ⟨_, tail, apart⟩ := nodup
  have absentBefore : p.id ∉ before.map Publication.id := fun there => apart p.id there p.id (List.mem_cons_self ..) rfl
  have absentAfter : p.id ∉ after.map Publication.id := (List.nodup_cons.mp tail).1
  have split : script (before ++ p :: after) = script before ++ (receipts p ++ script after) := by
    rw [script, List.flatMap_append, List.flatMap_cons]
    rfl
  rw [split, receiptsOf, List.filter_append, List.filter_append, ← receiptsOf, ← receiptsOf, ← receiptsOf,
    receipts_of_others before p.id absentBefore, receipts_of_others after p.id absentAfter, receipts_of_own, List.nil_append,
    List.append_nil]

theorem script_ordered (posts : List (Publication H E)) (ordered : (posts.map Publication.id).Pairwise (fun p q => p < q)) :
    ((script posts).map Receipt.post).Pairwise (fun p q => p ≤ q) := by
  rw [List.pairwise_map] at ordered ⊢
  rw [script, List.pairwise_flatMap]
  constructor
  · intro p _
    apply List.pairwise_of_forall_mem_list
    intro first left second right
    exact Nat.le_of_eq ((receipts_post p first left).trans (receipts_post p second right).symm)
  · apply ordered.imp
    intro p q less first left second right
    rw [receipts_post p first left, receipts_post q second right]
    exact Nat.le_of_lt less

theorem heard_ordered [DecidableEq H] (received : List (Receipt H E))
    (ordered : (received.map Receipt.post).Pairwise (fun p q => p ≤ q)) (handler : H) :
    (heardBy received handler).Pairwise (fun p q => p ≤ q) :=
  ordered.sublist (List.filter_sublist.map Receipt.post)

end Script

theorem pair_in_order (l : List Nat) (ordered : l.Pairwise (fun p q => p ≤ q)) (p q : Nat) (less : p < q) (left : p ∈ l)
    (right : q ∈ l) : [p, q].Sublist l := by
  induction l with
  | nil => cases left
  | cons x l ih =>
      rw [List.pairwise_cons] at ordered
      cases List.mem_cons.mp right with
      | inl last =>
          cases List.mem_cons.mp left with
          | inl first => omega
          | inr first => have := ordered.1 p first; omega
      | inr second =>
          cases List.mem_cons.mp left with
          | inl first => exact first ▸ (List.singleton_sublist.mpr second).cons_cons p
          | inr first => exact (ih ordered.2 first second).cons x

theorem order_of_pair (l : List Nat) (ordered : l.Pairwise (fun p q => p ≤ q)) (p q : Nat) (pair : [p, q].Sublist l) :
    p ≤ q :=
  List.rel_of_pairwise_cons (ordered.sublist pair) (List.mem_cons_self ..)

variable {T H E : Type}

def critical : CallPc H E → Bool
  | .inside _ | .posting .. | .leaving => true
  | .outside | .waiting _ => false

def Owned (s : Subscribers T H E) : Prop := ∀ thread, critical (s.pc thread) = true ↔ s.mutex = some thread

-- What the handlers have received is what the posts deliver one after the other,
-- the last one as far as its loop has come.
structure Sent (s : Subscribers T H E) : Prop where
  idle : (∀ thread post ev topic next, s.pc thread ≠ .posting post ev topic next) → s.received = script s.posts
  busy : ∀ thread post ev topic next, s.pc thread = .posting post ev topic next → ∃ earlier,
    s.posts = earlier ++ [⟨post, ev, topic, s.subs topic⟩] ∧
      s.received = script (earlier ++ [⟨post, ev, topic, (s.subs topic).take next⟩])

theorem owned_alone (s : Subscribers T H E) (owned : Owned s) (thread other : T) (mine : critical (s.pc thread) = true)
    (its : critical (s.pc other) = true) : other = thread := by
  have here := (owned thread).mp mine
  have there := (owned other).mp its
  rw [here] at there
  exact (Option.some.inj there).symm

theorem owned_free (s : Subscribers T H E) (owned : Owned s) (free : s.mutex = none) (thread : T) :
    critical (s.pc thread) = false := by
  rw [← Bool.not_eq_true, owned thread, free]
  exact nofun

variable [DecidableEq T] [DecidableEq H]

theorem owned_step (s next : Subscribers T H E) (act : Act T H E) (owned : Owned s) (step : Step s act next) : Owned next := by
  have moves : ∀ (thread : T) (pc : CallPc H E), critical (s.pc thread) = critical pc →
      ∀ other, critical (Function.update s.pc thread pc other) = true ↔ s.mutex = some other := by
    intro thread pc same other
    by_cases here : other = thread
    · rw [here, Function.update_self, ← same]
      exact owned thread
    · rw [Function.update_of_ne here]
      exact owned other
  have locks : ∀ (thread : T) (pc : CallPc H E), s.mutex = none → critical pc = true →
      ∀ other, critical (Function.update s.pc thread pc other) = true ↔ some thread = some other := by
    intro thread pc free enters other
    by_cases here : other = thread
    · rw [here, Function.update_self]
      exact iff_of_true enters rfl
    · rw [Function.update_of_ne here, owned_free s owned free]
      exact iff_of_false Bool.false_ne_true (fun same => here (Option.some.inj same).symm)
  cases step with
  | call thread call free => exact moves thread _ (by rw [free]; rfl)
  | lockChange thread change waits free => exact locks thread _ free rfl
  | lockPost thread ev topic waits free => exact locks thread _ free rfl
  | change thread change inside => exact moves thread _ (by rw [inside]; rfl)
  | deliver thread post ev topic next handler posting more => exact moves thread _ (by rw [posting]; rfl)
  | finish thread post ev topic next posting last => exact moves thread _ (by rw [posting]; rfl)
  | unlock thread leaves =>
      intro other
      by_cases here : other = thread
      · rw [here]
        simp [setPc, critical]
      · have outside : critical (s.pc other) ≠ true := by
          intro inside
          exact here (owned_alone s owned thread other (by rw [leaves]; rfl) inside)
        simpa [setPc, Function.update_of_ne here] using outside

structure Delivering (s : Subscribers T H E) : Prop where
  owned : Owned s
  table : Tabled s.subscribers (outstanding s.changes)
  numbered : s.posts.map Publication.id = List.range s.posts.length
  sent : Sent s

omit [DecidableEq T] in
theorem subs_audience (s : Subscribers T H E) (table : Tabled s.subscribers (outstanding s.changes)) (topic : UInt8) :
    s.subs topic = audience s.changes topic := table topic

omit [DecidableEq H] in
theorem sent_outside (s next : Subscribers T H E) (thread : T) (pc : CallPc H E) (sent : Sent s)
    (was : ∀ post ev topic n, s.pc thread ≠ .posting post ev topic n)
    (becomes : ∀ post ev topic n, pc ≠ .posting post ev topic n)
    (pcs : next.pc = Function.update s.pc thread pc) (posts : next.posts = s.posts) (received : next.received = s.received)
    (others : next.subscribers = s.subscribers ∨ ∀ other post ev topic n, s.pc other ≠ .posting post ev topic n) :
    Sent next := by
  have elsewhere : ∀ other post ev topic n, next.pc other = .posting post ev topic n → s.pc other = .posting post ev topic n := by
    intro other post ev topic n there
    by_cases here : other = thread
    · rw [pcs, here, Function.update_self] at there
      exact (becomes post ev topic n there).elim
    · rwa [pcs, Function.update_of_ne here] at there
  constructor
  · intro nobody
    rw [received, posts]
    apply sent.idle
    intro other post ev topic n there
    by_cases here : other = thread
    · exact was post ev topic n (here ▸ there)
    · exact nobody other post ev topic n (by rw [pcs, Function.update_of_ne here]; exact there)
  · intro other post ev topic n there
    have before := elsewhere other post ev topic n there
    cases others with
    | inl same =>
        obtain ⟨earlier, list, told⟩ := sent.busy other post ev topic n before
        refine ⟨earlier, ?_, ?_⟩
        · rw [posts, list, subs, subs, same]
        · rw [received, told, subs, subs, same]
    | inr nobody => exact (nobody other post ev topic n before).elim

omit [DecidableEq H] in
theorem sent_posting (s next : Subscribers T H E) (thread : T) (post : Nat) (ev : E) (topic : UInt8) (n : Nat)
    (pcs : next.pc = Function.update s.pc thread (.posting post ev topic n))
    (alone : ∀ other post ev topic n, s.pc other = .posting post ev topic n → other = thread)
    (told : ∃ earlier, next.posts = earlier ++ [⟨post, ev, topic, next.subs topic⟩] ∧
      next.received = script (earlier ++ [⟨post, ev, topic, (next.subs topic).take n⟩])) : Sent next := by
  constructor
  · intro idle
    exact (idle thread post ev topic n (by rw [pcs, Function.update_self])).elim
  · intro other post' ev' topic' n' there
    by_cases here : other = thread
    · rw [pcs, here, Function.update_self] at there
      cases there
      exact told
    · rw [pcs, Function.update_of_ne here] at there
      exact (here (alone other post' ev' topic' n' there)).elim

theorem sent_step (s next : Subscribers T H E) (act : Act T H E) (owned : Owned s)
    (table : Tabled s.subscribers (outstanding s.changes)) (sent : Sent s) (step : Step s act next) : Sent next := by
  cases step with
  | call thread call free =>
      exact sent_outside s _ thread _ sent (by simp [free]) (by simp) rfl rfl rfl (.inl rfl)
  | lockChange thread change waits free =>
      exact sent_outside s _ thread _ sent (by simp [waits]) (by simp) rfl rfl rfl (.inl rfl)
  | unlock thread leaves =>
      exact sent_outside s _ thread _ sent (by simp [leaves]) (by simp) rfl rfl rfl (.inl rfl)
  | change thread change inside =>
      refine sent_outside s _ thread _ sent (by simp [inside]) (by simp) rfl rfl rfl (.inr ?_)
      intro other post ev topic n posting
      have same := owned_alone s owned thread other (by rw [inside]; rfl) (by rw [posting]; rfl)
      rw [same, inside] at posting
      cases posting
  | lockPost thread ev topic waits free =>
      have nobody : ∀ other post ev topic n, s.pc other ≠ .posting post ev topic n := by
        intro other post ev topic n posting
        have out := owned_free s owned free other
        rw [posting] at out
        cases out
      apply sent_posting s _ thread s.posts.length ev topic 0 rfl
      · exact fun other post ev topic n posting => (nobody other post ev topic n posting).elim
      · refine ⟨s.posts, ?_, ?_⟩
        · rw [← subs_audience s table]
          rfl
        · rw [script, List.flatMap_append, ← script, List.take_zero]
          simpa [receipts, setPc] using sent.idle nobody
  | deliver thread post ev topic n handler posting more =>
      obtain ⟨earlier, list, told⟩ := sent.busy thread post ev topic n posting
      apply sent_posting s _ thread post ev topic (n + 1) rfl
      · intro other post' ev' topic' n' there
        exact owned_alone s owned thread other (by rw [posting]; rfl) (by rw [there]; rfl)
      · refine ⟨earlier, list, ?_⟩
        have further : (s.subs topic).take (n + 1) = (s.subs topic).take n ++ [handler] := by
          rw [List.take_add_one, more]
          rfl
        change s.received ++ _ = script (earlier ++ [⟨post, ev, topic, (s.subs topic).take (n + 1)⟩])
        rw [told, further]
        simp [script, receipts]
  | finish thread post ev topic n posting last =>
      obtain ⟨earlier, list, told⟩ := sent.busy thread post ev topic n posting
      constructor
      · intro _
        rw [List.getElem?_eq_none_iff] at last
        rw [List.take_of_length_le last, ← list] at told
        exact told
      · intro other post' ev' topic' n' there
        by_cases here : other = thread
        · simp [setPc, here] at there
        · simp only [setPc, Function.update_of_ne here] at there
          exact (here (owned_alone s owned thread other (by rw [posting]; rfl) (by rw [there]; rfl))).elim

theorem table_step (s next : Subscribers T H E) (act : Act T H E) (table : Tabled s.subscribers (outstanding s.changes))
    (step : Step s act next) : Tabled next.subscribers (outstanding next.changes) := by
  cases step with
  | change thread change inside =>
      have after := change_tabled s.subscribers (outstanding s.changes) change table
      simpa [outstanding] using after
  | _ => exact table

theorem numbered_step (s next : Subscribers T H E) (act : Act T H E)
    (numbered : s.posts.map Publication.id = List.range s.posts.length) (step : Step s act next) :
    next.posts.map Publication.id = List.range next.posts.length := by
  cases step with
  | lockPost thread ev topic waits free => simp [numbered, List.range_succ]
  | _ => exact numbered

theorem delivering_step (s next : Subscribers T H E) (act : Act T H E) (delivering : Delivering s) (step : Step s act next) :
    Delivering next where
  owned := owned_step s next act delivering.owned step
  table := table_step s next act delivering.table step
  numbered := numbered_step s next act delivering.numbered step
  sent := sent_step s next act delivering.owned delivering.table delivering.sent step

omit [DecidableEq T] in
theorem initial_delivering : Delivering (initial : Subscribers T H E) where
  owned := fun _ => by simp [initial, critical]
  table := fun _ => rfl
  numbered := rfl
  sent := ⟨fun _ => rfl, nofun⟩

theorem run_delivering (s : Subscribers T H E) (acts : List (Act T H E)) (run : Run Step initial acts s) : Delivering s :=
  run_invariant Step Delivering (fun s act next => delivering_step s next act) initial s acts initial_delivering run

omit [DecidableEq T] in
theorem received_script (s : Subscribers T H E) (delivering : Delivering s) :
    ∃ told, told.map Publication.id = s.posts.map Publication.id ∧ s.received = script told ∧
      ∀ p ∈ s.posts, p ∈ told ∨ ∃ thread next, s.pc thread = .posting p.id p.ev p.topic next ∧
        { p with audience := p.audience.take next } ∈ told := by
  by_cases idle : ∀ thread post ev topic next, s.pc thread ≠ .posting post ev topic next
  · exact ⟨s.posts, rfl, delivering.sent.idle idle, fun p mem => .inl mem⟩
  · simp only [not_forall, not_not] at idle
    obtain ⟨thread, post, ev, topic, next, posting⟩ := idle
    obtain ⟨earlier, list, told⟩ := delivering.sent.busy thread post ev topic next posting
    refine ⟨_, ?_, told, ?_⟩
    · rw [list, List.map_append, List.map_append]
      rfl
    · intro p mem
      rw [list, List.mem_append] at mem
      cases mem with
      | inl before => exact .inl (List.mem_append_left _ before)
      | inr current =>
          obtain rfl := List.mem_singleton.mp current
          exact .inr ⟨thread, next, posting, List.mem_append_right _ (List.mem_singleton.mpr rfl)⟩

omit [DecidableEq T] in
theorem receipts_of_post (s : Subscribers T H E) (delivering : Delivering s) (p : Publication H E) (mem : p ∈ s.posts) :
    receiptsOf s.received p.id = receipts p ∨ ∃ thread next, s.pc thread = .posting p.id p.ev p.topic next ∧
      receiptsOf s.received p.id = receipts { p with audience := p.audience.take next } := by
  obtain ⟨told, ids, received, all⟩ := received_script s delivering
  have nodup : (told.map Publication.id).Nodup := by
    rw [ids, delivering.numbered]
    exact List.nodup_range
  rw [received]
  cases all p mem with
  | inl whole => exact .inl (receipts_of_script told nodup p whole)
  | inr part =>
      obtain ⟨thread, next, posting, there⟩ := part
      exact .inr ⟨thread, next, posting, receipts_of_script told nodup _ there⟩

omit [DecidableEq T] in
theorem received_ordered (s : Subscribers T H E) (delivering : Delivering s) :
    (s.received.map Receipt.post).Pairwise (fun p q => p ≤ q) := by
  obtain ⟨told, ids, received, _⟩ := received_script s delivering
  rw [received]
  apply script_ordered
  rw [ids, delivering.numbered]
  exact List.pairwise_lt_range

theorem loop_ends (s : Subscribers T H E) (thread : T) (post : Nat) (ev : E) (topic : UInt8) (next : Nat)
    (posting : s.pc thread = .posting post ev topic next) :
    ∃ n t, Run Step s (List.replicate n (.step thread)) t ∧ t.pc thread = .leaving ∧ t.posts = s.posts := by
  induction remaining : (s.subs topic).length - next generalizing s next with
  | zero =>
      have last : (s.subs topic)[next]? = none := List.getElem?_eq_none_iff.mpr (by omega)
      exact ⟨1, _, run_single Step s _ _ (.finish s thread post ev topic next posting last), by simp [setPc], rfl⟩
  | succ left ih =>
      cases more : (s.subs topic)[next]? with
      | none =>
          have past := List.getElem?_eq_none_iff.mp more
          omega
      | some handler =>
          let told : Subscribers T H E := { s.setPc thread (.posting post ev topic (next + 1)) with
            received := s.received ++ [⟨handler, post, ev⟩] }
          have delivers : Step s (.step thread) told := .deliver s thread post ev topic next handler posting more
          have fewer : (told.subs topic).length - (next + 1) = left := by
            change (s.subs topic).length - (next + 1) = left
            omega
          obtain ⟨n, t, run, leaves, posts⟩ := ih told (next + 1) (by simp [told, setPc]) fewer
          exact ⟨n + 1, t, .next s told t _ _ delivers run, leaves, posts⟩

structure Forward (s t : Subscribers T H E) : Prop where
  changes : s.changes <+: t.changes
  posts : s.posts <+: t.posts
  received : ∃ new, t.received = s.received ++ new ∧ ∀ receipt ∈ new, ∃ front p, s.changes <+: front ∧ front <+: t.changes ∧
    p ∈ t.posts ∧ p.id = receipt.post ∧ receipt.handler ∈ audience front p.topic

omit [DecidableEq T] in
theorem forward_refl (s : Subscribers T H E) : Forward s s :=
  ⟨List.prefix_rfl, List.prefix_rfl, [], (List.append_nil _).symm, fun _ mem => by cases mem⟩

omit [DecidableEq T] in
theorem forward_trans (s t u : Subscribers T H E) (first : Forward s t) (second : Forward t u) : Forward s u := by
  refine ⟨first.changes.trans second.changes, first.posts.trans second.posts, ?_⟩
  obtain ⟨early, old, before⟩ := first.received
  obtain ⟨late, new, after⟩ := second.received
  refine ⟨early ++ late, by rw [new, old, List.append_assoc], ?_⟩
  intro receipt mem
  cases List.mem_append.mp mem with
  | inl there =>
      obtain ⟨front, p, left, right, posted, same, audience⟩ := before receipt there
      exact ⟨front, p, left, right.trans second.changes, second.posts.subset posted, same, audience⟩
  | inr there =>
      obtain ⟨front, p, left, right, posted, same, audience⟩ := after receipt there
      exact ⟨front, p, first.changes.trans left, right, posted, same, audience⟩

theorem forward_step (s next : Subscribers T H E) (act : Act T H E) (delivering : Delivering s) (step : Step s act next) :
    Forward s next := by
  have quiet : next.received = s.received → ∃ new, next.received = s.received ++ new ∧ ∀ receipt ∈ new, ∃ front p,
      s.changes <+: front ∧ front <+: next.changes ∧ p ∈ next.posts ∧ p.id = receipt.post ∧
        receipt.handler ∈ audience front p.topic :=
    fun same => ⟨[], by rw [same, List.append_nil], fun _ mem => by cases mem⟩
  cases step with
  | lockPost thread ev topic waits free => exact ⟨List.prefix_rfl, List.prefix_append _ _, quiet rfl⟩
  | change thread change inside => exact ⟨List.prefix_append _ _, List.prefix_rfl, quiet rfl⟩
  | deliver thread post ev topic n handler posting more =>
      refine ⟨List.prefix_rfl, List.prefix_rfl, [⟨handler, post, ev⟩], rfl, ?_⟩
      obtain ⟨earlier, list, _⟩ := delivering.sent.busy thread post ev topic n posting
      intro receipt mem
      obtain rfl := List.mem_singleton.mp mem
      refine ⟨s.changes, ⟨post, ev, topic, s.subs topic⟩, List.prefix_rfl, List.prefix_rfl, ?_, rfl, ?_⟩
      · change _ ∈ s.posts
        rw [list]
        exact List.mem_append_right _ (List.mem_singleton.mpr rfl)
      · rw [← subs_audience s delivering.table]
        exact List.mem_of_getElem? more
  | _ => exact ⟨List.prefix_rfl, List.prefix_rfl, quiet rfl⟩

theorem run_forward (s t : Subscribers T H E) (acts : List (Act T H E)) (delivering : Delivering s) (run : Run Step s acts t) :
    Forward s t := by
  have both := run_relation Step (fun s t => Delivering s → Delivering t ∧ Forward s t)
    (fun s held => ⟨held, forward_refl s⟩)
    (fun s t u first second held => ⟨(second (first held).1).1, forward_trans s t u (first held).2 (second (first held).1).2⟩)
    (fun s act t step held => ⟨delivering_step s t act held step, forward_step s t act held step⟩) s t acts run
  exact (both delivering).2

-- The call that thread is in is the next one to change the subscriptions, or has
-- done so.
def Ahead (changes : List (Change H)) (thread : T) (change : Change H) (s : Subscribers T H E) : Prop :=
  s.pc thread = .inside change ∧ s.changes = changes ∨ changes ++ [change] <+: s.changes

theorem ahead_step (changes : List (Change H)) (thread : T) (change : Change H) (s next : Subscribers T H E) (act : Act T H E)
    (delivering : Delivering s) (ahead : Ahead changes thread change s) (step : Step s act next) :
    Ahead changes thread change next := by
  cases ahead with
  | inr already => exact .inr (already.trans (forward_step s next act delivering step).changes)
  | inl here =>
      obtain ⟨inside, same⟩ := here
      have stays : ∀ other pc, s.pc other ≠ .inside change → Function.update s.pc other pc thread = .inside change := by
        intro other pc outside
        rw [Function.update_of_ne (fun this : thread = other => outside (this ▸ inside)), inside]
      cases step with
      | call other call free => exact .inl ⟨stays other _ (by simp [free]), same⟩
      | lockChange other change' waits free => exact .inl ⟨stays other _ (by simp [waits]), same⟩
      | lockPost other ev topic waits free => exact .inl ⟨stays other _ (by simp [waits]), same⟩
      | deliver other post ev topic n handler posting more => exact .inl ⟨stays other _ (by simp [posting]), same⟩
      | finish other post ev topic n posting last => exact .inl ⟨stays other _ (by simp [posting]), same⟩
      | unlock other leaves => exact .inl ⟨stays other _ (by simp [leaves]), same⟩
      | change other change' its =>
          obtain rfl := owned_alone s delivering.owned thread other (by rw [inside]; rfl) (by rw [its]; rfl)
          rw [inside] at its
          obtain rfl := CallPc.inside.inj its
          obtain rfl := same
          exact .inr List.prefix_rfl

theorem change_first (s t : Subscribers T H E) (acts : List (Act T H E)) (thread : T) (change : Change H)
    (delivering : Delivering s) (inside : s.pc thread = .inside change) (run : Run Step s acts t)
    (ended : t.pc thread ≠ .inside change) : s.changes ++ [change] <+: t.changes := by
  have kept := run_invariant Step (fun s' => Delivering s' ∧ Ahead s.changes thread change s')
    (fun s' act next held step =>
      ⟨delivering_step s' next act held.1 step, ahead_step s.changes thread change s' next act held.1 held.2 step⟩)
    s t acts ⟨delivering, .inl ⟨inside, rfl⟩⟩ run
  exact kept.2.resolve_left (fun here => ended here.1)

theorem lock_posts (s next : Subscribers T H E) (thread : T) (ev : E) (topic : UInt8)
    (waits : s.pc thread = .waiting (.post ev topic)) (step : Step s (.step thread) next) :
    next.posts = s.posts ++ [⟨s.posts.length, ev, topic, audience s.changes topic⟩] := by
  have moves := step_advance s next _ step
  simp only [advance, waits] at moves
  cases free : s.mutex with
  | some owner => simp [free] at moves
  | none =>
      simp only [free, Option.isSome_none, Bool.false_eq_true, if_false, Option.some.injEq] at moves
      rw [← moves]

theorem change_made (s next : Subscribers T H E) (thread : T) (change : Change H) (inside : s.pc thread = .inside change)
    (step : Step s (.step thread) next) : next.subscribers = applyChange s.subscribers change := by
  have moves := step_advance s next _ step
  simp only [advance, inside, Option.some.injEq] at moves
  rw [← moves]

theorem post_delivers (s locked last : Subscribers T H E) (thread : T) (ev : E) (topic : UInt8) (acts : List (Act T H E))
    (delivering : Delivering s) (waits : s.pc thread = .waiting (.post ev topic)) (lock : Step s (.step thread) locked)
    (run : Run Step locked acts last) :
    let all : List (Receipt H E) := (audience s.changes topic).map (fun handler => ⟨handler, s.posts.length, ev⟩)
    receiptsOf last.received s.posts.length = all ∨ ∃ worker next, last.pc worker = .posting s.posts.length ev topic next ∧
      receiptsOf last.received s.posts.length = all.take next ∧ ∃ n t, Run Step last (List.replicate n (.step worker)) t ∧
        t.pc worker = .leaving ∧ receiptsOf t.received s.posts.length = all := by
  intro all
  have posts := lock_posts s locked thread ev topic waits lock
  have taken : ⟨s.posts.length, ev, topic, audience s.changes topic⟩ ∈ locked.posts := by
    rw [posts]
    exact List.mem_append_right _ (List.mem_singleton.mpr rfl)
  have after := delivering_step s locked _ delivering lock
  have held := run_invariant Step Delivering (fun s act next => delivering_step s next act) locked last acts after run
  have kept := (run_forward locked last acts after run).posts.subset taken
  cases receipts_of_post last held _ kept with
  | inl complete => exact .inl complete
  | inr partly =>
      obtain ⟨worker, next, posting, received⟩ := partly
      obtain ⟨n, t, ends, leaves, posts⟩ := loop_ends last worker s.posts.length ev topic next posting
      refine .inr ⟨worker, next, posting, ?_, n, t, ends, leaves, ?_⟩
      · rw [received]
        exact List.map_take
      · have still := run_invariant Step Delivering (fun s act next => delivering_step s next act) last t _ held ends
        cases receipts_of_post t still _ (posts.symm ▸ kept) with
        | inl complete => exact complete
        | inr unfinished =>
            obtain ⟨other, m, again, _⟩ := unfinished
            have same := owned_alone t still.owned worker other (by rw [leaves]; rfl) (by rw [again]; rfl)
            rw [same, leaves] at again
            cases again

theorem unsubscribed_silent (s returned last : Subscribers T H E) (thread : T) (change : Change H) (handler : H) (topic : UInt8)
    (first later : List (Act T H E)) (delivering : Delivering s) (inside : s.pc thread = .inside change)
    (gone : undoes change handler topic) (call : Run Step s first returned) (returns : returned.pc thread = .outside)
    (run : Run Step returned later last) (never : .subscribe handler topic ∉ last.changes.drop s.changes.length) :
    ∀ receipt ∈ last.received.drop returned.received.length, receipt.handler = handler →
      ∀ p ∈ last.posts, p.id = receipt.post → p.topic ≠ topic := by
  have held := run_invariant Step Delivering (fun s act next => delivering_step s next act) s returned first delivering call
  have ended := run_invariant Step Delivering (fun s act next => delivering_step s next act) returned last later held run
  have made := change_first s returned first thread change delivering inside call (by rw [returns]; exact nofun)
  obtain ⟨new, received, told⟩ := (run_forward returned last later held run).received
  intro receipt mem its p posted same here
  rw [received, List.drop_left] at mem
  obtain ⟨front, q, begins, ends, listed, number, subscribed⟩ := told receipt mem
  have one : q = p := by
    have nodup : (last.posts.map Publication.id).Nodup := by
      rw [ended.numbered]
      exact List.nodup_range
    exact List.inj_on_of_nodup_map nodup listed posted (number.trans same.symm)
  rw [one, here, its] at subscribed
  obtain ⟨since, rfl⟩ := made.trans begins
  obtain ⟨rest, all⟩ := ends
  rw [← all, List.append_assoc, List.append_assoc, List.drop_left] at never
  rw [List.append_assoc] at subscribed
  exact undone_until s.changes since change handler topic gone
    (fun again => never (List.mem_append_right _ (List.mem_append_left _ again))) subscribed

omit [DecidableEq T] in
theorem same_order (s : Subscribers T H E) (delivering : Delivering s) (one other : H) (p q : Nat) (different : p ≠ q)
    (pair : [p, q].Sublist (heardBy s.received one)) (first : p ∈ heardBy s.received other) (second : q ∈ heardBy s.received other) :
    [p, q].Sublist (heardBy s.received other) ∧ ¬ [q, p].Sublist (heardBy s.received other) := by
  have ordered := heard_ordered s.received (received_ordered s delivering)
  have less := Nat.lt_of_le_of_ne (order_of_pair _ (ordered one) p q pair) different
  refine ⟨pair_in_order _ (ordered other) p q less first second, ?_⟩
  intro reversed
  exact absurd (order_of_pair _ (ordered other) q p reversed) (Nat.not_le.mpr less)

-- What each post delivers and to whom, what an unsubscribe takes away and for how
-- long, and the order in which handlers receive.
theorem delivery_exact_and_ordered (s : Subscribers T H E) (past : List (Act T H E)) (reached : Run Step initial past s) :
    (∀ thread ev topic locked acts last, s.pc thread = .waiting (.post ev topic) → Step s (.step thread) locked →
      Run Step locked acts last →
      let all : List (Receipt H E) := (audience s.changes topic).map (fun handler => ⟨handler, s.posts.length, ev⟩)
      receiptsOf last.received s.posts.length = all ∨ ∃ worker next, last.pc worker = .posting s.posts.length ev topic next ∧
        receiptsOf last.received s.posts.length = all.take next ∧ ∃ n t, Run Step last (List.replicate n (.step worker)) t ∧
          t.pc worker = .leaving ∧ receiptsOf t.received s.posts.length = all) ∧
    (∀ thread change handler topic, s.pc thread = .inside change → undoes change handler topic →
      (∀ next, Step s (.step thread) next → ∀ other, next.subs other = (s.subs other).filter (fun it => !undoes change it other)) ∧
      ∀ first returned later last, Run Step s first returned → returned.pc thread = .outside → Run Step returned later last →
        .subscribe handler topic ∉ last.changes.drop s.changes.length →
        ∀ receipt ∈ last.received.drop returned.received.length, receipt.handler = handler →
          ∀ p ∈ last.posts, p.id = receipt.post → p.topic ≠ topic) ∧
    ∀ one other p q, p ≠ q → [p, q].Sublist (heardBy s.received one) → p ∈ heardBy s.received other →
      q ∈ heardBy s.received other → [p, q].Sublist (heardBy s.received other) ∧ ¬ [q, p].Sublist (heardBy s.received other) := by
  have delivering := run_delivering s past reached
  refine ⟨?_, ?_, same_order s delivering⟩
  · intro thread ev topic locked acts last waits lock run
    exact post_delivers s locked last thread ev topic acts delivering waits lock run
  · intro thread change handler topic inside gone
    constructor
    · intro next step other
      rw [subs, change_made s next thread change inside step]
      exact undone_subscribers s.subscribers change ⟨handler, topic, gone⟩ other
    · intro first returned later last call returns run never
      exact unsubscribed_silent s returned last thread change handler topic first later delivering inside gone call returns run never

theorem delivery_exact_and_ordered_run : ∃ s last : Subscribers Bool Nat Nat, s.pc true = .waiting (.post 70 5) ∧
    receiptsOf last.received 0 = [⟨1, 0, 70⟩, ⟨2, 0, 70⟩, ⟨1, 0, 70⟩] ∧ [0, 1].Sublist (heardBy last.received 2) ∧
    ¬ [1, 0].Sublist (heardBy last.received 2) := by
  let change : Change Nat → List (Act Bool Nat Nat) := fun c => [.call true (.change c), .step true, .step true, .step true]
  let past := change (.subscribe 1 5) ++ change (.subscribe 2 5) ++ change (.subscribe 1 5) ++
    [.call true (.post 70 5), .call false (.post 80 5)]
  let acts : List (Act Bool Nat Nat) := List.replicate 5 (.step true) ++ List.replicate 6 (.step false)
  let s : Subscribers Bool Nat Nat := (follow advance (fun _ _ => true) initial past).get (by decide +kernel)
  let last : Subscribers Bool Nat Nat := (follow advance (fun _ _ => true) s (.step true :: acts)).get (by decide +kernel)
  have reached : Run Step initial past s := follow_reached Step advance advance_step _ _ _ (Option.some_get _).symm
  have run : Run Step s (.step true :: acts) last := follow_reached Step advance advance_step _ _ _ (Option.some_get _).symm
  have waits : s.pc true = .waiting (.post 70 5) := by decide +kernel
  have ended : last.pc true = .outside ∧ last.pc false = .outside := by decide +kernel
  have heard : heardBy last.received 1 = [0, 0, 1, 1] ∧ heardBy last.received 2 = [0, 1] := by decide +kernel
  refine ⟨s, last, waits, ?_, ?_⟩
  · cases run with
    | next _ locked _ _ _ lock rest =>
        cases (delivery_exact_and_ordered s past reached).1 true 70 5 locked acts last waits lock rest with
        | inl complete => exact complete
        | inr partly =>
            obtain ⟨worker, next, posting, _⟩ := partly
            cases worker with
            | true => rw [ended.1] at posting; cases posting
            | false => rw [ended.2] at posting; cases posting
  · have whole := run_append Step _ _ _ _ _ reached run
    exact (delivery_exact_and_ordered last _ whole).2.2 1 2 0 1 (by decide) (heard.1 ▸ by decide) (heard.2 ▸ by decide)
      (heard.2 ▸ by decide)

end Subscribers

end CameraController
