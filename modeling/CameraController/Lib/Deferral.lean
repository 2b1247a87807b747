import Mathlib.Data.List.Nodup
import Mathlib.Logic.Relation

set_option autoImplicit false

namespace Deferral

variable {E : Type}

def Before (l : List E) (a b : E) : Prop := List.Sublist [a, b] l

section Order

theorem before_mem (l : List E) (a b : E) (before : Before l a b) : a ∈ l ∧ b ∈ l :=
  ⟨before.subset List.mem_cons_self, before.subset (by simp)⟩

theorem before_ne (l : List E) (a b : E) (distinct : l.Nodup) (before : Before l a b) : a ≠ b := by
  intro same
  have pair := distinct.sublist before
  rw [same] at pair
  exact (List.nodup_cons.mp pair).1 List.mem_cons_self

theorem before_filter (l : List E) (keep : E → Bool) (a b : E) (left : keep a = true) (right : keep b = true)
    (before : Before l a b) : Before (l.filter keep) a b := by
  have kept := before.filter keep
  rwa [List.filter_cons_of_pos left, List.filter_cons_of_pos right, List.filter_nil] at kept

theorem before_append (l more : List E) (a b : E) (before : Before l a b) : Before (l ++ more) a b :=
  before.trans (List.sublist_append_left l more)

theorem before_last (l : List E) (a b : E) (member : a ∈ l) : Before (l ++ [b]) a b :=
  List.Sublist.append (List.singleton_sublist.mpr member) (List.Sublist.refl [b])

theorem before_cons (head : E) (l : List E) (a b : E) (before : Before (head :: l) a b) :
    Before l a b ∨ (a = head ∧ b ∈ l) := by
  cases before with
  | cons _ rest => exact .inl rest
  | cons_cons _ rest => exact .inr ⟨rfl, List.singleton_sublist.mp rest⟩

theorem mem_past (head x : E) (l kept : List E) (absent : head ∉ l) (either : x ∈ head :: kept) (later : x ∈ l) : x ∈ kept :=
  (List.mem_cons.mp either).resolve_left (fun same => absent (same ▸ later))

theorem before_front (l more : List E) (a b : E) (distinct : (l ++ more).Nodup) (member : b ∈ l)
    (before : Before (l ++ more) a b) : Before l a b := by
  induction l with
  | nil => cases member
  | cons head l ih =>
      obtain ⟨absent, rest⟩ := List.nodup_cons.mp distinct
      cases before_cons head (l ++ more) a b before with
      | inl later =>
          have inside := mem_past head b (l ++ more) l absent member (before_mem _ a b later).2
          exact List.Sublist.cons head (ih rest inside later)
      | inr first =>
          obtain ⟨rfl, later⟩ := first
          exact List.Sublist.cons_cons a (List.singleton_sublist.mpr (mem_past a b (l ++ more) l absent member later))

theorem before_sublist (l kept : List E) (a b : E) (part : List.Sublist kept l) (distinct : l.Nodup) (left : a ∈ kept)
    (right : b ∈ kept) (before : Before l a b) : Before kept a b := by
  induction part with
  | slnil => cases left
  | cons head part ih =>
      obtain ⟨absent, rest⟩ := List.nodup_cons.mp distinct
      cases before_cons head _ a b before with
      | inl later => exact ih rest left right later
      | inr first => exact absurd (first.1 ▸ part.subset left) absent
  | cons_cons head part ih =>
      obtain ⟨absent, rest⟩ := List.nodup_cons.mp distinct
      cases before_cons head _ a b before with
      | inl later =>
          obtain ⟨aIn, bIn⟩ := before_mem _ a b later
          exact List.Sublist.cons head (ih rest (mem_past head a _ _ absent left aIn) (mem_past head b _ _ absent right bIn) later)
      | inr first =>
          obtain ⟨rfl, later⟩ := first
          exact List.Sublist.cons_cons a (List.singleton_sublist.mpr (mem_past a b _ _ absent right later))

theorem recalled_behind (begun rest : List E) (a b : E) (distinct : begun.Nodup) (left : (a :: rest) <:+ begun)
    (before : Before begun a b) : b ∈ rest := by
  obtain ⟨called, rfl⟩ := left
  induction called with
  | nil =>
      cases before_cons a rest a b before with
      | inl later => exact absurd (before_mem rest a b later).1 (List.nodup_cons.mp distinct).1
      | inr first => exact first.2
  | cons head called ih =>
      obtain ⟨absent, distinct⟩ := List.nodup_cons.mp distinct
      cases before_cons head _ a b before with
      | inl later => exact ih distinct later
      | inr first => exact absurd (first.1 ▸ List.mem_append_right called List.mem_cons_self) absent

end Order

-- An item that is called back, with what had arrived by then and what was
-- deferred when its flush began.
structure Recall (E : Type) where
  item : E
  posted : List E
  deferred : List E

-- A queue of items whose server may set an item aside, in a bounded buffer
-- that overwrites its oldest item, and call all of them back later.
structure Line (E : Type) where
  queue : List E
  deferred : List E
  executed : List E
  dropped : List E
  overwritten : List E
  posted : List E
  recalls : List (Recall E)

namespace Line

def empty : Line E := ⟨[], [], [], [], [], [], []⟩

def arrive (l : Line E) (e : E) : Line E :=
  { l with queue := l.queue ++ [e], posted := l.posted ++ [e] }

def recallOldest (begun : List E) (l : Line E) (e : E) (rest : List E) : Line E :=
  { l with queue := l.queue ++ [e], deferred := rest, recalls := l.recalls ++ [⟨e, l.posted, begun⟩] }

def execute (l : Line E) (e : E) (rest : List E) : Line E :=
  { l with queue := rest, executed := l.executed ++ [e] }

def drop (l : Line E) (e : E) (rest : List E) : Line E :=
  { l with queue := rest, dropped := l.dropped ++ [e] }

def defer (capacity : Nat) (l : Line E) (e : E) (rest : List E) : Line E :=
  { l with
    queue := rest
    deferred := (if l.deferred.length = capacity then l.deferred.tail else l.deferred) ++ [e]
    overwritten := l.overwritten ++ if l.deferred.length = capacity then l.deferred.take 1 else [] }

-- Everything that is deferred goes to the back of the queue, oldest first,
-- while items keep arriving.
inductive Flush (begun : List E) : Line E → Line E → Prop where
  | done (l : Line E) (settled : l.deferred = []) : Flush begun l l
  | arrive (l m : Line E) (e : E) (fresh : e ∉ l.posted) (next : Flush begun (l.arrive e) m) : Flush begun l m
  | recallOldest (l m : Line E) (e : E) (rest : List E) (oldest : l.deferred = e :: rest)
      (next : Flush begun (recallOldest begun l e rest) m) : Flush begun l m

inductive Move (capacity : Nat) : Line E → Line E → Prop where
  | arrive (l : Line E) (e : E) (fresh : e ∉ l.posted) : Move capacity l (l.arrive e)
  | execute (l : Line E) (e : E) (rest : List E) (head : l.queue = e :: rest) : Move capacity l (l.execute e rest)
  | drop (l : Line E) (e : E) (rest : List E) (head : l.queue = e :: rest) : Move capacity l (l.drop e rest)
  | defer (l : Line E) (e : E) (rest : List E) (head : l.queue = e :: rest) : Move capacity l (l.defer capacity e rest)
  | flush (l m : Line E) (flushed : Flush l.deferred l m) : Move capacity l m

section Accounting

variable [DecidableEq E]

def occurrences (l : Line E) (e : E) : Nat :=
  l.queue.count e + l.deferred.count e + l.executed.count e + l.dropped.count e + l.overwritten.count e

structure Accounted (l : Line E) : Prop where
  places : ∀ e, l.occurrences e = l.posted.count e
  distinct : l.posted.Nodup

theorem empty_accounted : Accounted (empty : Line E) := ⟨fun _ => rfl, List.nodup_nil⟩

theorem arrive_accounted (l : Line E) (e : E) (fresh : e ∉ l.posted) (accounted : Accounted l) : Accounted (l.arrive e) := by
  constructor
  · intro x
    have before := accounted.places x
    simp only [occurrences, arrive, List.count_append] at *
    omega
  · exact List.nodup_append.mpr ⟨accounted.distinct, List.nodup_singleton e, by
      intro x member y last same
      rw [List.mem_singleton.mp last] at same
      exact fresh (same ▸ member)⟩

theorem recall_accounted (begun : List E) (l : Line E) (e : E) (rest : List E) (oldest : l.deferred = e :: rest)
    (accounted : Accounted l) : Accounted (recallOldest begun l e rest) := by
  refine ⟨?_, accounted.distinct⟩
  intro x
  have before := accounted.places x
  simp only [occurrences, recallOldest, oldest, List.count_append, List.count_cons, List.count_nil] at *
  omega

theorem execute_accounted (l : Line E) (e : E) (rest : List E) (head : l.queue = e :: rest) (accounted : Accounted l) :
    Accounted (l.execute e rest) := by
  refine ⟨?_, accounted.distinct⟩
  intro x
  have before := accounted.places x
  simp only [occurrences, execute, head, List.count_append, List.count_cons, List.count_nil] at *
  omega

theorem drop_accounted (l : Line E) (e : E) (rest : List E) (head : l.queue = e :: rest) (accounted : Accounted l) :
    Accounted (l.drop e rest) := by
  refine ⟨?_, accounted.distinct⟩
  intro x
  have before := accounted.places x
  simp only [occurrences, drop, head, List.count_append, List.count_cons, List.count_nil] at *
  omega

theorem defer_accounted (capacity : Nat) (l : Line E) (e : E) (rest : List E) (head : l.queue = e :: rest)
    (accounted : Accounted l) : Accounted (l.defer capacity e rest) := by
  refine ⟨?_, accounted.distinct⟩
  intro x
  have before := accounted.places x
  have oldest : (l.deferred.take 1).count x + l.deferred.tail.count x = l.deferred.count x := by
    rw [← List.drop_one, ← List.count_append, List.take_append_drop]
  by_cases full : l.deferred.length = capacity
  · simp only [occurrences, defer, head, full, if_true, List.count_append, List.count_cons, List.count_nil] at *
    omega
  · simp only [occurrences, defer, head, full, if_false, List.count_append, List.count_cons, List.count_nil] at *
    omega

theorem flush_accounted (begun : List E) (l m : Line E) (flushed : Flush begun l m) (accounted : Accounted l) : Accounted m := by
  induction flushed with
  | done l settled => exact accounted
  | arrive l m e fresh _ ih => exact ih (arrive_accounted l e fresh accounted)
  | recallOldest l m e rest oldest _ ih => exact ih (recall_accounted begun l e rest oldest accounted)

theorem move_accounted (capacity : Nat) (l m : Line E) (move : Move capacity l m) (accounted : Accounted l) : Accounted m := by
  cases move with
  | arrive e fresh => exact arrive_accounted l e fresh accounted
  | execute e rest head => exact execute_accounted l e rest head accounted
  | drop e rest head => exact drop_accounted l e rest head accounted
  | defer e rest head => exact defer_accounted capacity l e rest head accounted
  | flush _ flushed => exact flush_accounted l.deferred l m flushed accounted

theorem occurs_once (l : Line E) (accounted : Accounted l) (e : E) : l.occurrences e ≤ 1 := by
  rw [accounted.places]
  exact List.nodup_iff_count_le_one.mp accounted.distinct e

theorem place_posted (l : Line E) (accounted : Accounted l) (place : List E)
    (part : ∀ e, place.count e ≤ l.occurrences e) (e : E) (here : e ∈ place) : e ∈ l.posted := by
  have counted := List.count_pos_iff.mpr here
  have within := part e
  rw [accounted.places] at within
  exact List.count_pos_iff.mp (Nat.lt_of_lt_of_le counted within)

theorem place_nodup (l : Line E) (accounted : Accounted l) (place : List E)
    (part : ∀ e, place.count e ≤ l.occurrences e) : place.Nodup :=
  List.nodup_iff_count_le_one.mpr (fun e => Nat.le_trans (part e) (l.occurs_once accounted e))

theorem places_apart (l : Line E) (accounted : Accounted l) (place other : List E)
    (parts : ∀ e, place.count e + other.count e ≤ l.occurrences e) (e : E) (here : e ∈ place) : e ∉ other := by
  intro there
  have first := List.count_pos_iff.mpr here
  have second := List.count_pos_iff.mpr there
  have once := Nat.le_trans (parts e) (l.occurs_once accounted e)
  omega

theorem queued_posted (l : Line E) (accounted : Accounted l) (e : E) (queued : e ∈ l.queue) : e ∈ l.posted :=
  l.place_posted accounted l.queue (fun x => by unfold occurrences; omega) e queued

theorem executed_posted (l : Line E) (accounted : Accounted l) (e : E) (executed : e ∈ l.executed) : e ∈ l.posted :=
  l.place_posted accounted l.executed (fun x => by unfold occurrences; omega) e executed

theorem queue_nodup (l : Line E) (accounted : Accounted l) : l.queue.Nodup :=
  l.place_nodup accounted l.queue (fun x => by unfold occurrences; omega)

theorem deferred_nodup (l : Line E) (accounted : Accounted l) : l.deferred.Nodup :=
  l.place_nodup accounted l.deferred (fun x => by unfold occurrences; omega)

theorem executed_nodup (l : Line E) (accounted : Accounted l) : l.executed.Nodup :=
  l.place_nodup accounted l.executed (fun x => by unfold occurrences; omega)

theorem queued_not_deferred (l : Line E) (accounted : Accounted l) (e : E) (queued : e ∈ l.queue) : e ∉ l.deferred :=
  l.places_apart accounted l.queue l.deferred (fun x => by unfold occurrences; omega) e queued

theorem queued_not_executed (l : Line E) (accounted : Accounted l) (e : E) (queued : e ∈ l.queue) : e ∉ l.executed :=
  l.places_apart accounted l.queue l.executed (fun x => by unfold occurrences; omega) e queued

theorem deferred_not_executed (l : Line E) (accounted : Accounted l) (e : E) (aside : e ∈ l.deferred) : e ∉ l.executed :=
  l.places_apart accounted l.deferred l.executed (fun x => by unfold occurrences; omega) e aside

end Accounting

section Orders

variable (a b : E)

-- b has not arrived before a, and whenever a is called back, b has not
-- arrived yet or was deferred too when the flush began.
structure Admits (l : Line E) : Prop where
  order : b ∈ l.posted → Before l.posted a b
  calls : ∀ r ∈ l.recalls, r.item = a → b ∈ r.posted → b ∈ r.deferred

-- a stays ahead of b in the queue, among the deferred and among the executed
-- items; and b is not done with while a is in the queue.
structure Sorted (l : Line E) : Prop where
  waiting : a ∈ l.queue → b ∈ l.queue → Before l.queue a b
  aside : a ∈ l.deferred → b ∈ l.deferred → Before l.deferred a b
  behind : b ∈ l.posted → a ∈ l.queue → b ∈ l.queue ∨ b ∈ l.deferred
  served : a ∈ l.executed → b ∈ l.executed → Before l.executed a b

def Calm (l : Line E) : Prop := a ∈ l.queue → b ∉ l.deferred

structure Tail (l : Line E) (rest : List E) : Prop where
  waiting : a ∈ rest → b ∈ rest → Before rest a b
  behind : b ∈ l.posted → a ∈ rest → b ∈ rest ∨ b ∈ l.deferred

theorem empty_sorted : Sorted a b (empty : Line E) :=
  ⟨fun none => absurd none List.not_mem_nil, fun none => absurd none List.not_mem_nil,
    fun _ none => absurd none List.not_mem_nil, fun none => absurd none List.not_mem_nil⟩

theorem admits_recall (begun : List E) (l : Line E) (e : E) (rest : List E) (admits : Admits a b (recallOldest begun l e rest)) :
    Admits a b l :=
  ⟨admits.order, fun r member => admits.calls r (List.mem_append_left _ member)⟩

theorem kept_sublist (capacity : Nat) (l : Line E) :
    List.Sublist (if l.deferred.length = capacity then l.deferred.tail else l.deferred) l.deferred := by
  split
  · exact List.tail_sublist l.deferred
  · exact List.Sublist.refl l.deferred

theorem calm_take (l after : Line E) (e : E) (rest : List E) (head : l.queue = e :: rest) (queue : after.queue = rest)
    (deferred : after.deferred = l.deferred) (calm : Calm a b l) : Calm a b after := by
  intro left
  rw [queue] at left
  rw [deferred]
  exact calm (head ▸ List.mem_cons_of_mem e left)

end Orders

section Ordering

variable [DecidableEq E] (a b : E)

theorem admits_arrive (l : Line E) (e : E) (fresh : e ∉ l.posted) (accounted : Accounted l) (admits : Admits a b (l.arrive e)) :
    Admits a b l := by
  refine ⟨?_, admits.calls⟩
  intro member
  exact before_front l.posted [e] a b (l.arrive_accounted e fresh accounted).distinct member
    (admits.order (List.mem_append_left [e] member))

theorem admits_flush (begun : List E) (l m : Line E) (flushed : Flush begun l m) (accounted : Accounted l) (admits : Admits a b m) :
    Admits a b l := by
  induction flushed with
  | done l settled => exact admits
  | arrive l m e fresh _ ih =>
      exact admits_arrive a b l e fresh accounted (ih (arrive_accounted l e fresh accounted) admits)
  | recallOldest l m e rest oldest _ ih =>
      exact admits_recall a b begun l e rest (ih (recall_accounted begun l e rest oldest accounted) admits)

theorem admits_move (capacity : Nat) (l m : Line E) (move : Move capacity l m) (accounted : Accounted l)
    (admits : Admits a b m) : Admits a b l := by
  cases move with
  | arrive e fresh => exact admits_arrive a b l e fresh accounted admits
  | execute e rest head => exact ⟨admits.order, admits.calls⟩
  | drop e rest head => exact ⟨admits.order, admits.calls⟩
  | defer e rest head => exact ⟨admits.order, admits.calls⟩
  | flush _ flushed => exact admits_flush a b l.deferred l m flushed accounted admits

theorem arrives_first (l : Line E) (e : E) (fresh : e ∉ l.posted) (admits : Admits a b (l.arrive e)) (same : a = e)
    (present : b ∈ l.posted) (accounted : Accounted l) : False := by
  have order := (admits_arrive a b l e fresh accounted admits).order present
  exact fresh (same ▸ (before_mem l.posted a b order).1)

theorem sorted_arrive (different : a ≠ b) (l : Line E) (e : E) (fresh : e ∉ l.posted) (accounted : Accounted l)
    (admits : Admits a b (l.arrive e)) (sorted : Sorted a b l) : Sorted a b (l.arrive e) := by
  constructor
  · intro left right
    cases List.mem_append.mp left with
    | inl aIn =>
        cases List.mem_append.mp right with
        | inl bIn => exact before_append _ _ _ _ (sorted.waiting aIn bIn)
        | inr last =>
            rw [List.mem_singleton.mp last]
            exact before_last l.queue a e aIn
    | inr last =>
        have same := List.mem_singleton.mp last
        cases List.mem_append.mp right with
        | inl bIn => exact (arrives_first a b l e fresh admits same (l.queued_posted accounted b bIn) accounted).elim
        | inr alsoLast => exact absurd (same.trans (List.mem_singleton.mp alsoLast).symm) different
  · exact sorted.aside
  · intro present left
    cases List.mem_append.mp present with
    | inr last => exact .inl (List.mem_append_right _ last)
    | inl earlier =>
        cases List.mem_append.mp left with
        | inl aIn => exact (sorted.behind earlier aIn).imp_left (List.mem_append_left [e])
        | inr last => exact (arrives_first a b l e fresh admits (List.mem_singleton.mp last) earlier accounted).elim
  · exact sorted.served

theorem calm_arrive (l : Line E) (e : E) (fresh : e ∉ l.posted) (accounted : Accounted l)
    (admits : Admits a b (l.arrive e)) (calm : Calm a b l) : Calm a b (l.arrive e) := by
  intro left aside
  cases List.mem_append.mp left with
  | inl aIn => exact calm aIn aside
  | inr last =>
      have present := l.place_posted accounted l.deferred (fun x => by unfold occurrences; omega) b aside
      exact arrives_first a b l e fresh admits (List.mem_singleton.mp last) present accounted

theorem sorted_recall (different : a ≠ b) (begun : List E) (l : Line E) (e : E) (rest : List E) (oldest : l.deferred = e :: rest)
    (accounted : Accounted l) (admits : Admits a b (recallOldest begun l e rest)) (unique : begun.Nodup)
    (left : l.deferred <:+ begun) (order : a ∈ begun → b ∈ begun → Before begun a b) (sorted : Sorted a b l) :
    Sorted a b (recallOldest begun l e rest) := by
  have called : e = a → b ∈ l.posted → b ∈ rest := by
    intro same arrived
    have aside := admits.calls ⟨e, l.posted, begun⟩ (List.mem_append_right _ List.mem_cons_self) same arrived
    rw [oldest, same] at left
    exact recalled_behind begun rest a b unique left (order (left.subset List.mem_cons_self) aside)
  have distinct := l.deferred_nodup accounted
  rw [oldest] at distinct
  constructor
  · intro left right
    cases List.mem_append.mp left with
    | inl aIn =>
        cases List.mem_append.mp right with
        | inl bIn => exact before_append _ _ _ _ (sorted.waiting aIn bIn)
        | inr last =>
            rw [List.mem_singleton.mp last]
            exact before_last l.queue a e aIn
    | inr last =>
        have same := List.mem_singleton.mp last
        cases List.mem_append.mp right with
        | inl bIn =>
            have later := called same.symm (l.queued_posted accounted b bIn)
            have aside : b ∈ l.deferred := oldest ▸ List.mem_cons_of_mem e later
            exact absurd aside (l.queued_not_deferred accounted b bIn)
        | inr alsoLast => exact absurd (same.trans (List.mem_singleton.mp alsoLast).symm) different
  · intro left right
    have before := sorted.aside (oldest ▸ List.mem_cons_of_mem e left) (oldest ▸ List.mem_cons_of_mem e right)
    rw [oldest] at before
    exact before_sublist (e :: rest) rest a b (List.sublist_cons_self e rest) distinct left right before
  · intro present left
    cases List.mem_append.mp left with
    | inl aIn =>
        cases sorted.behind present aIn with
        | inl bIn => exact .inl (List.mem_append_left [e] bIn)
        | inr aside =>
            rw [oldest] at aside
            cases List.mem_cons.mp aside with
            | inl same => exact .inl (List.mem_append_right _ (List.mem_singleton.mpr same))
            | inr later => exact .inr later
    | inr last => exact .inr (called (List.mem_singleton.mp last).symm present)
  · exact sorted.served

theorem sorted_flush (different : a ≠ b) (begun : List E) (l m : Line E) (flushed : Flush begun l m) (accounted : Accounted l)
    (admits : Admits a b m) (unique : begun.Nodup) (left : l.deferred <:+ begun)
    (order : a ∈ begun → b ∈ begun → Before begun a b) (sorted : Sorted a b l) : Sorted a b m ∧ Calm a b m := by
  induction flushed with
  | done l settled =>
      refine ⟨sorted, ?_⟩
      intro _ aside
      rw [settled] at aside
      cases aside
  | arrive l m e fresh next ih =>
      have kept := arrive_accounted l e fresh accounted
      have earlier := admits_flush a b begun _ m next kept admits
      exact ih kept admits left (sorted_arrive a b different l e fresh accounted earlier sorted)
  | recallOldest l m e rest oldest next ih =>
      have kept := recall_accounted begun l e rest oldest accounted
      have earlier := admits_flush a b begun _ m next kept admits
      have fewer : rest <:+ begun := (oldest ▸ List.suffix_cons e rest).trans left
      exact ih kept admits fewer (sorted_recall a b different begun l e rest oldest accounted earlier unique left order sorted)

theorem sorted_tail (l : Line E) (e : E) (rest : List E) (head : l.queue = e :: rest) (accounted : Accounted l)
    (sorted : Sorted a b l) : Tail a b l rest := by
  have distinct := l.queue_nodup accounted
  rw [head] at distinct
  obtain ⟨absent, _⟩ := List.nodup_cons.mp distinct
  have order : a ∈ rest → b ∈ e :: rest → Before rest a b := by
    intro left right
    have before := sorted.waiting (head ▸ List.mem_cons_of_mem e left) (head ▸ right)
    rw [head] at before
    cases before_cons e rest a b before with
    | inl later => exact later
    | inr first => exact absurd (first.1 ▸ left) absent
  constructor
  · exact fun left right => order left (List.mem_cons_of_mem e right)
  · intro present left
    cases sorted.behind present (head ▸ List.mem_cons_of_mem e left) with
    | inl queued => exact .inl (before_mem rest a b (order left (head ▸ queued))).2
    | inr aside => exact .inr aside

theorem sorted_execute (different : a ≠ b) (l : Line E) (e : E) (rest : List E) (head : l.queue = e :: rest)
    (accounted : Accounted l) (sorted : Sorted a b l) : Sorted a b (l.execute e rest) := by
  have tail := sorted_tail a b l e rest head accounted sorted
  refine ⟨tail.waiting, sorted.aside, tail.behind, ?_⟩
  intro left right
  cases List.mem_append.mp left with
  | inl aIn =>
      cases List.mem_append.mp right with
      | inl bIn => exact before_append _ _ _ _ (sorted.served aIn bIn)
      | inr last =>
          rw [List.mem_singleton.mp last]
          exact before_last l.executed a e aIn
  | inr last =>
      have same := List.mem_singleton.mp last
      have queued : a ∈ l.queue := by rw [head, same]; exact List.mem_cons_self
      cases List.mem_append.mp right with
      | inl bIn =>
          cases sorted.behind (l.executed_posted accounted b bIn) queued with
          | inl bQueued => exact absurd bIn (l.queued_not_executed accounted b bQueued)
          | inr aside => exact absurd bIn (l.deferred_not_executed accounted b aside)
      | inr alsoLast => exact absurd (same.trans (List.mem_singleton.mp alsoLast).symm) different

theorem sorted_drop (l : Line E) (e : E) (rest : List E) (head : l.queue = e :: rest) (accounted : Accounted l)
    (sorted : Sorted a b l) : Sorted a b (l.drop e rest) := by
  have tail := sorted_tail a b l e rest head accounted sorted
  exact ⟨tail.waiting, sorted.aside, tail.behind, sorted.served⟩

theorem sorted_defer (different : a ≠ b) (capacity : Nat) (l : Line E) (e : E) (rest : List E) (head : l.queue = e :: rest)
    (accounted : Accounted l) (sorted : Sorted a b l) (calm : Calm a b l) : Sorted a b (l.defer capacity e rest) := by
  have tail := sorted_tail a b l e rest head accounted sorted
  have kept := l.kept_sublist capacity
  refine ⟨tail.waiting, ?_, ?_, sorted.served⟩
  · intro left right
    cases List.mem_append.mp left with
    | inl aIn =>
        cases List.mem_append.mp right with
        | inl bIn =>
            have before := sorted.aside (kept.subset aIn) (kept.subset bIn)
            exact before_append _ _ _ _ (before_sublist _ _ a b kept (l.deferred_nodup accounted) aIn bIn before)
        | inr last =>
            rw [List.mem_singleton.mp last]
            exact before_last _ a e aIn
    | inr last =>
        have same := List.mem_singleton.mp last
        cases List.mem_append.mp right with
        | inl bIn => exact absurd (kept.subset bIn) (calm (by rw [head, same]; exact List.mem_cons_self))
        | inr alsoLast => exact absurd (same.trans (List.mem_singleton.mp alsoLast).symm) different
  · intro present left
    cases tail.behind present left with
    | inl queued => exact .inl queued
    | inr aside => exact absurd aside (calm (by rw [head]; exact List.mem_cons_of_mem e left))

theorem calm_defer (capacity : Nat) (l : Line E) (e : E) (rest : List E) (head : l.queue = e :: rest)
    (accounted : Accounted l) (sorted : Sorted a b l) (calm : Calm a b l) : Calm a b (l.defer capacity e rest) := by
  have distinct := l.queue_nodup accounted
  rw [head] at distinct
  intro left aside
  cases List.mem_append.mp aside with
  | inl kept => exact calm (head ▸ List.mem_cons_of_mem e left) ((l.kept_sublist capacity).subset kept)
  | inr last =>
      have queued : b ∈ l.queue := by rw [head, List.mem_singleton.mp last]; exact List.mem_cons_self
      have present := l.queued_posted accounted b queued
      cases (sorted_tail a b l e rest head accounted sorted).behind present left with
      | inl later => exact (List.nodup_cons.mp distinct).1 (List.mem_singleton.mp last ▸ later)
      | inr deferred => exact l.queued_not_deferred accounted b queued deferred

theorem sorted_move (different : a ≠ b) (capacity : Nat) (l m : Line E) (move : Move capacity l m)
    (accounted : Accounted l) (admits : Admits a b m) (sorted : Sorted a b l) (calm : Calm a b l) :
    Sorted a b m ∧ Calm a b m := by
  cases move with
  | arrive e fresh =>
      exact ⟨sorted_arrive a b different l e fresh accounted admits sorted, calm_arrive a b l e fresh accounted admits calm⟩
  | execute e rest head =>
      exact ⟨sorted_execute a b different l e rest head accounted sorted, calm_take a b l _ e rest head rfl rfl calm⟩
  | drop e rest head => exact ⟨sorted_drop a b l e rest head accounted sorted, calm_take a b l _ e rest head rfl rfl calm⟩
  | defer e rest head =>
      exact ⟨sorted_defer a b different capacity l e rest head accounted sorted calm,
        calm_defer a b capacity l e rest head accounted sorted calm⟩
  | flush _ flushed =>
      exact sorted_flush a b different l.deferred l m flushed accounted admits (l.deferred_nodup accounted)
        (List.suffix_refl l.deferred) sorted.aside sorted

theorem moves_accounted (capacity : Nat) (l m : Line E) (moves : Relation.ReflTransGen (Move capacity) l m)
    (accounted : Accounted l) : Accounted m := by
  induction moves with
  | refl => exact accounted
  | tail _ move ih => exact move_accounted capacity _ _ move ih

theorem moves_sorted (different : a ≠ b) (capacity : Nat) (l m : Line E)
    (moves : Relation.ReflTransGen (Move capacity) l m) (accounted : Accounted l) (admits : Admits a b m)
    (sorted : Sorted a b l) (calm : Calm a b l) : Sorted a b m ∧ Calm a b m := by
  induction moves with
  | refl => exact ⟨sorted, calm⟩
  | tail moves move ih =>
      have kept := moves_accounted capacity l _ moves accounted
      obtain ⟨before, quiet⟩ := ih (admits_move a b capacity _ _ move kept admits)
      exact sorted_move a b different capacity _ _ move kept admits before quiet

-- Two items that are both executed are executed in the order of their arrival.
theorem executed_sorted (different : a ≠ b) (capacity : Nat) (m : Line E)
    (moves : Relation.ReflTransGen (Move capacity) empty m) (admits : Admits a b m) (first : a ∈ m.executed)
    (second : b ∈ m.executed) : Before m.executed a b :=
  (moves_sorted a b different capacity empty m moves empty_accounted admits (empty_sorted a b)
    (fun none => absurd none List.not_mem_nil)).1.served first second

end Ordering

end Line

end Deferral
