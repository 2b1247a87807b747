import Mathlib.Data.List.Induction

set_option autoImplicit false

namespace Transition

section Runs

variable {S L : Type}

inductive Run (step : S → L → S → Prop) : S → List L → S → Prop where
  | done (s : S) : Run step s [] s
  | next (s t u : S) (label : L) (labels : List L) (first : step s label t) (rest : Run step t labels u) :
      Run step s (label :: labels) u

def Meeting (step : S → L → S → Prop) (condition : S → L → S → Prop) (s : S) (label : L) (t : S) : Prop :=
  step s label t ∧ condition s label t

theorem run_append (step : S → L → S → Prop) (s t u : S) (first second : List L)
    (left : Run step s first t) (right : Run step t second u) : Run step s (first ++ second) u := by
  induction left with
  | done s => exact right
  | next s m t label labels head _ ih => exact .next s m u label _ head (ih right)

theorem run_single (step : S → L → S → Prop) (s t : S) (label : L) (one : step s label t) : Run step s [label] t :=
  .next s t t label [] one (.done t)

theorem run_split (step : S → L → S → Prop) (s u : S) (first second : List L)
    (run : Run step s (first ++ second) u) : ∃ t, Run step s first t ∧ Run step t second u := by
  induction first generalizing s with
  | nil => exact ⟨s, .done s, run⟩
  | cons label rest ih =>
      cases run with
      | next _ m _ _ _ head tail =>
          obtain ⟨t, left, right⟩ := ih m tail
          exact ⟨t, .next s m t label rest head left, right⟩

theorem run_one (step : S → L → S → Prop) (s t : S) (label : L) (run : Run step s [label] t) : step s label t := by
  cases run with
  | next _ m _ _ _ head tail => cases tail; exact head

theorem run_mono (step weaker : S → L → S → Prop) (forget : ∀ s label t, step s label t → weaker s label t)
    (s t : S) (labels : List L) (run : Run step s labels t) : Run weaker s labels t := by
  induction run with
  | done s => exact .done s
  | next s m t label labels head _ ih => exact .next s m t label labels (forget s label m head) ih

theorem run_invariant (step : S → L → S → Prop) (I : S → Prop)
    (kept : ∀ s label t, I s → step s label t → I t) (s t : S) (labels : List L) (initial : I s)
    (run : Run step s labels t) : I t := by
  induction run with
  | done s => exact initial
  | next s m t label labels head _ ih => exact ih (kept s label m initial head)

theorem run_history (step : S → L → S → Prop) (I : List L → S → Prop)
    (kept : ∀ past s label t, I past s → step s label t → I (past ++ [label]) t) (s t : S) (past labels : List L)
    (initial : I past s) (run : Run step s labels t) : I (past ++ labels) t := by
  induction run generalizing past with
  | done s => rwa [List.append_nil]
  | next s m t label labels head _ ih =>
      have tail := ih (past ++ [label]) (kept past s label m initial head)
      rwa [List.append_assoc] at tail

-- What holds at the start and is kept by the steps of the runs along labels
-- holds in every state that such a run passes.
theorem run_along (step : S → L → S → Prop) (I : S → Prop) (s : S) (labels : List L) (initial : I s)
    (kept : ∀ past before label after, (past ++ [label]) <+: labels → Run step s past before → I before →
      step before label after → I after) (past : List L) (reached : S) (front : past <+: labels)
    (run : Run step s past reached) : I reached := by
  induction past using List.reverseRecOn generalizing reached with
  | nil => cases run; exact initial
  | append_singleton past label ih =>
      obtain ⟨before, left, right⟩ := run_split step s reached past [label] run
      have held := ih before ((List.prefix_append past [label]).trans front) left
      exact kept past before label reached front left held (run_one step before reached label right)

theorem run_relation (step : S → L → S → Prop) (R : S → S → Prop) (reflexive : ∀ s, R s s)
    (transitive : ∀ s t u, R s t → R t u → R s u) (each : ∀ s label t, step s label t → R s t) (s t : S)
    (labels : List L) (run : Run step s labels t) : R s t := by
  induction run with
  | done s => exact reflexive s
  | next s m t label labels head _ ih => exact transitive s m t (each s label m head) ih

def Happens (step : S → L → S → Prop) (event : S → L → Prop) (s : S) (labels : List L) (t : S) : Prop :=
  ∃ past label rest before, labels = past ++ label :: rest ∧ Run step s past before ∧ event before label ∧
    Run step before (label :: rest) t

theorem run_recorded (step : S → L → S → Prop) (I record : S → Prop) (event : S → L → Prop)
    (kept : ∀ s label t, I s → step s label t → I t)
    (each : ∀ s label t, I s → step s label t → (record t ↔ record s ∨ event s label)) (s t : S) (labels : List L) (initial : I s)
    (run : Run step s labels t) : record t ↔ record s ∨ Happens step event s labels t := by
  have stays : ∀ (s t : S) (labels : List L), I s → Run step s labels t → record s → record t := by
    intro s t labels initial run held
    exact (run_invariant step (fun s => I s ∧ record s)
      (fun before label after both one => ⟨kept before label after both.1 one, (each before label after both.1 one).mpr (.inl both.2)⟩)
      s t labels ⟨initial, held⟩ run).2
  constructor
  · intro recorded
    induction run with
    | done s => exact .inl recorded
    | next s m u label labels head tail ih =>
        rcases ih (kept s label m initial head) recorded with earlier | ⟨past, other, rest, before, rfl, left, happened, right⟩
        · refine ((each s label m initial head).mp earlier).imp_right (fun happened => ?_)
          exact ⟨[], label, labels, s, rfl, .done s, happened, .next s m u label labels head tail⟩
        · exact .inr ⟨label :: past, other, rest, before, rfl, .next s m before label past head left, happened, right⟩
  · rintro (held | ⟨past, label, rest, before, _, left, happened, right⟩)
    · exact stays s t labels initial run held
    · have there := run_invariant step I kept s before past initial left
      cases right with
      | next _ after _ _ _ head tail =>
          exact stays after t rest (kept before label after there head) tail ((each before label after there head).mpr (.inr happened))

-- A label that can be taken until something holds, and whose steps descend in a
-- well-founded order, is taken finitely often before it holds.
theorem run_descends {M : Type} (step : S → L → S → Prop) (label : L) (less : M → M → Prop) (founded : WellFounded less)
    (rank : S → M) (I done : S → Prop)
    (descends : ∀ s, I s → done s ∨ ∃ t, step s label t ∧ I t ∧ less (rank t) (rank s)) (s : S) (initial : I s) :
    ∃ n t, Run step s (List.replicate n label) t ∧ done t := by
  induction s using (InvImage.wf rank founded).induction with
  | h s ih =>
      cases descends s initial with
      | inl already => exact ⟨0, s, .done s, already⟩
      | inr further =>
          obtain ⟨t, first, held, lower⟩ := further
          obtain ⟨n, u, rest, ended⟩ := ih t lower held
          exact ⟨n + 1, u, .next s t u label _ first rest, ended⟩

theorem run_founded {M : Type} (step : S → L → S → Prop) (less : M → M → Prop) (founded : WellFounded less) (rank : S → M)
    (I : S → Prop) (kept : ∀ s label t, I s → step s label t → I t)
    (descends : ∀ s label t, I s → step s label t → less (rank t) (rank s)) (s : S) (initial : I s) :
    Acc (fun t s => ∃ label, step s label t) s := by
  induction s using (InvImage.wf rank founded).induction with
  | h s ih =>
      constructor
      rintro t ⟨label, first⟩
      exact ih t (descends s label t initial first) (kept s label t initial first)

theorem run_simulates {T M : Type} (step : S → L → S → Prop) (abstract : T → M → T → Prop) (R : S → T → Prop)
    (each : ∀ s t label s', R s t → step s label s' → ∃ actions t', Run abstract t actions t' ∧ R s' t') (s s' : S) (t : T)
    (labels : List L) (related : R s t) (run : Run step s labels s') : ∃ actions t', Run abstract t actions t' ∧ R s' t' := by
  induction run generalizing t with
  | done s => exact ⟨[], t, .done t, related⟩
  | next s m u label labels head _ ih =>
      obtain ⟨first, between, left, still⟩ := each s t label m related head
      obtain ⟨second, last, right, ends⟩ := ih between still
      exact ⟨first ++ second, last, run_append abstract _ _ _ _ _ left right, ends⟩

theorem run_projects {T M : Type} (step : S → L → S → Prop) (part : T → M → T → Prop) (view : S → T) (concerns : L → Option M)
    (each : ∀ s label t, step s label t → Run part (view s) (concerns label).toList (view t)) (s t : S) (labels : List L)
    (run : Run step s labels t) : Run part (view s) (labels.filterMap concerns) (view t) := by
  induction run with
  | done s => exact .done _
  | next s m t label labels head _ ih =>
      have first := each s label m head
      cases which : concerns label with
      | none =>
          rw [which] at first
          rw [List.filterMap_cons_none which]
          exact run_append part _ _ _ _ _ first ih
      | some action =>
          rw [which] at first
          rw [List.filterMap_cons_some which]
          exact run_append part _ _ _ _ _ first ih

section Following

-- The runs of a step function whose steps all pass a check, to evaluate runs with.
def follow (advance : S → L → Option S) (check : S → L → Bool) (s : S) : List L → Option S
  | [] => some s
  | label :: labels =>
      match advance s label with
      | some next => if check s label then follow advance check next labels else none
      | none => none

variable (step : S → L → S → Prop) (advance : S → L → Option S) (sound : ∀ s t label, advance s label = some t → step s label t)

include sound

theorem follow_run (check : S → L → Bool) (condition : S → L → S → Prop)
    (holds : ∀ s label t, check s label = true → condition s label t) (s last : S) (labels : List L)
    (followed : follow advance check s labels = some last) : Run (Meeting step condition) s labels last := by
  induction labels generalizing s with
  | nil => cases followed; exact .done _
  | cons label labels ih =>
      rw [follow] at followed
      cases first : advance s label with
      | none => rw [first] at followed; cases followed
      | some next =>
          rw [first] at followed
          dsimp only at followed
          cases checked : check s label with
          | false => rw [checked] at followed; cases followed
          | true =>
              rw [checked, if_pos rfl] at followed
              exact .next s next last label labels ⟨sound s next label first, holds s label next checked⟩ (ih next followed)

theorem follow_reached (s last : S) (labels : List L) (followed : follow advance (fun _ _ => true) s labels = some last) :
    Run step s labels last :=
  run_mono _ _ (fun _ _ _ met => met.1) _ _ _
    (follow_run step advance sound _ (fun _ _ _ => True) (fun _ _ _ _ => trivial) s last labels followed)

end Following

section Watching

variable {H : Type} (step : S → L → S → Prop) (note : H → S → L → S → H)

def Watching (before : S × H) (label : L) (after : S × H) : Prop :=
  step before.1 label after.1 ∧ after.2 = note before.2 before.1 label after.1

theorem run_watched (s t : S) (labels : List L) (run : Run step s labels t) (h : H) :
    ∃ last, Run (Watching step note) (s, h) labels (t, last) := by
  induction run generalizing h with
  | done s => exact ⟨h, .done (s, h)⟩
  | next s m t label labels head _ ih =>
      obtain ⟨last, tail⟩ := ih (note h s label m)
      exact ⟨last, .next _ (m, note h s label m) _ _ _ ⟨head, rfl⟩ tail⟩

theorem watched_run (before after : S × H) (labels : List L) (run : Run (Watching step note) before labels after) :
    Run step before.1 labels after.1 := by
  induction run with
  | done s => exact .done s.1
  | next s m t label labels head _ ih => exact .next _ _ _ _ _ head.1 ih

end Watching

end Runs

end Transition
