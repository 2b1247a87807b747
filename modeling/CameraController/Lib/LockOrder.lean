import Mathlib.Data.List.Nodup
import Mathlib.Logic.Function.Basic
import CameraController.Lib.Transition

set_option autoImplicit false

namespace LockOrder

open Transition

inductive Op (L A : Type) where
  | lock (l : L)
  | unlock (l : L)
  | task (task : A)
deriving DecidableEq, Repr

-- A task changes the data of the program and goes on with the operations that it
-- answers. A thread at one of the tasks that sleep waits to be woken.
structure Program (L A C D : Type) where
  body : C → List (Op L A)
  perform : A → D → D × List (Op L A)
  sleeps : A → Bool

structure Machine (T L A D : Type) where
  data : D
  held : L → Option T
  script : T → List (Op L A)

inductive Act (T C : Type) where
  | call (thread : T) (call : C)
  | step (thread : T)
  | wake (thread : T)
deriving DecidableEq, Repr

def Act.thread {T C : Type} : Act T C → T
  | .call thread _ | .step thread | .wake thread => thread

section Machine

variable {T L A C D : Type} [DecidableEq T] [DecidableEq L] (program : Program L A C D)

inductive Step : Machine T L A D → Act T C → Machine T L A D → Prop where
  | call (s : Machine T L A D) (thread : T) (call : C) (idle : s.script thread = []) :
      Step s (.call thread call) { s with script := Function.update s.script thread (program.body call) }
  | lock (s : Machine T L A D) (thread : T) (l : L) (rest : List (Op L A)) (next : s.script thread = .lock l :: rest)
      (free : s.held l = none) :
      Step s (.step thread)
        { s with held := Function.update s.held l (some thread), script := Function.update s.script thread rest }
  | unlock (s : Machine T L A D) (thread : T) (l : L) (rest : List (Op L A)) (next : s.script thread = .unlock l :: rest) :
      Step s (.step thread) { s with held := Function.update s.held l none, script := Function.update s.script thread rest }
  | task (s : Machine T L A D) (thread : T) (task : A) (rest : List (Op L A)) (next : s.script thread = .task task :: rest)
      (awake : program.sleeps task = false) :
      Step s (.step thread)
        { s with
          data := (program.perform task s.data).1
          script := Function.update s.script thread ((program.perform task s.data).2 ++ rest) }
  | wake (s : Machine T L A D) (thread : T) (task : A) (rest : List (Op L A)) (next : s.script thread = .task task :: rest)
      (asleep : program.sleeps task = true) :
      Step s (.wake thread)
        { s with
          data := (program.perform task s.data).1
          script := Function.update s.script thread ((program.perform task s.data).2 ++ rest) }

def advance (s : Machine T L A D) : Act T C → Option (Machine T L A D)
  | .call thread call =>
      match s.script thread with
      | [] => some { s with script := Function.update s.script thread (program.body call) }
      | _ => none
  | .step thread =>
      match s.script thread with
      | [] => none
      | .lock l :: rest =>
          match s.held l with
          | none => some { s with held := Function.update s.held l (some thread), script := Function.update s.script thread rest }
          | some _ => none
      | .unlock l :: rest => some { s with held := Function.update s.held l none, script := Function.update s.script thread rest }
      | .task task :: rest =>
          if program.sleeps task then none
          else some { s with
            data := (program.perform task s.data).1
            script := Function.update s.script thread ((program.perform task s.data).2 ++ rest) }
  | .wake thread =>
      match s.script thread with
      | .task task :: rest =>
          if program.sleeps task then
            some { s with
              data := (program.perform task s.data).1
              script := Function.update s.script thread ((program.perform task s.data).2 ++ rest) }
          else none
      | _ => none

theorem advance_step (s next : Machine T L A D) (act : Act T C) (run : advance program s act = some next) :
    Step program s act next := by
  cases act with
  | call thread call =>
      rw [advance] at run
      split at run
      · rename_i idle
        cases run
        exact .call s thread call idle
      · cases run
  | step thread =>
      rw [advance] at run
      split at run
      · cases run
      · rename_i l rest ops
        split at run
        · rename_i free
          cases run
          exact .lock s thread l rest ops free
        · cases run
      · rename_i l rest ops
        cases run
        exact .unlock s thread l rest ops
      · rename_i task rest ops
        split at run
        · cases run
        · rename_i awake
          cases run
          exact .task s thread task rest ops (by simpa using awake)
  | wake thread =>
      rw [advance] at run
      split at run
      · rename_i task rest ops
        split at run
        · rename_i asleep
          cases run
          exact .wake s thread task rest ops asleep
        · cases run
      · cases run

end Machine

section Discipline

variable {T L A C D : Type} [DecidableEq L] (may : List L → L → Prop) (fits : A → List L → Prop)

-- A thread that has the locks held can run the operations: it takes only locks that
-- it may take, gives back only locks that it has, and has none in the end. Taking a
-- lock that it has leaves it there for ever. fits says under which locks a task may
-- be performed.
def Conforms : List L → List (Op L A) → Prop
  | held, [] => held = []
  | held, .lock l :: rest => may held l ∧ (l ∈ held ∨ Conforms (l :: held) rest)
  | held, .unlock l :: rest => l ∈ held ∧ Conforms (held.erase l) rest
  | held, .task task :: rest => fits task held ∧ Conforms held rest

structure Disciplined (program : Program L A C D) : Prop where
  enters : ∀ call, Conforms may fits [] (program.body call)
  goesOn : ∀ task data held rest, fits task held → Conforms may fits held rest →
    Conforms may fits held ((program.perform task data).2 ++ rest)

structure Holds (s : Machine T L A D) (thread : T) (locks : List L) : Prop where
  nodup : locks.Nodup
  exact : ∀ l, l ∈ locks ↔ s.held l = some thread
  conforms : Conforms may fits locks (s.script thread)

theorem conforms_perm (some_order : ∀ held other l, held.Perm other → may held l → may other l)
    (any_order : ∀ task held other, held.Perm other → fits task held → fits task other) (held other : List L)
    (ops : List (Op L A)) (same : held.Perm other) (conforms : Conforms may fits held ops) : Conforms may fits other ops := by
  induction ops generalizing held other with
  | nil =>
      cases conforms
      exact same.nil_eq.symm
  | cons op ops ih =>
      cases op with
      | lock l =>
          refine ⟨some_order held other l same conforms.1, ?_⟩
          exact conforms.2.imp (fun mine => same.mem_iff.mp mine) (fun after => ih _ _ (same.cons l) after)
      | unlock l => exact ⟨same.mem_iff.mp conforms.1, ih _ _ (same.erase l) conforms.2⟩
      | task task => exact ⟨any_order task held other same conforms.1, ih _ _ same conforms.2⟩

def Orderly (s : Machine T L A D) : Prop := ∀ thread, ∃ locks, Holds may fits s thread locks

end Discipline

section Order

variable {T L A C D : Type} [DecidableEq T] [DecidableEq L] (program : Program L A C D) (may : List L → L → Prop)
  (fits : A → List L → Prop) (disciplined : Disciplined may fits program)

omit [DecidableEq T] in
theorem initial_orderly (data : D) : Orderly may fits (⟨data, fun _ => none, fun _ => []⟩ : Machine T L A D) :=
  fun _ => ⟨[], List.nodup_nil, fun _ => iff_of_false List.not_mem_nil nofun, rfl⟩

include disciplined

theorem orderly_step (s next : Machine T L A D) (act : Act T C) (orderly : Orderly may fits s)
    (step : Step program s act next) : Orderly may fits next := by
  have moves : ∀ (data : D) (thread : T) (ops : List (Op L A)),
      (∀ locks, Conforms may fits locks (s.script thread) → Conforms may fits locks ops) →
      Orderly may fits { s with data := data, script := Function.update s.script thread ops } := by
    intro data thread ops conforms other
    obtain ⟨locks, nodup, exact, its⟩ := orderly other
    refine ⟨locks, nodup, exact, ?_⟩
    dsimp only
    by_cases here : other = thread
    · subst here
      rw [Function.update_self]
      exact conforms locks its
    · rwa [Function.update_of_ne here]
  cases step with
  | call thread call idle =>
      refine moves s.data thread _ (fun locks its => ?_)
      rw [idle] at its
      cases its
      exact disciplined.enters call
  | task thread task rest here awake =>
      refine moves _ thread _ (fun locks its => ?_)
      rw [here] at its
      exact disciplined.goesOn task s.data locks rest its.1 its.2
  | wake thread task rest here asleep =>
      refine moves _ thread _ (fun locks its => ?_)
      rw [here] at its
      exact disciplined.goesOn task s.data locks rest its.1 its.2
  | lock thread l rest here free =>
      intro other
      obtain ⟨locks, nodup, exact, its⟩ := orderly other
      have fresh : l ∉ locks := by
        rw [exact, free]
        exact nofun
      by_cases same : other = thread
      · subst same
        rw [here] at its
        refine ⟨l :: locks, List.nodup_cons.mpr ⟨fresh, nodup⟩, fun m => ?_, ?_⟩
        · by_cases taken : m = l
          · simp [taken]
          · simp [taken, exact]
        · dsimp only
          rw [Function.update_self]
          exact its.2.resolve_left fresh
      · refine ⟨locks, nodup, fun m => ?_, ?_⟩
        · by_cases taken : m = l
          · simp [taken, fresh, Ne.symm same]
          · simp [taken, exact]
        · dsimp only
          rwa [Function.update_of_ne same]
  | unlock thread l rest here =>
      intro other
      obtain ⟨locks, nodup, exact, its⟩ := orderly other
      by_cases same : other = thread
      · subst same
        rw [here] at its
        refine ⟨locks.erase l, nodup.erase l, fun m => ?_, ?_⟩
        · by_cases given : m = l
          · simp [given, nodup.mem_erase_iff]
          · simp [given, nodup.mem_erase_iff, exact]
        · dsimp only
          rw [Function.update_self]
          exact its.2
      · obtain ⟨mine, _, owned, orders⟩ := orderly thread
        rw [here] at orders
        have held := (owned l).mp orders.1
        refine ⟨locks, nodup, fun m => ?_, ?_⟩
        · by_cases given : m = l
          · subst given
            rw [exact, held]
            simp [Ne.symm same]
          · simp [given, exact]
        · dsimp only
          rwa [Function.update_of_ne same]

theorem orderly_run (s last : Machine T L A D) (acts : List (Act T C)) (orderly : Orderly may fits s)
    (run : Run (Step program) s acts last) : Orderly may fits last :=
  run_invariant (Step program) (Orderly may fits)
    (fun before act after => orderly_step program may fits disciplined before after act) s last acts orderly run

end Order

section Deadlocks

variable {T L A C D : Type} [DecidableEq T] [DecidableEq L] (program : Program L A C D)

def Above (rank : L → Nat) (held : List L) (l : L) : Prop := ∀ m ∈ held, rank m < rank l

-- A thread that is in a call and does not sleep waits for a lock at most, and who has
-- a lock waits only for a higher one.
theorem someone_goes_on (rank : L → Nat) (fits : A → List L → Prop)
    (rests : ∀ task held, program.sleeps task = true → fits task held → held = []) (bound : Nat)
    (bounded : ∀ l, rank l ≤ bound) (s : Machine T L A D) (orderly : Orderly (Above rank) fits s) (thread : T)
    (busy : s.script thread ≠ [])
    (awake : ∀ task rest, s.script thread = .task task :: rest → program.sleeps task = false) :
    ∃ other next, Step program s (.step other) next := by
  have climbs : ∀ (gap : Nat) (thread : T) (l : L) (rest : List (Op L A)), s.script thread = .lock l :: rest →
      bound - rank l = gap → ∃ other next, Step program s (.step other) next := by
    intro gap
    induction gap using Nat.strongRecOn with
    | ind gap ih =>
        intro thread l rest waits distance
        cases free : s.held l with
        | none => exact ⟨thread, _, .lock s thread l rest waits free⟩
        | some owner =>
            obtain ⟨locks, _, exact, conforms⟩ := orderly owner
            have mine : l ∈ locks := (exact l).mpr free
            cases ops : s.script owner with
            | nil =>
                rw [ops] at conforms
                cases conforms
                cases mine
            | cons op others =>
                rw [ops] at conforms
                cases op with
                | unlock m => exact ⟨owner, _, .unlock s owner m others ops⟩
                | task task =>
                    cases sleeps : program.sleeps task with
                    | false => exact ⟨owner, _, .task s owner task others ops sleeps⟩
                    | true =>
                        rw [rests task locks sleeps conforms.1] at mine
                        cases mine
                | lock m =>
                    have above := conforms.1 l mine
                    have below := bounded m
                    exact ih (bound - rank m) (by omega) owner m others ops rfl
  cases ops : s.script thread with
  | nil => exact absurd ops busy
  | cons op rest =>
      cases op with
      | lock l => exact climbs _ thread l rest ops rfl
      | unlock l => exact ⟨thread, _, .unlock s thread l rest ops⟩
      | task task => exact ⟨thread, _, .task s thread task rest ops (awake task rest ops)⟩

omit [DecidableEq T] in
theorem sleeper_free (may : List L → L → Prop) (fits : A → List L → Prop)
    (rests : ∀ task held, program.sleeps task = true → fits task held → held = []) (s : Machine T L A D)
    (orderly : Orderly may fits s) (thread : T) (task : A) (rest : List (Op L A)) (head : s.script thread = .task task :: rest)
    (asleep : program.sleeps task = true) (l : L) : s.held l ≠ some thread := by
  obtain ⟨locks, _, exact, conforms⟩ := orderly thread
  rw [head] at conforms
  rw [ne_eq, ← exact, rests task locks asleep conforms.1]
  exact List.not_mem_nil

end Deadlocks

section Calls

variable {T L A C D : Type} [DecidableEq T] [DecidableEq L] (program : Program L A C D)

def calling (acts : List (Act T C)) (thread : T) : Option C :=
  acts.foldl (fun last act =>
    match act with
    | .call other call => if other = thread then some call else last
    | _ => last) none

theorem calling_call (acts : List (Act T C)) (other thread : T) (call : C) :
    calling (acts ++ [.call other call]) thread = if other = thread then some call else calling acts thread := by
  rw [calling, List.foldl_append]
  rfl

theorem calling_step (acts : List (Act T C)) (other thread : T) : calling (acts ++ [.step other]) thread = calling acts thread := by
  rw [calling, List.foldl_append]
  rfl

theorem calling_wake (acts : List (Act T C)) (other thread : T) : calling (acts ++ [.wake other]) thread = calling acts thread := by
  rw [calling, List.foldl_append]
  rfl

variable (plainCall : C → Prop) (plain : A → Prop)

-- A thread that is not idle is in its last call, and a plain call has plain tasks only.
def InCalls (acts : List (Act T C)) (s : Machine T L A D) : Prop :=
  ∀ thread, s.script thread ≠ [] → ∃ call, calling acts thread = some call ∧
    (plainCall call → ∀ task, .task task ∈ s.script thread → plain task)

variable (bodies : ∀ call, plainCall call → ∀ task, .task task ∈ program.body call → plain task)
  (tasks : ∀ task data, plain task → ∀ other, .task other ∈ (program.perform task data).2 → plain other)

include bodies tasks

theorem in_calls_step (past : List (Act T C)) (s next : Machine T L A D) (act : Act T C)
    (calls : InCalls plainCall plain past s) (step : Step program s act next) :
    InCalls plainCall plain (past ++ [act]) next := by
  have within : ∀ (now : List (Act T C)) (thread : T) (op : Op L A) (rest answer : List (Op L A)),
      (∀ other, calling now other = calling past other) → s.script thread = op :: rest →
      (∀ task, .task task ∈ answer → .task task ∈ rest ∨ ∃ first, op = .task first ∧
        .task task ∈ (program.perform first s.data).2) →
      ∀ other, Function.update s.script thread answer other ≠ [] → ∃ call, calling now other = some call ∧
        (plainCall call → ∀ task, .task task ∈ Function.update s.script thread answer other → plain task) := by
    intro now thread op rest answer same head kept other
    rw [same]
    by_cases here : other = thread
    · subst here
      rw [Function.update_self]
      intro _
      obtain ⟨call, made, tame⟩ := calls other (by rw [head]; exact List.cons_ne_nil op rest)
      rw [head] at tame
      refine ⟨call, made, fun easy task member => ?_⟩
      rcases kept task member with later | ⟨first, rfl, answered⟩
      · exact tame easy task (List.mem_cons_of_mem op later)
      · exact tasks first s.data (tame easy first List.mem_cons_self) task answered
    · rw [Function.update_of_ne here]
      exact calls other
  cases step with
  | call thread call idle =>
      intro other
      rw [calling_call]
      by_cases here : other = thread
      · subst here
        rw [if_pos rfl]
        dsimp only
        rw [Function.update_self]
        exact fun _ => ⟨call, rfl, bodies call⟩
      · rw [if_neg (Ne.symm here)]
        dsimp only
        rw [Function.update_of_ne here]
        exact calls other
  | lock thread l rest head free => exact within _ thread _ rest rest (calling_step past thread) head (fun _ => .inl)
  | unlock thread l rest head => exact within _ thread _ rest rest (calling_step past thread) head (fun _ => .inl)
  | task thread task rest head awake =>
      refine within _ thread _ rest _ (calling_step past thread) head (fun other member => ?_)
      exact (List.mem_append.mp member).symm.imp_right (fun answered => ⟨task, rfl, answered⟩)
  | wake thread task rest head asleep =>
      refine within _ thread _ rest _ (calling_wake past thread) head (fun other member => ?_)
      exact (List.mem_append.mp member).symm.imp_right (fun answered => ⟨task, rfl, answered⟩)

theorem in_calls_run (s last : Machine T L A D) (acts : List (Act T C)) (idle : ∀ thread, s.script thread = [])
    (run : Run (Step program) s acts last) : InCalls plainCall plain acts last :=
  run_history (Step program) (InCalls plainCall plain)
    (fun past before act after => in_calls_step program plainCall plain bodies tasks past before after act) s last [] acts
    (fun thread busy => absurd (idle thread) busy) run

end Calls

section Relocking

variable {T L A C D : Type} [DecidableEq T] [DecidableEq L] (program : Program L A C D)

def Relocks (l : L) (ops : List (Op L A)) : Prop :=
  ∃ before after, ops = before ++ .lock l :: after ∧ Op.unlock l ∉ before

omit [DecidableEq L] in
theorem relocks_head (l : L) (ops : List (Op L A)) : Relocks l (.lock l :: ops) := ⟨[], ops, rfl, List.not_mem_nil⟩

omit [DecidableEq L] in
theorem relocks_append (l : L) (ops rest : List (Op L A)) (keeps : Op.unlock l ∉ ops) (later : Relocks l rest) :
    Relocks l (ops ++ rest) := by
  obtain ⟨before, after, rfl, kept⟩ := later
  refine ⟨ops ++ before, after, (List.append_assoc ..).symm, ?_⟩
  rw [List.mem_append, not_or]
  exact ⟨keeps, kept⟩

omit [DecidableEq L] in
theorem relocks_tail (l : L) (op : Op L A) (rest : List (Op L A)) (other : op ≠ .lock l) (again : Relocks l (op :: rest)) :
    op ≠ .unlock l ∧ Relocks l rest := by
  obtain ⟨before, after, split, kept⟩ := again
  cases before with
  | nil => exact absurd (List.cons.inj split).1 other
  | cons first before =>
      obtain ⟨rfl, rfl⟩ := List.cons.inj split
      rw [List.mem_cons, not_or] at kept
      exact ⟨Ne.symm kept.1, before, after, rfl, kept.2⟩

theorem script_elsewhere (s next : Machine T L A D) (act : Act T C) (step : Step program s act next) (thread : T)
    (other : act.thread ≠ thread) : next.script thread = s.script thread := by
  cases step <;> exact Function.update_of_ne (Ne.symm other) _ _

theorem waiter_rests (l : L) (s next : Machine T L A D) (act : Act T C) (thread : T) (rest : List (Op L A))
    (own : s.held l = some thread) (waits : s.script thread = .lock l :: rest) (step : Step program s act next) : act.thread ≠ thread := by
  rintro rfl
  cases step with
  | call mover call idle =>
      rw [show s.script mover = _ from waits] at idle
      cases idle
  | lock mover m others head free =>
      rw [show s.script mover = _ from waits] at head
      cases head
      rw [own] at free
      cases free
  | unlock mover m others head =>
      rw [show s.script mover = _ from waits] at head
      cases head
  | task mover task others head awake =>
      rw [show s.script mover = _ from waits] at head
      cases head
  | wake mover task others head asleep =>
      rw [show s.script mover = _ from waits] at head
      cases head

variable (may : List L → L → Prop) (fits : A → List L → Prop) (l : L)
  (again : ∀ task data rest, Relocks l rest → Relocks l ((program.perform task data).2 ++ rest))

include again

theorem relocks_step (s next : Machine T L A D) (act : Act T C) (thread : T) (orderly : Orderly may fits s)
    (step : Step program s act next) (own : s.held l = some thread) (stuck : Relocks l (s.script thread)) :
    next.held l = some thread ∧ Relocks l (next.script thread) := by
  have moves : ∀ (mover : T) (op : Op L A) (rest ops : List (Op L A)), s.script mover = op :: rest → op ≠ .lock l →
      (Relocks l rest → Relocks l ops) → Relocks l (Function.update s.script mover ops thread) := by
    intro mover op rest ops head other kept
    by_cases here : thread = mover
    · subst here
      rw [Function.update_self]
      rw [head] at stuck
      exact kept (relocks_tail l op rest other stuck).2
    · rwa [Function.update_of_ne here]
  cases step with
  | call mover call idle =>
      refine ⟨own, ?_⟩
      have apart : thread ≠ mover := by
        rintro rfl
        obtain ⟨before, after, split, _⟩ := stuck
        rw [idle] at split
        cases before <;> cases split
      dsimp only
      rwa [Function.update_of_ne apart]
  | lock mover m rest head free =>
      have apart : l ≠ m := by
        rintro rfl
        rw [free] at own
        cases own
      refine ⟨?_, moves mover _ rest rest head (fun same => apart (Op.lock.inj same).symm) id⟩
      dsimp only
      rwa [Function.update_of_ne apart]
  | unlock mover m rest head =>
      have apart : l ≠ m := by
        rintro rfl
        obtain ⟨locks, _, exact, conforms⟩ := orderly mover
        rw [head] at conforms
        have mine := (exact l).mp conforms.1
        rw [own] at mine
        cases mine
        rw [head] at stuck
        exact (relocks_tail l _ rest (by intro same; cases same) stuck).1 rfl
      refine ⟨?_, moves mover _ rest rest head (by intro same; cases same) id⟩
      dsimp only
      rwa [Function.update_of_ne apart]
  | task mover task rest head awake =>
      exact ⟨own, moves mover _ rest _ head (by intro same; cases same) (again task s.data rest)⟩
  | wake mover task rest head asleep =>
      exact ⟨own, moves mover _ rest _ head (by intro same; cases same) (again task s.data rest)⟩

theorem relocks_run (disciplined : Disciplined may fits program) (s last : Machine T L A D) (acts : List (Act T C)) (thread : T)
    (orderly : Orderly may fits s) (run : Run (Step program) s acts last) (own : s.held l = some thread)
    (stuck : Relocks l (s.script thread)) : last.held l = some thread ∧ Relocks l (last.script thread) :=
  (run_invariant (Step program)
    (fun t => Orderly may fits t ∧ t.held l = some thread ∧ Relocks l (t.script thread))
    (fun before act after kept step => ⟨orderly_step program may fits disciplined before after act kept.1 step,
      relocks_step program may fits l again before after act thread kept.1 step kept.2.1 kept.2.2⟩)
    s last acts ⟨orderly, own, stuck⟩ run).2

theorem waiter_stays (disciplined : Disciplined may fits program) (s last : Machine T L A D) (acts : List (Act T C)) (thread : T)
    (rest : List (Op L A)) (orderly : Orderly may fits s) (own : s.held l = some thread)
    (waits : s.script thread = .lock l :: rest) (run : Run (Step program) s acts last) :
    last.held l = some thread ∧ last.script thread = .lock l :: rest := by
  refine (run_invariant (Step program)
    (fun t => Orderly may fits t ∧ t.held l = some thread ∧ t.script thread = .lock l :: rest) ?_ s last acts
    ⟨orderly, own, waits⟩ run).2
  rintro before act after ⟨ordered, mine, stuck⟩ step
  have elsewhere := waiter_rests program l before after act thread rest mine stuck step
  refine ⟨orderly_step program may fits disciplined before after act ordered step, ?_, ?_⟩
  · exact (relocks_step program may fits l again before after act thread ordered step mine (stuck ▸ relocks_head l rest)).1
  · rw [script_elsewhere program before after act step thread elsewhere, stuck]

end Relocking

end LockOrder
