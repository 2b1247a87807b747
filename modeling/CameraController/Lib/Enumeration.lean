import Mathlib.Data.List.Nodup
import Mathlib.Data.List.Perm.Basic

set_option autoImplicit false

-- Declarations of named values in one scope, as the enumerators of an unscoped
-- enumeration are, and tables that fall back on a default.
namespace Enumeration

structure Enumerator where
  name : String
  initializer : Option String
deriving DecidableEq, Repr

abbrev Scope := List (String × Nat)

def plain (name : String) : Enumerator := ⟨name, none⟩

-- One more than the value before, unless an initializer names another value.
def Enumerator.value (enumerator : Enumerator) (scope : Scope) (next : Nat) : Option Nat :=
  match enumerator.initializer with
  | none => some next
  | some other => scope.lookup other

-- A name may be declared only once, and its value must fit the type.
def declare (limit : Nat) : Scope → Nat → List Enumerator → Option Scope
  | scope, _, [] => some scope
  | scope, next, enumerator :: rest =>
      match enumerator.value scope next with
      | none => none
      | some value =>
          if enumerator.name ∈ scope.map Prod.fst ∨ limit < value then none
          else declare limit ((enumerator.name, value) :: scope) (value + 1) rest

def numbered (next : Nat) (names : List String) : Scope := (names.zipIdx next).reverse

theorem numbered_cons (next : Nat) (name : String) (names : List String) :
    numbered next (name :: names) = numbered (next + 1) names ++ [(name, next)] := by
  simp [numbered]

theorem numbered_names (next : Nat) (names : List String) : (numbered next names).map Prod.fst = names.reverse := by
  simp [numbered]

theorem declare_plain_iff (limit next : Nat) (scope result : Scope) (names : List String) (start : next ≤ limit + 1) :
    declare limit scope next (names.map plain) = some result ↔
      result = numbered next names ++ scope ∧ names.Nodup ∧ (∀ name ∈ names, name ∉ scope.map Prod.fst) ∧
        next + names.length ≤ limit + 1 := by
  induction names generalizing next scope with
  | nil => simp [declare, numbered, start, eq_comm]
  | cons name names ih =>
      simp only [List.map_cons, declare, plain, Enumerator.value]
      by_cases taken : name ∈ scope.map Prod.fst
      · have clash : ¬ ∀ other ∈ name :: names, other ∉ scope.map Prod.fst := fun fresh => fresh name (by simp) taken
        rw [if_pos (.inl taken)]
        simp only [clash, false_and, and_false, reduceCtorEq]
      · by_cases beyond : limit < next
        · have long : ¬ next + (name :: names).length ≤ limit + 1 := by
            simp only [List.length_cons]
            omega
          rw [if_pos (.inr beyond)]
          simp only [long, and_false, reduceCtorEq]
        · rw [if_neg (not_or.mpr ⟨taken, beyond⟩)]
          have step : declare limit ((name, next) :: scope) (next + 1) (names.map plain) = some result ↔ _ :=
            ih (next + 1) ((name, next) :: scope) (by omega)
          simp [step, numbered_cons, List.append_assoc]
          intro _
          constructor
          · rintro ⟨distinct, fresh, short⟩
            exact ⟨⟨fun mem => absurd rfl (fresh name mem).1, distinct⟩,
              ⟨by simpa using taken, fun other mem => (fresh other mem).2⟩, by omega⟩
          · rintro ⟨⟨new, distinct⟩, ⟨_, fresh⟩, short⟩
            exact ⟨distinct, fun other mem => ⟨fun same => new (same ▸ mem), fresh other mem⟩, by omega⟩

theorem declare_initialized (limit next value : Nat) (scope : Scope) (name initializer : String) (names : List String)
    (declared : scope.lookup initializer = some value) :
    declare limit scope next (⟨name, some initializer⟩ :: names.map plain) =
      declare limit scope value ((name :: names).map plain) := by
  simp [declare, Enumerator.value, declared, plain]

section Lookup

variable {K A : Type} [DecidableEq K]

theorem lookup_mem (table : List (K × A)) (key : K) (value : A) (distinct : (table.map Prod.fst).Nodup)
    (mem : (key, value) ∈ table) : table.lookup key = some value := by
  induction table with
  | nil => cases mem
  | cons entry table ih =>
      obtain ⟨head, tail⟩ := List.nodup_cons.mp distinct
      by_cases same : key = entry.1
      · have first : (key, value) = entry := by
          obtain rfl | later := List.mem_cons.mp mem
          · rfl
          · exact absurd (List.mem_map.mpr ⟨_, later, same⟩) head
        simp [← first]
      · have later : (key, value) ∈ table := (List.mem_cons.mp mem).resolve_left (fun first => same (by rw [← first]))
        rw [List.lookup_cons, beq_false_of_ne same]
        exact ih tail later

def lookupOr (table : List (K × A)) (default : K → A) (key : K) : A := (table.lookup key).getD (default key)

theorem lookup_or_mem (table : List (K × A)) (default : K → A) (key : K) (value : A)
    (distinct : (table.map Prod.fst).Nodup) (mem : (key, value) ∈ table) : lookupOr table default key = value := by
  simp [lookupOr, lookup_mem table key value distinct mem]

theorem lookup_or_injective (table : List (K × A)) (default : K → A) (distinct : (table.map Prod.snd).Nodup)
    (apart : ∀ key, default key ∉ table.map Prod.snd) (injective : Function.Injective default) :
    Function.Injective (lookupOr table default) := by
  have listed : ∀ key value, table.lookup key = some value → (key, value) ∈ table := by
    intro key value found
    obtain ⟨before, after, rfl, _⟩ := List.lookup_eq_some_iff.mp found
    simp
  have known : ∀ key value, (key, value) ∈ table → value ∈ table.map Prod.snd := fun key value mem =>
    List.mem_map.mpr ⟨_, mem, rfl⟩
  intro left right same
  cases leftFound : table.lookup left with
  | none =>
      cases rightFound : table.lookup right with
      | none => exact injective (by simpa [lookupOr, leftFound, rightFound] using same)
      | some value =>
          have default : default left = value := by simpa [lookupOr, leftFound, rightFound] using same
          exact absurd (known right value (listed right value rightFound)) (default ▸ apart left)
  | some value =>
      cases rightFound : table.lookup right with
      | none =>
          have default : value = default right := by simpa [lookupOr, leftFound, rightFound] using same
          exact absurd (known left value (listed left value leftFound)) (default ▸ apart right)
      | some other =>
          have values : value = other := by simpa [lookupOr, leftFound, rightFound] using same
          have entries := List.inj_on_of_nodup_map distinct (listed left value leftFound) (listed right other rightFound) values
          exact congrArg Prod.fst entries

end Lookup

end Enumeration
