import Mathlib.Algebra.GroupWithZero.Nat
import Mathlib.Logic.Function.Basic

set_option autoImplicit false

namespace CameraController

-- The static_assert on Size is the non-emptiness of Fin size.
structure CircularBuffer (T : Type) (size : Nat) where
  buffer : Fin size → T
  writePtr : Fin size
  readPtr : Fin size
  empty : Bool
  settled : empty = true → writePtr = readPtr

namespace CircularBuffer

variable {T : Type} {size : Nat}

-- The cells of a fresh buffer hold value-initialised elements.
def fresh [Inhabited T] [NeZero size] : CircularBuffer T size where
  buffer := fun _ => default
  writePtr := 0
  readPtr := 0
  empty := true
  settled := fun _ => rfl

def forward (ptr : Fin size) (i : Nat) : Fin size :=
  ⟨(ptr.val + i) % size, Nat.mod_lt _ (Nat.lt_of_le_of_lt (Nat.zero_le ptr.val) ptr.isLt)⟩

def put (b : CircularBuffer T size) (elem : T) : CircularBuffer T size where
  buffer := Function.update b.buffer b.writePtr elem
  writePtr := forward b.writePtr 1
  readPtr := if b.empty = false ∧ b.writePtr = b.readPtr then forward b.readPtr 1 else b.readPtr
  empty := false
  settled := fun contrary => nomatch contrary

def count (b : CircularBuffer T size) : Nat :=
  if b.empty then 0
  else if b.writePtr.val > b.readPtr.val then b.writePtr.val - b.readPtr.val
  else size - b.readPtr.val + b.writePtr.val

def isEmpty (b : CircularBuffer T size) : Bool := b.empty

def isFull (b : CircularBuffer T size) : Bool := b.count == size

def advance (b : CircularBuffer T size) : CircularBuffer T size where
  buffer := b.buffer
  writePtr := b.writePtr
  readPtr := forward b.readPtr 1
  empty := forward b.readPtr 1 == b.writePtr
  settled := fun met => (beq_iff_eq.mp met).symm

-- An error is the text of the range_error.
def pop (b : CircularBuffer T size) : Except String (T × CircularBuffer T size) :=
  if b.empty = false then .ok (b.buffer b.readPtr, b.advance) else .error "CircularBuffer is empty!"

-- The queue that the cells and the two pointers stand for, oldest first.
def contents (b : CircularBuffer T size) : List T :=
  (List.range b.count).map (fun i => b.buffer (forward b.readPtr i))

theorem forward_val (ptr : Fin size) (i : Nat) (bound : i ≤ size) :
    (forward ptr i).val = if ptr.val + i < size then ptr.val + i else ptr.val + i - size := by
  have low := ptr.isLt
  unfold forward
  by_cases inside : ptr.val + i < size
  · rw [if_pos inside]
    exact Nat.mod_eq_of_lt inside
  · rw [if_neg inside]
    simp only [Nat.mod_eq_sub_mod (Nat.not_lt.mp inside)]
    exact Nat.mod_eq_of_lt (by omega)

theorem forward_zero (ptr : Fin size) : forward ptr 0 = ptr := Fin.ext (Nat.mod_eq_of_lt ptr.isLt)

theorem forward_size (ptr : Fin size) : forward ptr size = ptr := by
  apply Fin.ext
  rw [forward_val ptr size (Nat.le_refl size), if_neg (by omega)]
  omega

theorem forward_forward (ptr : Fin size) (i j : Nat) : forward (forward ptr i) j = forward ptr (i + j) := by
  apply Fin.ext
  simp only [forward, Nat.mod_add_mod, Nat.add_assoc]

theorem forward_injective (ptr : Fin size) (i j : Nat) (left : i < size) (right : j < size)
    (same : forward ptr i = forward ptr j) : i = j := by
  have values := congrArg Fin.val same
  rw [forward_val ptr i (by omega), forward_val ptr j (by omega)] at values
  have low := ptr.isLt
  split at values <;> split at values <;> omega

theorem count_bound (b : CircularBuffer T size) : b.count ≤ size := by
  have low := b.writePtr.isLt
  unfold count
  split
  · omega
  · split <;> omega

theorem empty_iff (b : CircularBuffer T size) : b.empty = true ↔ b.count = 0 := by
  have low := b.readPtr.isLt
  unfold count
  cases b.empty with
  | true => simp
  | false =>
      simp only [Bool.false_eq_true, if_false, false_iff]
      split <;> omega

theorem write_forward (b : CircularBuffer T size) (holding : b.empty = false) :
    b.writePtr = forward b.readPtr b.count := by
  apply Fin.ext
  rw [forward_val b.readPtr b.count b.count_bound]
  have readLow := b.readPtr.isLt
  have writeLow := b.writePtr.isLt
  simp only [count, holding, Bool.false_eq_true, if_false]
  split <;> split <;> omega

theorem full_iff (b : CircularBuffer T size) (holding : b.empty = false) :
    b.writePtr = b.readPtr ↔ b.count = size := by
  have position := b.write_forward holding
  have bound := b.count_bound
  have positive : b.count ≠ 0 := fun none => by simp [b.empty_iff.mpr none] at holding
  constructor
  · intro same
    by_contra short
    have back : forward b.readPtr b.count = forward b.readPtr 0 := by rw [← position, same, forward_zero]
    exact positive (forward_injective b.readPtr b.count 0 (by omega) (by omega) back)
  · intro full
    rw [position, full, forward_size]

theorem count_of_write (b : CircularBuffer T size) (holding : b.empty = false) (n : Nat) (positive : 0 < n)
    (bound : n ≤ size) (position : b.writePtr = forward b.readPtr n) : b.count = n := by
  have known := b.write_forward holding
  have countBound := b.count_bound
  have nonzero : b.count ≠ 0 := fun none => by simp [b.empty_iff.mpr none] at holding
  have shifted : forward (forward b.readPtr 1) (b.count - 1) = forward (forward b.readPtr 1) (n - 1) := by
    rw [forward_forward, forward_forward, show 1 + (b.count - 1) = b.count by omega, show 1 + (n - 1) = n by omega]
    rw [← known, position]
  have same := forward_injective (forward b.readPtr 1) (b.count - 1) (n - 1) (by omega) (by omega) shifted
  omega

theorem contents_length (b : CircularBuffer T size) : b.contents.length = b.count := by simp [contents]

theorem contents_get (b : CircularBuffer T size) (i : Nat) (bound : i < b.contents.length) :
    b.contents[i] = b.buffer (forward b.readPtr i) := by simp [contents]

theorem contents_empty (b : CircularBuffer T size) (empty : b.empty = true) : b.contents = [] :=
  List.length_eq_zero_iff.mp (by rw [contents_length, b.empty_iff.mp empty])

theorem contents_fresh [Inhabited T] [NeZero size] : (fresh : CircularBuffer T size).contents = [] :=
  contents_empty fresh rfl

theorem write_position (b : CircularBuffer T size) : b.writePtr = forward b.readPtr b.count := by
  cases empty : b.empty with
  | true => rw [b.settled empty, b.empty_iff.mp empty, forward_zero]
  | false => exact b.write_forward empty

theorem put_open (b : CircularBuffer T size) (elem : T) (space : b.count < size) :
    (b.put elem).readPtr = b.readPtr ∧ (b.put elem).count = b.count + 1 := by
  have kept : (b.put elem).readPtr = b.readPtr := by
    apply if_neg
    rintro ⟨holding, met⟩
    rw [(b.full_iff holding).mp met] at space
    exact Nat.lt_irrefl size space
  refine ⟨kept, count_of_write (b.put elem) rfl (b.count + 1) (Nat.succ_pos b.count) space ?_⟩
  rw [kept, ← forward_forward, ← b.write_position]
  rfl

theorem put_full (b : CircularBuffer T size) (elem : T) (full : b.count = size) :
    (b.put elem).readPtr = forward b.readPtr 1 ∧ (b.put elem).count = size := by
  have positive : 0 < size := Nat.lt_of_le_of_lt (Nat.zero_le _) b.readPtr.isLt
  have holding : b.empty = false := by
    cases empty : b.empty with
    | false => rfl
    | true => rw [b.empty_iff.mp empty] at full; omega
  have met := (b.full_iff holding).mpr full
  have moved : (b.put elem).readPtr = forward b.readPtr 1 := if_pos ⟨holding, met⟩
  refine ⟨moved, count_of_write (b.put elem) rfl size positive (Nat.le_refl size) ?_⟩
  rw [moved, forward_size, ← met]
  rfl

theorem put_cell (b : CircularBuffer T size) (elem : T) (i : Nat) (bound : i < size) :
    (b.put elem).buffer (forward b.readPtr i) = if i = b.count % size then elem else b.buffer (forward b.readPtr i) := by
  have positive : 0 < size := Nat.lt_of_le_of_lt (Nat.zero_le _) b.readPtr.isLt
  have position : b.writePtr = forward b.readPtr (b.count % size) := by
    rw [b.write_position]
    apply Fin.ext
    simp only [forward, Nat.add_mod_mod]
  by_cases here : i = b.count % size
  · rw [if_pos here, here, ← position]
    exact Function.update_self b.writePtr elem b.buffer
  · rw [if_neg here]
    apply Function.update_of_ne
    intro same
    rw [position] at same
    exact here (forward_injective b.readPtr i (b.count % size) bound (Nat.mod_lt _ positive) same)

theorem contents_put (b : CircularBuffer T size) (elem : T) :
    (b.put elem).contents = (if b.isFull then b.contents.tail else b.contents) ++ [elem] := by
  have bound := b.count_bound
  by_cases full : b.count = size
  · have flag : b.isFull = true := beq_iff_eq.mpr full
    obtain ⟨moved, count⟩ := b.put_full elem full
    have positive : 0 < size := Nat.lt_of_le_of_lt (Nat.zero_le _) b.readPtr.isLt
    rw [if_pos flag]
    apply List.ext_getElem
    · simp only [contents_length, count, List.length_append, List.length_tail, full, List.length_singleton]
      omega
    · intro i left right
      rw [contents_length, count] at left
      rw [contents_get, moved, forward_forward]
      by_cases last : i = size - 1
      · have whole : 1 + i = size := by omega
        have wrapped : forward b.readPtr size = forward b.readPtr 0 := by rw [forward_size, forward_zero]
        rw [whole, wrapped, b.put_cell elem 0 positive, full, Nat.mod_self, if_pos rfl, List.getElem_append_right]
        · simp only [List.getElem_singleton]
        · simp only [List.length_tail, contents_length]
          omega
      · have inner : i < b.contents.tail.length := by
          simp only [List.length_tail, contents_length]
          omega
        rw [b.put_cell elem (1 + i) (by omega), full, Nat.mod_self, if_neg (by omega), List.getElem_append_left inner,
          List.getElem_tail, contents_get, Nat.add_comm]
  · have flag : ¬ b.isFull = true := fun same => full (beq_iff_eq.mp same)
    obtain ⟨kept, count⟩ := b.put_open elem (by omega)
    rw [if_neg flag]
    apply List.ext_getElem
    · simp only [contents_length, count, List.length_append, List.length_singleton]
    · intro i left right
      rw [contents_length, count] at left
      rw [contents_get, kept, b.put_cell elem i (by omega), Nat.mod_eq_of_lt (by omega)]
      by_cases last : i = b.count
      · rw [if_pos last, List.getElem_append_right (by rw [contents_length]; omega)]
        simp only [List.getElem_singleton]
      · have inner : i < b.contents.length := by
          rw [contents_length]
          omega
        rw [if_neg last, List.getElem_append_left inner, contents_get]

theorem advance_count (b : CircularBuffer T size) (holding : b.empty = false) : b.advance.count + 1 = b.count := by
  have position := b.write_forward holding
  have bound := b.count_bound
  have positive : b.count ≠ 0 := fun none => by simp [b.empty_iff.mpr none] at holding
  by_cases last : b.count = 1
  · have met : b.advance.empty = true := beq_iff_eq.mpr (by rw [position, last])
    rw [b.advance.empty_iff.mp met, last]
  · have split : forward b.readPtr b.count = forward (forward b.readPtr 1) (b.count - 1) := by
      rw [forward_forward, show 1 + (b.count - 1) = b.count by omega]
    have left : b.advance.empty = false := by
      apply beq_eq_false_iff_ne.mpr
      intro met
      rw [position, split, ← forward_zero (forward b.readPtr 1), forward_forward _ 0, Nat.zero_add] at met
      have none := forward_injective (forward b.readPtr 1) 0 (b.count - 1) (by omega) (by omega) met
      omega
    rw [count_of_write b.advance left (b.count - 1) (by omega) (by omega) (position.trans split)]
    omega

theorem pop_contents (b : CircularBuffer T size) (elem : T) (rest : List T) (holds : b.contents = elem :: rest) :
    ∃ next, b.pop = .ok (elem, next) ∧ next.contents = rest := by
  have count : b.count = rest.length + 1 := by rw [← contents_length, holds, List.length_cons]
  have holding : b.empty = false := by
    cases empty : b.empty with
    | false => rfl
    | true => rw [b.contents_empty empty] at holds; cases holds
  have oldest : b.buffer b.readPtr = elem := by
    have first := b.contents_get 0 (by rw [holds]; exact Nat.succ_pos _)
    rw [forward_zero] at first
    rw [← first]
    simp only [holds, List.getElem_cons_zero]
  have bound := b.count_bound
  refine ⟨b.advance, by rw [pop, if_pos holding, oldest], ?_⟩
  have advanced := b.advance_count holding
  apply List.ext_getElem
  · rw [contents_length]
    omega
  · intro i left right
    have shifted := b.contents_get (i + 1) (by rw [holds]; exact Nat.succ_lt_succ right)
    rw [contents_get, advance, forward_forward, Nat.add_comm 1 i, ← shifted]
    simp only [holds, List.getElem_cons_succ]

end CircularBuffer

end CameraController
