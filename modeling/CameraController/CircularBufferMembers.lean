import CameraController.CircularBuffer
import CameraController.Lib.BoundedFifo
import CameraController.Lib.Object

set_option autoImplicit false

namespace CameraController

open Effects

namespace CircularBuffer

-- The members as the class declares them: the cells of the array, and pointers
-- that are size_t and that nothing but the code keeps inside it.
structure Members (T : Type) where
  buffer : List T
  writePtr : Nat
  readPtr : Nat
  empty : Bool
deriving DecidableEq, Repr

namespace Members

variable {T : Type}

-- The initialisers of the members, over what the cells hold to begin with.
def construct (cells : List T) : Members T where
  buffer := cells
  writePtr := 0
  readPtr := 0
  empty := true

section Machine

-- w is the width of size_t, and size the template parameter.
variable (w size : Nat)

def sizeT (n : Nat) : Nat := n % 2 ^ w

def minus (a b : Nat) : Nat := (a + (2 ^ w - b)) % 2 ^ w

def unsignedInt (n : Nat) : Nat := n % 2 ^ 32

def toInt (n : Nat) : Int := Int.bmod n (2 ^ 32)

def load (index : Int) : Prog (Members T) String T := do
  let members ← Prog.get
  if 0 ≤ index then
    match members.buffer[index.toNat]? with
    | some elem => pure elem
    | none => Prog.fault .outOfBounds
  else Prog.fault .outOfBounds

def store (index : Nat) (elem : T) : Prog (Members T) String Unit := do
  let members ← Prog.get
  if index < members.buffer.length then
    Prog.modify (fun members => { members with buffer := members.buffer.set index elem })
  else Prog.fault .outOfBounds

-- The reference that is returned is read at once.
def put (elem : T) : Prog (Members T) String T := do
  let before ← Prog.get
  store before.writePtr elem
  let added ← load before.writePtr
  Prog.modify fun members =>
    let readPtr :=
      if members.empty = false ∧ members.writePtr = members.readPtr then sizeT w (members.readPtr + 1) % size
      else members.readPtr
    { members with readPtr := readPtr, writePtr := sizeT w (members.writePtr + 1) % size, empty := false }
  pure added

def count : Prog (Members T) String Nat := do
  let members ← Prog.get
  if members.empty then pure 0
  else if members.writePtr > members.readPtr then pure (minus w members.writePtr members.readPtr)
  else pure (sizeT w (minus w size members.readPtr + members.writePtr))

def get (i : Nat) : Prog (Members T) String T := do
  if i < (← count w size) then
    let members ← Prog.get
    load (toInt (sizeT w (members.readPtr + i) % size))
  else Prog.throw "Index out of range"

-- get() takes an unsigned int, and count() - 1 is a size_t.
def last : Prog (Members T) String T := do
  let n ← count w size
  get w size (unsignedInt (minus w n 1))

def first : Prog (Members T) String T := do
  let members ← Prog.get
  if members.empty = false then load members.readPtr else Prog.throw "CircularBuffer is empty!"

def pop : Prog (Members T) String T := do
  let before ← Prog.get
  if before.empty = false then
    let readPtr := sizeT w (before.readPtr + 1) % size
    Prog.modify (fun members => { members with readPtr := readPtr, empty := readPtr == before.writePtr })
    load before.readPtr
  else Prog.throw "CircularBuffer is empty!"

def isEmpty : Prog (Members T) String Bool := do
  let members ← Prog.get
  pure members.empty

def isFull : Prog (Members T) String Bool := do
  let n ← count w size
  pure (n == size)

structure Shows (members : Members T) (items : List T) : Prop where
  counted : count w size members = .ok items.length members
  emptiness : isEmpty members = .ok items.isEmpty members
  fullness : isFull w size members = .ok (items.length == size) members
  held : ∀ i elem, items[i]? = some elem → get w size i members = .ok elem members
  beyond : ∀ i, items[i]? = none → get w size i members = .threw "Index out of range" members
  oldest : ∀ elem, items.head? = some elem → first members = .ok elem members
  noOldest : items = [] → first members = .threw "CircularBuffer is empty!" members
  newest : ∀ elem, items.getLast? = some elem → last w size members = .ok elem members
  noNewest : items = [] → last w size members = .threw "Index out of range" members
  noPop : items = [] → pop w size members = .threw "CircularBuffer is empty!" members
  writeBelow : members.writePtr < size
  readBelow : members.readPtr < size

inductive Request (T : Type) where
  | put (elem : T)
  | pop
deriving DecidableEq, Repr

def perform : Request T → Prog (Members T) String T
  | .put elem => put w size elem
  | .pop => pop w size

end Machine

section Refinement

variable {size : Nat}

def stored (b : CircularBuffer T size) : Members T where
  buffer := List.ofFn b.buffer
  writePtr := b.writePtr
  readPtr := b.readPtr
  empty := b.empty

@[simp] theorem stored_write (b : CircularBuffer T size) : (stored b).writePtr = b.writePtr := rfl

@[simp] theorem stored_read (b : CircularBuffer T size) : (stored b).readPtr = b.readPtr := rfl

@[simp] theorem stored_empty (b : CircularBuffer T size) : (stored b).empty = b.empty := rfl

theorem construct_stored [NeZero size] (cells : List T) (filled : cells.length = size) :
    ∃ b : CircularBuffer T size, construct cells = stored b ∧ b.contents = [] := by
  subst filled
  refine ⟨{ buffer := fun i => cells[i.val], writePtr := 0, readPtr := 0, empty := true, settled := fun _ => rfl }, ?_,
    contents_empty _ rfl⟩
  simp [construct, stored]

theorem load_stored (b : CircularBuffer T size) (i : Fin size) : load (i : Nat) (stored b) = .ok (b.buffer i) (stored b) := by
  simp [load, Prog.bind_apply, stored]

def overwrite (b : CircularBuffer T size) (i : Fin size) (elem : T) : CircularBuffer T size :=
  { b with buffer := Function.update b.buffer i elem }

theorem store_stored (b : CircularBuffer T size) (i : Fin size) (elem : T) :
    store i elem (stored b) = .ok () (stored (overwrite b i elem)) := by
  have cells : (List.ofFn b.buffer).set i elem = List.ofFn (Function.update b.buffer i elem) := by
    apply List.ext_getElem
    · simp
    · intro j left right
      by_cases here : (i : Nat) = j
      · subst here
        simp
      · have other : (⟨j, by simpa using right⟩ : Fin size) ≠ i := fun same => here (congrArg Fin.val same).symm
        simp [List.getElem_set_ne here, Function.update_of_ne other]
  simp [store, Prog.bind_apply, stored, overwrite, cells]

section Widths

variable (w : Nat) (word : 32 ≤ w)

include word

theorem below_word (n : Nat) (small : n < 2 ^ 32) : n < 2 ^ w :=
  Nat.lt_of_lt_of_le small (Nat.pow_le_pow_right (by decide) word)

theorem size_t_small (n : Nat) (small : n < 2 ^ 32) : sizeT w n = n := Nat.mod_eq_of_lt (below_word w word n small)

theorem minus_small (a b : Nat) (small : a < 2 ^ 32) (order : b ≤ a) : minus w a b = a - b := by
  have fits := below_word w word a small
  have split : a + (2 ^ w - b) = (a - b) + 2 ^ w := by omega
  rw [minus, split, Nat.add_mod_right, Nat.mod_eq_of_lt (by omega)]

end Widths

theorem to_int_small (n : Nat) (small : n < 2 ^ 31) : toInt n = n := Int.bmod_eq_of_le (by omega) (by omega)

theorem empty_contents (b : CircularBuffer T size) : b.contents.isEmpty = b.empty := by
  rw [Bool.eq_iff_iff, List.isEmpty_iff, b.empty_iff, ← contents_length, List.length_eq_zero_iff]

theorem pop_empty (b : CircularBuffer T size) (empty : b.empty = true) : b.pop = .error "CircularBuffer is empty!" := by
  simp [CircularBuffer.pop, empty]

theorem first_contents (b : CircularBuffer T size) : first (stored b) =
    match b.contents.head? with
    | some elem => .ok elem (stored b)
    | none => .threw "CircularBuffer is empty!" (stored b) := by
  have none := b.empty_iff
  rw [first, Prog.bind_ok _ _ _ _ _ (Prog.get_apply _), stored_empty]
  by_cases holding : b.empty = false
  · have within : 0 < b.contents.length := by
      rw [contents_length]
      by_contra zero
      simp [holding] at none
      omega
    rw [if_pos holding, List.head?_eq_getElem?, List.getElem?_eq_getElem within, contents_get, forward_zero]
    exact load_stored b b.readPtr
  · rw [if_neg holding, contents_empty b (by simpa using holding)]
    rfl

section Operations

variable (w : Nat) (word : 32 ≤ w) (bound : size ≤ 2 ^ 31) (b : CircularBuffer T size)

include word bound

theorem forward_stored (ptr : Fin size) (i : Nat) (small : i ≤ size) : sizeT w (ptr + i) % size = (forward ptr i : Fin size) := by
  have inside := ptr.isLt
  rw [size_t_small w word _ (by omega)]
  rfl

theorem count_stored : count w size (stored b) = .ok b.count (stored b) := by
  have read := b.readPtr.isLt
  have write := b.writePtr.isLt
  simp only [count, CircularBuffer.count, Prog.bind_apply, Prog.get_apply, stored]
  by_cases empty : b.empty = true
  · simp [empty]
  · by_cases greater : b.writePtr.val > b.readPtr.val
    · simp [empty, greater, minus_small w word b.writePtr.val b.readPtr.val (by omega) (by omega)]
    · simp [empty, greater, minus_small w word size b.readPtr.val (by omega) (by omega)]
      exact size_t_small w word _ (by omega)

theorem put_stored (elem : T) : put w size elem (stored b) = .ok elem (stored (b.put elem)) := by
  have inside := b.writePtr.isLt
  have write := forward_stored w word bound b.writePtr 1 (by omega)
  have read := forward_stored w word bound b.readPtr 1 (by omega)
  have cell : load (b.writePtr : Nat) (stored (overwrite b b.writePtr elem)) = .ok elem (stored (overwrite b b.writePtr elem)) := by
    rw [load_stored]
    simp [overwrite]
  rw [put, Prog.bind_ok _ _ _ _ _ (Prog.get_apply _), stored_write,
    Prog.bind_ok _ _ _ _ _ (store_stored b b.writePtr elem), Prog.bind_ok _ _ _ _ _ cell, Prog.bind_apply]
  by_cases met : b.empty = false ∧ b.writePtr = b.readPtr
  · simp [stored, overwrite, CircularBuffer.put, met, read]
  · have apart : ¬ (b.empty = false ∧ b.writePtr.val = b.readPtr.val) := fun both => met ⟨both.1, Fin.ext both.2⟩
    simp [stored, overwrite, CircularBuffer.put, met, apart, write]

theorem pop_stored : pop w size (stored b) =
    match b.pop with
    | .ok popped => .ok popped.1 (stored popped.2)
    | .error what => .threw what (stored b) := by
  have inside := b.readPtr.isLt
  have read := forward_stored w word bound b.readPtr 1 (by omega)
  rw [pop, Prog.bind_ok _ _ _ _ _ (Prog.get_apply _), stored_empty]
  by_cases holding : b.empty = false
  · have cell := load_stored b.advance b.readPtr
    have same : (forward b.readPtr 1 == b.writePtr) = ((forward b.readPtr 1).val == b.writePtr.val) := by
      rw [Bool.eq_iff_iff, beq_iff_eq, beq_iff_eq, Fin.ext_iff]
    have moved : (⟨(stored b).buffer, b.writePtr, (forward b.readPtr 1).val, (forward b.readPtr 1).val == b.writePtr.val⟩ :
        Members T) = stored b.advance := by
      simp [stored, advance, same]
    rw [if_pos holding, Prog.bind_apply, Prog.modify_apply]
    simp only [stored_read, stored_write, read, moved, CircularBuffer.pop, if_pos holding]
    exact cell
  · rw [if_neg holding, CircularBuffer.pop, if_neg holding]
    rfl

theorem get_stored (i : Nat) : get w size i (stored b) =
    if i < b.count then .ok (b.buffer (forward b.readPtr i)) (stored b) else .threw "Index out of range" (stored b) := by
  have countBound := b.count_bound
  rw [get, Prog.bind_ok _ _ _ _ _ (count_stored w word bound b)]
  by_cases inside : i < b.count
  · have position := forward_stored w word bound b.readPtr i (by omega)
    have narrow : toInt (forward b.readPtr i : Fin size) = ((forward b.readPtr i : Fin size) : Nat) :=
      to_int_small _ (Nat.lt_of_lt_of_le (forward b.readPtr i).isLt bound)
    rw [if_pos inside, if_pos inside, Prog.bind_ok _ _ _ _ _ (Prog.get_apply _)]
    have loaded := load_stored b (forward b.readPtr i)
    rw [← loaded, ← narrow, ← position]
    rfl
  · rw [if_neg inside, if_neg inside]
    rfl

theorem get_contents (i : Nat) : get w size i (stored b) =
    match b.contents[i]? with
    | some elem => .ok elem (stored b)
    | none => .threw "Index out of range" (stored b) := by
  rw [get_stored w word bound b i]
  by_cases inside : i < b.count
  · have within : i < b.contents.length := by rwa [contents_length]
    rw [if_pos inside, List.getElem?_eq_getElem within, contents_get]
  · have beyond : b.contents.length ≤ i := by rw [contents_length]; omega
    rw [if_neg inside, List.getElem?_eq_none beyond]

theorem last_contents : last w size (stored b) =
    match b.contents.getLast? with
    | some elem => .ok elem (stored b)
    | none => .threw "Index out of range" (stored b) := by
  have countBound := b.count_bound
  rw [last, Prog.bind_ok _ _ _ _ _ (count_stored w word bound b), get_contents w word bound b]
  by_cases none : b.count = 0
  · have nothing : b.contents = [] := List.length_eq_zero_iff.mp (by rw [contents_length, none])
    rw [nothing, none]
    rfl
  · have index : unsignedInt (minus w b.count 1) = b.contents.length - 1 := by
      rw [minus_small w word _ _ (by omega) (by omega), contents_length]
      exact Nat.mod_eq_of_lt (by omega)
    rw [index, List.getLast?_eq_getElem?]

theorem stored_shows : Shows w size (stored b) b.contents where
  counted := by rw [count_stored w word bound b, contents_length]
  emptiness := by rw [empty_contents b]; rfl
  fullness := by rw [isFull, Prog.bind_ok _ _ _ _ _ (count_stored w word bound b), contents_length, Prog.pure_apply]
  held := fun i elem found => by rw [get_contents w word bound b, found]
  beyond := fun i none => by rw [get_contents w word bound b, none]
  oldest := fun elem found => by rw [first_contents b, found]
  noOldest := fun none => by rw [first_contents b, none]; rfl
  newest := fun elem found => by rw [last_contents w word bound b, found]
  noNewest := fun none => by rw [last_contents w word bound b, none]; rfl
  noPop := fun none => by rw [pop_stored w word bound b, pop_empty b (by rw [← empty_contents b, none]; rfl)]
  writeBelow := b.writePtr.isLt
  readBelow := b.readPtr.isLt

def respond [NeZero size] (request : Request T) (q : BoundedFifo T size) : Except String T × BoundedFifo T size :=
  match request with
  | .put elem => (.ok elem, q.push elem)
  | .pop =>
      match q.pop with
      | some popped => (.ok popped.1, popped.2)
      | none => (.error "CircularBuffer is empty!", q)

def Represents (members : Members T) (q : BoundedFifo T size) : Prop :=
  ∃ b : CircularBuffer T size, members = stored b ∧ b.contents = q.items

theorem request_represents [NeZero size] (request : Request T) (members : Members T) (q : BoundedFifo T size)
    (represents : Represents members q) : (perform w size request members).Gives (respond request q).1
      (fun after => Represents after (respond request q).2) := by
  obtain ⟨b, rfl, holds⟩ := represents
  cases request with
  | put elem =>
      refine ⟨stored (b.put elem), put_stored w word bound b elem, b.put elem, rfl, ?_⟩
      have full : b.isFull = q.full := by rw [BoundedFifo.full, ← holds, contents_length]; rfl
      rw [contents_put, holds, full]
      rfl
  | pop =>
      have popped := pop_stored w word bound b
      cases items : q.items with
      | nil =>
          have empty : b.empty = true := by rw [← empty_contents b, holds, items]; rfl
          rw [pop_empty b empty] at popped
          simp only [respond, q.pop_nil items]
          exact ⟨stored b, popped, b, rfl, holds⟩
      | cons x rest =>
          obtain ⟨next, taken, left⟩ := q.pop_cons x rest items
          obtain ⟨after, removed, contents⟩ := pop_contents b x rest (holds.trans items)
          rw [removed] at popped
          simp only [respond, taken]
          exact ⟨stored after, popped, after, rfl, contents.trans left.symm⟩

end Operations

-- Any sequence of calls on a fresh buffer, whatever its cells hold, is answered
-- as by a queue of at most Size elements, and the buffer shows that queue.
theorem refines_bounded_fifo (w : Nat) (word : 32 ≤ w) [NeZero size] (bound : size ≤ 2 ^ 31) (cells : List T)
    (filled : cells.length = size) (requests : List (Request T)) :
    ∃ members, serve (perform w size) requests (construct cells) =
        some ((answer respond requests (BoundedFifo.empty : BoundedFifo T size)).1, members) ∧
      Shows w size members (answer respond requests (BoundedFifo.empty : BoundedFifo T size)).2.items := by
  obtain ⟨b, start, none⟩ : ∃ b : CircularBuffer T size, construct cells = stored b ∧ b.contents = [] :=
    construct_stored cells filled
  obtain ⟨members, served, c, rfl, holds⟩ := serve_simulates (perform w size) respond Represents
    (request_represents w word bound) requests (construct cells) BoundedFifo.empty ⟨b, start, none⟩
  refine ⟨stored c, served, ?_⟩
  rw [← holds]
  exact stored_shows w word bound c

theorem refines_bounded_fifo_overwriting :
    ∃ members, serve (perform 32 2) [.put 1, .put 2, .put 3, .pop, .pop, .pop] (construct [0, 0]) =
        some ((answer respond [.put 1, .put 2, .put 3, .pop, .pop, .pop] (BoundedFifo.empty : BoundedFifo Nat 2)).1,
          members) ∧
      Shows 32 2 members
        (answer respond [.put 1, .put 2, .put 3, .pop, .pop, .pop] (BoundedFifo.empty : BoundedFifo Nat 2)).2.items :=
  refines_bounded_fifo 32 (by decide) (by decide) [0, 0] rfl [.put 1, .put 2, .put 3, .pop, .pop, .pop]

end Refinement

end Members

end CircularBuffer

end CameraController
