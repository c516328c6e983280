import Mathlib.Data.Finmap
import Mathlib.Order.Lattice.Nat

/-!
# A heap of blocks

Blocks lie at addresses of a heap. `Program` is a computation over the heap: it has no result where
its behaviour would be undefined, that is where it reads, writes or frees what is not there, or
takes a block for one of another kind.
-/

set_option autoImplicit false

namespace Memory

variable {β α : Type}

/-- A heap: the blocks at their addresses. -/
abbrev Heap (β : Type) := Finmap fun _ : ℕ => β

/-- How addresses are given out: never one that is in use. -/
class Allocator (β : Type) where
  choose : Heap β → ℕ
  choose_notMem : ∀ heap, choose heap ∉ heap

namespace Bump

/-- The address after all that are in use. -/
scoped instance : Allocator β where
  choose heap := heap.keys.sup id + 1
  choose_notMem heap h := by
    have hle : heap.keys.sup id + 1 ≤ heap.keys.sup id :=
      Finset.le_sup (f := id) (Finmap.mem_keys.2 h)
    omega

end Bump

/-- A computation over the heap. -/
abbrev Program (β α : Type) := StateT (Heap β) Option α

def undefinedBehaviour : Program β α := fun _ => none

/-! ## Blocks -/

def alloc [Allocator β] (block : β) : Program β ℕ := fun heap =>
  some (Allocator.choose heap, heap.insert (Allocator.choose heap) block)

def read (address : ℕ) : Program β β := fun heap =>
  (heap.lookup address).map (·, heap)

def write (address : ℕ) (block : β) : Program β Unit := fun heap =>
  if address ∈ heap then some ((), heap.insert address block) else none

/-- Free a block; its content is moved out. -/
def free (address : ℕ) : Program β β := fun heap =>
  (heap.lookup address).map (·, heap.erase address)

/-! ## Values in blocks -/

/-- Blocks of one kind hold the values of a type. -/
class Storable (β : Type) (α : Type) where
  store : α → β
  view : β → Option α
  view_store : ∀ a, view (store a) = some a

variable [Storable β α]

/-- The value in a block of its kind. -/
def cast (block : β) : Program β α :=
  match Storable.view block with
  | some a => pure a
  | none => undefinedBehaviour

variable (β) in
def box [Allocator β] (a : α) : Program β ℕ := alloc (Storable.store a)

variable (α) in
def unbox (address : ℕ) : Program β α := free address >>= cast

variable (α) in
def deref (address : ℕ) : Program β α := read address >>= cast

/-- Overwrite a value with one of its type. -/
def assign (address : ℕ) (a : α) : Program β Unit := do
  let _ ← deref α address
  write address (Storable.store a)

end Memory
