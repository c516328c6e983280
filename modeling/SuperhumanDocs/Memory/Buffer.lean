import SuperhumanDocs.Memory.Triple

/-!
# Growing arrays

A buffer keeps its items in one block and moves them to a larger one when there is no room, which
leaves every pointer to an item dangling. As long as there is room the block stays where it is.

* `IsBuffer.reserve`, `IsBuffer.push`: after room for `n` items was reserved, `n` of them can be
  pushed and pointed to.
-/

set_option autoImplicit false

namespace Memory

/-- The block of the items, with room for `capacity`. -/
structure Buffer where
  block : Option ℕ
  capacity : ℕ

namespace Buffer

def empty : Buffer where
  block := none
  capacity := 0

variable {β : Type} (α : Type) [Storable β (List α)]

def items (buffer : Buffer) : Program β (List α) :=
  match buffer.block with
  | none => pure []
  | some address => deref (List α) address

def destroy (buffer : Buffer) : Program β Unit :=
  match buffer.block with
  | none => pure ()
  | some address => do
    let _ ← unbox (List α) address

variable [Allocator β]

/-- Move the items to a block with more room. -/
def relocate (buffer : Buffer) (capacity : ℕ) : Program β Buffer := do
  let items ← buffer.items α
  buffer.destroy α
  return { block := some (← box β items), capacity }

def reserve (buffer : Buffer) (count : ℕ) : Program β Buffer :=
  if count ≤ buffer.capacity then pure buffer else buffer.relocate α count

variable {α}

/-- Push an item; the address of its block and its index in it come with the buffer. -/
def push (buffer : Buffer) (item : α) : Program β (Buffer × ℕ × ℕ) := do
  let size := (← buffer.items α).length
  let buffer ← (if size < buffer.capacity then pure buffer
    else buffer.relocate α (2 * buffer.capacity + 1))
  match buffer.block with
  | none => undefinedBehaviour
  | some address => do
    let items ← deref (List α) address
    assign address (items ++ [item])
    return (buffer, address, items.length)

end Buffer

variable {β α : Type} [Storable β (List α)]

/-- A buffer of items with its block. -/
inductive IsBuffer : Buffer → List α → Owned β → Prop
  | empty : IsBuffer .empty [] 0
  | block (address : ℕ) {capacity : ℕ} {items : List α} (h : items.length ≤ capacity) :
    IsBuffer { block := some address, capacity } items (cell address (Storable.store items))

namespace IsBuffer

variable {buffer : Buffer} {items : List α} {own : Owned β}

theorem items_spec (h : IsBuffer buffer items own) :
    Triple own (buffer.items α) (Leaves items own) := by
  cases h with
  | empty => exact Triple.pure ⟨rfl, rfl⟩
  | block address h => exact Triple.deref address items

theorem destroy (h : IsBuffer buffer items own) :
    Triple own (buffer.destroy α) (Leaves () 0) := by
  cases h with
  | empty => exact Triple.pure ⟨rfl, rfl⟩
  | block address h => exact (Triple.unbox address items).leaves_bind (Triple.pure ⟨rfl, rfl⟩)

variable [Allocator β]

theorem reserve (h : IsBuffer buffer items own) (count : ℕ) :
    Triple own (buffer.reserve α count) fun buffer own =>
      IsBuffer buffer items own ∧ count ≤ buffer.capacity := by
  unfold Buffer.reserve
  by_cases hroom : count ≤ buffer.capacity
  · rw [if_pos hroom]
    exact Triple.pure ⟨h, hroom⟩
  · rw [if_neg hroom]
    have hlength : items.length ≤ count := by
      cases h with
      | empty => exact Nat.zero_le _
      | block address h => exact h.trans (Nat.le_of_not_le hroom)
    refine h.items_spec.leaves_bind (h.destroy.leaves_bind ?_)
    refine (Triple.alloc _).bind fun address own hown => Triple.pure ⟨?_, Nat.le_refl _⟩
    rw [hown]
    exact .block address hlength

/-- **With room for it an item is pushed in place**, behind the others. -/
theorem push (h : IsBuffer buffer items own) (hroom : items.length < buffer.capacity) (item : α) :
    Triple own (buffer.push item) fun result own => result.1 = buffer ∧
      buffer.block = some result.2.1 ∧ result.2.2 = items.length ∧
      IsBuffer buffer (items ++ [item]) own := by
  unfold Buffer.push
  refine h.items_spec.leaves_bind ?_
  dsimp only
  rw [if_pos hroom, pure_bind]
  cases h with
  | empty => cases hroom
  | block address h =>
    refine (Triple.deref address items).leaves_bind ?_
    refine (Triple.assign address items _).leaves_bind (Triple.pure ⟨rfl, rfl, rfl, ?_⟩)
    exact .block address (by rw [List.length_append]; exact hroom)

end IsBuffer

end Memory
