/-!
# Heaps

Cells that are allocated one after the other and read and written through
references.  Two stores that hold the same reference share what is in the cell.

Main results:

- Theorems `Heap.get_set_self` and `Heap.get_set_of_ne`: a write is visible through its
  own reference and no other.
- Theorem `Heap.get_alloc_self`: a new cell holds what it was allocated with.
-/

namespace TieredStore

/-- A reference to a cell that holds an `α`. -/
structure Ref (α : Type) where
  index : Nat

/-- References of one position are one reference. -/
theorem Ref.ext_index {α : Type} {a b : Ref α} (h : a.index = b.index) : a = b := by
  cases a
  cases b
  cases h
  rfl

instance {α : Type} : DecidableEq (Ref α) := fun a b =>
  if h : a.index = b.index then isTrue (Ref.ext_index h)
  else isFalse fun same => h (congrArg Ref.index same)

/-- The cells that hold values of one type. -/
structure Heap (α : Type) where
  cells : Array α

namespace Heap

variable {α : Type}

/-- No cells. -/
def empty : Heap α := ⟨#[]⟩

instance : EmptyCollection (Heap α) := ⟨empty⟩

/-- The number of cells. -/
def size (heap : Heap α) : Nat := heap.cells.size

/-- A heap with one more cell, and the reference to it. -/
def alloc (heap : Heap α) (a : α) : Ref α × Heap α := (⟨heap.cells.size⟩, ⟨heap.cells.push a⟩)

/-- What a cell holds. -/
def get [Inhabited α] (heap : Heap α) (ref : Ref α) : α := (heap.cells[ref.index]?).getD default

/-- Writes a cell. -/
def set (heap : Heap α) (ref : Ref α) (a : α) : Heap α := ⟨heap.cells.setIfInBounds ref.index a⟩

/-- A reference to a cell of the heap. -/
def Holds (heap : Heap α) (ref : Ref α) : Prop := ref.index < heap.cells.size

/-- A write is visible through its own reference. -/
theorem get_set_self [Inhabited α] {heap : Heap α} {ref : Ref α} (a : α) (h : heap.Holds ref) :
    (heap.set ref a).get ref = a := by
  unfold Holds at h
  simp [get, set, h]

/-- A write is not visible through other references. -/
theorem get_set_of_ne [Inhabited α] (heap : Heap α) {ref other : Ref α} (a : α)
    (hne : other ≠ ref) : (heap.set ref a).get other = heap.get other := by
  have hindex : ref.index ≠ other.index := fun h => hne (Ref.ext_index h.symm)
  simp [get, set, Array.getElem?_setIfInBounds_ne hindex]

/-- A new cell holds what it was allocated with. -/
theorem get_alloc_self [Inhabited α] (heap : Heap α) (a : α) :
    (heap.alloc a).2.get (heap.alloc a).1 = a := by
  simp [get, alloc]

/-- Allocation leaves the old cells alone. -/
theorem get_alloc_of_holds [Inhabited α] {heap : Heap α} {ref : Ref α} (a : α)
    (h : heap.Holds ref) : (heap.alloc a).2.get ref = heap.get ref := by
  unfold Holds at h
  simp [get, alloc, Array.getElem?_push, Nat.ne_of_lt h]

end Heap

end TieredStore
