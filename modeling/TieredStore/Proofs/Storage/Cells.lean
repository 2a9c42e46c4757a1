import TieredStore.Storage.Basic

/-!
# Cells of the storage

Tables of one kind are kept in a heap of their own.  Writing one of them is visible
through its own reference only, and changes neither the clock nor the settings of guards.

Main results:

- Theorems `Storage.cell_setCell_self` and `Storage.cell_setCell_of_ne`: a write is visible through
  its own reference and no other.
- Theorems `Storage.clock_setCell` and `Storage.guards_setCell`: a write to a table leaves the clock
  and the guards alone.
-/

namespace TieredStore

/-- Contents whose heap is a part of the storage apart from the clock and the guards. -/
class StoredApart (α : Type) [Inhabited α] [Stored α] : Prop where
  heap_withHeap : ∀ (heap : Heap α) (s : Storage), Stored.heap (Stored.withHeap heap s) = heap
  clock_withHeap : ∀ (heap : Heap α) (s : Storage), (Stored.withHeap heap s).clock = s.clock
  guards_withHeap : ∀ (heap : Heap α) (s : Storage), (Stored.withHeap heap s).guards = s.guards
  heap_withClock : ∀ (s : Storage) (time : Int64),
    Stored.heap (α := α) { s with clock := time } = Stored.heap s
  heap_withGuards : ∀ (s : Storage) (guards : Heap Guard),
    Stored.heap (α := α) { s with guards } = Stored.heap s

instance : StoredApart RecordTable where
  heap_withHeap _ _ := rfl
  clock_withHeap _ _ := rfl
  guards_withHeap _ _ := rfl
  heap_withClock _ _ := rfl
  heap_withGuards _ _ := rfl

instance : StoredApart (EntryTable String) where
  heap_withHeap _ _ := rfl
  clock_withHeap _ _ := rfl
  guards_withHeap _ _ := rfl
  heap_withClock _ _ := rfl
  heap_withGuards _ _ := rfl

instance : StoredApart (EntryTable Int64) where
  heap_withHeap _ _ := rfl
  clock_withHeap _ _ := rfl
  guards_withHeap _ _ := rfl
  heap_withClock _ _ := rfl
  heap_withGuards _ _ := rfl

namespace Heap

variable {α : Type}

/-- A write allocates no cell. -/
@[simp] theorem size_set (heap : Heap α) (ref : Ref α) (a : α) : (heap.set ref a).size = heap.size :=
  Array.size_setIfInBounds

/-- A write through a reference to no cell is lost. -/
theorem set_of_not_holds {heap : Heap α} {ref : Ref α} (a : α) (h : ¬heap.Holds ref) :
    heap.set ref a = heap := by
  show (⟨heap.cells.setIfInBounds ref.index a⟩ : Heap α) = heap
  rw [Array.setIfInBounds_eq_of_size_le (Nat.not_lt.1 h)]

end Heap

namespace Storage

variable {α : Type} [Inhabited α] [Stored α]

/-- Whether a reference is to a cell of the storage. -/
def Holds (s : Storage) (ref : Ref α) : Prop := (Stored.heap s).Holds ref

instance (s : Storage) (ref : Ref α) : Decidable (s.Holds ref) :=
  inferInstanceAs (Decidable (ref.index < (Stored.heap s).cells.size))

variable [StoredApart α]

/-- A write is visible through its own reference. -/
theorem cell_setCell_self {s : Storage} {ref : Ref α} (a : α) (h : s.Holds ref) :
    (s.setCell ref a).cell ref = a := by
  rw [cell, setCell, StoredApart.heap_withHeap]
  exact Heap.get_set_self a h

/-- A write is not visible through other references. -/
theorem cell_setCell_of_ne (s : Storage) {ref other : Ref α} (a : α) (hne : other ≠ ref) :
    (s.setCell ref a).cell other = s.cell other := by
  rw [cell, setCell, StoredApart.heap_withHeap]
  exact Heap.get_set_of_ne _ a hne

/-- A write neither frees nor allocates a cell. -/
@[simp] theorem holds_setCell_iff {s : Storage} {ref other : Ref α} (a : α) :
    (s.setCell ref a).Holds other ↔ s.Holds other := by
  rw [Holds, setCell, StoredApart.heap_withHeap]
  show other.index < (((Stored.heap s).set ref a).size) ↔ _
  rw [Heap.size_set]
  rfl

/-- A write through a reference to no cell is lost. -/
theorem cell_setCell_of_not_holds {s : Storage} {ref : Ref α} (a : α) (h : ¬s.Holds ref)
    (other : Ref α) : (s.setCell ref a).cell other = s.cell other := by
  rw [cell, setCell, StoredApart.heap_withHeap, Heap.set_of_not_holds a h]
  rfl

/-- A write to a table leaves the clock alone. -/
@[simp] theorem clock_setCell (s : Storage) (ref : Ref α) (a : α) :
    (s.setCell ref a).clock = s.clock :=
  StoredApart.clock_withHeap _ s

/-- A write to a table leaves the guards alone. -/
@[simp] theorem guards_setCell (s : Storage) (ref : Ref α) (a : α) :
    (s.setCell ref a).guards = s.guards :=
  StoredApart.guards_withHeap _ s

/-- Setting the clock leaves the tables alone. -/
theorem cell_withClock (s : Storage) (time : Int64) (ref : Ref α) :
    ({ s with clock := time } : Storage).cell ref = s.cell ref := by
  rw [cell, StoredApart.heap_withClock]
  rfl

/-- Setting the clock neither frees nor allocates a cell. -/
theorem holds_withClock_iff (s : Storage) (time : Int64) {ref : Ref α} :
    ({ s with clock := time } : Storage).Holds ref ↔ s.Holds ref := by
  rw [Holds, StoredApart.heap_withClock]
  rfl

/-- Changing the settings of guards leaves the tables alone. -/
theorem cell_withGuards (s : Storage) (guards : Heap Guard) (ref : Ref α) :
    ({ s with guards } : Storage).cell ref = s.cell ref := by
  rw [cell, StoredApart.heap_withGuards]
  rfl

/-- Changing the settings of guards neither frees nor allocates a cell. -/
theorem holds_withGuards_iff (s : Storage) (guards : Heap Guard) {ref : Ref α} :
    ({ s with guards } : Storage).Holds ref ↔ s.Holds ref := by
  rw [Holds, StoredApart.heap_withGuards]
  rfl

end Storage

end TieredStore
