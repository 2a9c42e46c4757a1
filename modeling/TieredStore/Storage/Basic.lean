import TieredStore.Entry.Table
import TieredStore.Record.Table
import TieredStore.Relational.Database
import TieredStore.Storage.Heap
import TieredStore.Storage.SharedDatabases

/-!
# Storage

Everything that stores keep their contents in: tables of records and entries,
databases, the settings of guards, one clock for all, and the counter of fresh
OIDs.

Main results:

- Theorem `Storage.onCell_apply`: an action on a cell changes that cell only.
- Theorem `Storage.openShared_openShared`: whoever opens a shared database again has the
  same one.
-/

namespace TieredStore

/-- The settings of a guard, which stands before a store and can make it fail. -/
structure Guard where
  /-- The names of the calls that are refused. -/
  refused : List String := []
  /-- A value that a rival writes just before the next compare-and-set. -/
  rival : Option Value := none

instance : Inhabited Guard := ⟨{}⟩

/-- The contents of all stores. -/
structure Storage where
  records : Heap RecordTable := ∅
  texts : Heap (EntryTable String) := ∅
  counters : Heap (EntryTable Int64) := ∅
  databases : Heap Database := ∅
  shared : SharedDatabases := ∅
  guards : Heap Guard := ∅
  clock : Int64 := 0
  drawn : Nat := 0

/-- A type of cell contents, with the heap that holds them. -/
class Stored (α : Type) [Inhabited α] where
  heap : Storage → Heap α
  /-- Storage with another heap of these contents. -/
  withHeap : Heap α → Storage → Storage

instance : Stored RecordTable := ⟨Storage.records, fun heap s => { s with records := heap }⟩

instance : Stored (EntryTable String) := ⟨Storage.texts, fun heap s => { s with texts := heap }⟩

instance : Stored (EntryTable Int64) :=
  ⟨Storage.counters, fun heap s => { s with counters := heap }⟩

instance : Stored Database := ⟨Storage.databases, fun heap s => { s with databases := heap }⟩

instance : Stored Guard := ⟨Storage.guards, fun heap s => { s with guards := heap }⟩

namespace Storage

variable {α β : Type} [Inhabited α] [Stored α]

/-- The contents of a cell. -/
def cell (storage : Storage) (ref : Ref α) : α := (Stored.heap storage).get ref

/-- Storage with other contents of a cell. -/
def setCell (storage : Storage) (ref : Ref α) (a : α) : Storage :=
  Stored.withHeap ((Stored.heap storage).set ref a) storage

/-- An action on the contents of a cell. -/
def onCell (ref : Ref α) (x : Action α β) : Action Storage β :=
  Action.onPart (fun s => s.cell ref) (fun a s => s.setCell ref a) x

/-- Allocates a cell. -/
def alloc (a : α) : Action Storage (Ref α) := fun s =>
  let allocated := (Stored.heap s).alloc a
  (.ok allocated.1, Stored.withHeap allocated.2 s)

/-- Opens the database at a place.  Whoever comes first creates it, if this is possible. -/
def openShared (place : Location.SharedPlace) : Action Storage (Ref Database) := fun s =>
  match s.shared.get? place with
  | some database => (.ok database, s)
  | none =>
    let allocated := s.databases.alloc {}
    match s.shared.insert? place allocated.1 with
    | some shared => (.ok allocated.1, { s with databases := allocated.2, shared })
    | none => (.error (.storage .database), s)

/-- Whoever opens a shared database again has the same one. -/
theorem openShared_openShared (place : Location.SharedPlace) (s : Storage) :
    openShared place (openShared place s).2 = openShared place s := by
  unfold openShared
  cases hget : s.shared.get? place with
  | some database => simp only [hget]
  | none =>
    cases hinsert : s.shared.insert? place (s.databases.alloc {}).1 with
    | some shared => simp only [hinsert, SharedDatabases.get?_insert?_self hinsert]
    | none => simp only [hget, hinsert]

/-- An action on a cell changes that cell only. -/
theorem onCell_apply (ref : Ref α) (x : Action α β) (s : Storage) :
    onCell ref x s = ((x (s.cell ref)).1, s.setCell ref (x (s.cell ref)).2) := rfl

/-- The time. -/
def now : Action Storage Int64 := fun s => (.ok s.clock, s)

/-- Sets the time. -/
def setClock (time : Int64) : Action Storage Unit := Action.update fun s => { s with clock := time }

/-- Moves the time; it starts over at the far end. -/
def advanceClock (span : Int64) : Action Storage Unit :=
  Action.update fun s => { s with clock := s.clock + span }

/-- Draws a fresh OID. -/
def freshOid : Action Storage Oid := fun s =>
  (.ok (Oid.fresh s.drawn), { s with drawn := s.drawn + 1 })

end Storage

end TieredStore
