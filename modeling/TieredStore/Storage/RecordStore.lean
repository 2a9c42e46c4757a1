import TieredStore.Storage.Store

/-!
# Stores of records

A base store of records is a table in memory or the part of a database that
belongs to the store's name.

Main results:

- Theorem `RecordStore.perform_memory`: a store in memory answers from its table.
-/

namespace TieredStore

/-- A store of records that is no composition. -/
inductive RecordBase where
  | memory (name : String) (table : Ref RecordTable)
  /-- The rows under the store's name in a database. -/
  | relational (name : String) (database : Ref Database)
  deriving DecidableEq

namespace RecordBase

/-- The name of a base store. -/
def name : RecordBase → String
  | .memory name _ => name
  | .relational name _ => name

/-- How a base store answers calls. -/
def answer : RecordBase → Handler RecordCall Storage
  | .memory _ table, call => Storage.onCell table (RecordTable.answer call)
  | .relational name database, call => Storage.onCell database (Database.answer name call)

end RecordBase

instance : StoreKind RecordCall where
  Base := RecordBase
  baseName := RecordBase.name
  answer := RecordBase.answer
  callName := RecordCall.name
  throughLayers lower := Stack.throughRecordLayers (Stack.places lower)
  rivalCall _ _ := none

/-- A store of records. -/
abbrev RecordStore : Type := Store RecordBase

namespace RecordStore

/-- The name of a store. -/
def name (store : RecordStore) : String := @Store.name RecordCall _ _ store

/-- How a store answers calls. -/
def perform (store : RecordStore) : Handler RecordCall Storage :=
  @Store.perform RecordCall _ _ store

/-- Runs a program against a store. -/
def run {α : Type} (store : RecordStore) (p : Program RecordCall α) : Action Storage α :=
  p.run store.perform

/-- A new store in memory. -/
def newMemory (name : String) : Action Storage RecordStore := do
  let table ← Storage.alloc (∅ : RecordTable)
  pure (.base (.memory name table))

/-- A store in a database. -/
def inDatabase (name : String) (database : Ref Database) : RecordStore :=
  .base (.relational name database)

/-- The table of a store in memory, seen through guards. -/
def table? : RecordStore → Option (Ref RecordTable)
  | .base (.memory _ table) => some table
  | .guarded _ inner => table? inner
  | _ => none

/-- A store in memory answers from its table. -/
theorem perform_memory (name : String) (table : Ref RecordTable) (call : RecordCall) :
    perform (.base (.memory name table)) call =
      Storage.onCell table (RecordTable.answer call) := by
  rw [perform, Store.perform]
  rfl

/-- A store in a database answers from the rows under its name. -/
theorem perform_relational (name : String) (database : Ref Database) (call : RecordCall) :
    perform (.base (.relational name database)) call =
      Storage.onCell database (Database.answer name call) := by
  rw [perform, Store.perform]
  rfl

end RecordStore

/-- A guard before a store. -/
def Store.guard {Base : Type} (settings : Guard) (inner : Store Base) :
    Action Storage (Store Base) := do
  let guard ← Storage.alloc settings
  pure (.guarded guard inner)

/-- The guard of a store that has one. -/
def Store.guard? {Base : Type} : Store Base → Option (Ref Guard)
  | .guarded guard _ => some guard
  | _ => none

end TieredStore
