import TieredStore.Storage.Store

/-!
# Stores of entries

A base store of entries is a table in memory that follows the clock of the
storage.

Main results:

- Theorem `EntryStore.perform_memory`: a store in memory answers from its table at
  the time of the clock.
-/

namespace TieredStore

/-- A store of entries that is no composition. -/
structure EntryBase (V : Type) where
  name : String
  table : Ref (EntryTable V)
  deriving DecidableEq

/-- A type of values that entries hold. -/
class EntryValue (V : Type) where
  /-- The entry value that a value stands for. -/
  ofValue? : Value → Option V

instance : EntryValue String := ⟨Value.asString?⟩

instance : EntryValue Int64 := ⟨fun v => match v with
  | .int i => some i
  | _ => none⟩

namespace EntryBase

variable {V : Type} [DecidableEq V] [Stored (EntryTable V)]

/-- How a base store answers calls. -/
def answer (store : EntryBase V) : Handler (EntryCall V) Storage := fun call => do
  let now ← Storage.now
  Storage.onCell store.table (EntryTable.answer now call)

/-- A rival puts its value under the key of a compare-and-set. -/
def rivalCall [EntryValue V] (value : Value) : EntryCall V → Option (EntryCall V)
  | .compareAndSet key _ _ => (EntryValue.ofValue? value).map fun v => .put key (some v) 0
  | _ => none

end EntryBase

instance {V : Type} [DecidableEq V] [Stored (EntryTable V)] [EntryValue V] :
    StoreKind (EntryCall V) where
  Base := EntryBase V
  baseName := EntryBase.name
  answer := EntryBase.answer
  callName := EntryCall.name
  throughLayers lower := Stack.throughEntryLayers 0 (Stack.lowerPlaces lower)
  rivalCall := EntryBase.rivalCall

/-- A store of entries. -/
abbrev EntryStore (V : Type) : Type := Store (EntryBase V)

namespace EntryStore

variable {V : Type} [DecidableEq V] [Stored (EntryTable V)] [EntryValue V]

/-- The name of a store. -/
def name (store : EntryStore V) : String := @Store.name (EntryCall V) _ _ store

/-- How a store answers calls. -/
def perform (store : EntryStore V) : Handler (EntryCall V) Storage :=
  @Store.perform (EntryCall V) _ _ store

/-- Runs a program against a store. -/
def run {α : Type} (store : EntryStore V) (p : Program (EntryCall V) α) : Action Storage α :=
  p.run store.perform

omit [DecidableEq V] [EntryValue V] in
/-- A new store in memory. -/
def newMemory (name : String) : Action Storage (EntryStore V) := do
  let table ← Storage.alloc (∅ : EntryTable V)
  pure (.base ⟨name, table⟩)

omit [DecidableEq V] [EntryValue V] [Stored (EntryTable V)] in
/-- The table of a store in memory, seen through guards. -/
def table? : EntryStore V → Option (Ref (EntryTable V))
  | .base store => some store.table
  | .guarded _ inner => table? inner
  | .stack _ _ _ => none

/-- A store in memory answers from its table at the time of the clock. -/
theorem perform_memory (store : EntryBase V) (call : EntryCall V) :
    perform (.base store) call = store.answer call := by
  rw [perform, Store.perform]
  rfl

end EntryStore

/-- Adds to a value and gives the new one.  Only a rival makes an attempt fail, and
each guard has one at most, so one attempt more than there are guards is
enough. -/
def EntryStore.increment (store : EntryStore Int64) (key : String) (delta : Int64) :
    Action Storage (Option Int64) := do
  let storage ← Action.read
  store.run (Entries.increment key delta (storage.guards.size + 1))

end TieredStore
