import TieredStore.Storage.EntryStore
import TieredStore.Storage.RecordStore

/-!
# Stores of any kind

What can be said about a store without knowing what it holds.

Main results:

- Theorem `AnyStore.length_layerNames`: a stack has one name per layer.
-/

namespace TieredStore

/-- A store of one of the three kinds. -/
inductive AnyStore where
  | records (store : RecordStore)
  | texts (store : EntryStore String)
  | counters (store : EntryStore Int64)

/-- The names of the layers of a stack, front layer first; a store that is no stack
has none. -/
def Store.layerNames {Base : Type} (nameOf : Store Base → String) : Store Base → List String
  | .stack _ front lower => (front :: lower).map nameOf
  | _ => []

namespace AnyStore

/-- The name of a store. -/
def name : AnyStore → String
  | .records store => RecordStore.name store
  | .texts store => EntryStore.name store
  | .counters store => EntryStore.name store

/-- A lifecycle call to a store. -/
def lifecycle (op : Lifecycle) : AnyStore → Action Storage Unit
  | .records store => RecordStore.perform store (.lifecycle op)
  | .texts store => EntryStore.perform store (.lifecycle op)
  | .counters store => EntryStore.perform store (.lifecycle op)

/-- The names of the layers of a stack, front layer first. -/
def layerNames : AnyStore → List String
  | .records store => store.layerNames RecordStore.name
  | .texts store => store.layerNames EntryStore.name
  | .counters store => store.layerNames EntryStore.name

/-- The guard of a store that has one. -/
def guard? : AnyStore → Option (Ref Guard)
  | .records store => store.guard?
  | .texts store => store.guard?
  | .counters store => store.guard?

/-- How many records or entries a store in memory holds, expired ones included. -/
def size? (storage : Storage) : AnyStore → Option Nat
  | .records store => (RecordStore.table? store).map fun table => (storage.cell table).size
  | .texts store => (EntryStore.table? store).map fun table => (storage.cell table).size
  | .counters store => (EntryStore.table? store).map fun table => (storage.cell table).size

/-- A stack has one name per layer. -/
theorem length_layerNames (name : String) (front : RecordStore) (lower : List RecordStore) :
    (layerNames (.records (.stack name front lower))).length = lower.length + 1 := by
  simp [layerNames, Store.layerNames]

end AnyStore

end TieredStore
