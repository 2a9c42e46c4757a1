import TieredStore.Config.Options
import TieredStore.Context.Registry
import TieredStore.Relational.Location
import TieredStore.Storage.EntryStore
import TieredStore.Storage.RecordStore

/-!
# Types of providers

A type of provider makes the layer of a store from the configuration of a
provider, for each kind of store that it serves.
-/

namespace TieredStore

/-- Makes the layer of a named store from a provider's configuration. -/
abbrev LayerMaker (S : Type) : Type := String → ProviderConfig → Action (Registry × Storage) S

/-- A type of provider.  A kind of store that it does not serve has no maker. -/
structure ProviderType where
  records : Option (LayerMaker RecordStore) := none
  texts : Option (LayerMaker (EntryStore String)) := none
  counters : Option (LayerMaker (EntryStore Int64)) := none

/-- The name of a layer: the provider and the store. -/
def ProviderConfig.layerName (p : ProviderConfig) (store : String) : String :=
  p.name ++ ":" ++ store

/-- An action on the storage alone. -/
def Registry.onStorage {α : Type} (x : Action Storage α) : Action (Registry × Storage) α :=
  Action.onPart Prod.snd (fun storage s => (s.1, storage)) x

namespace ProviderType

/-! ## Stores in memory -/

/-- Stores in memory, each by itself. -/
def memory : ProviderType where
  records := some fun store p => do
    let _ ← Action.ofExcept p.memoryOptions
    Registry.onStorage (RecordStore.newMemory (p.layerName store))
  texts := some fun store p => do
    let _ ← Action.ofExcept p.memoryOptions
    Registry.onStorage (EntryStore.newMemory (p.layerName store))
  counters := some fun store p => do
    let _ ← Action.ofExcept p.memoryOptions
    Registry.onStorage (EntryStore.newMemory (p.layerName store))

/-! ## Stores in databases -/

/-- Opens the database at a path, or a new one in memory if there is no path. -/
def openDatabase (path : Option String) : Action Storage (Ref Database) :=
  match path with
  | none => Storage.alloc {}
  | some path =>
    match Location.place? path with
    | some .own => Storage.alloc {}
    | some (.shared place) => Storage.openShared place
    | none => Action.fail (.storage .database)

/-- The name under which the database of a provider is shared: the one that is
configured, else one per path, else one per provider. -/
def connectionName (p : ProviderConfig) (options : DatabaseOptions) : String :=
  match options.connection, options.path with
  | some name, _ => name
  | none, some path => "sqlite:" ++ path
  | none, none => "sqlite:memory:" ++ p.name

/-- Stores of records in databases. -/
def relational : ProviderType where
  records := some fun store p => do
    let options ← Action.ofExcept p.databaseOptions
    let database ← Registry.connect (connectionName p options) (openDatabase options.path)
    pure (RecordStore.inDatabase store database)

/-! ## Stores for trials -/

/-- Stores of records in memory under a name of their own. -/
def tagged : ProviderType where
  records := some fun store _ => Registry.onStorage (RecordStore.newMemory ("tagged-" ++ store))

/-- The calls that the option `fail` lists. -/
def refusedCalls (p : ProviderConfig) : List String :=
  match p.options.get? "fail" with
  | some (.array names) => names.filterMap fun j => match j with
    | .string name => some name
    | _ => none
  | _ => []

/-- Stores of records in memory that refuse the calls listed in their options. -/
def flaky : ProviderType where
  records := some fun store p => Registry.onStorage do
    let inner ← RecordStore.newMemory (p.layerName store)
    Store.guard { refused := refusedCalls p } inner

/-- The types that every context knows. -/
def builtIn : SortedMap String ProviderType :=
  SortedMap.ofList [("memory", memory), ("sqlite", relational)]

/-- The types that are there for trials. -/
def trial : SortedMap String ProviderType :=
  SortedMap.ofList (builtIn.entries ++ [("tagged", tagged), ("flaky", flaky)])

end ProviderType

end TieredStore
