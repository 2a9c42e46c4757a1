import TieredStore.Config.Resolver
import TieredStore.Context.ProviderType
import TieredStore.Membership.Stores

/-!
# Contexts

A context opens stores by name.  The configuration tells the providers of the
layers; the opened stack is kept, so that all who open a name share one store.

Main results:

- Theorem `Context.openStore_of_opened`: a store that is open is shared.
-/

namespace TieredStore

/-- What has been opened under a configuration. -/
structure Context where
  resolver : Resolver
  types : SortedMap String ProviderType
  registry : Registry := ∅
  records : SortedMap String RecordStore := ∅
  texts : SortedMap String (EntryStore String) := ∅
  counters : SortedMap String (EntryStore Int64) := ∅

/-- One kind of store that a context opens. -/
structure Shelf (Base : Type) where
  contract : Contract
  /-- How a type of provider makes them. -/
  maker : ProviderType → Option (LayerMaker (Store Base))
  lifecycle : Store Base → Lifecycle → Action Storage Unit
  opened : Context → SortedMap String (Store Base)
  withOpened : SortedMap String (Store Base) → Context → Context

namespace Shelf

/-- The stores of records. -/
def records : Shelf RecordBase where
  contract := .records
  maker := ProviderType.records
  lifecycle store op := RecordStore.perform store (.lifecycle op)
  opened := Context.records
  withOpened opened context := { context with records := opened }

/-- The stores of texts. -/
def texts : Shelf (EntryBase String) where
  contract := .texts
  maker := ProviderType.texts
  lifecycle store op := EntryStore.perform store (.lifecycle op)
  opened := Context.texts
  withOpened opened context := { context with texts := opened }

/-- The stores of integers. -/
def counters : Shelf (EntryBase Int64) where
  contract := .counters
  maker := ProviderType.counters
  lifecycle store op := EntryStore.perform store (.lifecycle op)
  opened := Context.counters
  withOpened opened context := { context with counters := opened }

end Shelf

namespace Context

/-- A context without open stores. -/
def ofConfig [PatternEngine] (config : StoreConfig) (types : SortedMap String ProviderType) :
    Except StoreError Context :=
  (Resolver.ofConfig config).map fun resolver => { resolver := resolver, types := types }

/-- An action on the storage alone. -/
def onStorage {α : Type} (x : Action Storage α) : Action (Context × Storage) α :=
  Action.onPart Prod.snd (fun storage s => (s.1, storage)) x

/-- An action on the connections and the storage. -/
def onRegistry {α : Type} (x : Action (Registry × Storage) α) : Action (Context × Storage) α :=
  Action.onPart (fun s => (s.1.registry, s.2))
    (fun changed s => ({ s.1 with registry := changed.1 }, changed.2)) x

section Opening

variable {Base : Type} (shelf : Shelf Base)

/-! ## Opening -/

/-- Makes one layer of a store. -/
def makeLayer (store : String) (p : ProviderConfig) : Action (Context × Storage) (Store Base) := do
  let s ← Action.read
  match s.1.types.get? p.kind with
  | none => Action.fail (.configuration (.unknownProviderType p.name p.kind))
  | some type =>
    match shelf.maker type with
    | none => Action.fail (.unsupported p.kind shelf.contract)
    | some make => onRegistry (make store p)

/-- Makes the layers of a store from the front to the back. -/
def makeLayers (store : String) :
    List ProviderConfig → Action (Context × Storage) (List (Store Base))
  | [] => pure []
  | p :: rest => do
    let layer ← makeLayer shelf store p
    let lower ← makeLayers store rest
    pure (layer :: lower)

/-- Makes the stack of a store and sets it up. -/
def build (store : String) : Action (Context × Storage) (Store Base) := do
  let s ← Action.read
  let providers ← Action.ofExcept (s.1.resolver.resolve store)
  let layers ← makeLayers shelf store providers
  let stack ← Action.ofExcept (Store.ofLayers store layers)
  onStorage (shelf.lifecycle stack .setup)
  pure stack

/-- Notes a store as open. -/
def keep (name : String) (store : Store Base) : Action (Context × Storage) Unit :=
  Action.update fun s => (shelf.withOpened ((shelf.opened s.1).insert name store) s.1, s.2)

/-- The store of a name, made and set up unless it is open already. -/
def openStore (name : String) : Action (Context × Storage) (Store Base) := do
  let s ← Action.read
  match (shelf.opened s.1).get? name with
  | some store => pure store
  | none => do
    let store ← build shelf name
    keep shelf name store
    pure store

/-- A store that is open is shared. -/
theorem openStore_of_opened {name : String} {store : Store Base} {s : Context × Storage}
    (h : (shelf.opened s.1).get? name = some store) : openStore shelf name s = (.ok store, s) := by
  simp [openStore, Action.bind_apply, h]

/-! ## The life of open stores -/

/-- A lifecycle call to stores one after the other. -/
def lifecycleAll (op : Lifecycle) : List (Store Base) → Action (Context × Storage) Unit
  | [] => pure ()
  | store :: rest => do
    onStorage (shelf.lifecycle store op)
    lifecycleAll op rest

/-- Runs the maintenance of all open stores of one kind. -/
def maintainShelf : Action (Context × Storage) Unit := do
  let s ← Action.read
  lifecycleAll shelf .maintenance (shelf.opened s.1).values

/-- Forgets the open store of a name and gives it. -/
def forget (name : String) : Action (Context × Storage) (List (Store Base)) := fun s =>
  (.ok ((shelf.opened s.1).get? name).toList,
    shelf.withOpened ((shelf.opened s.1).erase name) s.1, s.2)

end Opening

/-- Opens the stores of a membership. -/
def openMembership (groups members relations : String) :
    Action (Context × Storage) MembershipStores := do
  let groups ← openStore Shelf.records groups
  let members ← openStore Shelf.records members
  let relations ← openStore Shelf.records relations
  pure ⟨groups, members, relations⟩

/-- Runs the maintenance of all open stores; the first failure ends it. -/
def maintenance : Action (Context × Storage) Unit := do
  maintainShelf Shelf.records
  maintainShelf Shelf.texts
  maintainShelf Shelf.counters

/-- Destroys the open stores of a name, and tells whether there were any.  They are
forgotten first, so a failure leaves none of them open. -/
def destroy (name : String) : Action (Context × Storage) Bool := do
  let records ← forget Shelf.records name
  let texts ← forget Shelf.texts name
  let counters ← forget Shelf.counters name
  lifecycleAll Shelf.records .destroy records
  lifecycleAll Shelf.texts .destroy texts
  lifecycleAll Shelf.counters .destroy counters
  pure !(records.isEmpty && texts.isEmpty && counters.isEmpty)

/-- Forgets all open stores and all connections; what is stored stays. -/
def shutdown (context : Context) : Context :=
  { resolver := context.resolver, types := context.types }

end Context

end TieredStore
