import TieredStore.Storage.Basic

/-!
# Registries of connections

Stores that lie in one database find each other through a registry: the first one
opens a connection under a name, and the others are given the same one.  A name is
bound to the type of client that it was opened for.

Main results:

- Theorem `Registry.connect_of_get`: a connection that is there is shared and
  nothing is opened.
-/

namespace TieredStore

/-- A client's connection. -/
inductive Connection where
  | text (s : String)
  | number (i : Int64)
  | database (ref : Ref Database)
  deriving DecidableEq

/-- A type of client. -/
class Client (α : Type) where
  connection : α → Connection
  /-- The client of a connection of its type. -/
  ofConnection? : Connection → Option α

instance : Client String := ⟨.text, fun c => match c with
  | .text s => some s
  | _ => none⟩

instance : Client Int64 := ⟨.number, fun c => match c with
  | .number i => some i
  | _ => none⟩

instance : Client (Ref Database) := ⟨.database, fun c => match c with
  | .database ref => some ref
  | _ => none⟩

/-- Connections by name. -/
structure Registry where
  connections : SortedMap String Connection := ∅

namespace Registry

instance : EmptyCollection Registry := ⟨{}⟩

/-- The number of connections. -/
def size (registry : Registry) : Nat := registry.connections.size

/-- Whether there is a connection under a name. -/
def contains (registry : Registry) (name : String) : Bool := registry.connections.contains name

/-- The client under a name, if it is of the type that is asked for. -/
def get? {α : Type} [Client α] (registry : Registry) (name : String) : Option α :=
  (registry.connections.get? name).bind Client.ofConnection?

/-- The client under a name, opened if there is none.  A name that is in use for
another type of client is refused, and nothing is noted if opening fails. -/
def connect {α : Type} [Client α] (name : String) (opening : Action Storage α) :
    Action (Registry × Storage) α := fun s =>
  match s.1.connections.get? name with
  | some connection =>
    match Client.ofConnection? connection with
    | some client => (.ok client, s)
    | none => (.error (.configuration (.connectionOfOtherType name)), s)
  | none =>
    match opening s.2 with
    | (.ok client, storage) =>
      (.ok client, ⟨s.1.connections.insert name (Client.connection client)⟩, storage)
    | (.error e, storage) => (.error e, s.1, storage)

/-- Forgets a connection; stores that hold it keep it. -/
def close (registry : Registry) (name : String) : Registry := ⟨registry.connections.erase name⟩

/-- The text of a registry for debugging. -/
def describe (registry : Registry) : String :=
  "ConnectionRegistry \x7b connections: " ++ toString registry.size ++ " \x7d"

/-- A connection that is there is shared and nothing is opened. -/
theorem connect_of_get {α : Type} [Client α] {registry : Registry} {name : String} {client : α}
    (h : registry.get? name = some client) (opening : Action Storage α) (storage : Storage) :
    connect name opening (registry, storage) = (.ok client, registry, storage) := by
  obtain ⟨connection, hget, hclient⟩ := Option.bind_eq_some_iff.1 h
  simp [connect, hget, hclient]

end Registry

end TieredStore
