import TieredStore.Program
import TieredStore.Record.Basic

/-!
# Calls to stores of records

The calls that a store of records answers, and what follows from them.

Main results:

- Theorem `Records.save_of_clean`: saving a record without changes makes no call.
-/

namespace TieredStore

/-- A call to a store of records. -/
inductive RecordCall where
  /-- A call that concerns the store as a whole. -/
  | lifecycle (op : Lifecycle)
  | get (oid : Oid)
  | apply (update : RecordUpdate)
  /-- Removes the record under an OID, if there is one. -/
  | remove (oid : Oid)
  | keys
  | query (q : Query)

namespace RecordCall

/-- What a call is replied with. -/
@[reducible] def Reply : RecordCall → Type
  | .lifecycle _ => Unit
  | .get _ => Option Record
  | .apply _ => Unit
  | .remove _ => Unit
  | .keys => List Oid
  | .query _ => List Record

instance : Interface RecordCall := ⟨Reply⟩

/-- The name of a call. -/
def name : RecordCall → String
  | .lifecycle op => op.name
  | .get _ => "get"
  | .apply _ => "apply"
  | .remove _ => "remove"
  | .keys => "keys"
  | .query _ => "query"

end RecordCall

namespace Records

/-- The record under an OID. -/
def record? (oid : Oid) : Program RecordCall (Option Record) := .ofCall (RecordCall.get oid)

/-- Stores an update. -/
def apply (update : RecordUpdate) : Program RecordCall Unit := .ofCall (RecordCall.apply update)

/-- Removes a record. -/
def remove (oid : Oid) : Program RecordCall Unit := .ofCall (RecordCall.remove oid)

/-- The OIDs of all records. -/
def keys : Program RecordCall (List Oid) := .ofCall RecordCall.keys

/-- The records that answer a query. -/
def query (q : Query) : Program RecordCall (List Record) := .ofCall (RecordCall.query q)

/-- Whether there is a record under an OID. -/
def contains (oid : Oid) : Program RecordCall Bool := do
  let found ← record? oid
  pure found.isSome

/-- The records under some OIDs, those that are missing left out. -/
def records : List Oid → Program RecordCall (List Record)
  | [] => pure []
  | oid :: rest => do
    let found ← record? oid
    let others ← records rest
    pure (found.toList ++ others)

/-- The first record that answers a query. -/
def first? (q : Query) : Program RecordCall (Option Record) := do
  let found ← query q.first
  pure found.head?

/-- All records, in the order of their keys. -/
def all : Program RecordCall (List Record) := do
  let oids ← keys
  records oids

/-- Stores the changes of a record and gives the record without them; a record
without changes is left alone. -/
def save (r : Record) : Program RecordCall Record :=
  if r.isDirty then do
    apply r.pendingUpdate
    pure r.markSaved
  else pure r

/-- Removes records one after the other. -/
def removeAll : List Oid → Program RecordCall Unit
  | [] => pure ()
  | oid :: rest => do
    remove oid
    removeAll rest

/-- Saving a record without changes makes no call. -/
theorem save_of_clean {r : Record} (h : r.isDirty = false) : save r = .done r := by
  simp [save, h]
  rfl

end Records

end TieredStore
