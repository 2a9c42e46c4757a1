import TieredStore.Record.Calls
import TieredStore.Relational.Statement

/-!
# Relational databases

A database keeps records in two tables: one lists the OIDs of each store, the other
has a row per field.  Several stores share the tables, told apart by their names.
Before the tables are set up, every access to them fails.  The tables hold any text
as an identifier; one that is no OID is reported by whoever reads it.

Main results:

- Theorem `Database.row?_writeFields_of_ne`: writing fields of one record concerns
  no other record and no other store.
- Theorem `RecordKey.of_inj`: records of different OIDs have different keys.
-/

namespace TieredStore

open Std

/-! ## Keys of rows -/

/-- The key of a record: the store that it belongs to and the text of its
identifier. -/
structure RecordKey where
  store : String
  /-- The identifier of the record, as it is written. -/
  identifier : String
  deriving DecidableEq

/-- Records are ordered by store and identifier. -/
instance : Ord RecordKey :=
  ⟨compareLex (compareOn RecordKey.store) (compareOn RecordKey.identifier)⟩

instance : TransOrd RecordKey :=
  inferInstanceAs (TransCmp (compareLex (compareOn RecordKey.store)
    (compareOn RecordKey.identifier)))

instance : LawfulEqOrd RecordKey where
  eq_of_compare {a b} h := by
    obtain ⟨hstore, hidentifier⟩ := parts_eq_of_compareLex h
    cases a
    cases b
    cases hstore
    cases hidentifier
    rfl

/-- The key of the record with an OID. -/
def RecordKey.of (store : String) (oid : Oid) : RecordKey := ⟨store, oid.text⟩

/-- Records of different OIDs have different keys. -/
theorem RecordKey.of_inj {store : String} {a b : Oid} :
    RecordKey.of store a = RecordKey.of store b ↔ a = b :=
  ⟨fun h => Oid.ext_text (RecordKey.mk.inj h).2, fun h => h ▸ rfl⟩

/-- The key of a field: the record that it belongs to and its name. -/
structure FieldKey where
  record : RecordKey
  field : String
  deriving DecidableEq

/-- Fields are ordered by record and name. -/
instance : Ord FieldKey := ⟨compareLex (compareOn FieldKey.record) (compareOn FieldKey.field)⟩

instance : TransOrd FieldKey :=
  inferInstanceAs (TransCmp (compareLex (compareOn FieldKey.record) (compareOn FieldKey.field)))

instance : LawfulEqOrd FieldKey where
  eq_of_compare {a b} h := by
    obtain ⟨hrecord, hfield⟩ := parts_eq_of_compareLex h
    cases a
    cases b
    cases hrecord
    cases hfield
    rfl

/-! ## Databases -/

/-- The tables of a database. -/
structure Database where
  ready : Bool := false
  records : SortedMap RecordKey Unit := ∅
  fields : SortedMap FieldKey FieldRow := ∅

namespace Database

instance : Inhabited Database := ⟨{}⟩

/-! ## Statements -/

/-- The row of a field. -/
def row? (db : Database) (key : RecordKey) (field : String) : Option FieldRow :=
  db.fields.get? ⟨key, field⟩

/-- The rows of a record by field name. -/
def rowsOf (db : Database) (key : RecordKey) : List (String × FieldRow) :=
  (db.fields.filter fun k _ => k.record == key).entries.map fun e => (e.1.field, e.2)

/-- Lists a record. -/
def addRecord (db : Database) (key : RecordKey) : Database :=
  { db with records := db.records.insert key () }

/-- Deletes the rows of a record's fields. -/
def deleteFields (db : Database) (key : RecordKey) : Database :=
  { db with fields := db.fields.filter fun k _ => !(k.record == key) }

/-- Deletes a record with its fields. -/
def deleteRecord (db : Database) (key : RecordKey) : Database :=
  { db.deleteFields key with records := db.records.erase key }

/-- Deletes all records of a store with their fields. -/
def deleteStore (db : Database) (store : String) : Database :=
  { db with
    fields := db.fields.filter fun k _ => !(k.record.store == store)
    records := db.records.filter fun k _ => !(k.store == store) }

/-- Writes the row of a field. -/
def putRow (db : Database) (key : RecordKey) (field : String) (row : FieldRow) : Database :=
  { db with fields := db.fields.insert ⟨key, field⟩ row }

/-- Writes a row as it is and lists its record. -/
def insertRow (db : Database) (key : RecordKey) (field : String) (row : FieldRow) : Database :=
  (db.addRecord key).putRow key field row

/-- Writes the value of a field, or deletes its row if the value is null. -/
def writeField (db : Database) (key : RecordKey) (field : String) (value : Value) : Database :=
  match FieldRow.ofValue? value with
  | some row => db.putRow key field row
  | none => { db with fields := db.fields.erase ⟨key, field⟩ }

/-- Writes several fields of a record. -/
def writeFields (db : Database) (key : RecordKey) (changes : Fields) : Database :=
  changes.entries.foldl (fun db e => db.writeField key e.1 e.2) db

/-- Stores an update: the changes alone if the record is listed and was stored
before, otherwise all fields in the place of all old ones. -/
def apply (db : Database) (store : String) (update : RecordUpdate) : Database :=
  let key := RecordKey.of store update.oid
  if db.records.contains key && !update.isNew then db.writeFields key update.delta
  else ((db.addRecord key).deleteFields key).writeFields key update.fields

/-- The keys of a store's records in the order of their identifiers. -/
def keysOf (db : Database) (store : String) : List RecordKey :=
  (db.records.filter fun k _ => k.store == store).keys

/-- The record of a key, restored from its rows.  An identifier that is no OID is
reported, and then the first row that denotes no value. -/
def load (db : Database) (key : RecordKey) : Except StoreError Record := do
  let oid ← Oid.parse key.identifier
  let values ← (db.rowsOf key).mapM fun e => e.2.value.map fun v => (e.1, v)
  .ok (Record.loaded oid (SortedMap.ofList values))

/-- The records of a store that satisfy a condition, in the order of their
identifiers. -/
def select (db : Database) (store : String) (condition : Condition) :
    Except StoreError (List Record) :=
  ((db.keysOf store).filter fun key => condition.holds (db.row? key)).mapM db.load

/-! ## Answering calls -/

/-- Fails if the tables were not set up. -/
def requireReady : Action Database Unit := fun db =>
  (if db.ready then .ok () else .error (.storage .database), db)

/-- A statement that changes the tables. -/
def change (f : Database → Database) : Action Database Unit := do
  requireReady
  Action.update f

/-- A statement that reads the tables. -/
def inspect {α : Type} (f : Database → Except StoreError α) : Action Database α := do
  requireReady
  fun db => (f db, db)

/-- How a database answers the calls of one of its stores.  A query is checked before
the tables are accessed, and its condition must fit a statement. -/
def answer (store : String) : Handler RecordCall Database
  | .lifecycle .setup => Action.update fun db => { db with ready := true }
  | .lifecycle .destroy => change fun db => db.deleteStore store
  | .lifecycle .clear => change fun db => db.deleteStore store
  | .lifecycle .maintenance => pure ()
  | .get oid => inspect fun db =>
    if db.records.contains (.of store oid) then (db.load (.of store oid)).map some else .ok none
  | .apply update => change fun db => db.apply store update
  | .remove oid => change fun db => db.deleteRecord (.of store oid)
  | .keys => inspect fun db => (db.keysOf store).mapM fun key => Oid.parse key.identifier
  | .query q => do
    Action.ofExcept q.validate
    let condition := Condition.ofQuery q
    if condition.isAccepted then
      inspect fun db => (db.select store condition).map q.orderAndPage
    else Action.fail (.storage .database)

/-! ## Small laws -/

/-- Writing a field of one record leaves the rows of others alone. -/
theorem row?_writeField_of_ne (db : Database) {key other : RecordKey} (field : String)
    (value : Value) (hne : other ≠ key) (name : String) :
    (db.writeField key field value).row? other name = db.row? other name := by
  have hkey : (⟨other, name⟩ : FieldKey) ≠ ⟨key, field⟩ := fun h => hne (FieldKey.mk.inj h).1
  unfold writeField putRow row?
  split
  · exact db.fields.get?_insert_of_ne _ hkey
  · exact db.fields.get?_erase_of_ne hkey

/-- Writing fields of one record concerns no other record and no other store. -/
theorem row?_writeFields_of_ne (db : Database) {key other : RecordKey} (changes : Fields)
    (hne : other ≠ key) (name : String) :
    (db.writeFields key changes).row? other name = db.row? other name := by
  unfold writeFields
  induction changes.entries generalizing db with
  | nil => rfl
  | cons e rest ih => rw [List.foldl_cons, ih, row?_writeField_of_ne db _ _ hne]

end Database

end TieredStore
