import TieredStore.Record.Calls

/-!
# Tables of records

The records of one store in memory, by OID.

Main results:

- Theorem `RecordTable.get?_apply_of_ne`: an update concerns its own record only.
- Theorem `RecordTable.get?_apply_new`: an update of a record that is new to the
  store leaves all of its fields.
-/

namespace TieredStore

/-- The fields of records by OID. -/
abbrev RecordTable : Type := SortedMap Oid Fields

namespace RecordTable

/-- Stores an update: the changes alone if the record is there and was stored
before, otherwise all fields. -/
def apply (table : RecordTable) (update : RecordUpdate) : RecordTable :=
  match table.get? update.oid, update.isNew with
  | some fields, false => table.insert update.oid (Fields.applyDelta update.delta fields)
  | _, _ => table.insert update.oid update.fields

/-- The records of a table in the order of their OIDs. -/
def records (table : RecordTable) : List Record :=
  table.entries.map fun e => Record.loaded e.1 e.2

/-- The records that answer a query.  The filter sees the fields as they are
stored. -/
def query (table : RecordTable) (q : Query) : List Record :=
  q.orderAndPage (records (table.filter fun _ fields => q.matchesFields fields))

/-- An update concerns its own record only. -/
theorem get?_apply_of_ne (table : RecordTable) (update : RecordUpdate) {oid : Oid}
    (hne : oid ≠ update.oid) : (table.apply update).get? oid = table.get? oid := by
  unfold apply
  split <;> exact table.get?_insert_of_ne _ hne

/-- An update of a record that is new to the store leaves all of its fields. -/
theorem get?_apply_new (table : RecordTable) (update : RecordUpdate)
    (hnew : table.get? update.oid = none ∨ update.isNew = true) :
    (table.apply update).get? update.oid = some update.fields := by
  unfold apply
  split
  · rename_i fields hget hisNew
    rcases hnew with h | h
    · rw [hget] at h
      cases h
    · rw [hisNew] at h
      cases h
  · exact table.get?_insert_self _ _

/-! ## Answering calls -/

/-- How a table answers calls. -/
def answer : Handler RecordCall RecordTable
  | .lifecycle .setup => pure ()
  | .lifecycle .destroy => Action.write ∅
  | .lifecycle .clear => Action.write ∅
  | .lifecycle .maintenance => pure ()
  | .get oid => fun table => (.ok ((table.get? oid).map (Record.loaded oid)), table)
  | .apply update => Action.update fun table => table.apply update
  | .remove oid => Action.update fun table => table.erase oid
  | .keys => fun table => (.ok table.keys, table)
  | .query q => do
    Action.ofExcept q.validate
    fun table => (.ok (table.query q), table)

end RecordTable

end TieredStore
