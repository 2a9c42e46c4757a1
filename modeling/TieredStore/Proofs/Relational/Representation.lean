import TieredStore.Proofs.Binary64.TextRoundTrip
import TieredStore.Proofs.Relational.PushDown
import TieredStore.Record.Table
import TieredStore.Relational.Database

/-!
# Tables of records in a database

The rows that a database keeps under the name of a store represent a table of records:
the listed identifiers are the OIDs of the table, and the field rows of each record are
the rows of its fields that are not null.  Every change to the database keeps this
relation with the same change to the table.

Main results:

- Theorem `FieldRow.value_of_ofValue?`: a value is restored from its row.
- Theorems `Database.Represents.apply`, `Database.Represents.remove` and
  `Database.Represents.deleteStore`: the changes keep the representation.
-/

namespace TieredStore

open Std

/-! ## Values and their rows -/

/-- A value is restored from its row. -/
theorem FieldRow.value_of_ofValue? {v : Value} {row : FieldRow} (h : ofValue? v = some row) :
    row.value = .ok v := by
  cases v with
  | null => cases h
  | bool b => cases b <;> cases h <;> rfl
  | int i =>
    cases h
    have hdecode := decode_int i
    simp only [Value.display] at hdecode
    simp only [value, Value.kind, Value.display, hdecode]
  | float x =>
    cases h
    have hdecode : decode "f" x.text = some (.float x) := by
      simp [decode, Binary64.read?_text]
    simp only [value, Value.kind, Value.display, hdecode]
  | text s =>
    cases h
    rfl

namespace Database

/-! ## What single statements do to rows -/

section Rows

variable (db : Database) {key other : RecordKey} {field name : String}

/-- Writing a field leaves its row, or none for null. -/
theorem row?_writeField_self (key : RecordKey) (field : String) (value : Value) :
    (db.writeField key field value).row? key field = FieldRow.ofValue? value := by
  unfold writeField row?
  split
  · rename_i row hrow
    rw [hrow]
    exact db.fields.get?_insert_self _ _
  · rename_i hrow
    rw [hrow]
    exact db.fields.get?_erase_self _

/-- Writing a field leaves the other fields of its record alone. -/
theorem row?_writeField_of_field_ne (key : RecordKey) (value : Value) (hne : name ≠ field) :
    (db.writeField key field value).row? key name = db.row? key name := by
  have hkey : (⟨key, name⟩ : FieldKey) ≠ ⟨key, field⟩ := fun h => hne (FieldKey.mk.inj h).2
  unfold writeField row?
  split
  · exact db.fields.get?_insert_of_ne _ hkey
  · exact db.fields.get?_erase_of_ne hkey

/-- Writing fields decides about the fields that are written. -/
theorem row?_writeFields_self (key : RecordKey) (changes : Fields) (name : String) :
    (db.writeFields key changes).row? key name =
      match changes.get? name with
      | some value => FieldRow.ofValue? value
      | none => db.row? key name := by
  have hfold : ∀ (entries : List (String × Value)) (db : Database), Ascending entries →
      (entries.foldl (fun db e => db.writeField key e.1 e.2) db).row? key name =
        match SortedMap.lookup name entries with
        | some value => FieldRow.ofValue? value
        | none => db.row? key name := by
    intro entries
    induction entries with
    | nil => exact fun _ _ => rfl
    | cons e rest ih =>
      intro db ascending
      obtain ⟨hhead, hrest⟩ := List.pairwise_cons.1 ascending
      rw [List.foldl_cons, ih _ hrest]
      by_cases hname : name = e.1
      · have hnone : SortedMap.lookup name rest = none := by
          rw [Option.eq_none_iff_forall_ne_some]
          intro value hfound
          have hlt := hhead _ (SortedMap.mem_of_lookup hfound)
          rw [hname, ReflOrd.compare_self] at hlt
          cases hlt
        rw [hnone, hname, row?_writeField_self]
        simp [SortedMap.lookup]
      · have hne : compare name e.1 ≠ .eq := fun h => hname (LawfulEqCmp.eq_of_compare h)
        rw [row?_writeField_of_field_ne db key e.2 hname]
        simp [SortedMap.lookup, hne]
  exact hfold changes.entries db changes.ascending

/-- Deleting the fields of a record leaves no rows of it. -/
theorem row?_deleteFields_self (key : RecordKey) (name : String) :
    (db.deleteFields key).row? key name = none := by
  unfold deleteFields row?
  rw [SortedMap.get?_filter]
  cases db.fields.get? ⟨key, name⟩ <;> simp

/-- Deleting the fields of a record leaves the rows of others alone. -/
theorem row?_deleteFields_of_ne (hne : other ≠ key) (name : String) :
    (db.deleteFields key).row? other name = db.row? other name := by
  unfold deleteFields row?
  rw [SortedMap.get?_filter]
  cases db.fields.get? ⟨other, name⟩ <;> simp [hne]

/-- Deleting a store leaves no rows of its records. -/
theorem row?_deleteStore (key : RecordKey) (name : String) :
    (db.deleteStore key.store).row? key name = none := by
  unfold deleteStore row?
  rw [SortedMap.get?_filter]
  cases db.fields.get? ⟨key, name⟩ <;> simp

/-- Writing a field does not list or drop a record. -/
theorem records_writeField (key : RecordKey) (field : String) (value : Value) :
    (db.writeField key field value).records = db.records ∧
      (db.writeField key field value).ready = db.ready := by
  unfold writeField
  split <;> exact ⟨rfl, rfl⟩

/-- Writing fields does not list or drop a record. -/
theorem records_writeFields (key : RecordKey) (changes : Fields) :
    (db.writeFields key changes).records = db.records ∧
      (db.writeFields key changes).ready = db.ready := by
  unfold writeFields
  induction changes.entries generalizing db with
  | nil => exact ⟨rfl, rfl⟩
  | cons e rest ih =>
    obtain ⟨hrecords, hready⟩ := db.records_writeField key e.1 e.2
    obtain ⟨ihrecords, ihready⟩ := ih (db.writeField key e.1 e.2)
    exact ⟨ihrecords.trans hrecords, ihready.trans hready⟩

end Rows

/-! ## The representation -/

/-- The tables of a database are set up, and those of their rows that belong to a store
represent a table of records. -/
structure Represents (db : Database) (store : String) (table : RecordTable) : Prop where
  ready : db.ready = true
  /-- The listed identifiers are the OIDs of the table. -/
  listed : ∀ identifier, db.records.contains ⟨store, identifier⟩ = true ↔
    ∃ oid : Oid, oid.text = identifier ∧ table.contains oid = true
  /-- The rows of a record are those of its fields; a record that is not in the table has
  none. -/
  rows : ∀ oid field, db.row? (.of store oid) field =
    (table.get? oid).bind fun fields => Condition.rowOf? fields field

/-- A store has no rows in a database whose tables are set up. -/
structure IsBlank (db : Database) (store : String) : Prop where
  ready : db.ready = true
  noRecord : ∀ identifier, db.records.contains ⟨store, identifier⟩ = false
  noRow : ∀ identifier field, db.row? ⟨store, identifier⟩ field = none

namespace Represents

variable {db : Database} {store : String} {table : RecordTable}

/-- A record is listed exactly if it is in the table. -/
theorem contains_of (h : db.Represents store table) (oid : Oid) :
    db.records.contains (.of store oid) = table.contains oid := by
  rw [Bool.eq_iff_iff]
  constructor
  · intro hlisted
    obtain ⟨other, htext, hother⟩ := (h.listed oid.text).1 hlisted
    rw [← Oid.ext_text htext]
    exact hother
  · intro hstored
    exact (h.listed oid.text).2 ⟨oid, rfl, hstored⟩

/-- A store without rows represents the empty table. -/
theorem of_isBlank (h : db.IsBlank store) : db.Represents store ∅ where
  ready := h.ready
  listed identifier := by
    rw [h.noRecord identifier]
    constructor
    · intro hfalse
      cases hfalse
    · rintro ⟨oid, _, hfalse⟩
      cases hfalse
  rows oid field := h.noRow oid.text field

/-- Writing the rows of one record is storing its fields in the table. -/
theorem insert (h : db.Represents store table) {db' : Database} {oid : Oid} {fields : Fields}
    (hready : db'.ready = db.ready)
    (hrecords : ∀ key, db'.records.contains key = true ↔
      key = .of store oid ∨ db.records.contains key = true)
    (hself : ∀ field, db'.row? (.of store oid) field = Condition.rowOf? fields field)
    (hother : ∀ key field, key ≠ .of store oid → db'.row? key field = db.row? key field) :
    db'.Represents store (table.insert oid fields) where
  ready := hready.trans h.ready
  listed identifier := by
    rw [hrecords, h.listed]
    constructor
    · rintro (hkey | ⟨other, htext, hstored⟩)
      · refine ⟨oid, (RecordKey.mk.inj hkey).2.symm, ?_⟩
        rw [SortedMap.contains, SortedMap.get?_insert_self]
        rfl
      · refine ⟨other, htext, ?_⟩
        by_cases hoid : other = oid
        · rw [hoid, SortedMap.contains, SortedMap.get?_insert_self]
          rfl
        · rwa [SortedMap.contains, SortedMap.get?_insert_of_ne _ _ hoid]
    · rintro ⟨other, htext, hstored⟩
      by_cases hoid : other = oid
      · left
        rw [← htext, hoid]
        rfl
      · right
        rw [SortedMap.contains, SortedMap.get?_insert_of_ne _ _ hoid] at hstored
        exact ⟨other, htext, hstored⟩
  rows other field := by
    by_cases hoid : other = oid
    · rw [hoid, SortedMap.get?_insert_self, hself]
      rfl
    · rw [SortedMap.get?_insert_of_ne _ _ hoid, ← h.rows]
      exact hother _ field fun hkey => hoid (RecordKey.of_inj.1 hkey)

/-- A delta on the rows of a record is the delta on its fields. -/
theorem rowOf?_applyDelta (delta fields : Fields) (field : String) :
    Condition.rowOf? (delta.applyDelta fields) field =
      match delta.get? field with
      | some value => FieldRow.ofValue? value
      | none => Condition.rowOf? fields field := by
  unfold Condition.rowOf?
  rw [Fields.get?_applyDelta]
  cases delta.get? field with
  | none => rfl
  | some value => cases value <;> rfl

/-- Replacing the rows of a record stores a snapshot of its fields. -/
theorem writeSnapshot (h : db.Represents store table) (oid : Oid) (fields : Fields) :
    (((db.addRecord (.of store oid)).deleteFields (.of store oid)).writeFields (.of store oid)
      fields).Represents store (table.insert oid fields) := by
  obtain ⟨hrecords, hready⟩ := records_writeFields
    ((db.addRecord (.of store oid)).deleteFields (.of store oid)) (.of store oid) fields
  refine h.insert hready (fun key => ?_) (fun field => ?_) fun key field hne => ?_
  · rw [hrecords, SortedMap.contains_iff, SortedMap.contains_iff]
    show (∃ v, (db.records.insert _ ()).get? key = some v) ↔ _
    by_cases hkey : key = .of store oid
    · simp [hkey, SortedMap.get?_insert_self]
    · simp [hkey, SortedMap.get?_insert_of_ne _ _ hkey]
  · rw [row?_writeFields_self, row?_deleteFields_self]
    unfold Condition.rowOf?
    cases fields.get? field <;> rfl
  · rw [row?_writeFields_of_ne _ _ hne, row?_deleteFields_of_ne _ hne]
    rfl

/-- Writing the changed rows of a record stores a delta. -/
theorem writeDelta (h : db.Represents store table) {oid : Oid} {fields : Fields}
    (hstored : table.get? oid = some fields) (delta : Fields) :
    (db.writeFields (.of store oid) delta).Represents store
      (table.insert oid (delta.applyDelta fields)) := by
  obtain ⟨hrecords, hready⟩ := db.records_writeFields (.of store oid) delta
  refine h.insert hready (fun key => ?_) (fun field => ?_) fun key field hne => ?_
  · rw [hrecords]
    constructor
    · exact Or.inr
    · rintro (hkey | hlisted)
      · rw [hkey, h.contains_of, SortedMap.contains, hstored]
        rfl
      · exact hlisted
  · rw [row?_writeFields_self, rowOf?_applyDelta, h.rows, hstored]
    rfl
  · exact row?_writeFields_of_ne _ _ hne field

/-- Storing an update keeps the representation. -/
theorem apply (h : db.Represents store table) (update : RecordUpdate) :
    (db.apply store update).Represents store (table.apply update) := by
  have hcontains := h.contains_of update.oid
  rw [SortedMap.contains, SortedMap.contains] at hcontains
  unfold Database.apply RecordTable.apply
  simp only [SortedMap.contains, hcontains]
  cases hstored : table.get? update.oid with
  | none => exact h.writeSnapshot update.oid update.fields
  | some fields =>
    cases hnew : update.isNew with
    | true => exact h.writeSnapshot update.oid update.fields
    | false => exact h.writeDelta hstored update.delta

/-- Removing a record keeps the representation. -/
theorem remove (h : db.Represents store table) (oid : Oid) :
    (db.deleteRecord (.of store oid)).Represents store (table.erase oid) where
  ready := h.ready
  listed identifier := by
    rw [SortedMap.contains_iff]
    show (∃ v, (db.records.erase _).get? ⟨store, identifier⟩ = some v) ↔ _
    by_cases hkey : identifier = oid.text
    · have hself : (⟨store, identifier⟩ : RecordKey) = .of store oid := by rw [hkey]; rfl
      rw [hself, SortedMap.get?_erase_self]
      constructor
      · rintro ⟨v, hv⟩
        cases hv
      · rintro ⟨other, htext, hstored⟩
        rw [Oid.ext_text (htext.trans hkey), SortedMap.contains,
          SortedMap.get?_erase_self] at hstored
        cases hstored
    · have hne : (⟨store, identifier⟩ : RecordKey) ≠ .of store oid :=
        fun heq => hkey (RecordKey.mk.inj heq).2
      rw [SortedMap.get?_erase_of_ne _ hne, ← SortedMap.contains_iff, h.listed]
      refine exists_congr fun other => and_congr_right fun htext => ?_
      have hother : other ≠ oid := by
        rintro rfl
        exact hkey htext.symm
      rw [SortedMap.contains, SortedMap.contains, SortedMap.get?_erase_of_ne _ hother]
  rows other field := by
    by_cases hoid : other = oid
    · rw [hoid, SortedMap.get?_erase_self]
      exact row?_deleteFields_self db _ field
    · rw [SortedMap.get?_erase_of_ne _ hoid, ← h.rows]
      exact row?_deleteFields_of_ne db (fun hkey => hoid (RecordKey.of_inj.1 hkey)) field

/-- Deleting a store leaves the empty table. -/
theorem deleteStore (h : db.Represents store table) : (db.deleteStore store).Represents store ∅ :=
  of_isBlank {
    ready := h.ready
    noRecord := by
      intro identifier
      have hnone : (db.deleteStore store).records.get? ⟨store, identifier⟩ = none := by
        unfold Database.deleteStore
        rw [SortedMap.get?_filter]
        cases db.records.get? ⟨store, identifier⟩ <;> simp
      rw [SortedMap.contains, hnone]
      rfl
    noRow := fun identifier field => row?_deleteStore db ⟨store, identifier⟩ field }

end Represents

end Database

end TieredStore
