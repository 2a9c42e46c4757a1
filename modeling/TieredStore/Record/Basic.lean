import TieredStore.Query.Basic

/-!
# Records

A record is a copy of what is stored under an OID, together with the changes that
were made to the copy since it was loaded or saved.  A changed field is staged
with its new value, a removed one with null.

Main results:

- Theorem `Fields.get?_applyDelta`: a delta decides about the fields that it
  mentions and leaves the others alone.
- Theorem `Record.put_invalid`: a put under a bad name fails.
-/

namespace TieredStore

open Std

/-! ## Deltas -/

/-- Sets a field, or removes it if the value is null. -/
def Fields.assign (fields : Fields) (field : String) (value : Value) : Fields :=
  if value.isNull then fields.erase field else fields.insert field value

/-- Applies staged changes to fields. -/
def Fields.applyDelta (delta target : Fields) : Fields :=
  delta.entries.foldl (fun fields e => fields.assign e.1 e.2) target

/-- An assigned field has the value, unless it is null. -/
theorem Fields.get?_assign_self (fields : Fields) (field : String) (value : Value) :
    (fields.assign field value).get? field = if value.isNull then none else some value := by
  unfold assign
  split <;> simp

/-- Assigning a field leaves the others alone. -/
theorem Fields.get?_assign_of_ne (fields : Fields) {field other : String} (value : Value)
    (hne : other ≠ field) : (fields.assign field value).get? other = fields.get? other := by
  unfold assign
  split
  · exact fields.get?_erase_of_ne hne
  · exact fields.get?_insert_of_ne value hne

/-- Assigning one field after the other leaves each with its own value. -/
theorem Fields.get?_foldl_assign (changes : List (String × Value)) (target : Fields)
    (ascending : Ascending changes) (field : String) :
    (changes.foldl (fun fields e => fields.assign e.1 e.2) target).get? field =
      match SortedMap.lookup field changes with
      | some value => if value.isNull then none else some value
      | none => target.get? field := by
  induction changes generalizing target with
  | nil => rfl
  | cons change rest ih =>
    obtain ⟨hhead, hrest⟩ := List.pairwise_cons.1 ascending
    rw [List.foldl_cons, ih _ hrest]
    by_cases hfield : field = change.1
    · have hnone : SortedMap.lookup field rest = none := by
        cases hfound : SortedMap.lookup field rest with
        | none => rfl
        | some value =>
          have hlt := hhead _ (SortedMap.mem_of_lookup hfound)
          subst hfield
          simp at hlt
      subst hfield
      simp [hnone, SortedMap.lookup, get?_assign_self]
    · have hne : compare field change.1 ≠ .eq := fun h => hfield (LawfulEqCmp.eq_of_compare h)
      rw [get?_assign_of_ne _ _ hfield]
      simp [SortedMap.lookup, hne]

/-- A delta decides about the fields that it mentions and leaves the others
alone. -/
theorem Fields.get?_applyDelta (delta target : Fields) (field : String) :
    (delta.applyDelta target).get? field =
      match delta.get? field with
      | some value => if value.isNull then none else some value
      | none => target.get? field :=
  get?_foldl_assign delta.entries target delta.ascending field

/-! ## Records -/

/-- A copy of stored fields with the changes made to it. -/
structure Record where
  oid : Oid
  fields : Fields
  /-- The changes since the copy was loaded or saved; null for a removal. -/
  staged : Fields
  persisted : Bool
  deriving DecidableEq

instance : Row Record := ⟨Record.oid, Record.fields⟩

/-- What is stored when a record is saved: all fields and, for a store that has
the record already, the changes alone. -/
structure RecordUpdate where
  oid : Oid
  fields : Fields
  delta : Fields
  isNew : Bool
  deriving DecidableEq

namespace Record

/-- A record that was never stored. -/
def create (oid : Oid) : Record := ⟨oid, ∅, ∅, false⟩

/-- A record as it is stored; null values stand for absent fields. -/
def loaded (oid : Oid) (fields : Fields) : Record := ⟨oid, fields.present, ∅, true⟩

/-- The value of a field. -/
def get? (r : Record) (field : String) : Option Value := r.fields.get? field

/-- The text of a field that holds a text. -/
def text? (r : Record) (field : String) : Option String := (r.get? field).bind Value.asString?

/-- Changes a field; null removes it. -/
def put (r : Record) (field : String) (value : Value) : Except StoreError Record := do
  checkFieldName field
  .ok { r with fields := r.fields.assign field value, staged := r.staged.insert field value }

/-- Removes a field. -/
def remove (r : Record) (field : String) : Except StoreError Record := r.put field .null

/-- Changes several fields one after the other. -/
def putAll (r : Record) (changes : List (String × Value)) : Except StoreError Record :=
  changes.foldlM (fun r e => r.put e.1 e.2) r

/-- Whether there is anything to store. -/
def isDirty (r : Record) : Bool := !r.persisted || !r.staged.isEmpty

/-- The update that stores the record. -/
def pendingUpdate (r : Record) : RecordUpdate := ⟨r.oid, r.fields, r.staged, !r.persisted⟩

/-- The record after it was stored. -/
def markSaved (r : Record) : Record := { r with staged := ∅, persisted := true }

/-- Equality of records by the equality of their values. -/
def equals (a b : Record) : Bool :=
  a.oid == b.oid && a.fields.equals b.fields && a.staged.equals b.staged &&
    a.persisted == b.persisted

/-- A put under a bad name fails. -/
theorem put_invalid (r : Record) {field : String} (value : Value)
    (h : isFieldName field = false) : r.put field value = .error (.invalidField field) := by
  simp [put, checkFieldName, h, bind, Except.bind]

/-- A put under a good name changes and stages the field. -/
theorem put_valid (r : Record) {field : String} (value : Value)
    (h : isFieldName field = true) :
    r.put field value = .ok { r with
      fields := r.fields.assign field value, staged := r.staged.insert field value } := by
  simp [put, checkFieldName, h, bind, Except.bind]

/-- A saved record has nothing to store. -/
@[simp] theorem isDirty_markSaved (r : Record) : r.markSaved.isDirty = false := rfl

end Record

end TieredStore
