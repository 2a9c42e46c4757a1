import TieredStore.Record.Calls

/-!
# Links

A link joins a group and a member.  It is kept as a record with the two OIDs in
fixed fields; any other field may say more about the link.

Main results:

- Theorem `Link.ofRecord?_of_newRecord`: a link is read back from its record.
- Theorem `Relationship.put_fixed`: the fields of the link cannot be written.
-/

namespace TieredStore

open Std

/-- One of the two sides of a link. -/
inductive Side where
  | group
  | member
  deriving DecidableEq

/-- The field that holds the OID of a side. -/
def Side.field : Side → String
  | .group => "groupID"
  | .member => "memberID"

/-- The field of a side has a field name. -/
theorem Side.isFieldName_field (side : Side) : isFieldName side.field = true := by
  cases side <;> decide

/-- A group and a member that belong together. -/
structure Link where
  group : Oid
  member : Oid
  deriving DecidableEq

namespace Link

/-- Links are ordered by group and member. -/
instance : Ord Link := ⟨compareLex (compareOn Link.group) (compareOn Link.member)⟩

instance : TransOrd Link :=
  inferInstanceAs (TransCmp (compareLex (compareOn Link.group) (compareOn Link.member)))

instance : LawfulEqOrd Link where
  eq_of_compare {a b} h := by
    obtain ⟨hgroup, hmember⟩ := parts_eq_of_compareLex h
    cases a
    cases b
    cases hgroup
    cases hmember
    rfl

/-- The OID of a side. -/
def side (link : Link) : Side → Oid
  | .group => link.group
  | .member => link.member

/-- The OID that a record holds for a side. -/
def sideOfRecord? (r : Record) (side : Side) : Option Oid :=
  (r.text? side.field).bind Oid.parse?

/-- The link that a record holds; a record without two OIDs is malformed. -/
def ofRecord? (r : Record) : Option Link := do
  let group ← sideOfRecord? r .group
  let member ← sideOfRecord? r .member
  some ⟨group, member⟩

/-- The condition that a record's field for a side equals an OID. -/
def sidePredicate (side : Side) (oid : Oid) : Predicate :=
  .compare side.field .eq (.text oid.text)

/-- The condition that a record holds a link. -/
def predicate (link : Link) : Predicate :=
  (sidePredicate .group link.group).and (sidePredicate .member link.member)

/-- A new record that holds a link. -/
def newRecord (oid : Oid) (link : Link) : Except StoreError Record :=
  (Record.create oid).putAll
    [(Side.group.field, .text link.group.text), (Side.member.field, .text link.member.text)]

/-- The record of a new link holds its two sides and nothing else. -/
theorem newRecord_eq (oid : Oid) (link : Link) :
    link.newRecord oid = .ok {
      oid := oid
      fields := ((∅ : Fields).insert Side.group.field (.text link.group.text)).insert
        Side.member.field (.text link.member.text)
      staged := ((∅ : Fields).insert Side.group.field (.text link.group.text)).insert
        Side.member.field (.text link.member.text)
      persisted := false } := by
  have hgroup := Side.isFieldName_field .group
  have hmember := Side.isFieldName_field .member
  simp only [newRecord, Record.putAll, List.foldlM_cons, List.foldlM_nil]
  rw [Record.put_valid _ _ hgroup]
  simp only [bind, Except.bind]
  rw [Record.put_valid _ _ hmember]
  rfl

/-- A link is read back from its record. -/
theorem ofRecord?_of_newRecord {oid : Oid} {link : Link} {r : Record}
    (h : link.newRecord oid = .ok r) : ofRecord? r = some link := by
  rw [newRecord_eq] at h
  cases h
  have hne : Side.group.field ≠ Side.member.field := by decide
  simp [ofRecord?, sideOfRecord?, Record.text?, Record.get?, SortedMap.get?_insert_self,
    SortedMap.get?_insert_of_ne _ _ hne, Value.asString?]

end Link

/-! ## Relationships -/

/-- A stored link with its record.  The link is fixed; the other fields of the
record can be changed. -/
structure Relationship where
  record : Record
  link : Link
  deriving DecidableEq

namespace Relationship

/-- The relationship of a record that holds a link. -/
def ofRecord? (r : Record) : Option Relationship := (Link.ofRecord? r).map fun link => ⟨r, link⟩

/-- Changes a field that is not part of the link. -/
def put (r : Relationship) (field : String) (value : Value) : Except StoreError Relationship :=
  if field = Side.group.field ∨ field = Side.member.field then .error (.protectedField field)
  else (r.record.put field value).map fun record => { r with record := record }

/-- Removes a field that is not part of the link. -/
def remove (r : Relationship) (field : String) : Except StoreError Relationship :=
  r.put field .null

/-- Stores the changes of a relationship unless its record was removed in the
meantime; `none` if it was. -/
def save (r : Relationship) : Program RecordCall (Option Relationship) := do
  let stored ← Records.contains r.record.oid
  if stored then do
    let record ← Records.save r.record
    pure (some { r with record := record })
  else pure none

/-- The fields of the link cannot be written. -/
theorem put_fixed (r : Relationship) (side : Side) (value : Value) :
    r.put side.field value = .error (.protectedField side.field) := by
  cases side <;> simp [put]

end Relationship

end TieredStore
