import TieredStore.Proofs.Relational.StoredFields
import TieredStore.Proofs.Stack.Agreement
import TieredStore.Proofs.Storage.Contents

/-!
# What is stored of a record

A store in memory and a store in a database are seen alike through their look-ups: what is stored
under an OID is what a look-up of it gives.  An update of a stored record applies its delta there,
an update of a new record puts all of its fields there, and look-ups of other records give what
they gave before.

Main results:

- Theorems `RecordBase.recordAt_apply_delta` and `RecordBase.recordAt_apply_snapshot`: what a
  look-up gives after an update.
- Theorem `RecordBase.recordAt_of_mem_query`: records that answer a query are stored as they are.
- Theorem `RecordBase.unwritten_answer`: only an update of the record itself makes a look-up
  give other fields.
-/

namespace TieredStore

/-! ## Cells that are written with what they hold -/

/-- A cell that is written with what it holds leaves the heap as it is. -/
theorem Heap.set_get {α : Type} [Inhabited α] (heap : Heap α) (ref : Ref α) :
    heap.set ref (heap.get ref) = heap := by
  obtain ⟨cells⟩ := heap
  show (⟨cells.setIfInBounds ref.index (cells[ref.index]?.getD default)⟩ : Heap α) = ⟨cells⟩
  congr 1
  refine Array.ext_getElem? fun i => ?_
  rw [Array.getElem?_setIfInBounds]
  split
  · rename_i hindex
    subst hindex
    split
    · rename_i hbound
      rw [Array.getElem?_eq_getElem hbound, Option.getD_some]
    · rename_i hbound
      rw [Array.getElem?_eq_none (Nat.not_lt.1 hbound)]
  · rfl

/-- Nor does the storage change, if a heap that is put back changes nothing. -/
theorem Storage.setCell_cell {α : Type} [Inhabited α] [Stored α] (s : Storage) (ref : Ref α)
    (h : Stored.withHeap (Stored.heap (α := α) s) s = s) : s.setCell ref (s.cell ref) = s := by
  rw [setCell, cell, Heap.set_get, h]

/-- A table of records that is written with what it holds changes nothing. -/
theorem Storage.setCell_table_self (s : Storage) (table : Ref RecordTable) :
    s.setCell table (s.cell table) = s := s.setCell_cell table rfl

/-- A database that is written with what it holds changes nothing. -/
theorem Storage.setCell_database_self (s : Storage) (database : Ref Database) :
    s.setCell database (s.cell database) = s := s.setCell_cell database rfl

/-! ## Calls that change nothing -/

namespace RecordCall

/-- Whether a call only reads. -/
def IsRead : RecordCall → Prop
  | .get _ => True
  | .keys => True
  | .query _ => True
  | _ => False

/-- Reading leaves a table as it is. -/
theorem answer_read_snd {call : RecordCall} (h : call.IsRead) (table : RecordTable) :
    (RecordTable.answer call table).2 = table := by
  cases call with
  | get oid => rfl
  | keys => rfl
  | query q => exact congrArg Prod.snd (RecordTable.answer_query table q)
  | lifecycle op => cases h
  | apply update => cases h
  | remove oid => cases h

/-- Reading leaves a database as it is. -/
theorem database_answer_read_snd {call : RecordCall} (h : call.IsRead) (store : String)
    (db : Database) : (Database.answer store call db).2 = db := by
  cases call with
  | get oid => exact congrArg Prod.snd (Database.inspect_apply db _)
  | keys => exact congrArg Prod.snd (Database.inspect_apply db _)
  | query q => exact Database.answer_query_snd db store q
  | lifecycle op => cases h
  | apply update => cases h
  | remove oid => cases h

end RecordCall

/-- A call that fails leaves a database as it is. -/
theorem Database.answer_of_error {store : String} {call : RecordCall} {db : Database}
    {e : StoreError} (h : (answer store call db).1 = .error e) :
    (answer store call db).2 = db := by
  have hchange : ∀ f : Database → Database, (change f db).1 = .error e →
      (change f db).2 = db := by
    intro f h
    rw [change_apply] at h ⊢
    split at h
    · cases h
    · rw [if_neg ‹_›]
  cases call with
  | lifecycle op =>
    cases op with
    | setup => cases h
    | destroy => exact hchange _ h
    | clear => exact hchange _ h
    | maintenance => cases h
  | apply update => exact hchange _ h
  | remove oid => exact hchange _ h
  | get oid => exact (RecordCall.get oid).database_answer_read_snd trivial store db
  | keys => exact RecordCall.keys.database_answer_read_snd trivial store db
  | query q => exact (RecordCall.query q).database_answer_read_snd trivial store db

/-- A call that fails leaves a table as it is. -/
theorem RecordTable.answer_of_error {call : RecordCall} {table : RecordTable} {e : StoreError}
    (h : (answer call table).1 = .error e) : (answer call table).2 = table := by
  cases call with
  | lifecycle op => cases op <;> cases h
  | apply update => cases h
  | remove oid => cases h
  | get oid => rfl
  | keys => rfl
  | query q => exact (RecordCall.query q).answer_read_snd trivial table

/-! ## What a table has after a call -/

/-- A call that stores no update of a record leaves its fields in a table, or removes it. -/
theorem RecordTable.get?_answer (table : RecordTable) {call : RecordCall} {oid : Oid}
    (hcall : ¬call.Updates oid) :
    (answer call table).2.get? oid = table.get? oid ∨ (answer call table).2.get? oid = none := by
  cases call with
  | lifecycle op =>
    cases op with
    | setup => exact .inl rfl
    | destroy => exact .inr rfl
    | clear => exact .inr rfl
    | maintenance => exact .inl rfl
  | get other => exact .inl rfl
  | apply update => exact .inl (table.get?_apply_of_ne update fun h => hcall h.symm)
  | remove other =>
    by_cases hother : oid = other
    · subst hother
      exact .inr (table.get?_erase_self oid)
    · exact .inl (table.get?_erase_of_ne hother)
  | keys => exact .inl rfl
  | query q =>
    rw [answer_query]
    exact .inl rfl

namespace RecordBase

variable {base other : RecordBase} {s : Storage} {oid : Oid} {r : Record}
  {update : RecordUpdate}

/-- Reading leaves the storage as it is. -/
theorem answer_read_snd (base : RecordBase) {call : RecordCall} (h : call.IsRead) (s : Storage) :
    (base.answer call s).2 = s := by
  cases base with
  | memory name table =>
    show s.setCell table (RecordTable.answer call (s.cell table)).2 = s
    rw [RecordCall.answer_read_snd h, s.setCell_table_self]
  | relational name database =>
    show s.setCell database (Database.answer name call (s.cell database)).2 = s
    rw [RecordCall.database_answer_read_snd h, s.setCell_database_self]

/-- A base store of records that fails has changed nothing. -/
theorem answer_of_error {call : RecordCall} {e : StoreError}
    (h : (base.answer call s).1 = .error e) : (base.answer call s).2 = s := by
  cases base with
  | memory name table =>
    show s.setCell table (RecordTable.answer call (s.cell table)).2 = s
    rw [RecordTable.answer_of_error h, s.setCell_table_self]
  | relational name database =>
    show s.setCell database (Database.answer name call (s.cell database)).2 = s
    rw [Database.answer_of_error h, s.setCell_database_self]

/-! ## Look-ups -/

/-- Whether the storage has the cell that a base store keeps its records in. -/
def IsHeld (s : Storage) : RecordBase → Prop
  | .memory _ table => s.Holds table
  | .relational _ database => s.Holds database

/-- What a look-up of a record gives. -/
def recordAt (base : RecordBase) (s : Storage) (oid : Oid) : Except StoreError (Option Record) :=
  (base.answer (.get oid) s).1

/-- The OIDs of all records. -/
def listed (base : RecordBase) (s : Storage) : Except StoreError (List Oid) :=
  (base.answer .keys s).1

theorem recordAt_memory (name : String) (table : Ref RecordTable) (s : Storage) (oid : Oid) :
    recordAt (.memory name table) s oid =
      .ok (((s.cell table).get? oid).map (Record.loaded oid)) := rfl

theorem recordAt_relational (name : String) (database : Ref Database) (s : Storage) (oid : Oid) :
    recordAt (.relational name database) s oid = (s.cell database).recordAt name oid := rfl

/-- A look-up changes nothing. -/
theorem answer_get (base : RecordBase) (s : Storage) (oid : Oid) :
    base.answer (.get oid) s = (base.recordAt s oid, s) := by
  have hread : (RecordCall.get oid).IsRead := trivial
  exact Prod.ext rfl (base.answer_read_snd hread s)

/-- A record that is found lies in a cell of the storage. -/
theorem isHeld_of_stored (h : base.recordAt s oid = .ok (some r)) : base.IsHeld s := by
  cases base with
  | memory name table =>
    by_contra hno
    have hempty : s.cell table = ∅ := Storage.cell_of_not_holds hno
    rw [recordAt_memory, hempty] at h
    cases h
  | relational name database =>
    exact RecordStore.holds_of_ready database (Database.ready_of_recordAt h)

/-- A record that is found has its OID and no changes. -/
theorem isLoaded_of_recordAt (h : base.recordAt s oid = .ok (some r)) :
    r.oid = oid ∧ r.IsLoaded := by
  cases base with
  | memory name table =>
    rw [recordAt_memory] at h
    obtain ⟨fields, -, rfl⟩ := Option.map_eq_some_iff.1 (Except.ok.inj h)
    exact ⟨rfl, Record.isLoaded_loaded oid fields⟩
  | relational name database =>
    obtain ⟨-, -, fields, -, rfl⟩ := Database.recordAt_eq_some_iff.1 h
    exact ⟨rfl, Record.isLoaded_loaded oid fields⟩

/-- A record that answers a query is the one that a look-up of its OID gives. -/
theorem recordAt_of_mem_query {q : Query} {rows : List Record}
    (hrows : (base.answer (.query q) s).1 = .ok rows) (hr : r ∈ rows) :
    base.recordAt s r.oid = .ok (some r) := by
  cases base with
  | memory name table =>
    have hquery : (RecordTable.answer (.query q) (s.cell table)).1 = .ok rows := hrows
    rw [RecordTable.answer_query] at hquery
    cases hvalid : q.validate with
    | error e =>
      rw [hvalid] at hquery
      cases hquery
    | ok u =>
      rw [hvalid] at hquery
      cases hquery
      obtain ⟨fields, hget, hloaded⟩ := RecordTable.get?_of_mem_query hr
      rw [recordAt_memory, hget]
      exact congrArg (fun r => Except.ok (some r)) hloaded.symm
  | relational name database => exact Database.recordAt_of_mem_query hrows hr

/-! ## Updates -/

/-- A database that is set up stores an update. -/
theorem answer_apply_relational {name : String} {database : Ref Database}
    (hready : (s.cell database).ready = true) (update : RecordUpdate) :
    answer (.relational name database) (.apply update) s =
      (.ok (), s.setCell database ((s.cell database).apply name update)) := by
  show ((Database.answer name (.apply update) (s.cell database)).1,
    s.setCell database (Database.answer name (.apply update) (s.cell database)).2) = _
  rw [Database.answer_apply hready]

/-- A database that is not set up refuses an update, and every look-up. -/
theorem answer_apply_of_not_ready {name : String} {database : Ref Database}
    (hready : (s.cell database).ready = false) (update : RecordUpdate) :
    answer (.relational name database) (.apply update) s =
      (.error (.storage .database), s) := by
  have hrefused : Database.answer name (.apply update) (s.cell database) =
      (.error (.storage .database), s.cell database) := by
    show Database.change _ _ = _
    rw [Database.change_apply, hready]
    rfl
  show ((Database.answer name (.apply update) (s.cell database)).1,
    s.setCell database (Database.answer name (.apply update) (s.cell database)).2) = _
  rw [hrefused, s.setCell_database_self]

/-- A store that answers a look-up stores updates. -/
theorem answer_apply_of_answered {found : Option Record} (h : base.recordAt s oid = .ok found)
    (update : RecordUpdate) : (base.answer (.apply update) s).1 = .ok () := by
  cases base with
  | memory name table => rfl
  | relational name database =>
    rw [answer_apply_relational (Database.ready_of_recordAt h)]

/-- A delta changes the fields of a stored record. -/
theorem recordAt_apply_delta (hstored : base.recordAt s update.oid = .ok (some r))
    (hnew : update.isNew = false) :
    base.recordAt (base.answer (.apply update) s).2 update.oid =
      .ok (some (Record.loaded update.oid (update.delta.applyDelta r.fields))) := by
  have hheld := isHeld_of_stored hstored
  cases base with
  | memory name table =>
    rw [recordAt_memory] at hstored
    obtain ⟨fields, hget, rfl⟩ := Option.map_eq_some_iff.1 (Except.ok.inj hstored)
    have hcell : (answer (.memory name table) (.apply update) s).2.cell table =
        (s.cell table).apply update := Storage.cell_setCell_self _ hheld
    have hfields : update.fieldsAfter (some fields) = update.delta.applyDelta fields := by
      rw [RecordUpdate.fieldsAfter, hnew]
      rfl
    rw [recordAt_memory, hcell, RecordTable.get?_apply_self, hget, hfields]
    show Except.ok (some (Record.loaded update.oid (update.delta.applyDelta fields))) =
      Except.ok (some (Record.loaded update.oid (update.delta.applyDelta fields.present)))
    rw [Record.loaded, Record.loaded, Fields.present_applyDelta, Fields.present_applyDelta,
      Fields.present_present]
  | relational name database =>
    have hready := Database.ready_of_recordAt hstored
    rw [answer_apply_relational hready, recordAt_relational, Storage.cell_setCell_self _ hheld]
    exact Database.recordAt_apply_delta hstored hnew

/-- A snapshot takes the place of what was stored. -/
theorem recordAt_apply_snapshot (hheld : base.IsHeld s)
    (hok : (base.answer (.apply update) s).1 = .ok ())
    (hnew : update.isNew = true ∨ base.recordAt s update.oid = .ok none) :
    base.recordAt (base.answer (.apply update) s).2 update.oid =
      .ok (some (Record.loaded update.oid update.fields)) := by
  cases base with
  | memory name table =>
    have hcell : (answer (.memory name table) (.apply update) s).2.cell table =
        (s.cell table).apply update := Storage.cell_setCell_self _ hheld
    have hfields : (s.cell table).get? update.oid = none ∨ update.isNew = true := by
      refine hnew.symm.imp_left fun hnone => ?_
      rw [recordAt_memory] at hnone
      exact Option.map_eq_none_iff.1 (Except.ok.inj hnone)
    rw [recordAt_memory, hcell, RecordTable.get?_apply_new _ _ hfields]
    rfl
  | relational name database =>
    cases hready : (s.cell database).ready with
    | false =>
      rw [answer_apply_of_not_ready hready] at hok
      cases hok
    | true =>
      rw [answer_apply_relational hready, recordAt_relational, Storage.cell_setCell_self _ hheld]
      exact Database.recordAt_apply_snapshot hready hnew

/-- An update concerns look-ups of its own record only. -/
theorem recordAt_apply_of_ne (base : RecordBase) (s : Storage) (hne : oid ≠ update.oid) :
    base.recordAt (base.answer (.apply update) s).2 oid = base.recordAt s oid := by
  cases base with
  | memory name table =>
    rw [recordAt_memory, recordAt_memory]
    by_cases hheld : s.Holds table
    · have hcell : (answer (.memory name table) (.apply update) s).2.cell table =
          (s.cell table).apply update := Storage.cell_setCell_self _ hheld
      rw [hcell, RecordTable.get?_apply_of_ne _ _ hne]
    · have hcell : (answer (.memory name table) (.apply update) s).2.cell table = s.cell table :=
        Storage.cell_setCell_of_not_holds _ hheld table
      rw [hcell]
  | relational name database =>
    cases hready : (s.cell database).ready with
    | false => rw [answer_apply_of_not_ready hready]
    | true =>
      rw [answer_apply_relational hready, recordAt_relational, recordAt_relational,
        Storage.cell_setCell_self _ (RecordStore.holds_of_ready database hready)]
      exact Database.recordAt_apply_of_ne _ hne

/-- A delta on a stored record leaves the list of records alone. -/
theorem listed_apply_delta (hstored : base.recordAt s update.oid = .ok (some r))
    (hnew : update.isNew = false) :
    base.listed (base.answer (.apply update) s).2 = base.listed s := by
  have hheld := isHeld_of_stored hstored
  cases base with
  | memory name table =>
    rw [recordAt_memory] at hstored
    obtain ⟨fields, hget, -⟩ := Option.map_eq_some_iff.1 (Except.ok.inj hstored)
    have hcell : (answer (.memory name table) (.apply update) s).2.cell table =
        (s.cell table).apply update := Storage.cell_setCell_self _ hheld
    show Except.ok ((answer (.memory name table) (.apply update) s).2.cell table).keys =
      Except.ok (s.cell table).keys
    rw [hcell]
    congr 1
    refine SortedMap.keys_eq_of_mem_iff (SortedMap.keys_ascending _) (SortedMap.keys_ascending _)
      fun oid => ?_
    rw [SortedMap.mem_keys_iff, SortedMap.mem_keys_iff]
    by_cases hoid : oid = update.oid
    · subst hoid
      exact ⟨fun _ => ⟨fields, hget⟩, fun _ => ⟨_, RecordTable.get?_apply_self _ _⟩⟩
    · rw [RecordTable.get?_apply_of_ne _ _ hoid]
  | relational name database =>
    have hready := Database.ready_of_recordAt hstored
    have hkeys : ∀ db : Database, (Database.answer name .keys db).1 =
        if db.ready then (db.keysOf name).mapM fun key => Oid.parse key.identifier
        else .error (.storage .database) :=
      fun db => congrArg Prod.fst (Database.inspect_apply db _)
    rw [answer_apply_relational hready]
    show (Database.answer name .keys ((s.setCell database _).cell database)).1 =
      (Database.answer name .keys (s.cell database)).1
    rw [Storage.cell_setCell_self _ hheld, hkeys, hkeys, Database.ready_apply,
      Database.keysOf_apply_delta hstored hnew]

/-! ## What other calls leave -/

/-- A record that nobody writes: what is stored under its OID stays as it is, or is removed. -/
structure Unwritten (base : RecordBase) (oid : Oid) (s s' : Storage) : Prop where
  held : base.IsHeld s → base.IsHeld s'
  found : ∀ found, base.recordAt s oid = .ok found →
    base.recordAt s' oid = .ok found ∨ base.recordAt s' oid = .ok none

/-- No call frees a cell. -/
theorem isHeld_answer (base other : RecordBase) (call : RecordCall) (h : base.IsHeld s) :
    base.IsHeld (other.answer call s).2 := by
  cases base with
  | memory name table =>
    cases other with
    | memory otherName otherTable => exact (Storage.holds_setCell_iff _).2 h
    | relational otherName database => exact h
  | relational name database =>
    cases other with
    | memory otherName table => exact h
    | relational otherName otherDatabase => exact (Storage.holds_setCell_iff _).2 h

/-- A call of another store leaves the look-ups that are answered as they are. -/
theorem recordAt_answer_of_ne (hne : RecordPart.ofBase other ≠ RecordPart.ofBase base)
    (call : RecordCall) {found : Option Record} (hfound : base.recordAt s oid = .ok found) :
    base.recordAt (other.answer call s).2 oid = .ok found := by
  cases base with
  | memory name table =>
    cases other with
    | memory otherName otherTable =>
      have htable : table ≠ otherTable := fun h => hne (congrArg RecordPart.inMemory h.symm)
      have hcell : (answer (.memory otherName otherTable) call s).2.cell table = s.cell table :=
        Storage.cell_setCell_of_ne s _ htable
      rw [recordAt_memory, hcell]
      exact hfound
    | relational otherName database => exact hfound
  | relational name database =>
    cases other with
    | memory otherName table => exact hfound
    | relational otherName otherDatabase =>
      have hready : (s.cell database).ready = true := Database.ready_of_recordAt hfound
      by_cases hdatabase : database = otherDatabase
      · subst hdatabase
        have hname : name ≠ otherName :=
          fun h => hne (congrArg (RecordPart.inDatabase database) h.symm)
        have hcell : (answer (.relational otherName database) call s).2.cell database =
            (Database.answer otherName call (s.cell database)).2 :=
          Storage.cell_setCell_self _ (RecordStore.holds_of_ready database hready)
        have hsame := Database.SameRecord.of_sameRows
          (Database.SameRows.answer hname (s.cell database) call) oid
        rw [recordAt_relational, hcell, hsame.recordAt_eq]
        · exact hfound
        · rw [hready]
          exact Database.ready_answer_of_ready otherName call hready
      · have hcell : (answer (.relational otherName otherDatabase) call s).2.cell database =
            s.cell database := Storage.cell_setCell_of_ne s _ hdatabase
        rw [recordAt_relational, hcell]
        exact hfound

/-- A call of the store itself that stores no update of a record leaves it as it is, or removes
it. -/
theorem recordAt_answer_self {call : RecordCall} (hcall : ¬call.Updates oid)
    {found : Option Record} (hfound : base.recordAt s oid = .ok found) :
    base.recordAt (base.answer call s).2 oid = .ok found ∨
      base.recordAt (base.answer call s).2 oid = .ok none := by
  cases base with
  | memory name table =>
    by_cases hheld : s.Holds table
    · have hcell : (answer (.memory name table) call s).2.cell table =
          (RecordTable.answer call (s.cell table)).2 := Storage.cell_setCell_self _ hheld
      rw [recordAt_memory] at hfound ⊢
      rw [hcell, ← hfound]
      rcases RecordTable.get?_answer (s.cell table) hcall with hsame | hnone
      · exact .inl (by rw [hsame])
      · exact .inr (by rw [hnone]; rfl)
    · have hcell : (answer (.memory name table) call s).2.cell table = s.cell table :=
        Storage.cell_setCell_of_not_holds _ hheld table
      rw [recordAt_memory, hcell]
      exact .inl hfound
  | relational name database =>
    have hready : (s.cell database).ready = true := Database.ready_of_recordAt hfound
    have hcell : (answer (.relational name database) call s).2.cell database =
        (Database.answer name call (s.cell database)).2 :=
      Storage.cell_setCell_self _ (RecordStore.holds_of_ready database hready)
    rw [recordAt_relational, hcell]
    exact Database.recordAt_answer hcall hfound

/-- Base stores with one part answer alike. -/
theorem answer_eq_of_part {other base : RecordBase}
    (h : RecordPart.ofBase other = RecordPart.ofBase base) (call : RecordCall) (s : Storage) :
    other.answer call s = base.answer call s := by
  cases base <;> cases other <;> cases h <;> rfl

/-- A call writes a record only if it stores an update of it in its store. -/
theorem unwritten_answer (base other : RecordBase) (call : RecordCall) (s : Storage) (oid : Oid)
    (hcall : RecordPart.ofBase other = RecordPart.ofBase base → ¬call.Updates oid) :
    base.Unwritten oid s (other.answer call s).2 where
  held := isHeld_answer base other call
  found found hfound := by
    by_cases hpart : RecordPart.ofBase other = RecordPart.ofBase base
    · rw [answer_eq_of_part hpart]
      exact recordAt_answer_self (hcall hpart) hfound
    · exact .inl (recordAt_answer_of_ne hpart call hfound)

end RecordBase

end TieredStore
