import TieredStore.Proofs.Record.Answers
import TieredStore.Proofs.Relational.Representation
import TieredStore.Proofs.Runs

/-!
# A store in a database answers like a table

A database answers every call of a store as the table of records does that the rows of
the store represent.  A condition that exceeds the limits of statements is the one
exception; it is refused without any change.

Main results:

- Theorem `Database.Represents.keysOf_eq`: the listed keys are those of the table.
- Theorem `Database.ReadsAs.load_eq`: a record is restored if its rows denote values.
- Theorem `Database.Represents.select_eq`: the records that a query selects are those that
  pass its filter.
- Theorem `Database.answer_eq_answer_of_run`: after any run of calls, a store that was blank
  answers every call like a table that was empty.
-/

namespace TieredStore

open Std

/-- Results that all succeed are collected. -/
theorem mapM_eq_ok {α β : Type} {f : α → Except StoreError β} {g : α → β} {l : List α}
    (h : ∀ a ∈ l, f a = .ok (g a)) : l.mapM f = .ok (l.map g) := by
  induction l with
  | nil => rfl
  | cons a rest ih =>
    obtain ⟨ha, hrest⟩ := List.forall_mem_cons.1 h
    rw [List.mapM_cons, ha, ih hrest]
    rfl

/-- Dropping null fields twice is dropping them once. -/
theorem Fields.present_present (fields : Fields) : fields.present.present = fields.present := by
  apply SortedMap.ext_get?
  intro field
  rw [get?_present, get?_present, Option.filter_filter]
  simp

namespace Database

variable (db : Database)

/-- The rows of a record are listed with their fields. -/
theorem mem_rowsOf (key : RecordKey) (field : String) (row : FieldRow) :
    (field, row) ∈ db.rowsOf key ↔ db.row? key field = some row := by
  unfold rowsOf row?
  rw [List.mem_map, SortedMap.get?_eq_some_iff]
  constructor
  · rintro ⟨⟨k, r⟩, hmem, heq⟩
    obtain ⟨hentry, hkey⟩ := List.mem_filter.1 hmem
    cases heq
    rw [beq_iff_eq] at hkey
    rw [← hkey]
    exact hentry
  · intro hentry
    exact ⟨(⟨key, field⟩, row), List.mem_filter.2 ⟨hentry, beq_self_eq_true key⟩, rfl⟩

/-- No field of a record is listed twice. -/
theorem nodup_rowsOf (key : RecordKey) : ((db.rowsOf key).map Prod.fst).Nodup := by
  unfold rowsOf
  rw [List.map_map, List.nodup_iff_pairwise_ne, List.pairwise_map]
  refine (db.fields.filter _).ascending.imp_of_mem ?_
  intro a b ha hb hlt heq
  have hrecordA : a.1.record = key := beq_iff_eq.1 (List.mem_filter.1 ha).2
  have hrecordB : b.1.record = key := beq_iff_eq.1 (List.mem_filter.1 hb).2
  have hkeys : a.1 = b.1 := by
    obtain ⟨⟨recordA, fieldA⟩, rowA⟩ := a
    obtain ⟨⟨recordB, fieldB⟩, rowB⟩ := b
    cases hrecordA
    cases hrecordB
    cases heq
    rfl
  rw [hkeys, ReflOrd.compare_self] at hlt
  cases hlt

/-- The keys of records in one store are ordered like their OIDs. -/
theorem compare_recordKey (store : String) (a b : Oid) :
    compare (RecordKey.of store a) (RecordKey.of store b) = compare a b := by
  show (compare store store).then (compare a.text b.text) = compare a.text b.text
  rw [ReflOrd.compare_self]
  rfl

/-- A change needs the tables to be set up. -/
theorem change_apply (f : Database → Database) :
    change f db = if db.ready then (.ok (), f db) else (.error (.storage .database), db) := by
  obtain ⟨ready, records, fields⟩ := db
  cases ready <;> rfl

/-- An inspection needs the tables to be set up and changes nothing. -/
theorem inspect_apply {α : Type} (f : Database → Except StoreError α) :
    inspect f db = (if db.ready then f db else .error (.storage .database), db) := by
  obtain ⟨ready, records, fields⟩ := db
  cases ready <;> rfl

/-! ## Rows that denote values -/

section Reading

variable {db} {store : String} {key : RecordKey} {oid : Oid} {fields : Fields}

/-- Whether the rows of a record denote some fields. -/
def ReadsAs (db : Database) (key : RecordKey) (fields : Fields) : Prop :=
  ∀ field, (db.row? key field).map FieldRow.value = (fields.get? field).map .ok

/-- The value that is read for a field with a row. -/
theorem ReadsAs.value (h : db.ReadsAs key fields) {field : String} {row : FieldRow}
    (hrow : db.row? key field = some row) :
    ∃ v, fields.get? field = some v ∧ row.value = .ok v := by
  have hfield := h field
  rw [hrow, Option.map_some] at hfield
  obtain ⟨v, hget, hv⟩ := Option.map_eq_some_iff.1 hfield.symm
  exact ⟨v, hget, hv.symm⟩

/-- The row of a field that is read. -/
theorem ReadsAs.row (h : db.ReadsAs key fields) {field : String} {v : Value}
    (hget : fields.get? field = some v) :
    ∃ row, db.row? key field = some row ∧ row.value = .ok v := by
  have hfield := h field
  rw [hget, Option.map_some] at hfield
  exact Option.map_eq_some_iff.1 hfield

/-- Every row of a record gives the value of its field. -/
theorem ReadsAs.mapM_rowsOf (h : db.ReadsAs key fields) :
    (db.rowsOf key).mapM (fun e => e.2.value.map fun v => (e.1, v)) =
      .ok ((db.rowsOf key).map fun e => (e.1, (fields.get? e.1).getD .null)) := by
  apply mapM_eq_ok
  rintro ⟨field, row⟩ hmem
  obtain ⟨v, hget, hv⟩ := h.value ((db.mem_rowsOf _ field row).1 hmem)
  simp only [hv, hget]
  rfl

/-- The fields that have rows are those that the rows denote. -/
theorem ReadsAs.ofList_rowsOf (h : db.ReadsAs key fields) :
    SortedMap.ofList ((db.rowsOf key).map fun e => (e.1, (fields.get? e.1).getD .null)) =
      fields := by
  have hnodup : (((db.rowsOf key).map fun e =>
      (e.1, (fields.get? e.1).getD .null)).map Prod.fst).Nodup := by
    rw [List.map_map]
    exact db.nodup_rowsOf _
  refine SortedMap.ext_get? fun field => Option.ext fun v => ?_
  rw [SortedMap.get?_ofList hnodup, List.mem_map]
  constructor
  · rintro ⟨⟨field', row⟩, hmem, heq⟩
    obtain ⟨v', hget, -⟩ := h.value ((db.mem_rowsOf _ field' row).1 hmem)
    cases heq
    rw [hget]
    rfl
  · intro hget
    obtain ⟨row, hrow, -⟩ := h.row hget
    refine ⟨(field, row), (db.mem_rowsOf _ field row).2 hrow, ?_⟩
    rw [hget]
    rfl

/-- A record is restored if its rows denote its fields. -/
theorem ReadsAs.load_eq (h : db.ReadsAs (.of store oid) fields) :
    db.load (.of store oid) = .ok (Record.loaded oid fields) := by
  have hparse : Oid.parse (RecordKey.of store oid).identifier = .ok oid := Oid.parse_text oid
  simp only [Database.load, hparse, bind, Except.bind, h.mapM_rowsOf, h.ofList_rowsOf]

end Reading

/-! ## Rows that represent a table -/

namespace Represents

variable {db : Database} {store : String} {table : RecordTable}

/-- The listed keys are those of the table. -/
theorem keysOf_eq (h : db.Represents store table) :
    db.keysOf store = table.keys.map (RecordKey.of store) := by
  apply SortedMap.keys_eq_of_mem_iff (SortedMap.keys_ascending _)
  · rw [List.pairwise_map]
    exact table.keys_ascending.imp fun hlt => (compare_recordKey store _ _).trans hlt
  · intro key
    rw [SortedMap.mem_keys_iff, SortedMap.get?_filter, List.mem_map]
    constructor
    · rintro ⟨u, hu⟩
      obtain ⟨hget, hstore⟩ := Option.filter_eq_some_iff.1 hu
      rw [beq_iff_eq] at hstore
      obtain ⟨storeName, identifier⟩ := key
      cases hstore
      obtain ⟨oid, htext, hstored⟩ :=
        (h.listed identifier).1 ((SortedMap.contains_iff _ _).2 ⟨u, hget⟩)
      refine ⟨oid, (SortedMap.mem_keys_iff _ _).2 ((SortedMap.contains_iff _ _).1 hstored), ?_⟩
      rw [RecordKey.of, htext]
    · rintro ⟨oid, hoid, rfl⟩
      have hstored := (SortedMap.contains_iff _ _).2 ((SortedMap.mem_keys_iff _ _).1 hoid)
      rw [← h.contains_of, SortedMap.contains_iff] at hstored
      obtain ⟨u, hu⟩ := hstored
      exact ⟨u, Option.filter_eq_some_iff.2 ⟨hu, beq_self_eq_true store⟩⟩

/-- The rows of a stored record denote its fields that are not null. -/
theorem readsAs (h : db.Represents store table) {oid : Oid} {fields : Fields}
    (hstored : table.get? oid = some fields) : db.ReadsAs (.of store oid) fields.present := by
  intro field
  rw [h.rows, hstored, Fields.get?_present]
  show ((fields.get? field).bind FieldRow.ofValue?).map FieldRow.value = _
  cases fields.get? field with
  | none => rfl
  | some v =>
    show (FieldRow.ofValue? v).map FieldRow.value = _
    cases hrow : FieldRow.ofValue? v with
    | none =>
      rw [(FieldRow.ofValue?_eq_none_iff v).1 hrow]
      rfl
    | some row =>
      have hvalue : row.value = .ok v := FieldRow.value_of_ofValue? hrow
      cases v with
      | null => cases hrow
      | _ => exact congrArg some hvalue

/-- A record is restored from its rows. -/
theorem load_eq (h : db.Represents store table) {oid : Oid} {fields : Fields}
    (hstored : table.get? oid = some fields) :
    db.load (.of store oid) = .ok (Record.loaded oid fields) := by
  rw [(h.readsAs hstored).load_eq, Record.loaded, Record.loaded, Fields.present_present]

/-- The records that a query selects are those that pass its filter. -/
theorem select_eq (h : db.Represents store table) (q : Query) :
    db.select store (Condition.ofQuery q) =
      .ok (RecordTable.records (table.filter fun _ fields => q.matchesFields fields)) := by
  have hstored : ∀ e ∈ table.entries, table.get? e.1 = some e.2 := fun e he =>
    (table.get?_eq_some_iff e.1 e.2).2 he
  have hholds : ∀ e ∈ table.entries,
      (Condition.ofQuery q).holds (db.row? (.of store e.1)) = q.matchesFields e.2 := by
    intro e he
    have hrows : db.row? (.of store e.1) = Condition.rowOf? e.2 := by
      funext field
      rw [h.rows, hstored e he]
      rfl
    rw [hrows, Condition.holds_ofQuery]
  unfold Database.select
  rw [h.keysOf_eq, SortedMap.keys, List.map_map, List.filter_map, List.mapM_map]
  have hfilter : table.entries.filter ((fun key => (Condition.ofQuery q).holds (db.row? key)) ∘
      (RecordKey.of store ∘ Prod.fst)) = table.entries.filter fun e => q.matchesFields e.2 :=
    List.filter_congr hholds
  rw [hfilter]
  apply mapM_eq_ok
  intro e he
  exact h.load_eq (hstored e (List.mem_filter.1 he).1)

/-! ## Answers -/

/-- A change is made when the tables are set up. -/
theorem change_eq (h : db.Represents store table) (f : Database → Database) :
    Database.change f db = (.ok (), f db) := by
  rw [Database.change_apply, h.ready, if_pos rfl]

/-- An inspection gives its result when the tables are set up. -/
theorem inspect_eq (h : db.Represents store table) {α : Type}
    (f : Database → Except StoreError α) : Database.inspect f db = (f db, db) := by
  rw [Database.inspect_apply, h.ready, if_pos rfl]

/-- The result of a query whose condition fits a statement. -/
theorem query_eq (h : db.Represents store table) {q : Query}
    (fits : (Condition.ofQuery q).isAccepted = true) :
    Database.answer store (.query q) db =
      ((RecordTable.answer (.query q) table).1, db) := by
  have hselect := h.inspect_eq fun db => (db.select store (Condition.ofQuery q)).map q.orderAndPage
  rw [h.select_eq] at hselect
  unfold Database.answer RecordTable.answer
  simp only [fits, if_true, Action.bind_apply, Action.ofExcept_apply]
  cases q.validate with
  | error e => rfl
  | ok u => exact hselect

end Represents

end Database

/-- Whether a call is no query or one whose condition fits a statement. -/
def RecordCall.FitsStatement : RecordCall → Prop
  | .query q => (Condition.ofQuery q).isAccepted = true
  | _ => True

namespace Database

variable {db : Database} {store : String} {table : RecordTable}

/-- A database answers like the table that it represents. -/
theorem Represents.answer_eq (h : db.Represents store table) {call : RecordCall}
    (fits : call.FitsStatement) :
    (answer store call db).1 = (RecordTable.answer call table).1 := by
  cases call with
  | lifecycle op =>
    cases op with
    | setup => rfl
    | destroy => exact congrArg Prod.fst (h.change_eq _)
    | clear => exact congrArg Prod.fst (h.change_eq _)
    | maintenance => rfl
  | get oid =>
    refine (congrArg Prod.fst (h.inspect_eq _)).trans ?_
    show (if db.records.contains (.of store oid) then (db.load (.of store oid)).map some
      else .ok none) = Except.ok ((table.get? oid).map (Record.loaded oid))
    rw [h.contains_of, SortedMap.contains]
    cases hstored : table.get? oid with
    | none => rfl
    | some fields =>
      rw [h.load_eq hstored]
      rfl
  | apply update => exact congrArg Prod.fst (h.change_eq _)
  | remove oid => exact congrArg Prod.fst (h.change_eq _)
  | keys =>
    refine (congrArg Prod.fst (h.inspect_eq _)).trans ?_
    show (db.keysOf store).mapM (fun key => Oid.parse key.identifier) = .ok table.keys
    rw [h.keysOf_eq, List.mapM_map]
    exact (mapM_eq_ok fun oid _ => Oid.parse_text oid).trans (by rw [List.map_id'])
  | query q => exact congrArg Prod.fst (h.query_eq fits)

/-- A query changes nothing. -/
theorem answer_query_snd (db : Database) (store : String) (q : Query) :
    (answer store (.query q) db).2 = db := by
  unfold answer
  simp only [Action.bind_apply, Action.ofExcept_apply]
  cases q.validate with
  | error e => rfl
  | ok u =>
    by_cases hfits : (Condition.ofQuery q).isAccepted = true
    · simp only [hfits, if_true]
      exact congrArg Prod.snd (inspect_apply db _)
    · simp only [hfits]
      rfl

/-- Every call keeps the representation. -/
theorem Represents.answer_represents (h : db.Represents store table) (call : RecordCall) :
    (answer store call db).2.Represents store (RecordTable.answer call table).2 := by
  cases call with
  | lifecycle op =>
    cases op with
    | setup => exact ⟨rfl, h.listed, h.rows⟩
    | destroy => exact (congrArg Prod.snd (h.change_eq _)) ▸ h.deleteStore
    | clear => exact (congrArg Prod.snd (h.change_eq _)) ▸ h.deleteStore
    | maintenance => exact h
  | get oid => exact (congrArg Prod.snd (h.inspect_eq _)) ▸ h
  | apply update => exact (congrArg Prod.snd (h.change_eq _)) ▸ h.apply update
  | remove oid => exact (congrArg Prod.snd (h.change_eq _)) ▸ h.remove oid
  | keys => exact (congrArg Prod.snd (h.inspect_eq _)) ▸ h
  | query q =>
    rw [answer_query_snd]
    exact (congrArg Prod.snd (RecordTable.answer_query table q)) ▸ h

/-- After any run of calls, a store that had no rows answers every call like a table that was
empty. -/
theorem answer_eq_answer_of_run (blank : db.IsBlank store) (calls : List RecordCall)
    {call : RecordCall} (fits : call.FitsStatement) :
    (answer store call (stateAfter (answer store) calls db)).1 =
      (RecordTable.answer call (stateAfter RecordTable.answer calls ∅)).1 := by
  have hrun := stateAfter_related
    (fun call db table (h : Represents db store table) => h.answer_represents call) calls
    (Represents.of_isBlank blank)
  exact hrun.answer_eq fits

/-- A numeric text, a null and no number at all, changed by a delta, are found alike. -/
theorem answer_eq_answer_of_mixed_run :
    let a : Oid := ⟨"a", by decide⟩
    let snapshot : Fields := .ofList [("x", .float .nan), ("y", .null), ("z", .text " 1e1 ")]
    let delta : Fields := .ofList [("x", .null), ("y", .float (.infinite true))]
    let calls := [RecordCall.apply ⟨a, snapshot, ∅, false⟩, .apply ⟨a, ∅, delta, false⟩]
    let q := Query.filter (.all [.compare "z" .eq (.int 10), .compare "x" .eq .null, .all []])
    ({ ready := true } : Database).IsBlank "s" ∧ (RecordCall.query q).FitsStatement ∧
      (answer "s" (.query q) (stateAfter (answer "s") calls { ready := true })).1 =
        (RecordTable.answer (.query q) (stateAfter RecordTable.answer calls ∅)).1 := by
  intro a snapshot delta calls q
  have blank : ({ ready := true } : Database).IsBlank "s" :=
    ⟨rfl, fun _ => rfl, fun _ _ => rfl⟩
  have fits : (RecordCall.query q).FitsStatement := by
    show (Condition.ofQuery q).isAccepted = true
    decide +kernel
  exact ⟨blank, fits, answer_eq_answer_of_run blank calls fits⟩

end Database

end TieredStore
