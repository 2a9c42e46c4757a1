import TieredStore.Proofs.Record.Edits
import TieredStore.Proofs.Relational.Noninterference

/-!
# The fields that a database has of a record

A look-up of a record restores its fields from its rows, whatever else is in the database.  A
delta is applied row by row, and a snapshot replaces all rows; either way the next look-up gives
the fields that were meant, and look-ups of other records give what they gave before.

Main results:

- Theorem `Database.load_eq_ok_iff`: a record can be restored exactly if all of its rows denote
  values.
- Theorems `Database.recordAt_apply_delta` and `Database.recordAt_apply_snapshot`: what a look-up
  gives after an update.
- Theorem `Database.recordAt_answer`: no call but an update of the record itself makes a
  look-up give other fields.
-/

namespace TieredStore

/-- A step that fails for no member of a list if it succeeds for the list. -/
theorem exists_ok_of_mapM {α β : Type} {f : α → Except StoreError β} {l : List α}
    {results : List β} (h : l.mapM f = .ok results) : ∀ a ∈ l, ∃ b, f a = .ok b := by
  induction l generalizing results with
  | nil => exact fun a ha => nomatch ha
  | cons a rest ih =>
    rw [List.mapM_cons] at h
    cases hfirst : f a with
    | error e =>
      rw [hfirst] at h
      cases h
    | ok b =>
      cases hrest : rest.mapM f with
      | error e =>
        rw [hfirst, hrest] at h
        cases h
      | ok others => exact List.forall_mem_cons.2 ⟨⟨b, hfirst⟩, ih hrest⟩

/-- Whether a call stores an update of a record. -/
def RecordCall.Updates (call : RecordCall) (oid : Oid) : Prop :=
  match call with
  | .apply update => update.oid = oid
  | _ => False

/-- A result among those for a list comes from a member of the list. -/
theorem exists_mem_of_mapM {α β : Type} {f : α → Except StoreError β} {l : List α}
    {results : List β} (h : l.mapM f = .ok results) : ∀ b ∈ results, ∃ a ∈ l, f a = .ok b := by
  induction l generalizing results with
  | nil =>
    cases h
    exact fun b hb => nomatch hb
  | cons a rest ih =>
    rw [List.mapM_cons] at h
    cases hfirst : f a with
    | error e =>
      rw [hfirst] at h
      cases h
    | ok first =>
      cases hrest : rest.mapM f with
      | error e =>
        rw [hfirst, hrest] at h
        cases h
      | ok others =>
        rw [hfirst, hrest] at h
        cases h
        intro b hb
        rcases List.mem_cons.1 hb with rfl | hmem
        · exact ⟨a, List.mem_cons_self, hfirst⟩
        · obtain ⟨other, hother, hb⟩ := ih hrest b hmem
          exact ⟨other, List.mem_cons_of_mem _ hother, hb⟩

namespace Database

variable {db db' : Database} {store : String} {key : RecordKey} {oid : Oid} {fields : Fields}
  {r : Record}

/-! ## Records that can be restored -/

/-- The rows of a record that is restored denote values. -/
theorem value_of_load (h : db.load (.of store oid) = .ok r) {field : String} {row : FieldRow}
    (hrow : db.row? (.of store oid) field = some row) : ∃ v, row.value = .ok v := by
  cases hvalues : (db.rowsOf (.of store oid)).mapM
      (fun e => e.2.value.map fun v => (e.1, v)) with
  | error e =>
    have hparse : Oid.parse (RecordKey.of store oid).identifier = .ok oid := Oid.parse_text oid
    simp only [Database.load, hparse, bind, Except.bind, hvalues] at h
    cases h
  | ok values =>
    obtain ⟨entry, hentry⟩ :=
      exists_ok_of_mapM hvalues (field, row) ((db.mem_rowsOf _ field row).2 hrow)
    cases hv : row.value with
    | ok v => exact ⟨v, rfl⟩
    | error e =>
      simp only [hv] at hentry
      cases hentry

/-- Rows that denote values denote some fields. -/
theorem exists_readsAs
    (hvalue : ∀ field row, db.row? key field = some row → ∃ v, row.value = .ok v) :
    ∃ fields, db.ReadsAs key fields := by
  let entries := (db.rowsOf key).map fun e => (e.1, e.2.value.toOption.getD .null)
  have hnodup : (entries.map Prod.fst).Nodup := by
    rw [List.map_map]
    exact db.nodup_rowsOf _
  refine ⟨SortedMap.ofList entries, fun field => ?_⟩
  cases hrow : db.row? key field with
  | none =>
    cases hget : (SortedMap.ofList entries).get? field with
    | none => rfl
    | some v =>
      have hentry := (SortedMap.get?_ofList hnodup _ _).1 hget
      obtain ⟨⟨field', row⟩, hmem, heq⟩ := List.mem_map.1 hentry
      cases heq
      rw [(db.mem_rowsOf _ _ row).1 hmem] at hrow
      cases hrow
  | some row =>
    obtain ⟨v, hv⟩ := hvalue field row hrow
    have hget : (SortedMap.ofList entries).get? field = some v := by
      refine (SortedMap.get?_ofList hnodup _ _).2 (List.mem_map.2
        ⟨(field, row), (db.mem_rowsOf _ field row).2 hrow, ?_⟩)
      show (field, row.value.toOption.getD .null) = (field, v)
      rw [hv]
      rfl
    rw [hget, Option.map_some, Option.map_some, hv]

/-- A record can be restored exactly if all of its rows denote values. -/
theorem load_eq_ok_iff :
    db.load (.of store oid) = .ok r ↔
      ∃ fields, db.ReadsAs (.of store oid) fields ∧ r = Record.loaded oid fields := by
  constructor
  · intro hload
    obtain ⟨fields, hreads⟩ := exists_readsAs fun field row hrow => value_of_load hload hrow
    refine ⟨fields, hreads, ?_⟩
    rw [hreads.load_eq] at hload
    exact (Except.ok.inj hload).symm
  · rintro ⟨fields, hreads, rfl⟩
    exact hreads.load_eq

/-! ## What statements write -/

/-- Writing the changed rows of a record applies the delta to its fields. -/
theorem ReadsAs.writeFields (h : db.ReadsAs key fields) (delta : Fields) :
    (db.writeFields key delta).ReadsAs key (delta.applyDelta fields) := by
  intro field
  rw [row?_writeFields_self, Fields.get?_applyDelta]
  cases delta.get? field with
  | none => exact h field
  | some value =>
    show (FieldRow.ofValue? value).map FieldRow.value = _
    cases hnull : value.isNull with
    | true =>
      rw [(value.isNull_eq_true_iff).1 hnull]
      rfl
    | false =>
      have hrow := FieldRow.ofValue?_of_not_null hnull
      rw [hrow, Option.map_some, FieldRow.value_of_ofValue? hrow]
      simp only [hnull]
      rfl

/-- Replacing all rows of a record leaves the fields of a snapshot. -/
theorem readsAs_snapshot (db : Database) (key : RecordKey) (fields : Fields) :
    (((db.addRecord key).deleteFields key).writeFields key fields).ReadsAs key fields.present := by
  have hempty : ((db.addRecord key).deleteFields key).ReadsAs key ∅ := by
    intro field
    rw [row?_deleteFields_self]
    rfl
  rw [← Fields.applyDelta_empty]
  exact hempty.writeFields fields

/-! ## Look-ups -/

/-- What a look-up of a record gives. -/
def recordAt (db : Database) (store : String) (oid : Oid) : Except StoreError (Option Record) :=
  (answer store (.get oid) db).1

/-- A look-up needs the tables to be set up, and restores a record that is listed. -/
theorem recordAt_eq (db : Database) (store : String) (oid : Oid) :
    db.recordAt store oid =
      if db.ready then
        if db.records.contains (.of store oid) then (db.load (.of store oid)).map some
        else .ok none
      else .error (.storage .database) :=
  congrArg Prod.fst (inspect_apply db _)

/-- A look-up changes nothing. -/
theorem answer_get (db : Database) (store : String) (oid : Oid) :
    answer store (.get oid) db = (db.recordAt store oid, db) :=
  (inspect_apply db _).trans (Prod.ext (recordAt_eq db store oid).symm rfl)

/-- What a look-up needs to be answered. -/
theorem ready_of_recordAt {found : Option Record} (h : db.recordAt store oid = .ok found) :
    db.ready = true := by
  rw [recordAt_eq] at h
  by_contra hready
  rw [if_neg hready] at h
  cases h

/-- A look-up finds nothing exactly if the record is not listed. -/
theorem recordAt_eq_none_iff :
    db.recordAt store oid = .ok none ↔
      db.ready = true ∧ db.records.contains (.of store oid) = false := by
  rw [recordAt_eq]
  cases db.ready with
  | false => exact ⟨nofun, nofun⟩
  | true =>
    cases db.records.contains (.of store oid) with
    | false => exact ⟨fun _ => ⟨rfl, rfl⟩, fun _ => rfl⟩
    | true => cases db.load (.of store oid) <;> exact ⟨nofun, nofun⟩

/-- A look-up finds a record that is listed and whose rows denote its fields. -/
theorem recordAt_eq_some_iff :
    db.recordAt store oid = .ok (some r) ↔
      db.ready = true ∧ db.records.contains (.of store oid) = true ∧
        ∃ fields, db.ReadsAs (.of store oid) fields ∧ r = Record.loaded oid fields := by
  rw [recordAt_eq, ← load_eq_ok_iff]
  cases db.ready with
  | false => exact ⟨nofun, nofun⟩
  | true =>
    cases db.records.contains (.of store oid) with
    | false => exact ⟨nofun, nofun⟩
    | true =>
      cases db.load (.of store oid) with
      | error e => exact ⟨nofun, nofun⟩
      | ok loaded =>
        constructor
        · intro h
          cases h
          exact ⟨rfl, rfl, rfl⟩
        · rintro ⟨-, -, h⟩
          cases h
          rfl

/-- A record that is restored has the OID that its key is written with. -/
theorem identifier_of_load (h : db.load key = .ok r) : key.identifier = r.oid.text := by
  unfold load at h
  cases hparse : Oid.parse key.identifier with
  | error e =>
    rw [hparse] at h
    cases h
  | ok oid =>
    have htext : oid.text = key.identifier := by
      unfold Oid.parse at hparse
      split at hparse
      · cases hparse
        rfl
      · cases hparse
    cases hvalues : (db.rowsOf key).mapM (fun e => e.2.value.map fun v => (e.1, v)) with
    | error e =>
      simp only [hparse, hvalues, bind, Except.bind] at h
      cases h
    | ok values =>
      simp only [hparse, hvalues, bind, Except.bind] at h
      cases h
      exact htext.symm

/-- A query that is answered orders and pages the records that its condition selects. -/
theorem select_of_answer_query {q : Query} {rows : List Record}
    (hrows : (answer store (.query q) db).1 = .ok rows) :
    db.ready = true ∧ ∃ selected, db.select store (Condition.ofQuery q) = .ok selected ∧
      rows = q.orderAndPage selected := by
  unfold answer at hrows
  simp only [Action.bind_apply, Action.ofExcept_apply] at hrows
  cases hvalid : q.validate with
  | error e =>
    rw [hvalid] at hrows
    cases hrows
  | ok u =>
    rw [hvalid] at hrows
    dsimp only at hrows
    split at hrows
    · rw [inspect_apply] at hrows
      cases hready : db.ready with
      | false =>
        rw [hready] at hrows
        cases hrows
      | true =>
        rw [hready] at hrows
        cases hselect : db.select store (Condition.ofQuery q) with
        | error e =>
          rw [hselect] at hrows
          cases hrows
        | ok selected =>
          rw [hselect] at hrows
          cases hrows
          exact ⟨rfl, selected, rfl, rfl⟩
    · cases hrows

/-- A record that is selected is the one that a look-up of its OID gives. -/
theorem recordAt_of_mem_select {condition : Condition} {selected : List Record}
    (hready : db.ready = true) (hselect : db.select store condition = .ok selected)
    (hr : r ∈ selected) : db.recordAt store r.oid = .ok (some r) := by
  obtain ⟨key, hkey, hload⟩ := exists_mem_of_mapM hselect r hr
  obtain ⟨u, hlisted⟩ := (SortedMap.mem_keys_iff _ key).1 (List.mem_of_mem_filter hkey)
  rw [SortedMap.get?_filter, Option.filter_eq_some_iff, beq_iff_eq] at hlisted
  have hkeyOf : key = .of store r.oid := by
    obtain ⟨owner, identifier⟩ := key
    rw [RecordKey.of, ← hlisted.2, ← identifier_of_load hload]
  subst hkeyOf
  exact recordAt_eq_some_iff.2 ⟨hready, (SortedMap.contains_iff _ _).2 ⟨u, hlisted.1⟩,
    load_eq_ok_iff.1 hload⟩

/-- A record that answers a query is the one that a look-up of its OID gives. -/
theorem recordAt_of_mem_query {q : Query} {rows : List Record}
    (hrows : (answer store (.query q) db).1 = .ok rows) (hr : r ∈ rows) :
    db.recordAt store r.oid = .ok (some r) := by
  obtain ⟨hready, selected, hselect, rfl⟩ := select_of_answer_query hrows
  exact recordAt_of_mem_select hready hselect (Query.mem_of_mem_orderAndPage hr)

/-! ### The same rows of one record -/

/-- Whether two databases have the same of a record. -/
structure SameRecord (key : RecordKey) (db db' : Database) : Prop where
  listed : db'.records.contains key = db.records.contains key
  rows : ∀ field, db'.row? key field = db.row? key field

namespace SameRecord

/-- Databases with the same rows of a store have the same of its records. -/
theorem of_sameRows (h : SameRows store db db') (oid : Oid) : SameRecord (.of store oid) db db' :=
  ⟨h.listed oid.text, h.rows oid.text⟩

/-- A record is restored alike, or reported alike. -/
theorem load_eq (h : SameRecord key db db') : db'.load key = db.load key := by
  have hfields : (db'.fields.filter fun k _ => k.record == key) =
      db.fields.filter fun k _ => k.record == key := by
    refine SortedMap.filter_eq_filter fun ⟨record, field⟩ hrecord => ?_
    obtain rfl : record = key := beq_iff_eq.1 hrecord
    exact h.rows field
  rw [load, load, rowsOf, rowsOf, hfields]

/-- A look-up gives the same. -/
theorem recordAt_eq (h : SameRecord (.of store oid) db db') (hready : db'.ready = db.ready) :
    db'.recordAt store oid = db.recordAt store oid := by
  rw [Database.recordAt_eq, Database.recordAt_eq, h.listed, h.load_eq, hready]

/-- Storing an update concerns no other record. -/
theorem apply (db : Database) {update : RecordUpdate} (hne : key ≠ .of store update.oid) :
    SameRecord key db (db.apply store update) := by
  unfold Database.apply
  dsimp only
  split
  · refine ⟨?_, row?_writeFields_of_ne _ _ hne⟩
    rw [(records_writeFields _ _ _).1]
  · refine ⟨?_, fun field => ?_⟩
    · rw [(records_writeFields _ _ _).1]
      show ((db.records.insert _ ()).get? key).isSome = _
      rw [SortedMap.get?_insert_of_ne _ _ hne]
      rfl
    · rw [row?_writeFields_of_ne _ _ hne, row?_deleteFields_of_ne _ hne]
      rfl

/-- Removing a record concerns no other record. -/
theorem deleteRecord (db : Database) (hne : key ≠ .of store oid) :
    SameRecord key db (db.deleteRecord (.of store oid)) := by
  refine ⟨?_, row?_deleteFields_of_ne db hne⟩
  show ((db.records.erase _).get? key).isSome = _
  rw [SortedMap.get?_erase_of_ne _ hne]
  rfl

end SameRecord

/-! ### After updates -/

/-- An update is stored if a look-up is answered. -/
theorem answer_apply (hready : db.ready = true) (update : RecordUpdate) :
    answer store (.apply update) db = (.ok (), db.apply store update) := by
  show change _ db = _
  rw [change_apply, if_pos hready]

/-- The rows of the delta are written to a record that is listed and was stored before. -/
theorem apply_of_listed {update : RecordUpdate}
    (hlisted : db.records.contains (.of store update.oid) = true) (hnew : update.isNew = false) :
    db.apply store update = db.writeFields (.of store update.oid) update.delta := by
  unfold Database.apply
  dsimp only
  rw [hlisted, hnew]
  rfl

/-- The rows of all fields are written for a record that is new, or not listed. -/
theorem apply_of_new {update : RecordUpdate}
    (hnew : update.isNew = true ∨ db.records.contains (.of store update.oid) = false) :
    db.apply store update =
      ((db.addRecord (.of store update.oid)).deleteFields (.of store update.oid)).writeFields
        (.of store update.oid) update.fields := by
  unfold Database.apply
  dsimp only
  rcases hnew with hnew | hlisted
  · rw [hnew, Bool.not_true, Bool.and_false]
    rfl
  · rw [hlisted, Bool.false_and]
    rfl

/-- A delta changes the fields of a stored record. -/
theorem recordAt_apply_delta {update : RecordUpdate}
    (hstored : db.recordAt store update.oid = .ok (some r)) (hnew : update.isNew = false) :
    (db.apply store update).recordAt store update.oid =
      .ok (some (Record.loaded update.oid (update.delta.applyDelta r.fields))) := by
  obtain ⟨hready, hlisted, fields, hreads, rfl⟩ := recordAt_eq_some_iff.1 hstored
  obtain ⟨hrecords, hready'⟩ := db.records_writeFields (.of store update.oid) update.delta
  rw [apply_of_listed hlisted hnew]
  refine recordAt_eq_some_iff.2 ⟨hready'.trans hready, ?_, _, hreads.writeFields update.delta, ?_⟩
  · rw [hrecords, hlisted]
  · show (Record.loaded update.oid (update.delta.applyDelta fields.present)) = _
    rw [Record.loaded, Record.loaded, Fields.present_applyDelta, Fields.present_applyDelta,
      Fields.present_present]

/-- A snapshot takes the place of what was stored. -/
theorem recordAt_apply_snapshot {update : RecordUpdate} (hready : db.ready = true)
    (hnew : update.isNew = true ∨ db.recordAt store update.oid = .ok none) :
    (db.apply store update).recordAt store update.oid =
      .ok (some (Record.loaded update.oid update.fields)) := by
  have hnew' := hnew.imp_right fun hnone => (recordAt_eq_none_iff.1 hnone).2
  obtain ⟨hrecords, hready'⟩ := records_writeFields
    ((db.addRecord (.of store update.oid)).deleteFields (.of store update.oid))
    (.of store update.oid) update.fields
  rw [apply_of_new hnew']
  refine recordAt_eq_some_iff.2 ⟨hready'.trans hready, ?_, _, readsAs_snapshot db _ _, ?_⟩
  · rw [hrecords]
    show ((db.records.insert _ ()).get? _).isSome = true
    rw [SortedMap.get?_insert_self]
    rfl
  · rw [Record.loaded, Record.loaded, Fields.present_present]

/-- An update concerns look-ups of its own record only. -/
theorem recordAt_apply_of_ne (db : Database) {update : RecordUpdate} (hne : oid ≠ update.oid) :
    (db.apply store update).recordAt store oid = db.recordAt store oid :=
  (SameRecord.apply db fun h => hne (RecordKey.of_inj.1 h)).recordAt_eq
    (ready_apply db store update)

/-- A delta on a stored record leaves the list of records alone. -/
theorem keysOf_apply_delta {update : RecordUpdate}
    (hstored : db.recordAt store update.oid = .ok (some r)) (hnew : update.isNew = false) :
    (db.apply store update).keysOf store = db.keysOf store := by
  have hlisted := (recordAt_eq_some_iff.1 hstored).2.1
  rw [apply_of_listed hlisted hnew, keysOf, keysOf, (records_writeFields _ _ _).1]

/-! ### After other calls -/

/-- A removed record is not found. -/
theorem recordAt_deleteRecord (hready : db.ready = true) :
    (db.deleteRecord (.of store oid)).recordAt store oid = .ok none := by
  refine recordAt_eq_none_iff.2 ⟨hready, ?_⟩
  show ((db.records.erase _).get? _).isSome = false
  rw [SortedMap.get?_erase_self]
  rfl

/-- No record of a removed store is found. -/
theorem recordAt_deleteStore (hready : db.ready = true) :
    (db.deleteStore store).recordAt store oid = .ok none := by
  refine recordAt_eq_none_iff.2 ⟨hready, ?_⟩
  unfold deleteStore SortedMap.contains
  rw [SortedMap.get?_filter]
  cases db.records.get? (.of store oid) <;> simp [RecordKey.of]

/-- A call that stores no update of a record leaves it as it is, or removes it. -/
theorem recordAt_answer {call : RecordCall} (hcall : ¬call.Updates oid) {found : Option Record}
    (hfound : db.recordAt store oid = .ok found) :
    (answer store call db).2.recordAt store oid = .ok found ∨
      (answer store call db).2.recordAt store oid = .ok none := by
  have hready := ready_of_recordAt hfound
  have hchange : ∀ f, (change f db).2 = f db := by
    intro f
    rw [change_apply, if_pos hready]
  have hinspect : ∀ {α : Type} (f : Database → Except StoreError α), (inspect f db).2 = db :=
    fun f => congrArg Prod.snd (inspect_apply db f)
  cases call with
  | lifecycle op =>
    cases op with
    | setup =>
      have hsame : SameRecord (.of store oid) db { db with ready := true } := ⟨rfl, fun _ => rfl⟩
      exact .inl ((hsame.recordAt_eq hready.symm).trans hfound)
    | destroy =>
      show (change _ db).2.recordAt store oid = _ ∨ (change _ db).2.recordAt store oid = _
      rw [hchange]
      exact .inr (recordAt_deleteStore hready)
    | clear =>
      show (change _ db).2.recordAt store oid = _ ∨ (change _ db).2.recordAt store oid = _
      rw [hchange]
      exact .inr (recordAt_deleteStore hready)
    | maintenance => exact .inl hfound
  | get other =>
    rw [answer_get]
    exact .inl hfound
  | apply update =>
    rw [answer_apply hready]
    exact .inl ((recordAt_apply_of_ne db fun h => hcall h.symm).trans hfound)
  | remove other =>
    show (change _ db).2.recordAt store oid = _ ∨ (change _ db).2.recordAt store oid = _
    rw [hchange]
    by_cases hother : oid = other
    · subst hother
      exact .inr (recordAt_deleteRecord hready)
    · refine .inl (((SameRecord.deleteRecord db fun h => hother ?_).recordAt_eq rfl).trans hfound)
      exact RecordKey.of_inj.1 h
  | keys =>
    show (inspect _ db).2.recordAt store oid = _ ∨ _
    rw [hinspect]
    exact .inl hfound
  | query q =>
    rw [answer_query_snd]
    exact .inl hfound

end Database

end TieredStore
