import TieredStore.Proofs.Relational.StoredFields

/-!
# Rows that denote no value

The tables of a database may hold field rows whose kind or text denotes no value.  Conditions are
tested on the rows as they are, and the rows of the selected records are restored afterwards, so a
query fails exactly if one of the selected records has such a row, whatever is on the page that it
asks for.  A look-up fails exactly if its own record has one, and no other call fails for it.

A record is mended by whatever takes its bad rows away: its removal, a snapshot of all fields, or a
delta that mentions the bad fields.  Other records keep what they have, bad rows included.

Main results:

- Theorem `Database.load_cases`: a record is restored, or one of its bad rows is reported.
- Theorem `Database.exists_readsAs_writeFields`: a delta that mentions the bad fields mends a record.
- Theorem `Database.corruption_laws`: what fails, and what mends it, for all contents.
- Theorem `Database.exists_refused_query`: the limits of statements refuse queries that would meet
  no bad row.
-/

namespace TieredStore

/-- A step that fails for a list fails for a member of it, in the same way. -/
theorem exists_error_of_mapM {α β : Type} {f : α → Except StoreError β} {l : List α}
    {e : StoreError} (h : l.mapM f = .error e) : ∃ a ∈ l, f a = .error e := by
  induction l with
  | nil => cases h
  | cons a rest ih =>
    rw [List.mapM_cons] at h
    cases hfirst : f a with
    | error problem =>
      rw [hfirst] at h
      cases h
      exact ⟨a, List.mem_cons_self, hfirst⟩
    | ok b =>
      cases hrest : rest.mapM f with
      | error problem =>
        rw [hfirst, hrest] at h
        cases h
        obtain ⟨other, hother, herror⟩ := ih hrest
        exact ⟨other, List.mem_cons_of_mem _ hother, herror⟩
      | ok others =>
        rw [hfirst, hrest] at h
        cases h

/-- Each member of a list gives one of the results for the list. -/
theorem exists_result_of_mapM {α β : Type} {f : α → Except StoreError β} {l : List α}
    {results : List β} (h : l.mapM f = .ok results) : ∀ a ∈ l, ∃ b ∈ results, f a = .ok b := by
  induction l generalizing results with
  | nil => exact fun a ha => nomatch ha
  | cons a rest ih =>
    rw [List.mapM_cons] at h
    cases hfirst : f a with
    | error e =>
      rw [hfirst] at h
      cases h
    | ok b =>
      cases hrest : rest.mapM f with
      | error e =>
        rw [hfirst, hrest] at h
        cases h
      | ok others =>
        rw [hfirst, hrest] at h
        cases h
        refine List.forall_mem_cons.2 ⟨⟨b, List.mem_cons_self, hfirst⟩, fun other hother => ?_⟩
        obtain ⟨result, hresult, hf⟩ := ih hrest other hother
        exact ⟨result, List.mem_cons_of_mem _ hresult, hf⟩

/-! ## Limits of statements -/

namespace Condition

/-- Every condition that is joined makes a disjunction higher. -/
theorem le_height_extentOfAll (found : Extent) (parts : List Condition) :
    found.height + parts.length ≤ (extentOfAll .join found parts).height := by
  induction parts generalizing found with
  | nil => exact Nat.le_refl _
  | cons c rest ih =>
    have hjoin := (Extent.height_le_join found c.extent).1
    have hrest := ih (.join found c.extent)
    rw [extentOfAll, List.length_cons]
    omega

/-- A disjunction of several conditions is not the constant that never holds. -/
theorem never_extentOfAll (found : Extent) {parts : List Condition} (h : found.never = false) :
    (extentOfAll .join found parts).never = false := by
  induction parts generalizing found with
  | nil => exact h
  | cons c rest ih => exact ih _ rfl

/-- A disjunction of as many conditions as an expression may be high is refused. -/
theorem isAccepted_disjunction {parts : List Condition} (h : heightLimit ≤ parts.length) :
    (disjunction parts).isAccepted = false := by
  obtain ⟨c, d, rest, rfl⟩ : ∃ c d rest, parts = c :: d :: rest := by
    match parts, h with
    | c :: d :: rest, _ => exact ⟨c, d, rest, rfl⟩
  have hheight : c.extent.height + (d :: rest).length ≤
      (disjunction (c :: d :: rest)).extent.height := le_height_extentOfAll c.extent (d :: rest)
  have hnever : (disjunction (c :: d :: rest)).extent.never = false :=
    never_extentOfAll (.join c.extent d.extent) rfl
  have hmeet : Extent.meet ⟨3, 3, 0, false⟩ (disjunction (c :: d :: rest)).extent =
      .join ⟨3, 3, 0, false⟩ (disjunction (c :: d :: rest)).extent := by
    rw [Extent.meet, hnever]
    rfl
  have hstore := (Extent.height_le_join ⟨3, 3, 0, false⟩
    (disjunction (c :: d :: rest)).extent).2
  have hwhole := (Extent.height_le_join
    (.join ⟨3, 3, 0, false⟩ (disjunction (c :: d :: rest)).extent) ⟨4, 4, 0, false⟩).1
  rw [List.length_cons] at hheight
  rw [List.length_cons, List.length_cons] at h
  rw [Bool.eq_false_iff]
  intro haccepted
  rw [isAccepted, hmeet] at haccepted
  simp only [Bool.and_eq_true, decide_eq_true_eq] at haccepted
  omega

end Condition

namespace Database

variable {db db' : Database} {store : String} {key : RecordKey} {oid : Oid} {fields : Fields}
  {e : StoreError}

/-! ## Bad rows -/

/-- Whether the row of a field denotes no value. -/
def IsBad (db : Database) (key : RecordKey) (field : String) : Prop :=
  ∃ row, db.row? key field = some row ∧ FieldRow.decode row.kind row.text = none

/-- Whether a record has a bad row. -/
def IsCorrupt (db : Database) (key : RecordKey) : Prop := ∃ field, db.IsBad key field

/-- Whether an error reports a bad row of a record. -/
def Reports (db : Database) (key : RecordKey) (e : StoreError) : Prop :=
  ∃ field row, db.row? key field = some row ∧ FieldRow.decode row.kind row.text = none ∧
    e = .storage (.corruptRow row.kind row.text)

/-- Whether fields are those of a record whose rows denote values. -/
def Denotes (db : Database) (key : RecordKey) (fields : Fields) : Prop :=
  ∀ field v, fields.get? field = some v ↔
    ∃ row, db.row? key field = some row ∧ FieldRow.decode row.kind row.text = some v

/-- A record with a bad row that is reported is corrupt. -/
theorem Reports.isCorrupt (h : db.Reports key e) : db.IsCorrupt key := by
  obtain ⟨field, row, hrow, hdecode, -⟩ := h
  exact ⟨field, row, hrow, hdecode⟩

/-- A row has the value that it denotes. -/
theorem value_eq_ok_iff (row : FieldRow) (v : Value) :
    row.value = .ok v ↔ FieldRow.decode row.kind row.text = some v := by
  rw [FieldRow.value]
  cases FieldRow.decode row.kind row.text <;> simp

/-- A row that denotes no value is reported. -/
theorem value_eq_error_iff (row : FieldRow) (e : StoreError) :
    row.value = .error e ↔ FieldRow.decode row.kind row.text = none ∧
      e = .storage (.corruptRow row.kind row.text) := by
  rw [FieldRow.value]
  cases FieldRow.decode row.kind row.text <;> simp [eq_comm]

/-- The rows of a record read as its fields exactly if none of them is bad and they denote the
fields. -/
theorem readsAs_iff : db.ReadsAs key fields ↔ ¬db.IsCorrupt key ∧ db.Denotes key fields := by
  constructor
  · intro h
    refine ⟨?_, fun field v => ⟨fun hget => ?_, ?_⟩⟩
    · rintro ⟨field, row, hrow, hdecode⟩
      obtain ⟨v, -, hv⟩ := h.value hrow
      rw [(value_eq_ok_iff row v).1 hv] at hdecode
      cases hdecode
    · obtain ⟨row, hrow, hv⟩ := h.row hget
      exact ⟨row, hrow, (value_eq_ok_iff row v).1 hv⟩
    · rintro ⟨row, hrow, hdecode⟩
      obtain ⟨v', hget, hv⟩ := h.value hrow
      rw [(value_eq_ok_iff row v').1 hv] at hdecode
      rw [hget, hdecode]
  · rintro ⟨hsound, hdenotes⟩ field
    cases hrow : db.row? key field with
    | none =>
      cases hget : fields.get? field with
      | none => rfl
      | some v =>
        obtain ⟨row, hfound, -⟩ := (hdenotes field v).1 hget
        rw [hrow] at hfound
        cases hfound
    | some row =>
      cases hdecode : FieldRow.decode row.kind row.text with
      | none => exact absurd ⟨field, row, hrow, hdecode⟩ hsound
      | some v =>
        rw [(hdenotes field v).2 ⟨row, hrow, hdecode⟩, Option.map_some, Option.map_some,
          (value_eq_ok_iff row v).2 hdecode]

/-- The good rows of a record denote some fields, whatever its bad rows are. -/
theorem exists_denotes (db : Database) (key : RecordKey) : ∃ fields, db.Denotes key fields := by
  let good : Database :=
    { db with fields := db.fields.filter fun _ row => (FieldRow.decode row.kind row.text).isSome }
  have hrow : ∀ field row, good.row? key field = some row ↔ db.row? key field = some row ∧
      ∃ v, FieldRow.decode row.kind row.text = some v := by
    intro field row
    show (db.fields.filter _).get? _ = _ ↔ _
    rw [SortedMap.get?_filter, Option.filter_eq_some_iff, Option.isSome_iff_exists]
    rfl
  obtain ⟨fields, hreads⟩ : ∃ fields, good.ReadsAs key fields :=
      exists_readsAs fun field row hfound => by
    obtain ⟨-, v, hv⟩ := (hrow field row).1 hfound
    exact ⟨v, (value_eq_ok_iff row v).2 hv⟩
  refine ⟨fields, fun field v => ((readsAs_iff.1 hreads).2 field v).trans ⟨?_, ?_⟩⟩
  · rintro ⟨row, hfound, hdecode⟩
    exact ⟨row, ((hrow field row).1 hfound).1, hdecode⟩
  · rintro ⟨row, hfound, hdecode⟩
    exact ⟨row, (hrow field row).2 ⟨hfound, v, hdecode⟩, hdecode⟩

/-- A record without bad rows is restored; otherwise one of the bad rows is reported. -/
theorem load_cases (db : Database) (store : String) (oid : Oid) :
    (¬db.IsCorrupt (.of store oid) ∧
        ∃ fields, db.ReadsAs (.of store oid) fields ∧
          db.load (.of store oid) = .ok (Record.loaded oid fields)) ∨
      ∃ e, db.Reports (.of store oid) e ∧ db.load (.of store oid) = .error e := by
  cases hload : db.load (.of store oid) with
  | ok r =>
    obtain ⟨fields, hreads, rfl⟩ := load_eq_ok_iff.1 hload
    exact .inl ⟨(readsAs_iff.1 hreads).1, fields, hreads, rfl⟩
  | error e =>
    refine .inr ⟨e, ?_, rfl⟩
    have hparse : Oid.parse (RecordKey.of store oid).identifier = .ok oid := Oid.parse_text oid
    cases hvalues : (db.rowsOf (.of store oid)).mapM
        (fun e => e.2.value.map fun v => (e.1, v)) with
    | ok values =>
      simp only [load, hparse, bind, Except.bind, hvalues] at hload
      cases hload
    | error problem =>
      simp only [load, hparse, bind, Except.bind, hvalues] at hload
      cases hload
      obtain ⟨⟨field, row⟩, hmem, hvalue⟩ := exists_error_of_mapM hvalues
      cases hrow : row.value with
      | ok v =>
        simp only [hrow] at hvalue
        cases hvalue
      | error other =>
        simp only [hrow] at hvalue
        cases hvalue
        obtain ⟨hdecode, hother⟩ := (value_eq_error_iff row _).1 hrow
        exact ⟨field, row, (db.mem_rowsOf _ field row).1 hmem, hdecode, hother⟩

/-- Restoring a record fails exactly if it is corrupt. -/
theorem load_fails_iff : (∃ e, db.load (.of store oid) = .error e) ↔ db.IsCorrupt (.of store oid) := by
  rcases db.load_cases store oid with ⟨hsound, fields, -, hload⟩ | ⟨e, hreports, hload⟩
  · rw [hload]
    exact ⟨fun h => (nomatch h), fun h => absurd h hsound⟩
  · exact ⟨fun _ => hreports.isCorrupt, fun _ => ⟨e, hload⟩⟩

/-! ## What is written -/

/-- A delta applies to the fields that the rows of a record denote. -/
theorem Denotes.writeFields (h : db.Denotes key fields) (delta : Fields) :
    (db.writeFields key delta).Denotes key (delta.applyDelta fields) := by
  intro field v
  rw [row?_writeFields_self, Fields.get?_applyDelta]
  cases delta.get? field with
  | none => exact h field v
  | some value =>
    cases hnull : value.isNull with
    | true =>
      rw [(value.isNull_eq_true_iff).1 hnull]
      exact ⟨nofun, fun ⟨row, hrow, _⟩ => nomatch hrow⟩
    | false =>
      have hrow := FieldRow.ofValue?_of_not_null hnull
      have hdecode := (value_eq_ok_iff _ value).1 (FieldRow.value_of_ofValue? hrow)
      simp only [hnull]
      constructor
      · intro hsame
        obtain rfl := Option.some.inj hsame
        exact ⟨_, hrow, hdecode⟩
      · rintro ⟨row, hfound, hv⟩
        obtain rfl := Option.some.inj (hrow.symm.trans hfound)
        exact hdecode.symm.trans hv

/-- The fields that a delta mentions are good afterwards. -/
theorem not_isBad_writeFields {delta : Fields} {field : String}
    (h : db.IsBad key field → delta.get? field ≠ none) :
    ¬(db.writeFields key delta).IsBad key field := by
  rintro ⟨row, hrow, hdecode⟩
  rw [row?_writeFields_self] at hrow
  cases hget : delta.get? field with
  | none =>
    rw [hget] at hrow
    exact h ⟨row, hrow, hdecode⟩ hget
  | some value =>
    rw [hget] at hrow
    have hv := (value_eq_ok_iff row value).1 (FieldRow.value_of_ofValue? hrow)
    rw [hdecode] at hv
    cases hv

/-- A delta that mentions the bad fields mends a record: it reads as the fields that the good rows
denoted, with the delta applied. -/
theorem exists_readsAs_writeFields {delta : Fields}
    (h : ∀ field, db.IsBad key field → delta.get? field ≠ none) :
    ∃ fields, db.Denotes key fields ∧
      (db.writeFields key delta).ReadsAs key (delta.applyDelta fields) := by
  obtain ⟨fields, hdenotes⟩ := db.exists_denotes key
  refine ⟨fields, hdenotes, readsAs_iff.2 ⟨?_, hdenotes.writeFields delta⟩⟩
  rintro ⟨field, hbad⟩
  exact not_isBad_writeFields (h field) hbad

/-! ## What fails -/

/-- Whether a record of a store is listed. -/
def Lists (db : Database) (store : String) (oid : Oid) : Prop :=
  db.records.contains (.of store oid) = true

/-- Whether the identifiers that a store lists are OIDs. -/
def HasOids (db : Database) (store : String) : Prop :=
  ∀ key ∈ db.keysOf store, ∃ oid, key = .of store oid

/-- The keys of a store are those of the records that it lists. -/
theorem mem_keysOf_iff : key ∈ db.keysOf store ↔ db.records.contains key = true ∧ key.store = store := by
  rw [keysOf, SortedMap.mem_keys_iff, SortedMap.contains_iff]
  simp only [SortedMap.get?_filter, Option.filter_eq_some_iff, beq_iff_eq, exists_and_right]

/-- A look-up fails exactly if the record is listed and corrupt, and reports a bad row. -/
theorem recordAt_fails_iff (hready : db.ready = true) :
    (∃ e, db.recordAt store oid = .error e) ↔ db.Lists store oid ∧ db.IsCorrupt (.of store oid) := by
  rw [recordAt_eq, if_pos hready, Lists, ← load_fails_iff]
  cases db.records.contains (.of store oid) with
  | false => exact ⟨nofun, nofun⟩
  | true =>
    rw [if_pos rfl]
    cases db.load (.of store oid) with
    | error e => exact ⟨fun _ => ⟨rfl, e, rfl⟩, fun _ => ⟨e, rfl⟩⟩
    | ok r => exact ⟨nofun, nofun⟩

/-- The error of a look-up reports a bad row of the record. -/
theorem reports_of_recordAt (hready : db.ready = true) (h : db.recordAt store oid = .error e) :
    db.Reports (.of store oid) e := by
  rw [recordAt_eq, if_pos hready] at h
  split at h
  · rcases db.load_cases store oid with ⟨-, fields, -, hload⟩ | ⟨problem, hreports, hload⟩
    · rw [hload] at h
      cases h
    · rw [hload] at h
      cases h
      exact hreports
  · cases h

/-- A query that is valid and accepted orders and pages what its condition selects. -/
theorem answer_query_of_accepted (hready : db.ready = true) {q : Query} (hvalid : q.validate = .ok ())
    (haccepted : (Condition.ofQuery q).isAccepted = true) :
    answer store (.query q) db =
      ((db.select store (Condition.ofQuery q)).map q.orderAndPage, db) := by
  unfold answer
  simp only [Action.bind_apply, Action.ofExcept_apply, hvalid, haccepted]
  rw [if_pos trivial, inspect_apply, if_pos hready]

/-- Whether a condition selects a record of a store. -/
def Selects (db : Database) (store : String) (condition : Condition) (oid : Oid) : Prop :=
  db.Lists store oid ∧ condition.holds (db.row? (.of store oid)) = true

/-- The error of a selection reports a bad row of a record that is selected. -/
theorem reports_of_select (hoids : db.HasOids store) {condition : Condition}
    (h : db.select store condition = .error e) :
    ∃ oid, db.Selects store condition oid ∧ db.Reports (.of store oid) e := by
  obtain ⟨key, hkey, hload⟩ := exists_error_of_mapM h
  obtain ⟨hlisted, hholds⟩ := List.mem_filter.1 hkey
  obtain ⟨oid, rfl⟩ := hoids key hlisted
  rcases db.load_cases store oid with ⟨-, fields, -, hsound⟩ | ⟨problem, hreports, hproblem⟩
  · rw [hsound] at hload
    cases hload
  · rw [hproblem] at hload
    cases hload
    exact ⟨oid, ⟨(mem_keysOf_iff.1 hlisted).1, hholds⟩, hreports⟩

/-- A selection fails exactly if a record that is selected is corrupt. -/
theorem select_fails_iff (hoids : db.HasOids store) (condition : Condition) :
    (∃ e, db.select store condition = .error e) ↔
      ∃ oid, db.Selects store condition oid ∧ db.IsCorrupt (.of store oid) := by
  constructor
  · rintro ⟨e, h⟩
    obtain ⟨oid, hselects, hreports⟩ := reports_of_select hoids h
    exact ⟨oid, hselects, hreports.isCorrupt⟩
  · rintro ⟨oid, ⟨hlists, hholds⟩, hcorrupt⟩
    cases hselect : db.select store condition with
    | error e => exact ⟨e, rfl⟩
    | ok selected =>
      have hmem : RecordKey.of store oid ∈
          (db.keysOf store).filter fun key => condition.holds (db.row? key) :=
        List.mem_filter.2 ⟨mem_keysOf_iff.2 ⟨hlists, rfl⟩, hholds⟩
      obtain ⟨r, hload⟩ := exists_ok_of_mapM hselect _ hmem
      obtain ⟨e, herror⟩ := load_fails_iff.2 hcorrupt
      rw [hload] at herror
      cases herror

/-- The keys of a store are read whatever its rows are. -/
theorem exists_keys (hready : db.ready = true) (hoids : db.HasOids store) :
    ∃ oids, answer store .keys db = (.ok oids, db) := by
  show ∃ oids, inspect _ db = _
  rw [inspect_apply, if_pos hready]
  cases hkeys : (db.keysOf store).mapM fun key => Oid.parse key.identifier with
  | ok oids => exact ⟨oids, rfl⟩
  | error e =>
    obtain ⟨key, hkey, hparse⟩ := exists_error_of_mapM hkeys
    obtain ⟨oid, rfl⟩ := hoids key hkey
    rw [RecordKey.of, Oid.parse_text] at hparse
    cases hparse

/-! ## What mends a record -/

/-- Whether a change of the tables mends a record: it is found as it is meant to be, queries that
meet no other corrupt record are answered and have it as it is found, and the other records are what
they were. -/
structure Mends (store : String) (oid : Oid) (found : Option Record) (db db' : Database) : Prop where
  get : answer store (.get oid) db' = (.ok found, db')
  query : ∀ q, q.validate = .ok () → (Condition.ofQuery q).isAccepted = true →
    (∀ other, other ≠ oid → db.Selects store (Condition.ofQuery q) other →
      ¬db.IsCorrupt (.of store other)) →
    ∃ selected, answer store (.query q) db' = (.ok (q.orderAndPage selected), db') ∧
      (db'.Selects store (Condition.ofQuery q) oid → ∃ r ∈ selected, found = some r) ∧
      ∀ r ∈ selected, r.oid = oid → found = some r
  others : ∀ other, other ≠ oid → SameRecord (.of store other) db db'

/-- Records that are the same are corrupt alike. -/
theorem SameRecord.isCorrupt_iff (h : SameRecord key db db') :
    db'.IsCorrupt key ↔ db.IsCorrupt key := by
  simp only [IsCorrupt, IsBad, h.rows]

/-- Records that are the same are selected alike. -/
theorem SameRecord.selects_iff (h : SameRecord (.of store oid) db db') (condition : Condition) :
    db'.Selects store condition oid ↔ db.Selects store condition oid := by
  rw [Selects, Selects, Lists, Lists, h.listed, funext h.rows]

/-- A record is mended if it is found again and the other records are what they were. -/
theorem mends_of_found (hready : db'.ready = true) (hoids : db'.HasOids store)
    {found : Option Record} (hfound : db'.recordAt store oid = .ok found)
    (hothers : ∀ other, other ≠ oid → SameRecord (.of store other) db db') :
    Mends store oid found db db' := by
  refine ⟨?_, fun q hvalid haccepted hsound => ?_, hothers⟩
  · rw [answer_get, hfound]
  · cases hselect : db'.select store (Condition.ofQuery q) with
    | error e =>
      -- the record itself is found, so another one would be corrupt
      obtain ⟨other, hselects, hcorrupt⟩ := (select_fails_iff hoids _).1 ⟨e, hselect⟩
      by_cases hother : other = oid
      · subst hother
        obtain ⟨problem, hfails⟩ := (recordAt_fails_iff hready).2 ⟨hselects.1, hcorrupt⟩
        rw [hfound] at hfails
        cases hfails
      · have hsame := hothers other hother
        exact absurd (hsame.isCorrupt_iff.1 hcorrupt)
          (hsound other hother ((hsame.selects_iff _).1 hselects))
    | ok selected =>
      refine ⟨selected, ?_, fun hselects => ?_, fun r hr hoid => ?_⟩
      · rw [answer_query_of_accepted hready hvalid haccepted, hselect]
        rfl
      · have hmem : RecordKey.of store oid ∈ (db'.keysOf store).filter fun key =>
            (Condition.ofQuery q).holds (db'.row? key) :=
          List.mem_filter.2 ⟨mem_keysOf_iff.2 ⟨hselects.1, rfl⟩, hselects.2⟩
        obtain ⟨r, hr, hload⟩ := exists_result_of_mapM hselect _ hmem
        have hrecord := recordAt_of_mem_select hready hselect hr
        rw [← Oid.ext_text (identifier_of_load hload), hfound] at hrecord
        exact ⟨r, hr, Except.ok.inj hrecord⟩
      · have hrecord := recordAt_of_mem_select hready hselect hr
        rw [hoid, hfound] at hrecord
        exact Except.ok.inj hrecord

/-- A store still lists OIDs only, if it lists no record more but one with an OID. -/
theorem HasOids.of_sameRecord (h : db.HasOids store)
    (hothers : ∀ key, key ≠ .of store oid → SameRecord key db db') : db'.HasOids store := by
  intro key hkey
  by_cases hsame : key = .of store oid
  · exact ⟨oid, hsame⟩
  · obtain ⟨hlisted, hstore⟩ := mem_keysOf_iff.1 hkey
    rw [(hothers key hsame).listed] at hlisted
    exact h key (mem_keysOf_iff.2 ⟨hlisted, hstore⟩)

/-- Removing a record mends it: it is not found any more. -/
theorem mends_remove (hready : db.ready = true) (hoids : db.HasOids store) (oid : Oid) :
    Mends store oid none db (db.deleteRecord (.of store oid)) :=
  have hready : (db.deleteRecord (.of store oid)).ready = true := hready
  mends_of_found hready
    (hoids.of_sameRecord fun _ hne => SameRecord.deleteRecord db hne)
    (recordAt_deleteRecord hready)
    fun _ hne => SameRecord.deleteRecord db fun hkey => hne (RecordKey.of_inj.1 hkey)

/-- An update mends its record if the record is found afterwards. -/
theorem mends_apply (hready : db.ready = true) (hoids : db.HasOids store) {update : RecordUpdate}
    {found : Option Record}
    (hfound : (db.apply store update).recordAt store update.oid = .ok found) :
    Mends store update.oid found db (db.apply store update) :=
  mends_of_found ((ready_apply db store update).trans hready)
    (hoids.of_sameRecord fun _ hne => SameRecord.apply db hne) hfound
    fun _ hne => SameRecord.apply db fun hkey => hne (RecordKey.of_inj.1 hkey)

/-- A delta that mentions the bad fields mends a record that is listed. -/
theorem exists_mends_delta (hready : db.ready = true) (hoids : db.HasOids store)
    {update : RecordUpdate} (hlists : db.Lists store update.oid) (hnew : update.isNew = false)
    (hbad : ∀ field, db.IsBad (.of store update.oid) field → update.delta.get? field ≠ none) :
    ∃ fields, db.Denotes (.of store update.oid) fields ∧
      Mends store update.oid (some (Record.loaded update.oid (update.delta.applyDelta fields))) db
        (db.apply store update) := by
  obtain ⟨fields, hdenotes, hreads⟩ := exists_readsAs_writeFields hbad
  obtain ⟨hrecords, hready'⟩ := db.records_writeFields (.of store update.oid) update.delta
  refine ⟨fields, hdenotes, mends_apply hready hoids ?_⟩
  rw [apply_of_listed hlists hnew]
  refine recordAt_eq_some_iff.2 ⟨hready'.trans hready, ?_, _, hreads, rfl⟩
  rw [hrecords]
  exact hlists

/-! ## The laws of bad rows -/

/-- What holds for a store whatever its field rows are. -/
structure CorruptionLaws (db : Database) (store : String) : Prop where
  /-- A look-up fails exactly if its record has a bad row, and reports one. -/
  get_fails_iff : ∀ oid, (∃ e, (answer store (.get oid) db).1 = .error e) ↔
    db.Lists store oid ∧ db.IsCorrupt (.of store oid)
  get_reports : ∀ oid e, (answer store (.get oid) db).1 = .error e → db.Reports (.of store oid) e
  /-- A query that the database takes fails exactly if a record that its condition selects has a bad
  row, and reports one; neither its order nor its page matters. -/
  query_fails_iff : ∀ q, q.validate = .ok () → (Condition.ofQuery q).isAccepted = true →
    ((∃ e, (answer store (.query q) db).1 = .error e) ↔
      ∃ oid, db.Selects store (Condition.ofQuery q) oid ∧ db.IsCorrupt (.of store oid))
  query_reports : ∀ q, q.validate = .ok () → (Condition.ofQuery q).isAccepted = true →
    ∀ e, (answer store (.query q) db).1 = .error e →
      ∃ oid, db.Selects store (Condition.ofQuery q) oid ∧ db.Reports (.of store oid) e
  /-- Reads change nothing, whether they fail or not. -/
  get_unchanged : ∀ oid, (answer store (.get oid) db).2 = db
  query_unchanged : ∀ q, (answer store (.query q) db).2 = db
  /-- All other calls are answered. -/
  keys_answered : ∃ oids, answer store .keys db = (.ok oids, db)
  clear_answered : (answer store (.lifecycle .clear) db).1 = .ok ()
  remove_answered : ∀ oid, (answer store (.remove oid) db).1 = .ok ()
  apply_answered : ∀ update, (answer store (.apply update) db).1 = .ok ()
  /-- A record that is removed is mended. -/
  removed : ∀ oid, Mends store oid none db (answer store (.remove oid) db).2
  /-- A record that is stored as a new one is mended. -/
  renewed : ∀ update, update.isNew = true →
    Mends store update.oid (some (Record.loaded update.oid update.fields)) db
      (answer store (.apply update) db).2
  /-- A record whose bad fields are all set or deleted by a delta is mended: the delta applies to the
  fields that its good rows denote. -/
  changed : ∀ update, update.isNew = false → db.Lists store update.oid →
    (∀ field, db.IsBad (.of store update.oid) field → update.delta.get? field ≠ none) →
    ∃ fields, db.Denotes (.of store update.oid) fields ∧
      Mends store update.oid (some (Record.loaded update.oid (update.delta.applyDelta fields))) db
        (answer store (.apply update) db).2

/-- The laws hold for all tables that are set up and list OIDs, whatever their field rows are. -/
theorem corruption_laws (hready : db.ready = true) (hoids : db.HasOids store) :
    db.CorruptionLaws store := by
  have hchange : ∀ f, change f db = (.ok (), f db) := fun f => by rw [change_apply, if_pos hready]
  have hremove : ∀ oid, answer store (.remove oid) db = (.ok (), db.deleteRecord (.of store oid)) :=
    fun oid => hchange fun db => db.deleteRecord (.of store oid)
  constructor
  case get_fails_iff => exact fun oid => recordAt_fails_iff hready
  case get_reports => exact fun oid e => reports_of_recordAt hready
  case query_fails_iff =>
    intro q hvalid haccepted
    rw [answer_query_of_accepted hready hvalid haccepted, ← select_fails_iff hoids]
    cases db.select store (Condition.ofQuery q) with
    | error e => exact ⟨fun _ => ⟨e, rfl⟩, fun _ => ⟨e, rfl⟩⟩
    | ok selected => exact ⟨nofun, nofun⟩
  case query_reports =>
    intro q hvalid haccepted e he
    rw [answer_query_of_accepted hready hvalid haccepted] at he
    refine reports_of_select hoids ?_
    cases hselect : db.select store (Condition.ofQuery q) with
    | error problem =>
      rw [hselect] at he
      exact he
    | ok selected =>
      rw [hselect] at he
      cases he
  case get_unchanged => exact fun oid => by rw [answer_get]
  case query_unchanged => exact answer_query_snd db store
  case keys_answered => exact exists_keys hready hoids
  case clear_answered => exact congrArg Prod.fst (hchange fun db => db.deleteStore store)
  case remove_answered => exact fun oid => by rw [hremove]
  case apply_answered => exact fun update => by rw [answer_apply hready]
  case removed =>
    intro oid
    rw [hremove]
    exact mends_remove hready hoids oid
  case renewed =>
    intro update hnew
    rw [answer_apply hready]
    exact mends_apply hready hoids (recordAt_apply_snapshot hready (.inl hnew))
  case changed =>
    intro update hnew hlists hbad
    rw [answer_apply hready]
    exact exists_mends_delta hready hoids hlists hnew hbad

/-! ### A record with a bad row -/

/-- The OID of a user. -/
def adaOid : Oid := ⟨"ada", by decide⟩

/-- A user whose age is no number. -/
def oneBadAge : Database :=
  (({ ready := true } : Database).insertRow (.of "users" adaOid) "name" ⟨"s", "Ada", none⟩).insertRow
    (.of "users" adaOid) "age" ⟨"i", "old", none⟩

/-- The user cannot be looked up until a delta deletes the age; the name is still there then. -/
theorem corruption_laws_oneBadAge :
    oneBadAge.CorruptionLaws "users" ∧
      (∃ e, (answer "users" (.get adaOid) oneBadAge).1 = .error e) ∧
      (answer "users" (.get adaOid) (answer "users"
          (.apply ⟨adaOid, ∅, SortedMap.ofList [("age", .null)], false⟩) oneBadAge).2).1 =
        .ok (some (Record.loaded adaOid (SortedMap.ofList [("name", .text "Ada")]))) := by
  have hoids : oneBadAge.HasOids "users" := by
    intro key hkey
    have hkeys : oneBadAge.keysOf "users" = [.of "users" adaOid] := by decide +kernel
    rw [hkeys] at hkey
    exact ⟨adaOid, List.mem_singleton.1 hkey⟩
  have hlaws : oneBadAge.CorruptionLaws "users" := corruption_laws rfl hoids
  have hlists : oneBadAge.Lists "users" adaOid := by
    rw [Lists]
    decide +kernel
  have hage : oneBadAge.row? (.of "users" adaOid) "age" = some ⟨"i", "old", none⟩ := by
    decide +kernel
  refine ⟨hlaws, (hlaws.get_fails_iff adaOid).2 ⟨hlists, "age", _, hage, by decide +kernel⟩, ?_⟩
  show recordAt _ "users" adaOid = .ok (some _)
  decide +kernel

/-! ### A query that is refused -/

/-- A query for many alternatives. -/
def wideQuery : Query := .filter (.any (List.replicate 1100 (.compare "f" .eq (.int 1))))

/-- The query has valid field names and would select nothing, and is refused: its statement would be
higher than a database takes. -/
theorem exists_refused_query : ∃ (db : Database) (store : String) (q : Query),
    db.ready = true ∧ db.HasOids store ∧ q.validate = .ok () ∧
      (∃ e, (answer store (.query q) db).1 = .error e) ∧
      ¬∃ oid, db.Selects store (Condition.ofQuery q) oid ∧ db.IsCorrupt (.of store oid) := by
  refine ⟨{ ready := true }, "users", wideQuery, rfl, fun key hkey => (nomatch hkey),
    by decide +kernel, ?_, fun ⟨_, hselects, _⟩ => nomatch hselects.1⟩
  have hrefused : ¬(Condition.ofQuery wideQuery).isAccepted = true := by
    rw [Bool.not_eq_true]
    exact Condition.isAccepted_disjunction (by decide +kernel)
  obtain ⟨e, he⟩ : ∃ e, answer "users" (.query wideQuery) { ready := true } = (.error e, _) :=
    answer_query_of_not_accepted hrefused
  exact ⟨e, congrArg Prod.fst he⟩

end Database

end TieredStore
