import TieredStore.Proofs.Storage.StoredRecords

/-!
# Saving records

A record is a copy of what is stored, and a save sends the changes of the copy alone if the
store has the record, otherwise all of its fields.  As long as nobody else writes the record,
which may be removed, both come to the same: what is stored after a save are the fields of the
copy.  Copies of one record that were changed in different fields can be saved in any order.

Main results:

- Theorem `RecordBase.run_save_of_stored`: a save changes a stored record by what the copy has
  staged, and nothing else.
- Theorem `RecordHistory.tracks`: whatever is done to a record, its fields are those that are
  stored, changed by what it has staged.
- Theorem `RecordHistory.get_after_save`: a look-up after a save gives the saved record.
- Theorem `RecordBase.saveAll_apart`: copies with different changes are merged in any order.
-/

namespace TieredStore

/-- Saves records one after the other. -/
def Records.saveAll : List Record → Program RecordCall (List Record)
  | [] => pure []
  | r :: rest => do
    let saved ← save r
    let others ← saveAll rest
    pure (saved :: others)

/-- A record without changes is what a save would leave. -/
theorem Record.markSaved_of_clean {r : Record} (h : r.isDirty = false) : r.markSaved = r := by
  obtain ⟨oid, fields, ⟨entries, ascending⟩, persisted⟩ := r
  rw [isDirty, Bool.or_eq_false_iff, Bool.not_eq_false', Bool.not_eq_false'] at h
  obtain ⟨hpersisted, hstaged⟩ := h
  have hpersisted' : persisted = true := hpersisted
  have hentries : entries = [] := List.isEmpty_iff.1 hstaged
  subst hpersisted' hentries
  rfl

/-- A record that was stored is no new one to the store. -/
theorem Record.isNew_pendingUpdate {r : Record} (h : r.persisted = true) :
    r.pendingUpdate.isNew = false := by
  rw [pendingUpdate, h]
  rfl

namespace RecordStore

variable {r : Record}

/-- Saving a record without changes makes no call. -/
theorem run_save_of_clean (store : RecordStore) (s : Storage) (h : r.isDirty = false) :
    store.run (Records.save r) s = (.ok r, s) := by
  rw [run, Records.save_of_clean h]
  rfl

/-- Saving a record with changes stores its update. -/
theorem run_save_of_dirty (store : RecordStore) (s : Storage) (h : r.isDirty = true) :
    store.run (Records.save r) s =
      ((store.perform (.apply r.pendingUpdate) s).1.map fun _ => r.markSaved,
        (store.perform (.apply r.pendingUpdate) s).2) := by
  have hcall : (Records.apply r.pendingUpdate).run store.perform =
      store.perform (.apply r.pendingUpdate) := Program.run_ofCall _ _
  rw [run, Records.save, if_pos h, Program.run_bind, Action.bind_apply, hcall]
  rcases store.perform (.apply r.pendingUpdate) s with ⟨_ | _, _⟩ <;> rfl

end RecordStore

namespace RecordBase

variable {base : RecordBase} {s s' : Storage} {oid : Oid} {r stored : Record}

/-! ## Programs on a base store -/

/-- A base store answers the calls that it gets. -/
theorem perform_base (base : RecordBase) : RecordStore.perform (.base base) = base.answer := by
  funext call
  rw [RecordStore.perform, Store.perform]
  rfl

/-- So it does in programs. -/
theorem run_eq {α : Type} (base : RecordBase) (p : Program RecordCall α) :
    RecordStore.run (.base base) p = p.run base.answer := by
  rw [RecordStore.run, perform_base]

/-- A look-up gives what is stored and changes nothing. -/
theorem run_record? (base : RecordBase) (s : Storage) (oid : Oid) :
    RecordStore.run (.base base) (Records.record? oid) s = (base.recordAt s oid, s) := by
  rw [run_eq, Records.record?, Program.run_ofCall, answer_get]

/-- A query changes nothing. -/
theorem run_query (base : RecordBase) (s : Storage) (q : Query) :
    RecordStore.run (.base base) (Records.query q) s = ((base.answer (.query q) s).1, s) := by
  have hread : (RecordCall.query q).IsRead := trivial
  rw [run_eq, Records.query, Program.run_ofCall]
  exact Prod.ext rfl (base.answer_read_snd hread s)

/-- Saving a record without changes makes no call. -/
theorem run_save_of_clean (base : RecordBase) (s : Storage) (h : r.isDirty = false) :
    RecordStore.run (.base base) (Records.save r) s = (.ok r, s) :=
  RecordStore.run_save_of_clean _ s h

/-- Saving a record with changes stores its update. -/
theorem run_save_of_dirty (base : RecordBase) (s : Storage) (h : r.isDirty = true) :
    RecordStore.run (.base base) (Records.save r) s =
      ((base.answer (.apply r.pendingUpdate) s).1.map fun _ => r.markSaved,
        (base.answer (.apply r.pendingUpdate) s).2) := by
  rw [RecordStore.run_save_of_dirty _ s h, perform_base]

/-- A save changes a stored record by what the copy has staged, and nothing else. -/
theorem run_save_of_stored (hstored : base.recordAt s r.oid = .ok (some stored))
    (hpersisted : r.persisted = true) :
    ∃ s', RecordStore.run (.base base) (Records.save r) s = (.ok r.markSaved, s') ∧
      base.recordAt s' r.oid =
        .ok (some (Record.loaded r.oid (r.staged.applyDelta stored.fields))) ∧
      base.listed s' = base.listed s ∧
      ∀ other, other ≠ r.oid → base.recordAt s' other = base.recordAt s other := by
  cases hdirty : r.isDirty with
  | false =>
    obtain ⟨hoid, hloaded⟩ := isLoaded_of_recordAt hstored
    have hsame : Record.loaded r.oid (r.staged.applyDelta stored.fields) = stored := by
      have hstaged : r.staged = ∅ :=
        (congrArg Record.staged (Record.markSaved_of_clean hdirty)).symm
      have hempty : Fields.applyDelta ∅ stored.fields = stored.fields := rfl
      rw [hstaged, hempty, ← hoid, ← hloaded]
    refine ⟨s, ?_, ?_, rfl, fun _ _ => rfl⟩
    · rw [run_save_of_clean base s hdirty, Record.markSaved_of_clean hdirty]
    · rw [hsame, hstored]
  | true =>
    have hnew := Record.isNew_pendingUpdate hpersisted
    refine ⟨_, ?_, @recordAt_apply_delta base s stored r.pendingUpdate hstored hnew,
      @listed_apply_delta base s stored r.pendingUpdate hstored hnew,
      fun other hne => recordAt_apply_of_ne base s hne⟩
    rw [run_save_of_dirty base s hdirty, answer_apply_of_answered hstored]
    rfl

end RecordBase

/-! ## What is done to a record -/

/-- A record and the storage after any run of changes and saves since the record was made or
loaded.  In the meantime nobody else writes the record, but it may be removed. -/
inductive RecordHistory (base : RecordBase) : Record → Storage → Prop where
  | fresh (oid : Oid) {s : Storage} : base.IsHeld s → RecordHistory base (Record.create oid) s
  | loaded {oid : Oid} {r : Record} {s s' : Storage} :
    RecordStore.run (.base base) (Records.record? oid) s = (.ok (some r), s') →
      RecordHistory base r s'
  | queried {q : Query} {rows : List Record} {r : Record} {s s' : Storage} :
    RecordStore.run (.base base) (Records.query q) s = (.ok rows, s') → r ∈ rows →
      RecordHistory base r s'
  | edited {r : Record} {s : Storage} (e : RecordEdit) :
    RecordHistory base r s → RecordHistory base (r.edit e) s
  | saved {r r' : Record} {s s' : Storage} : RecordHistory base r s →
    RecordStore.run (.base base) (Records.save r) s = (.ok r', s') → RecordHistory base r' s'
  /-- A save that fails leaves the record as it is. -/
  | refused {r : Record} {e : StoreError} {s s' : Storage} : RecordHistory base r s →
    RecordStore.run (.base base) (Records.save r) s = (.error e, s') → RecordHistory base r s'
  | meanwhile {r : Record} {s s' : Storage} : RecordHistory base r s →
    base.Unwritten r.oid s s' → RecordHistory base r s'

/-- A record that was stored has the fields that are stored, changed by what it has staged, unless
it was removed. -/
structure Record.Tracks (base : RecordBase) (r : Record) (s : Storage) : Prop where
  held : base.IsHeld s
  present : r.fields.present = r.fields
  stored : r.persisted = true → base.recordAt s r.oid = .ok none ∨
    ∃ stored, base.recordAt s r.oid = .ok (some stored) ∧
      r.fields = r.staged.applyDelta stored.fields

namespace Record.Tracks

variable {base : RecordBase} {r : Record} {s s' : Storage}

/-- A stored record tracks itself. -/
theorem of_recordAt (h : base.recordAt s r.oid = .ok (some r)) : r.Tracks base s := by
  have hloaded := (RecordBase.isLoaded_of_recordAt h).2
  refine ⟨RecordBase.isHeld_of_stored h, hloaded.present, fun _ => .inr ⟨r, h, ?_⟩⟩
  rw [hloaded.staged]
  rfl

/-- A change keeps the fields in step with what is staged. -/
theorem edit (h : r.Tracks base s) (e : RecordEdit) : (r.edit e).Tracks base s where
  held := h.held
  present := Record.present_edit h.present e
  stored hpersisted := by
    rw [r.persisted_edit] at hpersisted
    rw [r.oid_edit]
    refine (h.stored hpersisted).imp_right ?_
    rintro ⟨stored, hstored, hfields⟩
    exact ⟨stored, hstored, Record.fields_edit hfields e⟩

/-- Calls that write other records, or remove this one, change nothing about it. -/
theorem unwritten (h : r.Tracks base s) (hother : base.Unwritten r.oid s s') :
    r.Tracks base s' where
  held := hother.held h.held
  present := h.present
  stored hpersisted := by
    rcases h.stored hpersisted with hnone | ⟨stored, hstored, hfields⟩
    · exact .inl ((hother.found none hnone).elim id id)
    · exact (hother.found (some stored) hstored).symm.imp_right
        fun hstored' => ⟨stored, hstored', hfields⟩

/-- An update that is stored leaves the fields of the record, as a delta or as a snapshot. -/
theorem recordAt_apply (h : r.Tracks base s)
    (hok : (base.answer (.apply r.pendingUpdate) s).1 = .ok ()) :
    base.recordAt (base.answer (.apply r.pendingUpdate) s).2 r.oid = .ok (some r.markSaved) := by
  rw [Record.markSaved_eq_loaded h.present]
  have hsnapshot : r.pendingUpdate.isNew = true ∨ base.recordAt s r.oid = .ok none →
      base.recordAt (base.answer (.apply r.pendingUpdate) s).2 r.oid =
        .ok (some (Record.loaded r.oid r.fields)) :=
    fun hnew => RecordBase.recordAt_apply_snapshot h.held hok hnew
  -- A store that lost the record takes the snapshot, although the record is no new one.
  cases hpersisted : r.persisted with
  | false =>
    refine hsnapshot (.inl ?_)
    show (!r.persisted) = true
    rw [hpersisted]
    rfl
  | true =>
    rcases h.stored hpersisted with hnone | ⟨stored, hstored, hfields⟩
    · exact hsnapshot (.inr hnone)
    · have hnew := Record.isNew_pendingUpdate hpersisted
      rw [hfields]
      exact @RecordBase.recordAt_apply_delta base s stored r.pendingUpdate hstored hnew

/-- A save gives the record as it is stored then. -/
theorem save (h : r.Tracks base s) (hdirty : r.isDirty = true) {r' : Record}
    (hsave : RecordStore.run (.base base) (Records.save r) s = (.ok r', s')) :
    r' = r.markSaved ∧ base.recordAt s' r.oid = .ok (some r.markSaved) := by
  rw [RecordBase.run_save_of_dirty base s hdirty] at hsave
  obtain ⟨hresult, rfl⟩ := Prod.mk.inj hsave
  cases hok : (base.answer (.apply r.pendingUpdate) s).1 with
  | error e =>
    rw [hok] at hresult
    cases hresult
  | ok u =>
    rw [hok] at hresult
    exact ⟨(Except.ok.inj hresult).symm, h.recordAt_apply hok⟩

/-- A save that fails changes nothing. -/
theorem of_refused (h : r.Tracks base s) {e : StoreError}
    (hsave : RecordStore.run (.base base) (Records.save r) s = (.error e, s')) :
    r.Tracks base s' := by
  cases hdirty : r.isDirty with
  | false =>
    rw [RecordBase.run_save_of_clean base s hdirty] at hsave
    cases hsave
  | true =>
    rw [RecordBase.run_save_of_dirty base s hdirty] at hsave
    obtain ⟨hresult, rfl⟩ := Prod.mk.inj hsave
    cases hanswer : (base.answer (.apply r.pendingUpdate) s).1 with
    | error e' =>
      rw [RecordBase.answer_of_error hanswer]
      exact h
    | ok u =>
      rw [hanswer] at hresult
      cases hresult

end Record.Tracks

namespace RecordHistory

variable {base : RecordBase} {r : Record} {s : Storage}

/-- Whatever is done to a record, its fields are those that are stored, changed by what it has
staged. -/
theorem tracks (h : RecordHistory base r s) : r.Tracks base s := by
  induction h with
  | fresh oid hheld => exact ⟨hheld, rfl, nofun⟩
  | loaded hfound =>
    rw [RecordBase.run_record?] at hfound
    obtain ⟨hstored, rfl⟩ := Prod.mk.inj hfound
    obtain ⟨rfl, -⟩ := RecordBase.isLoaded_of_recordAt hstored
    exact .of_recordAt hstored
  | queried hrows hr =>
    rw [RecordBase.run_query] at hrows
    obtain ⟨hanswer, rfl⟩ := Prod.mk.inj hrows
    exact .of_recordAt (RecordBase.recordAt_of_mem_query hanswer hr)
  | edited e _ ih => exact ih.edit e
  | @saved r r' s s' _ hsave ih =>
    cases hdirty : r.isDirty with
    | false =>
      rw [RecordBase.run_save_of_clean base s hdirty] at hsave
      cases hsave
      exact ih
    | true =>
      obtain ⟨rfl, hstored⟩ := ih.save hdirty hsave
      exact .of_recordAt hstored
  | refused _ hsave ih => exact ih.of_refused hsave
  | meanwhile _ hother ih => exact ih.unwritten hother

/-- After any run of changes and saves a put of a bad field name changes nothing, and if the
record has changes, a save leaves it without changes and a look-up then gives the same record.  A
store that answers look-ups does not refuse the save. -/
theorem get_after_save (h : RecordHistory base r s) :
    (∀ field value, isFieldName field = false →
      r.put field value = .error (.invalidField field) ∧ r.edit (.put field value) = r) ∧
    (r.isDirty = true →
      (∀ r' s', RecordStore.run (.base base) (Records.save r) s = (.ok r', s') →
        r'.fields = r.fields ∧ r'.isDirty = false ∧
          RecordStore.run (.base base) (Records.record? r.oid) s' = (.ok (some r'), s')) ∧
      ∀ found, RecordStore.run (.base base) (Records.record? r.oid) s = (.ok found, s) →
        ∃ r' s', RecordStore.run (.base base) (Records.save r) s = (.ok r', s')) := by
  refine ⟨fun field value hfield => ⟨r.put_invalid value hfield, r.edit_invalid hfield⟩, ?_⟩
  intro hdirty
  constructor
  · intro r' s' hsave
    obtain ⟨rfl, hstored⟩ := h.tracks.save hdirty hsave
    refine ⟨rfl, r.isDirty_markSaved, ?_⟩
    rw [RecordBase.run_record?, hstored]
  · intro found hfound
    rw [RecordBase.run_record?] at hfound
    refine ⟨r.markSaved, (base.answer (.apply r.pendingUpdate) s).2, ?_⟩
    rw [RecordBase.run_save_of_dirty base s hdirty,
      RecordBase.answer_apply_of_answered (Prod.mk.inj hfound).1]
    rfl

/-- A record in a database is saved, removed by someone else, and changed by a null and under a
bad name: the next save stores all of its fields again. -/
theorem get_after_save_removed :
    let base := RecordBase.relational "people" ⟨0⟩
    let empty : Storage := { databases := ⟨#[{ ready := true }]⟩ }
    let oid : Oid := ⟨"a", by decide⟩
    let first := ((Record.create oid).edit (.put "name" (.text "Ann"))).edit (.put "age" (.int 7))
    let stored := (base.answer (.apply first.pendingUpdate) empty).2
    let removed := (base.answer (.remove oid) stored).2
    let second := (first.markSaved.edit (.put "age" .null)).edit (.put "1st" (.int 1))
    RecordHistory base second removed ∧ second.isDirty = true ∧
      RecordStore.run (.base base) (Records.record? oid) removed = (.ok none, removed) ∧
      ∃ r' s', RecordStore.run (.base base) (Records.save second) removed = (.ok r', s') ∧
        r'.fields = second.fields ∧ r'.isDirty = false ∧
        RecordStore.run (.base base) (Records.record? oid) s' = (.ok (some r'), s') := by
  intro base empty oid first stored removed second
  have hheld : base.IsHeld empty := by
    show 0 < 1
    decide
  have hsave : RecordStore.run (.base base) (Records.save first) empty =
      (.ok first.markSaved, stored) := by
    rw [RecordBase.run_save_of_dirty base empty (by decide +kernel)]
    rfl
  have hunwritten : base.Unwritten oid stored removed :=
    RecordBase.unwritten_answer base base (.remove oid) stored oid fun _ => id
  have hsaved : RecordHistory base first.markSaved stored :=
    .saved (.edited _ (.edited _ (.fresh oid hheld))) hsave
  have hhistory : RecordHistory base second removed :=
    .edited _ (.edited _ (.meanwhile hsaved hunwritten))
  have hdirty : second.isDirty = true := by decide +kernel
  have hfound : RecordStore.run (.base base) (Records.record? oid) removed =
      (.ok none, removed) := by
    rw [RecordBase.run_record?]
    exact Prod.ext (by decide +kernel) rfl
  obtain ⟨hafter, hsaves⟩ := (get_after_save hhistory).2 hdirty
  obtain ⟨r', s', hrun⟩ := hsaves none hfound
  exact ⟨hhistory, hdirty, hfound, r', s', hrun, hafter r' s' hrun⟩

end RecordHistory

/-! ## Copies of one record -/

namespace RecordBase

variable {base : RecordBase} {s : Storage} {oid : Oid} {stored : Record}

/-- Copies that are saved one after the other change the stored record one after the other. -/
theorem run_saveAll {copies : List Record}
    (hcopies : ∀ copy ∈ copies, copy.oid = oid ∧ copy.persisted = true)
    (hstored : base.recordAt s oid = .ok (some stored)) :
    ∃ s', RecordStore.run (.base base) (Records.saveAll copies) s =
        (.ok (copies.map Record.markSaved), s') ∧
      base.recordAt s' oid = .ok (some (Record.loaded oid
        (Fields.applyAll (copies.map Record.staged) stored.fields))) := by
  induction copies generalizing s stored with
  | nil =>
    obtain ⟨rfl, hloaded⟩ := isLoaded_of_recordAt hstored
    refine ⟨s, by rw [run_eq]; rfl, ?_⟩
    show _ = Except.ok (some (Record.loaded stored.oid stored.fields))
    rw [← hloaded, hstored]
  | cons first rest ih =>
    obtain ⟨⟨rfl, hpersisted⟩, hrest⟩ := List.forall_mem_cons.1 hcopies
    obtain ⟨s₁, hsave, hstored₁, -, -⟩ := run_save_of_stored hstored hpersisted
    obtain ⟨s₂, hothers, hstored₂⟩ := ih hrest hstored₁
    have hpresent := (isLoaded_of_recordAt hstored).2.present
    have hfields : (Record.loaded first.oid (first.staged.applyDelta stored.fields)).fields =
        first.staged.applyDelta stored.fields := by
      rw [Record.loaded, Fields.present_applyDelta, hpresent]
    refine ⟨s₂, ?_, ?_⟩
    · rw [run_eq] at hsave hothers ⊢
      rw [Records.saveAll, Program.run_bind, Action.bind_apply, hsave]
      show Program.run base.answer (Records.saveAll rest >>= _) s₁ = _
      rw [Program.run_bind, Action.bind_apply, hothers]
      rfl
    · rw [hstored₂, hfields]
      rfl

/-- Copies of a stored record that were changed in different fields can be saved in any order: the
record then has its old fields, changed by what each copy has staged.  No change of a copy is
lost, and a field that none of them has staged stays as it was. -/
theorem saveAll_apart
    (hstored : RecordStore.run (.base base) (Records.record? oid) s = (.ok (some stored), s))
    (edits : List (List RecordEdit))
    (apart : (edits.map fun e => (stored.editAll e).staged).Pairwise Fields.Apart) :
    ∃ merged : Fields,
      merged = Fields.applyAll (edits.map fun e => (stored.editAll e).staged) stored.fields ∧
      (∀ copy ∈ edits.map stored.editAll, ∀ field value, copy.staged.get? field = some value →
        merged.get? field = if value.isNull then none else some value) ∧
      (∀ field, (∀ copy ∈ edits.map stored.editAll, copy.staged.get? field = none) →
        merged.get? field = stored.fields.get? field) ∧
      ∀ order : List Record, order.Perm (edits.map stored.editAll) →
        ∃ s' after, RecordStore.run (.base base) (Records.saveAll order) s =
            (.ok (order.map Record.markSaved), s') ∧
          RecordStore.run (.base base) (Records.record? oid) s' = (.ok (some after), s') ∧
          after.fields = merged := by
  -- The order concerns the deltas alone: the fields of a copy are never written.
  have hdeltas : (edits.map fun e => (stored.editAll e).staged) =
      (edits.map stored.editAll).map Record.staged := by
    rw [List.map_map]
    rfl
  rw [hdeltas] at apart ⊢
  rw [run_record?] at hstored
  obtain ⟨hfound, -⟩ := Prod.mk.inj hstored
  obtain ⟨rfl, hloaded⟩ := isLoaded_of_recordAt hfound
  refine ⟨_, rfl, ?_, ?_, ?_⟩
  · intro copy hcopy field value hstaged
    exact Fields.get?_applyAll_of_mem apart (List.mem_map_of_mem hcopy) hstaged stored.fields
  · intro field hunstaged
    refine Fields.get?_applyAll_of_unstaged ?_ stored.fields
    exact List.forall_mem_map.2 hunstaged
  · intro order hperm
    have hcopies : ∀ copy ∈ order, copy.oid = stored.oid ∧ copy.persisted = true := by
      intro copy hcopy
      obtain ⟨e, -, rfl⟩ := List.mem_map.1 (hperm.mem_iff.1 hcopy)
      exact ⟨Record.oid_editAll e, (Record.persisted_editAll e).trans hloaded.persisted⟩
    obtain ⟨s', hsaved, hafter⟩ := run_saveAll hcopies hfound
    refine ⟨s', _, hsaved, by rw [run_record?, hafter], ?_⟩
    rw [Record.loaded, Fields.applyAll_perm apart (hperm.map _),
      Fields.present_applyAll _ hloaded.present]

/-- Of three copies one overwrites a field, one removes a field, and one adds a field and is
refused another. -/
theorem saveAll_apart_three :
    let base := RecordBase.memory "people" ⟨0⟩
    let oid : Oid := ⟨"a", by decide⟩
    let stored := Record.loaded oid (.ofList [("age", .int 7), ("city", .text "Bern")])
    let s : Storage := { records := ⟨#[(∅ : RecordTable).insert oid stored.fields]⟩ }
    let edits : List (List RecordEdit) := [[.put "age" (.int 8), .put "age" (.int 9)],
      [.put "city" (.int 0), .remove "city"], [.put "name" (.text "Ann"), .put "1st" (.int 1)]]
    RecordStore.run (.base base) (Records.record? oid) s = (.ok (some stored), s) ∧
      (edits.map fun e => (stored.editAll e).staged).Pairwise Fields.Apart ∧
      ∃ merged : Fields, merged = .ofList [("age", .int 9), ("name", .text "Ann")] ∧
        ∀ order : List Record, order.Perm (edits.map stored.editAll) →
          ∃ s' after, RecordStore.run (.base base) (Records.saveAll order) s =
              (.ok (order.map Record.markSaved), s') ∧
            RecordStore.run (.base base) (Records.record? oid) s' = (.ok (some after), s') ∧
            after.fields = merged := by
  intro base oid stored s edits
  have hstored : RecordStore.run (.base base) (Records.record? oid) s = (.ok (some stored), s) := by
    rw [run_record?]
    exact Prod.ext (by decide +kernel) rfl
  have apart : (edits.map fun e => (stored.editAll e).staged).Pairwise Fields.Apart := by
    decide +kernel
  obtain ⟨merged, hmerged, -, -, horders⟩ := saveAll_apart hstored edits apart
  refine ⟨hstored, apart, merged, ?_, horders⟩
  rw [hmerged]
  decide +kernel

end RecordBase

end TieredStore
