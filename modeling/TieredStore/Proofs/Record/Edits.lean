import TieredStore.Proofs.Relational.Refinement

/-!
# Changes to a record

A record is changed by puts and removals, and a change that is refused leaves it as it is.
Whatever the changes are, the fields of a record are those that it was loaded with, changed by
what it has staged.  Staged changes of several copies that have no field in common can be applied
in any order.

Main results:

- Theorem `Record.edit_invalid`: a change of a bad field name leaves the record as it is.
- Theorem `Record.fields_edit`: the fields of a changed record are those that are stored, changed
  by what it has staged.
- Theorem `Fields.applyAll_perm`: deltas that are apart can be applied in any order.
- Theorems `Fields.get?_applyAll_of_mem` and `Fields.get?_applyAll_of_unstaged`: none of them
  is lost, and nothing else changes.
-/

namespace TieredStore

/-! ## Deltas -/

namespace Fields

variable {target : Fields}

/-- Deltas on top of nothing leave what they set. -/
theorem applyDelta_empty (delta : Fields) : delta.applyDelta ∅ = delta.present := by
  refine SortedMap.ext_get? fun field => ?_
  rw [get?_applyDelta, get?_present]
  cases delta.get? field with
  | none => rfl
  | some value => cases value <;> rfl

/-- A delta leaves no null behind. -/
theorem present_applyDelta (delta target : Fields) :
    (delta.applyDelta target).present = delta.applyDelta target.present := by
  refine SortedMap.ext_get? fun field => ?_
  rw [get?_present, get?_applyDelta, get?_applyDelta, get?_present]
  cases delta.get? field with
  | none => rfl
  | some value => cases value <;> rfl

/-- Staging one more field is applying the delta and then assigning the field. -/
theorem applyDelta_insert (delta target : Fields) (field : String) (value : Value) :
    Fields.applyDelta (delta.insert field value) target =
      (delta.applyDelta target).assign field value := by
  refine SortedMap.ext_get? fun name => ?_
  rw [get?_applyDelta]
  by_cases hname : name = field
  · subst hname
    rw [SortedMap.get?_insert_self, get?_assign_self]
  · rw [SortedMap.get?_insert_of_ne _ _ hname, get?_assign_of_ne _ _ hname, get?_applyDelta]

/-- Fields without nulls have none after an assignment. -/
theorem present_assign (h : target.present = target) (field : String) (value : Value) :
    (target.assign field value).present = target.assign field value := by
  have hassign : target.assign field value =
      Fields.applyDelta ((∅ : Fields).insert field value) target :=
    (applyDelta_insert ∅ target field value).symm
  rw [hassign, present_applyDelta, h]

/-! ### Deltas without a common field -/

/-- Whether two deltas have no field in common. -/
def Apart (a b : Fields) : Prop := ∀ field, a.get? field = none ∨ b.get? field = none

theorem Apart.symm {a b : Fields} (h : Apart a b) : Apart b a := fun field => (h field).symm

/-- A field that is in one delta is in no other one that is apart from it. -/
theorem Apart.get?_eq_none {a b : Fields} (h : Apart a b) {field : String} {value : Value}
    (hstaged : a.get? field = some value) : b.get? field = none := by
  rcases h field with hnone | hnone
  · rw [hnone] at hstaged
    cases hstaged
  · exact hnone

instance (a b : Fields) : Decidable (Apart a b) :=
  decidable_of_iff (∀ e ∈ a.entries, b.get? e.1 = none) <| by
    constructor
    · intro h field
      cases hget : a.get? field with
      | none => exact .inl rfl
      | some value => exact .inr (h (field, value) ((a.get?_eq_some_iff field value).1 hget))
    · intro h e he
      exact h.get?_eq_none ((a.get?_eq_some_iff e.1 e.2).2 he)

/-- Applies deltas one after the other. -/
def applyAll (deltas : List Fields) (target : Fields) : Fields :=
  deltas.foldl (fun fields delta => delta.applyDelta fields) target

/-- Deltas leave no null behind. -/
theorem present_applyAll (deltas : List Fields) (h : target.present = target) :
    (applyAll deltas target).present = applyAll deltas target := by
  induction deltas generalizing target with
  | nil => exact h
  | cons first rest ih => exact ih (by rw [present_applyDelta, h])

/-- A field of none of the deltas does not change. -/
theorem get?_applyAll_of_unstaged {deltas : List Fields} {field : String}
    (h : ∀ delta ∈ deltas, delta.get? field = none) (target : Fields) :
    (applyAll deltas target).get? field = target.get? field := by
  induction deltas generalizing target with
  | nil => rfl
  | cons first rest ih =>
    obtain ⟨hfirst, hrest⟩ := List.forall_mem_cons.1 h
    show (applyAll rest (first.applyDelta target)).get? field = _
    rw [ih hrest, get?_applyDelta, hfirst]

/-- A field of one of the deltas gets its value from there, or is removed. -/
theorem get?_applyAll_of_mem {deltas : List Fields} (apart : deltas.Pairwise Apart)
    {delta : Fields} (hdelta : delta ∈ deltas) {field : String} {value : Value}
    (hstaged : delta.get? field = some value) (target : Fields) :
    (applyAll deltas target).get? field = if value.isNull then none else some value := by
  induction deltas generalizing target with
  | nil => cases hdelta
  | cons first rest ih =>
    obtain ⟨hfirst, hrest⟩ := List.pairwise_cons.1 apart
    rcases List.mem_cons.1 hdelta with rfl | hmem
    · have hothers : ∀ other ∈ rest, other.get? field = none :=
        fun other hother => (hfirst other hother).get?_eq_none hstaged
      show (applyAll rest (delta.applyDelta target)).get? field = _
      rw [get?_applyAll_of_unstaged hothers, get?_applyDelta, hstaged]
    · exact ih hrest hmem (first.applyDelta target)

/-- Deltas that are apart can be applied in any order. -/
theorem applyAll_perm {deltas order : List Fields} (apart : deltas.Pairwise Apart)
    (hperm : order.Perm deltas) (target : Fields) :
    applyAll order target = applyAll deltas target := by
  have hapart : order.Pairwise Apart := hperm.symm.pairwise apart Apart.symm
  -- Each field is in one delta at most, and gets from there what it has in the end.
  refine SortedMap.ext_get? fun field => ?_
  by_cases hstaged : ∃ delta ∈ deltas, ∃ value, delta.get? field = some value
  · obtain ⟨delta, hdelta, value, hvalue⟩ := hstaged
    rw [get?_applyAll_of_mem hapart (hperm.mem_iff.2 hdelta) hvalue,
      get?_applyAll_of_mem apart hdelta hvalue]
  · have hnone : ∀ delta ∈ deltas, delta.get? field = none := by
      intro delta hdelta
      by_contra hsome
      obtain ⟨value, hvalue⟩ := Option.ne_none_iff_exists'.1 hsome
      exact hstaged ⟨delta, hdelta, value, hvalue⟩
    rw [get?_applyAll_of_unstaged fun delta hdelta => hnone delta (hperm.mem_iff.1 hdelta),
      get?_applyAll_of_unstaged hnone]

end Fields

/-! ## Changes -/

/-- A change to a record. -/
inductive RecordEdit where
  | put (field : String) (value : Value)
  | remove (field : String)

namespace RecordEdit

/-- The field that is changed. -/
def field : RecordEdit → String
  | .put field _ => field
  | .remove field => field

/-- The value that is staged; null for a removal. -/
def value : RecordEdit → Value
  | .put _ value => value
  | .remove _ => .null

/-- Tries a change on a record. -/
def attempt (r : Record) : RecordEdit → Except StoreError Record
  | .put field value => r.put field value
  | .remove field => r.remove field

/-- A removal is a put of null. -/
theorem attempt_eq_put (r : Record) (e : RecordEdit) : e.attempt r = r.put e.field e.value := by
  cases e <;> rfl

end RecordEdit

namespace Record

/-- The record after a change; one that is refused leaves it as it is. -/
def edit (r : Record) (e : RecordEdit) : Record :=
  match e.attempt r with
  | .ok changed => changed
  | .error _ => r

/-- The record after some changes, one after the other. -/
def editAll (r : Record) (edits : List RecordEdit) : Record := edits.foldl edit r

variable (r : Record) {e : RecordEdit}

/-- A change of a bad field name leaves the record as it is. -/
theorem edit_invalid (h : isFieldName e.field = false) : r.edit e = r := by
  unfold edit
  rw [RecordEdit.attempt_eq_put, r.put_invalid e.value h]

/-- A change of a good field name assigns and stages the field. -/
theorem edit_valid (h : isFieldName e.field = true) :
    r.edit e = { r with
      fields := r.fields.assign e.field e.value, staged := r.staged.insert e.field e.value } := by
  unfold edit
  rw [RecordEdit.attempt_eq_put, r.put_valid e.value h]

@[simp] theorem oid_edit (e : RecordEdit) : (r.edit e).oid = r.oid := by
  cases h : isFieldName e.field with
  | false => rw [r.edit_invalid h]
  | true => rw [r.edit_valid h]

@[simp] theorem persisted_edit (e : RecordEdit) : (r.edit e).persisted = r.persisted := by
  cases h : isFieldName e.field with
  | false => rw [r.edit_invalid h]
  | true => rw [r.edit_valid h]

/-- A field that a change does not name is staged as before. -/
theorem get?_staged_edit_of_ne (e : RecordEdit) {field : String} (hne : field ≠ e.field) :
    (r.edit e).staged.get? field = r.staged.get? field := by
  cases h : isFieldName e.field with
  | false => rw [r.edit_invalid h]
  | true =>
    rw [r.edit_valid h]
    exact SortedMap.get?_insert_of_ne _ _ hne

variable {r}

/-- A record without nulls has none after a change. -/
theorem present_edit (h : r.fields.present = r.fields) (e : RecordEdit) :
    (r.edit e).fields.present = (r.edit e).fields := by
  cases hname : isFieldName e.field with
  | false => rw [r.edit_invalid hname, h]
  | true =>
    rw [r.edit_valid hname]
    exact Fields.present_assign h e.field e.value

/-- The fields of a record stay what is stored, changed by what it has staged. -/
theorem fields_edit {stored : Fields} (h : r.fields = r.staged.applyDelta stored)
    (e : RecordEdit) : (r.edit e).fields = (r.edit e).staged.applyDelta stored := by
  cases hname : isFieldName e.field with
  | false => rw [r.edit_invalid hname, h]
  | true =>
    rw [r.edit_valid hname]
    show r.fields.assign e.field e.value =
      Fields.applyDelta (r.staged.insert e.field e.value) stored
    rw [Fields.applyDelta_insert, ← h]

/-- What every single change keeps, any run of changes keeps. -/
theorem editAll_induction {motive : Record → Prop} (step : ∀ r e, motive r → motive (r.edit e))
    (h : motive r) (edits : List RecordEdit) : motive (r.editAll edits) := by
  induction edits generalizing r with
  | nil => exact h
  | cons e rest ih => exact ih (step r e h)

@[simp] theorem oid_editAll (edits : List RecordEdit) : (r.editAll edits).oid = r.oid :=
  editAll_induction (motive := fun changed => changed.oid = r.oid)
    (fun changed e h => (changed.oid_edit e).trans h) rfl edits

@[simp] theorem persisted_editAll (edits : List RecordEdit) :
    (r.editAll edits).persisted = r.persisted :=
  editAll_induction (motive := fun changed => changed.persisted = r.persisted)
    (fun changed e h => (changed.persisted_edit e).trans h) rfl edits

/-! ## Records as they are loaded -/

/-- Whether a record is a copy of stored fields, without changes. -/
def IsLoaded (r : Record) : Prop := r = Record.loaded r.oid r.fields

theorem isLoaded_loaded (oid : Oid) (fields : Fields) : (Record.loaded oid fields).IsLoaded := by
  show Record.loaded oid fields = Record.loaded oid fields.present
  rw [loaded, loaded, Fields.present_present]

theorem IsLoaded.persisted (h : r.IsLoaded) : r.persisted = true := congrArg Record.persisted h

theorem IsLoaded.staged (h : r.IsLoaded) : r.staged = ∅ := congrArg Record.staged h

theorem IsLoaded.present (h : r.IsLoaded) : r.fields.present = r.fields :=
  (congrArg Record.fields h).symm

/-- A record without nulls is after a save as it is loaded again. -/
theorem markSaved_eq_loaded (h : r.fields.present = r.fields) :
    r.markSaved = Record.loaded r.oid r.fields := by
  rw [markSaved, loaded, h]

end Record

end TieredStore
