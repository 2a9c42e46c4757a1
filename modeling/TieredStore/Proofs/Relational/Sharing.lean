import TieredStore.Proofs.Relational.Refinement
import TieredStore.Proofs.Storage.Cells

/-!
# Stores that share a database

A database may serve several stores, told apart by their names, and it may be used before its
tables are set up.  In any case a call of one store is answered like the table that its rows
represent, or it is refused and nothing changes, and the rows of all other stores stay as they
are.

Main results:

- Theorem `Database.Keeps.answer`: a call is answered like the table, or refused.
- Theorem `Database.Keeps.answer_of_ne`: the calls of one store leave the others alone.
-/

namespace TieredStore

instance : StoredApart Database where
  heap_withHeap _ _ := rfl
  clock_withHeap _ _ := rfl
  guards_withHeap _ _ := rfl
  heap_withClock _ _ := rfl
  heap_withGuards _ _ := rfl

namespace Database

/-- The rows of a store represent a table of records, also if nobody can read them before the
tables are set up. -/
def Keeps (db : Database) (store : String) (table : RecordTable) : Prop :=
  ({ db with ready := true } : Database).Represents store table

variable {db db' : Database} {store other : String} {table : RecordTable}

/-- What a database represents it keeps. -/
theorem Represents.keeps (h : db.Represents store table) : db.Keeps store table :=
  ⟨rfl, h.listed, h.rows⟩

/-- What a database keeps it represents when its tables are set up. -/
theorem Keeps.represents (h : db.Keeps store table) (hready : db.ready = true) :
    db.Represents store table :=
  ⟨hready, h.listed, h.rows⟩

/-! ## Calls of the store -/

/-- A query whose condition exceeds the limits of statements is refused. -/
theorem answer_query_of_not_accepted {q : Query}
    (h : ¬(Condition.ofQuery q).isAccepted = true) :
    ∃ e, answer store (.query q) db = (.error e, db) := by
  unfold answer
  simp only [Action.bind_apply, Action.ofExcept_apply, h]
  cases q.validate with
  | error e => exact ⟨e, rfl⟩
  | ok u => exact ⟨_, rfl⟩

/-- Before the tables are set up, all calls are refused that need them. -/
theorem answer_of_not_ready (hready : db.ready = false) {call : RecordCall}
    (hsetup : call ≠ .lifecycle .setup) (hmaintenance : call ≠ .lifecycle .maintenance) :
    ∃ e, answer store call db = (.error e, db) := by
  have hchange : ∀ f, change f db = (.error (.storage .database), db) := by
    intro f
    rw [change_apply, hready]
    rfl
  have hinspect : ∀ {α : Type} (f : Database → Except StoreError α),
      inspect f db = (.error (.storage .database), db) := by
    intro α f
    rw [inspect_apply, hready]
    rfl
  cases call with
  | lifecycle op =>
    cases op with
    | setup => exact absurd rfl hsetup
    | destroy => exact ⟨_, hchange _⟩
    | clear => exact ⟨_, hchange _⟩
    | maintenance => exact absurd rfl hmaintenance
  | get oid => exact ⟨_, hinspect _⟩
  | apply update => exact ⟨_, hchange _⟩
  | remove oid => exact ⟨_, hchange _⟩
  | keys => exact ⟨_, hinspect _⟩
  | query q =>
    by_cases haccepted : (Condition.ofQuery q).isAccepted = true
    · unfold answer
      simp only [Action.bind_apply, Action.ofExcept_apply, haccepted, if_true]
      cases q.validate with
      | error e => exact ⟨e, rfl⟩
      | ok u => exact ⟨_, hinspect _⟩
    · exact answer_query_of_not_accepted haccepted

/-- A call is answered like the table that is kept, or refused without any change. -/
theorem Keeps.answer (h : db.Keeps store table) (call : RecordCall) :
    (∃ e, Database.answer store call db = (.error e, db)) ∨
      (Database.answer store call db).1 = (RecordTable.answer call table).1 ∧
        (Database.answer store call db).2.Keeps store (RecordTable.answer call table).2 := by
  cases hready : db.ready with
  | false =>
    by_cases hsetup : call = .lifecycle .setup
    · subst hsetup
      exact .inr ⟨rfl, h⟩
    · by_cases hmaintenance : call = .lifecycle .maintenance
      · subst hmaintenance
        exact .inr ⟨rfl, h⟩
      · exact .inl (answer_of_not_ready hready hsetup hmaintenance)
  | true =>
    have hrepresents := h.represents hready
    by_cases hfits : call.FitsStatement
    · exact .inr ⟨hrepresents.answer_eq hfits, (hrepresents.answer_represents call).keeps⟩
    · cases call with
      | query q => exact .inl (answer_query_of_not_accepted hfits)
      | _ => exact absurd trivial hfits

/-! ## Calls of other stores -/

/-- Whether two databases have the same rows for a store. -/
structure SameRows (store : String) (db db' : Database) : Prop where
  listed : ∀ identifier,
    db'.records.contains ⟨store, identifier⟩ = db.records.contains ⟨store, identifier⟩
  rows : ∀ identifier field,
    db'.row? ⟨store, identifier⟩ field = db.row? ⟨store, identifier⟩ field

namespace SameRows

/-- A database has the same rows as itself. -/
theorem refl (store : String) (db : Database) : SameRows store db db :=
  ⟨fun _ => rfl, fun _ _ => rfl⟩

/-- Databases with the same rows keep the same table. -/
theorem keeps (h : SameRows store db db') (hkeeps : db.Keeps store table) :
    db'.Keeps store table where
  ready := rfl
  listed identifier := (Bool.eq_iff_iff.1 (h.listed identifier)).trans (hkeeps.listed identifier)
  rows oid field := (h.rows oid.text field).trans (hkeeps.rows oid field)

/-- A change of one store that leaves the rows of others leaves them also if it is refused. -/
theorem change {f : Database → Database} (h : SameRows other db (f db)) :
    SameRows other db (Database.change f db).2 := by
  rw [change_apply]
  split
  · exact h
  · exact refl other db

variable (hne : other ≠ store)

include hne

/-- Storing an update concerns no other store. -/
theorem apply (db : Database) (update : RecordUpdate) :
    SameRows other db (db.apply store update) := by
  have hkey : ∀ identifier, (⟨other, identifier⟩ : RecordKey) ≠ .of store update.oid :=
    fun identifier heq => hne (RecordKey.mk.inj heq).1
  unfold Database.apply
  dsimp only
  split
  · exact ⟨fun _ => by rw [(db.records_writeFields _ _).1],
      fun identifier field => row?_writeFields_of_ne _ _ (hkey identifier) field⟩
  · refine ⟨fun identifier => ?_, fun identifier field => ?_⟩
    · rw [(records_writeFields _ _ _).1]
      show ((db.records.insert _ ()).get? ⟨other, identifier⟩).isSome = _
      rw [SortedMap.get?_insert_of_ne _ _ (hkey identifier)]
      rfl
    · rw [row?_writeFields_of_ne _ _ (hkey identifier), row?_deleteFields_of_ne _ (hkey identifier)]
      rfl

/-- Removing a record concerns no other store. -/
theorem deleteRecord (db : Database) (oid : Oid) :
    SameRows other db (db.deleteRecord (.of store oid)) := by
  have hkey : ∀ identifier, (⟨other, identifier⟩ : RecordKey) ≠ .of store oid :=
    fun identifier heq => hne (RecordKey.mk.inj heq).1
  refine ⟨fun identifier => ?_,
    fun identifier field => row?_deleteFields_of_ne db (hkey identifier) field⟩
  show ((db.records.erase _).get? ⟨other, identifier⟩).isSome = _
  rw [SortedMap.get?_erase_of_ne _ (hkey identifier)]
  rfl

/-- Deleting a store concerns no other store. -/
theorem deleteStore (db : Database) : SameRows other db (db.deleteStore store) := by
  refine ⟨fun identifier => ?_, fun identifier field => ?_⟩
  · unfold Database.deleteStore SortedMap.contains
    rw [SortedMap.get?_filter]
    cases db.records.get? ⟨other, identifier⟩ <;> simp [hne]
  · unfold Database.deleteStore row?
    rw [SortedMap.get?_filter]
    cases db.fields.get? ⟨⟨other, identifier⟩, field⟩ <;> simp [hne]

/-- A call of one store leaves the rows of another one as they are. -/
theorem answer (db : Database) (call : RecordCall) :
    SameRows other db (Database.answer store call db).2 := by
  have hinspect : ∀ {α : Type} (f : Database → Except StoreError α),
      SameRows other db (inspect f db).2 := by
    intro α f
    rw [inspect_apply]
    exact refl other db
  cases call with
  | lifecycle op =>
    cases op with
    | setup => exact ⟨fun _ => rfl, fun _ _ => rfl⟩
    | destroy => exact change (deleteStore hne db)
    | clear => exact change (deleteStore hne db)
    | maintenance => exact refl other db
  | get oid => exact hinspect _
  | apply update => exact change (apply hne db update)
  | remove oid => exact change (deleteRecord hne db oid)
  | keys => exact hinspect _
  | query q =>
    rw [answer_query_snd]
    exact refl other db

end SameRows

/-- The calls of one store leave what is kept for another one alone. -/
theorem Keeps.answer_of_ne (h : db.Keeps other table) (hne : other ≠ store)
    (call : RecordCall) : (Database.answer store call db).2.Keeps other table :=
  (SameRows.answer hne db call).keeps h

end Database

end TieredStore
