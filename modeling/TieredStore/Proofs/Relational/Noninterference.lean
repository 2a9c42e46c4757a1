import Mathlib.Logic.Function.Basic
import TieredStore.Proofs.Relational.Sharing
import TieredStore.Proofs.Runs
import TieredStore.Storage.RecordStore

/-!
# Noninterference between stores that share a database

All that a store of a database can read is whether the tables are set up, and its own rows.
Databases that are alike in this answer its calls alike and stay alike, whatever the rows hold,
and the calls of other stores leave such databases alike.  So in a run of calls of many stores
each store reads what it would read if it were alone.

Main results:

- Theorem `Database.Alike.answer`: databases that are alike for a store answer its calls alike
  and stay alike.
- Theorem `RecordStore.alike_stateAfter`: the calls of other stores can be left out of a run.
- Theorem `RecordStore.perform_stateAfter_filter`: a store reads the same in the run from which
  all other stores' calls are left out.
-/

namespace TieredStore

namespace Database

variable {db db' : Database} {store other : String} {key : RecordKey}

/-! ## What statements read -/

/-- A step that is the same for all members of a list is the same for the list. -/
theorem mapM_congr {α β : Type} {f g : α → Except StoreError β} {l : List α}
    (h : ∀ a ∈ l, f a = g a) : l.mapM f = l.mapM g := by
  induction l with
  | nil => rfl
  | cons a rest ih =>
    obtain ⟨ha, hrest⟩ := List.forall_mem_cons.1 h
    rw [List.mapM_cons, List.mapM_cons, ha, ih hrest]

namespace SameRows

/-- The same rows the other way round. -/
theorem symm (h : SameRows store db db') : SameRows store db' db :=
  ⟨fun identifier => (h.listed identifier).symm,
    fun identifier field => (h.rows identifier field).symm⟩

/-- The same rows by way of a third database. -/
theorem trans {db'' : Database} (h : SameRows store db db') (h' : SameRows store db' db'') :
    SameRows store db db'' :=
  ⟨fun identifier => (h'.listed identifier).trans (h.listed identifier),
    fun identifier field => (h'.rows identifier field).trans (h.rows identifier field)⟩

/-- The keys of the store's records are the same. -/
theorem keysOf_eq (h : SameRows store db db') : db'.keysOf store = db.keysOf store := by
  have hrecords : (db'.records.filter fun k _ => k.store == store) =
      db.records.filter fun k _ => k.store == store := by
    refine SortedMap.filter_eq_filter fun ⟨owner, identifier⟩ howner => ?_
    obtain rfl : owner = store := beq_iff_eq.1 howner
    have hlisted : (db'.records.get? ⟨owner, identifier⟩).isSome =
        (db.records.get? ⟨owner, identifier⟩).isSome := h.listed identifier
    rcases hget : db.records.get? ⟨owner, identifier⟩ with _ | ⟨⟩ <;>
      rcases hget' : db'.records.get? ⟨owner, identifier⟩ with _ | ⟨⟩
    · rfl
    · simp [hget, hget'] at hlisted
    · simp [hget, hget'] at hlisted
    · rfl
  rw [keysOf, keysOf, hrecords]

/-- The rows of each of the store's records are the same. -/
theorem row?_eq (h : SameRows store db db') (hkey : key.store = store) :
    db'.row? key = db.row? key := by
  obtain ⟨owner, identifier⟩ := key
  cases hkey
  exact funext (h.rows identifier)

/-- The rows of a record of the store in their order are the same. -/
theorem rowsOf_eq (h : SameRows store db db') (hkey : key.store = store) :
    db'.rowsOf key = db.rowsOf key := by
  have hfields : (db'.fields.filter fun k _ => k.record == key) =
      db.fields.filter fun k _ => k.record == key := by
    refine SortedMap.filter_eq_filter fun ⟨record, field⟩ hrecord => ?_
    obtain rfl : record = key := beq_iff_eq.1 hrecord
    exact congrFun (h.row?_eq hkey) field
  rw [rowsOf, rowsOf, hfields]

/-- A record of the store is restored alike, or reported alike. -/
theorem load_eq (h : SameRows store db db') (hkey : key.store = store) :
    db'.load key = db.load key := by
  rw [load, load, h.rowsOf_eq hkey]

/-- A condition selects the same records of the store. -/
theorem select_eq (h : SameRows store db db') (condition : Condition) :
    db'.select store condition = db.select store condition := by
  have hstore : ∀ key ∈ db.keysOf store, key.store = store := by
    intro key hkey
    obtain ⟨u, hget⟩ := (SortedMap.mem_keys_iff _ key).1 hkey
    rw [SortedMap.get?_filter, Option.filter_eq_some_iff] at hget
    exact beq_iff_eq.1 hget.2
  have hfilter : ((db.keysOf store).filter fun key => condition.holds (db'.row? key)) =
      (db.keysOf store).filter fun key => condition.holds (db.row? key) :=
    List.filter_congr fun key hkey => by rw [h.row?_eq (hstore key hkey)]
  rw [select, select, h.keysOf_eq, hfilter]
  exact mapM_congr fun key hkey => h.load_eq (hstore key (List.mem_of_mem_filter hkey))

/-! ## What statements write -/

/-- Written to both, fields leave the same rows. -/
theorem writeFields (h : SameRows store db db') (key : RecordKey) (changes : Fields) :
    SameRows store (db.writeFields key changes) (db'.writeFields key changes) := by
  refine ⟨fun identifier => ?_, fun identifier field => ?_⟩
  · rw [(records_writeFields _ _ _).1, (records_writeFields _ _ _).1]
    exact h.listed identifier
  · by_cases hkey : ⟨store, identifier⟩ = key
    · subst hkey
      rw [row?_writeFields_self, row?_writeFields_self, h.rows]
    · rw [row?_writeFields_of_ne _ _ hkey, row?_writeFields_of_ne _ _ hkey, h.rows]

/-- Listed in both, a record leaves the same rows. -/
theorem addRecord (h : SameRows store db db') (key : RecordKey) :
    SameRows store (db.addRecord key) (db'.addRecord key) := by
  refine ⟨fun identifier => ?_, h.rows⟩
  show ((db'.records.insert key ()).get? _).isSome = ((db.records.insert key ()).get? _).isSome
  by_cases hkey : ⟨store, identifier⟩ = key
  · rw [hkey, SortedMap.get?_insert_self, SortedMap.get?_insert_self]
  · rw [SortedMap.get?_insert_of_ne _ _ hkey, SortedMap.get?_insert_of_ne _ _ hkey]
    exact h.listed identifier

/-- Without the fields of a record, both have the same rows. -/
theorem deleteFields (h : SameRows store db db') (key : RecordKey) :
    SameRows store (db.deleteFields key) (db'.deleteFields key) := by
  refine ⟨h.listed, fun identifier field => ?_⟩
  by_cases hkey : ⟨store, identifier⟩ = key
  · rw [hkey, row?_deleteFields_self, row?_deleteFields_self]
  · rw [row?_deleteFields_of_ne db' hkey, row?_deleteFields_of_ne db hkey, h.rows]

/-- Without a record, both have the same rows. -/
theorem withoutRecord (h : SameRows store db db') (key : RecordKey) :
    SameRows store (db.deleteRecord key) (db'.deleteRecord key) := by
  refine ⟨fun identifier => ?_, (h.deleteFields key).rows⟩
  show ((db'.records.erase key).get? _).isSome = ((db.records.erase key).get? _).isSome
  by_cases hkey : ⟨store, identifier⟩ = key
  · rw [hkey, SortedMap.get?_erase_self, SortedMap.get?_erase_self]
  · rw [SortedMap.get?_erase_of_ne _ hkey, SortedMap.get?_erase_of_ne _ hkey]
    exact h.listed identifier

/-- Without the records of the store, there are no rows of it in either. -/
theorem withoutStore (store : String) (db db' : Database) :
    SameRows store (db.deleteStore store) (db'.deleteStore store) := by
  refine ⟨fun identifier => ?_, fun identifier field => ?_⟩
  · have hnone : ∀ d : Database,
        (d.deleteStore store).records.get? ⟨store, identifier⟩ = none := by
      intro d
      rw [Database.deleteStore, SortedMap.get?_filter]
      cases d.records.get? ⟨store, identifier⟩ <;> simp
    rw [SortedMap.contains, SortedMap.contains, hnone, hnone]
  · have hnone : ∀ d : Database, (d.deleteStore store).row? ⟨store, identifier⟩ field = none := by
      intro d
      rw [Database.deleteStore, row?, SortedMap.get?_filter]
      cases d.fields.get? ⟨⟨store, identifier⟩, field⟩ <;> simp
    rw [hnone, hnone]

/-- Stored in both, an update leaves the same rows. -/
theorem update (h : SameRows store db db') (u : RecordUpdate) :
    SameRows store (db.apply store u) (db'.apply store u) := by
  have hlisted : db'.records.contains (.of store u.oid) = db.records.contains (.of store u.oid) :=
    h.listed u.oid.text
  unfold Database.apply
  dsimp only
  rw [hlisted]
  split
  · exact h.writeFields _ _
  · exact ((h.addRecord _).deleteFields _).writeFields _ _

end SameRows

/-! ## What calls of the store come to -/

/-- Whether two databases are alike for a store: all that it can read is the same. -/
structure Alike (store : String) (db db' : Database) : Prop extends SameRows store db db' where
  ready : db'.ready = db.ready

namespace Alike

/-- A change that leaves the same rows in both leaves them alike, made or refused. -/
theorem change {f : Database → Database} (h : Alike store db db')
    (hrows : SameRows store (f db) (f db')) (hready : ∀ d, (f d).ready = d.ready) :
    (Database.change f db').1 = (Database.change f db).1 ∧
      Alike store (Database.change f db).2 (Database.change f db').2 := by
  rw [change_apply, change_apply, h.ready]
  split
  · exact ⟨rfl, hrows, by rw [hready, hready, h.ready]⟩
  · exact ⟨rfl, h⟩

/-- An inspection that finds the same in both has the same result. -/
theorem inspect {α : Type} {f : Database → Except StoreError α} (h : Alike store db db')
    (hsame : f db' = f db) :
    (Database.inspect f db').1 = (Database.inspect f db).1 ∧
      Alike store (Database.inspect f db).2 (Database.inspect f db').2 := by
  rw [inspect_apply, inspect_apply, h.ready, hsame]
  exact ⟨rfl, h⟩

end Alike

/-- Storing an update leaves open whether the tables are set up. -/
theorem ready_apply (db : Database) (store : String) (u : RecordUpdate) :
    (db.apply store u).ready = db.ready := by
  unfold apply
  dsimp only
  split
  · exact (records_writeFields _ _ _).2
  · exact (records_writeFields _ _ _).2

/-- Databases that are alike for a store answer its calls alike and stay alike. -/
theorem Alike.answer (h : Alike store db db') (call : RecordCall) :
    (Database.answer store call db').1 = (Database.answer store call db).1 ∧
      Alike store (Database.answer store call db).2 (Database.answer store call db').2 := by
  cases call with
  | lifecycle op =>
    cases op with
    | setup => exact ⟨rfl, ⟨h.listed, h.rows⟩, rfl⟩
    | destroy => exact h.change (.withoutStore store db db') fun _ => rfl
    | clear => exact h.change (.withoutStore store db db') fun _ => rfl
    | maintenance => exact ⟨rfl, h⟩
  | get oid =>
    refine h.inspect ?_
    rw [show db'.records.contains (.of store oid) = db.records.contains (.of store oid) from
      h.listed oid.text, h.load_eq rfl]
  | apply u => exact h.change (h.update u) fun d => ready_apply d store u
  | remove oid => exact h.change (h.withoutRecord _) fun _ => rfl
  | keys => exact h.inspect (by rw [h.keysOf_eq])
  | query q =>
    refine ⟨?_, by rw [answer_query_snd, answer_query_snd]; exact h⟩
    unfold Database.answer
    simp only [Action.bind_apply, Action.ofExcept_apply]
    cases q.validate with
    | error e => rfl
    | ok u =>
      dsimp only
      split
      · exact (h.inspect (by rw [h.select_eq])).1
      · rfl

/-- Only setting the tables up makes a difference to whether they are. -/
theorem ready_answer (store : String) (call : RecordCall) (db : Database) :
    (answer store call db).2.ready = db.ready ∨ call = .lifecycle .setup := by
  have hchange : ∀ f : Database → Database, (f db).ready = db.ready →
      (change f db).2.ready = db.ready := by
    intro f hf
    rw [change_apply]
    split
    · exact hf
    · rfl
  have hinspect : ∀ {α : Type} (f : Database → Except StoreError α),
      (inspect f db).2.ready = db.ready := by
    intro α f
    rw [inspect_apply]
  cases call with
  | lifecycle op =>
    cases op with
    | setup => exact .inr rfl
    | destroy => exact .inl (hchange _ rfl)
    | clear => exact .inl (hchange _ rfl)
    | maintenance => exact .inl rfl
  | get oid => exact .inl (hinspect _)
  | apply u => exact .inl (hchange _ (ready_apply db store u))
  | remove oid => exact .inl (hchange _ rfl)
  | keys => exact .inl (hinspect _)
  | query q => exact .inl (by rw [answer_query_snd])

/-- Tables that are set up stay so. -/
theorem ready_answer_of_ready (store : String) (call : RecordCall) (hready : db.ready = true) :
    (answer store call db).2.ready = true := by
  rcases ready_answer store call db with hsame | rfl
  · exact hsame.trans hready
  · rfl

/-- The calls of one store leave a database alike for another one. -/
theorem Alike.answer_of_ne (h : Alike store db db') (hne : store ≠ other) (call : RecordCall)
    (hready : db'.ready = true) : Alike store db (Database.answer other call db').2 where
  toSameRows := h.toSameRows.trans (SameRows.answer hne db' call)
  ready := by rw [ready_answer_of_ready other call hready, ← hready, h.ready]

end Database

/-! ## Runs -/

namespace RecordStore

variable {ι : Type} (name : ι → String) (database : Ref Database)

/-- How many stores of one database, told apart by their names, answer calls. -/
def performShared : Handler (At ι RecordCall) Storage := fun call =>
  (inDatabase (name call.place) database).perform call.call

/-- A call to a store of a database is answered from the database. -/
theorem performShared_apply (call : At ι RecordCall) (s : Storage) :
    performShared name database call s =
      ((Database.answer (name call.place) call.call (s.cell database)).1,
        s.setCell database (Database.answer (name call.place) call.call (s.cell database)).2) := by
  rw [performShared, inDatabase, perform_relational]
  rfl

/-- A database that is set up is a cell of the storage. -/
theorem holds_of_ready {s : Storage} (hready : (s.cell database).ready = true) :
    s.Holds database := by
  by_contra hno
  have hnone : s.databases.cells[database.index]? = none :=
    Array.getElem?_eq_none (Nat.not_lt.1 hno)
  have hdefault : s.cell database = default := by
    show (s.databases.cells[database.index]?).getD default = default
    rw [hnone]
    rfl
  rw [hdefault] at hready
  cases hready

variable [DecidableEq ι]

/-- The calls of other stores can be left out of a run: the database stays alike for a store. -/
theorem alike_stateAfter (distinct : Function.Injective name) (i : ι)
    (calls : List (At ι RecordCall)) {s t : Storage} (hready : (t.cell database).ready = true)
    (h : Database.Alike (name i) (s.cell database) (t.cell database)) :
    Database.Alike (name i)
      ((stateAfter (performShared name database) (calls.filter (·.place = i)) s).cell database)
      ((stateAfter (performShared name database) calls t).cell database) := by
  induction calls generalizing s t with
  | nil => exact h
  | cons call rest ih =>
    have hs : s.Holds database := holds_of_ready database (h.ready.symm.trans hready)
    have ht : t.Holds database := holds_of_ready database hready
    have hcell : ∀ {u : Storage}, u.Holds database →
        (performShared name database call u).2.cell database =
          (Database.answer (name call.place) call.call (u.cell database)).2 := by
      intro u hu
      rw [performShared_apply]
      exact Storage.cell_setCell_self _ hu
    have hready' : ((performShared name database call t).2.cell database).ready = true := by
      rw [hcell ht]
      exact Database.ready_answer_of_ready _ _ hready
    by_cases hown : call.place = i
    · rw [List.filter_cons_of_pos (by simpa using hown)]
      refine ih hready' ?_
      subst hown
      rw [hcell hs, hcell ht]
      exact (h.answer call.call).2
    · rw [List.filter_cons_of_neg (by simpa using hown)]
      refine ih hready' ?_
      rw [hcell ht]
      exact h.answer_of_ne (fun hsame => hown (distinct hsame).symm) call.call hready

/-- A store of a database reads the same in the run from which all other stores' calls are left
out. -/
theorem perform_stateAfter_filter (distinct : Function.Injective name) (s : Storage)
    (hready : (s.cell database).ready = true) (calls : List (At ι RecordCall)) (i : ι)
    (call : RecordCall) :
    (performShared name database ⟨i, call⟩ (stateAfter (performShared name database) calls s)).1 =
      (performShared name database ⟨i, call⟩
        (stateAfter (performShared name database) (calls.filter (·.place = i)) s)).1 := by
  have halike := alike_stateAfter name database distinct i calls hready
    ⟨Database.SameRows.refl (name i) (s.cell database), rfl⟩
  rw [performShared_apply, performShared_apply]
  exact (halike.answer call).1

/-- Two stores write the same record, and one of them is cleared. -/
theorem perform_stateAfter_filter_two :
    let name : Bool → String := fun b => if b then "s" else "t"
    let database : Ref Database := ⟨0⟩
    let s : Storage := { databases := ⟨#[{ ready := true }]⟩ }
    let a : Oid := ⟨"a", by decide⟩
    let update : RecordUpdate := ⟨a, .ofList [("x", .int 1)], ∅, true⟩
    let calls : List (At Bool RecordCall) :=
      [⟨true, .apply update⟩, ⟨false, .apply update⟩, ⟨false, .lifecycle .clear⟩]
    Function.Injective name ∧ (s.cell database).ready = true ∧
      (performShared name database ⟨true, .get a⟩
          (stateAfter (performShared name database) calls s)).1 =
        (performShared name database ⟨true, .get a⟩ (stateAfter (performShared name database)
          (calls.filter (·.place = true)) s)).1 := by
  intro name database s a update calls
  have distinct : Function.Injective name := fun
    | true, true, _ => rfl
    | false, false, _ => rfl
    | true, false, h => absurd h (by decide)
    | false, true, h => absurd h (by decide)
  have hready : (s.cell database).ready = true := rfl
  exact ⟨distinct, hready, perform_stateAfter_filter name database distinct s hready calls true _⟩

end RecordStore

end TieredStore
