import TieredStore.Oid
import TieredStore.Query.Expression
import TieredStore.Sorting

/-!
# Queries

A query filters rows by an optional predicate, sorts them by an optional field and
cuts a page out of the result.  Rows with equal sort keys, and all rows when there
is no sort field, are ordered by ascending OID.

Main results:

- Theorem `Query.mem_evaluate`: an evaluated row is one of the rows that match.
- Theorem `Query.and_matches`: a further predicate narrows a query.
-/

namespace TieredStore

/-- The direction of sorting. -/
inductive Direction where
  | ascending
  | descending
  deriving DecidableEq

/-- A field to sort by. -/
structure OrderBy where
  field : String
  direction : Direction
  deriving DecidableEq

/-- What can be filtered and sorted: anything with an OID and fields. -/
class Row (α : Type) where
  oid : α → Oid
  fields : α → Fields

instance : Row (Oid × Fields) := ⟨Prod.fst, Prod.snd⟩

/-- A filter with sorting and paging. -/
structure Query where
  /-- The rows that are wanted; `none` for all. -/
  predicate : Option Predicate := none
  /-- The field to sort by; `none` for the OID. -/
  order : Option OrderBy := none
  offset : UInt64 := 0
  /-- How many rows are wanted at most. -/
  limit : Option UInt64 := none
  deriving BEq

namespace Query

/-! ## Building -/

/-- All rows. -/
def all : Query := {}

/-- The rows that satisfy a predicate. -/
def filter (predicate : Predicate) : Query := { predicate := some predicate }

/-- The query that a text and its arguments describe. -/
def parse (text : String) (arguments : List Value) : Except StoreError Query :=
  (Predicate.ofText? text arguments).map fun predicate => { predicate := predicate }

/-- Narrows a query by a further predicate. -/
def and (q : Query) (extra : Predicate) : Query :=
  { q with predicate := some (match q.predicate with
      | some p => p.and extra
      | none => extra) }

/-- The filter alone. -/
def unpaged (q : Query) : Query := { predicate := q.predicate }

/-- Whether anything but the filter is set. -/
def isPaged (q : Query) : Bool := q.order.isSome || q.offset > 0 || q.limit.isSome

/-- The query for the first row only. -/
def first (q : Query) : Query := { q with limit := some 1 }

/-- Rejects the first name of the predicate, then of the order, that is no field
name. -/
def validate (q : Query) : Except StoreError Unit := do
  match q.predicate with
  | some p => p.validate
  | none => pure ()
  match q.order with
  | some order => checkFieldName order.field
  | none => pure ()

/-! ## Evaluating -/

/-- Whether fields pass the filter. -/
def matchesFields (q : Query) (fields : Fields) : Bool :=
  match q.predicate with
  | some p => p.holds fields
  | none => true

variable {α : Type} [Row α]

/-- What a row is sorted by: the key of the sort field, where a missing field or order
counts as null, and the OID. -/
def rowKey (order : Option OrderBy) (row : α) : Value.SortKey × Oid :=
  let value := order.bind fun order => (Row.fields row).get? order.field
  ((value.getD .null).sortKey, Row.oid row)

/-- The order of the keys of two rows in a sorted result. -/
def compareKeys (order : Option OrderBy) (a b : Value.SortKey × Oid) : Ordering :=
  match order with
  | none => compare a.2 b.2
  | some ⟨_, .ascending⟩ => (a.1.compare b.1).then (compare a.2 b.2)
  | some ⟨_, .descending⟩ => (a.1.compare b.1).swap.then (compare a.2 b.2)

/-- The rows in the order of the query. -/
def arrange (q : Query) (rows : List α) : List α :=
  sortOn (rowKey q.order) (fun a b => (compareKeys q.order a b).isLE) rows

/-- The page of a list of rows. -/
def page (q : Query) (rows : List α) : List α :=
  let rest := rows.drop q.offset.toNat
  match q.limit with
  | some limit => rest.take limit.toNat
  | none => rest

/-- Sorts filtered rows and cuts the page out. -/
def orderAndPage (q : Query) (rows : List α) : List α := q.page (q.arrange rows)

/-- The answer to a query over some rows. -/
def evaluate (q : Query) (rows : List α) : List α :=
  q.orderAndPage (rows.filter fun row => q.matchesFields (Row.fields row))

/-! ## Small laws -/

omit [Row α] in
/-- A page holds only rows of the list. -/
theorem mem_of_mem_page {q : Query} {rows : List α} {row : α} (h : row ∈ q.page rows) :
    row ∈ rows := by
  unfold page at h
  cases hl : q.limit with
  | none =>
    rw [hl] at h
    exact List.mem_of_mem_drop h
  | some limit =>
    rw [hl] at h
    exact List.mem_of_mem_drop (List.mem_of_mem_take h)

/-- An evaluated row is one of the rows that match. -/
theorem mem_evaluate {q : Query} {rows : List α} {row : α} (h : row ∈ q.evaluate rows) :
    row ∈ rows ∧ q.matchesFields (Row.fields row) = true := by
  have := mem_of_mem_page h
  rw [arrange, mem_sortOn, List.mem_filter] at this
  exact this

/-- A further predicate narrows a query. -/
theorem and_matches (q : Query) (extra : Predicate) (fields : Fields) :
    (q.and extra).matchesFields fields = (q.matchesFields fields && extra.holds fields) := by
  unfold matchesFields and
  cases q.predicate <;> simp

end Query

end TieredStore
