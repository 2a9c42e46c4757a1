import TieredStore.Proofs.Predicate.Meaning
import TieredStore.Proofs.Query.Paging
import TieredStore.Proofs.Runs
import TieredStore.Record.Table

/-!
# Answers of a table

What a table of records answers to each call and to each program of calls, as a result
beside the table that is left.

Main results:

- Theorem `RecordTable.answer_query`: a query is checked, and changes nothing.
- Theorem `RecordTable.query_eq_evaluate`: a query filters stored fields as it filters the records
  loaded from them.
- Theorem `RecordTable.query_unpaged`: a query without order and paging gives the records
  that pass its filter, by ascending OID.
- Theorem `RecordTable.run_removeAll`: removing some records leaves the others.
-/

namespace TieredStore

open Std

namespace RecordTable

variable (table : RecordTable)

/-! ## The records of a table -/

/-- A record of a table is a stored one, as it is loaded. -/
theorem mem_records (r : Record) :
    r ∈ table.records ↔
      ∃ fields, table.get? r.oid = some fields ∧ r = Record.loaded r.oid fields := by
  rw [records, List.mem_map]
  constructor
  · rintro ⟨⟨oid, fields⟩, hmem, rfl⟩
    exact ⟨fields, (table.get?_eq_some_iff oid fields).2 hmem, rfl⟩
  · rintro ⟨fields, hget, hr⟩
    exact ⟨(r.oid, fields), (table.get?_eq_some_iff r.oid fields).1 hget, hr.symm⟩

/-- The records of a table are listed by ascending OID. -/
theorem records_ascending : table.records.Pairwise fun a b => compare a.oid b.oid = .lt :=
  List.pairwise_map.2 table.ascending

/-- No two records of a table have one OID. -/
theorem nodup_oids : (table.records.map (·.oid)).Nodup :=
  SortedMap.nodup_of_ascending (List.pairwise_map.2 table.records_ascending)

/-- Records of one table with one OID are one record. -/
theorem eq_of_oid_eq {a b : Record} (ha : a ∈ table.records) (hb : b ∈ table.records)
    (h : a.oid = b.oid) : a = b :=
  List.inj_on_of_nodup_map table.nodup_oids ha hb h

/-- The records that are left by a filter are those that pass it. -/
theorem records_filter (keep : Oid → Fields → Bool) (test : Record → Bool)
    (h : ∀ oid fields, keep oid fields = test (Record.loaded oid fields)) :
    records (table.filter keep) = table.records.filter test := by
  unfold records SortedMap.filter
  rw [List.filter_map]
  congr 1
  exact List.filter_congr fun e _ => h e.1 e.2

/-! ## Queries -/

/-- A query is checked, and changes nothing. -/
theorem answer_query (q : Query) :
    answer (.query q) table = (q.validate.map fun _ => table.query q, table) := by
  refine (Action.bind_apply (Action.ofExcept q.validate) _ table).trans ?_
  rw [Action.ofExcept_apply]
  cases q.validate <;> rfl

/-- A valid query gives the records that answer it. -/
theorem answer_query_of_valid {q : Query} (h : q.validate = .ok ()) :
    answer (.query q) table = (.ok (table.query q), table) := by
  rw [answer_query, h]
  rfl

/-- Records by ascending OID are in the order of a query that has none. -/
theorem arrange_records {q : Query} (horder : q.order = none) (rows : List Record)
    (h : rows.Pairwise fun a b => compare a.oid b.oid = .lt) : q.arrange rows = rows := by
  have distinct : (rows.map Row.oid).Nodup :=
    SortedMap.nodup_of_ascending (List.pairwise_map.2 h)
  have hprecedes : rows.Pairwise (Query.Precedes q.order) := by
    rw [horder]
    exact h
  exact q.arrange_eq_self distinct hprecedes

/-- A query filters the fields as they are stored, and might as well filter the records as they
are loaded. -/
theorem query_eq_evaluate (q : Query) : table.query q = q.evaluate table.records := by
  have hfilter := table.records_filter (fun _ fields => q.matchesFields fields)
    (fun r => q.matchesFields r.fields) (by
      intro oid fields
      unfold Query.matchesFields
      cases q.predicate with
      | none => rfl
      | some p => exact (p.holds_present fields).symm)
  rw [query, hfilter]
  rfl

/-- A query without order and paging gives the records that pass its filter, by ascending
OID. -/
theorem query_unpaged (p : Option Predicate) :
    table.query { predicate := p } =
      table.records.filter fun r => ({ predicate := p } : Query).matchesFields r.fields := by
  rw [query_eq_evaluate, Query.evaluate, Query.orderAndPage,
    arrange_records rfl _ (table.records_ascending.filter _)]
  rfl

/-! ## Programs -/

/-- Looking a record up gives the stored record. -/
theorem run_record? (oid : Oid) : (Records.record? oid).run answer table =
    (.ok ((table.get? oid).map (Record.loaded oid)), table) :=
  congrFun (Program.run_ofCall answer (RecordCall.get oid)) table

/-- A stored record is contained. -/
theorem run_contains (oid : Oid) :
    (Records.contains oid).run answer table = (.ok (table.contains oid), table) := by
  unfold Records.contains
  rw [Program.run_bind, Action.bind_apply, run_record?]
  show (Except.ok ((table.get? oid).map (Record.loaded oid)).isSome, table) = _
  rw [Option.isSome_map]
  rfl

/-- A valid query gives the records that answer it. -/
theorem run_query {q : Query} (h : q.validate = .ok ()) :
    (Records.query q).run answer table = (.ok (table.query q), table) :=
  (congrFun (Program.run_ofCall answer (RecordCall.query q)) table).trans
    (table.answer_query_of_valid h)

/-- A table without some records. -/
def without (table : RecordTable) (oids : List Oid) : RecordTable :=
  table.filter fun oid _ => decide (oid ∉ oids)

/-- What is left is what is not taken away. -/
theorem get?_without (oids : List Oid) (oid : Oid) :
    (table.without oids).get? oid = if oid ∈ oids then none else table.get? oid := by
  rw [without, SortedMap.get?_filter]
  by_cases h : oid ∈ oids
  · cases table.get? oid <;> simp [Option.filter, h]
  · cases table.get? oid <;> simp [Option.filter, h]

/-- Nothing is taken away without OIDs. -/
theorem without_nil : table.without [] = table := by
  apply SortedMap.ext_get?
  intro oid
  rw [get?_without, if_neg List.not_mem_nil]

/-- Removing some records leaves the others. -/
theorem run_removeAll (oids : List Oid) :
    (Records.removeAll oids).run answer table = (.ok (), table.without oids) := by
  induction oids generalizing table with
  | nil =>
    rw [without_nil]
    rfl
  | cons first rest ih =>
    have hstep : table.without (first :: rest) = without (table.erase first) rest := by
      apply SortedMap.ext_get?
      intro oid
      rw [get?_without, get?_without]
      by_cases hfirst : oid = first
      · subst hfirst
        rw [SortedMap.get?_erase_self, if_pos List.mem_cons_self, ite_self]
      · rw [SortedMap.get?_erase_of_ne _ hfirst]
        simp only [List.mem_cons, hfirst, false_or]
    rw [hstep, ← ih]
    rfl

/-- Saving a new record stores all of its fields. -/
theorem run_save_new {r : Record} (hnew : r.persisted = false) :
    (Records.save r).run answer table =
      (.ok r.markSaved, table.insert r.oid r.fields) := by
  have happly : table.apply r.pendingUpdate = table.insert r.oid r.fields := by
    unfold apply Record.pendingUpdate
    rw [hnew]
    cases table.get? r.oid <;> rfl
  have hdirty : r.isDirty = true := by
    rw [Record.isDirty, hnew]
    rfl
  unfold Records.save
  rw [if_pos hdirty, ← happly]
  rfl

end RecordTable

end TieredStore
