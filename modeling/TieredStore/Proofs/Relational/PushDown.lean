import TieredStore.Proofs.Predicate.Meaning
import TieredStore.Relational.Condition

/-!
# Predicates as conditions on rows

The condition that a predicate becomes holds of the rows of a record exactly if the
predicate holds of its fields.

Main results:

- Theorem `RowTest.accepts_testOf`: a row passes the test of a comparison exactly if the
  value that it keeps compares that way.
- Theorem `Condition.holds_ofPredicate`: condition and predicate agree.
-/

namespace TieredStore

/-- The row of a value that is not null keeps its kind, text and number. -/
theorem FieldRow.ofValue?_of_not_null {v : Value} (h : v.isNull = false) :
    ofValue? v = some ⟨v.kind, v.display, v.asNumber?⟩ := by
  cases v with
  | null => cases h
  | _ => rfl

/-- A row passes the test of a comparison exactly if the value that it keeps compares
that way. -/
theorem RowTest.accepts_testOf (op : Operator) (v argument : Value) :
    (Condition.testOf op argument).accepts ⟨v.kind, v.display, v.asNumber?⟩ =
      op.accepts (v.compareWith argument) := by
  unfold Condition.testOf Value.compareWith
  cases argument.asNumber? with
  | none => cases v.asNumber? <;> rfl
  | some y => cases v.asNumber? <;> rfl

namespace Condition

/-- The rows of a record, given its fields. -/
def rowOf? (fields : Fields) (field : String) : Option FieldRow :=
  (fields.get? field).bind FieldRow.ofValue?

/-- A field without value has no row. -/
theorem rowOf?_of_null {fields : Fields} {field : String}
    (h : ((fields.get? field).getD .null).isNull = true) : rowOf? fields field = none := by
  unfold rowOf?
  cases hget : fields.get? field with
  | none => rfl
  | some v =>
    rw [hget, Option.getD_some, Value.isNull_eq_true_iff] at h
    rw [h]
    rfl

/-- A field with a value has the row of that value. -/
theorem rowOf?_of_not_null {fields : Fields} {field : String}
    (h : ((fields.get? field).getD .null).isNull = false) :
    rowOf? fields field = FieldRow.ofValue? ((fields.get? field).getD .null) := by
  unfold rowOf?
  cases hget : fields.get? field with
  | none =>
    rw [hget] at h
    cases h
  | some v => rfl

/-- A comparison and its condition agree. -/
theorem holds_ofComparison (fields : Fields) (field : String) (op : Operator)
    (argument : Value) :
    (ofComparison field op argument).holds (rowOf? fields) =
      op.test (fields.get? field) argument := by
  unfold ofComparison Operator.test Operator.holds
  cases hfield : ((fields.get? field).getD .null).isNull with
  | true =>
    have hrow := rowOf?_of_null hfield
    cases hargument : argument.isNull with
    | true => cases op <;> simp [holds, hrow]
    | false => cases op <;> simp [holds, hrow]
  | false =>
    have hrow := rowOf?_of_not_null hfield
    rw [FieldRow.ofValue?_of_not_null hfield] at hrow
    cases hargument : argument.isNull with
    | true => cases op <;> simp [holds, hrow, RowTest.accepts]
    | false =>
      cases op <;> simp [holds, hrow, RowTest.accepts_testOf, Operator.accepts, bne]

/-- The conditions of a list are those of its members. -/
theorem ofPredicates_eq_map (parts : List Predicate) :
    ofPredicates parts = parts.map ofPredicate := by
  induction parts with
  | nil => rw [ofPredicates, List.map_nil]
  | cons p rest ih => rw [ofPredicates, ih, List.map_cons]

/-- Condition and predicate agree. -/
theorem holds_ofPredicate (fields : Fields) (p : Predicate) :
    (ofPredicate p).holds (rowOf? fields) = p.holds fields := by
  induction p using Predicate.inductionOn with
  | compare field op argument =>
    rw [ofPredicate, holds_ofComparison, Predicate.holds_compare]
  | all parts ih =>
    cases parts with
    | nil => simp [ofPredicate, holds]
    | cons p rest =>
      rw [ofPredicate, holds_conjunction, ← ofPredicates, ofPredicates_eq_map, List.all_map,
        Predicate.holds_all, Bool.eq_iff_iff, List.all_eq_true, List.all_eq_true]
      exact forall₂_congr fun q hq => by rw [Function.comp_apply, ih q hq]
  | any parts ih =>
    cases parts with
    | nil => simp [ofPredicate, holds]
    | cons p rest =>
      rw [ofPredicate, holds_disjunction, ← ofPredicates, ofPredicates_eq_map, List.any_map,
        Predicate.holds_any, Bool.eq_iff_iff, List.any_eq_true, List.any_eq_true]
      exact exists_congr fun q => and_congr_right fun hq => by
        rw [Function.comp_apply, ih q hq]

/-- A query's condition selects the records whose fields pass its filter. -/
theorem holds_ofQuery (fields : Fields) (q : Query) :
    (ofQuery q).holds (rowOf? fields) = q.matchesFields fields := by
  unfold ofQuery Query.matchesFields
  cases q.predicate with
  | none => rw [holds]
  | some p => exact holds_ofPredicate fields p

end Condition

end TieredStore
