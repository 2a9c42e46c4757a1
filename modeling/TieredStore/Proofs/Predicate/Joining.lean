import TieredStore.Proofs.Predicate.Fields

/-!
# Joining predicates

Two predicates are joined by a conjunction or a disjunction, and a part that is a connective of the
joining kind gives its own parts to the new one.  So chains of any length have one tree, however
they were put together, empty connectives included.  What is joined means what both parts mean, is
valid if both are, and has the fields of the first one before the new fields of the second.

Main results:

- Theorem `Predicate.fields_of_names`: the fields of two predicates in a row.
- Theorem `Query.and_narrows`: a further predicate leaves the rows that satisfy it.
- Theorem `Predicate.joining_laws`: the laws of both connectives, and of narrowing a query.
-/

namespace TieredStore

namespace Predicate

variable {joined p q : Predicate}

/-- A predicate with the names of two others is checked like one of them after the other. -/
theorem validate_of_names (h : joined.names = p.names ++ q.names) :
    joined.validate = (do p.validate; q.validate) := by
  rw [validate, h]
  exact List.forM_append

/-- A predicate with the names of two others has the fields of the first, and then those of the
second that are new. -/
theorem fields_of_names (h : joined.names = p.names ++ q.names) :
    joined.fields = p.fields ++ q.fields.filter (· ∉ p.fields) := by
  have hnew : firstSeen p.names q.names = q.fields.filter (· ∉ p.names) := by
    rw [fields, ← firstSeen_append_eq_filter, List.append_nil]
  rw [fields, h, firstSeen_append, List.nil_append, hnew]
  simp only [mem_fields]
  rfl

/-- What is expected of joining predicates in a way that goes with an operation on truth values. -/
structure JoiningLaws (join : Predicate → Predicate → Predicate) (both : Bool → Bool → Bool) :
    Prop where
  /-- However a chain is put together, it is one tree. -/
  assoc (p q r : Predicate) : join (join p q) r = join p (join q r)
  /-- The meaning is that of both parts. -/
  holds (p q : Predicate) (fields : Fields) :
    (join p q).holds fields = both (p.holds fields) (q.holds fields)
  /-- All names are valid exactly if those of both parts are. -/
  valid_iff (p q : Predicate) :
    (join p q).validate = .ok () ↔ p.validate = .ok () ∧ q.validate = .ok ()
  /-- Otherwise the first part with a bad name is to blame. -/
  validate (p q : Predicate) : (join p q).validate = (do p.validate; q.validate)
  /-- The fields are those of the first part, and then those of the second that are new. -/
  fields (p q : Predicate) : (join p q).fields = p.fields ++ q.fields.filter (· ∉ p.fields)

/-- Joining is told by its meaning and by the names in the tree. -/
theorem JoiningLaws.of_names {join : Predicate → Predicate → Predicate}
    {both : Bool → Bool → Bool} (assoc : ∀ p q r, join (join p q) r = join p (join q r))
    (holds : ∀ p q fields, (join p q).holds fields = both (p.holds fields) (q.holds fields))
    (names : ∀ p q, (join p q).names = p.names ++ q.names) : JoiningLaws join both where
  assoc := assoc
  holds := holds
  valid_iff p q := valid_iff_of_names (names p q)
  validate p q := validate_of_names (names p q)
  fields p q := fields_of_names (names p q)

end Predicate

/-! ## Queries -/

/-- Whether a query gives those rows of another one that satisfy a further predicate. -/
structure Query.Narrows (narrowed q : Query) (extra : Predicate) : Prop where
  /-- A row has to match and to satisfy the predicate. -/
  matchesFields (fields : Fields) :
    narrowed.matchesFields fields = (q.matchesFields fields && extra.holds fields)
  order : narrowed.order = q.order
  offset : narrowed.offset = q.offset
  limit : narrowed.limit = q.limit
  /-- The answer is that over the rows that satisfy the predicate. -/
  evaluate {α : Type} [Row α] (rows : List α) :
    narrowed.evaluate rows = q.evaluate (rows.filter fun row => extra.holds (Row.fields row))

/-- A further predicate leaves the rows that satisfy it. -/
theorem Query.and_narrows (q : Query) (extra : Predicate) : (q.and extra).Narrows q extra where
  matchesFields := q.and_matches extra
  order := rfl
  offset := rfl
  limit := rfl
  evaluate rows := by
    rw [Query.evaluate, Query.evaluate, List.filter_filter]
    simp only [q.and_matches]
    rfl

namespace Predicate

/-- The laws of conjunction and disjunction, and of narrowing a query by a conjunction. -/
theorem joining_laws : JoiningLaws and (· && ·) ∧ JoiningLaws or (· || ·) ∧
    ∀ (q : Query) (extra : Predicate), (q.and extra).Narrows q extra :=
  ⟨.of_names and_assoc (fun p q fields => holds_and fields p q) names_and,
    .of_names or_assoc (fun p q fields => holds_or fields p q) names_or, Query.and_narrows⟩

end Predicate

end TieredStore
