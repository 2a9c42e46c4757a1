import TieredStore.Proofs.SortedMap
import TieredStore.Query.Basic

/-!
# What a predicate sees of fields

A predicate reads each field as a value, a missing one as null.  Fields that agree in
this view are told apart by no predicate; in particular dropping the fields that hold
null changes nothing.

Main results:

- Theorem `Predicate.inductionOn`: induction over predicates, with one hypothesis for
  all parts of a connective.
- Theorem `Predicate.holds_eq_of_agreeOn`: only the values that the compared fields are read as
  count.
- Theorem `Predicate.holds_present`: null fields count as missing.
- Theorem `Predicate.validate_and`: a conjunction is valid exactly if both parts are.
-/

namespace TieredStore

/-- Whether fields are read alike under some names, null being read for a missing field. -/
def Fields.AgreeOn (names : List String) (a b : Fields) : Prop :=
  ∀ name ∈ names, (a.get? name).getD .null = (b.get? name).getD .null

instance (names : List String) (a b : Fields) : Decidable (a.AgreeOn names b) :=
  inferInstanceAs (Decidable (∀ name ∈ names, (a.get? name).getD .null = (b.get? name).getD .null))

/-- Fields that agree on the names of all parts of something agree on those of each part. -/
theorem Fields.AgreeOn.of_mem_flatMap {α : Type} {names : α → List String} {parts : List α}
    {a b : Fields} (h : a.AgreeOn (parts.flatMap names) b) {part : α} (hpart : part ∈ parts) :
    a.AgreeOn (names part) b :=
  fun name hname => h name (List.mem_flatMap.2 ⟨part, hpart, hname⟩)

namespace Predicate

/-- Induction over predicates: comparisons, and connectives all of whose parts are
settled. -/
@[elab_as_elim]
theorem inductionOn {motive : Predicate → Prop} (p : Predicate)
    (compare : ∀ field op argument, motive (.compare field op argument))
    (all : ∀ parts, (∀ q ∈ parts, motive q) → motive (.all parts))
    (any : ∀ parts, (∀ q ∈ parts, motive q) → motive (.any parts)) : motive p := by
  refine @Predicate.rec motive (fun parts => ∀ q ∈ parts, motive q) compare all any ?_ ?_ p
  · intro q hq
    cases hq
  · intro first rest hfirst hrest q hq
    rcases List.mem_cons.1 hq with rfl | hq
    · exact hfirst
    · exact hrest q hq

/-- Only the values that the compared fields are read as count. -/
theorem holds_eq_of_agreeOn {a b : Fields} (p : Predicate) (h : a.AgreeOn p.names b) :
    p.holds a = p.holds b := by
  induction p using inductionOn with
  | compare field op argument =>
    have hfield := h field (by rw [names]; exact List.mem_singleton_self field)
    simp only [holds_compare, Operator.test, hfield]
  | all parts ih =>
    rw [names, namesOfList_eq_flatMap] at h
    rw [holds_all, holds_all, Bool.eq_iff_iff, List.all_eq_true, List.all_eq_true]
    exact forall₂_congr fun q hq => by rw [ih q hq (h.of_mem_flatMap hq)]
  | any parts ih =>
    rw [names, namesOfList_eq_flatMap] at h
    rw [holds_any, holds_any, Bool.eq_iff_iff, List.any_eq_true, List.any_eq_true]
    exact exists_congr fun q => and_congr_right fun hq => by rw [ih q hq (h.of_mem_flatMap hq)]

/-- Only the values that fields are read as count. -/
theorem holds_congr {a b : Fields}
    (h : ∀ field, (a.get? field).getD .null = (b.get? field).getD .null) (p : Predicate) :
    p.holds a = p.holds b :=
  p.holds_eq_of_agreeOn fun field _ => h field

end Predicate

/-- A present field is one that is not null. -/
theorem Fields.get?_present (fields : Fields) (field : String) :
    fields.present.get? field = (fields.get? field).filter fun v => !v.isNull :=
  SortedMap.get?_filter fields _ field

/-- Dropping null fields does not change what fields are read as. -/
theorem Fields.getD_present (fields : Fields) (field : String) :
    (fields.present.get? field).getD .null = (fields.get? field).getD .null := by
  rw [get?_present]
  cases hget : fields.get? field with
  | none => rfl
  | some v => cases v <;> rfl

/-- Null fields count as missing. -/
theorem Predicate.holds_present (p : Predicate) (fields : Fields) :
    p.holds fields.present = p.holds fields :=
  holds_congr fields.getD_present p

/-! ## Valid names -/

namespace Predicate

/-- A predicate is valid exactly if all names in it are field names. -/
theorem validate_eq_ok_iff (p : Predicate) :
    p.validate = .ok () ↔ ∀ name ∈ p.names, isFieldName name = true := by
  unfold validate
  induction p.names with
  | nil => simp [pure, Except.pure]
  | cons name rest ih =>
    rw [List.forall_mem_cons, ← ih]
    show (checkFieldName name >>= fun _ => rest.forM checkFieldName) = .ok () ↔ _
    by_cases hname : isFieldName name = true
    · rw [(checkFieldName_eq_ok_iff name).2 hname]
      simp only [hname, true_and]
      rfl
    · have hreject : checkFieldName name = .error (.invalidField name) := if_neg hname
      rw [hreject]
      constructor
      · intro h
        cases h
      · intro h
        exact absurd h.1 hname

/-- The names in the conjuncts of a predicate are its own. -/
theorem flatMap_names_conjuncts (p : Predicate) : p.conjuncts.flatMap names = p.names := by
  cases p with
  | all parts => rw [conjuncts, names, namesOfList_eq_flatMap]
  | compare field op argument => simp [conjuncts]
  | any parts => simp [conjuncts]

/-- The names in the disjuncts of a predicate are its own. -/
theorem flatMap_names_disjuncts (p : Predicate) : p.disjuncts.flatMap names = p.names := by
  cases p with
  | any parts => rw [disjuncts, names, namesOfList_eq_flatMap]
  | compare field op argument => simp [disjuncts]
  | all parts => simp [disjuncts]

/-- The names in a conjunction are those in its parts. -/
theorem names_and (p q : Predicate) : (p.and q).names = p.names ++ q.names := by
  rw [and, names, namesOfList_eq_flatMap, List.flatMap_append, flatMap_names_conjuncts,
    flatMap_names_conjuncts]

/-- The names in a disjunction are those in its parts. -/
theorem names_or (p q : Predicate) : (p.or q).names = p.names ++ q.names := by
  rw [or, names, namesOfList_eq_flatMap, List.flatMap_append, flatMap_names_disjuncts,
    flatMap_names_disjuncts]

/-- A predicate with the names of two others is valid exactly if both are. -/
theorem valid_iff_of_names {joined p q : Predicate} (h : joined.names = p.names ++ q.names) :
    joined.validate = .ok () ↔ p.validate = .ok () ∧ q.validate = .ok () := by
  rw [validate_eq_ok_iff, validate_eq_ok_iff, validate_eq_ok_iff, h]
  exact List.forall_mem_append

/-- A conjunction is valid exactly if both parts are. -/
theorem validate_and (p q : Predicate) :
    (p.and q).validate = .ok () ↔ p.validate = .ok () ∧ q.validate = .ok () :=
  valid_iff_of_names (names_and p q)

end Predicate

end TieredStore
