import TieredStore.Proofs.Record.Answers

/-!
# The fields of a predicate

A predicate depends on its own fields only.  Its list of fields has each name once that is compared
anywhere in the tree, whatever surrounds the comparison.  Fields that are read alike under these
names satisfy it together, and so do the fields of a stored row, nulls included, and those of the
record that is loaded from it.

Main results:

- Theorems `Predicate.mem_firstSeen` and `Predicate.nodup_firstSeen`: each name that is new is
  listed once.
- Theorem `Predicate.mem_fields_iff`: the fields of a predicate are the names that it compares.
- Theorem `Predicate.dependsOnFields`: what a predicate depends on.
-/

namespace TieredStore

namespace Predicate

/-! ## Names in the order in which they are first seen -/

section FirstSeen

variable {seen names more : List String} {name : String}

/-- A name that has been seen is passed over. -/
theorem firstSeen_cons_of_mem {rest : List String} (h : name ∈ seen) :
    firstSeen seen (name :: rest) = firstSeen seen rest := by
  rw [firstSeen, if_pos h]

/-- A name that is new is listed. -/
theorem firstSeen_cons_of_not_mem {rest : List String} (h : name ∉ seen) :
    firstSeen seen (name :: rest) = name :: firstSeen (seen ++ [name]) rest := by
  rw [firstSeen, if_neg h]

/-- The names that are listed are those that have not been seen before. -/
theorem mem_firstSeen : name ∈ firstSeen seen names ↔ name ∈ names ∧ name ∉ seen := by
  induction names generalizing seen with
  | nil => simp [firstSeen]
  | cons first rest ih =>
    by_cases hfirst : first ∈ seen
    · rw [firstSeen_cons_of_mem hfirst, ih, List.mem_cons]
      refine and_congr_left fun hname => (or_iff_right ?_).symm
      rintro rfl
      exact hname hfirst
    · rw [firstSeen_cons_of_not_mem hfirst, List.mem_cons, ih, List.mem_append,
        List.mem_singleton, List.mem_cons]
      by_cases hname : name = first
      · subst hname
        exact iff_of_true (.inl rfl) ⟨.inl rfl, hfirst⟩
      · simp only [hname, false_or, or_false]

/-- No name is listed twice. -/
theorem nodup_firstSeen : (firstSeen seen names).Nodup := by
  induction names generalizing seen with
  | nil => exact List.nodup_nil
  | cons first rest ih =>
    by_cases hfirst : first ∈ seen
    · rw [firstSeen_cons_of_mem hfirst]
      exact ih
    · rw [firstSeen_cons_of_not_mem hfirst]
      refine List.nodup_cons.2 ⟨fun hagain => ?_, ih⟩
      exact (mem_firstSeen.1 hagain).2 (List.mem_append_right _ (List.mem_singleton_self first))

/-- Only which names have been seen counts. -/
theorem firstSeen_congr {seen' : List String} (h : ∀ name, name ∈ seen ↔ name ∈ seen') :
    firstSeen seen names = firstSeen seen' names := by
  induction names generalizing seen seen' with
  | nil => rfl
  | cons first rest ih =>
    have hnext : ∀ name, name ∈ seen ++ [first] ↔ name ∈ seen' ++ [first] := by
      intro name
      rw [List.mem_append, List.mem_append, h]
    simp only [firstSeen, h first, ih h, ih hnext]

/-- A name that has been seen already need not be remembered again. -/
theorem firstSeen_append_singleton (h : name ∈ seen) :
    firstSeen (seen ++ [name]) names = firstSeen seen names := by
  refine firstSeen_congr fun other => ?_
  rw [List.mem_append, List.mem_singleton]
  refine or_iff_left_of_imp ?_
  rintro rfl
  exact h

/-- Once some names have been listed, those that follow are listed as far as they are new. -/
theorem firstSeen_append :
    firstSeen seen (names ++ more) = firstSeen seen names ++ firstSeen (seen ++ names) more := by
  induction names generalizing seen with
  | nil => rw [List.append_nil, firstSeen, List.nil_append, List.nil_append]
  | cons first rest ih =>
    by_cases hfirst : first ∈ seen
    · have hseen : firstSeen (seen ++ first :: rest) more = firstSeen (seen ++ rest) more := by
        refine firstSeen_congr fun other => ?_
        rw [List.mem_append, List.mem_append, List.mem_cons]
        refine or_congr_right' fun hother => or_iff_right ?_
        rintro rfl
        exact hother hfirst
      rw [List.cons_append, firstSeen_cons_of_mem hfirst, firstSeen_cons_of_mem hfirst, ih, hseen]
    · rw [List.cons_append, firstSeen_cons_of_not_mem hfirst, firstSeen_cons_of_not_mem hfirst, ih,
        List.append_assoc, List.singleton_append, List.cons_append]

/-- What has been seen earlier is left out. -/
theorem firstSeen_append_eq_filter (earlier : List String) :
    firstSeen (earlier ++ seen) names = (firstSeen seen names).filter (· ∉ earlier) := by
  induction names generalizing seen with
  | nil => rfl
  | cons first rest ih =>
    by_cases hseen : first ∈ seen
    · rw [firstSeen_cons_of_mem hseen, firstSeen_cons_of_mem (List.mem_append_right _ hseen), ih]
    · rw [firstSeen_cons_of_not_mem hseen, List.filter_cons, ← ih, ← List.append_assoc]
      by_cases hearlier : first ∈ earlier
      · have hboth : first ∈ earlier ++ seen := List.mem_append_left _ hearlier
        rw [firstSeen_cons_of_mem hboth, firstSeen_append_singleton hboth,
          if_neg (by simpa using hearlier)]
      · have hneither : first ∉ earlier ++ seen := fun h =>
          (List.mem_append.1 h).elim hearlier hseen
        rw [firstSeen_cons_of_not_mem hneither, if_pos (by simpa using hearlier)]

end FirstSeen

/-! ## The names in a tree -/

/-- Whether a name is compared somewhere in a predicate. -/
inductive Compares (name : String) : Predicate → Prop
  | here {op : Operator} {argument : Value} : Compares name (.compare name op argument)
  | all {parts : List Predicate} {q : Predicate} (hpart : q ∈ parts) (h : Compares name q) :
    Compares name (.all parts)
  | any {parts : List Predicate} {q : Predicate} (hpart : q ∈ parts) (h : Compares name q) :
    Compares name (.any parts)

/-- The names from left to right are those that are compared somewhere. -/
theorem mem_names_iff (p : Predicate) (name : String) : name ∈ p.names ↔ p.Compares name := by
  induction p using inductionOn with
  | compare field op argument =>
    rw [names, List.mem_singleton]
    constructor
    · rintro rfl
      exact .here
    · rintro ⟨⟩
      rfl
  | all parts ih =>
    rw [names, namesOfList_eq_flatMap, List.mem_flatMap]
    constructor
    · rintro ⟨q, hq, hname⟩
      exact .all hq ((ih q hq).1 hname)
    · rintro (_ | ⟨hq, h⟩)
      exact ⟨_, hq, (ih _ hq).2 h⟩
  | any parts ih =>
    rw [names, namesOfList_eq_flatMap, List.mem_flatMap]
    constructor
    · rintro ⟨q, hq, hname⟩
      exact .any hq ((ih q hq).1 hname)
    · rintro (_ | _ | ⟨hq, h⟩)
      exact ⟨_, hq, (ih _ hq).2 h⟩

/-- The fields of a predicate are the names from left to right, each once. -/
theorem mem_fields {p : Predicate} {name : String} : name ∈ p.fields ↔ name ∈ p.names :=
  mem_firstSeen.trans (and_iff_left List.not_mem_nil)

/-- The fields of a predicate are the names that it compares. -/
theorem mem_fields_iff (p : Predicate) (name : String) : name ∈ p.fields ↔ p.Compares name :=
  mem_fields.trans (p.mem_names_iff name)

/-! ## What a predicate depends on -/

/-- That a predicate depends on its fields only. -/
structure DependsOnFields (p : Predicate) : Prop where
  /-- Fields that are read alike under the listed names, a null like a missing one, satisfy it
  together. -/
  holds_eq (a b : Fields) : a.AgreeOn p.fields b → p.holds a = p.holds b
  /-- No name is listed twice. -/
  nodup_fields : p.fields.Nodup
  /-- Exactly the names are listed that are compared somewhere. -/
  mem_fields_iff (name : String) : name ∈ p.fields ↔ p.Compares name
  /-- Stored fields and the record that is loaded from them satisfy it together. -/
  holds_loaded (oid : Oid) (stored : Fields) :
    p.holds (Record.loaded oid stored).fields = p.holds stored
  /-- So a table may filter what it has stored or what it returns. -/
  query_eq_evaluate (table : RecordTable) (q : Query) : q.predicate = some p →
    table.query q = q.evaluate table.records

/-- Every predicate depends on its fields only. -/
theorem dependsOnFields (p : Predicate) : p.DependsOnFields where
  holds_eq _ _ h := p.holds_eq_of_agreeOn fun name hname => h name (mem_fields.2 hname)
  nodup_fields := nodup_firstSeen
  mem_fields_iff := p.mem_fields_iff
  holds_loaded _ stored := p.holds_present stored
  query_eq_evaluate table q _ := table.query_eq_evaluate q

/-- A stored null, a field that is missing and one that is not compared make no difference. -/
theorem dependsOnFields_nested :
    let p : Predicate := .any [.all [.compare "a" .ne (.int 1), .compare "b" .gt (.text "1e0")],
      .any [], .compare "a" .eq (.bool true)]
    let stored : Fields := .ofList [("a", .null), ("b", .int 2), ("c", .int 1)]
    let other : Fields := .ofList [("b", .int 2), ("d", .null)]
    p.fields = ["a", "b"] ∧ stored.AgreeOn p.fields other ∧ p.holds stored = p.holds other ∧
      p.holds stored = true := by
  intro p stored other
  have hfields : p.fields = ["a", "b"] := by decide +kernel
  have hagree : stored.AgreeOn p.fields other := by
    rw [hfields]
    decide +kernel
  exact ⟨hfields, hagree, p.dependsOnFields.holds_eq _ _ hagree, by decide +kernel⟩

end Predicate

end TieredStore
