import TieredStore.Comparison
import TieredStore.FieldName

/-!
# Predicates

A predicate is a tree of field comparisons under conjunctions and disjunctions of
any number of parts.  Joining two predicates merges a part that is already of the
joining kind, so chains stay flat.

Main results:

- Theorems `Predicate.holds_all` and `Predicate.holds_any`: a conjunction holds
  if all of its parts do, a disjunction if one of them does.
- Theorems `Predicate.holds_and` and `Predicate.holds_or`: joining two
  predicates joins their meanings.
- Theorems `Predicate.and_assoc` and `Predicate.or_assoc`: the order of joining
  leaves no trace in the tree.
-/

namespace TieredStore

/-- A condition on the fields of a record. -/
inductive Predicate where
  /-- A comparison of a field with an argument. -/
  | compare (field : String) (op : Operator) (argument : Value)
  /-- All parts hold; no part at all always holds. -/
  | all (parts : List Predicate)
  /-- Some part holds; no part at all never holds. -/
  | any (parts : List Predicate)
  deriving BEq, Inhabited

namespace Predicate

/-! ## Meaning -/

mutual

/-- Whether the fields of a record satisfy a predicate. -/
def holds (fields : Fields) : Predicate → Bool
  | .compare field op argument => op.test (fields.get? field) argument
  | .all parts => allHold fields parts
  | .any parts => anyHold fields parts

/-- Whether every predicate of a list is satisfied. -/
def allHold (fields : Fields) : List Predicate → Bool
  | [] => true
  | p :: rest => holds fields p && allHold fields rest

/-- Whether some predicate of a list is satisfied. -/
def anyHold (fields : Fields) : List Predicate → Bool
  | [] => false
  | p :: rest => holds fields p || anyHold fields rest

end

/-- A comparison holds as its operator says. -/
@[simp] theorem holds_compare (fields : Fields) (field : String) (op : Operator)
    (argument : Value) :
    holds fields (.compare field op argument) = op.test (fields.get? field) argument := by
  simp [holds]

/-- All predicates of a list hold as a conjunction does. -/
theorem allHold_eq_all (fields : Fields) (parts : List Predicate) :
    allHold fields parts = parts.all (holds fields) := by
  induction parts with
  | nil => simp [allHold]
  | cons p rest ih => simp [allHold, ih]

/-- Some predicate of a list holds as a disjunction does. -/
theorem anyHold_eq_any (fields : Fields) (parts : List Predicate) :
    anyHold fields parts = parts.any (holds fields) := by
  induction parts with
  | nil => simp [anyHold]
  | cons p rest ih => simp [anyHold, ih]

/-- A conjunction holds if all of its parts do. -/
@[simp] theorem holds_all (fields : Fields) (parts : List Predicate) :
    holds fields (.all parts) = parts.all (holds fields) := by
  simp [holds, allHold_eq_all]

/-- A disjunction holds if one of its parts does. -/
@[simp] theorem holds_any (fields : Fields) (parts : List Predicate) :
    holds fields (.any parts) = parts.any (holds fields) := by
  simp [holds, anyHold_eq_any]

/-! ## Joining -/

/-- The parts of a conjunction; anything else is its own only part. -/
def conjuncts : Predicate → List Predicate
  | .all parts => parts
  | p => [p]

/-- The parts of a disjunction; anything else is its own only part. -/
def disjuncts : Predicate → List Predicate
  | .any parts => parts
  | p => [p]

/-- The conjunction of two predicates. -/
def and (p q : Predicate) : Predicate := .all (p.conjuncts ++ q.conjuncts)

/-- The disjunction of two predicates. -/
def or (p q : Predicate) : Predicate := .any (p.disjuncts ++ q.disjuncts)

/-- The order of joining leaves no trace in a conjunction. -/
theorem and_assoc (p q r : Predicate) : (p.and q).and r = p.and (q.and r) := by
  simp [and, conjuncts, List.append_assoc]

/-- The order of joining leaves no trace in a disjunction. -/
theorem or_assoc (p q r : Predicate) : (p.or q).or r = p.or (q.or r) := by
  simp [or, disjuncts, List.append_assoc]

/-- A predicate holds if all of its conjuncts do. -/
theorem all_conjuncts (fields : Fields) (p : Predicate) :
    p.conjuncts.all (holds fields) = holds fields p := by
  cases p <;> simp [conjuncts]

/-- A predicate holds if one of its disjuncts does. -/
theorem any_disjuncts (fields : Fields) (p : Predicate) :
    p.disjuncts.any (holds fields) = holds fields p := by
  cases p <;> simp [disjuncts]

/-- A conjunction of two predicates holds if both do. -/
@[simp] theorem holds_and (fields : Fields) (p q : Predicate) :
    holds fields (p.and q) = (holds fields p && holds fields q) := by
  simp only [and, holds_all, List.all_append, all_conjuncts]

/-- A disjunction of two predicates holds if either does. -/
@[simp] theorem holds_or (fields : Fields) (p q : Predicate) :
    holds fields (p.or q) = (holds fields p || holds fields q) := by
  simp only [or, holds_any, List.any_append, any_disjuncts]

/-! ## Field names -/

mutual

/-- The names of the compared fields from left to right, with repetitions. -/
def names : Predicate → List String
  | .compare field _ _ => [field]
  | .all parts => namesOfList parts
  | .any parts => namesOfList parts

/-- The compared fields of a list of predicates. -/
def namesOfList : List Predicate → List String
  | [] => []
  | p :: rest => names p ++ namesOfList rest

end

/-- The names of a list are those of its members in turn. -/
theorem namesOfList_eq_flatMap (parts : List Predicate) :
    namesOfList parts = parts.flatMap names := by
  induction parts with
  | nil => simp [namesOfList]
  | cons p rest ih => simp [namesOfList, ih]

/-- The members of a list that do not occur before, in order. -/
def firstSeen : List String → List String → List String
  | _, [] => []
  | seen, name :: rest =>
    if name ∈ seen then firstSeen seen rest else name :: firstSeen (seen ++ [name]) rest

/-- The names of the compared fields, each once, in the order in which they first
occur. -/
def fields (p : Predicate) : List String := firstSeen [] p.names

/-- Rejects the first compared name that is no field name. -/
def validate (p : Predicate) : Except StoreError Unit := p.names.forM checkFieldName

end Predicate

end TieredStore
