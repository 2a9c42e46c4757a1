import TieredStore.Query.Basic
import TieredStore.Relational.FieldRow

/-!
# Conditions on rows

A predicate over the fields of a record becomes a condition over the field rows of
the record: comparisons turn into the existence or absence of a row that passes a
test.  A row is tested by its number if both it and the argument have one, and by
its text otherwise.

Main results:

- Theorems `Condition.holds_conjunction` and `Condition.holds_disjunction`: the meaning
  of composite conditions.
-/

namespace TieredStore

/-- A test of one field row. -/
inductive RowTest where
  | anything
  | byText (op : Operator) (argument : String)
  /-- The number is compared, or the text where there is no number. -/
  | byNumber (op : Operator) (argument : Finite64) (text : String)

/-- Whether a row passes a test. -/
def RowTest.accepts (row : FieldRow) : RowTest → Bool
  | .anything => true
  | .byText op argument => op.accepts (compare row.text argument)
  | .byNumber op argument text =>
    match row.number with
    | some x => op.accepts (x.compareValue argument)
    | none => op.accepts (compare row.text text)

/-- A condition on the field rows of a record. -/
inductive Condition where
  | constant (answer : Bool)
  | conjunction (parts : List Condition)
  | disjunction (parts : List Condition)
  /-- The field has a row that passes the test. -/
  | someRow (field : String) (test : RowTest)
  /-- The field has no row that passes the test. -/
  | noRow (field : String) (test : RowTest)

namespace Condition

mutual

/-- Whether the field rows of a record satisfy a condition. -/
def holds (row? : String → Option FieldRow) : Condition → Bool
  | .constant answer => answer
  | .conjunction parts => allHold row? parts
  | .disjunction parts => anyHold row? parts
  | .someRow field test => (row? field).any fun row => test.accepts row
  | .noRow field test => !(row? field).any fun row => test.accepts row

/-- Whether every condition of a list holds. -/
def allHold (row? : String → Option FieldRow) : List Condition → Bool
  | [] => true
  | c :: rest => holds row? c && allHold row? rest

/-- Whether some condition of a list holds. -/
def anyHold (row? : String → Option FieldRow) : List Condition → Bool
  | [] => false
  | c :: rest => holds row? c || anyHold row? rest

end

/-- A conjunction holds if all of its parts do. -/
theorem holds_conjunction (row? : String → Option FieldRow) (parts : List Condition) :
    holds row? (.conjunction parts) = parts.all (holds row?) := by
  rw [holds]
  induction parts with
  | nil => simp [allHold]
  | cons c rest ih => simp [allHold, ih]

/-- A disjunction holds if one of its parts does. -/
theorem holds_disjunction (row? : String → Option FieldRow) (parts : List Condition) :
    holds row? (.disjunction parts) = parts.any (holds row?) := by
  rw [holds]
  induction parts with
  | nil => simp [anyHold]
  | cons c rest ih => simp [anyHold, ih]

/-! ## From predicates -/

/-- The test of rows against an argument that is not null. -/
def testOf (op : Operator) (argument : Value) : RowTest :=
  match argument.asNumber? with
  | some x => .byNumber op x argument.display
  | none => .byText op argument.display

/-- The condition of a comparison.  Against null only the presence of the field
matters.  A missing field is unequal to everything else, so inequality is the
absence of an equal row. -/
def ofComparison (field : String) (op : Operator) (argument : Value) : Condition :=
  if argument.isNull then
    match op with
    | .eq => .noRow field .anything
    | .ne => .someRow field .anything
    | _ => .constant false
  else
    match op with
    | .ne => .noRow field (testOf .eq argument)
    | op => .someRow field (testOf op argument)

mutual

/-- The condition that a predicate puts on the rows of a record. -/
def ofPredicate : Predicate → Condition
  | .compare field op argument => ofComparison field op argument
  | .all [] => .constant true
  | .any [] => .constant false
  | .all (p :: rest) => .conjunction (ofPredicate p :: ofPredicates rest)
  | .any (p :: rest) => .disjunction (ofPredicate p :: ofPredicates rest)

/-- The conditions of a list of predicates. -/
def ofPredicates : List Predicate → List Condition
  | [] => []
  | p :: rest => ofPredicate p :: ofPredicates rest

end

/-- The condition of a query; a query without a predicate has none. -/
def ofQuery (q : Query) : Condition :=
  match q.predicate with
  | some p => ofPredicate p
  | none => .constant true

end Condition

end TieredStore
