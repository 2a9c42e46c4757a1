import TieredStore.Value

/-!
# Comparison of fields

Six operators compare a field of a record with an argument.  A missing field
counts as null.  Null equals null alone, and no ordering holds of it.  Two numeric
operands compare by number; otherwise both compare as texts.

Main results:

- Theorem `Operator.holds_ne`: the unequal operator is the negation of the equal
  one.
- Theorem `Operator.test_some_null`: a null field is compared like a missing one.
-/

namespace TieredStore

/-- A comparison operator. -/
inductive Operator where
  | eq
  | ne
  | gt
  | lt
  | ge
  | le
  deriving DecidableEq, Repr

namespace Operator

/-- All operators. -/
def all : List Operator := [.eq, .ne, .gt, .lt, .ge, .le]

/-- Whether an operator accepts the order of its operands. -/
def accepts : Operator → Ordering → Bool
  | .eq, o => o == .eq
  | .ne, o => o != .eq
  | .gt, o => o == .gt
  | .lt, o => o == .lt
  | .ge, o => o != .lt
  | .le, o => o != .gt

/-- The sign an operator is written with. -/
def symbol : Operator → String
  | .eq => "="
  | .ne => "!="
  | .gt => ">"
  | .lt => "<"
  | .ge => ">="
  | .le => "<="

/-- The word an operator is stored under. -/
def word : Operator → String
  | .eq => "eq"
  | .ne => "ne"
  | .gt => "gt"
  | .lt => "lt"
  | .ge => "ge"
  | .le => "le"

/-- The operator stored under a word. -/
def ofWord? (w : String) : Option Operator := all.find? fun op => op.word == w

/-- Every operator is found under its word. -/
@[simp] theorem ofWord?_word (op : Operator) : ofWord? op.word = some op := by
  cases op <;> decide

end Operator

/-- The order of two values that are not null: by number if both are numeric,
otherwise by text. -/
def Value.compareWith (a b : Value) : Ordering :=
  match a.asNumber?, b.asNumber? with
  | some x, some y => x.compareValue y
  | _, _ => compare a.display b.display

/-- Whether an operator holds of two values. -/
def Operator.holds (op : Operator) (a b : Value) : Bool :=
  match a.isNull, b.isNull with
  | true, true => op == .eq
  | true, false => op == .ne
  | false, true => op == .ne
  | false, false => op.accepts (a.compareWith b)

/-- Whether `field op argument` holds, a missing field counting as null. -/
def Operator.test (op : Operator) (field : Option Value) (argument : Value) : Bool :=
  op.holds (field.getD .null) argument

/-- The unequal operator is the negation of the equal one. -/
theorem Operator.holds_ne (a b : Value) : Operator.ne.holds a b = !Operator.eq.holds a b := by
  unfold Operator.holds
  cases a.isNull <;> cases b.isNull
  · cases a.compareWith b <;> rfl
  · rfl
  · rfl
  · rfl

/-- A null field is compared like a missing one. -/
theorem Operator.test_some_null (op : Operator) (argument : Value) :
    op.test (some .null) argument = op.test none argument := rfl

end TieredStore
