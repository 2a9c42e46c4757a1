import TieredStore.Relational.Condition

/-!
# Limits of statements

A condition becomes an expression of a statement.  Conjunctions and disjunctions are
joined from left to right, two expressions at a time, and every join is one level
higher than the higher of the two.  A database refuses statements whose expressions
are too high or that have too many arguments.

Main results:

- Theorem `Extent.height_le_join`: a disjunction is higher than its parts.
-/

namespace TieredStore

/-- How far the expression of a condition extends. -/
structure Extent where
  height : Nat
  /-- The height of the highest expression that occurs while it is joined. -/
  highest : Nat
  /-- The height of the highest expression within the row look-ups in it. -/
  inner : Nat
  /-- Whether it is the constant that never holds. -/
  never : Bool

namespace Extent

/-- A constant. -/
def constant (answer : Bool) : Extent := ⟨1, 1, 0, !answer⟩

/-- A look-up of a row with an inner expression, below `above` operators. -/
def lookup (inner above : Nat) : Extent := ⟨inner + above, inner + above, inner, false⟩

/-- Two expressions joined by an operator. -/
def join (a b : Extent) : Extent :=
  let height := max a.height b.height + 1
  ⟨height, max height (max a.highest b.highest), max a.inner b.inner, false⟩

/-- Two expressions joined by a conjunction.  With the constant that never holds, that
constant is all that is left. -/
def meet (a b : Extent) : Extent :=
  if a.never || b.never then ⟨1, max a.highest b.highest, 0, true⟩ else join a b

/-- A disjunction is higher than its parts. -/
theorem height_le_join (a b : Extent) :
    a.height < (join a b).height ∧ b.height < (join a b).height := by
  unfold join
  exact ⟨Nat.lt_succ_of_le (Nat.le_max_left _ _), Nat.lt_succ_of_le (Nat.le_max_right _ _)⟩

end Extent

/-- The height of the expression that finds a row: the comparisons of its key, and the
test if there is one. -/
def RowTest.height : RowTest → Nat
  | .anything => 5
  | .byText _ _ | .byNumber _ _ _ => 6

/-- How many arguments the expression that finds a row has. -/
def RowTest.argumentCount : RowTest → Nat
  | .anything => 1
  | .byText _ _ => 2
  | .byNumber _ _ _ => 3

namespace Condition

mutual

/-- How far the expression of a condition extends. -/
def extent : Condition → Extent
  | .constant answer => .constant answer
  | .conjunction [] => .constant true
  | .conjunction (c :: rest) => extentOfAll .meet c.extent rest
  | .disjunction [] => .constant false
  | .disjunction (c :: rest) => extentOfAll .join c.extent rest
  | .someRow _ test => .lookup test.height 1
  | .noRow _ test => .lookup test.height 2

/-- How far an expression extends after others are joined to it. -/
def extentOfAll (join : Extent → Extent → Extent) (found : Extent) : List Condition → Extent
  | [] => found
  | c :: rest => extentOfAll join (join found c.extent) rest

end

mutual

/-- How many arguments the expression of a condition has. -/
def argumentCount : Condition → Nat
  | .constant _ => 0
  | .conjunction parts | .disjunction parts => argumentCountOfAll parts
  | .someRow _ test | .noRow _ test => test.argumentCount

/-- How many arguments the expressions of some conditions have. -/
def argumentCountOfAll : List Condition → Nat
  | [] => 0
  | c :: rest => c.argumentCount + argumentCountOfAll rest

end

/-- The greatest height of an expression. -/
def heightLimit : Nat := 1000

/-- The greatest number of arguments. -/
def argumentLimit : Nat := 32766

/-- Whether a database takes a statement that reads the records of a store under a
condition.  The condition is joined to the comparison with the store's name, and then
to the one of records and fields; an expression within a look-up counts from there. -/
def isAccepted (c : Condition) : Bool :=
  let inStore := Extent.meet ⟨3, 3, 0, false⟩ c.extent
  let whole := Extent.join inStore ⟨4, 4, 0, false⟩
  whole.highest ≤ heightLimit && whole.height + whole.inner ≤ heightLimit &&
    c.argumentCount + 1 ≤ argumentLimit

end Condition

end TieredStore
