import TieredStore.Predicate.Basic

/-!
# Predicates as text

A comparison is written as field, sign and argument, texts being quoted.
Conjunctions and disjunctions stand in parentheses, and empty ones are written as
truth values.
-/

namespace TieredStore

namespace Predicate

/-- The text of a comparison. -/
def comparisonText (field : String) (op : Operator) (argument : Value) : String :=
  let shown := match argument with
    | .text s => quoteText s
    | other => other.display
  field ++ " " ++ op.symbol ++ " " ++ shown

/-- Texts joined by a word inside parentheses. -/
def joinedText (word empty : String) (parts : List String) : String :=
  if parts.isEmpty then empty else "(" ++ String.intercalate word parts ++ ")"

mutual

/-- The text of a predicate. -/
def display : Predicate → String
  | .compare field op argument => comparisonText field op argument
  | .all parts => joinedText " AND " "TRUE" (displayAll parts)
  | .any parts => joinedText " OR " "FALSE" (displayAll parts)

/-- The texts of the parts. -/
def displayAll : List Predicate → List String
  | [] => []
  | p :: rest => display p :: displayAll rest

end

end Predicate

end TieredStore
