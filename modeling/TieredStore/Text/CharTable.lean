/-!
# Tables of characters

A property of characters is kept as the list of its ranges of code points.  The
tables in the modules beside this one are such lists.
-/

namespace TieredStore

/-- A set of characters, given by inclusive ranges of code points. -/
structure CharTable where
  /-- First and last code point of each range. -/
  ranges : List (Nat × Nat)

/-- Whether a character falls into one of the ranges. -/
def CharTable.has (table : CharTable) (c : Char) : Bool :=
  table.ranges.any fun r => r.1 ≤ c.toNat && c.toNat ≤ r.2

end TieredStore
