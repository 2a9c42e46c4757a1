import TieredStore.Text.CaseFold
import TieredStore.Text.CharTable

/-!
# Sets of code points

A set of code points is kept as the list of its ranges: in ascending order, and with
a gap between every two of them.  Sets of one list are equal, so the number of
ranges is a property of the set.
-/

namespace TieredStore

/-- The ranges of a set of code points, first and last code point of each. -/
abbrev CodeRanges : Type := List (Nat × Nat)

namespace CodeRanges

/-- The last code point. -/
def lastCode : Nat := 0x10FFFF

/-- Joins each range with the next ones as long as no gap lies between them. -/
def joinFrom (first last : Nat) : CodeRanges → CodeRanges
  | [] => [(first, last)]
  | r :: rest =>
    if r.1 ≤ last + 1 then joinFrom first (max last r.2) rest
    else (first, last) :: joinFrom r.1 r.2 rest

/-- The set of some ranges that may overlap and come in any order. -/
def ofList (rs : List (Nat × Nat)) : CodeRanges :=
  match rs.mergeSort fun a b => a.1 ≤ b.1 with
  | [] => []
  | r :: rest => joinFrom r.1 r.2 rest

/-- Whether a code point is in a set. -/
def has (rs : CodeRanges) (code : Nat) : Bool := rs.any fun r => r.1 ≤ code && code ≤ r.2

/-- How many code points a set has. -/
def size : CodeRanges → Nat
  | [] => 0
  | r :: rs => (r.2 + 1 - r.1) + size rs

/-- What is in either of two sets. -/
def union (a b : CodeRanges) : CodeRanges := ofList (a ++ b)

/-- The code points from `start` on that lie between the ranges of a set. -/
def gapsFrom (start : Nat) : CodeRanges → CodeRanges
  | [] => if start ≤ lastCode then [(start, lastCode)] else []
  | r :: rest => if start < r.1 then (start, r.1 - 1) :: gapsFrom (r.2 + 1) rest
    else gapsFrom (r.2 + 1) rest

/-- What is not in a set. -/
def complement (rs : CodeRanges) : CodeRanges := gapsFrom 0 rs

/-- What is in both of two sets. -/
def meet (a b : CodeRanges) : CodeRanges := complement (union (complement a) (complement b))

/-- What is in the first of two sets only. -/
def minus (a b : CodeRanges) : CodeRanges := meet a (complement b)

/-- A set with all case variants of its members. -/
def closeOverCase (ascii : Bool) (rs : CodeRanges) : CodeRanges :=
  ofList (rs ++ (casedCodes.filter rs.has).flatMap fun code =>
    (variants ascii (Char.ofNat code)).map fun c => (c.toNat, c.toNat))

end CodeRanges

end TieredStore
