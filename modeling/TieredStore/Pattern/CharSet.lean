import TieredStore.Text.CaseFold
import TieredStore.Text.CodeRanges

/-!
# Sets of characters

The sets that a single character of a text is compared with: literals, ranges, tables
of characters and what can be built from them in brackets.

Main results:

- Theorem `CharSet.has_negate`: a negated set holds what the set does not.
- Theorem `CharSet.has_folded_of_has`: closing a set over case loses no character.
-/

namespace TieredStore

/-- How two sets in brackets are combined. -/
inductive SetOperation where
  | intersection
  /-- What is in the first set only. -/
  | difference
  /-- What is in one of the sets only. -/
  | symmetricDifference
  deriving DecidableEq

/-- Whether a character is in a combined set, if we know that for both sets. -/
def SetOperation.holds : SetOperation → Bool → Bool → Bool
  | .intersection, a, b => a && b
  | .difference, a, b => a && !b
  | .symmetricDifference, a, b => a != b

/-- A set of characters. -/
inductive CharSet where
  | ranges (rs : List (Char × Char))
  | table (t : CharTable)
  /-- What is in either of two sets. -/
  | union (a b : CharSet)
  | combined (op : SetOperation) (a b : CharSet)
  | negate (a : CharSet)
  /-- The characters with a case variant in a set, perhaps within ASCII only. -/
  | folded (ascii : Bool) (a : CharSet)
  | bracketed (a : CharSet)

namespace CharSet

/-- Whether a character is in a set. -/
def has : CharSet → Char → Bool
  | .ranges rs, c => rs.any fun r => r.1 ≤ c && c ≤ r.2
  | .table t, c => t.has c
  | .union a b, c => a.has c || b.has c
  | .combined op a b, c => op.holds (a.has c) (b.has c)
  | .negate a, c => !a.has c
  | .folded ascii a, c => (variants ascii c).any a.has
  | .bracketed a, c => a.has c

/-- A negated set holds what the set does not. -/
@[simp] theorem has_negate (a : CharSet) (c : Char) : (negate a).has c = !a.has c := rfl

/-- Closing a set over case loses no character. -/
theorem has_folded_of_has (ascii : Bool) {a : CharSet} {c : Char} (h : a.has c = true) :
    (folded ascii a).has c = true :=
  List.any_eq_true.2 ⟨c, mem_variants_self ascii c, h⟩

/-- No character. -/
def empty : CharSet := .ranges []

/-- The set of one character. -/
def single (c : Char) : CharSet := .ranges [(c, c)]

/-- Every character. -/
def everything : CharSet := .negate .empty

/-! ## Code points -/

/-- The code points of a set. -/
def codes : CharSet → CodeRanges
  | .ranges rs => .ofList (rs.map fun r => (r.1.toNat, r.2.toNat))
  | .table t => t.ranges
  | .union a b => a.codes.union b.codes
  | .combined .intersection a b => a.codes.meet b.codes
  | .combined .difference a b => a.codes.minus b.codes
  | .combined .symmetricDifference a b => (a.codes.minus b.codes).union (b.codes.minus a.codes)
  | .negate a => a.codes.complement
  | .folded ascii a => a.codes.closeOverCase ascii
  | .bracketed a => a.codes

/-! ## Nesting -/

/-- How many items a set lists, and how deep brackets are nested in them.  Two items
or more are a level of their own. -/
def items : CharSet → Nat × Nat
  | .union a b => ((items a).1 + 1, max (items a).2 (levels (items b)))
  | .combined _ a b => (1, 1 + max (levels (items a)) (levels (items b)))
  | .negate a => items a
  | .folded _ a => items a
  | .bracketed a => (1, 1 + levels (items a))
  | .ranges [] => (0, 0)
  | _ => (1, 0)
where
  /-- The levels of a list of items. -/
  levels (found : Nat × Nat) : Nat := if 2 ≤ found.1 then found.2 + 1 else found.2

/-- How deep the brackets of a set are nested. -/
def depth (a : CharSet) : Nat := items.levels a.items

end CharSet

end TieredStore
