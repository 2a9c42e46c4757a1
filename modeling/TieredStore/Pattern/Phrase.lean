import TieredStore.Pattern.Syntax

/-!
# Phrases

A phrase is a pattern as it is written: with its groups, its repetitions and its
brackets.  It says which pattern is meant, and how deep the writing is nested.

Main results:

- Theorems `Phrase.pattern_row` and `Phrase.pattern_choice`: the patterns of lists of
  phrases, in terms of their elements.
-/

namespace TieredStore

/-- A pattern as it is written. -/
inductive Phrase where
  | nothing
  | set (s : CharSet)
  | anchor (a : Anchor)
  | flags
  /-- A group in parentheses, and whether it remembers what it covers. -/
  | group (remembers : Bool) (body : Phrase)
  /-- A repetition, with the least number and, if there is one, the greatest. -/
  | repeated (body : Phrase) (least : Nat) (most : Option Nat)
  | row (items : List Phrase)
  | choice (branches : List Phrase)

namespace Phrase

/-- Several phrases one after the other; a single one is left as it is. -/
def ofItems : List Phrase → Phrase
  | [] => .nothing
  | [p] => p
  | items => .row items

/-- Several alternatives; a single one is left as it is. -/
def ofBranches : List Phrase → Phrase
  | [] => .nothing
  | [p] => p
  | branches => .choice branches

/-- Whether a repetition may follow a phrase. -/
def isRepeatable : Phrase → Bool
  | .nothing | .flags => false
  | _ => true

/-! ## Meaning -/

mutual

/-- The pattern that a phrase stands for. -/
def pattern : Phrase → Pattern
  | .nothing => .empty
  | .set s => .char s
  | .anchor a => .anchor a
  | .flags => .empty
  | .group _ body => body.pattern
  | .repeated body least most => body.pattern.repeated least most
  | .row items => rowPattern items
  | .choice branches => choicePattern branches

/-- The pattern of several phrases one after the other. -/
def rowPattern : List Phrase → Pattern
  | [] => .empty
  | p :: rest => .seq p.pattern (rowPattern rest)

/-- The pattern of several alternatives. -/
def choicePattern : List Phrase → Pattern
  | [] => .never
  | p :: rest => .alt p.pattern (choicePattern rest)

end

/-- The pattern of a row is the sequence of the patterns. -/
theorem pattern_row (items : List Phrase) :
    (row items).pattern = (items.map pattern).foldr .seq .empty := by
  rw [pattern]
  induction items with
  | nil => rfl
  | cons p rest ih => rw [rowPattern, ih, List.map_cons, List.foldr_cons]

/-- The pattern of a choice is the alternative of the patterns. -/
theorem pattern_choice (branches : List Phrase) :
    (choice branches).pattern = (branches.map pattern).foldr .alt .never := by
  rw [pattern]
  induction branches with
  | nil => rfl
  | cons p rest ih => rw [choicePattern, ih, List.map_cons, List.foldr_cons]

/-! ## Nesting -/

mutual

/-- How deep groups, repetitions, rows, choices and brackets are nested. -/
def depth : Phrase → Nat
  | .nothing | .anchor _ | .flags => 0
  | .set s => s.depth
  | .group _ body => body.depth + 1
  | .repeated body _ _ => body.depth + 1
  | .row items => depthOfAll items + 1
  | .choice branches => depthOfAll branches + 1

/-- How deep the deepest of some phrases is. -/
def depthOfAll : List Phrase → Nat
  | [] => 0
  | p :: rest => max p.depth (depthOfAll rest)

end

/-! ## Emptiness -/

mutual

/-- Whether nothing is left of a phrase that is put between others. -/
def isVoid : Phrase → Bool
  | .nothing | .flags => true
  | .set _ | .anchor _ | .choice _ => false
  | .group remembers body => !remembers && body.isVoid
  | .repeated body least most =>
    most == some 0 || (body.isVoid && 1 ≤ least)
  | .row items => allVoid items

/-- Whether nothing is left of any of some phrases. -/
def allVoid : List Phrase → Bool
  | [] => true
  | p :: rest => p.isVoid && allVoid rest

end

mutual

/-- Whether a phrase has no character and so covers empty texts only. -/
def coversNothing : Phrase → Bool
  | .nothing | .anchor _ | .flags => true
  | .set _ => false
  | .group _ body => body.coversNothing
  | .repeated body _ most => most == some 0 || body.coversNothing
  | .row items => allCoverNothing items
  | .choice branches => allCoverNothing branches

/-- Whether none of some phrases has a character. -/
def allCoverNothing : List Phrase → Bool
  | [] => true
  | p :: rest => p.coversNothing && allCoverNothing rest

end

mutual

/-- How many characters a phrase covers at least. -/
def minLength : Phrase → Nat
  | .nothing | .anchor _ | .flags => 0
  | .set _ => 1
  | .group _ body => body.minLength
  | .repeated body least _ => least * body.minLength
  | .row items => rowMinLength items
  | .choice [] => 0
  | .choice (p :: rest) => choiceMinLength p.minLength rest

/-- How many characters a row covers at least. -/
def rowMinLength : List Phrase → Nat
  | [] => 0
  | p :: rest => p.minLength + rowMinLength rest

/-- The least of a number and the numbers of characters that some phrases cover. -/
def choiceMinLength (found : Nat) : List Phrase → Nat
  | [] => found
  | p :: rest => choiceMinLength (min found p.minLength) rest

end

end Phrase

end TieredStore
