import TieredStore.Pattern.CharSet
import TieredStore.Text.Word

/-!
# Patterns

Regular expressions over characters, with anchors that look at the neighbours of
a position.  Counted repetition is written out with the basic forms; the halves of
a repetition are repetitions themselves, so that it does not get deep.

Main results:

- Theorem `Pattern.repeated_of_coversNothing`: repeating a pattern of empty texts at least
  once gives the pattern.
-/

namespace TieredStore

/-! ## Anchors -/

/-- A position between two characters. -/
structure Gap where
  /-- The character before it, unless it is the start of the text. -/
  before : Option Char
  /-- The character after it, unless it is the end of the text. -/
  after : Option Char

/-- A condition that relates a position to the words around it. -/
inductive WordAnchor where
  /-- A start or end of a word. -/
  | boundary
  /-- No start or end of a word. -/
  | noBoundary
  | start
  | stop
  /-- No word ends at the position or goes on there. -/
  | startHalf
  /-- No word starts at the position or goes on there. -/
  | stopHalf

/-- A condition on a position between two characters. -/
inductive Anchor where
  | textStart
  | textEnd
  /-- The start of a line.  With `crlf` a carriage return ends a line too, and so does a
  line feed after it. -/
  | lineStart (crlf : Bool)
  | lineEnd (crlf : Bool)
  /-- A condition on words, which with `ascii` are made of ASCII characters. -/
  | word (ascii : Bool) (a : WordAnchor)

/-- Whether a word anchor holds between two characters, if we know which of them belong
to words. -/
def WordAnchor.holds : WordAnchor → Bool → Bool → Bool
  | .boundary, before, after => before != after
  | .noBoundary, before, after => before == after
  | .start, before, after => !before && after
  | .stop, before, after => before && !after
  | .startHalf, before, _ => !before
  | .stopHalf, _, after => !after

/-- Whether a character belongs to words. -/
def inWord (ascii : Bool) (c : Char) : Bool :=
  if ascii then c.isAlphanum || c == '_' else isWordChar c

/-- Whether an anchor holds at a position. -/
def Anchor.holds (anchor : Anchor) (gap : Gap) : Bool :=
  match anchor with
  | .textStart => gap.before.isNone
  | .textEnd => gap.after.isNone
  | .lineStart crlf =>
    gap.before.all fun c => c == '\n' || (crlf && c == '\r' && gap.after != some '\n')
  | .lineEnd crlf =>
    gap.after.all fun c =>
      if crlf then c == '\r' || (c == '\n' && gap.before != some '\r') else c == '\n'
  | .word ascii a => a.holds (gap.before.any (inWord ascii)) (gap.after.any (inWord ascii))

/-! ## Patterns -/

/-- A regular expression. -/
inductive Pattern where
  | empty
  | char (set : CharSet)
  /-- The empty text at a position where an anchor holds. -/
  | anchor (a : Anchor)
  | seq (p q : Pattern)
  | alt (p q : Pattern)
  | star (p : Pattern)

namespace Pattern

/-- The pattern of no text. -/
def never : Pattern := .char .empty

/-- Whether a pattern has no character and so covers empty texts only. -/
def coversNothing : Pattern → Bool
  | .empty | .anchor _ => true
  | .char _ => false
  | .seq p q | .alt p q => coversNothing p && coversNothing q
  | .star p => coversNothing p

/-- A pattern or the empty text. -/
def optional (p : Pattern) : Pattern := .alt p .empty

/-- A pattern a given number of times. -/
def times (p : Pattern) (n : Nat) : Pattern :=
  if n = 0 then .empty
  else if n = 1 then p
  else .seq (times p (n / 2)) (times p (n - n / 2))
termination_by n
decreasing_by all_goals omega

/-- A pattern at most a given number of times. -/
def upTo (p : Pattern) (n : Nat) : Pattern := times (optional p) n

/-- A pattern at least `least` times and at most `most` times, if there is such a
bound.  Empty texts need not be repeated. -/
def repeated (p : Pattern) (least : Nat) (most : Option Nat) : Pattern :=
  if most = some 0 then .empty
  else if p.coversNothing then if least = 0 then optional p else p
  else match most with
    | none => if least = 0 then .star p else .seq (times p least) (.star p)
    | some most =>
      if most = least then times p least
      else if least = 0 then upTo p most
      else .seq (times p least) (upTo p (most - least))

/-- Repeating a pattern of empty texts at least once gives the pattern. -/
theorem repeated_of_coversNothing {p : Pattern} (nothing : p.coversNothing = true) {least : Nat}
    (positive : 0 < least) {most : Option Nat} (allowed : most ≠ some 0) :
    p.repeated least most = p := by
  have hleast : least ≠ 0 := by omega
  simp [repeated, nothing, hleast, allowed]

end Pattern

end TieredStore
