import TieredStore.Pattern.Syntax

/-!
# Marked patterns

A text is read once to find a pattern in it.  Meanwhile marks on the characters of the
pattern tell which of them may have covered the character just read.
-/

namespace TieredStore

/-- A pattern with marks on its characters.  A mark tells that the character may have
covered the one before the current position. -/
inductive Marked where
  | empty
  /-- One character of a set, with or without a mark. -/
  | char (mark : Bool) (set : CharSet)
  /-- The empty text at a position where an anchor holds. -/
  | anchor (a : Anchor)
  | seq (p q : Marked)
  | alt (p q : Marked)
  | star (p : Marked)

/-- A pattern without marks. -/
def Pattern.unmarked : Pattern → Marked
  | .empty => .empty
  | .char set => .char false set
  | .anchor a => .anchor a
  | .seq p q => .seq p.unmarked q.unmarked
  | .alt p q => .alt p.unmarked q.unmarked
  | .star p => .star p.unmarked

namespace Marked

/-- The pattern that bears the marks. -/
def pattern : Marked → Pattern
  | .empty => .empty
  | .char _ set => .char set
  | .anchor a => .anchor a
  | .seq p q => .seq p.pattern q.pattern
  | .alt p q => .alt p.pattern q.pattern
  | .star p => .star p.pattern

/-- Whether a pattern covers the empty text at a position. -/
def coversGap (gap : Gap) : Marked → Bool
  | .empty => true
  | .char _ _ => false
  | .anchor a => a.holds gap
  | .seq p q => p.coversGap gap && q.coversGap gap
  | .alt p q => p.coversGap gap || q.coversGap gap
  | .star _ => true

/-- Whether a pattern may end at a position, to which its marks belong. -/
def mayEnd (gap : Gap) : Marked → Bool
  | .char mark _ => mark
  | .seq p q => q.mayEnd gap || (p.mayEnd gap && q.coversGap gap)
  | .alt p q => p.mayEnd gap || q.mayEnd gap
  | .star p => p.mayEnd gap
  | .empty | .anchor _ => false

/-- The marks after the character that follows a position.  The pattern may start at
the position if `mayStart` is true. -/
def advance (gap : Gap) (c : Char) (mayStart : Bool) : Marked → Marked
  | .char _ set => .char (mayStart && set.has c) set
  | .seq p q =>
    .seq (p.advance gap c mayStart)
      (q.advance gap c (p.mayEnd gap || (mayStart && p.coversGap gap)))
  | .alt p q => .alt (p.advance gap c mayStart) (q.advance gap c mayStart)
  | .star p => .star (p.advance gap c (mayStart || p.mayEnd gap))
  | .empty => .empty
  | .anchor a => .anchor a

/-- Whether a pattern, which may start everywhere, may end somewhere in the rest of a
text. -/
def endsIn (m : Marked) (before : Option Char) : List Char → Bool
  | [] => m.mayEnd ⟨before, none⟩ || m.coversGap ⟨before, none⟩
  | c :: rest =>
    let gap : Gap := ⟨before, some c⟩
    m.mayEnd gap || m.coversGap gap || (m.advance gap c true).endsIn (some c) rest

end Marked

/-- Whether a pattern covers some part of a text. -/
def Pattern.occursIn (p : Pattern) (text : List Char) : Bool := p.unmarked.endsIn none text

end TieredStore
