import TieredStore.Text.Blank

/-!
# Readers of texts

A reader takes some characters from the beginning of a text and makes something of them,
or it refuses the text.  Where blanks are ignored, so are comments, which go from a
number sign to the end of the line.
-/

namespace TieredStore

/-- A reader of the beginning of a text. -/
abbrev TextReader (α : Type) : Type := StateT (List Char) Option α

namespace TextReader

variable {α : Type}

/-- Takes nothing; refuses if there is no result. -/
def ofOption (result : Option α) : TextReader α := fun cs => result.map fun a => (a, cs)

/-- Takes nothing if there is no result. -/
def attempt (p : TextReader (Option α)) : TextReader (Option α) := fun cs =>
  match p cs with
  | some (none, _) => some (none, cs)
  | result => result

/-- Takes the next character. -/
def next : TextReader Char := fun cs =>
  match cs with
  | c :: rest => some (c, rest)
  | [] => none

/-- Whether the next character is the given one. -/
def aheadIs (c : Char) : TextReader Bool := fun cs => some (cs.head? == some c, cs)

/-- Takes the next character if it is the given one. -/
def skip? (c : Char) : TextReader Bool := fun cs =>
  match cs with
  | d :: rest => if d = c then some (true, rest) else some (false, d :: rest)
  | [] => some (false, [])

/-- Text without the blanks and comments that it starts with.  It may start within a
comment. -/
def skipBlanks : (inComment : Bool) → List Char → List Char
  | _, [] => []
  | true, c :: rest => skipBlanks (c != '\n') rest
  | false, c :: rest =>
    if c = '#' then skipBlanks true rest
    else if isBlank c then skipBlanks false rest
    else c :: rest

/-- Takes blanks and comments. -/
def ignore (inComment : Bool) : TextReader Unit := fun cs => some ((), skipBlanks inComment cs)

/-- Takes blanks and comments where they are ignored. -/
def blanks (ignored : Bool) : TextReader Unit := if ignored then ignore false else pure ()

/-- Looks at the next character that is not ignored.  What is ignored before it is
taken, the character is not. -/
def peek (ignored : Bool) : TextReader Char := do
  blanks ignored
  fun cs => cs.head?.map fun c => (c, cs)

/-- Takes the next character that is not ignored. -/
def nextPast (ignored : Bool) : TextReader Char := do
  blanks ignored
  next

/-- Takes some characters that are not ignored. -/
def several (ignored : Bool) : Nat → TextReader (List Char)
  | 0 => pure []
  | n + 1 => do
    let c ← nextPast ignored
    let others ← several ignored n
    pure (c :: others)

/-- The characters up to the first one of a kind, without those that are ignored, and
the text after it. -/
def cutAt? (ignored : Bool) (stop : Char) : (inComment : Bool) → List Char →
    Option (List Char × List Char)
  | _, [] => none
  | true, c :: rest => cutAt? ignored stop (c != '\n') rest
  | false, c :: rest =>
    if c = stop then some ([], rest)
    else if ignored && c == '#' then cutAt? ignored stop true rest
    else if ignored && isBlank c then cutAt? ignored stop false rest
    else (cutAt? ignored stop false rest).map fun r => (c :: r.1, r.2)

/-- Takes the characters up to the first one of a kind, and this one. -/
def takeUpTo (ignored : Bool) (stop : Char) : TextReader (List Char) := cutAt? ignored stop false

end TextReader

end TieredStore
