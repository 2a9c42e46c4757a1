import TieredStore.Pattern.Class
import TieredStore.Pattern.Progress
import TieredStore.Text.Decimal

/-!
# Reading patterns

The way patterns are written: literals, `.`, classes in brackets, escapes, anchors,
groups with and without names, flags, alternatives and repetitions with `*`, `+`, `?` and
counts.  There are no references to groups and no assertions about what follows or
precedes.
-/

namespace TieredStore

namespace Pattern

open TextReader

/-! ## Items -/

/-- A character, or all of its case variants. -/
def literal (flags : Flags) (c : Char) : Phrase := .set (flags.folded (.single c))

/-- What the dot stands for. -/
def dotSet? (flags : Flags) : Option CharSet :=
  if flags.ascii then none
  else if flags.dotAll then some .everything
  else if flags.crlf then some (.negate (.ranges [('\n', '\n'), ('\r', '\r')]))
  else some (.negate (.single '\n'))

/-- What an escape stands for. -/
def ofEscape (flags : Flags) : Escape → Phrase
  | .char c => literal flags c
  | .set s => .set s
  | .anchor a => .anchor a

/-- The condition on words with a name. -/
def wordAnchor? (name : String) : Option WordAnchor :=
  match name with
  | "start" => some .start
  | "end" => some .stop
  | "start-half" => some .startHalf
  | "end-half" => some .stopHalf
  | _ => none

/-- Reads the name of a condition on words in braces.  Braces with something else in them
are those of a repetition. -/
def readWordAnchor (flags : Flags) : TextReader WordAnchor := do
  if ← aheadIs '\x7b' then
    let named ← attempt do
      let _ ← next
      let c ← peek flags.verbose
      if c.isAlpha || c == '-' then
        let name ← takeUpTo flags.verbose '\x7d'
        return some (← ofOption (wordAnchor? (String.ofList name)))
      else pure none
    pure (named.getD .boundary)
  else pure .boundary

/-! ## Repetitions -/

/-- Reads a number between optional blanks. -/
def readCount? (cs : List Char) : Option (Nat × List Char) :=
  let cs := cs.dropWhile isBlank
  let digits := cs.takeWhile Char.isDigit
  if digits.isEmpty || 0x100000000 ≤ digitsValue digits then none
  else some (digitsValue digits, (cs.dropWhile Char.isDigit).dropWhile isBlank)

/-- The bounds of a repetition, as they stand between braces. -/
def boundsOf? (cs : List Char) : Option (Nat × Option Nat) :=
  match readCount? cs with
  | some (least, []) => some (least, some least)
  | some (least, [',']) => some (least, none)
  | some (least, ',' :: rest) =>
    match readCount? rest with
    | some (most, []) => if least ≤ most then some (least, some most) else none
    | _ => none
  | _ => none

/-- Reads the end of a repetition.  A question mark changes which match is preferred, not
what matches. -/
def readRepetition (bounds : Nat × Option Nat) : TextReader (Move Flags) := do
  let _ ← skip? '?'
  pure (.repeated bounds.1 bounds.2)

/-! ## Groups -/

/-- Whether a character may start the name of a group. -/
def startsName (c : Char) : Bool := c == '_' || isLetter c

/-- Whether a character may continue the name of a group. -/
def continuesName (c : Char) : Bool := isLetter c || isNumber c || c ∈ ['_', '.', '[', ']']

/-- Reads the name of a group and opens it. -/
def readNamedGroup (flags : Flags) : TextReader (Move Flags) := do
  let name ← takeUpTo false '>'
  if name.head?.any startsName && name.all continuesName then pure (.open true (some name) flags)
  else failure

/-- Reads flag letters.  A colon after them opens a group, and a closing parenthesis
changes the flags.  No letter occurs twice, and a minus sign, which occurs once, is
followed by a letter. -/
def flagMove? (seen : List Char) (on : Bool) (flags : Flags) :
    List Char → Option (Move Flags × List Char)
  | ':' :: rest => if seen.head? = some '-' then none else some (.open false none flags, rest)
  | ')' :: rest =>
    if seen.head? = some '-' ∨ seen = [] then none else some (.change flags, rest)
  | '-' :: rest => if on then flagMove? ('-' :: seen) false flags rest else none
  | c :: rest =>
    if c ∈ seen then none
    else match flags.set? c on with
      | some flags => flagMove? (c :: seen) on flags rest
      | none => none
  | [] => none

/-- Reads what follows an opening parenthesis and a question mark. -/
def readGroup (flags : Flags) : TextReader (Move Flags) := do
  let c ← peek false
  if c = 'P' then
    let _ ← next
    if (← next) = '<' then readNamedGroup flags else failure
  else if c = '<' then
    let _ ← next
    readNamedGroup flags
  else flagMove? [] true flags

/-! ## Moves -/

/-- Reads the next move. -/
def readMove (flags : Flags) : TextReader (Move Flags) := do
  let c ← next
  if flags.verbose && (isBlank c || c == '#') then
    ignore (c == '#')
    pure .skip
  else match c with
    | '(' => do
      blanks flags.verbose
      if ← skip? '?' then readGroup flags else pure (.open true none flags)
    | ')' => pure .close
    | '|' => pure .next
    | '[' => do
      let s ← fun cs => readClass flags (cs.length + 1) cs
      pure (.push (.set s))
    | '*' => readRepetition (0, none)
    | '+' => readRepetition (1, none)
    | '?' => readRepetition (0, some 1)
    | '\x7b' => do
      let bounds ← ofOption (boundsOf? (← takeUpTo flags.verbose '\x7d'))
      blanks flags.verbose
      readRepetition bounds
    | '\\' => do
      let letter ← next
      if letter = 'b' then
        return .push (.anchor (.word flags.ascii (← readWordAnchor flags)))
      else return .push (ofEscape flags (← readEscape flags letter))
    | '.' => ofOption ((dotSet? flags).map fun s => .push (.set s))
    | '^' => pure (.push (.anchor (if flags.lines then .lineStart flags.crlf else .textStart)))
    | '$' => pure (.push (.anchor (if flags.lines then .lineEnd flags.crlf else .textEnd)))
    | c => pure (.push (literal flags c))

/-- Reads a pattern as it is written. -/
def phraseOfChars? (cs : List Char) : Option Phrase :=
  Progress.finish? readMove cs.length (.start .initial) cs

end Pattern

end TieredStore
