import TieredStore.Pattern.Syntax
import TieredStore.Text.Category
import TieredStore.Text.Hexadecimal
import TieredStore.Text.TextReader

/-!
# Escapes in patterns

What a backslash and the characters after it stand for, as far as this does not depend
on the text that follows: a character, a set of characters or an anchor.

Of the classes by property there are those with a table here: the alphabetic, the blank
and the ASCII characters, all characters, letters, numbers and decimal digits.
-/

namespace TieredStore

namespace Pattern

/-! ## Flags -/

/-- How the following part of a pattern is read. -/
structure Flags where
  /-- Letters stand for all of their case variants. -/
  fold : Bool := false
  /-- The dot stands for line ends too. -/
  dotAll : Bool := false
  lines : Bool := false
  /-- Carriage returns end lines too. -/
  crlf : Bool := false
  /-- Blanks and comments are ignored. -/
  verbose : Bool := false
  /-- Sets and words are made of ASCII characters only. -/
  ascii : Bool := false

namespace Flags

/-- The flags at the start of a pattern. -/
def initial : Flags := {}

/-- Sets or clears the flag of a letter. -/
def set? (flags : Flags) (letter : Char) (on : Bool) : Option Flags :=
  match letter with
  | 'i' => some { flags with fold := on }
  | 's' => some { flags with dotAll := on }
  | 'm' => some { flags with lines := on }
  | 'R' => some { flags with crlf := on }
  | 'x' => some { flags with verbose := on }
  | 'u' => some { flags with ascii := !on }
  -- which match is preferred makes no difference to what matches
  | 'U' => some flags
  | _ => none

/-- A set, with all case variants if letters stand for them. -/
def folded (flags : Flags) (a : CharSet) : CharSet :=
  if flags.fold then .folded flags.ascii a else a

/-- A set or its complement.  No complement is made of ASCII characters only. -/
def negated? (flags : Flags) (negated : Bool) (a : CharSet) : Option CharSet :=
  if negated then if flags.ascii then none else some (.negate a) else some a

/-- Whether a character may be in a set. -/
def admits (flags : Flags) (c : Char) : Bool := !flags.ascii || c.toNat < 0x80

end Flags

/-! ## Sets with names -/

/-- The set of a letter: decimal digits, white space or the characters of words. -/
def letterSet? (ascii : Bool) : Char → Option CharSet
  | 'd' => some (if ascii then .ranges [('0', '9')] else .table digitTable)
  | 's' => some (if ascii then .ranges [('\t', '\r'), (' ', ' ')] else .table blankTable)
  | 'w' =>
    some (if ascii then .ranges [('0', '9'), ('A', 'Z'), ('_', '_'), ('a', 'z')]
      else .table wordTable)
  | _ => none

/-- The name of a property as it is looked up: in small letters, and without hyphens,
underscores, blanks and the word that may introduce it. -/
def propertyName (cs : List Char) : String :=
  let name := cs.map Char.toLower
  let name := if name.take 2 = ['i', 's'] then name.drop 2 else name
  String.ofList (name.filter fun c => c ∉ [' ', '-', '_'])

/-- The set of a property. -/
def propertySet? (name : List Char) : Option CharSet :=
  match propertyName name with
  | "any" => some .everything
  | "ascii" => some (.ranges [('\x00', '\x7f')])
  | "alphabetic" | "alpha" => some (.table alphabeticTable)
  | "whitespace" | "wspace" | "space" => some (.table blankTable)
  | "l" | "letter" => some (.table letterCategoryTable)
  | "n" | "number" => some (.table numberCategoryTable)
  | "nd" | "decimalnumber" | "digit" => some (.table digitTable)
  | _ => none

/-! ## Escapes -/

/-- What an escape stands for. -/
inductive Escape where
  | char (c : Char)
  | set (s : CharSet)
  | anchor (a : Anchor)

/-- The character with a code point. -/
def charOfCode? (code : Nat) : Option Char :=
  if code < 0xD800 || (0xE000 ≤ code && code < 0x110000) then some (Char.ofNat code) else none

open TextReader

/-- Reads a code point: a fixed number of hexadecimal digits, or any number of them in
braces.  Two digits stand for a byte, which may be no part of another character. -/
def readCode (flags : Flags) (width : Nat) : TextReader Char := do
  let first ← nextPast flags.verbose
  if first = '\x7b' then
    let digits ← takeUpTo flags.verbose '\x7d'
    ofOption ((hexValue? digits).bind charOfCode?)
  else
    let others ← several flags.verbose (width - 1)
    let c ← ofOption ((hexValue? (first :: others)).bind charOfCode?)
    if width = 2 ∧ flags.admits c = false then failure else pure c

/-- Reads the name of a property: a character, or any text in braces. -/
def readPropertyName (flags : Flags) : TextReader (List Char) := do
  let first ← nextPast flags.verbose
  if first = '\x7b' then takeUpTo flags.verbose '\x7d'
  else if first = '\\' then failure
  else pure [first]

/-- Reads a set by property.  Sets of ASCII characters have no properties. -/
def readProperty (flags : Flags) (negated : Bool) : TextReader CharSet := do
  let name ← readPropertyName flags
  ofOption (if flags.ascii then none
    else (propertySet? name).bind fun s => flags.negated? negated (flags.folded s))

/-- Whether a character may be escaped to stand for itself: punctuation, space and
controls of the ASCII range, angle brackets excepted. -/
def isEscapable (c : Char) : Bool :=
  c.toNat < 0x80 && !c.isAlphanum && c != '<' && c != '>'

/-- What an escape of one character stands for. -/
def ofLetter? (flags : Flags) (c : Char) : Option Escape :=
  match c with
  | 'A' => some (.anchor .textStart)
  | 'z' => some (.anchor .textEnd)
  | 'B' => some (.anchor (.word flags.ascii .noBoundary))
  | '<' => some (.anchor (.word flags.ascii .start))
  | '>' => some (.anchor (.word flags.ascii .stop))
  | 'a' => some (.char '\x07')
  | 'f' => some (.char '\x0c')
  | 'n' => some (.char '\n')
  | 'r' => some (.char '\r')
  | 't' => some (.char '\t')
  | 'v' => some (.char '\x0b')
  | c =>
    match letterSet? flags.ascii c.toLower with
    | some s => (flags.negated? c.isUpper s).map .set
    | none => if isEscapable c then some (.char c) else none

/-- Reads the rest of an escape whose first character was taken. -/
def readEscape (flags : Flags) (c : Char) : TextReader Escape :=
  match c with
  | 'x' => return .char (← readCode flags 2)
  | 'u' => return .char (← readCode flags 4)
  | 'U' => return .char (← readCode flags 8)
  | 'p' => return .set (← readProperty flags false)
  | 'P' => return .set (← readProperty flags true)
  | c => ofOption (ofLetter? flags c)

end Pattern

end TieredStore
