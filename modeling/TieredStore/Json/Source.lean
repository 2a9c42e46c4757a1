import TieredStore.Json.Number
import TieredStore.Text.Hexadecimal

/-!
# JSON texts as written

Reading a JSON text yields the tree of what is written: numbers as literals,
strings as pieces with their escapes, and objects with all their members in order.
What these denote is decided where they are used, so a part that nobody uses is
only checked for its form.

Main results:

- Theorem `Json.Source.text?_chars`: a string written without escapes of code
  units denotes its characters.
-/

namespace TieredStore

namespace Json

/-- A piece of a string as written. -/
inductive Piece where
  /-- A character, written as itself or by a short escape. -/
  | char (c : Char)
  /-- A UTF-16 code unit, written by its four hexadecimal digits. -/
  | unit (code : Nat)
  deriving DecidableEq

/-- A JSON value as written. -/
inductive Source where
  | null
  | bool (b : Bool)
  | number (literal : NumberLiteral)
  | string (pieces : List Piece)
  | array (elements : List Source)
  | object (members : List (List Piece × Source))
  deriving Inhabited

/-! ## Strings -/

/-- The character behind a short escape. -/
def shortEscape? : Char → Option Char
  | '"' => some '"'
  | '\\' => some '\\'
  | '/' => some '/'
  | 'b' => some '\x08'
  | 'f' => some '\x0c'
  | 'n' => some '\n'
  | 'r' => some '\r'
  | 't' => some '\t'
  | _ => none

/-- Reads the pieces of a string up to its closing quotation mark. -/
def readPieces? : List Char → Option (List Piece × List Char)
  | [] => none
  | '"' :: rest => some ([], rest)
  | '\\' :: 'u' :: a :: b :: c :: d :: rest =>
    match hexValue? [a, b, c, d] with
    | some code => (readPieces? rest).map fun (pieces, rest) => (.unit code :: pieces, rest)
    | none => none
  | '\\' :: e :: rest =>
    match shortEscape? e with
    | some c => (readPieces? rest).map fun (pieces, rest) => (.char c :: pieces, rest)
    | none => none
  | c :: rest =>
    if c.toNat < 0x20 then none
    else (readPieces? rest).map fun (pieces, rest) => (.char c :: pieces, rest)

/-- The characters that the pieces of a string denote.  Two code units form a
surrogate pair, and a lone surrogate denotes nothing. -/
def textOfPieces? : List Piece → Option (List Char)
  | [] => some []
  | .char c :: rest => (textOfPieces? rest).map fun cs => c :: cs
  | .unit high :: .unit low :: rest =>
    if 0xD800 ≤ high && high < 0xDC00 then
      if 0xDC00 ≤ low && low < 0xE000 then
        (textOfPieces? rest).map fun cs =>
          Char.ofNat (0x10000 + (high - 0xD800) * 0x400 + (low - 0xDC00)) :: cs
      else none
    else if 0xDC00 ≤ high && high < 0xE000 then none
    else (textOfPieces? (.unit low :: rest)).map fun cs => Char.ofNat high :: cs
  | .unit code :: rest =>
    if 0xD800 ≤ code && code < 0xE000 then none
    else (textOfPieces? rest).map fun cs => Char.ofNat code :: cs

/-! ## Numbers -/

/-- Reads the digits before the point: a zero alone, or digits that do not start
with one. -/
def readWhole? : List Char → Option (List Char × List Char)
  | '0' :: rest =>
    match rest with
    | c :: _ => if c.isDigit then none else some (['0'], rest)
    | [] => some (['0'], [])
  | cs =>
    let digits := cs.takeWhile Char.isDigit
    if digits.isEmpty then none else some (digits, cs.dropWhile Char.isDigit)

/-- Reads a point and the digits after it, if there is a point. -/
def readFraction? : List Char → Option (List Char × List Char)
  | '.' :: rest =>
    let digits := rest.takeWhile Char.isDigit
    if digits.isEmpty then none else some (digits, rest.dropWhile Char.isDigit)
  | rest => some ([], rest)

/-- Reads the sign and the digits of an exponent. -/
def readPower? (cs : List Char) : Option (Int × List Char) :=
  let (negative, rest) := match cs with
    | '-' :: rest => (true, rest)
    | '+' :: rest => (false, rest)
    | rest => (false, rest)
  let digits := rest.takeWhile Char.isDigit
  let size := Int.ofNat (digitsValue digits)
  if digits.isEmpty then none
  else some (if negative then -size else size, rest.dropWhile Char.isDigit)

/-- Reads an exponent, if there is one. -/
def readScale? : List Char → Option (Option Int × List Char)
  | 'e' :: rest => (readPower? rest).map fun (power, rest) => (some power, rest)
  | 'E' :: rest => (readPower? rest).map fun (power, rest) => (some power, rest)
  | rest => some (none, rest)

/-- Reads a number without its sign. -/
def readUnsigned? (negative : Bool) (cs : List Char) : Option (NumberLiteral × List Char) := do
  let (whole, rest) ← readWhole? cs
  let (fraction, rest) ← readFraction? rest
  let (exponent, rest) ← readScale? rest
  some (⟨negative, whole, fraction, exponent⟩, rest)

/-! ## Values -/

/-- Whether a character may stand between the parts of a JSON text. -/
def isGap (c : Char) : Bool := c == ' ' || c == '\n' || c == '\t' || c == '\r'

/-- A text without the gap at its beginning. -/
def skipGap (cs : List Char) : List Char := cs.dropWhile isGap

mutual

/-- Reads one value.  `fuel` bounds the nesting of calls; the length of the text
is enough. -/
def readSource? : Nat → List Char → Option (Source × List Char)
  | 0, _ => none
  | fuel + 1, cs =>
    match skipGap cs with
    | 'n' :: 'u' :: 'l' :: 'l' :: rest => some (.null, rest)
    | 't' :: 'r' :: 'u' :: 'e' :: rest => some (.bool true, rest)
    | 'f' :: 'a' :: 'l' :: 's' :: 'e' :: rest => some (.bool false, rest)
    | '"' :: rest => (readPieces? rest).map fun (pieces, rest) => (.string pieces, rest)
    | '[' :: rest =>
      match skipGap rest with
      | ']' :: rest => some (.array [], rest)
      | rest =>
        match readSource? fuel rest with
        | none => none
        | some (first, rest) =>
          (readElements? fuel rest).map fun (others, rest) => (.array (first :: others), rest)
    | '\x7b' :: rest =>
      match skipGap rest with
      | '\x7d' :: rest => some (.object [], rest)
      | rest =>
        match readMember? fuel rest with
        | none => none
        | some (first, rest) =>
          (readMembers? fuel rest).map fun (others, rest) => (.object (first :: others), rest)
    | '-' :: rest => (readUnsigned? true rest).map fun (literal, rest) => (.number literal, rest)
    | rest => (readUnsigned? false rest).map fun (literal, rest) => (.number literal, rest)

/-- Reads the elements after the first one, and the end of the sequence. -/
def readElements? : Nat → List Char → Option (List Source × List Char)
  | 0, _ => none
  | fuel + 1, cs =>
    match skipGap cs with
    | ']' :: rest => some ([], rest)
    | ',' :: rest =>
      match readSource? fuel rest with
      | none => none
      | some (value, rest) =>
        (readElements? fuel rest).map fun (others, rest) => (value :: others, rest)
    | _ => none

/-- Reads a key, a colon and a value. -/
def readMember? : Nat → List Char → Option ((List Piece × Source) × List Char)
  | 0, _ => none
  | fuel + 1, cs =>
    match skipGap cs with
    | '"' :: rest =>
      match readPieces? rest with
      | none => none
      | some (key, rest) =>
        match skipGap rest with
        | ':' :: rest => (readSource? fuel rest).map fun (value, rest) => ((key, value), rest)
        | _ => none
    | _ => none

/-- Reads the members after the first one, and the end of the object. -/
def readMembers? : Nat → List Char → Option (List (List Piece × Source) × List Char)
  | 0, _ => none
  | fuel + 1, cs =>
    match skipGap cs with
    | '\x7d' :: rest => some ([], rest)
    | ',' :: rest =>
      match readMember? fuel rest with
      | none => none
      | some (member, rest) =>
        (readMembers? fuel rest).map fun (others, rest) => (member :: others, rest)
    | _ => none

end

/-- Reads a JSON text: one value with gaps around it. -/
def Source.ofChars? (cs : List Char) : Option Source :=
  match readSource? (2 * cs.length + 2) cs with
  | some (source, rest) => if (skipGap rest).isEmpty then some source else none
  | none => none

/-- Reads a JSON text. -/
def Source.ofText? (text : String) : Option Source := Source.ofChars? text.toList

/-! ## What strings denote -/

/-- The text that the pieces of a string denote. -/
def Source.pieceText? (pieces : List Piece) : Option String :=
  (textOfPieces? pieces).map String.ofList

/-- The text of a string. -/
def Source.text? : Source → Option String
  | .string pieces => Source.pieceText? pieces
  | _ => none

/-- Pieces that are characters denote these characters. -/
theorem textOfPieces?_chars (cs : List Char) : textOfPieces? (cs.map .char) = some cs := by
  induction cs with
  | nil => rfl
  | cons c rest ih => simp [textOfPieces?, ih]

/-- A string written without escapes of code units denotes its characters. -/
theorem Source.text?_chars (cs : List Char) :
    (Source.string (cs.map .char)).text? = some (String.ofList cs) := by
  simp [Source.text?, Source.pieceText?, textOfPieces?_chars]

end Json

end TieredStore
