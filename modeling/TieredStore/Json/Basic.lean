import TieredStore.Binary64.Layout

/-!
# JSON values and their text

A JSON value as it is meant: integers are kept apart from other numbers, and the
members of an object are listed in the order in which they are written.  The text
is compact, escapes quotation marks, backslashes and control characters, and
leaves every other character as it is.
-/

namespace TieredStore

/-- A JSON value. -/
inductive Json where
  | null
  | bool (b : Bool)
  | integer (i : Int)
  /-- Any other number; a value that is no finite number is written as `null`. -/
  | float (x : Binary64)
  | string (s : String)
  | array (elements : List Json)
  | object (members : List (String × Json))
  deriving BEq, Inhabited

namespace Json

/-- The spelling of a character inside a JSON string. -/
def escape (c : Char) : List Char :=
  if c = '"' then ['\\', '"']
  else if c = '\\' then ['\\', '\\']
  else if c = '\x08' then ['\\', 'b']
  else if c = '\x0c' then ['\\', 'f']
  else if c = '\n' then ['\\', 'n']
  else if c = '\r' then ['\\', 'r']
  else if c = '\t' then ['\\', 't']
  else if c.toNat < 0x20 then
    ['\\', 'u', '0', '0', Nat.digitChar (c.toNat / 16), Nat.digitChar (c.toNat % 16)]
  else [c]

/-- A JSON string. -/
def quote (s : String) : List Char := '"' :: s.toList.flatMap escape ++ ['"']

/-- The text of a number that is not an integer. -/
def floatChars : Binary64 → List Char
  | .finite x => NumberLayout.json.ofFinite x
  | _ => "null".toList

mutual

/-- The text of a JSON value. -/
def chars : Json → List Char
  | .null => ['n', 'u', 'l', 'l']
  | .bool true => ['t', 'r', 'u', 'e']
  | .bool false => ['f', 'a', 'l', 's', 'e']
  | .integer i => intDigits i
  | .float x => floatChars x
  | .string s => quote s
  | .array [] => ['[', ']']
  | .array (first :: rest) => '[' :: (chars first ++ elementChars rest)
  | .object [] => ['\x7b', '\x7d']
  | .object ((key, value) :: rest) =>
    '\x7b' :: (quote key ++ ':' :: (chars value ++ memberChars rest))

/-- The elements of a sequence after its first one, and its end. -/
def elementChars : List Json → List Char
  | [] => [']']
  | value :: rest => ',' :: (chars value ++ elementChars rest)

/-- The members of an object after its first one, and its end. -/
def memberChars : List (String × Json) → List Char
  | [] => ['\x7d']
  | (key, value) :: rest => ',' :: (quote key ++ ':' :: (chars value ++ memberChars rest))

end

/-- The text of a JSON value. -/
def render (j : Json) : String := String.ofList j.chars

mutual

/-- How deeply sequences and objects are nested. -/
def depth : Json → Nat
  | .array elements => elementsDepth elements + 1
  | .object members => membersDepth members + 1
  | _ => 0

/-- The depth of the deepest element. -/
def elementsDepth : List Json → Nat
  | [] => 0
  | value :: rest => max (depth value) (elementsDepth rest)

/-- The depth of the deepest member. -/
def membersDepth : List (String × Json) → Nat
  | [] => 0
  | (_, value) :: rest => max (depth value) (membersDepth rest)

end

end Json

end TieredStore
