import TieredStore.Pattern.Escape

/-!
# Classes in brackets

A class lists characters, ranges, escapes, named classes and further classes.  Two signs
of one kind combine what is before them with what is after them.
-/

namespace TieredStore

namespace Pattern

open TextReader

/-! ## Named classes -/

/-- The named classes of the ASCII range. -/
def namedClass? (name : String) : Option CharSet :=
  match name with
  | "alnum" => some (.ranges [('0', '9'), ('A', 'Z'), ('a', 'z')])
  | "alpha" => some (.ranges [('A', 'Z'), ('a', 'z')])
  | "ascii" => some (.ranges [('\x00', '\x7f')])
  | "blank" => some (.ranges [('\t', '\t'), (' ', ' ')])
  | "cntrl" => some (.ranges [('\x00', '\x1f'), ('\x7f', '\x7f')])
  | "digit" => some (.ranges [('0', '9')])
  | "graph" => some (.ranges [('!', '~')])
  | "lower" => some (.ranges [('a', 'z')])
  | "print" => some (.ranges [(' ', '~')])
  | "punct" => some (.ranges [('!', '/'), (':', '@'), ('[', '\x60'), ('\x7b', '~')])
  | "space" => some (.ranges [('\t', '\r'), (' ', ' ')])
  | "upper" => some (.ranges [('A', 'Z')])
  | "word" => some (.ranges [('0', '9'), ('A', 'Z'), ('_', '_'), ('a', 'z')])
  | "xdigit" => some (.ranges [('0', '9'), ('A', 'F'), ('a', 'f')])
  | _ => none

/-- Reads a caret if there is one. -/
def readCaret (ignored : Bool) : TextReader Bool := do
  let c ← peek ignored
  if c = '^' then
    let _ ← next
    pure true
  else pure false

/-- Reads letters, if a colon and a closing bracket follow them, and takes these too.  The
text does not end before this is clear. -/
def readClassName : TextReader (Option (List Char)) := fun cs =>
  match cs.dropWhile Char.isAlpha with
  | ':' :: ']' :: rest => some (some (cs.takeWhile Char.isAlpha), rest)
  | [] | [':'] => none
  | _ => some (none, cs)

/-- Reads a named class after an opening bracket, if there is one. -/
def readNamedClass (flags : Flags) : TextReader (Option CharSet) := attempt do
  let sign ← next
  if sign = ':' then
    let negated ← readCaret false
    let name ← readClassName
    match name.bind fun name => namedClass? (String.ofList name) with
    | none => pure none
    | some s => return some (← ofOption (flags.negated? negated (flags.folded s)))
  else pure none

/-! ## Items -/

/-- The set of a class item.  Anchors have none. -/
def Escape.set? (flags : Flags) : Escape → Option CharSet
  | .char c => if flags.admits c then some (.single c) else none
  | .set s => some s
  | .anchor _ => none

/-- The set of a range. -/
def rangeSet? (flags : Flags) : Escape → Escape → Option CharSet
  | .char first, .char last =>
    if flags.admits first && flags.admits last && first ≤ last then some (.ranges [(first, last)])
    else none
  | _, _ => none

/-- Reads a character or an escape whose first character was taken. -/
def readItem (flags : Flags) (c : Char) : TextReader Escape :=
  if c = '\\' then do
    let letter ← next
    if letter = 'b' then failure else readEscape flags letter
  else pure (.char c)

/-- Looks at the first character after the next one that is not ignored. -/
def peekBeyond (ignored : Bool) : TextReader Char := fun cs =>
  (if ignored then skipBlanks false cs.tail else cs.tail).head?.map fun c => (c, cs)

/-- Reads an item or a range whose first character was taken.  A hyphen makes no range
before another one or the end of the class. -/
def readRange (flags : Flags) (c : Char) : TextReader CharSet := do
  let first ← readItem flags c
  let sign ← peek flags.verbose
  if sign = '-' then
    let beyond ← peekBeyond flags.verbose
    if beyond = ']' ∨ beyond = '-' then ofOption (first.set? flags)
    else
      let _ ← next
      let last ← readItem flags (← nextPast flags.verbose)
      ofOption (rangeSet? flags first last)
  else ofOption (first.set? flags)

/-- The operation of a sign. -/
def operationOf? : Char → Option SetOperation
  | '&' => some .intersection
  | '-' => some .difference
  | '~' => some .symmetricDifference
  | _ => none

/-- Reads an operation whose first sign was taken, if the same sign follows. -/
def readOperation (c : Char) : TextReader (Option SetOperation) :=
  match operationOf? c with
  | none => pure none
  | some op => do
    let sign ← peek false
    if sign = c then
      let _ ← next
      pure (some op)
    else pure none

/-! ## Classes -/

/-- The items of a class that were read so far: those since the last operation, and
what is before that operation. -/
structure ClassItems where
  /-- The union of the items since the last operation. -/
  current : CharSet
  /-- The last operation and the set before it. -/
  pending : Option (SetOperation × CharSet)

namespace ClassItems

/-- No items. -/
def none : ClassItems := ⟨.empty, Option.none⟩

/-- Adds an item. -/
def add (items : ClassItems) (item : CharSet) : ClassItems :=
  { items with current := .union items.current item }

/-- The set of all items; operations are made from left to right. -/
def set (flags : Flags) (items : ClassItems) : CharSet :=
  match items.pending with
  | some (op, before) => .combined op (flags.folded before) (flags.folded items.current)
  | Option.none => items.current

/-- Starts the items after an operation. -/
def operate (flags : Flags) (items : ClassItems) (op : SetOperation) : ClassItems :=
  ⟨.empty, some (op, items.set flags)⟩

/-- What a class of some items stands for. -/
def close? (flags : Flags) (negated : Bool) (items : ClassItems) : Option CharSet :=
  (flags.negated? negated (flags.folded (items.set flags))).map .bracketed

end ClassItems

/-- Where an item of a class stands. -/
inductive ItemPlace where
  | first
  /-- After hyphens with which the class starts. -/
  | afterHyphens
  | later

/-- Whether a character stands for itself that would mean something elsewhere: the first
item may be a closing bracket, and the class may start with hyphens. -/
def ItemPlace.takes (place : ItemPlace) (c : Char) : Bool :=
  match place with
  | .first => c = ']' || c = '-'
  | .afterHyphens => c = '-'
  | .later => false

/-- Reads the items of a class up to its closing bracket.  Every step takes a
character. -/
def readItems (flags : Flags) : Nat → ItemPlace → ClassItems → TextReader ClassItems
  | 0, _, _ => failure
  | fuel + 1, place, items => do
    let c ← nextPast flags.verbose
    if place.takes c then
      readItems flags fuel (if c = '-' then .afterHyphens else .later) (items.add (.single c))
    else if c = ']' then pure items
    else if c = '[' then
      match ← readNamedClass flags with
      | some s => readItems flags fuel .later (items.add s)
      | none =>
        let negated ← readCaret flags.verbose
        let inner ← readItems flags fuel .first .none
        let s ← ofOption (inner.close? flags negated)
        readItems flags fuel .later (items.add s)
    else
      match ← readOperation c with
      | some op => readItems flags fuel .later (items.operate flags op)
      | none =>
        let s ← readRange flags c
        readItems flags fuel .later (items.add s)

/-- Reads a class after its opening bracket. -/
def readClass (flags : Flags) (fuel : Nat) : TextReader CharSet := do
  let negated ← readCaret flags.verbose
  let items ← readItems flags fuel .first .none
  ofOption (items.close? flags negated)

end Pattern

end TieredStore
