import TieredStore.Text.CodeRanges

/-!
# UTF-8

In UTF-8 a character is one to four bytes: a first byte that tells their number, and
further bytes with six bits each.  A range of characters is a list of sequences of
byte ranges.  Sequences with common beginnings form a tree.
-/

namespace TieredStore

namespace Utf8

/-- A range of bytes, its first and last byte. -/
abbrev ByteRange : Type := Nat × Nat

/-- What is added to the six bits of a further byte. -/
def furtherByte : Nat := 0x80

/-- How many values the given number of further bytes has. -/
def width (further : Nat) : Nat := Nat.pow 64 further

/-- The sequence of a first byte from `start` up to `stop`, counted from `base`, and
any further bytes; none if there is no such first byte. -/
def complete (further base start stop : Nat) : List (List ByteRange) :=
  if start < stop then
    [(base + start, base + stop - 1) :: List.replicate further (furtherByte, furtherByte + 63)]
  else []

/-- The byte sequences of the numbers from `first` to `last`, written as a byte that
is counted from `base` and the given number of further bytes.  Numbers with the same
first byte, and those with all values of the further bytes, are taken together. -/
def blocks : Nat → Nat → Nat → Nat → List (List ByteRange)
  | 0, base, first, last => [[(base + first, base + last)]]
  | further + 1, base, first, last =>
    let w := width (further + 1)
    let under (lead low high : Nat) : List (List ByteRange) :=
      (blocks further furtherByte low high).map ((base + lead, base + lead) :: ·)
    if first / w = last / w then under (first / w) (first % w) (last % w)
    else
      let cutFirst := first % w != 0
      let cutLast := last % w != w - 1
      (if cutFirst then under (first / w) (first % w) (w - 1) else []) ++
      complete (further + 1) base (if cutFirst then first / w + 1 else first / w)
        (if cutLast then last / w else last / w + 1) ++
      (if cutLast then under (last / w) 0 (last % w) else [])

/-- The code points of each length: first and last one, number of further bytes, and
what the first byte is counted from. -/
def lengths : List (Nat × Nat × Nat × Nat) :=
  [(0, 0x7F, 0, 0), (0x80, 0x7FF, 1, 0xC0), (0x800, 0xD7FF, 2, 0xE0), (0xE000, 0xFFFF, 2, 0xE0),
    (0x10000, CodeRanges.lastCode, 3, 0xF0)]

/-- The byte sequences of a range of code points. -/
def sequences (range : Nat × Nat) : List (List ByteRange) :=
  lengths.flatMap fun (low, high, further, base) =>
    if max range.1 low ≤ min range.2 high then
      blocks further base (max range.1 low) (min range.2 high)
    else []

/-- How many bytes a code point has. -/
def byteCount (code : Nat) : Nat :=
  if code < 0x80 then 1 else if code < 0x800 then 2 else if code < 0x10000 then 3 else 4

/-! ## The tree of sequences -/

/-- The branches at the root of the tree of some sequences: those that start with the
same range, without it. -/
def branches (sequences : List (List ByteRange)) : List (List (List ByteRange)) :=
  (sequences.splitBy fun a b => a.head? == b.head?).map fun group => group.map List.tail

/-- The nodes of the tree of some sequences that are no leaves, down to a depth.
Each is given by the sequences from it to the leaves. -/
def nodes : Nat → List (List ByteRange) → List (List (List ByteRange))
  | 0, _ => []
  | depth + 1, sequences =>
    if sequences.all List.isEmpty then []
    else sequences :: (branches sequences).flatMap (nodes depth)

/-- The nodes of the tree of a set of code points. -/
def nodesOf (rs : CodeRanges) : List (List (List ByteRange)) := nodes 4 (rs.flatMap sequences)

end Utf8

end TieredStore
