import TieredStore.Pattern.Phrase
import TieredStore.Text.Utf8

/-!
# The weight of a phrase

A pattern is matched by an automaton over the bytes of a text, and by a second one
that reads the text backward.  The weight of a phrase is the memory that the states
of such an automaton take.  It is computed without building the automaton, so that a
phrase that is too heavy can be refused.

A repetition has a copy of its body for every number of times that it counts; the
characters of a set share the bytes at their ends in the forward automaton and those
at their beginnings in the backward one.
-/

namespace TieredStore

/-- The direction in which an automaton reads a text. -/
inductive Reading where
  /-- From the first character to the last one. -/
  | forward
  /-- From the last character to the first one. -/
  | backward
  deriving DecidableEq

namespace Phrase

/-- The bytes of a state. -/
def stateBytes : Nat := 32

/-- The bytes of an edge of a state that has several. -/
def edgeBytes : Nat := 8

/-- The bytes of a link from a state that chooses between others. -/
def linkBytes : Nat := 4

/-- The bytes of a state that chooses between two others. -/
def forkBytes : Nat := stateBytes + 2 * linkBytes

/-- The bytes for one character of a set. -/
def codesWeight (d : Reading) : CodeRanges → Nat
  | [] => 2 * stateBytes
  | [r] =>
    if r.1 = r.2 then stateBytes * Utf8.byteCount r.1 else severalWeight [r]
  | rs => severalWeight rs
where
  /-- The bytes for a set of several characters. -/
  severalWeight (rs : CodeRanges) : Nat :=
    if rs.all fun r => r.2 < 0x80 then 2 * stateBytes + edgeBytes * rs.length
    else
      let nodes := Utf8.nodesOf rs
      match d with
      | .forward =>
        let shared := nodes.eraseDups
        stateBytes * (shared.length + 1) +
          edgeBytes * (shared.flatMap Utf8.branches).length
      | .backward =>
        stateBytes * ((nodes.flatMap Utf8.branches).length + 2) +
          linkBytes * (rs.flatMap Utf8.sequences).length

/-- The bytes for a repetition of a body.  A body that covers nothing is not repeated;
one that need not cover anything takes two forks. -/
def repetitionWeight (body : Nat) (coversNothing moves : Bool) (least : Nat)
    (most : Option Nat) : Nat :=
  let atLeast := if coversNothing then min least 1 else least
  let atMost := if coversNothing then some (min (most.getD 1) 1) else most
  match atMost with
  | none =>
    if atLeast = 0 && !moves then body + 2 * forkBytes + stateBytes
    else max atLeast 1 * body + forkBytes
  | some 0 => stateBytes
  | some atMost =>
    if atMost = atLeast then atLeast * body
    else if atMost = 1 then forkBytes + body + stateBytes
    else (if atLeast = 0 then stateBytes else atLeast * body) + stateBytes +
      (atMost - atLeast) * (forkBytes + body)

mutual

/-- The set of a phrase that is nothing but one character of a set. -/
def asSet? : Phrase → Option CharSet
  | .set s => some s
  | .group false body => body.asSet?
  | .row items => onlySet? items
  | .choice branches => unionOfAll? branches
  | _ => none

/-- The set of the only item that is left of a row. -/
def onlySet? : List Phrase → Option CharSet
  | [] => none
  | p :: rest =>
    if p.isVoid then onlySet? rest else if allVoid rest then p.asSet? else none

/-- The union of the sets of some phrases. -/
def unionOfAll? : List Phrase → Option CharSet
  | [] => some .empty
  | p :: rest =>
    match p.asSet?, unionOfAll? rest with
    | some a, some b => some (.union a b)
    | _, _ => none

end

mutual

/-- The bytes for a phrase. -/
def weight (d : Reading) : Phrase → Nat
  | .nothing | .anchor _ | .flags => stateBytes
  | .set s => codesWeight d s.codes
  | .group remembers body =>
    (if remembers && d == .forward then 2 * stateBytes else 0) + body.weight d
  | .repeated body least most =>
    repetitionWeight (body.weight d) body.coversNothing (0 < body.minLength) least most
  | .row items => if allVoid items then stateBytes else rowWeight d items
  | .choice branches =>
    match unionOfAll? branches with
    | some s => codesWeight d s.codes
    | none => 2 * stateBytes + choiceWeight d branches

/-- The bytes for the items of a row. -/
def rowWeight (d : Reading) : List Phrase → Nat
  | [] => 0
  | p :: rest => (if p.isVoid then 0 else p.weight d) + rowWeight d rest

/-- The bytes for the branches of a choice. -/
def choiceWeight (d : Reading) : List Phrase → Nat
  | [] => 0
  | p :: rest => linkBytes + p.weight d + choiceWeight d rest

end

/-- The greatest number of bytes for an automaton. -/
def weightLimit : Nat := 0xA00000

/-- How deep a phrase may be nested. -/
def depthLimit : Nat := 250

/-- Whether a phrase is neither nested too deep nor too heavy.  Besides the states of
the phrase, an automaton has one before it and one after it; the forward automaton
remembers where the whole begins and ends. -/
def isAcceptable (p : Phrase) : Bool :=
  p.depth ≤ depthLimit && p.weight .forward + 4 * stateBytes ≤ weightLimit &&
    p.weight .backward + 2 * stateBytes ≤ weightLimit

end Phrase

end TieredStore
