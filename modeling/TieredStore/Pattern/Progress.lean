import TieredStore.Pattern.Phrase

/-!
# Patterns by moves

A pattern is read from left to right by moves, which open and close groups, change the
flags, end alternatives, and add or repeat items.  The flags tell how the following text
is to be read; what they are is left open here.

There is a stack with one level per open group.  A level remembers the finished
alternatives and the items of the current one.

Main results:

- Theorem `Pattern.Progress.make?_within`: a move is made inside of other groups as it is made
  outside of them.
-/

namespace TieredStore

namespace Pattern

/-- What an open group, or the pattern as a whole, has collected so far. -/
structure Level (Flags : Type) where
  /-- The finished alternatives, the last one first. -/
  branches : List Phrase
  /-- The items of the current alternative, the last one first. -/
  items : List Phrase
  /-- Whether the group remembers what it covers. -/
  remembers : Bool
  /-- The flags for what follows in the group. -/
  flags : Flags

namespace Level

variable {Flags : Type}

/-- A level that has collected nothing. -/
def fresh (remembers : Bool) (flags : Flags) : Level Flags := ⟨[], [], remembers, flags⟩

/-- The current alternative. -/
def branch (level : Level Flags) : Phrase := .ofItems level.items.reverse

/-- The whole level. -/
def phrase (level : Level Flags) : Phrase := .ofBranches (level.branch :: level.branches).reverse

/-- Adds an item to the current alternative. -/
def push (level : Level Flags) (item : Phrase) : Level Flags :=
  { level with items := item :: level.items }

/-- Changes the flags for the rest of the level. -/
def change (level : Level Flags) (flags : Flags) : Level Flags :=
  { level.push .flags with flags := flags }

/-- Closes the current alternative. -/
def nextBranch (level : Level Flags) : Level Flags :=
  { level with branches := level.branch :: level.branches, items := [] }

/-- Replaces the last item by its repetition. -/
def repeatLast? (level : Level Flags) (least : Nat) (most : Option Nat) : Option (Level Flags) :=
  match level.items with
  | item :: items =>
    if item.isRepeatable then some { level with items := .repeated item least most :: items }
    else none
  | [] => none

end Level

/-- A step of reading a pattern. -/
inductive Move (Flags : Type) where
  /-- Opens a group, which may remember what it covers and have a name.  The flags are
  those inside of it. -/
  | open (remembers : Bool) (name : Option (List Char)) (flags : Flags)
  /-- Closes the innermost group. -/
  | close
  /-- Changes the flags for the rest of the innermost group. -/
  | change (flags : Flags)
  /-- Starts the next alternative. -/
  | next
  | push (item : Phrase)
  | repeated (least : Nat) (most : Option Nat)
  /-- Passes over text that means nothing. -/
  | skip

/-- How far a pattern was read: the names in use and the open levels. -/
structure Progress (Flags : Type) where
  names : List (List Char)
  /-- The levels around the current one, innermost first. -/
  outer : List (Level Flags)
  level : Level Flags

namespace Progress

variable {Flags : Type}

/-- The start of a pattern. -/
def start (flags : Flags) : Progress Flags := ⟨[], [], .fresh false flags⟩

/-- Makes a move.  A name is given to one group only, and a group is closed only if it
is open. -/
def make? (p : Progress Flags) : Move Flags → Option (Progress Flags)
  | .open remembers none flags => some ⟨p.names, p.level :: p.outer, .fresh remembers flags⟩
  | .open remembers (some name) flags =>
    if p.names.contains name then none
    else some ⟨name :: p.names, p.level :: p.outer, .fresh remembers flags⟩
  | .close =>
    match p.outer with
    | [] => none
    | parent :: outer =>
      some ⟨p.names, outer, parent.push (.group p.level.remembers p.level.phrase)⟩
  | .change flags => some { p with level := p.level.change flags }
  | .next => some { p with level := p.level.nextBranch }
  | .push item => some { p with level := p.level.push item }
  | .repeated least most =>
    (p.level.repeatLast? least most).map fun level => { p with level := level }
  | .skip => some p

/-- Inside of other groups. -/
def within (p : Progress Flags) (around : List (Level Flags)) : Progress Flags :=
  { p with outer := p.outer ++ around }

/-- A move is made inside of other groups as it is made outside of them. -/
theorem make?_within {p q : Progress Flags} {move : Move Flags} (h : p.make? move = some q)
    (around : List (Level Flags)) : (p.within around).make? move = some (q.within around) := by
  unfold make? at h ⊢
  split at h
  case h_1 | h_4 | h_5 | h_6 | h_8 =>
    cases h
    rfl
  case h_2 remembers name flags =>
    split at h
    next => cases h
    next hnew =>
      cases h
      exact if_neg hnew
  case h_3 =>
    split at h
    next => cases h
    next parent outer houter =>
      cases h
      simp only [within, houter, List.cons_append]
  case h_7 least most =>
    obtain ⟨level, hlevel, rfl⟩ := Option.map_eq_some_iff.1 h
    exact Option.map_eq_some_iff.2 ⟨level, hlevel, rfl⟩

/-- Reads the rest of a pattern with a reader of moves.  Every move takes at least one
character, so the length of the text is enough `fuel`. -/
def finish? (readMove? : Flags → List Char → Option (Move Flags × List Char)) :
    Nat → Progress Flags → List Char → Option Phrase
  | _, p, [] => if p.outer.isEmpty then some p.level.phrase else none
  | 0, _, _ :: _ => none
  | fuel + 1, p, c :: cs =>
    match readMove? p.level.flags (c :: cs) with
    | none => none
    | some (move, rest) =>
      match p.make? move with
      | none => none
      | some q => finish? readMove? fuel q rest

end Progress

end Pattern

end TieredStore
