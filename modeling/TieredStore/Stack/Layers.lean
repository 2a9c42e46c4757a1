import TieredStore.Program

/-!
# Calls through layers

Several stores of one kind act as one: reads go through the layers from the front
until one has something, and changes go to every layer in turn.  An error ends
either; layers that were changed before it stay changed.

Main results:

- Theorems `Stack.fanOut_cons` and `Stack.firstHit_cons`: what happens at the front
  layer, and what is left for the others.
-/

namespace TieredStore

namespace Stack

variable {Place Call : Type} [Interface Call] {α : Type}

/-- Runs a program on every layer in turn. -/
def fanOut (p : Program Call Unit) : List Place → Program (At Place Call) Unit
  | [] => pure ()
  | layer :: rest => do
    p.at layer
    fanOut p rest

/-- Goes on with the lower layers if there is no hit yet. -/
def orElse (hit : Option α) (lower : Program (At Place Call) (Option α)) :
    Program (At Place Call) (Option α) :=
  match hit with
  | some a => pure (some a)
  | none => lower

/-- The result of the first layer that has one. -/
def firstHit (p : Program Call (Option α)) : List Place → Program (At Place Call) (Option α)
  | [] => pure none
  | layer :: rest => do
    let hit ← p.at layer
    orElse hit (firstHit p rest)

/-- The result of the first layer where it is not empty. -/
def firstNonEmpty (p : Program Call (List α)) : List Place → Program (At Place Call) (List α)
  | [] => pure []
  | layer :: rest => do
    let found ← p.at layer
    if found.isEmpty then firstNonEmpty p rest else pure found

/-- A change is made at the front layer first. -/
theorem fanOut_cons (p : Program Call Unit) (layer : Place) (rest : List Place) :
    fanOut p (layer :: rest) = (p.at layer >>= fun _ => fanOut p rest) := rfl

/-- A read asks the front layer first. -/
theorem firstHit_cons (p : Program Call (Option α)) (layer : Place) (rest : List Place) :
    firstHit p (layer :: rest) = (p.at layer >>= fun hit => orElse hit (firstHit p rest)) := rfl

/-- The places of a front layer and a number of lower layers. -/
def places (lower : Nat) : List Nat := List.range (lower + 1)

/-- The places of the lower layers. -/
def lowerPlaces (lower : Nat) : List Nat := (List.range lower).map (· + 1)

/-- The front layer comes before the lower ones. -/
theorem places_eq (lower : Nat) : places lower = 0 :: lowerPlaces lower := by
  simp [places, lowerPlaces, List.range_succ_eq_map]

end Stack

end TieredStore
