import TieredStore.Stack.Entries
import TieredStore.Stack.Records
import TieredStore.Storage.Basic

/-!
# Stores

A store is a base store, a stack of stores, or a store behind a guard.  Its own
data is only where the contents are; the contents are in the storage.  A guard
refuses the calls that it was told to refuse before they reach the store, and lets
a rival write just before a compare-and-set.

Main results:

- Theorem `Store.perform_stack`: a call to a stack is the stack's program run on
  its layers.
-/

namespace TieredStore

/-- A kind of store: what its base stores are, and how its calls go through the
layers of a stack. -/
class StoreKind (Call : Type) [Interface Call] where
  Base : Type
  baseName : Base → String
  answer : Base → Handler Call Storage
  callName : Call → String
  /-- A call to a stack with a number of lower layers, by calls to its layers. -/
  throughLayers : (lower : Nat) → (call : Call) → Program (At Nat Call) (Interface.Reply call)
  /-- What a rival with a value calls just before a call. -/
  rivalCall : Value → Call → Option Call

/-- A store with base stores of a type. -/
inductive Store (Base : Type) where
  | base (store : Base)
  /-- A stack with its name, its front layer and the lower layers. -/
  | stack (name : String) (front : Store Base) (lower : List (Store Base))
  | guarded (guard : Ref Guard) (inner : Store Base)

/-- Whether a guard refuses a call of some name. -/
def Guard.refuses (guard : Guard) (call : String) : Bool := guard.refused.contains call

namespace Store

variable {Call : Type} [Interface Call] [StoreKind Call]

/-- The name of a store. -/
def name : Store (StoreKind.Base Call) → String
  | .base store => StoreKind.baseName store
  | .stack name _ _ => name
  | .guarded _ inner => inner.name

/-- The call of a rival that is due before a call, the rival being used up by it. -/
def takeRival (guard : Ref Guard) (call : Call) : Action Storage (Option Call) := fun s =>
  match (s.cell guard).rival.bind fun value => StoreKind.rivalCall value call with
  | none => (.ok none, s)
  | some rival => (.ok (some rival), s.setCell guard { s.cell guard with rival := none })

/-- A call to a guarded store: refused, or let through after the call of a rival. -/
def throughGuard (guard : Ref Guard) (store : String) (inner : Handler Call Storage) :
    Handler Call Storage := fun call => do
  let s ← Action.read
  if (s.cell guard).refuses (StoreKind.callName call) then
    Action.fail (.storage (.down store (StoreKind.callName call)))
  else do
    match ← takeRival guard call with
    | none => inner call
    | some rival => do
      let _ ← inner rival
      inner call

mutual

/-- How a store answers calls. -/
def perform : Store (StoreKind.Base Call) → (call : Call) → Action Storage (Interface.Reply call)
  | .base store, call => StoreKind.answer store call
  | .stack _ front lower, call =>
    (StoreKind.throughLayers lower.length call).run fun request =>
      match request.place with
      | 0 => perform front request.call
      | place + 1 => performBelow (perform front) lower place request.call
  | .guarded guard inner, call => throughGuard guard inner.name (perform inner) call

/-- How the lower layer at a place answers calls; for a place beyond the last one
another handler stands in. -/
def performBelow (standIn : Handler Call Storage) : List (Store (StoreKind.Base Call)) → Nat →
    (call : Call) → Action Storage (Interface.Reply call)
  | [], _, call => standIn call
  | layer :: _, 0, call => perform layer call
  | _ :: rest, place + 1, call => performBelow standIn rest place call

end

/-- How the layers of a stack answer the calls that are meant for them. -/
def performAt (front : Store (StoreKind.Base Call)) (lower : List (Store (StoreKind.Base Call))) :
    Handler (At Nat Call) Storage := fun request =>
  match request.place with
  | 0 => perform front request.call
  | place + 1 => performBelow (perform front) lower place request.call

/-- A call to a stack is the stack's program run on its layers. -/
theorem perform_stack (name : String) (front : Store (StoreKind.Base Call))
    (lower : List (Store (StoreKind.Base Call))) (call : Call) :
    perform (.stack name front lower) call =
      (StoreKind.throughLayers lower.length call).run (performAt front lower) := by
  rw [perform]
  rfl

/-- Runs a program against a store. -/
def run {α : Type} (store : Store (StoreKind.Base Call)) (p : Program Call α) : Action Storage α :=
  p.run store.perform

/-- A stack of some layers, front layer first. -/
def ofLayers {Base : Type} (name : String) : List (Store Base) → Except StoreError (Store Base)
  | [] => .error (.configuration (.stackWithoutLayers name))
  | front :: lower => .ok (.stack name front lower)

end Store

end TieredStore
