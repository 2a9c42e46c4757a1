import TieredStore.Entry.Basic
import TieredStore.Stack.Layers

/-!
# Stacks of entry stores

How each call to a stack of entry stores is made of calls to its layers.  The
front layer decides about a compare-and-set.  If it has no live entry, the visible
value comes from the lower layers, and the front layer is set only if it still has
none; a writer who gets there first makes the call fail.  After that the new value
is written through to the lower layers.
-/

namespace TieredStore

namespace Stack

variable {V : Type}

/-- The entry that is visible through the layers, given what the front layer
has. -/
def visibleEntry (own : Option (Entry V)) (key : String) (lower : List Nat) :
    Program (At Nat (EntryCall V)) (Option (Entry V)) :=
  orElse own (firstHit (Entries.entry? key) lower)

/-- Writes a value that the front layer has taken through to the lower layers, and
gives it the time of expiry of the entry that it replaces. -/
def writeThrough (key : String) (value : V) (expiresAt : Int64) (front : Nat) (lower : List Nat) :
    Program (At Nat (EntryCall V)) Bool := do
  fanOut (Entries.put key (some value) 0) lower
  if expiresAt = 0 then pure true
  else do
    fanOut (Entries.expire key expiresAt) (front :: lower)
    pure true

/-- Replaces the visible value if it is the expected one. -/
def compareAndSet [DecidableEq V] (key : String) (expect : Option V) (update : V) (front : Nat)
    (lower : List Nat) : Program (At Nat (EntryCall V)) Bool := do
  let own ← (Entries.entry? key).at front
  let visible ← visibleEntry own key lower
  if visible.map (·.value) = expect then do
    let replaced ← (Entries.compareAndSet key (own.map (·.value)) update).at front
    if replaced then
      writeThrough key update ((visible.map (·.expiresAt)).getD 0) front lower
    else pure false
  else pure false

/-- An entry call to a stack, by calls to its front layer and the lower ones. -/
def throughEntryLayers [DecidableEq V] (front : Nat) (lower : List Nat) :
    (call : EntryCall V) → Program (At Nat (EntryCall V)) (Interface.Reply call)
  | .lifecycle op => fanOut (.ofCall (EntryCall.lifecycle op)) (front :: lower)
  | .get key => firstHit (Entries.entry? key) (front :: lower)
  | .put key value ttl => fanOut (Entries.put key value ttl) (front :: lower)
  | .expire key time => fanOut (Entries.expire key time) (front :: lower)
  | .keys value => firstNonEmpty (Entries.keys value) (front :: lower)
  | .compareAndSet key expect update => compareAndSet key expect update front lower

end Stack

end TieredStore
