import TieredStore.Entry.Basic
import TieredStore.SortedMap

/-!
# Tables of entries

The entries of one store in memory, by key.  Expired entries stay in the table
until they are overwritten or swept out, but no call can tell.

Main results:

- Theorem `EntryTable.live?_sweep`: sweeping changes no live entry.
-/

namespace TieredStore

/-- Entries by key. -/
abbrev EntryTable (V : Type) : Type := SortedMap String (Entry V)

namespace EntryTable

variable {V : Type}

/-- The live entry under a key. -/
def live? (table : EntryTable V) (now : Int64) (key : String) : Option (Entry V) :=
  (table.get? key).filter fun entry => !entry.isExpired now

/-- Stores a value with a lifetime, or removes the entry. -/
def put (table : EntryTable V) (now : Int64) (key : String) (value : Option V) (ttl : UInt64) :
    EntryTable V :=
  match value with
  | some value => table.insert key (Entry.withTtl value ttl now)
  | none => table.erase key

/-- Sets the time at which a live entry expires; an expired entry is removed. -/
def expire (table : EntryTable V) (now : Int64) (key : String) (time : Int64) : EntryTable V :=
  match table.get? key with
  | none => table
  | some entry =>
    if entry.isExpired now then table.erase key
    else table.insert key { entry with expiresAt := time }

/-- The keys of the live entries, or of those that hold a value, in order. -/
def keysHolding [DecidableEq V] (table : EntryTable V) (now : Int64) (value : Option V) :
    List String :=
  (table.filter fun _ entry => !entry.isExpired now && value.all (entry.value == ·)).keys

/-- Replaces the live value if it is the expected one.  A value that is replaced
keeps its time of expiry, and a new one never expires. -/
def compareAndSet [DecidableEq V] (table : EntryTable V) (now : Int64) (key : String)
    (expect : Option V) (update : V) : Bool × EntryTable V :=
  match table.live? now key, expect with
  | some entry, some expected =>
    if entry.value = expected then (true, table.insert key { entry with value := update })
    else (false, table)
  | none, none => (true, table.insert key { value := update })
  | _, _ => (false, table)

/-- Removes the expired entries. -/
def sweep (table : EntryTable V) (now : Int64) : EntryTable V :=
  table.filter fun _ entry => !entry.isExpired now

/-- Sweeping changes no live entry. -/
theorem live?_sweep (table : EntryTable V) (now : Int64) (key : String) :
    (table.sweep now).live? now key = table.live? now key := by
  apply Option.ext
  intro entry
  simp only [live?, sweep, Option.filter_eq_some_iff, SortedMap.get?_eq_some_iff,
    SortedMap.filter, List.mem_filter]
  constructor
  · rintro ⟨⟨h, _⟩, hlive⟩
    exact ⟨h, hlive⟩
  · rintro ⟨h, hlive⟩
    exact ⟨⟨h, hlive⟩, hlive⟩

/-! ## Answering calls -/

/-- Checks a key first and then answers from the table. -/
def withKey {α : Type} (key : String) (x : Action (EntryTable V) α) : Action (EntryTable V) α := do
  Action.ofExcept (checkKey key)
  x

/-- How a table answers calls at a time. -/
def answer [DecidableEq V] (now : Int64) : Handler (EntryCall V) (EntryTable V)
  | .lifecycle .setup => pure ()
  | .lifecycle .destroy => Action.write ∅
  | .lifecycle .clear => Action.write ∅
  | .lifecycle .maintenance => Action.update fun table => table.sweep now
  | .get key => withKey key fun table => (.ok (table.live? now key), table)
  | .put key value ttl => withKey key (Action.update fun table => table.put now key value ttl)
  | .expire key time => withKey key (Action.update fun table => table.expire now key time)
  | .keys value => fun table => (.ok (table.keysHolding now value), table)
  | .compareAndSet key expect update => withKey key fun table =>
    match table.compareAndSet now key expect update with
    | (replaced, table) => (.ok replaced, table)

end EntryTable

end TieredStore
