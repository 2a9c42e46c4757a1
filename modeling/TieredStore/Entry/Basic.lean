import TieredStore.FieldName
import TieredStore.Program

/-!
# Entries

An entry is a value that may expire.  Times are milliseconds, and zero as a time
of expiry means never.  An entry whose time has come is as good as absent, whether
or not it is still stored.

Main results:

- Theorem `Entry.isExpired_of_le`: what has expired stays expired.
- Theorem `expiryFromTtl_zero`: a lifetime of zero is unlimited.
-/

namespace TieredStore

/-- A stored value with the time at which it expires. -/
structure Entry (V : Type) where
  value : V
  expiresAt : Int64 := 0
  deriving DecidableEq

/-- The nearest integer of 64 signed bits. -/
def saturate (i : Int) : Int64 :=
  if i < -0x8000000000000000 then Int64.minValue
  else if 0x8000000000000000 ≤ i then Int64.maxValue
  else Int64.ofInt i

/-- The time of expiry after a lifetime.  Lifetimes and times stop at the largest
integer of 64 signed bits. -/
def expiryFromTtl (ttl : UInt64) (now : Int64) : Int64 :=
  if ttl = 0 then 0 else saturate (now.toInt + min ttl.toNat 0x7FFFFFFFFFFFFFFF)

/-- A lifetime of zero is unlimited. -/
@[simp] theorem expiryFromTtl_zero (now : Int64) : expiryFromTtl 0 now = 0 := rfl

namespace Entry

variable {V : Type}

/-- The entry of a value with a lifetime; a lifetime of zero is unlimited. -/
def withTtl (value : V) (ttl : UInt64) (now : Int64) : Entry V := ⟨value, expiryFromTtl ttl now⟩

/-- Whether an entry has expired. -/
def isExpired (entry : Entry V) (now : Int64) : Bool :=
  entry.expiresAt != 0 && decide (entry.expiresAt ≤ now)

/-- What has expired stays expired. -/
theorem isExpired_of_le {entry : Entry V} {now later : Int64} (hle : now ≤ later)
    (h : entry.isExpired now = true) : entry.isExpired later = true := by
  simp only [isExpired, Bool.and_eq_true, decide_eq_true_eq] at h ⊢
  exact ⟨h.1, Int64.le_trans h.2 hle⟩

end Entry

/-! ## Calls to stores of entries -/

/-- A call to a store of entries. -/
inductive EntryCall (V : Type) where
  /-- A call that concerns the store as a whole. -/
  | lifecycle (op : Lifecycle)
  | get (key : String)
  /-- Stores a value with a lifetime, or removes the entry. -/
  | put (key : String) (value : Option V) (ttl : UInt64)
  /-- Sets the time at which a live entry expires. -/
  | expire (key : String) (time : Int64)
  /-- The keys of the live entries, or of those that hold a value. -/
  | keys (value : Option V)
  /-- Replaces the live value if it is the expected one; `none` expects no live
  entry. -/
  | compareAndSet (key : String) (expect : Option V) (update : V)
  deriving DecidableEq

namespace EntryCall

variable {V : Type}

/-- What a call is replied with. -/
@[reducible] def Reply : EntryCall V → Type
  | .lifecycle _ => Unit
  | .get _ => Option (Entry V)
  | .put _ _ _ => Unit
  | .expire _ _ => Unit
  | .keys _ => List String
  | .compareAndSet _ _ _ => Bool

instance : Interface (EntryCall V) := ⟨Reply⟩

/-- The name of a call. -/
def name : EntryCall V → String
  | .lifecycle op => op.name
  | .get _ => "get_entry"
  | .put _ _ _ => "put"
  | .expire _ _ => "set_expiry"
  | .keys _ => "keys_with_value"
  | .compareAndSet _ _ _ => "compare_and_set"

end EntryCall

/-! ## What follows from the calls -/

namespace Entries

variable {V : Type}

/-- The live entry under a key. -/
def entry? (key : String) : Program (EntryCall V) (Option (Entry V)) := .ofCall (EntryCall.get key)

/-- The live value under a key. -/
def value? (key : String) : Program (EntryCall V) (Option V) := do
  let entry ← entry? key
  pure (entry.map (·.value))

/-- Whether there is a live entry under a key. -/
def contains (key : String) : Program (EntryCall V) Bool := do
  let entry ← entry? key
  pure entry.isSome

/-- Stores a value with a lifetime. -/
def put (key : String) (value : Option V) (ttl : UInt64) : Program (EntryCall V) Unit :=
  .ofCall (EntryCall.put key value ttl)

/-- Removes an entry. -/
def remove (key : String) : Program (EntryCall V) Unit := put key none 0

/-- Sets the time at which a live entry expires. -/
def expire (key : String) (time : Int64) : Program (EntryCall V) Unit :=
  .ofCall (EntryCall.expire key time)

/-- The keys of the live entries, or of those that hold a value. -/
def keys (value : Option V) : Program (EntryCall V) (List String) := .ofCall (EntryCall.keys value)

/-- Replaces the live value if it is the expected one. -/
def compareAndSet (key : String) (expect : Option V) (update : V) : Program (EntryCall V) Bool :=
  .ofCall (EntryCall.compareAndSet key expect update)

/-- Adds to the value under a key, an absent one counting as zero, and gives the
new value.  The addition is tried again as long as the value changes in between;
`none` means that all attempts were used up. -/
def increment (key : String) (delta : Int64) : Nat → Program (EntryCall Int64) (Option Int64)
  | 0 => pure none
  | attempts + 1 => do
    let current ← value? key
    let next := current.getD 0 + delta
    let stored ← compareAndSet key current next
    if stored then pure (some next) else increment key delta attempts

end Entries

end TieredStore
