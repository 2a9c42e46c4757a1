import TieredStore.Proofs.Stack.LookUps

/-!
# Lifetimes

A value that is put with a lifetime should be visible until the lifetime has passed, and not after
that.  Two things can come in between.  A lifetime is cut off at the latest time before it is added
to the time of the put, which is too early when that time is negative.  And an entry whose lifetime
passes at time zero never expires, since zero stands for no time of expiry.

Main results:

- Theorem `toInt_expiryFromTtl`: the time of expiry as a sum of integers.
- Theorem `Entry.forall_isExpired_withTtl_iff`: when an entry expires at the end of its lifetime.
- Theorem `EntryBase.run_value?_of_put`: what a store in memory shows of a value that was put.
- Theorem `EntryBase.livesOut_iff`: when a store in memory shows a value for its lifetime and no
  longer.
-/

namespace TieredStore

/-! ## Times of expiry as integers -/

/-- The nearest integer of 64 signed bits lies between the smallest and the largest one. -/
theorem toInt_saturate (i : Int) :
    (saturate i).toInt = max Int64.minValue.toInt (min i Int64.maxValue.toInt) := by
  unfold saturate
  have hmin := Int64.toInt_minValue
  have hmax := Int64.toInt_maxValue
  split
  · omega
  · split
    · omega
    · rw [Int64.toInt_ofInt_of_le (by omega) (by omega)]
      omega

/-- The end of a lifetime, or the latest time if that comes first. -/
def endOfLife (now : Int64) (ttl : UInt64) : Int :=
  min (now.toInt + ttl.toNat) Int64.maxValue.toInt

variable {now : Int64} {ttl : UInt64}

/-- A lifetime is cut off at the latest time, and once more when it is added to the present. -/
theorem toInt_expiryFromTtl (httl : ttl ≠ 0) :
    (expiryFromTtl ttl now).toInt =
      min (now.toInt + min (ttl.toNat : Int) Int64.maxValue.toInt) Int64.maxValue.toInt := by
  have hnow := now.le_toInt
  rw [expiryFromTtl, if_neg httl, toInt_saturate, Int64.toInt_minValue, Int64.toInt_maxValue]
  omega

/-- The time of expiry comes at the end of the lifetime at the latest. -/
theorem toInt_expiryFromTtl_le (httl : ttl ≠ 0) :
    (expiryFromTtl ttl now).toInt ≤ endOfLife now ttl := by
  rw [toInt_expiryFromTtl httl, endOfLife, Int64.toInt_maxValue]
  omega

/-- The time of expiry does not lie in the past. -/
theorem le_expiryFromTtl (httl : ttl ≠ 0) : now ≤ expiryFromTtl ttl now := by
  have hnow := now.toInt_lt
  rw [Int64.le_iff_toInt_le, toInt_expiryFromTtl httl, Int64.toInt_maxValue]
  omega

/-- The time of expiry is the end of the lifetime unless the present is negative and the lifetime
is cut off. -/
theorem toInt_expiryFromTtl_eq_iff (httl : ttl ≠ 0) :
    (expiryFromTtl ttl now).toInt = endOfLife now ttl ↔
      0 ≤ now ∨ ttl.toNat ≤ Int64.maxValue.toInt := by
  rw [toInt_expiryFromTtl httl, endOfLife, Int64.le_iff_toInt_le, Int64.toInt_zero,
    Int64.toInt_maxValue]
  omega

/-! ## Entries with a lifetime -/

namespace Entry

variable {V : Type} (value : V)

/-- An entry has expired if it has a time of expiry and that time has come. -/
theorem isExpired_iff (entry : Entry V) (time : Int64) :
    entry.isExpired time = true ↔
      entry.expiresAt.toInt ≠ 0 ∧ entry.expiresAt.toInt ≤ time.toInt := by
  simp [isExpired, Int64.le_iff_toInt_le, ← Int64.toInt_inj]

/-- An entry expires at the end of its lifetime exactly if that is not at time zero and nothing of
the lifetime is cut off at a negative time. -/
theorem forall_isExpired_withTtl_iff (httl : ttl ≠ 0) :
    (∀ time, now ≤ time →
      ((withTtl value ttl now).isExpired time = true ↔ endOfLife now ttl ≤ time.toInt)) ↔
      now.toInt + ttl.toNat ≠ 0 ∧ (0 ≤ now ∨ ttl.toNat ≤ Int64.maxValue.toInt) := by
  have hzero : now.toInt + ttl.toNat ≠ 0 ↔ endOfLife now ttl ≠ 0 := by
    rw [endOfLife, Int64.toInt_maxValue]
    omega
  have hlatest : endOfLife now ttl ≤ Int64.maxValue.toInt := Int.min_le_right _ _
  rw [← toInt_expiryFromTtl_eq_iff httl, hzero]
  simp only [isExpired_iff, withTtl]
  constructor
  · intro hexpires
    -- At the latest time the entry has expired, so it has a time of expiry.
    have hlimited := ((hexpires _ now.le_maxValue).2 hlatest).1
    -- At that time its lifetime has passed.
    have hpassed := (hexpires _ (le_expiryFromTtl httl)).1 ⟨hlimited, Int.le_refl _⟩
    have heq := Int.le_antisymm (toInt_expiryFromTtl_le httl) hpassed
    exact ⟨heq ▸ hlimited, heq⟩
  · rintro ⟨hne, heq⟩ time -
    rw [heq]
    exact and_iff_right hne

end Entry

/-! ## Stores in memory -/

namespace EntryBase

variable {V : Type} [DecidableEq V] [Stored (EntryTable V)] [StoredApart (EntryTable V)]
  [EntryValue V] (store : EntryBase V) {s : Storage} {key : String} (value : V)

omit [StoredApart (EntryTable V)] in
/-- A look-up reads the live entry of the table. -/
theorem run_value? (hkey : checkKey key = .ok ()) (s : Storage) :
    (EntryStore.run (.base store) (Entries.value? key) s).1 =
      .ok (((s.cell store.table).live? s.clock key).map (·.value)) := by
  rw [EntryStore.run_value?, EntryStore.perform_memory]
  have hanswer := congrArg Prod.fst ((s.cell store.table).answer_get_of_key s.clock hkey)
  rw [show (store.answer (.get key) s).1 = _ from hanswer]
  rfl

/-- A put stores the entry in the table. -/
theorem run_put (hholds : s.Holds store.table) (hkey : checkKey key = .ok ()) :
    (EntryStore.run (.base store) (Entries.put key (some value) ttl) s).1 = .ok () ∧
      (EntryStore.run (.base store) (Entries.put key (some value) ttl) s).2.cell store.table =
        (s.cell store.table).insert key (Entry.withTtl value ttl s.clock) := by
  have hanswer := (s.cell store.table).answer_put s.clock hkey (some value) ttl
  have hrun : EntryStore.run (.base store) (Entries.put key (some value) ttl) s =
      Storage.onCell store.table (EntryTable.answer s.clock (.put key (some value) ttl)) s := by
    rw [EntryStore.run, Entries.put, Program.run_ofCall, EntryStore.perform_memory]
    rfl
  rw [hrun, Storage.onCell_apply, hanswer]
  exact ⟨rfl, Storage.cell_setCell_self _ hholds⟩

/-- As long as nothing else is written, a value that was put is visible until it expires. -/
theorem run_value?_of_put (hholds : s.Holds store.table) (hkey : checkKey key = .ok ())
    {later : Storage}
    (hsame : later.cell store.table =
      (EntryStore.run (.base store) (Entries.put key (some value) ttl) s).2.cell store.table) :
    (EntryStore.run (.base store) (Entries.value? key) later).1 =
      .ok (if (Entry.withTtl value ttl s.clock).isExpired later.clock then none
        else some value) := by
  rw [store.run_value? hkey, hsame, (store.run_put value hholds hkey).2,
    EntryTable.live?_insert_self, Option.filter_some]
  cases (Entry.withTtl value ttl s.clock).isExpired later.clock <;> rfl

/-- Whether a value that is put with a lifetime is visible until the lifetime has passed and absent
from then on, as long as nothing else is written. -/
def LivesOut (s : Storage) (key : String) (value : V) (ttl : UInt64) : Prop :=
  ∀ later : Storage, s.clock ≤ later.clock →
    later.cell store.table =
      (EntryStore.run (.base store) (Entries.put key (some value) ttl) s).2.cell store.table →
    (EntryStore.run (.base store) (Entries.value? key) later).1 =
      .ok (if later.clock.toInt < endOfLife s.clock ttl then some value else none)

/-- A put with a lifetime succeeds, and the value is visible until the lifetime has passed and
absent from then on, exactly if the lifetime does not pass at time zero and nothing of it is cut
off at a negative time. -/
theorem livesOut_iff (hholds : s.Holds store.table) (hkey : key ≠ "") (httl : ttl ≠ 0) :
    (EntryStore.run (.base store) (Entries.put key (some value) ttl) s).1 = .ok () ∧
      (store.LivesOut s key value ttl ↔
        s.clock.toInt + ttl.toNat ≠ 0 ∧ (0 ≤ s.clock ∨ ttl.toNat ≤ Int64.maxValue.toInt)) := by
  have hgood := checkKey_of_ne hkey
  refine ⟨(store.run_put value hholds hgood).1, ?_⟩
  rw [← Entry.forall_isExpired_withTtl_iff value httl]
  have hread : ∀ time : Int64,
      ((if (Entry.withTtl value ttl s.clock).isExpired time then none else some value) =
          if time.toInt < endOfLife s.clock ttl then some value else none) ↔
        ((Entry.withTtl value ttl s.clock).isExpired time = true ↔
          endOfLife s.clock ttl ≤ time.toInt) := by
    intro time
    rw [← Int.not_lt]
    split <;> split <;> simp_all
  constructor
  · intro hlives time htime
    let later : Storage :=
      { (EntryStore.run (.base store) (Entries.put key (some value) ttl) s).2 with clock := time }
    have hsame := Storage.cell_withClock
      (EntryStore.run (.base store) (Entries.put key (some value) ttl) s).2 time store.table
    have hlater := hlives later htime hsame
    rw [store.run_value?_of_put value hholds hgood hsame] at hlater
    exact (hread time).1 (Except.ok.inj hlater)
  · intro hexpires later hlater hsame
    rw [store.run_value?_of_put value hholds hgood hsame, (hread _).2 (hexpires _ hlater)]

/-- A lifetime from a negative time to a positive one is lived out. -/
theorem livesOut_iff_across_zero :
    let store : EntryBase Int64 := ⟨"table", ⟨0⟩⟩
    let s : Storage := { counters := ⟨#[∅]⟩, clock := -5 }
    s.Holds store.table ∧ "k" ≠ "" ∧ (100 : UInt64) ≠ 0 ∧
      (EntryStore.run (.base store) (Entries.put "k" (some 7) 100) s).1 = .ok () ∧
      store.LivesOut s "k" 7 100 := by
  intro store s
  have hholds : s.Holds store.table := by decide
  obtain ⟨hput, hlives⟩ := store.livesOut_iff 7 hholds (by decide : "k" ≠ "")
    (by decide : (100 : UInt64) ≠ 0)
  exact ⟨hholds, by decide, by decide, hput, hlives.2 (by decide)⟩

/-- A lifetime that passes at time zero does not end, and one that is cut off at a negative time
ends too early. -/
theorem not_livesOut :
    let store : EntryBase Int64 := ⟨"table", ⟨0⟩⟩
    let before : Int64 → Storage := fun time => { counters := ⟨#[∅]⟩, clock := time }
    ¬store.LivesOut (before (-5)) "k" 7 5 ∧
      ¬store.LivesOut (before (-10)) "k" 7 9223372036854775813 := by
  intro store before
  let after (time : Int64) (ttl : UInt64) (later : Int64) : Storage :=
    { (EntryStore.run (.base store) (Entries.put "k" (some 7) ttl) (before time)).2 with
      clock := later }
  constructor
  · intro hlives
    have hread := hlives (after (-5) 5 0) (by decide) rfl
    revert hread
    decide +kernel
  · intro hlives
    have hread := hlives (after (-10) 9223372036854775813 9223372036854775800) (by decide) rfl
    revert hread
    decide +kernel

end EntryBase

end TieredStore
