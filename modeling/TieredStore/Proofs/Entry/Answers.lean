import TieredStore.Entry.Table
import TieredStore.Proofs.Runs
import TieredStore.Proofs.SortedMap

/-!
# Answers of a table of entries

What a table of entries answers to each call, and what each change does to the live entries.
All of it depends on the live entries alone, so that tables with the same ones cannot be told
apart, now or later.

Main results:

- Theorem `EntryTable.compareAndSet_eq`: a compare-and-set that succeeds keeps the time of
  expiry of the live entry.
- Theorem `EntryTable.LooksLike.later`: an entry that is not live never comes back.
- Theorem `EntryTable.LooksLike.answer`: tables with the same live entries answer alike and
  are left with the same live entries.
-/

namespace TieredStore

/-- Of two insertions under one key the later one stays. -/
theorem SortedMap.insert_insert {κ ν : Type} [Ord κ] [Std.TransOrd κ] [Std.LawfulEqOrd κ]
    (m : SortedMap κ ν) (key : κ) (first second : ν) :
    (m.insert key first).insert key second = m.insert key second := by
  apply SortedMap.ext_get?
  intro other
  by_cases hkey : other = key
  · subst hkey
    rw [get?_insert_self, get?_insert_self]
  · rw [get?_insert_of_ne _ _ hkey, get?_insert_of_ne _ _ hkey, get?_insert_of_ne _ _ hkey]

/-- An entry that never expires has not expired. -/
theorem Entry.isExpired_of_unlimited {V : Type} {entry : Entry V} (h : entry.expiresAt = 0)
    (now : Int64) : entry.isExpired now = false := by
  simp [isExpired, h]

/-- Every key is good but the empty one. -/
theorem checkKey_of_ne {key : String} (h : key ≠ "") : checkKey key = .ok () := by
  simp [checkKey, h]

namespace EntryTable

variable {V : Type} (table : EntryTable V) (now : Int64) (key : String)

/-! ## Live entries -/

/-- A live entry is a stored one that has not expired. -/
theorem live?_eq_some_iff (entry : Entry V) :
    table.live? now key = some entry ↔
      table.get? key = some entry ∧ entry.isExpired now = false := by
  rw [live?, Option.filter_eq_some_iff, Bool.not_eq_true']

/-- An inserted entry is live unless it has expired. -/
theorem live?_insert_self (entry : Entry V) :
    live? (table.insert key entry) now key =
      (some entry).filter fun entry => !entry.isExpired now := by
  rw [live?, SortedMap.get?_insert_self]

/-- An insertion concerns its own key only. -/
theorem live?_insert_of_ne {other : String} (entry : Entry V) (hne : other ≠ key) :
    live? (table.insert key entry) now other = table.live? now other := by
  rw [live?, SortedMap.get?_insert_of_ne _ _ hne, live?]

/-- A removed entry is not live. -/
theorem live?_erase_self : live? (table.erase key) now key = none := by
  rw [live?, SortedMap.get?_erase_self, Option.filter_none]

/-- A removal concerns its own key only. -/
theorem live?_erase_of_ne {other : String} (hne : other ≠ key) :
    live? (table.erase key) now other = table.live? now other := by
  rw [live?, SortedMap.get?_erase_of_ne _ hne, live?]

/-- Under its own key, a new time of expiry is that of the live entry if there is one. -/
theorem live?_expire_self (time : Int64) :
    (table.expire now key time).live? now key =
      ((table.live? now key).map fun entry => { entry with expiresAt := time }).filter
        fun entry => !entry.isExpired now := by
  unfold expire
  cases hget : table.get? key with
  | none => simp [live?, hget]
  | some entry =>
    by_cases hexpired : entry.isExpired now = true
    · simp [hexpired, live?, hget, Option.filter_some]
    · simp [hexpired, live?, hget, Option.filter_some]

/-- A new time of expiry concerns its own key only. -/
theorem live?_expire_of_ne {other : String} (time : Int64) (hne : other ≠ key) :
    (table.expire now key time).live? now other = table.live? now other := by
  unfold expire
  split
  · rfl
  · split
    · exact table.live?_erase_of_ne now key hne
    · exact table.live?_insert_of_ne now key _ hne

/-- The time of expiry of an entry that was just inserted is the new one. -/
theorem expire_insert_self {entry : Entry V} (hlive : entry.isExpired now = false) (time : Int64) :
    expire (table.insert key entry) now key time =
      table.insert key { entry with expiresAt := time } := by
  simp only [expire, SortedMap.get?_insert_self, hlive]
  exact table.insert_insert key _ _

/-- What is live later is live now and has not expired until then. -/
theorem live?_later {later : Int64} (hle : now ≤ later) :
    table.live? later key = (table.live? now key).filter fun entry => !entry.isExpired later := by
  rw [live?, live?, Option.filter_filter]
  congr 1
  funext entry
  cases hnow : entry.isExpired now with
  | true =>
    rw [Entry.isExpired_of_le hle hnow]
    rfl
  | false => rfl

/-- An entry that never expires is live. -/
theorem live?_of_unlimited
    (hunlimited : ∀ entry, table.get? key = some entry → entry.expiresAt = 0) :
    table.live? now key = table.get? key := by
  rw [live?]
  cases hget : table.get? key with
  | none => rfl
  | some entry =>
    rw [Option.filter_some, Entry.isExpired_of_unlimited (hunlimited entry hget)]
    rfl

/-- The keys that are listed are those of the live entries that pass. -/
theorem mem_keysHolding_iff [DecidableEq V] (value : Option V) :
    key ∈ table.keysHolding now value ↔
      ∃ entry, table.live? now key = some entry ∧ value.all (entry.value == ·) = true := by
  rw [keysHolding, SortedMap.mem_keys_iff]
  refine exists_congr fun entry => ?_
  rw [SortedMap.get?_filter, Option.filter_eq_some_iff, live?_eq_some_iff, Bool.and_eq_true,
    Bool.not_eq_true']
  exact and_assoc.symm

/-- A compare-and-set succeeds exactly if the live value is the expected one, and keeps the
time of expiry of the live entry. -/
theorem compareAndSet_eq [DecidableEq V] (expect : Option V) (update : V) :
    table.compareAndSet now key expect update =
      if (table.live? now key).map (·.value) = expect then
        (true, table.insert key
          ⟨update, ((table.live? now key).map (·.expiresAt)).getD 0⟩)
      else (false, table) := by
  unfold compareAndSet
  cases table.live? now key with
  | none => cases expect <;> simp
  | some entry => cases expect <;> simp

/-- The time of expiry that a compare-and-set keeps has not come. -/
theorem isExpired_of_kept (value : V) :
    (⟨value, ((table.live? now key).map (·.expiresAt)).getD 0⟩ : Entry V).isExpired now =
      false := by
  cases hlive : table.live? now key with
  | none => exact Entry.isExpired_of_unlimited rfl now
  | some entry => exact ((table.live?_eq_some_iff now key entry).1 hlive).2

/-! ## Answers -/

/-- A call under a bad key fails and changes nothing. -/
theorem withKey_apply {α : Type} (x : Action (EntryTable V) α) :
    withKey key x table = match checkKey key with
      | .ok _ => x table
      | .error e => (.error e, table) := by
  refine (Action.bind_apply (Action.ofExcept (checkKey key)) (fun _ => x) table).trans ?_
  rw [Action.ofExcept_apply]
  cases checkKey key <;> rfl

/-- A read fails under a bad key, and changes nothing. -/
theorem answer_get [DecidableEq V] :
    answer now (.get key) table = ((checkKey key).map fun _ => table.live? now key, table) := by
  refine (table.withKey_apply key _).trans ?_
  cases checkKey key <;> rfl

/-- A call that fails changes nothing. -/
theorem answer_of_error [DecidableEq V] {call : EntryCall V} {e : StoreError}
    (h : (answer now call table).1 = .error e) : (answer now call table).2 = table := by
  have hkeyed : ∀ {α : Type} (key : String) (x : Action (EntryTable V) α),
      (∀ e, (x table).1 ≠ .error e) → (withKey key x table).1 = .error e →
        (withKey key x table).2 = table := by
    intro α key x hx h
    rw [withKey_apply] at h ⊢
    cases hkey : checkKey key with
    | error e => rfl
    | ok u =>
      rw [hkey] at h
      exact absurd h (hx e)
  cases call with
  | lifecycle op => cases op <;> cases h
  | get key => exact hkeyed key _ (fun _ h => nomatch h) h
  | put key value ttl => exact hkeyed key _ (fun _ h => nomatch h) h
  | expire key time => exact hkeyed key _ (fun _ h => nomatch h) h
  | keys value => cases h
  | compareAndSet key expect update => exact hkeyed key _ (fun _ h => nomatch h) h

section GoodKey

variable [DecidableEq V] {key} (hkey : checkKey key = .ok ())

include hkey

/-- A read gives the live entry. -/
theorem answer_get_of_key :
    answer now (.get key) table = (.ok (table.live? now key), table) := by
  rw [answer_get, hkey]
  rfl

/-- A value is stored, or the entry removed. -/
theorem answer_put (value : Option V) (ttl : UInt64) :
    answer now (.put key value ttl) table = (.ok (), table.put now key value ttl) := by
  refine (table.withKey_apply key _).trans ?_
  rw [hkey]
  rfl

/-- The time of expiry is set. -/
theorem answer_expire (time : Int64) :
    answer now (.expire key time) table = (.ok (), table.expire now key time) := by
  refine (table.withKey_apply key _).trans ?_
  rw [hkey]
  rfl

/-- The value is replaced if it is the expected one. -/
theorem answer_compareAndSet (expect : Option V) (update : V) :
    answer now (.compareAndSet key expect update) table =
      if (table.live? now key).map (·.value) = expect then
        (.ok true, table.insert key
          ⟨update, ((table.live? now key).map (·.expiresAt)).getD 0⟩)
      else (.ok false, table) := by
  refine (table.withKey_apply key _).trans ?_
  rw [hkey]
  dsimp only
  rw [compareAndSet_eq]
  split <;> rfl

end GoodKey

end EntryTable

/-! ## Calls that spare a key -/

/-- Whether a call leaves an entry alone that never expires. -/
def EntryCall.Spares {V : Type} (key : String) : EntryCall V → Prop
  | .lifecycle op => op = .setup ∨ op = .maintenance
  | .get _ => True
  | .put other _ _ => other ≠ key
  | .expire other _ => other ≠ key
  | .keys _ => True
  | .compareAndSet other _ _ => other ≠ key

namespace EntryTable

variable {V : Type} (table : EntryTable V) (now : Int64) (key : String)

/-- A call that spares a key leaves its entry alone. -/
theorem get?_answer_of_spares [DecidableEq V] {call : EntryCall V} (hspares : call.Spares key)
    (hunlimited : ∀ entry, table.get? key = some entry → entry.expiresAt = 0) :
    (answer now call table).2.get? key = table.get? key := by
  have hkeyed : ∀ {α : Type} (other : String) (x : Action (EntryTable V) α),
      (x table).2.get? key = table.get? key →
        (withKey other x table).2.get? key = table.get? key := by
    intro α other x hx
    rw [withKey_apply]
    cases checkKey other with
    | error e => rfl
    | ok u => exact hx
  cases call with
  | lifecycle op =>
    rcases hspares with rfl | rfl
    · rfl
    · -- Sweeping leaves the live entries.
      exact (table.get?_filter _ key).trans (table.live?_of_unlimited now key hunlimited)
  | get other => exact hkeyed other _ rfl
  | put other value ttl =>
    refine hkeyed other _ ?_
    cases value with
    | none => exact SortedMap.get?_erase_of_ne _ (Ne.symm hspares)
    | some value => exact SortedMap.get?_insert_of_ne _ _ (Ne.symm hspares)
  | expire other time =>
    refine hkeyed other _ ?_
    show (table.expire now other time).get? key = table.get? key
    unfold expire
    split
    · rfl
    · split
      · exact SortedMap.get?_erase_of_ne _ (Ne.symm hspares)
      · exact SortedMap.get?_insert_of_ne _ _ (Ne.symm hspares)
  | keys value => rfl
  | compareAndSet other expect update =>
    refine hkeyed other _ ?_
    rw [compareAndSet_eq]
    by_cases hmatch : (table.live? now other).map (·.value) = expect
    · rw [if_pos hmatch]
      exact SortedMap.get?_insert_of_ne _ _ (Ne.symm hspares)
    · rw [if_neg hmatch]

/-! ## Tables that look alike -/

/-- Whether two tables have the same live entries at a time. -/
def LooksLike (now : Int64) (a b : EntryTable V) : Prop :=
  ∀ key, a.live? now key = b.live? now key

variable {table now} {a b : EntryTable V}

/-- Sweeping is not noticed. -/
theorem looksLike_sweep : LooksLike now table (table.sweep now) :=
  fun key => (table.live?_sweep now key).symm

/-- An expired entry is as good as an absent one. -/
theorem looksLike_erase {entry : Entry V} (hstored : table.get? key = some entry)
    (hexpired : entry.isExpired now = true) : LooksLike now table (table.erase key) := by
  intro other
  by_cases hkey : other = key
  · subst hkey
    rw [live?_erase_self, live?, hstored]
    simp [hexpired]
  · rw [live?_erase_of_ne _ _ _ hkey]

namespace LooksLike

/-- An entry that is not live never comes back. -/
theorem later (h : LooksLike now a b) {later : Int64} (hle : now ≤ later) :
    LooksLike later a b := by
  intro key
  rw [a.live?_later now key hle, b.live?_later now key hle, h key]

/-- An insertion is noticed in the same way. -/
theorem insert (h : LooksLike now a b) (key : String) (entry : Entry V) :
    LooksLike now (a.insert key entry) (b.insert key entry) := by
  intro other
  by_cases hkey : other = key
  · subst hkey
    rw [live?_insert_self, live?_insert_self]
  · rw [live?_insert_of_ne _ _ _ _ hkey, live?_insert_of_ne _ _ _ _ hkey, h other]

/-- A removal is noticed in the same way. -/
theorem erase (h : LooksLike now a b) (key : String) :
    LooksLike now (SortedMap.erase a key) (SortedMap.erase b key) := by
  intro other
  by_cases hkey : other = key
  · subst hkey
    rw [live?_erase_self, live?_erase_self]
  · rw [live?_erase_of_ne _ _ _ hkey, live?_erase_of_ne _ _ _ hkey, h other]

/-- A new time of expiry is noticed in the same way. -/
theorem expire (h : LooksLike now a b) (key : String) (time : Int64) :
    LooksLike now (EntryTable.expire a now key time) (EntryTable.expire b now key time) := by
  intro other
  by_cases hkey : other = key
  · subst hkey
    rw [live?_expire_self, live?_expire_self, h other]
  · rw [live?_expire_of_ne _ _ _ _ hkey, live?_expire_of_ne _ _ _ _ hkey, h other]

/-- The same keys are listed. -/
theorem keysHolding_eq [DecidableEq V] (h : LooksLike now a b) (value : Option V) :
    a.keysHolding now value = b.keysHolding now value := by
  refine SortedMap.keys_eq_of_mem_iff (SortedMap.keys_ascending _) (SortedMap.keys_ascending _)
    fun key => ?_
  show key ∈ a.keysHolding now value ↔ key ∈ b.keysHolding now value
  rw [mem_keysHolding_iff, mem_keysHolding_iff, h key]

/-- Tables with the same live entries answer alike and are left with the same live
entries. -/
theorem answer [DecidableEq V] (h : LooksLike now a b) (call : EntryCall V) :
    (EntryTable.answer now call a).1 = (EntryTable.answer now call b).1 ∧
      LooksLike now (EntryTable.answer now call a).2 (EntryTable.answer now call b).2 := by
  have hkeyed : ∀ {α : Type} (key : String) (x : Action (EntryTable V) α),
      (x a).1 = (x b).1 ∧ LooksLike now (x a).2 (x b).2 →
        (withKey key x a).1 = (withKey key x b).1 ∧
          LooksLike now (withKey key x a).2 (withKey key x b).2 := by
    intro α key x hx
    rw [withKey_apply, withKey_apply]
    cases checkKey key with
    | error e => exact ⟨rfl, h⟩
    | ok u => exact hx
  cases call with
  | lifecycle op =>
    cases op with
    | setup => exact ⟨rfl, h⟩
    | destroy => exact ⟨rfl, fun _ => rfl⟩
    | clear => exact ⟨rfl, fun _ => rfl⟩
    | maintenance =>
      refine ⟨rfl, fun key => ?_⟩
      exact (a.live?_sweep now key).trans ((h key).trans (b.live?_sweep now key).symm)
  | get key => exact hkeyed key _ ⟨congrArg Except.ok (h key), h⟩
  | put key value ttl =>
    refine hkeyed key _ ⟨rfl, ?_⟩
    cases value with
    | none => exact h.erase key
    | some value => exact h.insert key _
  | expire key time => exact hkeyed key _ ⟨rfl, h.expire key time⟩
  | keys value => exact ⟨congrArg Except.ok (h.keysHolding_eq value), h⟩
  | compareAndSet key expect update =>
    refine hkeyed key _ ?_
    rw [compareAndSet_eq, compareAndSet_eq, h key]
    by_cases hmatch : (b.live? now key).map (·.value) = expect
    · rw [if_pos hmatch, if_pos hmatch]
      exact ⟨rfl, h.insert key _⟩
    · rw [if_neg hmatch, if_neg hmatch]
      exact ⟨rfl, h⟩

end LooksLike

end EntryTable

/-! ## Programs of a single call -/

namespace Entries

variable {V : Type} [DecidableEq V] {key : String} (table : EntryTable V) (now : Int64)

section GoodKey

variable (hkey : checkKey key = .ok ())

include hkey

/-- A read gives the live entry. -/
theorem run_get : (Entries.entry? key).run (EntryTable.answer now) table =
    (.ok (table.live? now key), table) :=
  (congrFun (Program.run_ofCall _ _) table).trans (table.answer_get_of_key now hkey)

/-- A value is stored, or the entry removed. -/
theorem run_put (value : Option V) (ttl : UInt64) :
    (put key value ttl).run (EntryTable.answer now) table =
      (.ok (), table.put now key value ttl) :=
  (congrFun (Program.run_ofCall _ _) table).trans (table.answer_put now hkey value ttl)

/-- The time of expiry is set. -/
theorem run_expire (time : Int64) :
    (expire key time).run (EntryTable.answer now) table =
      (.ok (), table.expire now key time) :=
  (congrFun (Program.run_ofCall _ _) table).trans (table.answer_expire now hkey time)

/-- The value is replaced if it is the expected one. -/
theorem run_compareAndSet (expect : Option V) (update : V) :
    (compareAndSet key expect update).run (EntryTable.answer now) table =
      if (table.live? now key).map (·.value) = expect then
        (.ok true, table.insert key
          ⟨update, ((table.live? now key).map (·.expiresAt)).getD 0⟩)
      else (.ok false, table) :=
  (congrFun (Program.run_ofCall _ _) table).trans
    (table.answer_compareAndSet now hkey expect update)

end GoodKey

/-- A read under a bad key fails. -/
theorem run_get_of_error {e : StoreError} (hkey : checkKey key = .error e) :
    (Entries.entry? key).run (EntryTable.answer now) table = (.error e, table) := by
  refine (congrFun (Program.run_ofCall _ _) table).trans ?_
  rw [EntryTable.answer_get, hkey]
  rfl

end Entries

namespace Entries

variable {key : String} (table : EntryTable Int64) (now : Int64)

/-- Nobody else changes a single table, so that the first attempt to add succeeds. -/
theorem run_increment (hkey : checkKey key = .ok ()) (delta : Int64) (attempts : Nat) :
    (increment key delta (attempts + 1)).run (EntryTable.answer now) table =
      (.ok (some (((table.live? now key).map (·.value)).getD 0 + delta)),
        table.insert key ⟨((table.live? now key).map (·.value)).getD 0 + delta,
          ((table.live? now key).map (·.expiresAt)).getD 0⟩) := by
  have hread : (value? key).run (EntryTable.answer now) table =
      (.ok ((table.live? now key).map (·.value)), table) := by
    rw [value?, Program.run_bind, Action.bind_apply, run_get table now hkey]
    rfl
  rw [increment, Program.run_bind, Action.bind_apply, hread]
  dsimp only
  rw [Program.run_bind, Action.bind_apply, run_compareAndSet table now hkey, if_pos rfl]
  rfl

/-- More attempts than one make no difference to a single table. -/
theorem run_increment_eq (key : String) (delta : Int64) (attempts : Nat) :
    (increment key delta (attempts + 1)).run (EntryTable.answer now) table =
      (increment key delta 1).run (EntryTable.answer now) table := by
  cases hkey : checkKey key with
  | ok u => rw [run_increment table now hkey, run_increment table now hkey]
  | error e =>
    have hread : (value? key).run (EntryTable.answer now) table = (.error e, table) := by
      rw [value?, Program.run_bind, Action.bind_apply, run_get_of_error table now hkey]
    rw [increment, increment, Program.run_bind, Program.run_bind, Action.bind_apply,
      Action.bind_apply, hread]

end Entries

end TieredStore
