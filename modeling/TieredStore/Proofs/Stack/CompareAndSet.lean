import TieredStore.Proofs.Stack.Effects
import TieredStore.Proofs.Stack.GuardedLayers

/-!
# Compare-and-set of a whole stack

A compare-and-set of a stack decides by the first live entry on the way through the layers,
whatever else the layers hold: nothing, an expired entry or another live one.  If it succeeds,
the front layer takes the value first, the lower layers get it without a time of expiry, and at
last all layers get the time of expiry of the entry that was seen.

Main results:

- Theorem `GuardedStack.run_writeThrough`: where a value is written through to if layers may
  refuse calls.
- Theorem `GuardedStack.compareAndSet_undisturbed`: what a compare-and-set returns and leaves in
  the layers if nothing is refused.
-/

namespace TieredStore

/-- A time of expiry that has not come is the same when it is set again. -/
theorem EntryTable.expire_expire {V : Type} {now time : Int64} (key : String)
    (htime : ∀ value : V, (⟨value, time⟩ : Entry V).isExpired now = false)
    (table : EntryTable V) :
    (table.expire now key time).expire now key time = table.expire now key time := by
  cases hget : table.get? key with
  | none => simp [expire, hget]
  | some entry =>
    cases hexpired : entry.isExpired now with
    | true => simp [expire, hget, hexpired]
    | false =>
      have honce : table.expire now key time = table.insert key ⟨entry.value, time⟩ := by
        simp [expire, hget, hexpired]
      rw [honce]
      exact table.expire_insert_self now key (htime entry.value) time

namespace GuardedStack

section Tables

variable {V : Type} (stack : GuardedStack (EntryTable V))
  (tables : Ref (EntryTable V) → EntryTable V) (now : Int64) (key : String)

/-- The first live entry on the way through the layers. -/
def firstLive? : Option (Entry V) :=
  stack.layers.findSome? fun layer => (tables layer.table).live? now key

/-- The time of expiry of the first live entry, or none. -/
def visibleExpiry : Int64 := ((stack.firstLive? tables now key).map (·.expiresAt)).getD 0

/-- The time of expiry of the first live entry has not come. -/
theorem isExpired_of_visible (value : V) :
    (⟨value, stack.visibleExpiry tables now key⟩ : Entry V).isExpired now = false := by
  have hvisible := EntryCall.isExpired_of_visible now key (stack.layers.map (·.table)) tables value
  rwa [EntryCall.visibleExpiry, List.findSome?_map] at hvisible

/-- The tables after the front layer has taken a value. -/
def takenAtFront (value : V) : Ref (EntryTable V) → EntryTable V :=
  Function.update tables stack.front.table ((tables stack.front.table).insert key
    ⟨value, (((tables stack.front.table).live? now key).map (·.expiresAt)).getD 0⟩)

/-- The tables after a value has been put into the lower layers up to the first refusal. -/
def putBelow (s : Storage) (value : V) : Ref (EntryTable V) → EntryTable V :=
  Stack.changeAt (GuardedStore.reachedTables stack.lower s "put")
    (fun table => table.insert key ⟨value, 0⟩) tables

/-- Once the front layer has taken a value and the lower layers have been given it, it is in all
layers, with the visible time of expiry or with none yet. -/
theorem changeAt_lower_takenAtFront (value : V) (ref : Ref (EntryTable V)) :
    ∃ expiresAt, (expiresAt = 0 ∨ expiresAt = stack.visibleExpiry tables now key) ∧
      Stack.changeAt (stack.lower.map (·.table)) (fun table => table.insert key ⟨value, 0⟩)
        (stack.takenAtFront tables now key value) ref =
      Stack.changeAt (stack.layers.map (·.table))
        (fun table => table.insert key ⟨value, expiresAt⟩) tables ref := by
  by_cases hlower : ref ∈ stack.lower.map (·.table)
  · refine ⟨0, .inl rfl, ?_⟩
    have hmem : ref ∈ stack.layers.map (·.table) := List.mem_cons_of_mem _ hlower
    rw [Stack.changeAt, Stack.changeAt, if_pos hlower, if_pos hmem, takenAtFront]
    by_cases hfront : ref = stack.front.table
    · rw [hfront, Function.update_self, SortedMap.insert_insert]
    · rw [Function.update_of_ne hfront]
  · have hexpiry : (((tables stack.front.table).live? now key).map (·.expiresAt)).getD 0 = 0 ∨
        (((tables stack.front.table).live? now key).map (·.expiresAt)).getD 0 =
          stack.visibleExpiry tables now key := by
      rw [visibleExpiry, firstLive?, layers, List.findSome?_cons]
      cases (tables stack.front.table).live? now key with
      | none => exact .inl rfl
      | some entry => exact .inr rfl
    refine ⟨_, hexpiry, ?_⟩
    rw [Stack.changeAt, if_neg hlower, takenAtFront]
    by_cases hfront : ref = stack.front.table
    · simp [Stack.changeAt, layers, hfront]
    · have hmem : ref ∉ stack.layers.map (·.table) := by
        simpa [layers, hfront] using hlower
      rw [Function.update_of_ne hfront, Stack.changeAt, if_neg hmem]

/-- If no time of expiry was visible, all layers have what they are to have by then. -/
theorem changeAt_lower_of_unlimited (hzero : stack.visibleExpiry tables now key = 0) (value : V) :
    Stack.changeAt (stack.lower.map (·.table)) (fun table => table.insert key ⟨value, 0⟩)
        (stack.takenAtFront tables now key value) =
      Stack.changeAt (stack.layers.map (·.table))
        (fun table => table.insert key ⟨value, stack.visibleExpiry tables now key⟩) tables := by
  funext ref
  obtain ⟨expiresAt, hexpiresAt, hwritten⟩ :=
    stack.changeAt_lower_takenAtFront tables now key value ref
  have hsame : expiresAt = 0 := hexpiresAt.elim id (·.trans hzero)
  rw [hwritten, hsame, hzero]

/-- Otherwise they have it when the time of expiry is set in all of them. -/
theorem changeAt_expire (value : V) :
    Stack.changeAt (stack.layers.map (·.table))
        (fun table => table.expire now key (stack.visibleExpiry tables now key))
        (Stack.changeAt (stack.lower.map (·.table)) (fun table => table.insert key ⟨value, 0⟩)
          (stack.takenAtFront tables now key value)) =
      Stack.changeAt (stack.layers.map (·.table))
        (fun table => table.insert key ⟨value, stack.visibleExpiry tables now key⟩) tables := by
  funext ref
  obtain ⟨expiresAt, hexpiresAt, hwritten⟩ :=
    stack.changeAt_lower_takenAtFront tables now key value ref
  have hlive : (⟨value, expiresAt⟩ : Entry V).isExpired now = false := by
    rcases hexpiresAt with rfl | rfl
    · exact Entry.isExpired_of_unlimited rfl _
    · exact stack.isExpired_of_visible tables now key value
  unfold Stack.changeAt at hwritten ⊢
  rw [hwritten]
  by_cases hmem : ref ∈ stack.layers.map (·.table)
  · simp only [if_pos hmem]
    exact EntryTable.expire_insert_self _ _ _ hlive _
  · simp only [if_neg hmem]

end Tables

variable {V : Type} [DecidableEq V] [Stored (EntryTable V)] [EntryValue V]
  {stack : GuardedStack (EntryTable V)} {s : Storage} {key : String}
  {tables : Ref (EntryTable V) → EntryTable V}

/-! ## Calls to single layers -/

/-- A layer that does not refuse a call answers it from its table of entries. -/
theorem run_entryCall {place : Nat} {call : EntryCall V}
    (hadmits : (stack.layer place).refuses s call.name = false) :
    ((Program.ofCall call).at place).run (stack.answerOn s) tables =
      ((EntryTable.answer s.clock call (tables (stack.layer place).table)).1,
        Function.update tables (stack.layer place).table
          (EntryTable.answer s.clock call (tables (stack.layer place).table)).2) :=
  run_of_admits hadmits rfl

section GoodKey

variable (hkey : checkKey key = .ok ())

include hkey

/-- A layer that does not refuse a look-up gives the live entry of its table. -/
theorem run_lookUp_at {place : Nat}
    (hadmits : (stack.layer place).refuses s "get_entry" = false) :
    ((Entries.entry? key).at place).run (stack.answerOn s) tables =
      (.ok ((tables (stack.layer place).table).live? s.clock key), tables) := by
  rw [Entries.entry?, run_entryCall hadmits, EntryTable.answer_get_of_key _ _ hkey,
    Function.update_eq_self]

/-- A layer that does not refuse a compare-and-set replaces its live value if that is the expected
one. -/
theorem run_compareAndSet_at {place : Nat}
    (hadmits : (stack.layer place).refuses s "compare_and_set" = false) (update : V) :
    ((Entries.compareAndSet key (((tables (stack.layer place).table).live? s.clock key).map
        (·.value)) update).at place).run (stack.answerOn s) tables =
      (.ok true, Function.update tables (stack.layer place).table
        ((tables (stack.layer place).table).insert key ⟨update,
          (((tables (stack.layer place).table).live? s.clock key).map (·.expiresAt)).getD 0⟩)) := by
  rw [Entries.compareAndSet, run_entryCall hadmits, EntryTable.answer_compareAndSet _ _ hkey,
    if_pos rfl]

/-- A put is a single call that inserts an entry. -/
theorem changes_put (value : V) (ttl : UInt64) :
    stack.Changes s (Entries.put key (some value) ttl) "put"
      fun table => table.insert key (Entry.withTtl value ttl s.clock) where
  refused hrefuses tables := run_of_refuses hrefuses tables
  admitted hadmits tables := by
    rw [Entries.put, run_entryCall hadmits, EntryTable.answer_put _ _ hkey]
    rfl

/-- Setting a time of expiry is a single call. -/
theorem changes_expire (time : Int64) :
    stack.Changes s (Entries.expire key time : Program (EntryCall V) Unit) "set_expiry"
      fun table => table.expire s.clock key time where
  refused hrefuses tables := run_of_refuses hrefuses tables
  admitted hadmits tables := by
    rw [Entries.expire, run_entryCall hadmits, EntryTable.answer_expire _ _ hkey]

/-! ## Writing through -/

/-- A value is put into the lower layers up to the first refusal.  If there is none and the value
has a time of expiry, this is set in all layers up to the first refusal. -/
theorem run_writeThrough {time : Int64}
    (htime : ∀ value : V, (⟨value, time⟩ : Entry V).isExpired s.clock = false) (value : V) :
    (Stack.writeThrough key value time 0 (Stack.lowerPlaces stack.lower.length)).run
        (stack.answerOn s) tables =
      match stack.lower.find? (·.refuses s "put") with
      | some layer =>
        (.error (layer.down (EntryCall V) "put"), stack.putBelow tables key s value)
      | none =>
        if time = 0 then (.ok true, stack.putBelow tables key s value)
        else
          (match stack.layers.find? (·.refuses s "set_expiry") with
            | some layer => .error (layer.down (EntryCall V) "set_expiry")
            | none => .ok true,
          Stack.changeAt (GuardedStore.reachedTables stack.layers s "set_expiry")
            (fun table => table.expire s.clock key time)
            (stack.putBelow tables key s value)) := by
  have hput : stack.Changes s (Entries.put key (some value) 0) "put"
      fun table => table.insert key ⟨value, 0⟩ := changes_put hkey value 0
  have hexpire : stack.Changes s (Entries.expire key time : Program (EntryCall V) Unit) "set_expiry"
      fun table => table.expire s.clock key time := changes_expire hkey time
  rw [Stack.writeThrough, Program.run_bind, Action.bind_apply,
    hput.run_fanOut (fun table => table.insert_insert key _ _), map_layer_lowerPlaces]
  cases stack.lower.find? (·.refuses s "put") with
  | some layer => rfl
  | none =>
    dsimp only
    by_cases hzero : time = 0
    · rw [if_pos hzero, if_pos hzero]
      rfl
    · rw [if_neg hzero, if_neg hzero, Program.run_bind, Action.bind_apply,
        hexpire.run_fanOut (EntryTable.expire_expire key htime), map_layer_places]
      cases stack.layers.find? (·.refuses s "set_expiry") with
      | some layer => rfl
      | none => rfl

/-! ## The calls of a compare-and-set -/

/-- If the front layer does not refuse to be read, it is set when the visible value is the expected
one, and then the new value is written through. -/
theorem run_compareAndSet_of_visible (hread : stack.front.refuses s "get_entry" = false)
    {visible : Option (Entry V)}
    (hvisible : (Stack.visibleEntry ((tables stack.front.table).live? s.clock key) key
      (Stack.lowerPlaces stack.lower.length)).run (stack.answerOn s) tables = (.ok visible, tables))
    (expect : Option V) (update : V) :
    (Stack.compareAndSet key expect update 0 (Stack.lowerPlaces stack.lower.length)).run
        (stack.answerOn s) tables =
      if visible.map (·.value) = expect then
        if stack.front.refuses s "compare_and_set" then
          (.error (stack.front.down (EntryCall V) "compare_and_set"), tables)
        else
          (Stack.writeThrough key update ((visible.map (·.expiresAt)).getD 0) 0
            (Stack.lowerPlaces stack.lower.length)).run (stack.answerOn s)
            (stack.takenAtFront tables s.clock key update)
      else (.ok false, tables) := by
  have hown : ((Entries.entry? key).at 0).run (stack.answerOn s) tables =
      (.ok ((tables stack.front.table).live? s.clock key), tables) := run_lookUp_at hkey hread
  rw [Stack.compareAndSet, Program.run_bind, Action.bind_apply, hown]
  dsimp only
  rw [Program.run_bind, Action.bind_apply, hvisible]
  dsimp only
  by_cases hmatch : visible.map (·.value) = expect
  · rw [if_pos hmatch, if_pos hmatch, Program.run_bind, Action.bind_apply]
    cases htake : (stack.layer 0).refuses s "compare_and_set" with
    | true =>
      have hrefused : ((Entries.compareAndSet key
          (((tables stack.front.table).live? s.clock key).map (·.value)) update).at 0).run
          (stack.answerOn s) tables =
          (.error (stack.front.down (EntryCall V) "compare_and_set"), tables) :=
        run_of_refuses htake tables
      have htake' : stack.front.refuses s "compare_and_set" = true := htake
      rw [hrefused, if_pos htake']
    | false =>
      have htaken : ((Entries.compareAndSet key
          (((tables stack.front.table).live? s.clock key).map (·.value)) update).at 0).run
          (stack.answerOn s) tables = (.ok true, stack.takenAtFront tables s.clock key update) :=
        run_compareAndSet_at hkey htake update
      have htake' : ¬stack.front.refuses s "compare_and_set" = true := Bool.eq_false_iff.1 htake
      rw [htaken, if_neg htake']
      rfl
  · rw [if_neg hmatch, if_neg hmatch]
    rfl

/-! ## Layers that refuse nothing -/

/-- A look-up through layers that do not refuse it gives the first live entry. -/
theorem run_firstEntry (hadmits : ∀ layer ∈ stack.layers, layer.refuses s "get_entry" = false)
    (places : List Nat) :
    (Stack.firstHit (Entries.entry? key) places).run (stack.answerOn s) tables =
      (.ok ((places.map stack.layer).findSome? fun layer =>
        (tables layer.table).live? s.clock key), tables) :=
  run_firstHit (fun table : EntryTable V => table.live? s.clock key) fun place _ =>
    run_lookUp_at hkey (hadmits _ (stack.layer_mem place))

/-- The visible entry is found, given what the front layer has. -/
theorem run_visibleEntry (hadmits : ∀ layer ∈ stack.layers, layer.refuses s "get_entry" = false) :
    (Stack.visibleEntry ((tables stack.front.table).live? s.clock key) key
        (Stack.lowerPlaces stack.lower.length)).run (stack.answerOn s) tables =
      (.ok (stack.firstLive? tables s.clock key), tables) := by
  rw [firstLive?, layers, List.findSome?_cons, Stack.visibleEntry]
  cases (tables stack.front.table).live? s.clock key with
  | some entry => rfl
  | none =>
    have hlower : (Stack.firstHit (Entries.entry? key)
        (Stack.lowerPlaces stack.lower.length)).run (stack.answerOn s) tables = _ :=
      run_firstEntry hkey hadmits _
    rwa [map_layer_lowerPlaces] at hlower

/-- If no layer refuses calls, a value that the front layer has taken ends up in all layers, with
the time of expiry that was visible. -/
theorem run_writeThrough_takenAtFront
    (hadmits : ∀ layer ∈ stack.layers, ∀ call, layer.refuses s call = false) (update : V) :
    (Stack.writeThrough key update (stack.visibleExpiry tables s.clock key) 0
        (Stack.lowerPlaces stack.lower.length)).run (stack.answerOn s)
        (stack.takenAtFront tables s.clock key update) =
      (.ok true, Stack.changeAt (stack.layers.map (·.table))
        (fun table => table.insert key ⟨update, stack.visibleExpiry tables s.clock key⟩) tables) := by
  have hlower : ∀ layer ∈ stack.lower, layer.refuses s "put" = false := fun layer hlayer =>
    hadmits layer (List.mem_cons_of_mem _ hlayer) _
  have hall : ∀ layer ∈ stack.layers, layer.refuses s "set_expiry" = false := fun layer hlayer =>
    hadmits layer hlayer _
  have hlive := stack.isExpired_of_visible tables s.clock key
  rw [run_writeThrough hkey hlive, putBelow, GuardedStore.reachedTables_eq hlower,
    GuardedStore.reachedTables_eq hall,
    List.find?_eq_none.2 fun layer hlayer => by simp [hlower layer hlayer],
    List.find?_eq_none.2 fun layer hlayer => by simp [hall layer hlayer]]
  dsimp only
  by_cases hzero : stack.visibleExpiry tables s.clock key = 0
  · rw [if_pos hzero, stack.changeAt_lower_of_unlimited tables s.clock key hzero]
  · rw [if_neg hzero, stack.changeAt_expire]

/-- If no layer refuses calls, a compare-and-set gives the new value and the time of expiry that
was visible to all layers, or changes nothing. -/
theorem run_compareAndSet
    (hadmits : ∀ layer ∈ stack.layers, ∀ call, layer.refuses s call = false)
    (expect : Option V) (update : V) :
    (Stack.compareAndSet key expect update 0 (Stack.lowerPlaces stack.lower.length)).run
        (stack.answerOn s) tables =
      if (stack.firstLive? tables s.clock key).map (·.value) = expect then
        (.ok true, Stack.changeAt (stack.layers.map (·.table))
          (fun table => table.insert key ⟨update, stack.visibleExpiry tables s.clock key⟩) tables)
      else (.ok false, tables) := by
  have hfront : ∀ call, ¬stack.front.refuses s call = true := fun call =>
    Bool.eq_false_iff.1 (hadmits _ List.mem_cons_self call)
  have hvisible : (Stack.visibleEntry ((tables stack.front.table).live? s.clock key) key
      (Stack.lowerPlaces stack.lower.length)).run (stack.answerOn s) tables = _ :=
    run_visibleEntry hkey fun layer hlayer => hadmits layer hlayer _
  rw [run_compareAndSet_of_visible hkey (hadmits _ List.mem_cons_self _) hvisible,
    if_neg (hfront "compare_and_set")]
  exact if_congr Iff.rfl (run_writeThrough_takenAtFront hkey hadmits update) rfl

end GoodKey

/-! ## The whole call -/

/-- What a compare-and-set of a stack of stores in memory comes to, whatever the layers hold, if
nothing is refused and there are no rivals: it succeeds exactly if the first live entry on the way
through the layers has the expected value, or there is none and none is expected.  On success all
layers have the new value with the time of expiry of that entry, and are otherwise unchanged; else
nothing has changed. -/
theorem compareAndSet_undisturbed [StoredApart (EntryTable V)] (stack : GuardedStack (EntryTable V))
    {s : Storage} (holds : ∀ layer ∈ stack.layers, s.Holds layer.table)
    (undisturbed : ∀ layer ∈ stack.layers, ∀ guard ∈ layer.guards,
      (s.cell guard).refused = [] ∧ (s.cell guard).rival = none)
    {key : String} (hkey : key ≠ "") (expect : Option V) (update : V) :
    let seen := stack.layers.findSome? fun layer =>
      EntryTable.live? (s.cell layer.table) s.clock key
    let after := EntryStore.run (stack.store (EntryCall V))
      (Entries.compareAndSet key expect update) s
    after.1 = .ok (decide (seen.map (·.value) = expect)) ∧
      (after.1 = .ok true → ∀ layer ∈ stack.layers,
        (after.2.cell layer.table).get? key =
            some ⟨update, (seen.map (·.expiresAt)).getD 0⟩ ∧
          ∀ other, other ≠ key →
            (after.2.cell layer.table).get? other = (s.cell layer.table).get? other) ∧
      (after.1 = .ok false → ∀ ref : Ref (EntryTable V), after.2.cell ref = s.cell ref) := by
  intro seen after
  have ready : stack.Ready s := ⟨holds, fun layer hlayer guard hguard =>
    (undisturbed layer hlayer guard hguard).2⟩
  have hadmits : ∀ layer ∈ stack.layers, ∀ call, layer.refuses s call = false := by
    intro layer hlayer call
    rw [GuardedStore.refuses, List.any_eq_false]
    intro guard hguard
    simp [Guard.refuses, (undisturbed layer hlayer guard hguard).1]
  obtain ⟨hresult, htables⟩ := ready.perform (EntryCall.compareAndSet key expect update)
  rw [show (stack.store (EntryCall V)).perform (EntryCall.compareAndSet key expect update) s =
    after from (congrFun (Program.run_ofCall _ _) s).symm] at hresult htables
  have hcell := htables.cell
  rw [show StoreKind.throughLayers stack.lower.length (EntryCall.compareAndSet key expect update) =
      Stack.compareAndSet key expect update 0 (Stack.lowerPlaces stack.lower.length) from rfl,
    run_compareAndSet (checkKey_of_ne hkey) hadmits] at hresult hcell
  by_cases hmatch : (stack.firstLive? s.cell s.clock key).map (·.value) = expect
  · rw [if_pos hmatch] at hresult hcell
    have hok : after.1 = .ok true := hresult
    refine ⟨hok.trans (congrArg Except.ok (decide_eq_true hmatch).symm), fun _ layer hlayer => ?_,
      fun hfalse => absurd (hok.symm.trans hfalse) (by simp)⟩
    have htable : after.2.cell layer.table = (s.cell layer.table).insert key
        ⟨update, stack.visibleExpiry s.cell s.clock key⟩ :=
      (hcell layer.table).trans (if_pos (List.mem_map_of_mem hlayer))
    rw [htable]
    exact ⟨SortedMap.get?_insert_self _ _ _, fun other hne => SortedMap.get?_insert_of_ne _ _ hne⟩
  · rw [if_neg hmatch] at hresult hcell
    have hok : after.1 = .ok false := hresult
    exact ⟨hok.trans (congrArg Except.ok (decide_eq_false hmatch).symm),
      fun htrue => absurd (hok.symm.trans htrue) (by simp), fun _ => hcell⟩

/-- Three layers that have gone apart: the entry of the front layer has expired, the one behind it
is visible and has a time of expiry, and the back layer has an older value and another key. -/
theorem compareAndSet_undisturbed_apart :
    let stack : GuardedStack (EntryTable Int64) :=
      ⟨"stack", ⟨⟨"front", ⟨0⟩⟩, []⟩, [⟨⟨"middle", ⟨1⟩⟩, [⟨0⟩]⟩, ⟨⟨"back", ⟨2⟩⟩, []⟩]⟩
    let s : Storage :=
      { counters := ⟨#[.ofList [("k", ⟨1, 5⟩)], .ofList [("k", ⟨2, 9⟩)],
          .ofList [("k", ⟨3, 0⟩), ("l", ⟨4, 0⟩)]]⟩
        guards := ⟨#[{}]⟩
        clock := 7 }
    let seen := stack.layers.findSome? fun layer =>
      EntryTable.live? (s.cell layer.table) s.clock "k"
    let after := EntryStore.run (stack.store (EntryCall Int64))
      (Entries.compareAndSet "k" (some 2) 6) s
    (∀ layer ∈ stack.layers, s.Holds layer.table) ∧
      (∀ layer ∈ stack.layers, ∀ guard ∈ layer.guards,
        (s.cell guard).refused = [] ∧ (s.cell guard).rival = none) ∧
      "k" ≠ "" ∧
      after.1 = .ok (decide (seen.map (·.value) = some 2)) ∧
      (after.1 = .ok true → ∀ layer ∈ stack.layers,
        (after.2.cell layer.table).get? "k" = some ⟨6, (seen.map (·.expiresAt)).getD 0⟩ ∧
          ∀ other, other ≠ "k" →
            (after.2.cell layer.table).get? other = (s.cell layer.table).get? other) ∧
      (after.1 = .ok false → ∀ ref : Ref (EntryTable Int64), after.2.cell ref = s.cell ref) := by
  intro stack s seen after
  have holds : ∀ layer ∈ stack.layers, s.Holds layer.table := by decide
  have undisturbed : ∀ layer ∈ stack.layers, ∀ guard ∈ layer.guards,
      (s.cell guard).refused = [] ∧ (s.cell guard).rival = none := by decide
  have hkey : "k" ≠ "" := by decide
  exact ⟨holds, undisturbed, hkey,
    compareAndSet_undisturbed stack holds undisturbed hkey (some 2) 6⟩

end GuardedStack

end TieredStore
