import TieredStore.Proofs.Stack.CompareAndSet
import TieredStore.Proofs.Stack.LookUps

/-!
# Entries that lose their time of expiry

A compare-and-set of a stack puts the new value into the lower layers without a time of expiry,
and sets the time in all layers after that.  If a layer refuses one of these calls, the whole call
fails, and a lower layer may keep an entry that never expires.  The entry of the front layer hides
it until that one expires; from then on it is visible.

Main results:

- Theorem `GuardedStack.run_compareAndSet_of_held`: which refusals end the call before anything
  is written.
- Theorem `GuardedStack.expiry?_writeThrough`: the times of expiry that a write-through leaves.
- Theorem `GuardedStack.stopsHalfWay_iff`: which refusals make a layer lose its time of expiry.
- Theorem `GuardedStack.absent_after_compareAndSet_iff`: when an entry that all layers hold still
  expires after a compare-and-set.
-/

namespace TieredStore

/-! ## Times after the failures -/

namespace Storage

/-- The storage at some time, when nothing is refused any more. -/
def recovered (s : Storage) (time : Int64) : Storage := { s with clock := time, guards := ∅ }

variable {Table : Type} [Inhabited Table] [Stored Table] [StoredApart Table] (s : Storage)
  (time : Int64)

/-- The tables are as before. -/
@[simp] theorem cell_recovered (ref : Ref Table) : (s.recovered time).cell ref = s.cell ref := by
  rw [recovered, ← cell_withClock s time ref]
  exact cell_withGuards { s with clock := time } ∅ ref

/-- All tables are still there. -/
@[simp] theorem holds_recovered_iff {ref : Ref Table} :
    (s.recovered time).Holds ref ↔ s.Holds ref := by
  rw [recovered, ← holds_withClock_iff s time]
  exact holds_withGuards_iff { s with clock := time } ∅

/-- Guards have no settings. -/
@[simp] theorem guard_recovered (guard : Ref Guard) : (s.recovered time).cell guard = {} := rfl

end Storage

/-! ## Times of expiry -/

/-- An entry whose time of expiry has not come has not expired. -/
theorem Entry.isExpired_of_lt {V : Type} {now e : Int64} (hnow : now < e) (value : V) :
    (⟨value, e⟩ : Entry V).isExpired now = false := by
  simp [isExpired, Int64.not_le.2 hnow]

namespace EntryTable

variable {V : Type}

/-- The stored time of expiry under a key. -/
def expiry? (table : EntryTable V) (key : String) : Option Int64 :=
  (table.get? key).map (·.expiresAt)

/-- An inserted entry has its own time of expiry. -/
@[simp] theorem expiry?_insert_self (table : EntryTable V) (key : String) (entry : Entry V) :
    expiry? (table.insert key entry) key = some entry.expiresAt := by
  rw [expiry?, SortedMap.get?_insert_self, Option.map_some]

/-- A time of expiry that has not come is replaced. -/
theorem expiry?_expire_self {table : EntryTable V} {now expiresAt : Int64} {key : String}
    (h : table.expiry? key = some expiresAt) (hlive : expiresAt = 0 ∨ now < expiresAt)
    (time : Int64) : (table.expire now key time).expiry? key = some time := by
  obtain ⟨entry, hget, rfl⟩ := Option.map_eq_some_iff.1 h
  have hnotYet : entry.isExpired now = false := by
    rcases hlive with hzero | hlater
    · exact Entry.isExpired_of_unlimited hzero now
    · exact Entry.isExpired_of_lt hlater entry.value
  rw [expiry?, EntryCall.get?_expire_self hget hnotYet, Option.map_some]

end EntryTable

namespace GuardedStack

variable {V : Type} {stack : GuardedStack (EntryTable V)} {s : Storage}
  {tables : Ref (EntryTable V) → EntryTable V} {now e : Int64} {key : String} {value : V}

/-! ## Equal layers -/

/-- If the layers have a time of expiry or none, nothing is visible from this time on exactly if
no layer has none. -/
theorem forall_firstLive?_eq_none_iff (hlimited : e ≠ 0)
    (hexpiry : ∀ layer ∈ stack.layers,
      (tables layer.table).expiry? key = some e ∨ (tables layer.table).expiry? key = some 0) :
    (∀ time, e ≤ time → stack.firstLive? tables time key = none) ↔
      ∀ layer ∈ stack.layers, (tables layer.table).expiry? key ≠ some 0 := by
  constructor
  · intro hnone layer hlayer hzero
    obtain ⟨entry, hget, hunlimited⟩ := Option.map_eq_some_iff.1 hzero
    have hgone : (tables layer.table).live? e key = none :=
      List.findSome?_eq_none_iff.1 (hnone e (Int64.le_refl e)) layer hlayer
    have hlive : (tables layer.table).live? e key = some entry :=
      (EntryTable.live?_eq_some_iff _ e key entry).2
        ⟨hget, Entry.isExpired_of_unlimited hunlimited e⟩
    rw [hgone] at hlive
    cases hlive
  · intro hnot time htime
    refine List.findSome?_eq_none_iff.2 fun layer hlayer => ?_
    have he := (hexpiry layer hlayer).resolve_right (hnot layer hlayer)
    obtain ⟨entry, hget, hexpiresAt⟩ := Option.map_eq_some_iff.1 he
    have hexpired : entry.isExpired time = true := by
      simp [Entry.isExpired, hexpiresAt, hlimited, htime]
    simp [EntryTable.live?, hget, hexpired]

/-- When the front layer has taken a value, all layers still have the time of expiry. -/
theorem expiry?_takenAtFront (hlive : (⟨value, e⟩ : Entry V).isExpired now = false)
    (hheld : ∀ layer ∈ stack.layers, (tables layer.table).get? key = some ⟨value, e⟩) (update : V)
    {layer : GuardedStore (EntryTable V)} (hlayer : layer ∈ stack.layers) :
    (stack.takenAtFront tables now key update layer.table).expiry? key = some e := by
  have hfront : (tables stack.front.table).live? now key = some ⟨value, e⟩ :=
    (EntryTable.live?_eq_some_iff _ now key _).2 ⟨hheld _ List.mem_cons_self, hlive⟩
  rw [takenAtFront, hfront]
  by_cases hsame : layer.table = stack.front.table
  · rw [hsame, Function.update_self, EntryTable.expiry?_insert_self]
    rfl
  · rw [Function.update_of_ne hsame, EntryTable.expiry?, hheld layer hlayer]
    rfl

/-! ## What a compare-and-set loses -/

variable (stack s) in
/-- Whether a write-through stops after the value has been put into a lower layer, and before the
time of expiry has been set in all of them. -/
structure StopsHalfWay : Prop where
  begun : ∃ first ∈ stack.lower.head?, first.refuses s "put" = false
  stopped : (∃ layer ∈ stack.lower, layer.refuses s "put" = true) ∨
    ∃ layer ∈ stack.lower, layer.table ∉ GuardedStore.reachedTables stack.layers s "set_expiry"

variable (stack s value) in
/-- Whether a compare-and-set of layers that hold a value makes a lower layer lose its time of
expiry. -/
structure LosesExpiry (expect : Option V) : Prop extends StopsHalfWay stack s where
  expected : some value = expect
  read : stack.front.refuses s "get_entry" = false
  taken : stack.front.refuses s "compare_and_set" = false

variable (stack s) in
/-- Whether a write-through puts to a table and does not get to set the time of expiry in it. -/
def LeavesUnlimited (ref : Ref (EntryTable V)) : Prop :=
  ref ∈ GuardedStore.reachedTables stack.lower s "put" ∧
    ((∃ layer ∈ stack.lower, layer.refuses s "put" = true) ∨
      ref ∉ GuardedStore.reachedTables stack.layers s "set_expiry")

/-- A table of the layers that a call does not get to is there because a layer refuses the call. -/
theorem exists_refuses_of_not_mem {layers : List (GuardedStore (EntryTable V))} {call : String}
    {layer : GuardedStore (EntryTable V)} (hlayer : layer ∈ layers)
    (hmissed : layer.table ∉ GuardedStore.reachedTables layers s call) :
    ∃ other ∈ layers, other.refuses s call = true := by
  by_contra hnone
  have hadmits : ∀ other ∈ layers, other.refuses s call = false := fun other hother =>
    Bool.eq_false_iff.2 fun hrefuses => hnone ⟨other, hother, hrefuses⟩
  rw [GuardedStore.reachedTables_eq hadmits] at hmissed
  exact hmissed (List.mem_map_of_mem hlayer)

/-- A write-through stops half way exactly if it leaves a table of some layer without a time of
expiry. -/
theorem stopsHalfWay_iff :
    StopsHalfWay stack s ↔ ∃ layer ∈ stack.layers, LeavesUnlimited stack s layer.table := by
  constructor
  · rintro ⟨⟨first, hfirst, hadmits⟩, hstopped⟩
    by_cases hput : ∃ layer ∈ stack.lower, layer.refuses s "put" = true
    · have hmem : first ∈ stack.lower := List.mem_of_mem_head? hfirst
      have hreached : first ∈ GuardedStore.reached stack.lower s "put" := by
        obtain ⟨rest, hlower⟩ := List.head?_eq_some_iff.1 hfirst
        simp [GuardedStore.reached, hlower, hadmits]
      exact ⟨first, List.mem_cons_of_mem _ hmem, List.mem_map_of_mem hreached, .inl hput⟩
    · obtain ⟨layer, hlayer, hmissed⟩ := hstopped.resolve_left hput
      refine ⟨layer, List.mem_cons_of_mem _ hlayer, ?_, .inr hmissed⟩
      by_contra hnot
      exact hput (exists_refuses_of_not_mem hlayer hnot)
  · rintro ⟨layer, -, hput, hstopped⟩
    obtain ⟨other, hother, hsame⟩ := List.mem_map.1 hput
    refine ⟨?_, hstopped.imp_right fun hmissed => ⟨other, ?_, hsame ▸ hmissed⟩⟩
    · cases hlower : stack.lower with
      | nil => simp [GuardedStore.reached, hlower] at hother
      | cons first rest =>
        refine ⟨first, rfl, ?_⟩
        by_contra hrefuses
        simp [GuardedStore.reached, hlower, hrefuses] at hother
    · exact List.takeWhile_subset _ hother

/-! ## The calls -/

variable [DecidableEq V] [Stored (EntryTable V)] [EntryValue V]

/-- If all layers hold the same live entry, only the front layer is asked.  It may refuse to be
read or to be set, and the value may not be the expected one; otherwise the new value is written
through. -/
theorem run_compareAndSet_of_held (hkey : checkKey key = .ok ())
    (hlive : (⟨value, e⟩ : Entry V).isExpired s.clock = false)
    (hheld : ∀ layer ∈ stack.layers, (tables layer.table).get? key = some ⟨value, e⟩)
    (expect : Option V) (update : V) :
    (Stack.compareAndSet key expect update 0 (Stack.lowerPlaces stack.lower.length)).run
        (stack.answerOn s) tables =
      if stack.front.refuses s "get_entry" then
        (.error (stack.front.down (EntryCall V) "get_entry"), tables)
      else if some value ≠ expect then (.ok false, tables)
      else if stack.front.refuses s "compare_and_set" then
        (.error (stack.front.down (EntryCall V) "compare_and_set"), tables)
      else
        (Stack.writeThrough key update e 0 (Stack.lowerPlaces stack.lower.length)).run
          (stack.answerOn s) (stack.takenAtFront tables s.clock key update) := by
  cases hread : (stack.layer 0).refuses s "get_entry" with
  | true =>
    have hrefused : ((Entries.entry? key : Program (EntryCall V) _).at 0).run (stack.answerOn s)
        tables = (.error (stack.front.down (EntryCall V) "get_entry"), tables) :=
      run_of_refuses hread tables
    have hread' : stack.front.refuses s "get_entry" = true := hread
    rw [if_pos hread', Stack.compareAndSet, Program.run_bind, Action.bind_apply, hrefused]
  | false =>
    have hread' : ¬stack.front.refuses s "get_entry" = true := Bool.eq_false_iff.1 hread
    have hvisible : (Stack.visibleEntry ((tables stack.front.table).live? s.clock key) key
        (Stack.lowerPlaces stack.lower.length)).run (stack.answerOn s) tables =
        (.ok (some ⟨value, e⟩), tables) := by
      rw [(EntryTable.live?_eq_some_iff _ _ key _).2 ⟨hheld _ List.mem_cons_self, hlive⟩]
      rfl
    rw [if_neg hread', run_compareAndSet_of_visible hkey hread hvisible]
    by_cases hmatch : some value = expect <;> simp [hmatch]

/-- A write-through that succeeds has not stopped half way. -/
theorem not_stopsHalfWay_of_ok (hkey : checkKey key = .ok ()) (hlimited : e ≠ 0)
    (hnow : s.clock < e)
    (update : V) {b : Bool}
    (hok : ((Stack.writeThrough key update e 0 (Stack.lowerPlaces stack.lower.length)).run
      (stack.answerOn s) tables).1 = .ok b) : ¬StopsHalfWay stack s := by
  rw [run_writeThrough hkey (Entry.isExpired_of_lt hnow), if_neg hlimited] at hok
  rintro ⟨-, hstopped⟩
  cases hput : stack.lower.find? (·.refuses s "put") with
  | some layer =>
    rw [hput] at hok
    cases hok
  | none =>
    have hadmits : ∀ layer ∈ stack.lower, ¬layer.refuses s "put" = true := List.find?_eq_none.1 hput
    rcases hstopped with ⟨layer, hlayer, hrefuses⟩ | ⟨layer, hlayer, hmissed⟩
    · exact hadmits layer hlayer hrefuses
    · obtain ⟨other, hother, hrefuses⟩ :=
        exists_refuses_of_not_mem (List.mem_cons_of_mem _ hlayer) hmissed
      rw [hput] at hok
      cases hexpire : stack.layers.find? (·.refuses s "set_expiry") with
      | some layer =>
        rw [hexpire] at hok
        cases hok
      | none => exact List.find?_eq_none.1 hexpire other hother hrefuses

variable (stack) in
/-- The time of expiry that a write-through leaves in a table that had one before: none, if it was
put to last, and the one before otherwise. -/
theorem expiry?_writeThrough (hkey : checkKey key = .ok ()) (hlimited : e ≠ 0)
    (hnow : s.clock < e)
    (update : V) {ref : Ref (EntryTable V)} (hexpiry : (tables ref).expiry? key = some e) :
    (LeavesUnlimited stack s ref →
      (((Stack.writeThrough key update e 0 (Stack.lowerPlaces stack.lower.length)).run
        (stack.answerOn s) tables).2 ref).expiry? key = some 0) ∧
    (¬LeavesUnlimited stack s ref →
      (((Stack.writeThrough key update e 0 (Stack.lowerPlaces stack.lower.length)).run
        (stack.answerOn s) tables).2 ref).expiry? key = some e) := by
  have hput : ref ∈ GuardedStore.reachedTables stack.lower s "put" →
      (stack.putBelow tables key s update ref).expiry? key = some 0 := fun hmem => by
    rw [putBelow, Stack.changeAt, if_pos hmem, EntryTable.expiry?_insert_self]
  have hkept : ref ∉ GuardedStore.reachedTables stack.lower s "put" →
      (stack.putBelow tables key s update ref).expiry? key = some e := fun hmem => by
    rw [putBelow, Stack.changeAt, if_neg hmem, hexpiry]
  rw [run_writeThrough hkey (Entry.isExpired_of_lt hnow), if_neg hlimited]
  cases hrefused : stack.lower.find? (·.refuses s "put") with
  | some layer =>
    have hrefuses : layer.refuses s "put" = true := by simpa using List.find?_some hrefused
    have hstops : ∃ layer ∈ stack.lower, layer.refuses s "put" = true :=
      ⟨layer, List.mem_of_find?_eq_some hrefused, hrefuses⟩
    exact ⟨fun h => hput h.1, fun h => hkept fun hmem => h ⟨hmem, .inl hstops⟩⟩
  | none =>
    have hadmits : ¬∃ layer ∈ stack.lower, layer.refuses s "put" = true := by
      rintro ⟨layer, hlayer, hrefuses⟩
      exact List.find?_eq_none.1 hrefused layer hlayer hrefuses
    dsimp only
    by_cases hset : ref ∈ GuardedStore.reachedTables stack.layers s "set_expiry"
    · refine ⟨fun h => absurd (h.2.resolve_left hadmits) (not_not.2 hset), fun _ => ?_⟩
      rw [Stack.changeAt, if_pos hset]
      by_cases hmem : ref ∈ GuardedStore.reachedTables stack.lower s "put"
      · exact EntryTable.expiry?_expire_self (hput hmem) (.inl rfl) e
      · exact EntryTable.expiry?_expire_self (hkept hmem) (.inr hnow) e
    · rw [Stack.changeAt, if_neg hset]
      exact ⟨fun h => hput h.1, fun h => hkept fun hmem => h ⟨hmem, .inr hset⟩⟩

variable (stack e key) in
/-- Whether layers that had one time of expiry still have it after a call, or one of them has lost
it.  It is lost under a condition, and only if the call fails. -/
structure LosesIff (lost : Prop)
    (after : Except StoreError Bool × (Ref (EntryTable V) → EntryTable V)) : Prop where
  expiry : ∀ layer ∈ stack.layers, (after.2 layer.table).expiry? key = some e ∨
    (after.2 layer.table).expiry? key = some 0
  lost_iff : (∃ layer ∈ stack.layers, (after.2 layer.table).expiry? key = some 0) ↔ lost
  failed : ∀ b, after.1 = .ok b → ¬lost

omit [DecidableEq V] [Stored (EntryTable V)] [EntryValue V] in
/-- A call that changes nothing loses no time of expiry. -/
theorem LosesIff.of_unchanged {lost : Prop} (hnot : ¬lost) (hlimited : e ≠ 0)
    (hexpiry : ∀ layer ∈ stack.layers, (tables layer.table).expiry? key = some e)
    (outcome : Except StoreError Bool) : LosesIff stack e key lost (outcome, tables) where
  expiry layer hlayer := .inl (hexpiry layer hlayer)
  lost_iff := by
    refine ⟨?_, fun h => absurd h hnot⟩
    rintro ⟨layer, hlayer, hzero⟩
    rw [hexpiry layer hlayer] at hzero
    exact absurd (Option.some.inj hzero) hlimited
  failed _ _ := hnot

/-- A write-through loses the time of expiry if it stops half way. -/
theorem losesIff_writeThrough (hkey : checkKey key = .ok ()) (hlimited : e ≠ 0) (hnow : s.clock < e)
    (hexpiry : ∀ layer ∈ stack.layers, (tables layer.table).expiry? key = some e) (update : V) :
    LosesIff stack e key (StopsHalfWay stack s)
      ((Stack.writeThrough key update e 0 (Stack.lowerPlaces stack.lower.length)).run
        (stack.answerOn s) tables) := by
  have hleft := fun layer hlayer =>
    expiry?_writeThrough stack hkey hlimited hnow update (hexpiry layer hlayer)
  refine ⟨fun layer hlayer => ?_, ?_, fun b => not_stopsHalfWay_of_ok hkey hlimited hnow update⟩
  · by_cases hunlimited : LeavesUnlimited stack s layer.table
    · exact .inr ((hleft layer hlayer).1 hunlimited)
    · exact .inl ((hleft layer hlayer).2 hunlimited)
  · rw [stopsHalfWay_iff]
    refine exists_congr fun layer => and_congr_right fun hlayer =>
      ⟨fun hzero => ?_, (hleft layer hlayer).1⟩
    by_contra hlimitedStill
    rw [(hleft layer hlayer).2 hlimitedStill] at hzero
    exact hlimited (Option.some.inj hzero)

/-- A compare-and-set of layers that hold one live entry loses its time of expiry if the value is
the expected one, the front layer takes the new one and the write-through stops half way. -/
theorem losesIff_compareAndSet (hkey : checkKey key = .ok ()) (hlimited : e ≠ 0) (hnow : s.clock < e)
    (hheld : ∀ layer ∈ stack.layers, (tables layer.table).get? key = some ⟨value, e⟩)
    (expect : Option V) (update : V) :
    LosesIff stack e key (LosesExpiry stack s value expect)
      ((Stack.compareAndSet key expect update 0 (Stack.lowerPlaces stack.lower.length)).run
        (stack.answerOn s) tables) := by
  have hlive := Entry.isExpired_of_lt hnow value
  have hexpiry : ∀ layer ∈ stack.layers, (tables layer.table).expiry? key = some e :=
    fun layer hlayer => by rw [EntryTable.expiry?, hheld layer hlayer, Option.map_some]
  rw [run_compareAndSet_of_held hkey hlive hheld]
  by_cases hread : stack.front.refuses s "get_entry" = true
  · rw [if_pos hread]
    exact LosesIff.of_unchanged (fun h => by simp [h.read] at hread) hlimited hexpiry _
  rw [if_neg hread]
  by_cases hmatch : some value = expect
  · rw [if_neg (not_not.2 hmatch)]
    by_cases htake : stack.front.refuses s "compare_and_set" = true
    · rw [if_pos htake]
      exact LosesIff.of_unchanged (fun h => by simp [h.taken] at htake) hlimited hexpiry _
    rw [if_neg htake]
    have hloses : LosesExpiry stack s value expect ↔ StopsHalfWay stack s :=
      ⟨fun h => h.toStopsHalfWay,
        fun h => ⟨h, hmatch, Bool.eq_false_iff.2 hread, Bool.eq_false_iff.2 htake⟩⟩
    rw [hloses]
    exact losesIff_writeThrough hkey hlimited hnow
      (fun layer hlayer => expiry?_takenAtFront hlive hheld update hlayer) update
  · rw [if_pos hmatch]
    exact LosesIff.of_unchanged (fun h => hmatch h.expected) hlimited hexpiry _

/-! ## The whole call -/

variable [StoredApart (EntryTable V)]

/-- A look-up through layers that refuse nothing gives the first live value. -/
theorem run_value?_recovered (hkey : checkKey key = .ok ()) {t : Storage}
    (holds : ∀ layer ∈ stack.layers, t.Holds layer.table) (time : Int64) :
    (EntryStore.run (stack.store (EntryCall V)) (Entries.value? key) (t.recovered time)).1 =
      .ok ((stack.firstLive? t.cell time key).map (·.value)) := by
  have ready : stack.Ready (t.recovered time) :=
    ⟨fun layer hlayer => (Storage.holds_recovered_iff t time).2 (holds layer hlayer),
      fun _ _ guard _ => by rw [Storage.guard_recovered]⟩
  have hadmits : ∀ layer ∈ stack.layers,
      layer.refuses (t.recovered time) "get_entry" = false := fun layer _ => by
    simp [GuardedStore.refuses, Guard.refuses]
  have hcell : ((t.recovered time).cell : Ref (EntryTable V) → EntryTable V) = t.cell :=
    funext (t.cell_recovered time)
  have hrun : (Stack.firstHit (Entries.entry? key)
      (0 :: Stack.lowerPlaces stack.lower.length)).run (stack.answerOn (t.recovered time))
      (t.recovered time).cell = _ := run_firstEntry hkey hadmits _
  rw [map_layer_places, hcell] at hrun
  have hget : (EntryStore.perform (stack.store (EntryCall V)) (.get key) (t.recovered time)).1 =
      .ok (stack.firstLive? t.cell time key) := by
    refine (ready.perform (EntryCall.get key)).1.trans ?_
    rw [hcell]
    exact congrArg Prod.fst hrun
  rw [EntryStore.run_value?, hget]
  rfl

/-- Whatever the layers refuse during a compare-and-set, an entry that all of them held with one
time of expiry is gone from that time on when nothing is refused any more, unless the value was
the expected one, the front layer took the new one, and the call ended between a put to a lower
layer and the last setting of the time of expiry in one.  Then the call has failed, and the new
value stays visible forever. -/
theorem absent_after_compareAndSet_iff (stack : GuardedStack (EntryTable V)) {s : Storage}
    (ready : stack.Ready s) {key : String} (hkey : key ≠ "") {value : V} {e : Int64}
    (hlimited : e ≠ 0) (hnow : s.clock < e)
    (hheld : ∀ layer ∈ stack.layers,
      (s.cell layer.table : EntryTable V).get? key = some ⟨value, e⟩)
    (expect : Option V) (update : V) :
    let store : EntryStore V := stack.store (EntryCall V)
    let after := store.run (Entries.compareAndSet key expect update) s
    ((∀ time, e ≤ time →
        (store.run (Entries.value? key) (after.2.recovered time)).1 = .ok none) ↔
      ¬LosesExpiry stack s value expect) ∧
    ∀ b, after.1 = .ok b → ¬LosesExpiry stack s value expect := by
  intro store after
  have hgood := checkKey_of_ne hkey
  have hloses := losesIff_compareAndSet hgood hlimited hnow hheld expect update
  have hcall : after = store.perform (.compareAndSet key expect update) s :=
    congrFun (Program.run_ofCall _ _) s
  obtain ⟨hresult, htables⟩ := ready.perform (EntryCall.compareAndSet key expect update)
  rw [show (stack.store (EntryCall V)).perform (EntryCall.compareAndSet key expect update) s =
    after from hcall.symm] at hresult htables
  have hread : ∀ time, (store.run (Entries.value? key) (after.2.recovered time)).1 =
      .ok ((stack.firstLive? after.2.cell time key).map (·.value)) :=
    run_value?_recovered hgood fun layer hlayer => (htables.holds _).2 (ready.holds layer hlayer)
  have hcell : (after.2.cell : Ref (EntryTable V) → EntryTable V) =
      ((Stack.compareAndSet key expect update 0 (Stack.lowerPlaces stack.lower.length)).run
        (stack.answerOn s) s.cell).2 := funext htables.cell
  have habsent := forall_firstLive?_eq_none_iff hlimited hloses.expiry
  rw [← hcell] at habsent
  constructor
  · rw [← hloses.lost_iff, ← hcell]
    simp only [hread, Except.ok.injEq, Option.map_eq_none_iff, habsent, not_exists, not_and, ne_eq]
  · exact fun b hok => hloses.failed b (hresult.symm.trans hok)

/-- Three layers of which the middle one refuses the put: the call fails before any time of expiry
is lost, although the back layer would have refused to set it. -/
theorem absent_after_compareAndSet_iff_refused :
    let stack : GuardedStack (EntryTable Int64) :=
      ⟨"stack", ⟨⟨"front", ⟨0⟩⟩, []⟩, [⟨⟨"middle", ⟨1⟩⟩, [⟨0⟩]⟩, ⟨⟨"back", ⟨2⟩⟩, [⟨1⟩]⟩]⟩
    let table : EntryTable Int64 := .ofList [("k", ⟨5, 100⟩)]
    let s : Storage :=
      { counters := ⟨#[table, table, table]⟩
        guards := ⟨#[{ refused := ["put"] }, { refused := ["set_expiry"] }]⟩
        clock := 7 }
    let store : EntryStore Int64 := stack.store (EntryCall Int64)
    let after := store.run (Entries.compareAndSet "k" (some 5) 6) s
    stack.Ready s ∧ "k" ≠ "" ∧ (100 : Int64) ≠ 0 ∧ s.clock < 100 ∧
      (∀ layer ∈ stack.layers, (s.cell layer.table).get? "k" = some ⟨5, 100⟩) ∧
      ((∀ time, 100 ≤ time →
          (store.run (Entries.value? "k") (after.2.recovered time)).1 = .ok none) ↔
        ¬LosesExpiry stack s 5 (some 5)) ∧
      ∀ b, after.1 = .ok b → ¬LosesExpiry stack s 5 (some 5) := by
  intro stack table s store after
  have ready : stack.Ready s := ⟨by decide, by decide⟩
  have hheld : ∀ layer ∈ stack.layers, (s.cell layer.table).get? "k" = some ⟨5, 100⟩ := by decide
  exact ⟨ready, by decide, by decide, by decide, hheld,
    absent_after_compareAndSet_iff stack ready (by decide) (by decide) (by decide) hheld (some 5) 6⟩

/-- A back layer that refuses the new time of expiry keeps the new value without one.  The call has
failed, and the value is still there when the old one would have expired. -/
theorem not_absent_after_compareAndSet :
    let stack : GuardedStack (EntryTable Int64) :=
      ⟨"stack", ⟨⟨"front", ⟨0⟩⟩, []⟩, [⟨⟨"back", ⟨1⟩⟩, [⟨0⟩]⟩]⟩
    let table : EntryTable Int64 := .ofList [("k", ⟨5, 100⟩)]
    let s : Storage :=
      { counters := ⟨#[table, table]⟩
        guards := ⟨#[{ refused := ["set_expiry"] }]⟩ }
    let store : EntryStore Int64 := stack.store (EntryCall Int64)
    let after := store.run (Entries.compareAndSet "k" (some 5) 6) s
    stack.Ready s ∧ s.clock < 100 ∧
      (∀ layer ∈ stack.layers, (s.cell layer.table).get? "k" = some ⟨5, 100⟩) ∧
      after.1 = .error (.storage (.down "back" "set_expiry")) ∧
      ¬∀ time, 100 ≤ time →
        (store.run (Entries.value? "k") (after.2.recovered time)).1 = .ok none := by
  intro stack table s store after
  have hfailed : after.1 = .error (.storage (.down "back" "set_expiry")) := by decide +kernel
  have hvisible : (store.run (Entries.value? "k") (after.2.recovered 100)).1 = .ok (some 6) := by
    decide +kernel
  refine ⟨⟨by decide, by decide⟩, by decide, by decide, hfailed, fun habsent => ?_⟩
  have hgone := habsent 100 (by decide)
  rw [hvisible] at hgone
  cases hgone

end GuardedStack

end TieredStore
