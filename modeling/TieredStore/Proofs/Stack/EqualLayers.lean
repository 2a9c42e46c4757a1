import TieredStore.Proofs.Entry.Answers
import TieredStore.Proofs.Record.Answers
import TieredStore.Proofs.Storage.Contracts

/-!
# Stacks of equal layers

Changes go to every layer and reads end at the first one that has something.  Layers in
memory that hold equal tables are therefore answered like one of them, and stay equal; the
only call that treats the front layer differently is a compare-and-set, which writes its
value through and then gives it the old time of expiry.

Main results:

- Theorems `MemoryStack.yields_throughRecordLayers` and `MemoryStack.yields_throughEntryLayers`: a
  call to equal layers has the result of a call to one table and leaves equal layers.
- Theorem `MemoryStack.run_eq_run_of_empty`: after any run, a stack of layers that were empty
  answers like one store that was empty, and its layers are equal to this store.
-/

namespace TieredStore

namespace MemoryStack

/-! ## Reads and changes of equal layers -/

section Combinators

variable {Call Table : Type} [Interface Call] [StoreKind Call] [Inhabited Table] [Stored Table]
  [MemoryKind Call Table] [StoredApart Table] {stack : MemoryStack Table} {clock : Int64}
  {tables : Nat → Table} {table table' : Table} {α : Type}

/-- Layers without a hit have none together. -/
theorem yields_firstHit_none {p : Program Call (Option α)} {places : List Nat}
    (hplaces : ∀ place ∈ places, place ≤ stack.lower.length)
    (hp : ∀ place ∈ places,
      p.run (MemoryKind.answer clock) (tables place) = (.ok none, tables place)) :
    stack.Yields clock tables (Stack.firstHit p places) (.ok none) tables := by
  induction places with
  | nil => exact yields_pure none
  | cons place rest ih =>
    rw [Stack.firstHit_cons]
    exact (yields_read (hplaces place List.mem_cons_self) (hp place List.mem_cons_self)).bind
      (ih (fun other hother => hplaces other (List.mem_cons_of_mem _ hother))
        fun other hother => hp other (List.mem_cons_of_mem _ hother))

/-- Equal layers have the hit of one of them. -/
theorem yields_firstHit {p : Program Call (Option α)} {result : Except StoreError (Option α)}
    (hp : p.run (MemoryKind.answer clock) table = (result, table)) :
    stack.Yields clock (fun _ => table)
      (Stack.firstHit p (0 :: Stack.lowerPlaces stack.lower.length)) result fun _ => table := by
  have hfront : stack.Yields clock (fun _ => table) (p.at 0) result fun _ => table :=
    yields_read (Nat.zero_le _) hp
  rw [Stack.firstHit_cons]
  cases result with
  | error e => exact hfront.bind_error
  | ok hit =>
    refine hfront.bind ?_
    cases hit with
    | some a => exact yields_pure (some a)
    | none =>
      exact yields_firstHit_none (fun place hplace => (Stack.mem_lowerPlaces_iff.1 hplace).2)
        fun _ _ => hp

/-- Equal layers without anything to list have nothing together. -/
theorem yields_firstNonEmpty_nil {p : Program Call (List α)} {places : List Nat}
    (hplaces : ∀ place ∈ places, place ≤ stack.lower.length)
    (hp : p.run (MemoryKind.answer clock) table = (.ok [], table)) :
    stack.Yields clock (fun _ => table) (Stack.firstNonEmpty p places) (.ok [])
      fun _ => table := by
  induction places with
  | nil => exact yields_pure []
  | cons place rest ih =>
    refine (yields_read (hplaces place List.mem_cons_self) hp).bind ?_
    exact ih fun other hother => hplaces other (List.mem_cons_of_mem _ hother)

/-- Equal layers have the list of one of them. -/
theorem yields_firstNonEmpty {p : Program Call (List α)} {result : Except StoreError (List α)}
    (hp : p.run (MemoryKind.answer clock) table = (result, table)) :
    stack.Yields clock (fun _ => table)
      (Stack.firstNonEmpty p (0 :: Stack.lowerPlaces stack.lower.length)) result
      fun _ => table := by
  have hfront : stack.Yields clock (fun _ => table) (p.at 0) result fun _ => table :=
    yields_read (Nat.zero_le _) hp
  cases result with
  | error e => exact hfront.bind_error
  | ok found =>
    cases found with
    | cons a rest => exact hfront.bind (yields_pure (a :: rest))
    | nil => exact yields_firstNonEmpty_nil (fun place => Stack.mem_places_iff.1) hp

/-- A change of equal layers has the result of a change of one table, and leaves equal
layers. -/
theorem yields_fanOut_all {p : Program Call Unit} {result : Except StoreError Unit}
    (hp : p.run (MemoryKind.answer clock) table = (result, table'))
    (hfailed : ∀ e, result = .error e → table' = table) :
    stack.Yields clock (fun _ => table)
      (Stack.fanOut p (0 :: Stack.lowerPlaces stack.lower.length)) result fun _ => table' := by
  cases result with
  | error e =>
    have hsame := hfailed e rfl
    subst hsame
    exact yields_fanOut_of_error (Nat.zero_le _) hp
  | ok u =>
    refine (yields_fanOut (fun _ => table') (fun place => Stack.mem_places_iff.1) (Stack.nodup_places _)
      fun _ _ => hp).congr fun place hplace => ?_
    rw [if_pos (Stack.mem_places_iff.2 hplace)]

end Combinators

/-! ## Calls to equal layers -/

section Records

variable {stack : MemoryStack RecordTable} {clock : Int64}

/-- A record call to equal layers is answered like a call to one table. -/
theorem yields_throughRecordLayers (table : RecordTable) (call : RecordCall) :
    stack.Yields clock (fun _ => table)
      (Stack.throughRecordLayers (Stack.places stack.lower.length) call)
      (RecordTable.answer call table).1 fun _ => (RecordTable.answer call table).2 := by
  have hone : (Program.ofCall call).run (MemoryKind.answer clock) table =
      RecordTable.answer call table := congrFun (Program.run_ofCall _ call) table
  rw [Stack.places_eq]
  cases call with
  | lifecycle op =>
    cases op <;> exact yields_fanOut_all hone fun e he => nomatch he
  | get oid => exact yields_firstHit hone
  | apply update => exact yields_fanOut_all hone fun e he => nomatch he
  | remove oid => exact yields_fanOut_all hone fun e he => nomatch he
  | keys => exact yields_firstNonEmpty hone
  | query q =>
    rw [RecordTable.answer_query] at hone ⊢
    exact yields_firstNonEmpty hone

end Records

section Entries

variable {V : Type} [DecidableEq V] [Stored (EntryTable V)] [EntryValue V]
  [StoredApart (EntryTable V)] {stack : MemoryStack (EntryTable V)} {clock : Int64}
  {key : String}

/-- A value that the front layer took is written through to layers that are equal to what the
front layer was, and leaves equal layers. -/
theorem yields_writeThrough (hkey : checkKey key = .ok ()) (table : EntryTable V)
    {value : V} {expiresAt : Int64}
    (hlive : (⟨value, expiresAt⟩ : Entry V).isExpired clock = false) :
    stack.Yields clock
      (Function.update (fun _ => table) 0 (table.insert key ⟨value, expiresAt⟩))
      (Stack.writeThrough key value expiresAt 0 (Stack.lowerPlaces stack.lower.length))
      (.ok true) fun _ => table.insert key ⟨value, expiresAt⟩ := by
  have hlower : stack.Yields clock
      (Function.update (fun _ => table) 0 (table.insert key ⟨value, expiresAt⟩))
      (Stack.fanOut (Entries.put key (some value) 0) (Stack.lowerPlaces stack.lower.length))
      (.ok ()) (Function.update (fun _ => table.insert key ⟨value, 0⟩) 0
        (table.insert key ⟨value, expiresAt⟩)) := by
    refine (yields_fanOut (fun _ => table.insert key ⟨value, 0⟩)
      (fun place hplace => (Stack.mem_lowerPlaces_iff.1 hplace).2) (Stack.nodup_lowerPlaces _)
      fun place hplace => ?_).congr fun place hplace => ?_
    · rw [Function.update_of_ne (Stack.mem_lowerPlaces_iff.1 hplace).1]
      exact Entries.run_put table clock hkey (some value) 0
    · by_cases hzero : place = 0
      · subst hzero
        rw [if_neg fun h => (Stack.mem_lowerPlaces_iff.1 h).1 rfl, Function.update_self,
          Function.update_self]
      · rw [if_pos (Stack.mem_lowerPlaces_iff.2 ⟨hzero, hplace⟩), Function.update_of_ne hzero]
  refine hlower.bind ?_
  by_cases hunlimited : expiresAt = 0
  · subst hunlimited
    rw [if_pos rfl, Function.update_eq_self]
    exact yields_pure true
  · rw [if_neg hunlimited]
    -- The front layer has this time of expiry already, and the others are given it now.
    have hall : ∀ place, (Entries.expire key expiresAt).run (EntryTable.answer clock)
        (Function.update (fun _ => table.insert key ⟨value, 0⟩) 0
          (table.insert key ⟨value, expiresAt⟩) place) =
        (.ok (), table.insert key ⟨value, expiresAt⟩) := by
      intro place
      rw [Entries.run_expire _ _ hkey]
      by_cases hzero : place = 0
      · subst hzero
        rw [Function.update_self, EntryTable.expire_insert_self _ _ _ hlive]
      · rw [Function.update_of_ne hzero, EntryTable.expire_insert_self _ _ _
          (Entry.isExpired_of_unlimited rfl clock)]
    refine ((yields_fanOut _ (fun place => Stack.mem_places_iff.1) (Stack.nodup_places _)
      fun place _ => hall place).congr fun place hplace => ?_).bind (yields_pure true)
    rw [if_pos (Stack.mem_places_iff.2 hplace)]

/-- The visible entry of equal layers is the live entry of one of them. -/
theorem yields_visibleEntry (hkey : checkKey key = .ok ()) (table : EntryTable V) :
    stack.Yields clock (fun _ => table)
      (Stack.visibleEntry (table.live? clock key) key (Stack.lowerPlaces stack.lower.length))
      (.ok (table.live? clock key)) fun _ => table := by
  have hread := Entries.run_get table clock hkey
  cases hlive : table.live? clock key with
  | some entry => exact yields_pure (some entry)
  | none =>
    rw [hlive] at hread
    exact yields_firstHit_none (fun place hplace => (Stack.mem_lowerPlaces_iff.1 hplace).2)
      fun _ _ => hread

/-- A compare-and-set of equal layers is answered like one of a single table. -/
theorem yields_compareAndSet (hkey : checkKey key = .ok ()) (table : EntryTable V)
    (expect : Option V) (update : V) :
    stack.Yields clock (fun _ => table)
      (Stack.compareAndSet key expect update 0 (Stack.lowerPlaces stack.lower.length))
      ((Entries.compareAndSet key expect update).run (EntryTable.answer clock) table).1
      fun _ => ((Entries.compareAndSet key expect update).run (EntryTable.answer clock) table).2 := by
  have hfront : stack.Yields clock (fun _ => table) ((Entries.entry? key).at 0)
      (.ok (table.live? clock key)) fun _ => table :=
    yields_read (Nat.zero_le _) (Entries.run_get table clock hkey)
  refine hfront.bind ((yields_visibleEntry hkey table).bind ?_)
  rw [Entries.run_compareAndSet _ _ hkey]
  by_cases hmatch : (table.live? clock key).map (·.value) = expect
  · rw [if_pos hmatch, if_pos hmatch]
    have htaken := Entries.run_compareAndSet table clock hkey
      ((table.live? clock key).map (·.value)) update
    rw [if_pos rfl] at htaken
    exact (yields_at (Nat.zero_le _) htaken).bind
      (yields_writeThrough hkey table (table.isExpired_of_kept clock key update))
  · rw [if_neg hmatch, if_neg hmatch]
    exact yields_pure false

/-- A compare-and-set under a bad key fails at the first read. -/
theorem yields_compareAndSet_of_error {e : StoreError} (hkey : checkKey key = .error e)
    (table : EntryTable V) (expect : Option V) (update : V) :
    stack.Yields clock (fun _ => table)
      (Stack.compareAndSet key expect update 0 (Stack.lowerPlaces stack.lower.length))
      (.error e) fun _ => table := by
  have hfront : stack.Yields clock (fun _ => table) ((Entries.entry? key).at 0) (.error e)
      fun _ => table :=
    yields_read (Nat.zero_le _) (Entries.run_get_of_error table clock hkey)
  exact hfront.bind_error

/-- An entry call to equal layers is answered like a call to one table. -/
theorem yields_throughEntryLayers (table : EntryTable V) (call : EntryCall V) :
    stack.Yields clock (fun _ => table)
      (Stack.throughEntryLayers 0 (Stack.lowerPlaces stack.lower.length) call)
      (EntryTable.answer clock call table).1 fun _ => (EntryTable.answer clock call table).2 := by
  have hone : (Program.ofCall call).run (MemoryKind.answer clock) table =
      EntryTable.answer clock call table := congrFun (Program.run_ofCall _ call) table
  have hchange : ∀ e, (EntryTable.answer clock call table).1 = .error e →
      (EntryTable.answer clock call table).2 = table :=
    fun _ => EntryTable.answer_of_error table clock
  cases call with
  | lifecycle op => exact yields_fanOut_all hone hchange
  | get key =>
    rw [EntryTable.answer_get] at hone ⊢
    exact yields_firstHit hone
  | put key value ttl => exact yields_fanOut_all hone hchange
  | expire key time => exact yields_fanOut_all hone hchange
  | keys value => exact yields_firstNonEmpty hone
  | compareAndSet key expect update =>
    cases hkey : checkKey key with
    | ok u =>
      rw [← hone]
      exact yields_compareAndSet hkey table expect update
    | error e =>
      have hrefused : EntryTable.answer clock (.compareAndSet key expect update) table =
          (.error e, table) := by
        refine (table.withKey_apply key _).trans ?_
        rw [hkey]
      rw [hrefused]
      exact yields_compareAndSet_of_error hkey table expect update

end Entries

/-! ## Runs -/

section Runs

variable {Call Table : Type} [Interface Call] [StoreKind Call] [Inhabited Table] [Stored Table]
  [MemoryKind Call Table]

variable (Call) in
/-- Whether equal layers of a stack are answered like one of them, and stay equal. -/
def LikeOneLayer (stack : MemoryStack Table) : Prop :=
  ∀ clock table (call : Call), stack.Yields clock (fun _ => table)
    (StoreKind.throughLayers stack.lower.length call)
    (MemoryKind.answer clock call table).1 fun _ => (MemoryKind.answer clock call table).2

/-- Whether all layers of a stack have the contents of a single store, at the same time. -/
def Copies (stack : MemoryStack Table) (single : MemoryStore Table) (s t : Storage) : Prop :=
  stack.Shows s (fun _ => t.cell single.table) ∧ t.Holds single.table ∧ s.clock = t.clock

variable {stack : MemoryStack Table} {single : MemoryStore Table} [StoredApart Table]

/-- Setting the clock of both keeps the layers equal to the single store. -/
theorem Copies.withClock {s t : Storage} (h : stack.Copies single s t) (time : Int64) :
    stack.Copies single { s with clock := time } { t with clock := time } := by
  obtain ⟨hshows, hholds, -⟩ := h
  refine ⟨?_, (Storage.holds_withClock_iff t time).2 hholds, rfl⟩
  rw [Storage.cell_withClock]
  exact hshows.withClock time

/-- If equal layers are answered like one of them, calls keep the layers equal to the single
store. -/
theorem Copies.perform (hlike : stack.LikeOneLayer Call) {s t : Storage}
    (h : stack.Copies single s t) (call : Call) :
    ((stack.store Call).perform call s).1 = ((single.store Call).perform call t).1 ∧
      stack.Copies single ((stack.store Call).perform call s).2
        ((single.store Call).perform call t).2 := by
  obtain ⟨hshows, hholds, hclock⟩ := h
  obtain ⟨hresult, hshows', hclock'⟩ := hlike t.clock _ call s hshows hclock
  rw [stack.perform_store call, single.perform_store call t]
  refine ⟨hresult, ?_, (Storage.holds_setCell_iff _).2 hholds, ?_⟩
  · rw [Storage.cell_setCell_self _ hholds]
    exact hshows'
  · rw [hclock', Storage.clock_setCell]

/-- If equal layers are answered like one of them, they are so after every run. -/
theorem Copies.run (hlike : stack.LikeOneLayer Call) {s t : Storage}
    (h : stack.Copies single s t) {α β : Type} (steps : List (Step Call α))
    (p : Program Call β) :
    (p.run (stack.store Call).perform
        (stateAfter (Step.answer (stack.store Call).perform) steps s)).1 =
      (p.run (single.store Call).perform
        (stateAfter (Step.answer (single.store Call).perform) steps t)).1 ∧
    stack.Copies single (stateAfter (Step.answer (stack.store Call).perform) steps s)
      (stateAfter (Step.answer (single.store Call).perform) steps t) := by
  have hcall := fun call s t (h : stack.Copies single s t) => h.perform hlike call
  have hsteps : stack.Copies single (stateAfter (Step.answer (stack.store Call).perform) steps s)
      (stateAfter (Step.answer (single.store Call).perform) steps t) :=
    stateAfter_related (Step.answer_related (fun time s t h => h.withClock time) hcall) steps h
  exact ⟨(Program.run_related hcall p hsteps).1, hsteps⟩

end Runs

/-- However many attempts the guards of the two storages call for, an addition has the same result
with equal layers as with one of them. -/
theorem Copies.increment {stack : MemoryStack (EntryTable Int64)}
    {single : MemoryStore (EntryTable Int64)} {s t : Storage} (h : stack.Copies single s t)
    (key : String) (delta : Int64) :
    (EntryStore.increment (stack.store (EntryCall Int64)) key delta s).1 =
      (EntryStore.increment (single.store (EntryCall Int64)) key delta t).1 := by
  have hequal := (h.run (fun _ => yields_throughEntryLayers) ([] : List (Step _ Unit))
    (Entries.increment key delta (s.guards.size + 1))).1
  have hone : ∀ attempts,
      ((Entries.increment key delta (attempts + 1)).run
          (single.store (EntryCall Int64)).perform t).1 =
        ((Entries.increment key delta 1).run (EntryTable.answer t.clock)
          (t.cell single.table)).1 := by
    intro attempts
    refine (single.run_store _ h.2.1).trans (congrArg Prod.fst ?_)
    exact Entries.run_increment_eq (t.cell single.table) t.clock key delta attempts
  exact hequal.trans ((hone s.guards.size).trans (hone t.guards.size).symm)

/-- A stack of layers that were empty gives what one store that was empty gives, at every
point of a run and for every program, and all of its layers are equal to this store. -/
theorem run_eq_run_of_empty (contract : Contract) (stack : MemoryStack contract.Table)
    (single : MemoryStore contract.Table) {s t : Storage} (hstack : stack.Shows s fun _ => ∅)
    (hholds : t.Holds single.table) (hempty : t.cell single.table = ∅)
    (hclock : s.clock = t.clock) {α β : Type} (steps : List (Step contract.Call α))
    (p : Program contract.Call β) :
    (p.run (stack.store contract.Call).perform
        (stateAfter (Step.answer (stack.store contract.Call).perform) steps s)).1 =
      (p.run (single.store contract.Call).perform
        (stateAfter (Step.answer (single.store contract.Call).perform) steps t)).1 ∧
    ∀ place ≤ stack.lower.length,
      (stateAfter (Step.answer (stack.store contract.Call).perform) steps s).cell
          (stack.ref place) =
        (stateAfter (Step.answer (single.store contract.Call).perform) steps t).cell
          single.table := by
  have hcopies : stack.Copies single s t := ⟨by rwa [hempty], hholds, hclock⟩
  cases contract with
  | records =>
    have hrun := hcopies.run (fun _ => yields_throughRecordLayers) steps p
    exact ⟨hrun.1, fun place hplace => (hrun.2.1 place hplace).2⟩
  | texts =>
    have hrun := hcopies.run (fun _ => yields_throughEntryLayers) steps p
    exact ⟨hrun.1, fun place hplace => (hrun.2.1 place hplace).2⟩
  | counters =>
    have hrun := hcopies.run (fun _ => yields_throughEntryLayers) steps p
    exact ⟨hrun.1, fun place hplace => (hrun.2.1 place hplace).2⟩

/-- Three layers of counters, whose entry is replaced before it expires and read after that, give
what one store gives. -/
theorem run_eq_run_of_three_layers :
    let stack : MemoryStack (EntryTable Int64) :=
      ⟨"stack", ⟨"front", ⟨0⟩⟩, [⟨"middle", ⟨1⟩⟩, ⟨"back", ⟨2⟩⟩], by decide⟩
    let single : MemoryStore (EntryTable Int64) := ⟨"single", ⟨0⟩⟩
    let s : Storage := { counters := ⟨#[∅, ∅, ∅]⟩ }
    let t : Storage := { counters := ⟨#[∅]⟩ }
    let steps : List (Step (EntryCall Int64) Unit) :=
      [.program (Entries.put "hits" (some 5) 10), .clock 3,
        .program (Entries.compareAndSet "hits" (some 5) 6 >>= fun _ => pure ()), .clock 10]
    let p := Entries.increment "hits" 1 1
    (stack.Shows s fun _ => ∅) ∧ t.Holds single.table ∧ t.cell single.table = ∅ ∧
      s.clock = t.clock ∧
      (p.run (stack.store (EntryCall Int64)).perform
          (stateAfter (Step.answer (stack.store (EntryCall Int64)).perform) steps s)).1 =
        (p.run (single.store (EntryCall Int64)).perform
          (stateAfter (Step.answer (single.store (EntryCall Int64)).perform) steps t)).1 ∧
      ∀ place ≤ stack.lower.length,
        (stateAfter (Step.answer (stack.store (EntryCall Int64)).perform) steps s).cell
            (stack.ref place) =
          (stateAfter (Step.answer (single.store (EntryCall Int64)).perform) steps t).cell
            single.table := by
  intro stack single s t steps p
  have hstack : stack.Shows s fun _ => ∅ := by decide
  have hholds : t.Holds single.table := by decide
  exact ⟨hstack, hholds, rfl, rfl,
    run_eq_run_of_empty .counters stack single hstack hholds rfl rfl steps p⟩

end MemoryStack

end TieredStore
