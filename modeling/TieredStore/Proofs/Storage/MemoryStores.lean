import Mathlib.Data.List.Nodup
import Mathlib.Logic.Function.Basic
import TieredStore.Proofs.Runs
import TieredStore.Proofs.Storage.Cells
import TieredStore.Storage.EntryStore
import TieredStore.Storage.RecordStore

/-!
# Stores in memory and stacks of them

A store in memory answers from its table.  In a stack of such stores that share no table,
a call to a layer concerns the table of that layer alone, so a program on the layers can be
followed on a family of tables, one for each place.

Main results:

- Theorem `MemoryStack.Shows.answer`: a call to a layer is answered from its table and
  changes no other.
- Theorem `MemoryStack.Yields.bind`: programs in a row are followed one after the other.
- Theorem `MemoryStack.yields_fanOut`: a change that goes to several layers is made in
  each of them.
-/

namespace TieredStore

/-! ## Stores in memory and stacks of them -/

/-- A store in memory: its name and its table. -/
structure MemoryStore (Table : Type) where
  name : String
  table : Ref Table

/-- A stack of stores in memory that share no table. -/
structure MemoryStack (Table : Type) where
  name : String
  front : MemoryStore Table
  lower : List (MemoryStore Table)
  separate : ((front :: lower).map MemoryStore.table).Nodup

namespace MemoryStack

variable {Table : Type} (stack : MemoryStack Table)

/-- The layers, front layer first. -/
def layers : List (MemoryStore Table) := stack.front :: stack.lower

/-- The table of the layer at a place; beyond the last place the front layer stands in. -/
def ref (place : Nat) : Ref Table := (stack.layers[place]?.getD stack.front).table

/-- Different places have different tables. -/
theorem ref_ne {place other : Nat} (hplace : place ≤ stack.lower.length)
    (hother : other ≤ stack.lower.length) (hne : place ≠ other) :
    stack.ref place ≠ stack.ref other := by
  have href : ∀ {i : Nat} (h : i < (stack.layers.map MemoryStore.table).length),
      stack.ref i = (stack.layers.map MemoryStore.table)[i] := by
    intro i h
    rw [List.length_map] at h
    rw [ref, List.getElem?_eq_getElem h, List.getElem_map]
    rfl
  have hlength : (stack.layers.map MemoryStore.table).length = stack.lower.length + 1 := by
    rw [List.length_map]
    rfl
  rw [href (by omega), href (by omega)]
  intro hsame
  exact hne ((List.Nodup.getElem_inj_iff stack.separate).1 hsame)

end MemoryStack

/-! ## Kinds of stores in memory -/

/-- A kind of store that can keep its contents in a table in memory. -/
class MemoryKind (Call : Type) (Table : outParam Type) [Interface Call] [StoreKind Call]
    [Inhabited Table] [Stored Table] where
  /-- The base store with a name and a table. -/
  base : MemoryStore Table → StoreKind.Base Call
  /-- How a table answers calls at a time. -/
  answer : Int64 → Handler Call Table
  answer_base : ∀ (store : MemoryStore Table) (call : Call) (s : Storage),
    StoreKind.answer (base store) call s = Storage.onCell store.table (answer s.clock call) s

instance : MemoryKind RecordCall RecordTable where
  base store := .memory store.name store.table
  answer _ := RecordTable.answer
  answer_base _ _ _ := rfl

instance {V : Type} [DecidableEq V] [Stored (EntryTable V)] [EntryValue V] :
    MemoryKind (EntryCall V) (EntryTable V) where
  base store := ⟨store.name, store.table⟩
  answer := EntryTable.answer
  answer_base _ _ _ := rfl

variable {Call Table : Type} [Interface Call] [StoreKind Call] [Inhabited Table] [Stored Table]
  [MemoryKind Call Table]

namespace MemoryStore

variable (Call) in
/-- The store as one of its kind. -/
def store (m : MemoryStore Table) : Store (StoreKind.Base Call) := .base (MemoryKind.base m)

/-- A store in memory answers from its table at the time of the clock. -/
theorem perform_store (m : MemoryStore Table) (call : Call) (s : Storage) :
    (m.store Call).perform call s =
      ((MemoryKind.answer s.clock call (s.cell m.table)).1,
        s.setCell m.table (MemoryKind.answer s.clock call (s.cell m.table)).2) := by
  rw [store, Store.perform]
  exact MemoryKind.answer_base m call s

/-- A program against a store in memory is a program against its table. -/
theorem run_store [StoredApart Table] (m : MemoryStore Table) {α : Type} (p : Program Call α)
    {s : Storage} (hholds : s.Holds m.table) :
    (p.run (m.store Call).perform s).1 =
      (p.run (MemoryKind.answer s.clock) (s.cell m.table)).1 := by
  have step : ∀ (call : Call) (s' : Storage) (table : Table),
      (s'.cell m.table = table ∧ s'.Holds m.table ∧ s'.clock = s.clock) →
      ((m.store Call).perform call s').1 = (MemoryKind.answer s.clock call table).1 ∧
        ((m.store Call).perform call s').2.cell m.table =
          (MemoryKind.answer s.clock call table).2 ∧
        ((m.store Call).perform call s').2.Holds m.table ∧
        ((m.store Call).perform call s').2.clock = s.clock := by
    rintro call s' table ⟨rfl, hholds, hclock⟩
    rw [perform_store, hclock]
    exact ⟨rfl, Storage.cell_setCell_self _ hholds, (Storage.holds_setCell_iff _).2 hholds,
      (Storage.clock_setCell _ _ _).trans hclock⟩
  exact (Program.run_related step p ⟨rfl, hholds, rfl⟩).1

end MemoryStore

/-! ## The places of the layers -/

namespace Stack

variable {lower place : Nat}

/-- The places of a stack are those of its layers. -/
theorem mem_places_iff : place ∈ 0 :: lowerPlaces lower ↔ place ≤ lower := by
  rw [← places_eq, places, List.mem_range, Nat.lt_succ_iff]

/-- The lower places are those of the layers behind the front layer. -/
theorem mem_lowerPlaces_iff : place ∈ lowerPlaces lower ↔ place ≠ 0 ∧ place ≤ lower := by
  simp only [lowerPlaces, List.mem_map, List.mem_range]
  constructor
  · rintro ⟨i, hi, rfl⟩
    exact ⟨Nat.succ_ne_zero i, hi⟩
  · rintro ⟨hne, hle⟩
    exact ⟨place - 1, by omega, by omega⟩

/-- No place occurs twice. -/
theorem nodup_places (lower : Nat) : (0 :: lowerPlaces lower).Nodup := by
  rw [← places_eq]
  exact List.nodup_range

/-- No lower place occurs twice. -/
theorem nodup_lowerPlaces (lower : Nat) : (lowerPlaces lower).Nodup :=
  (List.nodup_cons.1 (nodup_places lower)).2

end Stack

/-! ## Calls to a stack and its layers -/

namespace Store

/-- A lower layer answers for itself, and the front layer beyond the last place. -/
theorem performBelow_eq (front : Store (StoreKind.Base Call))
    (lower : List (Store (StoreKind.Base Call))) (place : Nat) (call : Call) :
    performBelow front.perform lower place call = (lower[place]?.getD front).perform call := by
  induction lower generalizing place with
  | nil =>
    rw [performBelow]
    rfl
  | cons layer rest ih =>
    cases place with
    | zero =>
      rw [performBelow]
      rfl
    | succ place =>
      rw [performBelow, ih place]
      rfl

/-- Each layer answers for itself, and the front layer beyond the last place. -/
theorem performAt_eq (front : Store (StoreKind.Base Call))
    (lower : List (Store (StoreKind.Base Call))) (request : At Nat Call) :
    performAt front lower request =
      ((front :: lower)[request.place]?.getD front).perform request.call := by
  obtain ⟨place, call⟩ := request
  cases place with
  | zero => rfl
  | succ place => exact performBelow_eq front lower place call

end Store

namespace MemoryStack

variable (stack : MemoryStack Table)

variable (Call) in
/-- The stack as a store of its kind. -/
def store : Store (StoreKind.Base Call) :=
  .stack stack.name (stack.front.store Call) (stack.lower.map (·.store Call))

variable (Call) in
/-- How the layers answer the calls that are meant for them. -/
def answer : Handler (At Nat Call) Storage :=
  Store.performAt (stack.front.store Call) (stack.lower.map (·.store Call))

/-- A call to the stack is its program run on the layers. -/
theorem perform_store (call : Call) :
    (stack.store Call).perform call =
      (StoreKind.throughLayers stack.lower.length call).run (stack.answer Call) := by
  rw [store, Store.perform_stack, List.length_map]
  rfl

/-- A call to a layer is answered from its table. -/
theorem answer_apply (request : At Nat Call) (s : Storage) :
    stack.answer Call request s =
      ((MemoryKind.answer s.clock request.call (s.cell (stack.ref request.place))).1,
        s.setCell (stack.ref request.place)
          (MemoryKind.answer s.clock request.call (s.cell (stack.ref request.place))).2) := by
  have hlayer : (stack.front.store Call :: stack.lower.map (·.store Call))[request.place]?.getD
      (stack.front.store Call) = ((stack.layers[request.place]?.getD stack.front).store Call) := by
    rw [← List.map_cons, List.getElem?_map, Option.getD_map]
    rfl
  rw [answer, Store.performAt_eq, hlayer, MemoryStore.perform_store]
  rfl

/-! ## The tables at the places -/

/-- Whether the layers hold some tables, one for each place. -/
def Shows (s : Storage) (tables : Nat → Table) : Prop :=
  ∀ place ≤ stack.lower.length, s.Holds (stack.ref place) ∧ s.cell (stack.ref place) = tables place

instance [DecidableEq Table] (s : Storage) (tables : Nat → Table) :
    Decidable (stack.Shows s tables) :=
  inferInstanceAs (Decidable (∀ place ≤ stack.lower.length, _ ∧ _))

variable {stack} {s : Storage} {tables tables' : Nat → Table}

/-- Only the tables at the places of the layers count. -/
theorem Shows.congr (h : stack.Shows s tables)
    (heq : ∀ place ≤ stack.lower.length, tables place = tables' place) :
    stack.Shows s tables' :=
  fun place hplace => ⟨(h place hplace).1, (h place hplace).2.trans (heq place hplace)⟩

/-! ## Following programs on the tables -/

variable {α β : Type} {clock : Int64}

variable (stack) in
/-- Whether a program on the layers has a result at a time, and what it makes of some
tables. -/
def Yields (clock : Int64) (tables : Nat → Table) (p : Program (At Nat Call) α)
    (result : Except StoreError α) (tables' : Nat → Table) : Prop :=
  ∀ s, stack.Shows s tables → s.clock = clock →
    (p.run (stack.answer Call) s).1 = result ∧
      stack.Shows (p.run (stack.answer Call) s).2 tables' ∧
      (p.run (stack.answer Call) s).2.clock = clock

/-- A program without calls changes nothing. -/
theorem yields_pure (a : α) :
    stack.Yields clock tables (pure a : Program (At Nat Call) α) (.ok a) tables :=
  fun _ h hclock => ⟨rfl, h, hclock⟩

/-- The next program goes on with the result and the tables that are left. -/
theorem Yields.bind {p : Program (At Nat Call) α} {f : α → Program (At Nat Call) β} {a : α}
    {result : Except StoreError β} {tables'' : Nat → Table}
    (hp : stack.Yields clock tables p (.ok a) tables')
    (hf : stack.Yields clock tables' (f a) result tables'') :
    stack.Yields clock tables (p >>= f) result tables'' := by
  intro s h hclock
  obtain ⟨hresult, hshows, hclock'⟩ := hp s h hclock
  rw [Program.run_bind, Action.bind_apply]
  rcases hrun : p.run (stack.answer Call) s with ⟨result', s'⟩
  rw [hrun] at hresult hshows hclock'
  subst hresult
  exact hf s' hshows hclock'

/-- An error ends the programs that follow. -/
theorem Yields.bind_error {p : Program (At Nat Call) α} {f : α → Program (At Nat Call) β}
    {e : StoreError} (hp : stack.Yields clock tables p (.error e) tables') :
    stack.Yields clock tables (p >>= f) (.error e) tables' := by
  intro s h hclock
  obtain ⟨hresult, hshows, hclock'⟩ := hp s h hclock
  rw [Program.run_bind, Action.bind_apply]
  rcases hrun : p.run (stack.answer Call) s with ⟨result', s'⟩
  rw [hrun] at hresult hshows hclock'
  subst hresult
  exact ⟨rfl, hshows, hclock'⟩

/-- Only the tables at the places of the layers count. -/
theorem Yields.congr {p : Program (At Nat Call) α} {result : Except StoreError α}
    {tables'' : Nat → Table} (h : stack.Yields clock tables p result tables')
    (heq : ∀ place ≤ stack.lower.length, tables' place = tables'' place) :
    stack.Yields clock tables p result tables'' := by
  intro s hs hclock
  obtain ⟨hresult, hshows, hclock'⟩ := h s hs hclock
  exact ⟨hresult, hshows.congr heq, hclock'⟩

/-! ## Following calls to the layers -/

variable [StoredApart Table]

/-- Setting the clock leaves the tables alone. -/
theorem Shows.withClock (h : stack.Shows s tables) (time : Int64) :
    stack.Shows { s with clock := time } tables :=
  fun place hplace => ⟨(Storage.holds_withClock_iff s time).2 (h place hplace).1,
    (Storage.cell_withClock s time _).trans (h place hplace).2⟩

/-- A write to the table of a place is a write to no other. -/
theorem Shows.setCell (h : stack.Shows s tables) {place : Nat}
    (hplace : place ≤ stack.lower.length) (table : Table) :
    stack.Shows (s.setCell (stack.ref place) table) (Function.update tables place table) := by
  intro other hother
  refine ⟨(Storage.holds_setCell_iff _).2 (h other hother).1, ?_⟩
  by_cases hsame : other = place
  · subst hsame
    rw [Storage.cell_setCell_self _ (h other hother).1, Function.update_self]
  · rw [Storage.cell_setCell_of_ne _ _ (stack.ref_ne hother hplace hsame),
      Function.update_of_ne hsame]
    exact (h other hother).2

/-- A call to a layer is answered from its table and changes no other. -/
theorem Shows.answer (h : stack.Shows s tables) (request : At Nat Call)
    (hplace : request.place ≤ stack.lower.length) :
    (stack.answer Call request s).1 =
        (MemoryKind.answer s.clock request.call (tables request.place)).1 ∧
      stack.Shows (stack.answer Call request s).2 (Function.update tables request.place
        (MemoryKind.answer s.clock request.call (tables request.place)).2) := by
  have hcell := (h request.place hplace).2
  rw [answer_apply, hcell]
  exact ⟨rfl, h.setCell hplace _⟩

/-- No call to a layer sets the clock. -/
theorem clock_answer (request : At Nat Call) (s : Storage) :
    (stack.answer Call request s).2.clock = s.clock := by
  rw [answer_apply, Storage.clock_setCell]

/-- A program on one layer runs against its table. -/
theorem yields_at {place : Nat} {p : Program Call α} {result : Except StoreError α}
    {table' : Table} (hplace : place ≤ stack.lower.length)
    (hp : p.run (MemoryKind.answer clock) (tables place) = (result, table')) :
    stack.Yields clock tables (p.at place) result (Function.update tables place table') := by
  intro s h hclock
  have step : ∀ (call : Call) (s : Storage) (table : Table),
      (stack.Shows s (Function.update tables place table) ∧ s.clock = clock) →
      (stack.answer Call ⟨place, call⟩ s).1 = (MemoryKind.answer clock call table).1 ∧
        stack.Shows (stack.answer Call ⟨place, call⟩ s).2
          (Function.update tables place (MemoryKind.answer clock call table).2) ∧
        (stack.answer Call ⟨place, call⟩ s).2.clock = clock := by
    rintro call s table ⟨h, rfl⟩
    have hanswer := h.answer (⟨place, call⟩ : At Nat Call) hplace
    rw [Function.update_self, Function.update_idem] at hanswer
    exact ⟨hanswer.1, hanswer.2, clock_answer _ s⟩
  have hrun := Program.run_related step p ⟨(Function.update_eq_self place tables).symm ▸ h, hclock⟩
  rw [hp] at hrun
  rw [Program.run_at]
  exact hrun

/-- A program on one layer that leaves its table as it is leaves everything as it is. -/
theorem yields_read {place : Nat} {p : Program Call α} {result : Except StoreError α}
    (hplace : place ≤ stack.lower.length)
    (hp : p.run (MemoryKind.answer clock) (tables place) = (result, tables place)) :
    stack.Yields clock tables (p.at place) result tables := by
  have hat := yields_at hplace hp
  rwa [Function.update_eq_self] at hat

/-- A change that goes to several layers is made in each of them. -/
theorem yields_fanOut {p : Program Call Unit} {places : List Nat} (changed : Nat → Table)
    (hplaces : ∀ place ∈ places, place ≤ stack.lower.length) (hnodup : places.Nodup)
    (hp : ∀ place ∈ places,
      p.run (MemoryKind.answer clock) (tables place) = (.ok (), changed place)) :
    stack.Yields clock tables (Stack.fanOut p places) (.ok ())
      fun place => if place ∈ places then changed place else tables place := by
  induction places generalizing tables with
  | nil => exact yields_pure ()
  | cons place rest ih =>
    obtain ⟨hfirst, hrest⟩ := List.nodup_cons.1 hnodup
    rw [Stack.fanOut_cons]
    refine (yields_at (hplaces place List.mem_cons_self) (hp place List.mem_cons_self)).bind
      ((ih (fun other hother => hplaces other (List.mem_cons_of_mem _ hother)) hrest
        fun other hother => ?_).congr fun other _ => ?_)
    · have hne : other ≠ place := fun hsame => hfirst (hsame ▸ hother)
      rw [Function.update_of_ne hne]
      exact hp other (List.mem_cons_of_mem _ hother)
    · by_cases hsame : other = place
      · subst hsame
        simp [hfirst]
      · simp [hsame]

/-- The first layer already refuses a change that its table refuses. -/
theorem yields_fanOut_of_error {p : Program Call Unit} {place : Nat} {rest : List Nat}
    {e : StoreError} (hplace : place ≤ stack.lower.length)
    (hp : p.run (MemoryKind.answer clock) (tables place) = (.error e, tables place)) :
    stack.Yields clock tables (Stack.fanOut p (place :: rest)) (.error e) tables := by
  rw [Stack.fanOut_cons]
  exact (yields_read hplace hp).bind_error

end MemoryStack

end TieredStore
