import TieredStore.Proofs.Stack.Layerwise

/-!
# Layers behind guards

A stack whose layers are stores in memory, each behind any number of guards.  A guard can refuse
calls by their names, so every set of layer calls that fail is a setting of the guards.  What a
program on the layers comes to is computed on the tables alone: a call is answered from the
table of its layer, or it is refused and ends the program, with the changes made by then.
Layers may share a table.

Main results:

- Theorem `GuardedStack.Ready.run`: a program on the layers is a program on their tables.
- Theorem `GuardedStack.run_firstHit`: a look through layers gives the first hit.
- Theorem `GuardedStack.Changes.run_fanOut`: a change that goes to several layers is made at those
  before the first one that refuses it.
-/

namespace TieredStore

/-! ## Stores behind guards -/

namespace Store

/-- A store behind some guards, the outermost one first. -/
def behind {Base : Type} (guards : List (Ref Guard)) (inner : Store Base) : Store Base :=
  guards.foldr .guarded inner

variable {Call : Type} [Interface Call] [StoreKind Call]

/-- Guards do not change the name of a store. -/
theorem name_behind (guards : List (Ref Guard)) (inner : Store (StoreKind.Base Call)) :
    (behind guards inner).name = inner.name := by
  induction guards with
  | nil => rfl
  | cons guard rest ih =>
    rw [← ih, behind, List.foldr_cons, name]
    rfl

/-- Without rivals, a call is refused by one of the guards or answered by the store behind
them. -/
theorem perform_behind {guards : List (Ref Guard)} {s : Storage}
    (hquiet : ∀ guard ∈ guards, (s.cell guard).rival = none)
    (inner : Store (StoreKind.Base Call)) (call : Call) :
    (behind guards inner).perform call s =
      if guards.any fun guard => (s.cell guard).refuses (StoreKind.callName call) then
        (.error (.storage (.down inner.name (StoreKind.callName call))), s)
      else inner.perform call s := by
  induction guards with
  | nil => simp [behind]
  | cons guard rest ih =>
    have houter : (behind (guard :: rest) inner).perform call =
        throughGuard guard (behind rest inner).name (behind rest inner).perform call := by
      rw [behind, List.foldr_cons, perform]
      rfl
    have hrest := ih fun other hother => hquiet other (List.mem_cons_of_mem _ hother)
    rw [houter, throughGuard_apply, hquiet guard List.mem_cons_self, name_behind]
    cases hrefused : (s.cell guard).refuses (StoreKind.callName call) <;> simp [hrefused, hrest]

end Store

/-- A store in memory with the guards before it, the outermost one first. -/
structure GuardedStore (Table : Type) extends MemoryStore Table where
  guards : List (Ref Guard)

/-- A stack of stores in memory that are behind guards. -/
structure GuardedStack (Table : Type) where
  name : String
  front : GuardedStore Table
  lower : List (GuardedStore Table)

namespace GuardedStore

variable {Table : Type} (layer : GuardedStore Table)

/-- Whether one of the guards refuses the calls of a name. -/
def refuses (s : Storage) (call : String) : Bool :=
  layer.guards.any fun guard => (s.cell guard).refuses call

variable {Call : Type} [Interface Call] [StoreKind Call] [Inhabited Table] [Stored Table]
  [MemoryKind Call Table]

variable (Call) in
/-- The store as one of its kind. -/
def store : Store (StoreKind.Base Call) :=
  .behind layer.guards (layer.toMemoryStore.store Call)

variable (Call) in
/-- The error of a refused call. -/
def down (call : String) : StoreError :=
  .storage (.down (layer.toMemoryStore.store Call).name call)

/-- A call is refused by a guard or answered by the store behind the guards. -/
theorem perform_store {s : Storage} (hquiet : ∀ guard ∈ layer.guards, (s.cell guard).rival = none)
    (call : Call) :
    (layer.store Call).perform call s =
      if layer.refuses s (StoreKind.callName call) then
        (.error (layer.down Call (StoreKind.callName call)), s)
      else (layer.toMemoryStore.store Call).perform call s :=
  Store.perform_behind hquiet _ call

omit [Interface Call] [StoreKind Call] [MemoryKind Call Table] [Inhabited Table] [Stored Table] in
/-- What is refused depends on the settings of the guards. -/
theorem refuses_congr {s t : Storage} (h : t.guards = s.guards) (call : String) :
    layer.refuses t call = layer.refuses s call := by
  have hguard : ∀ guard : Ref Guard, t.cell guard = s.cell guard := fun guard =>
    congrArg (fun guards : Heap Guard => guards.get guard) h
  simp only [refuses, hguard]

end GuardedStore

namespace Storage

variable {Table : Type} [Inhabited Table] [Stored Table]

/-- Whether a storage has some tables, and is otherwise like some other one to stores of these
tables. -/
structure HasTables (s t : Storage) (tables : Ref Table → Table) : Prop where
  cell : ∀ ref, t.cell ref = tables ref
  clock : t.clock = s.clock
  guards : t.guards = s.guards
  holds : ∀ ref : Ref Table, t.Holds ref ↔ s.Holds ref

/-- A storage has its own tables. -/
theorem HasTables.refl (s : Storage) : s.HasTables s (s.cell : Ref Table → Table) :=
  ⟨fun _ => rfl, rfl, rfl, fun _ => Iff.rfl⟩

/-- A table is written. -/
theorem HasTables.setCell [StoredApart Table] {s t : Storage} {tables : Ref Table → Table}
    (h : s.HasTables t tables) {ref : Ref Table} (hholds : t.Holds ref) (table : Table) :
    s.HasTables (t.setCell ref table) (Function.update tables ref table) where
  cell other := by
    by_cases hsame : other = ref
    · subst hsame
      rw [cell_setCell_self _ hholds, Function.update_self]
    · rw [cell_setCell_of_ne _ _ hsame, Function.update_of_ne hsame, h.cell]
  clock := by rw [clock_setCell, h.clock]
  guards := by rw [guards_setCell, h.guards]
  holds other := by rw [holds_setCell_iff, h.holds]

end Storage

namespace GuardedStack

/-! ## The layers at the places -/

section Layers

variable {Table : Type} (stack : GuardedStack Table)

/-- The layers, front layer first. -/
def layers : List (GuardedStore Table) := stack.front :: stack.lower

/-- The layer at a place; beyond the last place the front layer stands in. -/
def layer (place : Nat) : GuardedStore Table := stack.layers[place]?.getD stack.front

/-- At the lower places there are the lower layers. -/
theorem map_layer_lowerPlaces :
    (Stack.lowerPlaces stack.lower.length).map stack.layer = stack.lower := by
  rw [Stack.lowerPlaces, List.map_map]
  apply List.ext_getElem
  · simp
  · intro place hplace hplace'
    simp [layer, layers, hplace']

/-- At the places of the stack there are its layers. -/
theorem map_layer_places :
    (0 :: Stack.lowerPlaces stack.lower.length).map stack.layer = stack.layers := by
  rw [List.map_cons, map_layer_lowerPlaces]
  rfl

/-- At every place there is a layer of the stack. -/
theorem layer_mem (place : Nat) : stack.layer place ∈ stack.layers := by
  rw [layer]
  cases hlayer : stack.layers[place]? with
  | none => exact List.mem_cons_self
  | some layer => exact List.mem_of_getElem? hlayer

/-- Whether the layers have tables, and no rival is in sight. -/
structure Ready [Inhabited Table] [Stored Table] (s : Storage) : Prop where
  holds : ∀ layer ∈ stack.layers, s.Holds layer.table
  quiet : ∀ layer ∈ stack.layers, ∀ guard ∈ layer.guards, (s.cell guard).rival = none

end Layers

variable {Call Table : Type} [Interface Call] [StoreKind Call] [Inhabited Table] [Stored Table]
  [MemoryKind Call Table] (stack : GuardedStack Table)

variable (Call) in
/-- The stack as a store of its kind. -/
def store : Store (StoreKind.Base Call) :=
  .stack stack.name (stack.front.store Call) (stack.lower.map (·.store Call))

variable (Call) in
/-- How the layers answer the calls that are meant for them. -/
def answer : Handler (At Nat Call) Storage :=
  Store.performAt (stack.front.store Call) (stack.lower.map (·.store Call))

/-- A call to the stack is its program run on the layers. -/
theorem perform_store (call : Call) :
    (stack.store Call).perform call =
      (StoreKind.throughLayers stack.lower.length call).run (stack.answer Call) := by
  rw [store, Store.perform_stack, List.length_map]
  rfl

/-- Each layer answers for itself. -/
theorem answer_eq (request : At Nat Call) :
    stack.answer Call request = ((stack.layer request.place).store Call).perform request.call := by
  have hlayer : (stack.front.store Call :: stack.lower.map (·.store Call))[request.place]?.getD
      (stack.front.store Call) = (stack.layer request.place).store Call := by
    show (stack.layers.map (·.store Call))[request.place]?.getD _ = _
    rw [List.getElem?_map, Option.getD_map]
    rfl
  rw [answer, Store.performAt_eq, hlayer]

/-! ## Programs on the tables -/

/-- How the layers answer on their tables alone, with the clock and the guards of some
storage. -/
def answerOn (s : Storage) : Handler (At Nat Call) (Ref Table → Table) := fun request tables =>
  if (stack.layer request.place).refuses s (StoreKind.callName request.call) then
    (.error ((stack.layer request.place).down Call (StoreKind.callName request.call)), tables)
  else
    ((MemoryKind.answer s.clock request.call (tables (stack.layer request.place).table)).1,
      Function.update tables (stack.layer request.place).table
        (MemoryKind.answer s.clock request.call (tables (stack.layer request.place).table)).2)

variable {stack} [StoredApart Table] {α : Type} {s t : Storage} {tables : Ref Table → Table}

/-- A call to a layer is answered, and changes its table, as on the tables alone. -/
theorem Ready.answer (h : stack.Ready s) (ht : s.HasTables t tables) (request : At Nat Call) :
    (stack.answer Call request t).1 = (stack.answerOn s request tables).1 ∧
      s.HasTables (stack.answer Call request t).2 (stack.answerOn s request tables).2 := by
  have hmem := stack.layer_mem request.place
  have hquiet : ∀ guard ∈ (stack.layer request.place).guards, (t.cell guard).rival = none := by
    intro guard hguard
    rw [show t.cell guard = s.cell guard from
      congrArg (fun guards : Heap Guard => guards.get guard) ht.guards]
    exact h.quiet _ hmem guard hguard
  rw [answer_eq, GuardedStore.perform_store _ hquiet, answerOn,
    GuardedStore.refuses_congr _ ht.guards]
  split
  · exact ⟨rfl, ht⟩
  · have hholds : t.Holds (stack.layer request.place).table := (ht.holds _).2 (h.holds _ hmem)
    rw [MemoryStore.perform_store, ht.clock, ht.cell]
    exact ⟨rfl, ht.setCell hholds _⟩

/-- A program on the layers is a program on their tables. -/
theorem Ready.run (h : stack.Ready s) (p : Program (At Nat Call) α) :
    (p.run (stack.answer Call) s).1 = (p.run (stack.answerOn s) s.cell).1 ∧
      s.HasTables (p.run (stack.answer Call) s).2 (p.run (stack.answerOn s) s.cell).2 := by
  have step : ∀ request t tables, s.HasTables t tables →
      (stack.answer Call request t).1 = (stack.answerOn s request tables).1 ∧
        s.HasTables (stack.answer Call request t).2 (stack.answerOn s request tables).2 :=
    fun request _ _ ht => h.answer ht request
  exact Program.run_related step p (Storage.HasTables.refl s)

/-- A call to the stack is its program run on the tables. -/
theorem Ready.perform (h : stack.Ready s) (call : Call) :
    ((stack.store Call).perform call s).1 =
        ((StoreKind.throughLayers stack.lower.length call).run (stack.answerOn s) s.cell).1 ∧
      s.HasTables ((stack.store Call).perform call s).2
        ((StoreKind.throughLayers stack.lower.length call).run (stack.answerOn s) s.cell).2 := by
  rw [perform_store]
  exact h.run _

omit [StoredApart Table] in
/-- A layer that does not refuse a call answers it from its table. -/
theorem run_of_admits {place : Nat} {call : Call} {table' : Table}
    {outcome : Except StoreError (Interface.Reply call)}
    (hadmits : (stack.layer place).refuses s (StoreKind.callName call) = false)
    (hanswer : MemoryKind.answer s.clock call (tables (stack.layer place).table) =
      (outcome, table')) :
    ((Program.ofCall call).at place).run (stack.answerOn s) tables =
      (outcome, Function.update tables (stack.layer place).table table') := by
  rw [Stack.run_ofCall_at, answerOn, hanswer]
  simp [hadmits]

omit [StoredApart Table] in
/-- A call to a layer that refuses it changes nothing. -/
theorem run_of_refuses {place : Nat} {call : Call}
    (hrefuses : (stack.layer place).refuses s (StoreKind.callName call) = true)
    (tables : Ref Table → Table) :
    ((Program.ofCall call).at place).run (stack.answerOn s) tables =
      (.error ((stack.layer place).down Call (StoreKind.callName call)), tables) := by
  rw [Stack.run_ofCall_at, answerOn]
  simp [hrefuses]

end GuardedStack

/-! ## Reads and changes through layers -/

/-- The layers before the first one that refuses the calls of a name. -/
def GuardedStore.reached {Table : Type} (layers : List (GuardedStore Table)) (s : Storage)
    (call : String) : List (GuardedStore Table) :=
  layers.takeWhile fun layer => !layer.refuses s call

/-- The tables of the layers before the first one that refuses the calls of a name. -/
def GuardedStore.reachedTables {Table : Type} (layers : List (GuardedStore Table)) (s : Storage)
    (call : String) : List (Ref Table) :=
  (reached layers s call).map (·.table)

/-- A call that no layer refuses reaches the tables of all of them. -/
theorem GuardedStore.reachedTables_eq {Table : Type} {layers : List (GuardedStore Table)}
    {s : Storage} {call : String} (hadmits : ∀ layer ∈ layers, layer.refuses s call = false) :
    reachedTables layers s call = layers.map (·.table) := by
  have hall : reached layers s call = layers := by
    rw [reached, List.takeWhile_eq_self_iff]
    intro layer hlayer
    simp [hadmits layer hlayer]
  rw [reachedTables, hall]

/-- Tables of which some are changed. -/
def Stack.changeAt {Table : Type} (refs : List (Ref Table)) (change : Table → Table)
    (tables : Ref Table → Table) : Ref Table → Table :=
  fun ref => if ref ∈ refs then change (tables ref) else tables ref

namespace GuardedStack

variable {Call Table : Type} [Interface Call] [StoreKind Call] [Inhabited Table] [Stored Table]
  [MemoryKind Call Table] {stack : GuardedStack Table} {s : Storage}

/-- A look through layers that have all been asked gives the first hit. -/
theorem run_firstHit {α : Type} {p : Program Call (Option α)} (hit : Table → Option α)
    {places : List Nat} {tables : Ref Table → Table}
    (hp : ∀ place ∈ places, (p.at place).run (stack.answerOn s) tables =
      (.ok (hit (tables (stack.layer place).table)), tables)) :
    (Stack.firstHit p places).run (stack.answerOn s) tables =
      (.ok ((places.map stack.layer).findSome? fun layer => hit (tables layer.table)), tables) := by
  induction places with
  | nil => rfl
  | cons place rest ih =>
    rw [Stack.firstHit_cons, Program.run_bind, Action.bind_apply, hp place List.mem_cons_self,
      List.map_cons, List.findSome?_cons]
    cases hit (tables (stack.layer place).table) with
    | some a => rfl
    | none => exact ih fun other hother => hp other (List.mem_cons_of_mem _ hother)

variable (stack s) in
/-- Whether a program is a single call of a name that makes some change to the table of any
layer that does not refuse it. -/
structure Changes (p : Program Call Unit) (call : String) (change : Table → Table) : Prop where
  refused : ∀ {place}, (stack.layer place).refuses s call = true → ∀ tables,
    (p.at place).run (stack.answerOn s) tables = (.error ((stack.layer place).down Call call), tables)
  admitted : ∀ {place}, (stack.layer place).refuses s call = false → ∀ tables,
    (p.at place).run (stack.answerOn s) tables =
      (.ok (), Function.update tables (stack.layer place).table
        (change (tables (stack.layer place).table)))

/-- A change that goes to several layers is made at those before the first one that refuses it.
Layers may share a table, so the change must be the same when it is made again. -/
theorem Changes.run_fanOut {p : Program Call Unit} {call : String} {change : Table → Table}
    (hp : stack.Changes s p call change) (hagain : ∀ table, change (change table) = change table)
    (places : List Nat) (tables : Ref Table → Table) :
    (Stack.fanOut p places).run (stack.answerOn s) tables =
      (match (places.map stack.layer).find? (·.refuses s call) with
        | none => .ok ()
        | some layer => .error (layer.down Call call),
      Stack.changeAt (GuardedStore.reachedTables (places.map stack.layer) s call) change tables) := by
  induction places generalizing tables with
  | nil =>
    have hnone : Stack.changeAt [] change tables = tables := funext fun _ => if_neg List.not_mem_nil
    exact Prod.ext rfl hnone.symm
  | cons place rest ih =>
    rw [Stack.fanOut_cons, Program.run_bind, Action.bind_apply, List.map_cons]
    cases hrefused : (stack.layer place).refuses s call with
    | true =>
      rw [hp.refused hrefused]
      refine Prod.ext ?_ (funext fun ref => ?_)
      · simp [hrefused]
      · simp [GuardedStore.reachedTables, GuardedStore.reached, hrefused, Stack.changeAt]
    | false =>
      rw [hp.admitted hrefused]
      dsimp only
      rw [ih]
      refine Prod.ext ?_ (funext fun ref => ?_)
      · simp [hrefused]
      · by_cases hsame : ref = (stack.layer place).table
        · subst hsame
          simp [Stack.changeAt, GuardedStore.reachedTables, GuardedStore.reached, hrefused, hagain]
        · simp [Stack.changeAt, GuardedStore.reachedTables, GuardedStore.reached, hrefused, hsame]

end GuardedStack

end TieredStore
