import TieredStore.Proofs.Relational.Sharing
import TieredStore.Proofs.Storage.MemoryStores

/-!
# The parts of the storage behind a store

Every base store keeps one table, in memory or as its rows in a database.  Behind a store of any
shape there is a list of such parts of the storage, front layer first: those of its base stores,
seen through stacks and guards.  As long as the parts are separate, the storage behind a store is
a family of tables, one for each part, and a call to a base store concerns the table of its own
part alone.

Main results:

- Theorem `Storage.Views.answer`: a base store answers from the table of its part and changes no
  other, or it refuses the call and nothing changes.
- Theorem `Store.inductionOn`: induction over stores, with one hypothesis for all layers of a
  stack.
- Theorem `Store.parts_stack`: the parts behind a stack are those behind its layers.
-/

namespace TieredStore

/-! ## Parts -/

/-- A kind of store whose base stores keep one table each, in a part of the storage. -/
class PartKind (Call : Type) (Table : outParam Type) [Interface Call] [StoreKind Call]
    [Inhabited Table] [Stored Table] [MemoryKind Call Table] where
  /-- A part of the storage. -/
  Part : Type
  decidablePart : DecidableEq Part
  part : StoreKind.Base Call → Part
  /-- Whether there is some table in a part. -/
  Keeps : Storage → Part → Table → Prop
  /-- A base store answers like its table, or refuses a call that changes nothing then. -/
  keeps_answer : ∀ (base : StoreKind.Base Call) (call : Call) (s : Storage) (table : Table),
    Keeps s (part base) table → ∃ table',
      Keeps (StoreKind.answer base call s).2 (part base) table' ∧
      ((∃ e, (StoreKind.answer base call s).1 = .error e ∧ table' = table) ∨
        ((StoreKind.answer base call s).1, table') = MemoryKind.answer s.clock call table)
  keeps_answer_of_ne : ∀ (base : StoreKind.Base Call) (call : Call) (s : Storage) (other : Part)
    (table : Table), Keeps s other table → other ≠ part base →
      Keeps (StoreKind.answer base call s).2 other table
  clock_answer : ∀ (base : StoreKind.Base Call) (call : Call) (s : Storage),
    (StoreKind.answer base call s).2.clock = s.clock
  guards_answer : ∀ (base : StoreKind.Base Call) (call : Call) (s : Storage),
    (StoreKind.answer base call s).2.guards = s.guards
  keeps_withClock : ∀ (s : Storage) (part : Part) (table : Table) (time : Int64),
    Keeps s part table → Keeps { s with clock := time } part table
  keeps_withGuards : ∀ (s : Storage) (part : Part) (table : Table) (guards : Heap Guard),
    Keeps s part table → Keeps { s with guards } part table

instance {Call Table : Type} [Interface Call] [StoreKind Call] [Inhabited Table] [Stored Table]
    [MemoryKind Call Table] [PartKind Call Table] : DecidableEq (PartKind.Part Call) :=
  PartKind.decidablePart

/-- A store of entries keeps its table in a cell. -/
instance {V : Type} [DecidableEq V] [Stored (EntryTable V)] [StoredApart (EntryTable V)]
    [EntryValue V] : PartKind (EntryCall V) (EntryTable V) where
  Part := Ref (EntryTable V)
  decidablePart := inferInstance
  part := EntryBase.table
  Keeps s ref table := s.Holds ref ∧ s.cell ref = table
  keeps_answer base call s table := by
    rintro ⟨hholds, rfl⟩
    exact ⟨_, ⟨(Storage.holds_setCell_iff _).2 hholds, Storage.cell_setCell_self _ hholds⟩,
      .inr rfl⟩
  keeps_answer_of_ne base call s other table h hne :=
    ⟨(Storage.holds_setCell_iff _).2 h.1, (Storage.cell_setCell_of_ne s _ hne).trans h.2⟩
  clock_answer base call s := Storage.clock_setCell s _ _
  guards_answer base call s := Storage.guards_setCell s _ _
  keeps_withClock s ref table time h :=
    ⟨(Storage.holds_withClock_iff s time).2 h.1, (Storage.cell_withClock s time ref).trans h.2⟩
  keeps_withGuards s ref table guards h :=
    ⟨(Storage.holds_withGuards_iff s guards).2 h.1,
      (Storage.cell_withGuards s guards ref).trans h.2⟩

/-- Where a store of records keeps its table. -/
inductive RecordPart where
  | inMemory (ref : Ref RecordTable)
  /-- The rows under the name of a store. -/
  | inDatabase (database : Ref Database) (store : String)
  deriving DecidableEq

namespace RecordPart

/-- The part that belongs to a base store. -/
def ofBase : RecordBase → RecordPart
  | .memory _ table => .inMemory table
  | .relational name database => .inDatabase database name

/-- Whether there is some table of records in a part. -/
def Keeps (s : Storage) : RecordPart → RecordTable → Prop
  | .inMemory ref, table => s.Holds ref ∧ s.cell ref = table
  | .inDatabase database store, table => s.Holds database ∧ (s.cell database).Keeps store table

/-- A base store answers like its table, or refuses a call that changes nothing then. -/
theorem keeps_answer (base : RecordBase) (call : RecordCall) (s : Storage) (table : RecordTable)
    (h : Keeps s (ofBase base) table) :
    ∃ table', Keeps (base.answer call s).2 (ofBase base) table' ∧
      ((∃ e, (base.answer call s).1 = .error e ∧ table' = table) ∨
        ((base.answer call s).1, table') = RecordTable.answer call table) := by
  cases base with
  | memory name ref =>
    obtain ⟨hholds, rfl⟩ := h
    exact ⟨_, ⟨(Storage.holds_setCell_iff _).2 hholds, Storage.cell_setCell_self _ hholds⟩,
      .inr rfl⟩
  | relational name database =>
    obtain ⟨hholds, hkeeps⟩ := h
    have hcell : (RecordBase.answer (.relational name database) call s).2.cell database =
        (Database.answer name call (s.cell database)).2 := Storage.cell_setCell_self _ hholds
    have hholds' : (RecordBase.answer (.relational name database) call s).2.Holds database :=
      (Storage.holds_setCell_iff _).2 hholds
    rcases hkeeps.answer call with ⟨e, hrefused⟩ | ⟨hresult, hkeeps'⟩
    · have hsame := hcell.trans (congrArg Prod.snd hrefused)
      exact ⟨table, ⟨hholds', hsame ▸ hkeeps⟩, .inl ⟨e, congrArg Prod.fst hrefused, rfl⟩⟩
    · exact ⟨_, ⟨hholds', hcell ▸ hkeeps'⟩, .inr (Prod.ext hresult rfl)⟩

/-- A base store changes no other part. -/
theorem keeps_answer_of_ne (base : RecordBase) (call : RecordCall) (s : Storage)
    (other : RecordPart) (table : RecordTable) (h : Keeps s other table)
    (hne : other ≠ ofBase base) : Keeps (base.answer call s).2 other table := by
  cases base with
  | memory name ref =>
    cases other with
    | inMemory otherRef =>
      exact ⟨(Storage.holds_setCell_iff _).2 h.1,
        (Storage.cell_setCell_of_ne s _ fun hsame => hne (congrArg _ hsame)).trans h.2⟩
    | inDatabase database store => exact h
  | relational name database =>
    cases other with
    | inMemory ref => exact h
    | inDatabase otherDatabase store =>
      refine ⟨(Storage.holds_setCell_iff _).2 h.1, ?_⟩
      by_cases hsame : otherDatabase = database
      · subst hsame
        have hstore : store ≠ name := fun hsame => hne (congrArg _ hsame)
        have hcell : (RecordBase.answer (.relational name otherDatabase) call s).2.cell
            otherDatabase = (Database.answer name call (s.cell otherDatabase)).2 :=
          Storage.cell_setCell_self _ h.1
        rw [hcell]
        exact h.2.answer_of_ne hstore call
      · have hcell : (RecordBase.answer (.relational name database) call s).2.cell
            otherDatabase = s.cell otherDatabase := Storage.cell_setCell_of_ne s _ hsame
        rw [hcell]
        exact h.2

end RecordPart

instance : PartKind RecordCall RecordTable where
  Part := RecordPart
  decidablePart := inferInstance
  part := RecordPart.ofBase
  Keeps := RecordPart.Keeps
  keeps_answer := RecordPart.keeps_answer
  keeps_answer_of_ne := RecordPart.keeps_answer_of_ne
  clock_answer base call s := by cases base <;> exact Storage.clock_setCell s _ _
  guards_answer base call s := by cases base <;> exact Storage.guards_setCell s _ _
  keeps_withClock s part table time h := by cases part <;> exact h
  keeps_withGuards s part table guards h := by cases part <;> exact h

/-! ## The parts behind a store -/

/-- Induction over stores, with one hypothesis for all layers of a stack. -/
theorem Store.inductionOn {Base : Type} {motive : Store Base → Prop} (store : Store Base)
    (base : ∀ store, motive (.base store))
    (stack : ∀ name front lower, (∀ layer ∈ front :: lower, motive layer) →
      motive (.stack name front lower))
    (guarded : ∀ guard inner, motive inner → motive (.guarded guard inner)) : motive store := by
  refine @Store.rec Base motive (fun layers => ∀ layer ∈ layers, motive layer) base
    (fun name front lower hfront hlower => ?_) guarded ?_ ?_ store
  · exact stack name front lower (List.forall_mem_cons.2 ⟨hfront, hlower⟩)
  · exact fun layer hlayer => nomatch hlayer
  · exact fun first rest hfirst hrest => List.forall_mem_cons.2 ⟨hfirst, hrest⟩

section Stores

variable {Call Table : Type} [Interface Call] [StoreKind Call] [Inhabited Table] [Stored Table]
  [MemoryKind Call Table] [PartKind Call Table]

namespace Store

mutual

/-- The parts of the storage behind a store, front layer first. -/
def parts : Store (StoreKind.Base Call) → List (PartKind.Part Call)
  | .base store => [PartKind.part store]
  | .stack _ front lower => parts front ++ partsOfAll lower
  | .guarded _ inner => parts inner

/-- The parts of the storage behind some layers. -/
def partsOfAll : List (Store (StoreKind.Base Call)) → List (PartKind.Part Call)
  | [] => []
  | layer :: rest => parts layer ++ partsOfAll rest

end

/-- The parts behind some layers are those behind each of them. -/
theorem partsOfAll_eq_flatMap (layers : List (Store (StoreKind.Base Call))) :
    partsOfAll layers = layers.flatMap parts := by
  induction layers with
  | nil => rw [partsOfAll, List.flatMap_nil]
  | cons layer rest ih => rw [partsOfAll, ih, List.flatMap_cons]

/-- The parts behind a stack are those behind its layers. -/
theorem parts_stack (name : String) (front : Store (StoreKind.Base Call))
    (lower : List (Store (StoreKind.Base Call))) :
    parts (.stack name front lower) = (front :: lower).flatMap parts := by
  rw [parts, partsOfAll_eq_flatMap, List.flatMap_cons]

end Store

/-! ## The storage as a family of tables -/

namespace Storage

/-- Whether some parts of the storage have tables, at a time and with no rival in sight. -/
structure Views (s : Storage) (parts : List (PartKind.Part Call)) (now : Int64)
    (view : PartKind.Part Call → Table) : Prop where
  keeps : ∀ part ∈ parts, PartKind.Keeps s part (view part)
  clock : s.clock = now
  quiet : ∀ guard : Ref Guard, (s.cell guard).rival = none

variable {s : Storage} {parts : List (PartKind.Part Call)} {now : Int64}
  {view : PartKind.Part Call → Table}

/-- A base store answers from the table of its part and changes no other, or it refuses the call
and nothing changes. -/
theorem Views.answer (h : s.Views parts now view) {base : StoreKind.Base Call}
    (hbase : PartKind.part base ∈ parts) (call : Call) :
    ∃ table', (StoreKind.answer base call s).2.Views parts now
        (Function.update view (PartKind.part base) table') ∧
      ((∃ e, (StoreKind.answer base call s).1 = .error e ∧ table' = view (PartKind.part base)) ∨
        ((StoreKind.answer base call s).1, table') =
          MemoryKind.answer now call (view (PartKind.part base))) := by
  obtain ⟨table', hkeeps, hresult⟩ :=
    PartKind.keeps_answer base call s _ (h.keeps (PartKind.part base) hbase)
  rw [h.clock] at hresult
  refine ⟨table', ⟨fun part hpart => ?_, ?_, fun guard => ?_⟩, hresult⟩
  · by_cases hsame : part = PartKind.part base
    · subst hsame
      rw [Function.update_self]
      exact hkeeps
    · rw [Function.update_of_ne hsame]
      exact PartKind.keeps_answer_of_ne base call s part _ (h.keeps part hpart) hsame
  · exact (PartKind.clock_answer base call s).trans h.clock
  · rw [show (StoreKind.answer base call s).2.cell guard = s.cell guard from
      congrArg (fun guards : Heap Guard => guards.get guard) (PartKind.guards_answer base call s)]
    exact h.quiet guard

/-- Setting the clock leaves the tables alone. -/
theorem Views.withClock (h : s.Views parts now view) (time : Int64) :
    ({ s with clock := time } : Storage).Views parts time view :=
  ⟨fun part hpart => PartKind.keeps_withClock s part _ time (h.keeps part hpart), rfl, h.quiet⟩

/-- Telling a guard what to refuse leaves the tables alone. -/
theorem Views.refuse (h : s.Views parts now view) (guard : Ref Guard) (calls : List String) :
    (s.setCell guard { refused := calls }).Views parts now view := by
  refine ⟨fun part hpart => PartKind.keeps_withGuards s part _ _ (h.keeps part hpart), h.clock, ?_⟩
  intro other
  show ((s.guards.set guard _).get other).rival = none
  by_cases hholds : s.guards.Holds guard
  · by_cases hsame : other = guard
    · subst hsame
      rw [Heap.get_set_self _ hholds]
    · rw [Heap.get_set_of_ne _ _ hsame]
      exact h.quiet other
  · rw [Heap.set_of_not_holds _ hholds]
    exact h.quiet other

end Storage

end Stores

/-- The parts of the storage behind a store of records. -/
abbrev RecordStore.parts (store : RecordStore) : List (PartKind.Part RecordCall) :=
  @Store.parts RecordCall _ _ _ _ _ _ _ store

/-- The parts of the storage behind a store of entries. -/
abbrev EntryStore.parts {V : Type} [DecidableEq V] [Stored (EntryTable V)]
    [StoredApart (EntryTable V)] [EntryValue V] (store : EntryStore V) :
    List (PartKind.Part (EntryCall V)) :=
  @Store.parts (EntryCall V) _ _ _ _ _ _ _ store

end TieredStore
