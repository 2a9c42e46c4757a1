import TieredStore.Proofs.Stack.Layerwise

/-!
# Look-ups that succeed

A look-up by key goes through the layers until one of them has something.  It has a result
unless a guard of the store refuses it or a database of the store is not set up.

Main results:

- Theorem `Store.succeeds_perform`: a call that no guard refuses, and that all base stores and
  all stacks carry out, is carried out by every store.
- Theorems `RecordStore.get_succeeds` and `EntryStore.get_succeeds`: when look-ups succeed.
-/

namespace TieredStore

variable {α β : Type} {Inv : Storage → Prop}

/-! ## Actions that succeed -/

namespace Action

/-- Whether an action has a result, and keeps an invariant, as long as the invariant holds. -/
def Succeeds (Inv : Storage → Prop) (x : Action Storage α) : Prop :=
  ∀ s, Inv s → ∃ a, (x s).1 = .ok a ∧ Inv (x s).2

/-- Giving a result succeeds. -/
theorem succeeds_pure (a : α) : Succeeds Inv (pure a) :=
  fun _ hs => ⟨a, rfl, hs⟩

/-- Actions in a row succeed if each of them does. -/
theorem Succeeds.bind {x : Action Storage α} {f : α → Action Storage β} (hx : Succeeds Inv x)
    (hf : ∀ a, Succeeds Inv (f a)) : Succeeds Inv (x >>= f) := by
  intro s hs
  obtain ⟨a, hok, hs'⟩ := hx s hs
  rw [bind_apply]
  rcases hrun : x s with ⟨outcome, s'⟩
  rw [hrun] at hok hs'
  subst hok
  exact hf a s' hs'

end Action

open TieredStore.Action (Succeeds)

/-- A look through layers succeeds if it does at each of them. -/
theorem Stack.succeeds_firstHit {Call : Type} [Interface Call] {p : Program Call (Option α)}
    {answer : Handler (At Nat Call) Storage} {places : List Nat}
    (hp : ∀ place ∈ places, Succeeds Inv ((p.at place).run answer)) :
    Succeeds Inv ((firstHit p places).run answer) := by
  induction places with
  | nil => exact Action.succeeds_pure none
  | cons place rest ih =>
    rw [firstHit_cons, Program.run_bind]
    refine (hp place List.mem_cons_self).bind fun hit => ?_
    cases hit with
    | some a => exact Action.succeeds_pure (some a)
    | none => exact ih fun other hother => hp other (List.mem_cons_of_mem _ hother)

/-! ## Stores of any shape -/

namespace Store

mutual

/-- The guards of a store, the outermost ones first. -/
def guards {Base : Type} : Store Base → List (Ref Guard)
  | .base _ => []
  | .stack _ front lower => guards front ++ guardsOfAll lower
  | .guarded guard inner => guard :: guards inner

/-- The guards of some layers. -/
def guardsOfAll {Base : Type} : List (Store Base) → List (Ref Guard)
  | [] => []
  | layer :: rest => guards layer ++ guardsOfAll rest

end

/-- The guards of a stack are those of its layers. -/
theorem guards_stack {Base : Type} (name : String) (front : Store Base)
    (lower : List (Store Base)) :
    guards (.stack name front lower) = (front :: lower).flatMap guards := by
  have hall : ∀ layers : List (Store Base), guardsOfAll layers = layers.flatMap guards := by
    intro layers
    induction layers with
    | nil => rw [guardsOfAll, List.flatMap_nil]
    | cons layer rest ih => rw [guardsOfAll, ih, List.flatMap_cons]
  rw [guards, hall, List.flatMap_cons]

variable {Call Table : Type} [Interface Call] [StoreKind Call] [Inhabited Table] [Stored Table]
  [MemoryKind Call Table] [PartKind Call Table] {call : Call}

/-- A call that no guard refuses or lets a rival go before, and that all base stores and all stacks
carry out, is carried out by every store. -/
theorem succeeds_perform {store : Store (StoreKind.Base Call)}
    (hguards : ∀ s, Inv s → ∀ guard ∈ store.guards,
      ((s.cell guard).rival.bind fun value => StoreKind.rivalCall value call) = none ∧
        (s.cell guard).refuses (StoreKind.callName call) = false)
    (hbase : ∀ base, PartKind.part base ∈ store.parts →
      Succeeds Inv (StoreKind.answer base call))
    (hlayers : ∀ lower answer,
      (∀ place ∈ Stack.places lower, Succeeds Inv (answer ⟨place, call⟩)) →
        Succeeds Inv ((StoreKind.throughLayers lower call).run answer)) :
    Succeeds Inv (store.perform call) := by
  induction store using Store.inductionOn with
  | base store =>
    rw [perform]
    refine hbase store ?_
    rw [parts]
    exact List.mem_singleton_self _
  | stack name front lower ih =>
    rw [guards_stack] at hguards
    rw [parts_stack] at hbase
    rw [perform_stack]
    refine hlayers lower.length _ fun place hplace => ?_
    obtain ⟨layer, hmem, -, hperform⟩ := exists_layer hplace
    rw [hperform]
    exact ih layer hmem
      (fun s hs guard hguard => hguards s hs guard (List.mem_flatMap.2 ⟨layer, hmem, hguard⟩))
      fun base hpart => hbase base (List.mem_flatMap.2 ⟨layer, hmem, hpart⟩)
  | guarded guard inner ih =>
    rw [guards] at hguards
    rw [parts] at hbase
    rw [perform]
    intro s hs
    obtain ⟨hrival, hadmits⟩ := hguards s hs guard List.mem_cons_self
    rw [throughGuard_apply, hrival, hadmits]
    exact ih (fun s hs other hother => hguards s hs other (List.mem_cons_of_mem _ hother)) hbase
      s hs

end Store

/-! ## Records -/

/-- A cell that is written with what it holds is left as it is, and so are the others. -/
theorem Storage.cell_setCell_cell {Content : Type} [Inhabited Content] [Stored Content]
    [StoredApart Content] (s : Storage) (ref other : Ref Content) :
    (s.setCell ref (s.cell ref)).cell other = s.cell other := by
  by_cases hholds : s.Holds ref
  · by_cases hsame : other = ref
    · subst hsame
      exact cell_setCell_self _ hholds
    · exact cell_setCell_of_ne s _ hsame
  · exact cell_setCell_of_not_holds _ hholds other

/-- Base stores leave the settings of guards alone. -/
theorem PartKind.guard_answer {Call Table : Type} [Interface Call] [StoreKind Call]
    [Inhabited Table] [Stored Table] [MemoryKind Call Table] [PartKind Call Table]
    (base : StoreKind.Base Call) (call : Call) (s : Storage) (guard : Ref Guard) :
    (StoreKind.answer base call s).2.cell guard = s.cell guard :=
  congrArg (fun guards : Heap Guard => guards.get guard) (guards_answer base call s)

/-- Whether the tables are set up that a part of the storage needs. -/
def RecordPart.IsSetUp (s : Storage) : RecordPart → Prop
  | .inMemory _ => True
  | .inDatabase database _ => (s.cell database).ready = true

namespace RecordStore

/-- Whether nothing of a store refuses look-ups: no guard, and no database that is not set up. -/
structure AnswersLookUps (store : RecordStore) (s : Storage) : Prop where
  admitted : ∀ guard ∈ store.guards, (s.cell guard).refuses "get" = false
  setUp : ∀ part ∈ RecordStore.parts store, RecordPart.IsSetUp s part

/-- A look-up leaves databases set up. -/
theorem isSetUp_answer_get (base : RecordBase) (oid : Oid) {s : Storage} {part : RecordPart}
    (h : part.IsSetUp s) : part.IsSetUp (base.answer (.get oid) s).2 := by
  cases part with
  | inMemory ref => trivial
  | inDatabase database store =>
    cases base with
    | memory name table => exact h
    | relational name other =>
      have hsame : (Database.answer name (.get oid) (s.cell other)).2 = s.cell other :=
        congrArg Prod.snd (Database.inspect_apply (s.cell other) _)
      show ((s.setCell other (Database.answer name (.get oid) (s.cell other)).2).cell
        database).ready = true
      rw [hsame, Storage.cell_setCell_cell]
      exact h

/-- A base store that is set up answers look-ups. -/
theorem answer_get_of_isSetUp {base : RecordBase} (oid : Oid) {s : Storage} {table : RecordTable}
    (hkeeps : RecordPart.Keeps s (.ofBase base) table)
    (hsetUp : (RecordPart.ofBase base).IsSetUp s) :
    ∃ found, (base.answer (.get oid) s).1 = .ok found := by
  cases base with
  | memory name ref => exact ⟨_, rfl⟩
  | relational name database =>
    exact ⟨_, (hkeeps.2.represents hsetUp).answer_eq
      (show (RecordCall.get oid).FitsStatement from trivial)⟩

/-- Nothing but a guard or a database that is not set up makes a look-up fail. -/
theorem get_succeeds {store : RecordStore} {s : Storage} {now : Int64}
    {view : PartKind.Part RecordCall → RecordTable}
    (hs : s.Views (RecordStore.parts store) now view) (h : store.AnswersLookUps s)
    (oid : Oid) : ∃ found, (store.perform (.get oid) s).1 = .ok found := by
  have hsucceeds : Succeeds
      (fun s => s.Views (RecordStore.parts store) now view ∧ store.AnswersLookUps s)
      (store.perform (.get oid)) := by
    refine Store.succeeds_perform
      (fun s hs guard hguard => ⟨by rw [hs.1.quiet guard]; rfl, hs.2.admitted guard hguard⟩) ?_ ?_
    · rintro base hpart s ⟨hviews, hanswers⟩
      obtain ⟨found, hfound⟩ :=
        answer_get_of_isSetUp oid (hviews.keeps _ hpart) (hanswers.setUp _ hpart)
      obtain ⟨table', hviews', hresult⟩ := hviews.answer hpart (RecordCall.get oid)
      have hsame : table' = view (PartKind.part base) := by
        rcases hresult with ⟨e, -, hsame⟩ | hresult
        · exact hsame
        · exact congrArg Prod.snd hresult
      rw [hsame, Function.update_eq_self] at hviews'
      refine ⟨found, hfound, hviews', fun guard hguard => ?_, fun part hpart => ?_⟩
      · rw [PartKind.guard_answer]
        exact hanswers.admitted guard hguard
      · exact isSetUp_answer_get base oid (hanswers.setUp part hpart)
    · intro lower answer hanswer
      refine Stack.succeeds_firstHit fun place hplace => ?_
      rw [Records.record?, Stack.run_ofCall_at]
      exact hanswer place hplace
  obtain ⟨found, hfound, -⟩ := hsucceeds s ⟨hs, h⟩
  exact ⟨found, hfound⟩

end RecordStore

/-! ## Entries -/

namespace EntryStore

variable {V : Type} [DecidableEq V] [Stored (EntryTable V)] [StoredApart (EntryTable V)]
  [EntryValue V]

omit [DecidableEq V] [Stored (EntryTable V)] [StoredApart (EntryTable V)] [EntryValue V] in
/-- Whether no guard of a store refuses look-ups. -/
def AnswersLookUps (store : EntryStore V) (s : Storage) : Prop :=
  ∀ guard ∈ store.guards, (s.cell guard).refuses "get_entry" = false

omit [StoredApart (EntryTable V)] in
/-- The value under a key is that of the entry that is looked up. -/
theorem run_value? (store : EntryStore V) (key : String) (s : Storage) :
    (store.run (Entries.value? key) s).1 =
      (store.perform (.get key) s).1.map fun found => found.map (·.value) := by
  rw [run, Entries.value?, Program.run_bind, Entries.entry?, Program.run_ofCall,
    Action.bind_apply]
  rcases store.perform (.get key) s with ⟨_ | _, _⟩ <;> rfl

/-- Nothing but a guard makes a look-up of a good key fail. -/
theorem get_succeeds {store : EntryStore V} {s : Storage}
    (quiet : ∀ guard : Ref Guard, (s.cell guard).rival = none) (h : store.AnswersLookUps s)
    {key : String} (hkey : checkKey key = .ok ()) :
    ∃ found, (store.perform (.get key) s).1 = .ok found := by
  have hsucceeds : Succeeds
      (fun s => (∀ guard : Ref Guard, (s.cell guard).rival = none) ∧ store.AnswersLookUps s)
      (store.perform (.get key)) := by
    refine Store.succeeds_perform
      (fun s hs guard hguard => ⟨by rw [hs.1 guard]; rfl, hs.2 guard hguard⟩) ?_ ?_
    · rintro base - s ⟨hquiet, hanswers⟩
      refine ⟨_, congrArg Prod.fst ((s.cell base.table).answer_get_of_key s.clock hkey),
        fun guard => ?_, fun guard hguard => ?_⟩
      · rw [PartKind.guard_answer]
        exact hquiet guard
      · rw [PartKind.guard_answer]
        exact hanswers guard hguard
    · intro lower answer hanswer
      rw [show (StoreKind.throughLayers lower (EntryCall.get (V := V) key)) =
        Stack.firstHit (Entries.entry? key) (0 :: Stack.lowerPlaces lower) from rfl]
      refine Stack.succeeds_firstHit fun place hplace => ?_
      rw [← Stack.places_eq] at hplace
      rw [Entries.entry?, Stack.run_ofCall_at]
      exact hanswer place hplace
  obtain ⟨found, hfound, -⟩ := hsucceeds s ⟨quiet, h⟩
  exact ⟨found, hfound⟩

end EntryStore

end TieredStore
