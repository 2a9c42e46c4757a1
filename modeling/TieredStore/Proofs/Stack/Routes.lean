import TieredStore.Proofs.Record.Answers
import TieredStore.Proofs.Storage.Footprints
import TieredStore.Proofs.Storage.StoredRecords

/-!
# How calls go through the layers of a stack

Most calls to a stack are made to its layers as they are.  A change is made at one layer after the
other, and a read goes on until a layer has a hit; an error ends both.  Only a compare-and-set is
made of calls of other kinds.  So a stack is its layers, run in a row, and what a call does to other
parts of the storage is what it does there at the base stores: nothing, but that setting up a store
prepares its database for all stores in it.

Main results:

- Class `Routed`: how the calls of a contract go through layers, with its laws, and instances for
  records and for entries of both kinds.
- Theorems `Store.perform_change` and `Store.perform_read`: a change to a stack is made by its
  layers in turn, and a read is answered by the first one that settles it.
- Theorem `Store.perform_read_snd`: reading changes nothing.
-/

namespace TieredStore

open Storage (AlikeOn)

/-! ## Actions in a row -/

namespace Action

variable {σ α : Type}

/-- Actions in a row, with one reply in the end; an error ends them. -/
def inTurn (done : α) : List (Action σ α) → Action σ α
  | [] => pure done
  | x :: rest => do
    let _ ← x
    inTurn done rest

/-- The result of the first action that has a hit; an error ends the search. -/
def firstHit (isHit : α → Bool) (miss : α) : List (Action σ α) → Action σ α
  | [] => pure miss
  | x :: rest => do
    let a ← x
    if isHit a then pure a else firstHit isHit miss rest

/-- Whether a search ends with an outcome. -/
def settles (isHit : α → Bool) : Except StoreError α → Bool
  | .ok a => isHit a
  | .error _ => true

/-- What each action keeps is kept by all of them in a row. -/
theorem inTurn_keeps (Inv : σ → Prop) {done : α} {xs : List (Action σ α)}
    (h : ∀ x ∈ xs, ∀ s, Inv s → Inv (x s).2) {s : σ} (hs : Inv s) :
    Inv (inTurn done xs s).2 := by
  induction xs generalizing s with
  | nil => exact hs
  | cons x rest ih =>
    obtain ⟨hx, hrest⟩ := List.forall_mem_cons.1 h
    have hs' := hx s hs
    rw [inTurn, bind_apply]
    rcases hrun : x s with ⟨outcome, s'⟩
    rw [hrun] at hs'
    cases outcome with
    | error e => exact hs'
    | ok a => exact ih hrest hs'

/-- Actions in a row succeed if each of them does. -/
theorem succeeds_inTurn {Inv : Storage → Prop} {done : α} {xs : List (Action Storage α)}
    (h : ∀ x ∈ xs, Succeeds Inv x) : Succeeds Inv (inTurn done xs) := by
  induction xs with
  | nil => exact succeeds_pure done
  | cons x rest ih =>
    obtain ⟨hx, hrest⟩ := List.forall_mem_cons.1 h
    exact hx.bind fun _ => ih hrest

/-- What each action brings about, and none undoes, holds in the end if they all succeed. -/
theorem inTurn_establishes {ι : Type} (Inv : σ → Prop) (Good : ι → σ → Prop)
    {x : ι → Action σ α} {done : α} {is : List ι}
    (step : ∀ i ∈ is, ∀ s, Inv s → Inv (x i s).2 ∧
      ((∃ a, (x i s).1 = .ok a) → Good i (x i s).2) ∧ ∀ j, Good j s → Good j (x i s).2)
    {s : σ} (hs : Inv s) (hok : ∃ a, (inTurn done (is.map x) s).1 = .ok a) :
    ∀ i ∈ is, Good i (inTurn done (is.map x) s).2 := by
  induction is generalizing s with
  | nil => exact nofun
  | cons i rest ih =>
    obtain ⟨hi, hrest⟩ := List.forall_mem_cons.1 step
    obtain ⟨hinv, hgood, -⟩ := hi s hs
    rw [List.map_cons, inTurn, bind_apply] at hok ⊢
    rcases hrun : x i s with ⟨outcome, s'⟩
    rw [hrun] at hok hinv hgood
    cases outcome with
    | error e =>
      obtain ⟨a, hok⟩ := hok
      cases hok
    | ok a =>
      refine List.forall_mem_cons.2 ⟨?_, ih hrest hinv hok⟩
      have hkept : Inv (inTurn done (rest.map x) s').2 ∧
          Good i (inTurn done (rest.map x) s').2 := by
        refine inTurn_keeps (fun t => Inv t ∧ Good i t) ?_ ⟨hinv, hgood ⟨a, rfl⟩⟩
        rintro y hy t ⟨ht, hgoodt⟩
        obtain ⟨j, hj, rfl⟩ := List.mem_map.1 hy
        obtain ⟨ht', -, hkeep⟩ := hrest j hj t ht
        exact ⟨ht', hkeep i hgoodt⟩
      exact hkept.2

/-- Among actions that change nothing the first one that settles the search gives its outcome. -/
theorem firstHit_of_unchanged (isHit : α → Bool) (miss : α) {xs : List (Action σ α)} {s : σ}
    (h : ∀ x ∈ xs, (x s).2 = s) :
    firstHit isHit miss xs s =
      (((xs.map fun x => (x s).1).find? (settles isHit)).getD (.ok miss), s) := by
  induction xs with
  | nil => rfl
  | cons x rest ih =>
    obtain ⟨hx, hrest⟩ := List.forall_mem_cons.1 h
    rw [firstHit, bind_apply, List.map_cons]
    rcases hrun : x s with ⟨outcome, s'⟩
    rw [hrun] at hx
    obtain rfl : s' = s := hx
    cases outcome with
    | error e => rfl
    | ok a =>
      cases hhit : isHit a with
      | true => simp [settles, hhit]
      | false => simp [settles, hhit, ih hrest]

end Action

namespace Stack

variable {Place Call σ α : Type} [Interface Call] {answer : Handler (At Place Call) σ}

/-- A change runs on the layers in turn. -/
theorem run_fanOut {p : Program Call Unit} {x : Place → Action σ Unit}
    (hp : ∀ place, (p.at place).run answer = x place) (places : List Place) :
    (fanOut p places).run answer = Action.inTurn () (places.map x) := by
  induction places with
  | nil => rfl
  | cons place rest ih =>
    rw [fanOut_cons, Program.run_bind, hp, ih]
    rfl

/-- A look for a hit runs on the layers up to the first one that has one. -/
theorem run_firstHit {p : Program Call (Option α)} {x : Place → Action σ (Option α)}
    (hp : ∀ place, (p.at place).run answer = x place) (places : List Place) :
    (firstHit p places).run answer = Action.firstHit Option.isSome none (places.map x) := by
  induction places with
  | nil => rfl
  | cons place rest ih =>
    rw [firstHit_cons, Program.run_bind, hp, List.map_cons, Action.firstHit, ← ih]
    refine congrArg (x place >>= ·) (funext fun hit => ?_)
    cases hit <;> rfl

/-- A look for a list runs on the layers up to the first one where it is not empty. -/
theorem run_firstNonEmpty {p : Program Call (List α)} {x : Place → Action σ (List α)}
    (hp : ∀ place, (p.at place).run answer = x place) (places : List Place) :
    (firstNonEmpty p places).run answer =
      Action.firstHit (fun found => !found.isEmpty) [] (places.map x) := by
  induction places with
  | nil => rfl
  | cons place rest ih =>
    rw [firstNonEmpty, Program.run_bind, hp, List.map_cons, Action.firstHit, ← ih]
    refine congrArg (x place >>= ·) (funext fun found => ?_)
    cases found.isEmpty <;> rfl

end Stack

/-! ## Routes -/

/-- How a call with replies of a type goes through the layers of a stack. -/
inductive CallRoute (α : Type) where
  /-- Made at one layer after the other, and replied to in one way. -/
  | change (done : α)
  /-- Made until there is a hit, or a miss at all layers. -/
  | read (isHit : α → Bool) (miss : α)
  /-- Made of calls of other kinds. -/
  | exchange

/-- Changes are made at the layers as they are. -/
theorem CallRoute.ne_exchange_of_change {α : Type} {route : CallRoute α} {done : α}
    (h : route = .change done) : route ≠ .exchange := by
  rw [h]
  nofun

/-- So are reads. -/
theorem CallRoute.ne_exchange_of_read {α : Type} {route : CallRoute α} {isHit : α → Bool}
    {miss : α} (h : route = .read isHit miss) : route ≠ .exchange := by
  rw [h]
  nofun

namespace StoragePart

/-- The database that a part of the storage lies in. -/
def database? : StoragePart → Option (Ref Database)
  | .records (.inDatabase database _) => some database
  | _ => none

/-- A database is written, and the tables of a part are set up in it as before. -/
theorem isSetUp_setCell_database_iff {part : StoragePart} {s : Storage} {database : Ref Database}
    {db : Database}
    (hready : part.database? = some database → db.ready = (s.cell database).ready) :
    part.IsSetUp (s.setCell database db) ↔ part.IsSetUp s := by
  cases part with
  | texts table => rfl
  | counters table => rfl
  | records part =>
    cases part with
    | inMemory table => rfl
    | inDatabase other store =>
      show ((s.setCell database db).cell other).ready = true ↔ (s.cell other).ready = true
      by_cases hsame : other = database
      · subst hsame
        by_cases hholds : s.Holds other
        · rw [Storage.cell_setCell_self _ hholds, hready rfl]
        · rw [Storage.cell_setCell_of_not_holds _ hholds]
      · rw [Storage.cell_setCell_of_ne s _ hsame]

end StoragePart

/-- A kind of store with routes for its calls. -/
class Routed (Call : Type) {Table : outParam Type} [Interface Call] [StoreKind Call]
    [Inhabited Table] [Stored Table] [MemoryKind Call Table] [PartKind Call Table]
    [Kept Call] where
  route : (call : Call) → CallRoute (Interface.Reply call)
  run_change : ∀ {call : Call} {done : Interface.Reply call}, route call = .change done →
    ∀ (answer : Handler (At Nat Call) Storage) (lower : Nat),
      (StoreKind.throughLayers lower call).run answer =
        Action.inTurn done ((Stack.places lower).map fun place => answer ⟨place, call⟩)
  run_read : ∀ {call : Call} {isHit : Interface.Reply call → Bool} {miss : Interface.Reply call},
    route call = .read isHit miss → ∀ (answer : Handler (At Nat Call) Storage) (lower : Nat),
      (StoreKind.throughLayers lower call).run answer =
        Action.firstHit isHit miss ((Stack.places lower).map fun place => answer ⟨place, call⟩)
  /-- Base stores are called as their store is, and no rival goes before such a call. -/
  closed : ∀ {call : Call}, route call ≠ .exchange → StoreKind.Closed (· = call)
  rival : ∀ {call : Call}, route call ≠ .exchange → ∀ value,
    StoreKind.rivalCall value call = none
  answer_read : ∀ {call : Call} {isHit : Interface.Reply call → Bool}
    {miss : Interface.Reply call}, route call = .read isHit miss →
      ∀ (base : StoreKind.Base Call) (s : Storage), (StoreKind.answer base call s).2 = s
  /-- A base store that fails has changed nothing. -/
  answer_error : ∀ {base : StoreKind.Base Call} {call : Call} {s : Storage} {e : StoreError},
    (StoreKind.answer base call s).1 = .error e → (StoreKind.answer base call s).2 = s
  /-- Other parts are left alone, unless they lie in a database that is set up. -/
  answer_other : ∀ (base : StoreKind.Base Call) (call : Call) (s : Storage) (part : StoragePart),
    part ≠ Kept.place (PartKind.part base) →
      (call = Kept.lifecycle .setup → ∀ database, part.database? = some database →
        (Kept.place (PartKind.part base) : StoragePart).database? ≠ some database) →
      part.contents (StoreKind.answer base call s).2 = part.contents s ∧
        (part.IsSetUp (StoreKind.answer base call s).2 ↔ part.IsSetUp s)

section Laws

variable {Call Table : Type} [Interface Call] [StoreKind Call] [Inhabited Table] [Stored Table]
  [MemoryKind Call Table] [PartKind Call Table] [Kept Call] [Routed Call] {call : Call}

/-- Whether there is a rival or not, none goes before a call that takes its route. -/
theorem Routed.bind_rival (hroute : Routed.route call ≠ .exchange) (rival : Option Value) :
    (rival.bind fun value => StoreKind.rivalCall value call) = none := by
  cases rival with
  | none => rfl
  | some value => exact Routed.rival hroute value

/-- A base store leaves parts alone other than its own, unless they lie in a database that is set
up. -/
theorem Routed.alikeOn_answer {base : StoreKind.Base Call} {parts : List StoragePart}
    (hparts : ∀ part ∈ parts, part ≠ Kept.place (PartKind.part base))
    (hsetup : call = Kept.lifecycle .setup → ∀ part ∈ parts, ∀ database,
      part.database? = some database →
        (Kept.place (PartKind.part base) : StoragePart).database? ≠ some database)
    (s : Storage) : AlikeOn parts s (StoreKind.answer base call s).2 := by
  have hother := fun part hpart => Routed.answer_other base call s part (hparts part hpart)
    fun hcall => hsetup hcall part hpart
  exact ⟨PartKind.clock_answer base call s, PartKind.guards_answer base call s,
    fun part hpart => (hother part hpart).1, fun part hpart => (hother part hpart).2⟩

end Laws

/-! ## Calls to records -/

/-- The route of a call. -/
def RecordCall.route : (call : RecordCall) → CallRoute (Interface.Reply call)
  | .lifecycle _ => .change ()
  | .get _ => .read Option.isSome none
  | .apply _ => .change ()
  | .remove _ => .change ()
  | .keys => .read (fun found => !found.isEmpty) []
  | .query _ => .read (fun found => !found.isEmpty) []

/-- A base store of records leaves other parts alone. -/
theorem RecordBase.answer_other (base : RecordBase) (call : RecordCall) (s : Storage)
    (part : StoragePart) (hpart : part ≠ .records (.ofBase base))
    (hsetup : call = .lifecycle .setup → ∀ database, part.database? = some database →
      (StoragePart.records (.ofBase base)).database? ≠ some database) :
    part.contents (base.answer call s).2 = part.contents s ∧
      (part.IsSetUp (base.answer call s).2 ↔ part.IsSetUp s) := by
  cases base with
  | memory name table =>
    exact ⟨(StoragePart.holdsTable_records table).other s _ part hpart,
      (StoragePart.holdsTable_records table).setUp s _ part⟩
  | relational name database =>
    refine ⟨StoragePart.contents_setCell_database s fun store hstore => ?_,
      StoragePart.isSetUp_setCell_database_iff fun hdatabase => ?_⟩
    · refine Database.SameRows.answer (fun hname => hpart ?_) _ call
      rw [hstore, hname]
      rfl
    · rcases Database.ready_answer name call (s.cell database) with hsame | hcall
      · exact hsame
      · exact absurd rfl (hsetup hcall database hdatabase)

instance : Routed RecordCall where
  route := RecordCall.route
  run_change {call done} h answer lower := by
    have hone := fun place => Stack.run_ofCall_at answer place call
    cases call with
    | lifecycle op => exact Stack.run_fanOut hone _
    | apply update => exact Stack.run_fanOut hone _
    | remove oid => exact Stack.run_fanOut hone _
    | get oid => cases h
    | keys => cases h
    | query q => cases h
  run_read {call isHit miss} h answer lower := by
    have hone := fun place => Stack.run_ofCall_at answer place call
    cases call with
    | lifecycle op => cases h
    | apply update => cases h
    | remove oid => cases h
    | get oid =>
      cases h
      exact Stack.run_firstHit hone _
    | keys =>
      cases h
      exact Stack.run_firstNonEmpty hone _
    | query q =>
      cases h
      exact Stack.run_firstNonEmpty hone _
  closed _ := RecordCall.closed _
  rival _ _ := rfl
  answer_read {call isHit miss} h base s := by
    have hread : call.IsRead := by cases call <;> trivial
    exact base.answer_read_snd hread s
  answer_error := RecordBase.answer_of_error
  answer_other := RecordBase.answer_other

/-- Every call to records takes a route. -/
theorem RecordCall.route_ne_exchange (call : RecordCall) : Routed.route call ≠ .exchange := by
  cases call <;> nofun

/-! ## Calls to entries -/

namespace EntryCall

variable {V : Type}

/-- The route of a call. -/
def route : (call : EntryCall V) → CallRoute (Interface.Reply call)
  | .lifecycle _ => .change ()
  | .get _ => .read Option.isSome none
  | .put _ _ _ => .change ()
  | .expire _ _ => .change ()
  | .keys _ => .read (fun found => !found.isEmpty) []
  | .compareAndSet _ _ _ => .exchange

variable [DecidableEq V]

/-- Reading leaves a table as it is. -/
theorem answer_read_snd {call : EntryCall V} {isHit : Interface.Reply call → Bool}
    {miss : Interface.Reply call} (h : call.route = .read isHit miss) (now : Int64)
    (table : EntryTable V) : (EntryTable.answer now call table).2 = table := by
  cases call with
  | get key => rw [EntryTable.answer_get]
  | keys value => rfl
  | lifecycle op => cases h
  | put key value ttl => cases h
  | expire key time => cases h
  | compareAndSet key expect update => cases h

variable [Stored (EntryTable V)] [StoredApart (EntryTable V)] [EntryValue V]

/-- Calls to stores of entries take their routes. -/
@[reducible]
def routed [Kept (EntryCall V)]
    (hplace : ∀ base : StoreKind.Base (EntryCall V),
      (Kept.place (PartKind.part base) : StoragePart).HoldsTable base.table)
    (hself : ∀ s : Storage, Stored.withHeap (Stored.heap (α := EntryTable V) s) s = s) :
    Routed (EntryCall V) where
  route := route
  run_change {call done} h answer lower := by
    have hone := fun place => Stack.run_ofCall_at answer place call
    rw [Stack.places_eq]
    cases call with
    | lifecycle op => exact Stack.run_fanOut hone _
    | put key value ttl => exact Stack.run_fanOut hone _
    | expire key time => exact Stack.run_fanOut hone _
    | get key => cases h
    | keys value => cases h
    | compareAndSet key expect update => cases h
  run_read {call isHit miss} h answer lower := by
    have hone := fun place => Stack.run_ofCall_at answer place call
    rw [Stack.places_eq]
    cases call with
    | get key =>
      cases h
      exact Stack.run_firstHit hone _
    | keys value =>
      cases h
      exact Stack.run_firstNonEmpty hone _
    | lifecycle op => cases h
    | put key value ttl => cases h
    | expire key time => cases h
    | compareAndSet key expect update => cases h
  closed h := EntryCall.closed fun _ _ _ hcall => h (hcall ▸ rfl)
  rival {call} h value := by
    cases call <;> first | exact absurd rfl h | rfl
  answer_read {call isHit miss} h base s := by
    show s.setCell base.table (EntryTable.answer s.clock call (s.cell base.table)).2 = s
    rw [answer_read_snd h, s.setCell_cell base.table (hself s)]
  answer_error {base call s e} h := by
    show s.setCell base.table (EntryTable.answer s.clock call (s.cell base.table)).2 = s
    rw [EntryTable.answer_of_error _ _ h, s.setCell_cell base.table (hself s)]
  answer_other base call s part hpart _ :=
    ⟨(hplace base).other s _ part hpart, (hplace base).setUp s _ part⟩

end EntryCall

instance : Routed (EntryCall String) :=
  EntryCall.routed (fun base => StoragePart.holdsTable_texts base.table) fun _ => rfl

instance : Routed (EntryCall Int64) :=
  EntryCall.routed (fun base => StoragePart.holdsTable_counters base.table) fun _ => rfl

/-! ## Stores of any shape -/

namespace Store

variable {Call Table : Type} [Interface Call] [StoreKind Call] [Inhabited Table] [Stored Table]
  [MemoryKind Call Table] [PartKind Call Table] [Kept Call] [Routed Call] {call : Call}
  {store : Store (StoreKind.Base Call)} {s : Storage}

/-- What base stores keep under a call that goes through layers as it is, is kept by the store. -/
theorem perform_keeps_of_route (hroute : Routed.route call ≠ .exchange) (Inv : Storage → Prop)
    (base : ∀ base, PartKind.part base ∈ store.parts → ∀ s, Inv s →
      Inv (StoreKind.answer base call s).2) (hs : Inv s) : Inv (store.perform call s).2 := by
  refine perform_keeps Inv (Routed.closed hroute) ?_ ?_ rfl hs
  · rintro b hpart called s rfl hs
    exact base b hpart s hs
  · rintro guard - value called rival rfl hrival
    rw [Routed.rival hroute] at hrival
    cases hrival

/-- A guard refuses a call or lets it through as it is. -/
theorem perform_guarded (hroute : Routed.route call ≠ .exchange) (guard : Ref Guard)
    (inner : Store (StoreKind.Base Call)) (s : Storage) :
    perform (.guarded guard inner) call s =
      if (s.cell guard).refuses (StoreKind.callName call) then
        (.error (.storage (.down inner.name (StoreKind.callName call))), s)
      else inner.perform call s := by
  rw [perform, throughGuard_apply, Routed.bind_rival hroute]

/-- The layers of a stack answer in their places. -/
theorem map_performAt (front : Store (StoreKind.Base Call))
    (lower : List (Store (StoreKind.Base Call))) (call : Call) :
    ((Stack.places lower.length).map fun place => performAt front lower ⟨place, call⟩) =
      (front :: lower).map fun layer => layer.perform call := by
  refine List.ext_getElem? fun place => ?_
  rw [List.getElem?_map, List.getElem?_map]
  by_cases hplace : place < (front :: lower).length
  · have hlayer : (front :: lower)[place]? = some (front :: lower)[place] :=
      List.getElem?_eq_getElem hplace
    have hrange : (Stack.places lower.length)[place]? = some place :=
      List.getElem?_range hplace
    rw [hlayer, hrange]
    exact congrArg some (performAt_of_getElem? hlayer call)
  · rw [List.getElem?_eq_none (Nat.not_lt.1 hplace), List.getElem?_eq_none]
    · rfl
    · rw [Stack.places, List.length_range]
      exact Nat.not_lt.1 hplace

/-- A change to a stack is made by its layers in turn. -/
theorem perform_change {done : Interface.Reply call} (hroute : Routed.route call = .change done)
    (name : String) (front : Store (StoreKind.Base Call))
    (lower : List (Store (StoreKind.Base Call))) :
    perform (.stack name front lower) call =
      Action.inTurn done ((front :: lower).map fun layer => layer.perform call) := by
  rw [perform_stack, Routed.run_change hroute, map_performAt]

/-- A change succeeds that no guard refuses and that all base stores carry out. -/
theorem change_succeeds {done : Interface.Reply call} (hroute : Routed.route call = .change done)
    {Inv : Storage → Prop}
    (hguards : ∀ s, Inv s → ∀ guard ∈ store.guards,
      (s.cell guard).refuses (StoreKind.callName call) = false)
    (hbase : ∀ base, PartKind.part base ∈ store.parts →
      Action.Succeeds Inv (StoreKind.answer base call)) :
    Action.Succeeds Inv (store.perform call) := by
  have hne := CallRoute.ne_exchange_of_change hroute
  refine succeeds_perform
    (fun s hs guard hguard => ⟨Routed.bind_rival hne _, hguards s hs guard hguard⟩) hbase ?_
  intro lower answer hanswer
  rw [Routed.run_change hroute]
  refine Action.succeeds_inTurn fun x hx => ?_
  obtain ⟨place, hplace, rfl⟩ := List.mem_map.1 hx
  exact hanswer place hplace

/-- What a change brings about at base stores, and none of them undoes, holds of all parts of a
store if the change succeeds. -/
theorem change_establishes {done : Interface.Reply call}
    (hroute : Routed.route call = .change done) (Inv : Storage → Prop)
    (Good : PartKind.Part Call → Storage → Prop)
    (step : ∀ base, PartKind.part base ∈ store.parts → ∀ s, Inv s →
      Inv (StoreKind.answer base call s).2 ∧
        ((∃ reply, (StoreKind.answer base call s).1 = .ok reply) →
          Good (PartKind.part base) (StoreKind.answer base call s).2) ∧
        ∀ part, Good part s → Good part (StoreKind.answer base call s).2)
    (hs : Inv s) (hok : ∃ reply, (store.perform call s).1 = .ok reply) :
    ∀ part ∈ store.parts, Good part (store.perform call s).2 := by
  have hne := CallRoute.ne_exchange_of_change hroute
  induction store using Store.inductionOn generalizing s with
  | base base =>
    rw [parts] at step ⊢
    rw [perform] at hok ⊢
    intro part hpart
    rw [List.mem_singleton.1 hpart]
    exact (step base (List.mem_singleton_self _) s hs).2.1 hok
  | stack name front lower ih =>
    rw [parts_stack] at step ⊢
    rw [perform_change hroute] at hok ⊢
    have hlayers := Action.inTurn_establishes Inv (fun layer s => ∀ part ∈ layer.parts, Good part s)
      (fun layer hlayer s hs => ?_) hs hok
    · intro part hpart
      obtain ⟨layer, hlayer, hpart⟩ := List.mem_flatMap.1 hpart
      exact hlayers layer hlayer part hpart
    · have hstep : ∀ base, PartKind.part base ∈ layer.parts → ∀ s, Inv s → _ := fun base hbase =>
        step base (List.mem_flatMap.2 ⟨layer, hlayer, hbase⟩)
      refine ⟨perform_keeps_of_route hne Inv (fun base hbase s hs => (hstep base hbase s hs).1) hs,
        ih layer hlayer hstep hs, fun other hother part hpart => ?_⟩
      exact (perform_keeps_of_route hne (fun t => Inv t ∧ Good part t)
        (fun base hbase t ht =>
          ⟨(hstep base hbase t ht.1).1, (hstep base hbase t ht.1).2.2 part ht.2⟩)
        ⟨hs, hother part hpart⟩).2
  | guarded guard inner ih =>
    rw [parts] at step ⊢
    rw [perform_guarded hne] at hok ⊢
    by_cases hrefused : (s.cell guard).refuses (StoreKind.callName call) = true
    · rw [if_pos hrefused] at hok
      obtain ⟨reply, hok⟩ := hok
      cases hok
    · rw [if_neg hrefused] at hok ⊢
      exact ih step hs hok

/-- Reading from a store changes nothing. -/
theorem perform_read_snd {isHit : Interface.Reply call → Bool} {miss : Interface.Reply call}
    (hroute : Routed.route call = .read isHit miss) (store : Store (StoreKind.Base Call))
    (s : Storage) : (store.perform call s).2 = s := by
  refine perform_keeps_of_route (CallRoute.ne_exchange_of_read hroute) (fun t => t = s) ?_ rfl
  rintro base - t rfl
  exact Routed.answer_read hroute base t

/-- A read from a stack is answered by the first layer that settles it. -/
theorem perform_read {isHit : Interface.Reply call → Bool} {miss : Interface.Reply call}
    (hroute : Routed.route call = .read isHit miss) (name : String)
    (front : Store (StoreKind.Base Call)) (lower : List (Store (StoreKind.Base Call)))
    (s : Storage) :
    perform (.stack name front lower) call s =
      ((((front :: lower).map fun layer => (layer.perform call s).1).find?
        (Action.settles isHit)).getD (.ok miss), s) := by
  rw [perform_stack, Routed.run_read hroute, map_performAt, Action.firstHit_of_unchanged,
    List.map_map]
  · rfl
  · intro x hx
    obtain ⟨layer, -, rfl⟩ := List.mem_map.1 hx
    exact perform_read_snd hroute layer s

end Store

end TieredStore
