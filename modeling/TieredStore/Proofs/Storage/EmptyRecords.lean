import TieredStore.Proofs.Stack.Routes

/-!
# Stores of records that have nothing

A lifecycle call that succeeds has reached every base store of a store.  So a store that was set up
needs no more tables, and a store that was destroyed has nothing in any of its parts.  From a store
that has nothing in its parts nothing is read, unless a guard refuses the call or a query does not
fit a statement.

Main results:

- Theorem `RecordStore.lifecycle_establishes`: what a lifecycle call brings about at base stores
  holds of all parts of a store if the call succeeds.
- Theorems `RecordStore.nothing_of_destroyed` and `RecordStore.isSetUp_of_setup`: what is left by a
  store that was destroyed, and by one that was set up.
- Theorem `RecordStore.readsAsEmpty_of_nothing`: a store that has nothing reads as empty.
-/

namespace TieredStore

open Storage (Spares)

/-- What a lifecycle call brings about at base stores, and none undoes, holds of all parts of a
store if the call succeeds. -/
theorem RecordStore.lifecycle_establishes (Good : Storage → RecordPart → Prop) {op : Lifecycle}
    (keep : ∀ (base : RecordBase) s part, Good s part →
      Good (base.answer (.lifecycle op) s).2 part)
    (base : ∀ (base : RecordBase) s, ((StoragePart.records (.ofBase base)).contents s).isSome →
      (base.answer (.lifecycle op) s).1 = .ok () →
        Good (base.answer (.lifecycle op) s).2 (.ofBase base))
    {store : RecordStore} {s : Storage}
    (held : ∀ part ∈ RecordStore.parts store, ((StoragePart.records part).contents s).isSome)
    (hok : (store.perform (.lifecycle op) s).1 = .ok ()) :
    ∀ part ∈ RecordStore.parts store, Good (store.perform (.lifecycle op) s).2 part := by
  have hroute : Routed.route (RecordCall.lifecycle op) = .change () := rfl
  refine Store.change_establishes hroute
    (fun s => ∀ part ∈ RecordStore.parts store, ((StoragePart.records part).contents s).isSome)
    (fun part s => Good s part) (fun b hbase s held => ⟨fun part hpart => ?_, ?_, ?_⟩) held
    ⟨(), hok⟩
  · exact (b.spares_answer (.lifecycle op) s).held _ (held part hpart)
  · rintro ⟨reply, hok⟩
    exact base b s (held _ hbase) hok
  · exact fun part hgood => keep b s part hgood

/-! ## Base stores that have nothing -/

namespace Database

variable {db : Database} {store : String}

/-- Without the records of a store there are no rows of it. -/
theorem rowsUnder_deleteStore (db : Database) (store : String) :
    (db.deleteStore store).rowsUnder store = ⟨fun _ => false, fun _ _ => none⟩ :=
  sameRows_iff.1 (SameRows.withoutStore store {} db)

/-- A database that is set up and has no rows of a store represents the empty table. -/
theorem represents_of_rowsUnder (hready : db.ready = true)
    (h : db.rowsUnder store = ⟨fun _ => false, fun _ _ => none⟩) : db.Represents store ∅ := by
  obtain ⟨hlisted, hrows⟩ := StoredRows.mk.inj h
  exact Represents.of_isBlank
    ⟨hready, congrFun hlisted, fun identifier => congrFun (congrFun hrows identifier)⟩

end Database

namespace RecordBase

variable {s : Storage}

/-- Destroying a base store in a database is a statement that may be refused. -/
theorem answer_destroy_relational (name : String) (database : Ref Database) (s : Storage) :
    answer (.relational name database) (.lifecycle .destroy) s =
      if (s.cell database).ready then
        (.ok (), s.setCell database ((s.cell database).deleteStore name))
      else (.error (.storage .database), s.setCell database (s.cell database)) := by
  show ((Database.change _ (s.cell database)).1, s.setCell database
    (Database.change (fun db => db.deleteStore name) (s.cell database)).2) = _
  rw [Database.change_apply]
  split <;> rfl

/-- A base store that was destroyed has nothing. -/
theorem contents_destroy {base : RecordBase}
    (held : ((StoragePart.records (.ofBase base)).contents s).isSome)
    (hok : (base.answer (.lifecycle .destroy) s).1 = .ok ()) :
    (StoragePart.records (.ofBase base)).contents (base.answer (.lifecycle .destroy) s).2 =
      some (StoragePart.records (.ofBase base)).nothing := by
  cases base with
  | memory name table =>
    show ((s.setCell table ∅).cell? table).map PartContents.records = some (.records ∅)
    rw [Storage.cell?_setCell_self,
      Storage.cell?_of_holds ((StoragePart.isSome_contents_inMemory_iff table).1 held)]
    rfl
  | relational name database =>
    rw [answer_destroy_relational] at hok ⊢
    by_cases hready : (s.cell database).ready = true
    · rw [if_pos hready, RecordPart.ofBase, StoragePart.contents, Storage.cell?_setCell_self,
        Storage.cell?_of_holds ((StoragePart.isSome_contents_inDatabase_iff database name).1 held)]
      exact congrArg (some ∘ PartContents.rows) (Database.rowsUnder_deleteStore _ name)
    · rw [if_neg hready] at hok
      cases hok

/-- What has nothing has nothing after a base store was destroyed. -/
theorem nothing_answer_destroy (base : RecordBase) {part : RecordPart}
    (h : (StoragePart.records part).contents s = some (StoragePart.records part).nothing) :
    (StoragePart.records part).contents (base.answer (.lifecycle .destroy) s).2 =
      some (StoragePart.records part).nothing := by
  by_cases hown : part = .ofBase base
  · subst hown
    cases hresult : (base.answer (.lifecycle .destroy) s).1 with
    | ok u => exact contents_destroy (by rw [h]; rfl) hresult
    | error e =>
      rw [answer_of_error hresult]
      exact h
  · exact (spares_answer base _ s).same _ (fun hmem =>
      hown (StoragePart.records.inj (List.mem_singleton.1 hmem))) _ h

/-- A base store that was set up needs no more tables. -/
theorem isSetUp_setup {base : RecordBase}
    (held : ((StoragePart.records (.ofBase base)).contents s).isSome) :
    RecordPart.IsSetUp (base.answer (.lifecycle .setup) s).2 (.ofBase base) := by
  cases base with
  | memory name table => trivial
  | relational name database =>
    have hholds := (StoragePart.isSome_contents_inDatabase_iff database name).1 held
    show ((s.setCell database { s.cell database with ready := true }).cell database).ready = true
    rw [Storage.cell_setCell_self _ hholds]

end RecordBase

namespace RecordStore

variable {store : RecordStore} {s : Storage}

/-- A store that was destroyed has nothing in any of its parts. -/
theorem nothing_of_destroyed
    (held : ∀ part ∈ RecordStore.parts store, ((StoragePart.records part).contents s).isSome)
    (hok : (store.perform (.lifecycle .destroy) s).1 = .ok ()) :
    ∀ part ∈ RecordStore.parts store,
      (StoragePart.records part).contents (store.perform (.lifecycle .destroy) s).2 =
        some (StoragePart.records part).nothing :=
  lifecycle_establishes
    (fun s part => (StoragePart.records part).contents s = some (StoragePart.records part).nothing)
    (fun base _ _ => base.nothing_answer_destroy)
    (fun _ _ held hok => RecordBase.contents_destroy held hok) held hok

/-- A store that was set up needs no more tables in any of its parts. -/
theorem isSetUp_of_setup
    (held : ∀ part ∈ RecordStore.parts store, ((StoragePart.records part).contents s).isSome)
    (hok : (store.perform (.lifecycle .setup) s).1 = .ok ()) :
    ∀ part ∈ RecordStore.parts store,
      part.IsSetUp (store.perform (.lifecycle .setup) s).2 :=
  lifecycle_establishes (fun s part => part.IsSetUp s)
    (fun base s part => (base.spares_answer (.lifecycle .setup) s).setUp (.records part))
    (fun _ _ held _ => RecordBase.isSetUp_setup held) held hok

end RecordStore

/-! ## Reading from stores that have nothing -/

/-- A program whose calls are answered as ideal ones, or fail with an excuse, has the ideal result
or fails with an excuse. -/
theorem Program.run_follows {Call : Type} [Interface Call] {α σ : Type} {allowed : Call → Prop}
    {excuse : Prop} (ideal : (call : Call) → Except StoreError (Interface.Reply call))
    (Inv : σ → Prop) {answer : Handler Call σ}
    (step : ∀ call s, allowed call → Inv s →
      ((answer call s).1 = ideal call ∨ excuse ∧ ∃ e, (answer call s).1 = .error e) ∧
        Inv (answer call s).2)
    {p : Program Call α} (hp : p.Makes allowed) {s : σ} (hs : Inv s) :
    ((p.run answer s).1 = (p.run (fun call => Action.ofExcept (ideal call)) ()).1 ∨
        excuse ∧ ∃ e, (p.run answer s).1 = .error e) ∧
      Inv (p.run answer s).2 := by
  induction p generalizing s with
  | done a => exact ⟨.inl rfl, hs⟩
  | fail e => exact ⟨.inl rfl, hs⟩
  | ask call resume ih =>
    obtain ⟨hresult, hs'⟩ := step call s hp.1 hs
    rw [run_ask, run_ask, Action.bind_apply, Action.bind_apply, Action.ofExcept_apply]
    rcases hrun : answer call s with ⟨result, s'⟩
    rw [hrun] at hresult hs'
    rcases hresult with hsame | ⟨hexcuse, e, herror⟩
    · cases result with
      | ok reply =>
        rw [← show Except.ok reply = ideal call from hsame]
        exact ih reply (hp.2 reply) hs'
      | error e =>
        rw [← show Except.error e = ideal call from hsame]
        exact ⟨.inl rfl, hs'⟩
    · rw [show result = Except.error e from herror]
      exact ⟨.inr ⟨hexcuse, e, rfl⟩, hs'⟩

namespace Stack

variable {Call : Type} [Interface Call] {α : Type} {answer : Handler (At Nat Call) Unit}

/-- Where no layer has a hit there is none. -/
theorem run_firstHit_of_none {p : Program Call (Option α)}
    (hone : ∀ place, (p.at place).run answer () = (.ok none, ())) (places : List Nat) :
    ((firstHit p places).run answer ()).1 = .ok none := by
  induction places with
  | nil => rfl
  | cons place rest ih =>
    rw [firstHit_cons, Program.run_bind, Action.bind_apply, hone]
    exact ih

/-- Layers that answer alike and find nothing make up a stack that does. -/
theorem run_firstNonEmpty_of_nil {p : Program Call (List α)} {result : Except StoreError (List α)}
    (hone : ∀ place, (p.at place).run answer () = (result, ()))
    (hnil : ∀ found, result = .ok found → found = []) (place : Nat) (rest : List Nat) :
    ((firstNonEmpty p (place :: rest)).run answer ()).1 = result := by
  induction rest generalizing place with
  | nil =>
    rw [firstNonEmpty, Program.run_bind, Action.bind_apply, hone]
    cases result with
    | error e => rfl
    | ok found =>
      rw [hnil found rfl]
      rfl
  | cons next rest ih =>
    rw [firstNonEmpty, Program.run_bind, Action.bind_apply, hone]
    cases result with
    | error e => rfl
    | ok found =>
      obtain rfl := hnil found rfl
      exact ih next

end Stack

namespace RecordCall

/-- What the empty table answers. -/
def emptyAnswer (call : RecordCall) : Except StoreError (Interface.Reply call) :=
  (RecordTable.answer call ∅).1

/-- A query finds nothing in the empty table. -/
theorem emptyAnswer_query (q : Query) :
    emptyAnswer (.query q) = q.validate.map fun _ => ([] : List Record) := by
  have hnone : RecordTable.query ∅ q = [] := by
    rw [List.eq_nil_iff_forall_not_mem]
    intro r hr
    exact absurd (Query.mem_of_mem_orderAndPage hr) List.not_mem_nil
  rw [emptyAnswer, RecordTable.answer_query, hnone]

/-- Layers that all answer like the empty table. -/
def emptyLayers : Handler (At Nat RecordCall) Unit := fun request =>
  Action.ofExcept request.call.emptyAnswer

/-- Each of them answers like the empty table. -/
theorem run_emptyLayers (call : RecordCall) (place : Nat) :
    ((Program.ofCall call).at place).run emptyLayers () = (call.emptyAnswer, ()) :=
  congrFun ((Program.run_at place emptyLayers _).trans (Program.run_ofCall _ _)) ()

/-- They make up a stack that does. -/
theorem run_throughLayers_emptyAnswer {call : RecordCall} (h : call.IsRead) (lower : Nat) :
    ((Stack.throughRecordLayers (Stack.places lower) call).run emptyLayers ()).1 =
      call.emptyAnswer := by
  cases call with
  | get oid => exact Stack.run_firstHit_of_none (run_emptyLayers (.get oid)) _
  | keys =>
    rw [Stack.throughRecordLayers, Stack.places_eq]
    exact Stack.run_firstNonEmpty_of_nil (run_emptyLayers .keys)
      (fun found hfound => (Except.ok.inj hfound).symm) _ _
  | query q =>
    rw [Stack.throughRecordLayers, Stack.places_eq]
    refine Stack.run_firstNonEmpty_of_nil (run_emptyLayers (.query q)) (fun found hfound => ?_) _ _
    rw [emptyAnswer_query] at hfound
    cases hvalid : q.validate with
    | error e =>
      rw [hvalid] at hfound
      cases hfound
    | ok u =>
      rw [hvalid] at hfound
      exact (Except.ok.inj hfound).symm
  | lifecycle op => cases h
  | apply update => cases h
  | remove oid => cases h

end RecordCall

namespace RecordBase

/-- A base store that has nothing and is set up answers like the empty table, but for queries that
do not fit a statement. -/
theorem answer_of_nothing {base : RecordBase} {s : Storage}
    (hnothing : (StoragePart.records (.ofBase base)).contents s =
      some (StoragePart.records (.ofBase base)).nothing)
    (hsetUp : RecordPart.IsSetUp s (.ofBase base)) (call : RecordCall) :
    (base.answer call s).1 = call.emptyAnswer ∨
      ¬call.FitsStatement ∧ ∃ e, (base.answer call s).1 = .error e := by
  cases base with
  | memory name table =>
    obtain ⟨a, ha, hempty⟩ := Option.map_eq_some_iff.1 hnothing
    obtain ⟨-, hcell⟩ := Storage.cell?_eq_some_iff.1 ha
    left
    show (RecordTable.answer call (s.cell table)).1 = _
    rw [hcell, PartContents.records.inj hempty]
    rfl
  | relational name database =>
    obtain ⟨db, hdb, hempty⟩ := Option.map_eq_some_iff.1 hnothing
    obtain ⟨-, hcell⟩ := Storage.cell?_eq_some_iff.1 hdb
    have hrepresents : (s.cell database).Represents name ∅ :=
      Database.represents_of_rowsUnder hsetUp (hcell ▸ PartContents.rows.inj hempty)
    by_cases hfits : call.FitsStatement
    · exact .inl (hrepresents.answer_eq hfits)
    · cases call with
      | query q =>
        obtain ⟨e, he⟩ := @Database.answer_query_of_not_accepted (s.cell database) name q hfits
        exact .inr ⟨hfits, e, congrArg Prod.fst he⟩
      | _ => exact absurd trivial hfits

end RecordBase

/-- Whether some parts are there, have nothing and are set up, with some settings of guards. -/
structure Storage.HasNothing (known : List RecordPart) (guards : Heap Guard) (s : Storage) :
    Prop where
  nothing : ∀ part ∈ known,
    (StoragePart.records part).contents s = some (StoragePart.records part).nothing
  setUp : ∀ part ∈ known, part.IsSetUp s
  guards : s.guards = guards

namespace RecordStore

/-- Whether nothing is read from a store. -/
structure ReadsAsEmpty (store : RecordStore) (s : Storage) : Prop where
  /-- Whatever is read is what the empty table answers. -/
  nothing : ∀ call : RecordCall, call.IsRead → ∀ reply, (store.perform call s).1 = .ok reply →
    call.emptyAnswer = .ok reply
  /-- Only a guard refuses to read, or a database a query that does not fit a statement. -/
  answers : ∀ call : RecordCall, call.IsRead → call.FitsStatement →
    (∀ guard ∈ store.guards, (s.cell guard).refuses call.name = false) →
      (store.perform call s).1 = call.emptyAnswer

/-- A store that has nothing in its parts answers like the empty table, or it has an excuse. -/
theorem perform_of_nothing (excuse : Prop) {call : RecordCall} (hread : call.IsRead)
    {known : List RecordPart} {guards : Heap Guard} (hfits : ¬call.FitsStatement → excuse)
    {store : RecordStore} (hknown : RecordStore.parts store ⊆ known)
    (hguards : ∀ guard ∈ store.guards, (guards.get guard).refuses call.name = true → excuse)
    {s : Storage} (hs : s.HasNothing known guards) :
    ((store.perform call s).1 = call.emptyAnswer ∨
        excuse ∧ ∃ e, (store.perform call s).1 = .error e) ∧
      (store.perform call s).2.HasNothing known guards := by
  induction store using Store.inductionOn generalizing s with
  | base store =>
    rw [RecordStore.parts, Store.parts] at hknown
    have hpart : RecordPart.ofBase store ∈ known := hknown (List.mem_singleton_self _)
    have hsame : (RecordBase.answer store call s).2 = s := store.answer_read_snd hread s
    rw [perform, Store.perform]
    refine ⟨?_, hsame.symm ▸ hs⟩
    exact (RecordBase.answer_of_nothing (hs.nothing _ hpart) (hs.setUp _ hpart) call).imp_right
      fun h => ⟨hfits h.1, h.2⟩
  | stack name front lower ih =>
    rw [RecordStore.parts, Store.parts_stack] at hknown
    rw [Store.guards_stack] at hguards
    rw [perform, Store.perform_stack]
    have hstep : ∀ (request : At Nat RecordCall) (s : Storage), request.call = call →
        s.HasNothing known guards →
          ((Store.performAt front lower request s).1 = request.call.emptyAnswer ∨
              excuse ∧ ∃ e, (Store.performAt front lower request s).1 = .error e) ∧
            (Store.performAt front lower request s).2.HasNothing known guards := by
      rintro ⟨place, request⟩ s rfl hs
      obtain ⟨layer, hlayer, hperform⟩ := @Store.exists_performAt RecordCall _ _ front lower place
      rw [hperform]
      exact ih layer hlayer
        (fun part hpart => hknown (List.mem_flatMap.2 ⟨layer, hlayer, hpart⟩))
        (fun guard hguard => hguards guard (List.mem_flatMap.2 ⟨layer, hlayer, hguard⟩)) hs
    have hrun := Program.run_follows (fun request => request.call.emptyAnswer)
      (Storage.HasNothing known guards) hstep
      (RecordCall.makes_throughLayers call (Stack.places lower.length)) hs
    have hideal := RecordCall.run_throughLayers_emptyAnswer hread lower.length
    exact ⟨hrun.1.imp_left fun hsame => hsame.trans hideal, hrun.2⟩
  | guarded guard inner ih =>
    rw [RecordStore.parts, Store.parts] at hknown
    rw [Store.guards] at hguards
    have hrival : ((s.cell guard).rival.bind fun value =>
        StoreKind.rivalCall value call) = none := by
      cases (s.cell guard).rival <;> rfl
    rw [perform, Store.perform, Store.throughGuard_apply, hrival]
    by_cases hrefused : (s.cell guard).refuses (StoreKind.callName call) = true
    · rw [if_pos hrefused]
      refine ⟨.inr ⟨hguards guard List.mem_cons_self ?_, _, rfl⟩, hs⟩
      rw [← hs.guards]
      exact hrefused
    · rw [if_neg hrefused]
      exact ih hknown (fun other hother => hguards other (List.mem_cons_of_mem _ hother)) hs

/-- A store that has nothing reads as empty. -/
theorem readsAsEmpty_of_nothing {store : RecordStore} {s : Storage}
    (h : s.HasNothing (RecordStore.parts store) s.guards) : store.ReadsAsEmpty s where
  nothing call hread reply hreply := by
    obtain ⟨hsame | ⟨-, e, herror⟩, -⟩ := perform_of_nothing True hread
      (fun _ => trivial) (List.Subset.refl _) (fun _ _ _ => trivial) h
    · exact hsame.symm.trans hreply
    · rw [herror] at hreply
      cases hreply
  answers call hread hfits hadmits := by
    obtain ⟨hsame | ⟨hfalse, -⟩, -⟩ := perform_of_nothing False hread
      (fun hno => hno hfits) (List.Subset.refl _)
      (fun guard hguard hrefused => absurd hrefused (by
        show ¬(s.cell guard).refuses call.name = true
        rw [hadmits guard hguard]
        decide)) h
    · exact hsame
    · exact hfalse.elim

end RecordStore

end TieredStore
