import TieredStore.Context.Basic
import TieredStore.Proofs.Context.Providers

/-!
# Opening and destroying stores

The three kinds of stores are opened in one way.  A store that is open is given as it is; otherwise
its layers are made and set up, and it is noted as open only if all of that succeeds.  A context
whose types of provider keep layers apart has changed nothing that was stored before, whether it
succeeds or not.  Destroying a name forgets its stores first and then destroys them one by one.

Main results:

- Theorems `Context.openAny_of_open` and `Context.openAny_of_not_open`: a store that is open is
  shared, and a store that is not open is built anew.
- Theorem `Context.buildNew_cases`: what may come of building a store.
- Theorem `Context.destroy_apply`: what destroying a name does.
- Theorem `AnyStore.empty_of_destroyed`: the records of a name have nothing once all stores of the
  name were destroyed.
-/

namespace TieredStore

open Storage (Spares)

/-! ## Open stores of every contract -/

namespace Context

/-- The open store of a contract and a name. -/
def store? (context : Context) : Contract → String → Option AnyStore
  | .records, name => (context.records.get? name).map .records
  | .texts, name => (context.texts.get? name).map .texts
  | .counters, name => (context.counters.get? name).map .counters

/-- A context in which one more store is open. -/
def withStore (context : Context) (name : String) : AnyStore → Context
  | .records store => { context with records := context.records.insert name store }
  | .texts store => { context with texts := context.texts.insert name store }
  | .counters store => { context with counters := context.counters.insert name store }

/-- Opens the store of a contract and a name. -/
def openAny (name : String) : Contract → Action (Context × Storage) AnyStore
  | .records => openStore Shelf.records name >>= fun store => pure (.records store)
  | .texts => openStore Shelf.texts name >>= fun store => pure (.texts store)
  | .counters => openStore Shelf.counters name >>= fun store => pure (.counters store)

/-- Builds a store of one kind and notes it as open. -/
def buildAndKeep {Base : Type} (shelf : Shelf Base) (name : String) :
    Action (Context × Storage) (Store Base) := do
  let store ← build shelf name
  keep shelf name store
  pure store

/-- Builds the store of a contract and a name, whatever is open, and notes it as open. -/
def buildNew (name : String) : Contract → Action (Context × Storage) AnyStore
  | .records => buildAndKeep Shelf.records name >>= fun store => pure (.records store)
  | .texts => buildAndKeep Shelf.texts name >>= fun store => pure (.texts store)
  | .counters => buildAndKeep Shelf.counters name >>= fun store => pure (.counters store)

/-- A context and storage with other connections and other contents. -/
def reaching (context : Context) (t : Registry × Storage) : Context × Storage :=
  ({ context with registry := t.1 }, t.2)

variable {context : Context} {contract other : Contract} {name another : String}
  {store : AnyStore}

/-- Stores are open under their contract. -/
theorem contract_of_store? (h : context.store? contract name = some store) :
    store.contract = contract := by
  cases contract <;>
  · obtain ⟨_, -, rfl⟩ := Option.map_eq_some_iff.1 h
    rfl

/-- Noting a store changes neither the configuration nor the connections. -/
theorem withStore_rest (context : Context) (name : String) (store : AnyStore) :
    (context.withStore name store).resolver = context.resolver ∧
      (context.withStore name store).types = context.types ∧
      (context.withStore name store).registry = context.registry := by
  cases store <;> exact ⟨rfl, rfl, rfl⟩

/-- A store that was noted is open. -/
theorem store?_withStore_self (context : Context) (name : String) (store : AnyStore) :
    (context.withStore name store).store? store.contract name = some store := by
  cases store <;> exact congrArg (Option.map _) (SortedMap.get?_insert_self _ _ _)

/-- Nothing else is open because of it. -/
theorem store?_withStore_of_ne (context : Context) (store : AnyStore)
    (hne : ¬(contract = store.contract ∧ another = name)) :
    (context.withStore name store).store? contract another = context.store? contract another := by
  have hname : contract = store.contract → another ≠ name := fun h h' => hne ⟨h, h'⟩
  cases store <;> cases contract <;> first
    | rfl
    | exact congrArg (Option.map _) (SortedMap.get?_insert_of_ne _ _ (hname rfl))

/-- What is open once a store was noted was open before, or it is this store. -/
theorem store?_withStore_cases {found : AnyStore}
    (h : (context.withStore name store).store? contract another = some found) :
    contract = store.contract ∧ another = name ∧ found = store ∨
      context.store? contract another = some found := by
  by_cases hsame : contract = store.contract ∧ another = name
  · obtain ⟨rfl, rfl⟩ := hsame
    rw [store?_withStore_self] at h
    exact .inl ⟨rfl, rfl, (Option.some.inj h).symm⟩
  · rw [store?_withStore_of_ne _ _ hsame] at h
    exact .inr h

/-- A store that is open is given as it is. -/
theorem openAny_of_open {s : Context × Storage} (h : s.1.store? contract name = some store) :
    openAny name contract s = (.ok store, s) := by
  cases contract <;>
  · obtain ⟨store, hstore, rfl⟩ := Option.map_eq_some_iff.1 h
    rw [openAny, Action.bind_apply, openStore_of_opened _ hstore]
    rfl

/-- A store that is not open is built anew. -/
theorem openAny_of_not_open {s : Context × Storage} (h : s.1.store? contract name = none) :
    openAny name contract s = buildNew name contract s := by
  have hbuild : ∀ {Base : Type} (shelf : Shelf Base), (shelf.opened s.1).get? name = none →
      openStore shelf name s = buildAndKeep shelf name s := by
    intro Base shelf hnone
    rw [openStore, Action.bind_apply, Action.read_apply]
    simp only [hnone]
    rfl
  cases contract with
  | records =>
    rw [openAny, buildNew, Action.bind_apply, Action.bind_apply,
      hbuild Shelf.records (Option.map_eq_none_iff.1 h)]
  | texts =>
    rw [openAny, buildNew, Action.bind_apply, Action.bind_apply,
      hbuild Shelf.texts (Option.map_eq_none_iff.1 h)]
  | counters =>
    rw [openAny, buildNew, Action.bind_apply, Action.bind_apply,
      hbuild Shelf.counters (Option.map_eq_none_iff.1 h)]

end Context

/-! ## Shelves -/

/-- Whether a shelf has the stores of its contract. -/
structure Shelf.Wraps {Base : Type} (shelf : Shelf Base) (wrap : Store Base → AnyStore) :
    Prop where
  contract : ∀ store, (wrap store).contract = shelf.contract
  lifecycle : ∀ store op, shelf.lifecycle store op = (wrap store).lifecycle op
  withStore : ∀ (context : Context) name store,
    shelf.withOpened ((shelf.opened context).insert name store) context =
      context.withStore name (wrap store)
  footprint_stack : ∀ name front lower, (wrap (.stack name front lower)).footprint =
    (front :: lower).flatMap fun layer => (wrap layer).footprint
  made : ∀ (type : ProviderType) p link, type.KeepsApart p link → ∀ make,
    shelf.maker type = some make → ∀ store s,
      Made (fun l => shelf.contract = .records ∧ link = some l) store
        (fun layer => (wrap layer).footprint) s (make store p s)

/-- The layers of a stack have its parts. -/
theorem Store.footprint_stack {Call Table : Type} [Interface Call] [StoreKind Call]
    [Inhabited Table] [Stored Table] [MemoryKind Call Table] [PartKind Call Table] [Kept Call]
    (name : String) (front : Store (StoreKind.Base Call))
    (lower : List (Store (StoreKind.Base Call))) :
    (Store.stack name front lower).footprint = (front :: lower).flatMap Store.footprint := by
  rw [footprint, parts_stack, List.map_flatMap]
  rfl

namespace Shelf

/-- The shelf of records has the stores of records. -/
theorem wraps_records : records.Wraps .records where
  contract _ := rfl
  lifecycle _ _ := rfl
  withStore _ _ _ := rfl
  footprint_stack := @Store.footprint_stack RecordCall _ _ _ _ _ _ _ _
  made _ _ _ htype make hmake store s :=
    (htype.records make hmake store s).congr fun _ => (and_iff_right rfl).symm

/-- The shelf of texts has the stores of texts. -/
theorem wraps_texts : texts.Wraps .texts where
  contract _ := rfl
  lifecycle _ _ := rfl
  withStore _ _ _ := rfl
  footprint_stack := @Store.footprint_stack (EntryCall String) _ _ _ _ _ _ _ _
  made _ _ _ htype make hmake store s :=
    (htype.texts make hmake store s).congr fun _ => ⟨False.elim, fun h => nomatch h.1⟩

/-- The shelf of integers has the stores of integers. -/
theorem wraps_counters : counters.Wraps .counters where
  contract _ := rfl
  lifecycle _ _ := rfl
  withStore _ _ _ := rfl
  footprint_stack := @Store.footprint_stack (EntryCall Int64) _ _ _ _ _ _ _ _
  made _ _ _ htype make hmake store s :=
    (htype.counters make hmake store s).congr fun _ => ⟨False.elim, fun h => nomatch h.1⟩

end Shelf

/-! ## Building a store -/

/-- A store of any contract that was set up needs no more tables in any of its parts. -/
theorem AnyStore.isSetUp_of_setup {store : AnyStore} {s : Storage}
    (held : ∀ part ∈ store.footprint, (part.contents s).isSome)
    (hok : (store.lifecycle .setup s).1 = .ok ()) :
    ∀ part ∈ store.footprint, part.IsSetUp (store.lifecycle .setup s).2 := by
  intro part hpart
  cases store with
  | records store =>
    obtain ⟨own, hown, rfl⟩ := List.mem_map.1 hpart
    exact RecordStore.isSetUp_of_setup (fun other hother => held _ (List.mem_map_of_mem hother))
      hok own hown
  | texts store =>
    obtain ⟨table, -, rfl⟩ := List.mem_map.1 hpart
    trivial
  | counters store =>
    obtain ⟨table, -, rfl⟩ := List.mem_map.1 hpart
    trivial

/-- Whether the parts of a store are there and set up, and those in databases bear its name. -/
structure AnyStore.Settled (name : String) (s : Storage) (store : AnyStore) : Prop where
  held : ∀ part ∈ store.footprint, (part.contents s).isSome
  setUp : ∀ part ∈ store.footprint, part.IsSetUp s
  named : ∀ database other, .records (.inDatabase database other) ∈ store.footprint → other = name

/-- What is there stays there, whatever is written. -/
theorem AnyStore.Settled.spared {name : String} {s t : Storage} {store : AnyStore}
    (h : store.Settled name s) {touched : List StoragePart} (hspares : Spares touched s t) :
    store.Settled name t where
  held part hpart := hspares.held part (h.held part hpart)
  setUp part hpart := hspares.setUp part (h.setUp part hpart)
  named := h.named

/-- Whether some provider of a store is linked to a database in some way. -/
def Resolver.Links (resolver : Resolver) (link : ProviderConfig → Option DatabaseLink)
    (name : String) (l : DatabaseLink) : Prop :=
  ∃ providers, resolver.resolve name = .ok providers ∧ ∃ p ∈ providers, link p = some l

namespace Context

variable {Base : Type} {shelf : Shelf Base} {wrap : Store Base → AnyStore}
  {link : ProviderConfig → Option DatabaseLink} {store : String} {s : Context × Storage}

/-- Whether the types of provider of a context keep the layers of stores apart. -/
def KeepsApart (link : ProviderConfig → Option DatabaseLink) (context : Context) : Prop :=
  ∀ p type, context.types.get? p.kind = some type → type.KeepsApart p (link p)

/-- What may come of making one layer. -/
theorem makeLayer_cases (hshelf : shelf.Wraps wrap) (hkeeps : s.1.KeepsApart link)
    (store : String) (p : ProviderConfig) :
    ∃ r t, makeLayer shelf store p s = (r, s.1.reaching t) ∧
      Made (fun l => shelf.contract = .records ∧ link p = some l) store
        (fun layer => (wrap layer).footprint) (s.1.registry, s.2) (r, t) := by
  rw [makeLayer, Action.bind_apply, Action.read_apply]
  dsimp only
  cases htype : s.1.types.get? p.kind with
  | none => exact ⟨_, _, rfl, Made.failed _ _ _ _ (Grown.refl _ _)⟩
  | some type =>
    dsimp only
    cases hmake : shelf.maker type with
    | none => exact ⟨_, _, rfl, Made.failed _ _ _ _ (Grown.refl _ _)⟩
    | some make =>
      exact ⟨_, _, rfl, hshelf.made type p _ (hkeeps p type htype) make hmake store _⟩

/-- What may come of making the layers of a store. -/
theorem makeLayers_cases (hshelf : shelf.Wraps wrap) (hkeeps : s.1.KeepsApart link)
    (store : String) (providers : List ProviderConfig) :
    ∃ r t, makeLayers shelf store providers s = (r, s.1.reaching t) ∧
      Made (fun l => shelf.contract = .records ∧ ∃ p ∈ providers, link p = some l) store
        (fun layers => layers.flatMap fun layer => (wrap layer).footprint)
        (s.1.registry, s.2) (r, t) := by
  induction providers generalizing s with
  | nil =>
    refine ⟨_, _, rfl, Grown.refl _ _, fun layers hlayers part hpart => ?_,
      fun layers hlayers l hl => ?_⟩
    · obtain rfl := Except.ok.inj hlayers
      cases hpart
    · obtain ⟨-, p, hp, -⟩ := hl
      cases hp
  | cons p rest ih =>
    have hlinks : ∀ l, (shelf.contract = .records ∧ link p = some l ∨
        shelf.contract = .records ∧ ∃ p ∈ rest, link p = some l) ↔
          shelf.contract = .records ∧ ∃ q ∈ p :: rest, link q = some l := by
      intro l
      simp only [List.mem_cons, exists_eq_or_imp]
      tauto
    obtain ⟨r, t, hfirst, hmade⟩ := makeLayer_cases hshelf hkeeps store p
    rw [makeLayers, Action.bind_apply, hfirst]
    cases r with
    | error e =>
      exact ⟨_, t, rfl, Made.failed _ _ _ _ (hmade.grown.mono fun l hl => (hlinks l).1 (.inl hl))⟩
    | ok layer =>
      obtain ⟨r', u, hrest, hmade'⟩ := @ih (s.1.reaching t) hkeeps
      refine ⟨r'.map (layer :: ·), u, ?_, ?_⟩
      · show (makeLayers shelf store rest >>= fun lower => pure (layer :: lower))
          (s.1.reaching t) = _
        rw [Action.bind_apply, hrest]
        cases r' <;> rfl
      · exact (hmade.and_then hmade' fun lower => List.flatMap_cons).congr hlinks

/-- What may come of setting a stack up once its layers are made. -/
theorem setUp_cases (hshelf : shelf.Wraps wrap) (hwired : Wired (s.1.registry, s.2))
    {links : DatabaseLink → Prop} {t : Registry × Storage} {stack : Store Base}
    (hmade : Made links store (fun stack => (wrap stack).footprint) (s.1.registry, s.2)
      (.ok stack, t)) :
    ∃ r u, (onStorage (shelf.lifecycle stack .setup) >>= fun _ => pure stack) (s.1.reaching t) =
        (r, s.1.reaching u) ∧
      Made links store (fun stack => (wrap stack).footprint) (s.1.registry, s.2) (r, u) ∧
      ∀ stack, r = .ok stack → ∀ part ∈ (wrap stack).footprint, part.IsSetUp u.2 := by
  have hspares := (wrap stack).spares_setup t.2
  have hshared := ((wrap stack).runs_lifecycle .setup t.2).spares.2
  have hsetUp := AnyStore.isSetUp_of_setup fun part hpart => hmade.held hwired hpart
  have hsetup : onStorage (shelf.lifecycle stack .setup) (s.1.reaching t) =
      (((wrap stack).lifecycle .setup t.2).1,
        s.1.reaching (t.1, ((wrap stack).lifecycle .setup t.2).2)) := by
    rw [hshelf.lifecycle]
    rfl
  rw [Action.bind_apply, hsetup]
  rcases hresult : (wrap stack).lifecycle .setup t.2 with ⟨_ | _, u⟩
  · rw [hresult] at hspares hshared
    exact ⟨_, (t.1, u), rfl,
      Made.failed _ _ _ _ (hmade.grown.trans (Grown.of_spares _ hspares rfl hshared)),
      fun stack hstack => nomatch hstack⟩
  · rw [hresult] at hspares hshared hsetUp
    refine ⟨_, (t.1, u), rfl, hmade.and_spared hspares hshared rfl, fun stack hstack => ?_⟩
    obtain rfl := Except.ok.inj hstack
    exact hsetUp rfl

/-- What may come of making the stack of a store and setting it up. -/
theorem build_cases (hshelf : shelf.Wraps wrap) (hkeeps : s.1.KeepsApart link)
    (hwired : Wired (s.1.registry, s.2)) (name : String) :
    ∃ r t, build shelf name s = (r, s.1.reaching t) ∧
      Made (fun l => shelf.contract = .records ∧ s.1.resolver.Links link name l) name
        (fun stack => (wrap stack).footprint) (s.1.registry, s.2) (r, t) ∧
      ∀ stack, r = .ok stack → ∀ part ∈ (wrap stack).footprint, part.IsSetUp t.2 := by
  rw [build, Action.bind_apply, Action.read_apply]
  dsimp only
  rw [Action.bind_apply, Action.ofExcept_apply]
  cases hresolve : s.1.resolver.resolve name with
  | error e =>
    exact ⟨_, _, rfl, Made.failed _ _ _ _ (Grown.refl _ _), fun stack hstack => nomatch hstack⟩
  | ok providers =>
    dsimp only
    have hlinks : ∀ l, (shelf.contract = .records ∧ ∃ p ∈ providers, link p = some l) ↔
        shelf.contract = .records ∧ s.1.resolver.Links link name l := by
      refine fun l => and_congr_right fun _ => ⟨fun h => ⟨providers, hresolve, h⟩, ?_⟩
      rintro ⟨others, hothers, h⟩
      obtain rfl := Except.ok.inj (hresolve.symm.trans hothers)
      exact h
    obtain ⟨r, t, hlayers, hmade⟩ := makeLayers_cases hshelf hkeeps name providers
    replace hmade := hmade.congr hlinks
    rw [Action.bind_apply, hlayers]
    rcases r with e | (_ | ⟨front, lower⟩)
    · exact ⟨_, t, rfl, Made.failed _ _ _ _ hmade.grown, fun stack hstack => nomatch hstack⟩
    · exact ⟨_, t, rfl, Made.failed _ _ _ _ hmade.grown, fun stack hstack => nomatch hstack⟩
    · exact setUp_cases hshelf hwired (hmade.and_spared (Spares.refl _ _) rfl
        (hshelf.footprint_stack name front lower))

/-- What may come of building a store and noting it as open. -/
structure Built (link : ProviderConfig → Option DatabaseLink) (contract : Contract)
    (name : String) (s : Context × Storage) (r : Except StoreError AnyStore)
    (t : Registry × Storage) : Prop where
  made : Made (fun l => contract = .records ∧ s.1.resolver.Links link name l) name
    AnyStore.footprint (s.1.registry, s.2) (r, t)
  setUp : ∀ store, r = .ok store → ∀ part ∈ store.footprint, part.IsSetUp t.2
  contract : ∀ store, r = .ok store → store.contract = contract

/-- A store that was built is there and set up. -/
theorem Built.settled {contract : Contract} {name : String} {store : AnyStore}
    {t : Registry × Storage} (h : Built link contract name s (.ok store) t)
    (hwired : Wired (s.1.registry, s.2)) : store.Settled name t.2 where
  held _ hpart := h.made.held hwired hpart
  setUp := h.setUp store rfl
  named database other hpart := by
    rcases h.made.given store rfl _ hpart with hnew | ⟨l, database', -, -, hsame⟩
    · exact hnew.named database other rfl
    · exact (RecordPart.inDatabase.inj (StoragePart.records.inj hsame)).2

/-- A store that was built is open; a failure leaves the open stores as they are. -/
theorem buildNew_cases (hkeeps : s.1.KeepsApart link) (hwired : Wired (s.1.registry, s.2))
    (name : String) (contract : Contract) :
    ∃ r t, Built link contract name s r t ∧ buildNew name contract s = (r, match r with
      | .ok store => ((s.1.reaching t).1.withStore name store, t.2)
      | .error _ => s.1.reaching t) := by
  have hone : ∀ {Base : Type} (shelf : Shelf Base) (wrap : Store Base → AnyStore),
      shelf.Wraps wrap → ∃ r t, Built link shelf.contract name s r t ∧
        (buildAndKeep shelf name >>= fun store => pure (wrap store)) s = (r, match r with
          | .ok store => ((s.1.reaching t).1.withStore name store, t.2)
          | .error _ => s.1.reaching t) := by
    intro Base shelf wrap hshelf
    obtain ⟨r, t, hbuild, hmade, hsetUp⟩ := build_cases hshelf hkeeps hwired name
    rcases r with e | stack
    · refine ⟨.error e, t, ⟨hmade.map wrap fun _ => rfl, fun _ hstore => (nomatch hstore),
        fun _ hstore => (nomatch hstore)⟩, ?_⟩
      rw [buildAndKeep, Action.bind_apply, Action.bind_apply, hbuild]
    · refine ⟨.ok (wrap stack), t, ⟨hmade.map wrap fun _ => rfl, fun store hstore => ?_,
        fun store hstore => ?_⟩, ?_⟩
      · obtain rfl := Except.ok.inj hstore
        exact hsetUp stack rfl
      · obtain rfl := Except.ok.inj hstore
        exact hshelf.contract stack
      · rw [buildAndKeep, Action.bind_apply, Action.bind_apply, hbuild]
        show (Except.ok (wrap stack), (shelf.withOpened ((shelf.opened (s.1.reaching t).1).insert
          name stack) (s.1.reaching t).1, t.2)) = _
        rw [hshelf.withStore]
  cases contract with
  | records => exact hone Shelf.records .records Shelf.wraps_records
  | texts => exact hone Shelf.texts .texts Shelf.wraps_texts
  | counters => exact hone Shelf.counters .counters Shelf.wraps_counters

end Context

/-! ## Destroying a name -/

namespace AnyStore

/-- A lifecycle call to stores one after the other. -/
def lifecycleAll (op : Lifecycle) : List AnyStore → Action Storage Unit
  | [] => pure ()
  | store :: rest => store.lifecycle op >>= fun _ => lifecycleAll op rest

variable {op : Lifecycle} {stores : List AnyStore} {s : Storage}

/-- Some stores are called before the others. -/
theorem lifecycleAll_append (op : Lifecycle) (stores others : List AnyStore) :
    lifecycleAll op (stores ++ others) =
      lifecycleAll op stores >>= fun _ => lifecycleAll op others := by
  induction stores with
  | nil => rfl
  | cons store rest ih =>
    rw [List.cons_append, lifecycleAll, lifecycleAll, ih]
    exact (Action.bind_assoc _ _ _).symm

/-- Lifecycle calls to some stores touch their parts only, and neither the clock nor a guard. -/
theorem lifecycleAll_spares (op : Lifecycle) (stores : List AnyStore) (s : Storage) :
    Spares (stores.flatMap footprint) s (lifecycleAll op stores s).2 ∧
      (lifecycleAll op stores s).2.shared = s.shared ∧
      (lifecycleAll op stores s).2.clock = s.clock ∧
      (lifecycleAll op stores s).2.guards = s.guards := by
  induction stores generalizing s with
  | nil => exact ⟨Spares.refl _ _, rfl, rfl, rfl⟩
  | cons store rest ih =>
    obtain ⟨hspares, hshared⟩ := (store.runs_lifecycle op s).spares
    obtain ⟨hclock, hguards⟩ := store.lifecycle_quiet op s
    rw [lifecycleAll, Action.bind_apply]
    rcases hcall : store.lifecycle op s with ⟨_ | _, t⟩
    · rw [hcall] at hspares hshared hclock hguards
      exact ⟨hspares.mono (List.subset_append_left _ _), hshared, hclock, hguards⟩
    · rw [hcall] at hspares hshared hclock hguards
      obtain ⟨hspares', hshared', hclock', hguards'⟩ := ih t
      exact ⟨(hspares.mono (List.subset_append_left _ _)).trans
        (hspares'.mono (List.subset_append_right _ _)), hshared'.trans hshared,
        hclock'.trans hclock, hguards'.trans hguards⟩

/-- Only stores of records have parts with records. -/
theorem contract_of_mem_footprint {store : AnyStore} {part : RecordPart}
    (h : .records part ∈ store.footprint) : store.contract = .records := by
  cases store with
  | records store => rfl
  | texts store =>
    obtain ⟨table, -, hsame⟩ := List.mem_map.1 h
    cases hsame
  | counters store =>
    obtain ⟨table, -, hsame⟩ := List.mem_map.1 h
    cases hsame

/-- A store of records that was destroyed before stores of other contracts has nothing. -/
theorem empty_of_destroyed {store : RecordStore}
    (hothers : ∀ other ∈ stores, other.contract ≠ .records)
    (hheld : ∀ part ∈ (records store).footprint, (part.contents s).isSome)
    (hok : (lifecycleAll .destroy (records store :: stores) s).1 = .ok ()) :
    ∀ part ∈ (records store).footprint,
      (lifecycleAll .destroy (records store :: stores) s).2.IsEmptyPart part := by
  intro part hpart
  obtain ⟨own, hown, rfl⟩ := List.mem_map.1 hpart
  rw [lifecycleAll, Action.bind_apply] at hok ⊢
  have hnothing := @RecordStore.nothing_of_destroyed store s
    fun other hother => hheld _ (List.mem_map_of_mem hother)
  rcases hcall : (records store).lifecycle .destroy s with ⟨_ | _, t⟩
  · rw [hcall] at hok
    cases hok
  · have hempty : t.IsEmptyPart (.records own) := by
      have hperform : store.perform (.lifecycle .destroy) s = (.ok (), t) := hcall
      rw [hperform] at hnothing
      exact hnothing rfl own hown
    refine (lifecycleAll_spares .destroy stores t).1.same _ (fun hmem => ?_) _ hempty
    obtain ⟨other, hother, hpart⟩ := List.mem_flatMap.1 hmem
    exact hothers other hother (contract_of_mem_footprint hpart)

end AnyStore

namespace Context

variable {name other : String}

/-- A lifecycle call to stores of one kind. -/
theorem lifecycleAll_apply {Base : Type} {shelf : Shelf Base} {wrap : Store Base → AnyStore}
    (hshelf : shelf.Wraps wrap) (op : Lifecycle) (stores : List (Store Base)) (context : Context)
    (s : Storage) : lifecycleAll shelf op stores (context, s) =
      ((AnyStore.lifecycleAll op (stores.map wrap) s).1, context,
        (AnyStore.lifecycleAll op (stores.map wrap) s).2) := by
  induction stores generalizing s with
  | nil => rfl
  | cons store rest ih =>
    have hone : onStorage (shelf.lifecycle store op) (context, s) =
        (((wrap store).lifecycle op s).1, context, ((wrap store).lifecycle op s).2) := by
      rw [hshelf.lifecycle]
      rfl
    rw [lifecycleAll, Action.bind_apply, hone, List.map_cons, AnyStore.lifecycleAll,
      Action.bind_apply]
    rcases (wrap store).lifecycle op s with ⟨_ | _, t⟩
    · rfl
    · exact ih t

/-- The open stores of a name. -/
def storesOf (context : Context) (name : String) : List AnyStore :=
  (context.store? .records name).toList ++ ((context.store? .texts name).toList ++
    (context.store? .counters name).toList)

/-- The open stores of a name are open under their contracts. -/
theorem exists_store?_of_mem_storesOf {context : Context} {store : AnyStore}
    (h : store ∈ context.storesOf name) :
    ∃ contract, context.store? contract name = some store := by
  rcases List.mem_append.1 h with h | h
  · exact ⟨.records, Option.mem_toList.1 h⟩
  rcases List.mem_append.1 h with h | h
  · exact ⟨.texts, Option.mem_toList.1 h⟩
  · exact ⟨.counters, Option.mem_toList.1 h⟩

/-- The open records of a name come before its other open stores. -/
theorem exists_storesOf_eq_cons {context : Context} {store : RecordStore}
    (h : context.store? .records name = some (.records store)) :
    ∃ rest, context.storesOf name = .records store :: rest ∧
      ∀ other ∈ rest, other.contract ≠ .records := by
  refine ⟨(context.store? .texts name).toList ++ (context.store? .counters name).toList, ?_, ?_⟩
  · rw [storesOf, h]
    rfl
  · intro other hother hrecords
    rcases List.mem_append.1 hother with hother | hother
    · rw [contract_of_store? (Option.mem_toList.1 hother)] at hrecords
      cases hrecords
    · rw [contract_of_store? (Option.mem_toList.1 hother)] at hrecords
      cases hrecords

/-- A context without the open stores of a name. -/
def without (context : Context) (name : String) : Context :=
  { context with
    records := context.records.erase name
    texts := context.texts.erase name
    counters := context.counters.erase name }

/-- Nothing is open under a name that was forgotten. -/
theorem store?_without_self (context : Context) (contract : Contract) (name : String) :
    (context.without name).store? contract name = none := by
  cases contract <;> exact congrArg (Option.map _) (SortedMap.get?_erase_self _ _)

/-- All other names are open as before. -/
theorem store?_without_of_ne (context : Context) (contract : Contract) (hne : other ≠ name) :
    (context.without name).store? contract other = context.store? contract other := by
  cases contract <;> exact congrArg (Option.map _) (SortedMap.get?_erase_of_ne _ hne)

/-- Destroying a name forgets its stores, destroys them one by one, and tells whether there were
any. -/
theorem destroy_apply (context : Context) (name : String) (s : Storage) :
    destroy name (context, s) =
      ((AnyStore.lifecycleAll .destroy (context.storesOf name) s).1.map fun _ =>
          !(context.storesOf name).isEmpty,
        context.without name, (AnyStore.lifecycleAll .destroy (context.storesOf name) s).2) := by
  have hforget : destroy name (context, s) =
      (lifecycleAll Shelf.records .destroy (context.records.get? name).toList >>= fun _ =>
        lifecycleAll Shelf.texts .destroy (context.texts.get? name).toList >>= fun _ =>
        lifecycleAll Shelf.counters .destroy (context.counters.get? name).toList >>= fun _ =>
        pure !((context.records.get? name).toList.isEmpty &&
          (context.texts.get? name).toList.isEmpty &&
          (context.counters.get? name).toList.isEmpty)) (context.without name, s) := rfl
  have hstores : context.storesOf name =
      (context.records.get? name).toList.map .records ++
        ((context.texts.get? name).toList.map .texts ++
          (context.counters.get? name).toList.map .counters) := by
    simp only [storesOf, store?, Option.toList_map]
  rw [hforget, hstores, AnyStore.lifecycleAll_append, AnyStore.lifecycleAll_append]
  simp only [Action.bind_apply, lifecycleAll_apply Shelf.wraps_records,
    lifecycleAll_apply Shelf.wraps_texts, lifecycleAll_apply Shelf.wraps_counters]
  rcases AnyStore.lifecycleAll .destroy _ s with ⟨_ | _, t⟩
  · rfl
  dsimp only
  rcases AnyStore.lifecycleAll .destroy _ t with ⟨_ | _, u⟩
  · rfl
  dsimp only
  rcases AnyStore.lifecycleAll .destroy _ u with ⟨_ | _, v⟩
  · rfl
  cases context.records.get? name <;> cases context.texts.get? name <;>
    cases context.counters.get? name <;> rfl

end Context

end TieredStore
