import TieredStore.Proofs.Context.Opening

/-!
# Sessions

A session is a context with its storage and all stores that were ever opened from it.  It goes on
by events: a store is opened or refused, a program runs against an opened store, a name is
destroyed, the context is shut down, the clock or a guard is set.

Along every run, stores with different names have no part of the storage in common, and open
stores of records are linked to the databases that the registry knows.

Main results:

- Theorems `Session.Step.opened_cases`, `Session.Step.refused_cases` and
  `Session.Step.destroyed_cases`: what an event does to a session.
- Theorem `Session.Sound.run`: the invariant of all sessions.
- Theorems `Session.Run.keeps_open` and `Session.Run.keeps_closed`: what stays open, and what stays
  closed.
-/

namespace TieredStore

open Storage (Spares)

/-- A context, its storage, and the stores that were opened from it, each with its name. -/
structure Session where
  context : Context
  storage : Storage
  handles : List (String × AnyStore)

namespace Session

/-! ## Runs of sessions -/

/-- What happens to a session. -/
inductive Event where
  | opened (name : String) (store : AnyStore)
  | refused (name : String) (contract : Contract) (error : StoreError)
  /-- A program runs against a store that was opened. -/
  | used (name : String) (store : AnyStore)
  | destroyed (name : String) (result : Except StoreError Bool)
  | shutDown
  /-- The clock is set, guards are told what to refuse, OIDs are drawn. -/
  | tuned

namespace Event

/-- Whether a store of a contract and a name is opened. -/
def Opens (name : String) (contract : Contract) : Event → Prop
  | .opened other store => other = name ∧ store.contract = contract
  | _ => False

/-- Whether the open stores of a name are forgotten. -/
def Forgets (name : String) : Event → Prop
  | .destroyed other _ => other = name
  | .shutDown => True
  | _ => False

/-- Whether a store of records of a name is used. -/
def UsesRecords (name : String) : Event → Prop
  | .used other (.records _) => other = name
  | _ => False

end Event

/-- How a session goes on. -/
inductive Step : Session → Event → Session → Prop where
  | opened {σ : Session} {name : String} {contract : Contract} {store : AnyStore}
    {s : Context × Storage}
    (h : Context.openAny name contract (σ.context, σ.storage) = (.ok store, s)) :
    Step σ (.opened name store) ⟨s.1, s.2, (name, store) :: σ.handles⟩
  | refused {σ : Session} {name : String} {contract : Contract} {e : StoreError}
    {s : Context × Storage}
    (h : Context.openAny name contract (σ.context, σ.storage) = (.error e, s)) :
    Step σ (.refused name contract e) ⟨s.1, s.2, σ.handles⟩
  | used {σ : Session} {name : String} {store : AnyStore} {t : Storage}
    (hopen : (name, store) ∈ σ.handles) (h : store.Runs σ.storage t) :
    Step σ (.used name store) { σ with storage := t }
  | destroyed {σ : Session} {name : String} {result : Except StoreError Bool}
    {s : Context × Storage}
    (h : Context.destroy name (σ.context, σ.storage) = (result, s)) :
    Step σ (.destroyed name result) ⟨s.1, s.2, σ.handles⟩
  | shutDown {σ : Session} : Step σ .shutDown { σ with context := σ.context.shutdown }
  | tuned {σ : Session} (clock : Int64) (guards : Heap Guard) (drawn : Nat) :
    Step σ .tuned { σ with storage := { σ.storage with clock, guards, drawn } }

/-- Whether events lead from one session to another. -/
inductive Run : Session → List Event → Session → Prop where
  | nil {σ : Session} : Run σ [] σ
  | cons {σ τ υ : Session} {e : Event} {events : List Event} (h : Step σ e τ)
    (rest : Run τ events υ) : Run σ (e :: events) υ

/-- A session in which nothing was opened yet. -/
def start (resolver : Resolver) (types : SortedMap String ProviderType) (storage : Storage) :
    Session where
  context := { resolver, types }
  storage := storage
  handles := []

end Session

/-! ## The invariant -/

/-- Whether all providers that share the name of a connection would open it at one place.  So it
does not matter which of them comes first. -/
def Resolver.OnePlace (resolver : Resolver) (link : ProviderConfig → Option DatabaseLink) : Prop :=
  ∀ name other l l', resolver.Links link name l → resolver.Links link other l' →
    l.connection = l'.connection → l.place = l'.place

/-- The providers of a store are configured. -/
theorem Resolver.mem_providers_of_resolve {resolver : Resolver} {name : String}
    {providers : List ProviderConfig} (h : resolver.resolve name = .ok providers)
    {p : ProviderConfig} (hp : p ∈ providers) : p ∈ resolver.config.providers := by
  have hall : ∀ (names : List String) (found : List ProviderConfig),
      names.mapM resolver.provider = .ok found → ∀ p ∈ found, p ∈ resolver.config.providers := by
    intro names
    induction names with
    | nil =>
      intro found hfound p hp
      rw [← Except.ok.inj hfound] at hp
      cases hp
    | cons name rest ih =>
      intro found hfound p hp
      rw [List.mapM_cons] at hfound
      cases hprovider : resolver.config.provider? name with
      | none =>
        rw [provider, hprovider] at hfound
        cases hfound
      | some first =>
        rw [provider, hprovider] at hfound
        cases hrest : rest.mapM resolver.provider with
        | error e =>
          rw [hrest] at hfound
          cases hfound
        | ok others =>
          rw [hrest] at hfound
          rw [← Except.ok.inj hfound] at hp
          rcases List.mem_cons.1 hp with rfl | hp
          · exact List.mem_of_find?_eq_some hprovider
          · exact ih others hrest p hp
  rw [resolve] at h
  cases hrule : resolver.rule? name with
  | none =>
    rw [hrule] at h
    cases h
  | some rule =>
    rw [hrule] at h
    exact hall rule.providers providers h p hp

/-- Databases that each belong to whoever opens them all lie at one place. -/
theorem Resolver.onePlace_of_own {resolver : Resolver}
    {link : ProviderConfig → Option DatabaseLink}
    (h : ∀ p ∈ resolver.config.providers, ∀ l, link p = some l → l.place = some .own) :
    resolver.OnePlace link := by
  rintro name other l l' ⟨_, hproviders, p, hp, hl⟩ ⟨_, hothers, q, hq, hl'⟩ -
  rw [h p (mem_providers_of_resolve hproviders hp) l hl,
    h q (mem_providers_of_resolve hothers hq) l' hl']

namespace Session

variable {link : ProviderConfig → Option DatabaseLink} {resolver : Resolver} {σ τ υ : Session}
  {name : String} {store : AnyStore} {e : Event} {events : List Event}

/-- The invariant of all sessions. -/
structure Sound (link : ProviderConfig → Option DatabaseLink) (resolver : Resolver)
    (σ : Session) : Prop where
  resolves : σ.context.resolver = resolver
  keepsApart : σ.context.KeepsApart link
  wired : Wired (σ.context.registry, σ.storage)
  cached : ∀ contract name store, σ.context.store? contract name = some store →
    (name, store) ∈ σ.handles
  settled : ∀ name store, (name, store) ∈ σ.handles → store.Settled name σ.storage
  apart : ∀ name store other store', (name, store) ∈ σ.handles → (other, store') ∈ σ.handles →
    other ≠ name → ∀ part ∈ store.footprint, part ∉ store'.footprint
  bound : ∀ name store, σ.context.store? .records name = some store →
    ∀ l, resolver.Links link name l → ∃ database,
      σ.context.registry.get? l.connection = some database ∧
        .records (.inDatabase database name) ∈ store.footprint
  placed : resolver.OnePlace link → ∀ name l, resolver.Links link name l →
    ∀ database, σ.context.registry.get? l.connection = some database →
      ∀ shared, l.place = some (.shared shared) →
        σ.storage.shared.get? shared = some database

namespace Sound

/-- The invariant holds at the start. -/
theorem start (resolver : Resolver) (types : SortedMap String ProviderType) (storage : Storage)
    (htypes : ∀ p type, types.get? p.kind = some type → type.KeepsApart p (link p))
    (hshared : ∀ place database, storage.shared.get? place = some database →
      storage.Holds database) : (Session.start resolver types storage).Sound link resolver where
  resolves := rfl
  keepsApart := htypes
  wired := ⟨fun _ _ h => (nomatch h), hshared⟩
  cached contract _ _ h := by cases contract <;> cases h
  settled _ _ h := nomatch h
  apart _ _ _ _ h := nomatch h
  bound _ _ h := nomatch h
  placed _ _ _ _ _ h := nomatch h

/-- Contents may change, if everything stays there and no shared database is opened. -/
theorem changed (h : σ.Sound link resolver) {touched : List StoragePart} {t : Storage}
    (hspares : Spares touched σ.storage t) (hshared : t.shared = σ.storage.shared) :
    ({ σ with storage := t } : Session).Sound link resolver :=
  { h with
    wired := ⟨fun _ _ hget => hspares.holds (h.wired.connected _ _ hget),
      fun _ _ hget => hspares.holds (h.wired.shared _ _ (hshared ▸ hget))⟩
    settled := fun name store hopen => (h.settled name store hopen).spared hspares
    placed := fun hplace name l hl database hget shared hshare =>
      hshared ▸ h.placed hplace name l hl database hget shared hshare }

/-- Connections and storage may grow. -/
theorem grown (h : σ.Sound link resolver) {t : Registry × Storage} {store : String}
    {contract : Contract}
    (hgrown : Grown (fun l => contract = .records ∧ resolver.Links link store l)
      (σ.context.registry, σ.storage) t) :
    (⟨(σ.context.reaching t).1, t.2, σ.handles⟩ : Session).Sound link resolver :=
  { h with
    wired := h.wired.grown hgrown
    settled := fun name store hopen => (h.settled name store hopen).spared hgrown.spares
    bound := fun name store hstore l hl => by
      obtain ⟨database, hget, hpart⟩ := h.bound name store hstore l hl
      exact ⟨database, hgrown.connected _ _ hget, hpart⟩
    placed := fun hplace name l hl database hget shared hshare => by
      rcases hgrown.newConnection _ _ hget with hold | ⟨place, ⟨-, hlinks⟩, hat⟩
      · exact hgrown.shared _ _ (h.placed hplace name l hl database hold shared hshare)
      · have hsame : l.place = some place := hplace _ _ _ _ hl hlinks rfl
        obtain rfl : place = .shared shared := Option.some.inj (hsame.symm.trans hshare)
        exact hat }

/-- Stores may be forgotten, with all connections or none. -/
theorem forgotten (h : σ.Sound link resolver) (context : Context)
    (hresolver : context.resolver = σ.context.resolver) (htypes : context.types = σ.context.types)
    (hregistry : context.registry = σ.context.registry ∨ context = σ.context.shutdown)
    (hstores : ∀ contract name store, context.store? contract name = some store →
      σ.context.store? contract name = some store) :
    ({ σ with context := context } : Session).Sound link resolver := by
  have hget : ∀ (name : String) (database : Ref Database),
      context.registry.get? name = some database →
        σ.context.registry.get? name = some database := by
    intro name database hget
    rcases hregistry with hsame | rfl
    · rwa [← hsame]
    · cases hget
  exact
    { h with
      resolves := hresolver.trans h.resolves
      keepsApart := fun p type htype => h.keepsApart p type (htypes ▸ htype)
      wired := ⟨fun name database hname => h.wired.connected _ _ (hget name database hname),
        h.wired.shared⟩
      cached := fun contract name store hstore => h.cached _ _ _ (hstores _ _ _ hstore)
      bound := fun name store hstore l hl => by
        rcases hregistry with hsame | rfl
        · obtain ⟨database, hconnected, hpart⟩ := h.bound name store (hstores _ _ _ hstore) l hl
          exact ⟨database, hsame ▸ hconnected, hpart⟩
        · cases hstore
      placed := fun hplace name l hl database hname =>
        h.placed hplace name l hl database (hget _ _ hname) }

/-- A store that was built has no part in common with stores of other names. -/
theorem fresh (h : σ.Sound link resolver) {contract : Contract} {t : Registry × Storage}
    (hbuilt : Context.Built link contract name (σ.context, σ.storage) (.ok store) t)
    {other : String} {store' : AnyStore} (hopen : (other, store') ∈ σ.handles)
    (hne : other ≠ name) {part : StoragePart} (hpart : part ∈ store.footprint) :
    part ∉ store'.footprint := by
  intro hpart'
  rcases hbuilt.made.given store rfl part hpart with hnew | ⟨l, database, -, -, rfl⟩
  · have hheld := (h.settled other store' hopen).held part hpart'
    rw [hnew.absent] at hheld
    cases hheld
  · exact hne ((h.settled other store' hopen).named database name hpart').symm

/-- A store that was built is opened. -/
theorem built (h : σ.Sound link resolver) {contract : Contract} {t : Registry × Storage}
    (hbuilt : Context.Built link contract name (σ.context, σ.storage) (.ok store) t) :
    (⟨(σ.context.reaching t).1.withStore name store, t.2, (name, store) :: σ.handles⟩ :
      Session).Sound link resolver := by
  have hlinks : Grown (fun l => contract = .records ∧ resolver.Links link name l)
      (σ.context.registry, σ.storage) t := h.resolves ▸ hbuilt.made.grown
  have hrest := h.grown hlinks
  obtain ⟨hresolver, htypes, hregistry⟩ :=
    (σ.context.reaching t).1.withStore_rest name store
  have hcontract := hbuilt.contract store rfl
  refine ⟨hresolver.trans hrest.resolves, fun p type htype => ?_, ?_, ?_, ?_, ?_, ?_, ?_⟩
  · exact hrest.keepsApart p type (htypes ▸ htype)
  · rw [hregistry]
    exact hrest.wired
  · intro contract' name' found hfound
    rcases Context.store?_withStore_cases hfound with ⟨-, rfl, rfl⟩ | hold
    · exact List.mem_cons_self
    · exact List.mem_cons_of_mem _ (hrest.cached _ _ _ hold)
  · intro name' found hopen
    rcases List.mem_cons.1 hopen with hnew | hold
    · obtain ⟨rfl, rfl⟩ := Prod.mk.inj hnew
      exact hbuilt.settled h.wired
    · exact hrest.settled name' found hold
  · intro name' found other found' hopen hopen' hne part hpart
    rcases List.mem_cons.1 hopen with hnew | hold
    · obtain ⟨rfl, rfl⟩ := Prod.mk.inj hnew
      rcases List.mem_cons.1 hopen' with hnew' | hold'
      · exact absurd (Prod.mk.inj hnew').1 hne
      · exact h.fresh hbuilt hold' hne hpart
    · rcases List.mem_cons.1 hopen' with hnew' | hold'
      · obtain ⟨rfl, rfl⟩ := Prod.mk.inj hnew'
        exact fun hpart' => h.fresh hbuilt hold hne.symm hpart' hpart
      · exact hrest.apart name' found other found' hold hold' hne part hpart
  · intro name' found hfound l hl
    rw [hregistry]
    rcases Context.store?_withStore_cases hfound with ⟨hrecords, rfl, rfl⟩ | hold
    · exact hbuilt.made.linked _ rfl l
        ⟨hcontract.symm.trans hrecords.symm, h.resolves.symm ▸ hl⟩
    · exact hrest.bound name' found hold l hl
  · intro hplace name' l hl database hget
    rw [hregistry] at hget
    exact hrest.placed hplace name' l hl database hget

/-- A store that was opened may be opened again. -/
theorem again (h : σ.Sound link resolver) (hopen : (name, store) ∈ σ.handles) :
    ({ σ with handles := (name, store) :: σ.handles } : Session).Sound link resolver := by
  have hold : ∀ {other}, other ∈ (name, store) :: σ.handles → other ∈ σ.handles := by
    rintro other hother
    rcases List.mem_cons.1 hother with rfl | hother
    · exact hopen
    · exact hother
  exact
    { h with
      cached := fun _ _ _ hstore => List.mem_cons_of_mem _ (h.cached _ _ _ hstore)
      settled := fun _ _ hother => h.settled _ _ (hold hother)
      apart := fun _ _ _ _ hother hother' => h.apart _ _ _ _ (hold hother) (hold hother') }

end Sound

/-! ## What a step does -/

/-- A store that is opened was open, or it was built. -/
theorem Step.opened_cases (h : σ.Sound link resolver) (hstep : Step σ (.opened name store) τ) :
    (σ.context.store? store.contract name = some store ∧
        τ = { σ with handles := (name, store) :: σ.handles }) ∨
      σ.context.store? store.contract name = none ∧ ∃ t,
        Context.Built link store.contract name (σ.context, σ.storage) (.ok store) t ∧
        τ = ⟨(σ.context.reaching t).1.withStore name store, t.2, (name, store) :: σ.handles⟩ := by
  cases hstep with
  | @opened _ contract _ s hopen =>
    cases hstore : σ.context.store? contract name with
    | some found =>
      rw [Context.openAny_of_open hstore] at hopen
      obtain ⟨hresult, rfl⟩ := Prod.mk.inj hopen
      obtain rfl := Except.ok.inj hresult
      exact .inl ⟨(Context.contract_of_store? hstore) ▸ hstore, rfl⟩
    | none =>
      obtain ⟨r, t, hbuilt, hnew⟩ := Context.buildNew_cases (s := (σ.context, σ.storage))
        h.keepsApart h.wired name contract
      rw [Context.openAny_of_not_open hstore, hnew] at hopen
      obtain ⟨rfl, rfl⟩ := Prod.mk.inj hopen
      obtain rfl := hbuilt.contract store rfl
      exact .inr ⟨hstore, t, hbuilt, rfl⟩

/-- A store that is refused was not open, and nothing but growth comes of it. -/
theorem Step.refused_cases (h : σ.Sound link resolver) {contract : Contract} {error : StoreError}
    (hstep : Step σ (.refused name contract error) τ) :
    σ.context.store? contract name = none ∧ ∃ t,
      Grown (fun l => contract = .records ∧ resolver.Links link name l)
        (σ.context.registry, σ.storage) t ∧
      τ = ⟨(σ.context.reaching t).1, t.2, σ.handles⟩ := by
  cases hstep with
  | @refused _ _ _ s hopen =>
    cases hstore : σ.context.store? contract name with
    | some found =>
      rw [Context.openAny_of_open hstore] at hopen
      cases hopen
    | none =>
      obtain ⟨r, t, hbuilt, hnew⟩ := Context.buildNew_cases (s := (σ.context, σ.storage))
        h.keepsApart h.wired name contract
      rw [Context.openAny_of_not_open hstore, hnew] at hopen
      obtain ⟨rfl, rfl⟩ := Prod.mk.inj hopen
      exact ⟨rfl, t, h.resolves ▸ hbuilt.made.grown, rfl⟩

/-- A name that is destroyed is forgotten, and its stores are destroyed one by one. -/
theorem Step.destroyed_cases {result : Except StoreError Bool}
    (hstep : Step σ (.destroyed name result) τ) :
    τ = ⟨σ.context.without name,
        (AnyStore.lifecycleAll .destroy (σ.context.storesOf name) σ.storage).2, σ.handles⟩ ∧
      result = (AnyStore.lifecycleAll .destroy (σ.context.storesOf name) σ.storage).1.map fun _ =>
        !(σ.context.storesOf name).isEmpty := by
  cases hstep with
  | destroyed hdestroy =>
    rw [Context.destroy_apply] at hdestroy
    obtain ⟨hresult, rfl⟩ := Prod.mk.inj hdestroy
    exact ⟨rfl, hresult.symm⟩

/-- What is tuned is no contents. -/
theorem spares_tuned (s : Storage) (clock : Int64) (guards : Heap Guard) (drawn : Nat) :
    Spares [] s { s with clock, guards, drawn } :=
  Spares.of_extends (Heap.extends_refl _) (Heap.extends_refl _) (Heap.extends_refl _)
    (Heap.extends_refl _)

/-! ## The invariant along runs -/

namespace Sound

/-- Every step keeps the invariant. -/
theorem step (h : σ.Sound link resolver) (hstep : Step σ e τ) : τ.Sound link resolver := by
  cases e with
  | opened name store =>
    rcases hstep.opened_cases h with ⟨hstore, rfl⟩ | ⟨-, t, hbuilt, rfl⟩
    · exact h.again (h.cached _ _ _ hstore)
    · exact h.built hbuilt
  | refused name contract error =>
    obtain ⟨-, t, hgrown, rfl⟩ := hstep.refused_cases h
    exact h.grown hgrown
  | used name store =>
    cases hstep with
    | used hopen hruns => exact h.changed hruns.spares.1 hruns.spares.2
  | destroyed name result =>
    obtain ⟨rfl, -⟩ := hstep.destroyed_cases
    have hspares := AnyStore.lifecycleAll_spares .destroy (σ.context.storesOf name) σ.storage
    have hforgotten := h.forgotten (σ.context.without name) rfl rfl (.inl rfl)
      fun contract other store hstore => by
        by_cases hsame : other = name
        · rw [hsame, Context.store?_without_self] at hstore
          cases hstore
        · rwa [Context.store?_without_of_ne _ _ hsame] at hstore
    exact hforgotten.changed hspares.1 hspares.2.1
  | shutDown =>
    cases hstep with
    | shutDown =>
      refine h.forgotten _ rfl rfl (.inr rfl) fun contract other store hstore => ?_
      cases contract <;> cases hstore
  | tuned =>
    cases hstep with
    | tuned clock guards drawn => exact h.changed (spares_tuned _ clock guards drawn) rfl

/-- Every run keeps the invariant. -/
theorem run (h : σ.Sound link resolver) (hrun : Run σ events τ) : τ.Sound link resolver := by
  induction hrun with
  | nil => exact h
  | cons hstep _ ih => exact ih (h.step hstep)

end Sound

/-! ## Names that are open or closed -/

/-- A store stays open until its name is forgotten. -/
theorem Step.keeps_open (hσ : σ.Sound link resolver) {contract : Contract}
    (hstore : σ.context.store? contract name = some store) (hstep : Step σ e τ)
    (hforgets : ¬e.Forgets name) : τ.context.store? contract name = some store := by
  cases e with
  | opened other found =>
    rcases hstep.opened_cases hσ with ⟨-, rfl⟩ | ⟨hnone, t, -, rfl⟩
    · exact hstore
    · refine (Context.store?_withStore_of_ne _ _ fun hsame => ?_).trans hstore
      obtain ⟨rfl, rfl⟩ := hsame
      exact absurd (hstore.symm.trans hnone) (by simp)
  | refused other contract' error =>
    obtain ⟨-, t, -, rfl⟩ := hstep.refused_cases hσ
    exact hstore
  | used other found =>
    cases hstep with
    | used => exact hstore
  | destroyed other result =>
    obtain ⟨rfl, -⟩ := hstep.destroyed_cases
    exact (Context.store?_without_of_ne _ _ fun hsame => hforgets hsame.symm).trans hstore
  | shutDown => exact absurd trivial hforgets
  | tuned =>
    cases hstep with
    | tuned => exact hstore

/-- A store stays open along every run in which its name is not forgotten. -/
theorem Run.keeps_open (hσ : σ.Sound link resolver) {contract : Contract}
    (hstore : σ.context.store? contract name = some store) (hrun : Run σ events τ)
    (hforgets : ∀ e ∈ events, ¬e.Forgets name) :
    τ.context.store? contract name = some store := by
  induction hrun with
  | nil => exact hstore
  | cons hstep rest ih =>
    exact ih (hσ.step hstep) (hstep.keeps_open hσ hstore (hforgets _ List.mem_cons_self))
      fun e he => hforgets e (List.mem_cons_of_mem _ he)

/-- A store that is not open is not open until it is opened. -/
theorem Step.keeps_closed (hσ : σ.Sound link resolver) {contract : Contract}
    (hnone : σ.context.store? contract name = none) (hstep : Step σ e τ)
    (hopens : ¬e.Opens name contract) : τ.context.store? contract name = none := by
  cases e with
  | opened other found =>
    rcases hstep.opened_cases hσ with ⟨-, rfl⟩ | ⟨-, t, -, rfl⟩
    · exact hnone
    · exact (Context.store?_withStore_of_ne _ _ fun hsame =>
        hopens ⟨hsame.2.symm, hsame.1.symm⟩).trans hnone
  | refused other contract' error =>
    obtain ⟨-, t, -, rfl⟩ := hstep.refused_cases hσ
    exact hnone
  | used other found =>
    cases hstep with
    | used => exact hnone
  | destroyed other result =>
    obtain ⟨rfl, -⟩ := hstep.destroyed_cases
    by_cases hsame : name = other
    · rw [hsame]
      exact Context.store?_without_self _ _ _
    · exact (Context.store?_without_of_ne _ _ hsame).trans hnone
  | shutDown =>
    cases hstep with
    | shutDown => cases contract <;> rfl
  | tuned =>
    cases hstep with
    | tuned => exact hnone

/-- So it is along every run in which it is not opened. -/
theorem Run.keeps_closed (hσ : σ.Sound link resolver) {contract : Contract}
    (hnone : σ.context.store? contract name = none) (hrun : Run σ events τ)
    (hopens : ∀ e ∈ events, ¬e.Opens name contract) :
    τ.context.store? contract name = none := by
  induction hrun with
  | nil => exact hnone
  | cons hstep rest ih =>
    exact ih (hσ.step hstep) (hstep.keeps_closed hσ hnone (hopens _ List.mem_cons_self))
      fun e he => hopens e (List.mem_cons_of_mem _ he)

end Session

end TieredStore
