import TieredStore.Proofs.Config.Resolution
import TieredStore.Proofs.Context.Sessions

/-!
# Connections of layers

What tells the connection of a provider from others is the name that its options give, else the
path of its database, else the provider itself.  The registry knows connections by one text each,
so an identity of one kind may have the text of an identity of another kind; within a kind the
texts are different.

In a session whose context was not shut down, a layer in a database has the rows of its store in
the database to which the registry leads under the text of its provider's identity.  Different
texts lead to different databases, apart from those that belong to everyone who opens them: those in
files, and those in memory that are shared by name.  So layers of providers with different
identities share a connection where their texts collide, and nowhere else.

Main results:

- Theorem `ConnectionIdentity.text_eq_iff`: which identities have one text.
- Theorems `Session.Connected.step` and `Session.Connected.run`: the invariant of connections.
- Theorem `Session.connectionLaws_of_run`: which layers share a connection.
- Theorem `Session.exists_collision`: a path may have the text of a provider.
-/

namespace TieredStore

/-! ## Identities and their texts -/

/-- What tells the connection of a provider from others. -/
inductive ConnectionIdentity where
  | named (name : String)
  | atPath (path : String)
  | ofProvider (name : String)
  deriving DecidableEq

namespace ConnectionIdentity

/-- The identity of a provider with its options. -/
def of (p : ProviderConfig) (options : DatabaseOptions) : ConnectionIdentity :=
  match options.connection, options.path with
  | some name, _ => named name
  | none, some path => atPath path
  | none, none => ofProvider p.name

/-- The text under which the registry knows a connection. -/
def text : ConnectionIdentity → String
  | named name => name
  | atPath path => "sqlite:" ++ path
  | ofProvider name => "sqlite:memory:" ++ name

/-- The name of a connection is the text of its identity. -/
theorem connectionName_eq (p : ProviderConfig) (options : DatabaseOptions) :
    ProviderType.connectionName p options = (of p options).text := by
  unfold ProviderType.connectionName of
  cases options.connection with
  | some name => rfl
  | none => cases options.path <;> rfl

/-- Whether an identity has the text of one that stands behind it: a name that of a path or of a
provider, and a path that of a provider. -/
inductive TakenFrom : ConnectionIdentity → ConnectionIdentity → Prop where
  | path (path : String) : TakenFrom (named ("sqlite:" ++ path)) (atPath path)
  | provider (name : String) : TakenFrom (named ("sqlite:memory:" ++ name)) (ofProvider name)
  | memory (name : String) : TakenFrom (atPath ("memory:" ++ name)) (ofProvider name)

/-- Whether two identities collide: they are different and have one text. -/
def Collides (i j : ConnectionIdentity) : Prop := TakenFrom i j ∨ TakenFrom j i

/-- The text of a provider is that of a path. -/
theorem text_ofProvider (name : String) :
    (ofProvider name).text = (atPath ("memory:" ++ name)).text := by
  rw [text, text, ← String.append_assoc]
  rfl

/-- Texts of one kind are different. -/
theorem text_atPath_inj {path other : String} :
    (atPath path).text = (atPath other).text ↔ path = other :=
  String.append_right_inj "sqlite:"

/-- An identity has the text of the one from which it is taken, and is another one. -/
theorem TakenFrom.text_eq {i j : ConnectionIdentity} (h : TakenFrom i j) :
    i.text = j.text ∧ i ≠ j := by
  cases h with
  | path path => exact ⟨rfl, nofun⟩
  | provider name => exact ⟨rfl, nofun⟩
  | memory name => exact ⟨(text_ofProvider name).symm, nofun⟩

/-- Identities have one text if they are the same or collide. -/
theorem text_eq_iff (i j : ConnectionIdentity) : i.text = j.text ↔ i = j ∨ Collides i j := by
  constructor
  · intro h
    cases i with
    | named name =>
      cases j with
      | named other => exact .inl (congrArg named h)
      | atPath path =>
        obtain rfl : name = "sqlite:" ++ path := h
        exact .inr (.inl (.path path))
      | ofProvider p =>
        obtain rfl : name = "sqlite:memory:" ++ p := h
        exact .inr (.inl (.provider p))
    | atPath path =>
      cases j with
      | named other =>
        obtain rfl : "sqlite:" ++ path = other := h
        exact .inr (.inr (.path path))
      | atPath other => exact .inl (congrArg atPath (text_atPath_inj.1 h))
      | ofProvider p =>
        obtain rfl := text_atPath_inj.1 (h.trans (text_ofProvider p))
        exact .inr (.inl (.memory p))
    | ofProvider name =>
      cases j with
      | named other =>
        obtain rfl : "sqlite:memory:" ++ name = other := h
        exact .inr (.inr (.provider name))
      | atPath path =>
        obtain rfl := text_atPath_inj.1 ((text_ofProvider name).symm.trans h)
        exact .inr (.inr (.memory name))
      | ofProvider other => exact .inl (congrArg ofProvider ((String.append_right_inj _).1 h))
  · rintro (rfl | h | h)
    · rfl
    · exact h.text_eq.1
    · exact h.text_eq.1.symm

end ConnectionIdentity

/-! ## Connections that are told apart -/

/-- Whether different names lead to different databases, apart from those in files and those in
memory that are shared by name. -/
def TellsApart (s : Registry × Storage) : Prop :=
  ∀ (name other : String) (database : Ref Database), s.1.get? name = some database →
    s.1.get? other = some database →
      name = other ∨ ∃ place, s.2.shared.get? place = some database

namespace TellsApart

variable {links : DatabaseLink → Prop} {s t : Registry × Storage}

/-- Where no connection is opened, the names lead where they did. -/
theorem grown (h : TellsApart s) (hgrown : Grown links s t) (hlinks : ∀ l, ¬links l) :
    TellsApart t := by
  have hold : ∀ (name : String) (database : Ref Database), t.1.get? name = some database →
      s.1.get? name = some database := by
    intro name database hget
    rcases hgrown.newConnection name database hget with hold | ⟨place, hlink, -⟩
    · exact hold
    · exact absurd hlink (hlinks _)
  intro name other database hname hother
  refine (h name other database (hold _ _ hname) (hold _ _ hother)).imp_right ?_
  rintro ⟨place, hshared⟩
  exact ⟨place, hgrown.shared place database hshared⟩

/-- One more connection is told apart if its database was not there or is shared. -/
theorem insert {registry : Registry} {storage : Storage} (h : TellsApart (registry, storage))
    (hwired : Wired (registry, storage)) {name : String} {database : Ref Database}
    (hshared : ∀ place other, storage.shared.get? place = some other →
      t.2.shared.get? place = some other)
    (hnew : storage.cell? database = none ∨ ∃ place, t.2.shared.get? place = some database)
    (hregistry : t.1 = ⟨registry.connections.insert name (Client.connection database)⟩) :
    TellsApart t := by
  have hself : t.1.get? name = some database := by
    rw [hregistry, Registry.get?, SortedMap.get?_insert_self]
    rfl
  have hother : ∀ other, other ≠ name →
      t.1.get? (α := Ref Database) other = registry.get? other := by
    intro other hne
    rw [hregistry, Registry.get?, Registry.get?, SortedMap.get?_insert_of_ne _ _ hne]
  -- a name that was there before leads to the new connection's database only if this is shared
  have hone : ∀ other, other ≠ name → t.1.get? other = some database →
      ∃ place, t.2.shared.get? place = some database := by
    intro other hne hget
    rcases hnew with habsent | hfound
    · rw [hother other hne] at hget
      have hheld := hwired.connected other database hget
      rw [Storage.cell?, if_pos hheld] at habsent
      cases habsent
    · exact hfound
  intro first second found hfirst hsecond
  by_cases hleft : first = name
  · subst hleft
    obtain rfl := Option.some.inj (hself.symm.trans hfirst)
    by_cases hright : second = first
    · exact .inl hright.symm
    · exact .inr (hone second hright hsecond)
  by_cases hright : second = name
  · subst hright
    obtain rfl := Option.some.inj (hself.symm.trans hsecond)
    exact .inr (hone first hleft hfirst)
  rw [hother first hleft] at hfirst
  rw [hother second hright] at hsecond
  refine (h first second found hfirst hsecond).imp_right ?_
  rintro ⟨place, hfound⟩
  exact ⟨place, hshared place found hfound⟩

/-- A connection that is opened is told apart from the others. -/
theorem connect (h : TellsApart s) (hwired : Wired s) (name : String) (path : Option String) :
    TellsApart (Registry.connect name (ProviderType.openDatabase path) s).2 := by
  obtain ⟨registry, storage⟩ := s
  rw [ProviderType.openDatabase_eq, Registry.connect]
  cases hget : registry.connections.get? name with
  | some connection => cases hclient : Client.ofConnection? (α := Ref Database) connection <;>
      simpa only [hclient] using h
  | none =>
    cases hplace : ProviderType.openingPlace? path with
    | none => exact h
    | some place =>
      obtain ⟨hgrown, hat⟩ := ProviderType.grown_openAt registry storage place
      rcases hopen : ProviderType.openAt place storage with ⟨e | new, t⟩
      · rw [hopen] at hgrown
        simp only [hopen]
        exact h.grown hgrown fun _ hfalse => hfalse
      have hfound : storage.cell? new = none ∨ ∃ place, t.shared.get? place = some new := by
        cases place with
        | own =>
          obtain ⟨fresh, hfresh, habsent, -⟩ := Storage.exists_alloc storage ({} : Database)
          obtain rfl := Except.ok.inj (hfresh.symm.trans (congrArg Prod.fst hopen))
          exact .inl habsent
        | shared place =>
          rw [hopen] at hat
          exact .inr ⟨place, hat new rfl⟩
      rw [hopen] at hgrown
      simp only [hopen]
      exact h.insert hwired hgrown.shared hfound rfl

end TellsApart

/-! ## Layers that are connected -/

/-- Whether a layer of a store is what a provider is to give: a provider of stores in databases
gives the rows of the store in the database of its connection. -/
def ProviderConfig.Connects (p : ProviderConfig) (store : String) (registry : Registry)
    (layer : RecordStore) : Prop :=
  p.kind = "sqlite" → ∃ options database, p.databaseOptions = .ok options ∧
    registry.get? (ProviderType.connectionName p options) = some database ∧
    layer = .inDatabase store database

/-- Layers stay connected while connections are only added. -/
theorem ProviderConfig.Connects.mono {p : ProviderConfig} {store : String}
    {registry later : Registry} {layer : RecordStore} (h : p.Connects store registry layer)
    (hkept : ∀ (name : String) (database : Ref Database), registry.get? name = some database →
      later.get? name = some database) : p.Connects store later layer := by
  intro hkind
  obtain ⟨options, database, hoptions, hget, hlayer⟩ := h hkind
  exact ⟨options, database, hoptions, hkept _ _ hget, hlayer⟩

namespace Context

variable {s : Context × Storage}

/-- What comes of making records over connections: these grow and are told apart, and what is made
fits them. -/
structure Links {A : Type} (fits : A → Registry → Prop) (s : Registry × Storage)
    (r : Except StoreError A × (Registry × Storage)) : Prop where
  grown : Grown (fun _ => True) s r.2
  apart : TellsApart r.2
  fits : ∀ a, r.1 = .ok a → fits a r.2.1

/-- Nothing is made by a failure. -/
theorem Links.failed {A : Type} {fits : A → Registry → Prop} {t u : Registry × Storage}
    (e : StoreError) (hgrown : Grown (fun _ => True) t u) (hapart : TellsApart u) :
    Links fits t (.error e, u) :=
  ⟨hgrown, hapart, nofun⟩

/-- The type of provider of stores in databases connects their layers. -/
theorem links_relational {make : LayerMaker RecordStore}
    (hmake : ProviderType.relational.records = some make) {t : Registry × Storage}
    (hwired : Wired t) (hapart : TellsApart t) (store : String) (p : ProviderConfig) :
    Links (fun layer registry => p.Connects store registry layer) t (make store p t) := by
  obtain rfl := Option.some.inj hmake
  show Links _ t ((Action.ofExcept p.databaseOptions >>= fun options =>
    Registry.connect (ProviderType.connectionName p options)
      (ProviderType.openDatabase options.path) >>= fun database =>
    pure (RecordStore.inDatabase store database)) t)
  rw [Action.bind_apply, Action.ofExcept_apply]
  cases hoptions : p.databaseOptions with
  | error e => exact Links.failed e (Grown.refl _ _) hapart
  | ok options =>
    dsimp only
    obtain ⟨hgrown, hget⟩ :=
      ProviderType.grown_connect (ProviderType.connectionName p options) options.path t
    replace hgrown : Grown (fun _ => True) t _ := hgrown.mono fun _ _ => trivial
    have hafter := hapart.connect hwired (ProviderType.connectionName p options) options.path
    rw [Action.bind_apply]
    rcases hconnect : Registry.connect (ProviderType.connectionName p options)
      (ProviderType.openDatabase options.path) t with ⟨e | database, u⟩
    · rw [hconnect] at hgrown hafter
      exact Links.failed e hgrown hafter
    · rw [hconnect] at hgrown hafter hget
      refine ⟨hgrown, hafter, fun layer hlayer _ => ?_⟩
      exact ⟨options, database, hoptions, hget database rfl, (Except.ok.inj hlayer).symm⟩

/-- Whether a context has the one type of provider for stores in databases, and types that keep
layers apart. -/
structure ConnectsDatabases (context : Context) : Prop where
  keepsApart : context.KeepsApart ProviderType.trialLink
  sqlite : context.types.get? "sqlite" = some ProviderType.relational

/-- Providers of stores in databases connect their layers, and others open no connection. -/
theorem links_makeLayer (hs : s.1.ConnectsDatabases) (hwired : Wired (s.1.registry, s.2))
    (hapart : TellsApart (s.1.registry, s.2)) (store : String) (p : ProviderConfig) :
    ∃ r t, makeLayer Shelf.records store p s = (r, s.1.reaching t) ∧
      Links (fun layer registry => p.Connects store registry layer) (s.1.registry, s.2) (r, t) := by
  by_cases hkind : p.kind = "sqlite"
  · refine ⟨_, _, ?_, links_relational rfl hwired hapart store p⟩
    rw [makeLayer, Action.bind_apply, Action.read_apply]
    simp only [hkind, hs.sqlite]
    rfl
  · obtain ⟨r, t, hlayer, hmade⟩ := makeLayer_cases Shelf.wraps_records hs.keepsApart store p
    refine ⟨r, t, hlayer, hmade.grown.mono fun _ _ => trivial,
      hapart.grown hmade.grown fun l hl => ?_, fun layer _ hsame => absurd hsame hkind⟩
    rw [ProviderType.trialLink, if_neg hkind] at hl
    cases hl.2

/-- The layers of a store are connected one by one. -/
theorem links_makeLayers (hs : s.1.ConnectsDatabases) (hwired : Wired (s.1.registry, s.2))
    (hapart : TellsApart (s.1.registry, s.2)) (store : String) (providers : List ProviderConfig) :
    ∃ r t, makeLayers Shelf.records store providers s = (r, s.1.reaching t) ∧
      Links (fun layers registry =>
          List.Forall₂ (fun p layer => p.Connects store registry layer) providers layers)
        (s.1.registry, s.2) (r, t) := by
  induction providers generalizing s with
  | nil =>
    refine ⟨_, _, rfl, Grown.refl _ _, hapart, fun layers hlayers => ?_⟩
    obtain rfl := Except.ok.inj hlayers
    exact .nil
  | cons p rest ih =>
    obtain ⟨r, t, hfirst, hlinks⟩ := links_makeLayer hs hwired hapart store p
    rw [makeLayers, Action.bind_apply, hfirst]
    rcases r with e | layer
    · exact ⟨_, t, rfl, Links.failed e hlinks.grown hlinks.apart⟩
    obtain ⟨r', u, hrest, hlinks'⟩ :=
      @ih (s.1.reaching t) ⟨hs.keepsApart, hs.sqlite⟩ (hwired.grown hlinks.grown) hlinks.apart
    dsimp only
    rw [Action.bind_apply, hrest]
    have hgrown := hlinks.grown.trans hlinks'.grown
    rcases r' with e | lower
    · exact ⟨_, u, rfl, Links.failed e hgrown hlinks'.apart⟩
    · refine ⟨_, u, rfl, hgrown, hlinks'.apart, fun layers hlayers => ?_⟩
      obtain rfl := Except.ok.inj hlayers
      exact .cons ((hlinks.fits layer rfl).mono hlinks'.grown.connected) (hlinks'.fits lower rfl)

/-- Whether a store of records is a stack with one layer for each provider of its name, all of them
connected. -/
def Stacks (context : Context) (name : String) (store : RecordStore) (registry : Registry) : Prop :=
  ∃ providers front lower, context.resolver.resolve name = .ok providers ∧
    store = .stack name front lower ∧
    List.Forall₂ (fun p layer => p.Connects name registry layer) providers (front :: lower)

/-- A store of records that is built is a stack of connected layers. -/
theorem links_build (hs : s.1.ConnectsDatabases) (hwired : Wired (s.1.registry, s.2))
    (hapart : TellsApart (s.1.registry, s.2)) (name : String) :
    ∃ r t, build Shelf.records name s = (r, s.1.reaching t) ∧
      Links (s.1.Stacks name) (s.1.registry, s.2) (r, t) := by
  rw [build, Action.bind_apply, Action.read_apply]
  dsimp only
  rw [Action.bind_apply, Action.ofExcept_apply]
  cases hresolve : s.1.resolver.resolve name with
  | error e => exact ⟨_, _, rfl, Links.failed e (Grown.refl _ _) hapart⟩
  | ok providers =>
    dsimp only
    obtain ⟨r, t, hlayers, hlinks⟩ := links_makeLayers hs hwired hapart name providers
    rw [Action.bind_apply, hlayers]
    rcases r with e | (_ | ⟨front, lower⟩)
    · exact ⟨_, t, rfl, Links.failed e hlinks.grown hlinks.apart⟩
    · exact ⟨_, t, rfl, Links.failed _ hlinks.grown hlinks.apart⟩
    let stack : RecordStore := .stack name front lower
    have hspares := (AnyStore.records stack).spares_setup t.2
    have hshared := ((AnyStore.records stack).runs_lifecycle .setup t.2).spares.2
    have hsetup : onStorage (Shelf.records.lifecycle stack .setup) (s.1.reaching t) =
      (((AnyStore.records stack).lifecycle .setup t.2).1,
        s.1.reaching (t.1, ((AnyStore.records stack).lifecycle .setup t.2).2)) := rfl
    dsimp only
    rw [Action.bind_apply, Action.ofExcept_apply]
    show ∃ r u, (onStorage (Shelf.records.lifecycle stack .setup) >>= fun _ => pure stack)
      (s.1.reaching t) = (r, s.1.reaching u) ∧ _
    rw [Action.bind_apply, hsetup]
    rcases hresult : (AnyStore.records stack).lifecycle .setup t.2 with ⟨e | _, u⟩
    all_goals
      rw [hresult] at hspares hshared
      have hquiet := Grown.of_spares (s := t) (t := (t.1, u)) (fun _ => False) hspares rfl hshared
      have hgrown := hlinks.grown.trans (hquiet.mono fun _ _ => trivial)
      have hafter := hlinks.apart.grown hquiet fun _ => id
    · exact ⟨_, (t.1, u), rfl, Links.failed e hgrown hafter⟩
    · refine ⟨_, (t.1, u), rfl, hgrown, hafter, fun made hmade => ?_⟩
      obtain rfl := Except.ok.inj hmade
      exact ⟨providers, front, lower, hresolve, rfl, hlinks.fits _ rfl⟩

/-- Whether a store of any contract is made of connected layers if it has records. -/
def StacksAny (context : Context) (name : String) (store : AnyStore) (registry : Registry) : Prop :=
  ∀ records, store = .records records → context.Stacks name records registry

/-- Whatever is built, connections are told apart, and records are stacks of connected layers. -/
theorem links_buildNew (hs : s.1.ConnectsDatabases) (hwired : Wired (s.1.registry, s.2))
    (hapart : TellsApart (s.1.registry, s.2)) (name : String) (contract : Contract) :
    ∃ r t, Links (s.1.StacksAny name) (s.1.registry, s.2) (r, t) ∧
      buildNew name contract s = (r, match r with
        | .ok store => ((s.1.reaching t).1.withStore name store, t.2)
        | .error _ => s.1.reaching t) := by
  by_cases hcontract : contract = .records
  · subst hcontract
    obtain ⟨r, t, hbuild, hlinks⟩ := links_build hs hwired hapart name
    rcases r with e | stack
    · refine ⟨.error e, t, Links.failed e hlinks.grown hlinks.apart, ?_⟩
      rw [buildNew, buildAndKeep, Action.bind_apply, Action.bind_apply, hbuild]
    · refine ⟨.ok (.records stack), t, ⟨hlinks.grown, hlinks.apart, fun store hstore => ?_⟩, ?_⟩
      · obtain rfl := Except.ok.inj hstore
        rintro records ⟨⟩
        exact hlinks.fits stack rfl
      · rw [buildNew, buildAndKeep, Action.bind_apply, Action.bind_apply, hbuild]
        rfl
  · -- stores without records are linked to no database
    obtain ⟨r, t, hbuilt, hnew⟩ := buildNew_cases hs.keepsApart hwired name contract
    refine ⟨r, t, ⟨hbuilt.made.grown.mono fun _ _ => trivial,
      hapart.grown hbuilt.made.grown fun _ hl => hcontract hl.1, ?_⟩, hnew⟩
    rintro store hstore records rfl
    exact absurd (hbuilt.contract _ hstore).symm hcontract

end Context

/-- The providers of a store are found under their names. -/
theorem Resolver.provider?_of_resolve {resolver : Resolver} {store : String}
    {providers : List ProviderConfig} (h : resolver.resolve store = .ok providers)
    {p : ProviderConfig} (hp : p ∈ providers) : resolver.config.provider? p.name = some p := by
  rw [resolve] at h
  cases hrule : resolver.rule? store with
  | none =>
    rw [hrule] at h
    cases h
  | some rule =>
    rw [hrule] at h
    have hall := mapM_eq_ok_iff_forall₂.1 h
    clear h
    generalize rule.providers = names at hall
    induction hall with
    | nil => cases hp
    | @cons name first names rest hfirst _ ih =>
      rcases List.mem_cons.1 hp with rfl | hp
      · have hfound := (resolver.provider_eq_ok_iff name p).1 hfirst
        rwa [StoreConfig.provider?_name hfound]
      · exact ih hp

namespace Session

variable {resolver : Resolver} {σ τ : Session} {e : Event} {events : List Event}

/-! ## The invariant of connections -/

/-- The invariant of connections: they are told apart, and every store of records that was opened
is a stack of connected layers. -/
structure Connected (σ : Session) : Prop where
  sqlite : σ.context.types.get? "sqlite" = some ProviderType.relational
  apart : TellsApart (σ.context.registry, σ.storage)
  layered : ∀ name store, (name, store) ∈ σ.handles →
    σ.context.StacksAny name store σ.context.registry

namespace Connected

/-- The invariant holds at the start. -/
theorem start (resolver : Resolver) {types : SortedMap String ProviderType} (storage : Storage)
    (hsqlite : types.get? "sqlite" = some ProviderType.relational) :
    (Session.start resolver types storage).Connected where
  sqlite := hsqlite
  apart _ _ _ h := nomatch h
  layered _ _ h := nomatch h

/-- Connections and storage may grow, if the connections are still told apart, and the stores that
were opened may become others that are made of connected layers. -/
theorem grown (h : σ.Connected) {t : Registry × Storage} {context : Context}
    {handles : List (String × AnyStore)} (hresolver : context.resolver = σ.context.resolver)
    (htypes : context.types = σ.context.types) (hregistry : context.registry = t.1)
    (hkept : ∀ (name : String) (database : Ref Database),
      σ.context.registry.get? name = some database → t.1.get? name = some database)
    (hapart : TellsApart t) (hhandles : ∀ name store, (name, store) ∈ handles →
      (name, store) ∈ σ.handles ∨ σ.context.StacksAny name store t.1) :
    (⟨context, t.2, handles⟩ : Session).Connected where
  sqlite := htypes ▸ h.sqlite
  apart := hregistry ▸ hapart
  layered := by
    rintro name store hopen records rfl
    have hstacks : σ.context.Stacks name records t.1 := by
      rcases hhandles name _ hopen with hold | hnew
      · obtain ⟨providers, front, lower, hresolve, hstore, hlayers⟩ := h.layered name _ hold _ rfl
        exact ⟨providers, front, lower, hresolve, hstore,
          hlayers.imp fun _ _ hconnects => hconnects.mono hkept⟩
      · exact hnew records rfl
    obtain ⟨providers, front, lower, hresolve, hstore, hlayers⟩ := hstacks
    exact ⟨providers, front, lower, hresolver ▸ hresolve, hstore, hregistry ▸ hlayers⟩

/-- Contents may change, if no shared database is opened, and stores may be forgotten. -/
theorem changed (h : σ.Connected) {context : Context} {t : Storage}
    (hresolver : context.resolver = σ.context.resolver) (htypes : context.types = σ.context.types)
    (hregistry : context.registry = σ.context.registry) (hshared : t.shared = σ.storage.shared) :
    (⟨context, t, σ.handles⟩ : Session).Connected :=
  h.grown (t := (σ.context.registry, t)) hresolver htypes hregistry (fun _ _ hname => hname)
    (fun name other database hname hother => hshared ▸ h.apart name other database hname hother)
    fun _ _ hopen => .inl hopen

/-- Every step but a shut-down keeps the invariant. -/
theorem step (h : σ.Connected) (hσ : σ.Sound ProviderType.trialLink resolver)
    (hstep : Step σ e τ) (hup : e ≠ .shutDown) : τ.Connected := by
  have hs : σ.context.ConnectsDatabases := ⟨hσ.keepsApart, h.sqlite⟩
  cases hstep with
  | @opened name contract store s hopen =>
    cases hstore : σ.context.store? contract name with
    | some found =>
      rw [Context.openAny_of_open hstore] at hopen
      obtain ⟨hresult, rfl⟩ := Prod.mk.inj hopen
      obtain rfl := Except.ok.inj hresult
      refine ⟨h.sqlite, h.apart, fun other another hother => ?_⟩
      rcases List.mem_cons.1 hother with hsame | hold
      · obtain ⟨rfl, rfl⟩ := Prod.mk.inj hsame
        exact h.layered _ _ (hσ.cached _ _ _ hstore)
      · exact h.layered _ _ hold
    | none =>
      obtain ⟨r, t, hlinks, hnew⟩ :=
        Context.links_buildNew (s := (σ.context, σ.storage)) hs hσ.wired h.apart name contract
      rw [Context.openAny_of_not_open hstore, hnew] at hopen
      obtain ⟨rfl, rfl⟩ := Prod.mk.inj hopen
      obtain ⟨hresolver, htypes, hregistry⟩ :=
        (σ.context.reaching t).1.withStore_rest name store
      refine h.grown hresolver htypes hregistry hlinks.grown.connected hlinks.apart
        fun other another hother => ?_
      rcases List.mem_cons.1 hother with hsame | hold
      · obtain ⟨rfl, rfl⟩ := Prod.mk.inj hsame
        exact .inr (hlinks.fits _ rfl)
      · exact .inl hold
  | @refused name contract error s hopen =>
    cases hstore : σ.context.store? contract name with
    | some found =>
      rw [Context.openAny_of_open hstore] at hopen
      cases hopen
    | none =>
      obtain ⟨r, t, hlinks, hnew⟩ :=
        Context.links_buildNew (s := (σ.context, σ.storage)) hs hσ.wired h.apart name contract
      rw [Context.openAny_of_not_open hstore, hnew] at hopen
      obtain ⟨rfl, rfl⟩ := Prod.mk.inj hopen
      exact h.grown (t := t) rfl rfl rfl hlinks.grown.connected hlinks.apart fun _ _ => .inl
  | used _ hruns => exact h.changed rfl rfl rfl hruns.spares.2
  | @destroyed name result s hdestroy =>
    rw [Context.destroy_apply] at hdestroy
    obtain ⟨-, rfl⟩ := Prod.mk.inj hdestroy
    exact h.changed rfl rfl rfl (AnyStore.lifecycleAll_spares .destroy _ _).2.1
  | shutDown => exact absurd rfl hup
  | tuned clock guards drawn => exact h.changed rfl rfl rfl rfl

/-- Every run without a shut-down keeps the invariant. -/
theorem run (h : σ.Connected) (hσ : σ.Sound ProviderType.trialLink resolver)
    (hrun : Run σ events τ) (hup : .shutDown ∉ events) : τ.Connected := by
  induction hrun with
  | nil => exact h
  | cons hstep _ ih =>
    obtain ⟨hfirst, hrest⟩ := not_or.1 (mt List.mem_cons.2 hup)
    exact ih (h.step hσ hstep (Ne.symm hfirst)) (hσ.step hstep) hrest

end Connected

/-! ## Layers in databases -/

/-- Whether a provider made a layer of a store of records that was opened: it stands in the list of
the providers where the layer stands in the stack. -/
def HasLayer (σ : Session) (name : String) (p : ProviderConfig) (layer : RecordStore) : Prop :=
  ∃ providers front lower, (name, .records (.stack name front lower)) ∈ σ.handles ∧
    σ.context.resolver.resolve name = .ok providers ∧ (p, layer) ∈ providers.zip (front :: lower)

/-- A layer in a database, with the provider that made it and the options of the provider. -/
structure DatabaseLayer (σ : Session) where
  store : String
  provider : ProviderConfig
  options : DatabaseOptions
  database : Ref Database
  made : σ.HasLayer store provider (.inDatabase store database)
  sqlite : provider.kind = "sqlite"
  read : provider.databaseOptions = .ok options

namespace DatabaseLayer

variable (l l' : σ.DatabaseLayer)

/-- The name of the connection that the layer uses. -/
def connection : String := ProviderType.connectionName l.provider l.options

/-- What tells the connection of the layer from others. -/
def identity : ConnectionIdentity := .of l.provider l.options

/-- Whether two layers are set to use one connection: both options name the same one, or neither
names one and both have the same path, or neither names one or has a path and both layers belong to
one provider. -/
inductive AreSetAlike : Prop where
  | named {name : String} (h : l.options.connection = some name)
    (h' : l'.options.connection = some name)
  | atPath {path : String} (h : l.options.connection = none) (h' : l'.options.connection = none)
    (hpath : l.options.path = some path) (hpath' : l'.options.path = some path)
  | ofProvider (h : l.options.connection = none) (h' : l'.options.connection = none)
    (hpath : l.options.path = none) (hpath' : l'.options.path = none)
    (hsame : l.provider = l'.provider)

variable {l l'}

/-- The provider of a layer is found under its name. -/
theorem provider?_name (l : σ.DatabaseLayer) :
    σ.context.resolver.config.provider? l.provider.name = some l.provider := by
  obtain ⟨providers, front, lower, -, hresolve, hmem⟩ := l.made
  exact Resolver.provider?_of_resolve hresolve (List.of_mem_zip hmem).1

/-- Layers are set alike if their identities are the same. -/
theorem areSetAlike_iff : l.AreSetAlike l' ↔ l.identity = l'.identity := by
  constructor
  · rintro (⟨h, h'⟩ | ⟨h, h', hpath, hpath'⟩ | ⟨h, h', hpath, hpath', hsame⟩)
    · simp only [identity, ConnectionIdentity.of, h, h']
    · simp only [identity, ConnectionIdentity.of, h, h', hpath, hpath']
    · simp only [identity, ConnectionIdentity.of, h, h', hpath, hpath', hsame]
  · intro h
    rw [identity, identity, ConnectionIdentity.of, ConnectionIdentity.of] at h
    cases hname : l.options.connection <;> cases hname' : l'.options.connection <;>
      cases hpath : l.options.path <;> cases hpath' : l'.options.path <;>
      simp only [hname, hname', hpath, hpath', reduceCtorEq, ConnectionIdentity.named.injEq,
        ConnectionIdentity.atPath.injEq, ConnectionIdentity.ofProvider.injEq] at h
    · have hfound := l.provider?_name
      rw [h, l'.provider?_name] at hfound
      exact .ofProvider hname hname' hpath hpath' (Option.some.inj hfound).symm
    · exact .atPath hname hname' hpath (h ▸ hpath')
    all_goals exact .named hname (h ▸ hname')

/-- Layers use one connection if they are set alike or their identities collide. -/
theorem connection_eq_iff : l.connection = l'.connection ↔
    l.AreSetAlike l' ∨ l.identity.Collides l'.identity := by
  rw [connection, connection, ConnectionIdentity.connectionName_eq,
    ConnectionIdentity.connectionName_eq, areSetAlike_iff]
  exact ConnectionIdentity.text_eq_iff _ _

end DatabaseLayer

/-! ## The laws of connections -/

/-- What holds for the layers in databases of a session that was reached. -/
structure ConnectionLaws (σ : Session) : Prop where
  /-- A store of records has one layer for each provider of its name. -/
  layered : ∀ name store, (name, .records store) ∈ σ.handles → ∃ providers front lower,
    σ.context.resolver.resolve name = .ok providers ∧ store = .stack name front lower ∧
    providers.length = (front :: lower).length
  /-- The layers of providers of stores in databases are layers in databases. -/
  inDatabase : ∀ name p layer, σ.HasLayer name p layer → p.kind = "sqlite" →
    ∃ l : σ.DatabaseLayer, l.store = name ∧ l.provider = p ∧ layer = .inDatabase name l.database
  /-- A layer has the database to which its connection leads. -/
  leads : ∀ l : σ.DatabaseLayer, σ.context.registry.get? l.connection = some l.database
  /-- Layers have one database only over one connection, unless it is one in a file, or one in memory
  that is shared by name. -/
  apart : ∀ l l' : σ.DatabaseLayer, l.database = l'.database →
    l.connection = l'.connection ∨ ∃ place, σ.storage.shared.get? place = some l.database
  /-- Layers use one connection exactly if they are set alike or their identities collide. -/
  shares_iff : ∀ l l' : σ.DatabaseLayer, l.connection = l'.connection ↔
    l.AreSetAlike l' ∨ l.identity.Collides l'.identity
  /-- So only layers that are set alike use one connection, exactly if no identities collide. -/
  alike_iff : (∀ l l' : σ.DatabaseLayer, l.connection = l'.connection → l.AreSetAlike l') ↔
    ∀ l l' : σ.DatabaseLayer, ¬l.identity.Collides l'.identity

/-- The layers of a provider are what the provider is to give. -/
theorem Connected.connects (h : σ.Connected) {name : String} {p : ProviderConfig}
    {layer : RecordStore} (hlayer : σ.HasLayer name p layer) :
    p.Connects name σ.context.registry layer := by
  obtain ⟨providers, front, lower, hopen, hresolve, hmem⟩ := hlayer
  obtain ⟨others, front', lower', hothers, hstore, hlayers⟩ := h.layered name _ hopen _ rfl
  obtain rfl := Except.ok.inj (hresolve.symm.trans hothers)
  cases hstore
  exact (List.forall₂_iff_zip.1 hlayers).2 hmem

/-- The invariant gives the laws. -/
theorem Connected.laws (h : σ.Connected) : σ.ConnectionLaws := by
  have hleads : ∀ l : σ.DatabaseLayer,
      σ.context.registry.get? l.connection = some l.database := by
    intro l
    obtain ⟨options, database, hoptions, hget, hlayer⟩ := h.connects l.made l.sqlite
    obtain rfl := Except.ok.inj (l.read.symm.trans hoptions)
    cases hlayer
    exact hget
  refine ⟨fun name store hopen => ?_, fun name p layer hlayer hkind => ?_, hleads,
    fun l l' hsame => ?_, fun l l' => DatabaseLayer.connection_eq_iff, ?_⟩
  · obtain ⟨providers, front, lower, hresolve, hstore, hlayers⟩ := h.layered name _ hopen _ rfl
    exact ⟨providers, front, lower, hresolve, hstore, hlayers.length_eq⟩
  · obtain ⟨options, database, hoptions, -, rfl⟩ := h.connects hlayer hkind
    exact ⟨⟨name, p, options, database, hlayer, hkind, hoptions⟩, rfl, rfl, rfl⟩
  · exact h.apart _ _ _ (hleads l) (hsame ▸ hleads l')
  · constructor
    · intro halike l l' hcollides
      have hsame := DatabaseLayer.areSetAlike_iff.1
        (halike l l' (DatabaseLayer.connection_eq_iff.2 (.inr hcollides)))
      rcases hcollides with htaken | htaken
      · exact htaken.text_eq.2 hsame
      · exact htaken.text_eq.2 hsame.symm
    · exact fun hnone l l' hsame =>
        (DatabaseLayer.connection_eq_iff.1 hsame).resolve_right (hnone l l')

/-- Every session that is reached from a new context without a shut-down obeys the laws, if stores
in databases are made by the one type of provider for them, and the other types give new parts to
each store. -/
theorem connectionLaws_of_run {types : SortedMap String ProviderType} {storage : Storage}
    (hsqlite : types.get? "sqlite" = some ProviderType.relational)
    (hothers : ∀ p type, types.get? p.kind = some type → p.kind ≠ "sqlite" →
      type.KeepsApart p none)
    (hshared : ∀ place database, storage.shared.get? place = some database →
      storage.Holds database)
    (hrun : Run (start resolver types storage) events σ) (hup : .shutDown ∉ events) :
    σ.ConnectionLaws := by
  have hkeeps : ∀ p type, types.get? p.kind = some type →
      type.KeepsApart p (ProviderType.trialLink p) := by
    intro p type htype
    by_cases hkind : p.kind = "sqlite"
    · rw [hkind, hsqlite] at htype
      rw [ProviderType.trialLink, if_pos hkind, ← Option.some.inj htype]
      exact ProviderType.keepsApart_relational p
    · rw [ProviderType.trialLink, if_neg hkind]
      exact hothers p type htype hkind
  have hσ := Sound.start resolver types storage hkeeps hshared
  exact ((Connected.start resolver storage hsqlite).run hσ hrun hup).laws

/-! ### Two providers -/

/-- The options of a database at a path, or in memory. -/
def pathOptions (path : Option String) : SortedMap String Json :=
  SortedMap.ofList (path.toList.map fun path => ("path", .string path))

/-- Two databases, one before the other. -/
def twinDatabases (front back : Option String) : StoreConfig where
  providers := [{ name := "db", kind := "sqlite", options := pathOptions front },
    { name := "file", kind := "sqlite", options := pathOptions back }]
  rules := [⟨".*", ["db", "file"]⟩]

/-- A store of users over both of them, if they are one database. -/
def twinUsers : RecordStore :=
  .stack "users" (.base (.relational "users" ⟨0⟩)) [.base (.relational "users" ⟨0⟩)]

/-- The session in which the users were opened. -/
def openedTwins (resolver : Resolver) : Session :=
  let opened := (Context.openAny "users" .records
    ({ resolver, types := ProviderType.trial }, {})).2
  ⟨opened.1, opened.2, [("users", .records twinUsers)]⟩

/-- The configuration has a resolver, and the users can be opened with it if the databases are
one. -/
theorem exists_openedTwins {front back : Option String}
    (hbuild : ∀ resolver : Resolver,
      resolver.resolve "users" = .ok (twinDatabases front back).providers →
        (Context.build Shelf.records "users"
          ({ resolver, types := ProviderType.trial }, {})).1 = .ok twinUsers) :
    ∃ resolver, Resolver.ofConfig (twinDatabases front back) = .ok resolver ∧
      resolver.resolve "users" = .ok (twinDatabases front back).providers ∧
      Run (start resolver ProviderType.trial {}) [.opened "users" (.records twinUsers)]
        (openedTwins resolver) := by
  have hnames : (twinDatabases front back).providerNames = ["db", "file"] := rfl
  have hvalid : (twinDatabases front back).IsValid := by
    refine ⟨by rw [hnames]; decide, by rw [hnames]; decide, fun rule hrule => ?_⟩
    obtain rfl := List.mem_singleton.1 hrule
    exact ⟨(NamespaceRule.exists_compile_iff _).2 (by decide +kernel), by decide,
      by rw [hnames]; decide⟩
  obtain ⟨resolver, h⟩ := Resolver.exists_ofConfig_iff.2 hvalid
  have hresolve : resolver.resolve "users" = .ok (twinDatabases front back).providers :=
    (Resolver.resolve_eq_ok_iff h).2 ⟨_, ⟨[], [], rfl, nofun, by decide +kernel⟩, rfl,
      fun _ hp => hp⟩
  have hopen : (Context.openAny "users" .records
      ({ resolver, types := ProviderType.trial }, {})).1 = .ok (.records twinUsers) := by
    have hbuilt := hbuild resolver hresolve
    rw [Context.openAny_of_not_open rfl, Context.buildNew, Context.buildAndKeep,
      Action.bind_apply, Action.bind_apply]
    rcases hresult : Context.build Shelf.records "users"
      ({ resolver, types := ProviderType.trial }, {}) with ⟨r, t⟩
    rw [hresult] at hbuilt
    obtain rfl : r = .ok twinUsers := hbuilt
    rfl
  exact ⟨resolver, h, hresolve, .cons (@Step.opened _ _ .records _ _ (Prod.ext hopen rfl)) .nil⟩

/-- Both providers have a layer of the users. -/
theorem hasLayer_openedTwins {resolver : Resolver} {front back : Option String}
    (hresolve : resolver.resolve "users" = .ok (twinDatabases front back).providers)
    (hrun : Run (start resolver ProviderType.trial {}) [.opened "users" (.records twinUsers)]
      (openedTwins resolver)) {p : ProviderConfig}
    (hp : p ∈ (twinDatabases front back).providers) :
    (openedTwins resolver).HasLayer "users" p (.inDatabase "users" ⟨0⟩) := by
  have hkept : (openedTwins resolver).context.resolver = resolver :=
    ((Sound.start resolver _ {} (fun _ _ => ProviderType.keepsApart_trial)
      (fun place database hget => absurd hget (Storage.shared_empty_ne place database))).run
        hrun).resolves
  refine ⟨_, _, _, List.mem_singleton_self _, hkept.symm ▸ hresolve, ?_⟩
  rcases hp with _ | ⟨_, _ | ⟨_, ⟨⟩⟩⟩
  · exact List.mem_cons_self
  · exact List.mem_cons_of_mem _ List.mem_cons_self

/-- Once the users were opened over two providers with one path, the laws hold, and the two layers
have one connection to the file. -/
theorem connectionLaws_of_run_oneFile :
    ∃ (resolver : Resolver) (l l' : (openedTwins resolver).DatabaseLayer),
      Resolver.ofConfig (twinDatabases (some "data.db") (some "data.db")) = .ok resolver ∧
        (openedTwins resolver).ConnectionLaws ∧ l.provider.name = "db" ∧
        l'.provider.name = "file" ∧ l.connection = l'.connection ∧ l.database = l'.database := by
  obtain ⟨resolver, h, hresolve, hrun⟩ :=
    @exists_openedTwins (some "data.db") (some "data.db") fun resolver hresolve => by
      rw [Context.build_of_resolve hresolve]
      rfl
  have hothers : ∀ (p : ProviderConfig) type, ProviderType.trial.get? p.kind = some type →
      p.kind ≠ "sqlite" → type.KeepsApart p none := by
    intro p type htype hkind
    have hkeeps := ProviderType.keepsApart_trial htype
    rwa [ProviderType.trialLink, if_neg hkind] at hkeeps
  have hlaws := connectionLaws_of_run rfl hothers
    (fun place database hget => absurd hget (Storage.shared_empty_ne place database)) hrun
    fun hmem => by cases List.mem_singleton.1 hmem
  let front : (openedTwins resolver).DatabaseLayer :=
    ⟨"users", _, { path := some "data.db" }, ⟨0⟩,
      hasLayer_openedTwins hresolve hrun List.mem_cons_self, rfl, rfl⟩
  let back : (openedTwins resolver).DatabaseLayer :=
    ⟨"users", _, { path := some "data.db" }, ⟨0⟩,
      hasLayer_openedTwins hresolve hrun (List.mem_cons_of_mem _ List.mem_cons_self), rfl, rfl⟩
  have halike : front.AreSetAlike back := .atPath rfl rfl rfl rfl
  exact ⟨resolver, front, back, h, hlaws, rfl, rfl, (hlaws.shares_iff _ _).2 (.inl halike), rfl⟩

/-- A database in memory before one at a path that reads like the text of its provider: the two
layers of the users use one connection, though they are not set alike. -/
theorem exists_collision : ∃ (resolver : Resolver) (l l' : (openedTwins resolver).DatabaseLayer),
    Resolver.ofConfig (twinDatabases none (some "memory:db")) = .ok resolver ∧
      Run (start resolver ProviderType.trial {}) [.opened "users" (.records twinUsers)]
        (openedTwins resolver) ∧
      l.connection = l'.connection ∧ l.database = l'.database ∧ ¬l.AreSetAlike l' := by
  obtain ⟨resolver, h, hresolve, hrun⟩ :=
    @exists_openedTwins none (some "memory:db") fun resolver hresolve => by
      rw [Context.build_of_resolve hresolve]
      rfl
  let memory : (openedTwins resolver).DatabaseLayer :=
    ⟨"users", _, {}, ⟨0⟩, hasLayer_openedTwins hresolve hrun List.mem_cons_self, rfl, rfl⟩
  let file : (openedTwins resolver).DatabaseLayer :=
    ⟨"users", _, { path := some "memory:db" }, ⟨0⟩,
      hasLayer_openedTwins hresolve hrun (List.mem_cons_of_mem _ List.mem_cons_self), rfl, rfl⟩
  have hcollides : memory.identity.Collides file.identity := .inr (.memory "db")
  refine ⟨resolver, memory, file, h, hrun, DatabaseLayer.connection_eq_iff.2 (.inr hcollides), rfl,
    fun halike => ?_⟩
  cases DatabaseLayer.areSetAlike_iff.1 halike

end Session

end TieredStore
