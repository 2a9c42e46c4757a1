import TieredStore.Proofs.Context.Sessions

/-!
# The laws of sessions

A store that is open is shared by all who open it.  A name that is destroyed with success has
nothing in any database that its next store of records will be linked to, and this stays so whatever
is opened, refused, used or destroyed under other names.  Stores with other names answer as before.

Main results:

- Theorem `Session.Cleared.run`: a name that was destroyed stays empty until its records are opened.
- Theorem `Session.Cleared.readsAsEmpty`: the records that are opened then read as empty.
- Theorem `Session.laws_of_run`: the laws hold in every session that is reached from a new context.
-/

namespace TieredStore

open Storage (Spares)

namespace Session

variable {link : ProviderConfig → Option DatabaseLink} {resolver : Resolver} {σ τ υ : Session}
  {name : String} {store : AnyStore} {e : Event} {events : List Event}

/-! ## Names that were destroyed -/

/-- Whether there is nothing under a name in any database that the next store of records of this
name will be linked to. -/
structure Cleared (link : ProviderConfig → Option DatabaseLink) (resolver : Resolver)
    (name : String) (σ : Session) : Prop where
  closed : σ.context.store? .records name = none
  connected : ∀ l, resolver.Links link name l → ∀ database,
    σ.context.registry.get? l.connection = some database →
      σ.storage.IsEmptyPart (.records (.inDatabase database name))
  unconnected : ∀ l, resolver.Links link name l →
    σ.context.registry.get? (α := Ref Database) l.connection = none →
      resolver.OnePlace link ∧ ∀ shared database, l.place = some (.shared shared) →
        σ.storage.shared.get? shared = some database →
          σ.storage.IsEmptyPart (.records (.inDatabase database name))

namespace Cleared

/-- Connections and storage that grow have nothing under the name. -/
theorem grown (h : σ.Cleared link resolver name) {t : Registry × Storage} {other : String}
    {contract : Contract}
    (hgrown : Grown (fun l => contract = .records ∧ resolver.Links link other l)
      (σ.context.registry, σ.storage) t) :
    (⟨(σ.context.reaching t).1, t.2, σ.handles⟩ : Session).Cleared link resolver name := by
  have hshared : ∀ l, resolver.Links link name l →
      σ.context.registry.get? (α := Ref Database) l.connection = none →
      ∀ shared database, l.place = some (.shared shared) →
        t.2.shared.get? shared = some database →
          t.2.IsEmptyPart (.records (.inDatabase database name)) := by
    intro l hl hnone shared database hshare hget
    rcases hgrown.newShared _ _ hget with hold | hblank
    · exact hgrown.spares.isEmptyPart
        ((h.unconnected l hl hnone).2 shared database hshare hold)
    · exact hblank name
  refine ⟨h.closed, fun l hl database hget => ?_, fun l hl hnone => ?_⟩
  · cases hold : σ.context.registry.get? (α := Ref Database) l.connection with
    | some known =>
      have hsame : some database = some known := hget.symm.trans (hgrown.connected _ _ hold)
      obtain rfl := Option.some.inj hsame
      exact hgrown.spares.isEmptyPart (h.connected l hl _ hold)
    | none =>
      -- another provider may have opened the connection, at the same place
      rcases hgrown.newConnection _ _ hget with hknown | ⟨place, ⟨-, hlinks⟩, hat⟩
      · exact absurd (hold.symm.trans hknown) (by simp)
      · have hsame : l.place = some place :=
          (h.unconnected l hl hold).1 _ _ _ _ hl hlinks rfl
        cases place with
        | own => exact hat name
        | shared shared => exact hshared l hl hold shared database hsame hat
  · cases hold : σ.context.registry.get? (α := Ref Database) l.connection with
    | some known => exact absurd (hnone.symm.trans (hgrown.connected _ _ hold)) (by simp)
    | none => exact ⟨(h.unconnected l hl hold).1, hshared l hl hold⟩

/-- Contents of other names may change. -/
theorem changed (h : σ.Cleared link resolver name) {touched : List StoragePart} {t : Storage}
    (hspares : Spares touched σ.storage t) (hshared : t.shared = σ.storage.shared)
    (hrows : ∀ database, .records (.inDatabase database name) ∉ touched) :
    ({ σ with storage := t } : Session).Cleared link resolver name where
  closed := h.closed
  connected l hl database hget :=
    hspares.same _ (hrows database) _ (h.connected l hl database hget)
  unconnected l hl hnone := by
    obtain ⟨hplace, hempty⟩ := h.unconnected l hl hnone
    exact ⟨hplace, fun shared database hshare hget =>
      hspares.same _ (hrows database) _ (hempty shared database hshare (hshared ▸ hget))⟩

/-- Only stores of records of the name have rows under it. -/
theorem not_mem_footprint (hσ : σ.Sound link resolver) {other : String}
    (hopen : (other, store) ∈ σ.handles) (hno : other = name → store.contract ≠ .records)
    (database : Ref Database) : .records (.inDatabase database name) ∉ store.footprint :=
  fun hpart => hno ((hσ.settled other store hopen).named database name hpart).symm
    (AnyStore.contract_of_mem_footprint hpart)

/-- A name stays empty when a store is opened that is not its records. -/
theorem opened (hσ : σ.Sound link resolver) (h : σ.Cleared link resolver name) {other : String}
    (hstep : Step σ (.opened other store) τ)
    (hopens : ¬(other = name ∧ store.contract = .records)) : τ.Cleared link resolver name := by
  rcases hstep.opened_cases hσ with ⟨-, rfl⟩ | ⟨-, t, hbuilt, rfl⟩
  · exact ⟨h.closed, h.connected, h.unconnected⟩
  · have hgrown := h.grown (hσ.resolves ▸ hbuilt.made.grown)
    obtain ⟨-, -, hregistry⟩ := (σ.context.reaching t).1.withStore_rest other store
    refine ⟨?_, fun l hl database hget => ?_, fun l hl hnone => ?_⟩
    · rw [Context.store?_withStore_of_ne _ _ fun hsame => hopens ⟨hsame.2.symm, hsame.1.symm⟩]
      exact hgrown.closed
    · rw [hregistry] at hget
      exact hgrown.connected l hl database hget
    · rw [hregistry] at hnone
      exact hgrown.unconnected l hl hnone

/-- A name stays empty when any name is destroyed. -/
theorem destroyed (hσ : σ.Sound link resolver) (h : σ.Cleared link resolver name) {other : String}
    {result : Except StoreError Bool} (hstep : Step σ (.destroyed other result) τ) :
    τ.Cleared link resolver name := by
  obtain ⟨rfl, -⟩ := hstep.destroyed_cases
  have hspares := AnyStore.lifecycleAll_spares .destroy (σ.context.storesOf other) σ.storage
  have hrest := h.changed hspares.1 hspares.2.1 fun database hpart => by
    obtain ⟨store, hstore, hpart⟩ := List.mem_flatMap.1 hpart
    obtain ⟨contract, hfound⟩ := Context.exists_store?_of_mem_storesOf hstore
    refine not_mem_footprint hσ (hσ.cached _ _ _ hfound) (fun hname hcontract => ?_) database hpart
    rw [← Context.contract_of_store? hfound, hcontract, hname, h.closed] at hfound
    cases hfound
  refine ⟨?_, hrest.connected, hrest.unconnected⟩
  by_cases hname : name = other
  · rw [hname]
    exact Context.store?_without_self _ _ _
  · exact (Context.store?_without_of_ne _ _ hname).trans h.closed

/-- A name stays empty when the context is shut down, if the database at the place of each link is
the one that was connected. -/
theorem shutDown (hσ : σ.Sound link resolver) (h : σ.Cleared link resolver name)
    (hplace : resolver.OnePlace link) :
    ({ σ with context := σ.context.shutdown } : Session).Cleared link resolver name := by
  refine ⟨rfl, fun l hl database hget => (nomatch hget), fun l hl _ =>
    ⟨hplace, fun shared database hshare hget => ?_⟩⟩
  cases hold : σ.context.registry.get? (α := Ref Database) l.connection with
  | none => exact (h.unconnected l hl hold).2 shared database hshare hget
  | some known =>
    have hplaced := hσ.placed hplace name l hl known hold shared hshare
    obtain rfl := Option.some.inj (hplaced.symm.trans hget)
    exact h.connected l hl known hold

/-- A name stays empty until its records are opened or used. -/
theorem step (hσ : σ.Sound link resolver) (h : σ.Cleared link resolver name)
    (hstep : Step σ e τ) (hopens : ¬e.Opens name .records) (huses : ¬e.UsesRecords name)
    (hshutDown : e = .shutDown → resolver.OnePlace link) : τ.Cleared link resolver name := by
  cases e with
  | opened other store => exact h.opened hσ hstep hopens
  | refused other contract error =>
    obtain ⟨-, t, hgrown, rfl⟩ := hstep.refused_cases hσ
    exact h.grown hgrown
  | used other store =>
    cases hstep with
    | used hopen hruns =>
      refine h.changed hruns.spares.1 hruns.spares.2 (not_mem_footprint hσ hopen fun hname => ?_)
      cases store with
      | records store => exact absurd hname huses
      | texts store => exact fun hcontract => nomatch hcontract
      | counters store => exact fun hcontract => nomatch hcontract
  | destroyed other result => exact h.destroyed hσ hstep
  | shutDown =>
    cases hstep with
    | shutDown => exact h.shutDown hσ (hshutDown rfl)
  | tuned =>
    cases hstep with
    | tuned clock guards drawn =>
      exact h.changed (spares_tuned _ clock guards drawn) rfl fun _ hpart => nomatch hpart

/-- A name stays empty along every run in which its records are neither opened nor used. -/
theorem run (hσ : σ.Sound link resolver) (h : σ.Cleared link resolver name)
    (hrun : Run σ events τ) (hopens : ∀ e ∈ events, ¬e.Opens name .records)
    (huses : ∀ e ∈ events, ¬e.UsesRecords name)
    (hshutDown : .shutDown ∈ events → resolver.OnePlace link) :
    τ.Cleared link resolver name := by
  induction hrun with
  | nil => exact h
  | cons hstep rest ih =>
    have hfirst := h.step hσ hstep (hopens _ List.mem_cons_self) (huses _ List.mem_cons_self)
      fun hdown => hshutDown (hdown ▸ List.mem_cons_self)
    exact ih (hσ.step hstep) hfirst (fun e he => hopens e (List.mem_cons_of_mem _ he))
      (fun e he => huses e (List.mem_cons_of_mem _ he))
      fun hdown => hshutDown (List.mem_cons_of_mem _ hdown)

/-- A name whose records were open is empty after it was destroyed with success. -/
theorem of_destroyed (hσ : σ.Sound link resolver) {store : RecordStore}
    (hstore : σ.context.store? .records name = some (.records store))
    (hstep : Step σ (.destroyed name (.ok true)) τ) : τ.Cleared link resolver name := by
  obtain ⟨rfl, hresult⟩ := hstep.destroyed_cases
  obtain ⟨rest, hstores, hothers⟩ := Context.exists_storesOf_eq_cons hstore
  have hok : (AnyStore.lifecycleAll .destroy (σ.context.storesOf name) σ.storage).1 = .ok () := by
    cases hall : (AnyStore.lifecycleAll .destroy (σ.context.storesOf name) σ.storage).1 with
    | ok u => rfl
    | error e =>
      rw [hall] at hresult
      cases hresult
  have hheld := (hσ.settled name _ (hσ.cached _ _ _ hstore)).held
  refine ⟨Context.store?_without_self _ _ _, fun l hl database hget => ?_, fun l hl hnone => ?_⟩
  · obtain ⟨known, hknown, hpart⟩ := hσ.bound name _ hstore l hl
    obtain rfl := Option.some.inj (hknown.symm.trans hget)
    rw [hstores] at hok ⊢
    exact AnyStore.empty_of_destroyed hothers hheld hok _ hpart
  · obtain ⟨known, hknown, -⟩ := hσ.bound name _ hstore l hl
    exact absurd (hknown.symm.trans hnone) (by simp)

/-- A store of records that is opened under a name that is empty reads as empty. -/
theorem readsAsEmpty (hσ : σ.Sound link resolver) (h : σ.Cleared link resolver name)
    {store : RecordStore} (hstep : Step σ (.opened name (.records store)) τ) :
    store.ReadsAsEmpty τ.storage := by
  rcases hstep.opened_cases hσ with ⟨hstore, -⟩ | ⟨-, t, hbuilt, rfl⟩
  · exact absurd (hstore.symm.trans h.closed) (by simp)
  · have hgrown := h.grown (hσ.resolves ▸ hbuilt.made.grown)
    refine RecordStore.readsAsEmpty_of_nothing ⟨fun part hpart => ?_, fun part hpart => ?_, rfl⟩
    · rcases hbuilt.made.given _ rfl _ (List.mem_map_of_mem hpart) with
        hnew | ⟨l, database, ⟨-, hl⟩, hget, hsame⟩
      · exact hnew.empty
      · obtain rfl := StoragePart.records.inj hsame
        exact hgrown.connected l (hσ.resolves ▸ hl) database hget
    · exact (hbuilt.settled hσ.wired).setUp _ (List.mem_map_of_mem hpart)

end Cleared

/-! ## The laws of sessions -/

/-- What holds in a session that was reached. -/
structure Laws (link : ProviderConfig → Option DatabaseLink) (resolver : Resolver)
    (σ : Session) : Prop where
  /-- A store that is refused leaves all open stores as they are; the next time it is opened it is
  built anew. -/
  refused : ∀ {name contract error τ}, Step σ (.refused name contract error) τ →
    (∀ contract other, τ.context.store? contract other = σ.context.store? contract other) ∧
      ∀ {events υ}, Run τ events υ → (∀ e ∈ events, ¬e.Opens name contract) →
        Context.openAny name contract (υ.context, υ.storage) =
          Context.buildNew name contract (υ.context, υ.storage)
  /-- Until the name of an opened store is forgotten, opening it again gives the same store and
  changes nothing. -/
  shared : ∀ {name store τ}, Step σ (.opened name store) τ → ∀ {events υ}, Run τ events υ →
    (∀ e ∈ events, ¬e.Forgets name) →
      Context.openAny name store.contract (υ.context, υ.storage) =
        (.ok store, υ.context, υ.storage)
  /-- After a name was destroyed with success while its records were open, the next store of
  records that is opened under it reads as empty, if none that was opened before is used in
  between.  A shut-down in between does no harm where databases belong to whoever opens them
  (`Resolver.onePlace_of_own`), nor where shared ones do not depend on who opens them first. -/
  emptied : ∀ {name store τ}, σ.context.store? .records name = some (.records store) →
    Step σ (.destroyed name (.ok true)) τ → ∀ {events υ}, Run τ events υ →
      (∀ e ∈ events, ¬e.Opens name .records) → (∀ e ∈ events, ¬e.UsesRecords name) →
      (.shutDown ∈ events → resolver.OnePlace link) →
        ∀ {fresh ω}, Step υ (.opened name (.records fresh)) ω → fresh.ReadsAsEmpty ω.storage
  /-- Whatever comes of destroying a name, stores that were opened under other names answer all
  programs as before, and rows under other names stay in all databases. -/
  apart : ∀ {name result τ}, Step σ (.destroyed name result) τ → ∀ {other}, other ≠ name →
    (∀ {store}, (other, store) ∈ σ.handles → store.AnswersAlike σ.storage τ.storage) ∧
      ∀ database rows,
        (StoragePart.records (.inDatabase database other)).contents σ.storage = some rows →
          (StoragePart.records (.inDatabase database other)).contents τ.storage = some rows

/-- Destroying a name touches no part of a store with another name. -/
theorem Sound.apart_storesOf (hσ : σ.Sound link resolver) {other : String}
    (hopen : (other, store) ∈ σ.handles) (hne : other ≠ name) {part : StoragePart}
    (hpart : part ∈ store.footprint) :
    part ∉ (σ.context.storesOf name).flatMap AnyStore.footprint := by
  intro hmem
  obtain ⟨found, hfound, hpart'⟩ := List.mem_flatMap.1 hmem
  obtain ⟨contract, hstore⟩ := Context.exists_store?_of_mem_storesOf hfound
  exact hσ.apart name found other store (hσ.cached _ _ _ hstore) hopen hne part hpart' hpart

/-- The invariant gives the laws. -/
theorem Sound.laws (hσ : σ.Sound link resolver) : σ.Laws link resolver where
  refused hstep := by
    obtain ⟨hnone, t, -, hτ⟩ := hstep.refused_cases hσ
    subst hτ
    refine ⟨fun contract other => by cases contract <;> rfl, fun hrun hopens => ?_⟩
    exact Context.openAny_of_not_open (hrun.keeps_closed (hσ.step hstep) hnone hopens)
  shared {name store τ} hstep {events υ} hrun hforgets := by
    have hstore : τ.context.store? store.contract name = some store := by
      rcases hstep.opened_cases hσ with ⟨hstore, rfl⟩ | ⟨-, t, -, rfl⟩
      · exact hstore
      · exact Context.store?_withStore_self _ _ _
    exact Context.openAny_of_open (hrun.keeps_open (hσ.step hstep) hstore hforgets)
  emptied {name store τ} hstore hstep {events υ} hrun hopens huses hshutDown {fresh ω} hopened := by
    have hτ := hσ.step hstep
    have hcleared := (Cleared.of_destroyed hσ hstore hstep).run hτ hrun hopens huses hshutDown
    exact hcleared.readsAsEmpty (hτ.run hrun) hopened
  apart {name result τ} hstep {other} hne := by
    obtain ⟨rfl, -⟩ := hstep.destroyed_cases
    obtain ⟨hspares, -, hclock, hguards⟩ :=
      AnyStore.lifecycleAll_spares .destroy (σ.context.storesOf name) σ.storage
    refine ⟨fun {store} hopen => AnyStore.answersAlike_of_alikeOn ?_, fun database rows hrows => ?_⟩
    · exact hspares.alikeOn hclock hguards fun part hpart =>
        ⟨hσ.apart_storesOf hopen hne hpart, (hσ.settled other store hopen).held part hpart,
          (hσ.settled other store hopen).setUp part hpart⟩
    · refine hspares.same _ (fun hmem => ?_) _ hrows
      obtain ⟨found, hfound, hpart⟩ := List.mem_flatMap.1 hmem
      obtain ⟨contract, hstore⟩ := Context.exists_store?_of_mem_storesOf hfound
      exact hne ((hσ.settled name found (hσ.cached _ _ _ hstore)).named database other hpart)

/-- Every session that is reached from a new context, over providers that keep the layers of stores
apart, obeys the laws. -/
theorem laws_of_run {types : SortedMap String ProviderType} {storage : Storage}
    (htypes : ∀ p type, types.get? p.kind = some type → type.KeepsApart p (link p))
    (hshared : ∀ place database, storage.shared.get? place = some database →
      storage.Holds database)
    (hrun : Run (start resolver types storage) events σ) : σ.Laws link resolver :=
  ((Sound.start resolver types storage htypes hshared).run hrun).laws

/-! ### A name that is destroyed and opened again -/

/-- A provider in memory before one in a database, for all names: the pattern is found in each. -/
def cachedDatabase : Resolver where
  config :=
    { providers := [{ name := "cache", kind := "memory" }, { name := "db", kind := "sqlite" }]
      rules := [⟨".*", ["cache", "db"]⟩] }
  patterns := [⟨fun _ => true⟩]

/-- A store of users over these providers, by the number of its cells. -/
def usersIn (cell : Nat) : RecordStore :=
  .stack "users" (.base (.memory "cache:users" ⟨cell⟩)) [.base (.relational "users" ⟨cell⟩)]

/-- A session in which a user was stored. -/
def storedUser (user : Oid) : Session :=
  let opened := (Context.openAny "users" .records
    ({ resolver := cachedDatabase, types := ProviderType.trial }, {})).2
  { context := opened.1
    storage := ((usersIn 0).run (Records.apply ⟨user, ∅, ∅, true⟩) opened.2).2
    handles := [("users", .records (usersIn 0))] }

/-- The session after the users were destroyed. -/
def destroyedUsers (user : Oid) : Session :=
  let destroyed := (Context.destroy "users"
    ((storedUser user).context, (storedUser user).storage)).2
  ⟨destroyed.1, destroyed.2, (storedUser user).handles⟩

/-- A user is stored in a new session. -/
theorem run_storedUser (user : Oid) : Run (start cachedDatabase ProviderType.trial {})
    [.opened "users" (.records (usersIn 0)), .used "users" (.records (usersIn 0))]
    (storedUser user) := by
  refine .cons (@Step.opened _ _ .records _ _ (Prod.ext ?_ rfl))
    (.cons (.used List.mem_cons_self ⟨_, _, rfl⟩) .nil)
  rfl

/-- The database of these providers is their own. -/
theorem onePlace_cachedDatabase : cachedDatabase.OnePlace ProviderType.trialLink := by
  refine Resolver.onePlace_of_own fun p hp l hl => ?_
  rcases List.mem_cons.1 hp with rfl | hp
  · cases hl
  · obtain rfl := List.mem_singleton.1 hp
    obtain rfl := Option.some.inj hl
    rfl

/-- The laws hold after a user was stored.  So if the users are destroyed then, and the context is
shut down, the users that are opened next read as empty. -/
theorem laws_of_run_storedUser :
    ∃ (user : Oid) (τ : Session),
      (storedUser user).Laws ProviderType.trialLink cachedDatabase ∧
        ((usersIn 0).run (Records.contains user) (storedUser user).storage).1 = .ok true ∧
        Step (storedUser user) (.destroyed "users" (.ok true)) (destroyedUsers user) ∧
        Step { destroyedUsers user with context := (destroyedUsers user).context.shutdown }
          (.opened "users" (.records (usersIn 1))) τ ∧
        (usersIn 1).ReadsAsEmpty τ.storage := by
  let user : Oid := ⟨"ada", by decide⟩
  have hlaws : (storedUser user).Laws ProviderType.trialLink cachedDatabase :=
    laws_of_run (fun _ _ => ProviderType.keepsApart_trial) (fun place database h =>
      absurd h (Storage.shared_empty_ne place database))
      (run_storedUser user)
  have hdestroyed : Step (storedUser user) (.destroyed "users" (.ok true))
      (destroyedUsers user) := .destroyed (Prod.ext rfl rfl)
  have hopened := @Step.opened
    { destroyedUsers user with context := (destroyedUsers user).context.shutdown } "users"
    .records (.records (usersIn 1)) _ (Prod.ext rfl rfl)
  refine ⟨user, _, hlaws, by decide +kernel, hdestroyed, hopened, ?_⟩
  refine @Laws.emptied _ _ _ hlaws _ (usersIn 0) _ rfl hdestroyed [.shutDown] _
    (.cons .shutDown .nil) (fun e he => ?_) (fun e he => ?_) (fun _ => onePlace_cachedDatabase)
    _ _ hopened
  · rw [List.mem_singleton.1 he]
    exact not_false
  · rw [List.mem_singleton.1 he]
    exact not_false

end Session

end TieredStore
