import TieredStore.Proofs.Storage.Contents
import TieredStore.Storage.AnyStore

/-!
# What stores touch

The parts behind a store are all that its calls change, and all that decides about its answers
beside the clock and the guards.  This holds of stores of every contract.  Setting a store up
changes no contents at all, and no lifecycle call changes the clock or a guard.

Main results:

- Theorem `AnyStore.Runs.spares`: whatever runs against a store touches its own parts only.
- Theorem `AnyStore.answersAlike_of_alikeOn`: a store answers alike on storages that have the
  same in its parts.
- Theorem `AnyStore.spares_setup`: setting a store up changes no contents.
-/

namespace TieredStore

open Storage (Spares AlikeOn)

/-! ## Stores of one kind -/

namespace Store

variable {Call Table : Type} [Interface Call] [StoreKind Call] [Inhabited Table] [Stored Table]
  [MemoryKind Call Table] [PartKind Call Table] [Kept Call]

/-- The parts of the storage behind a store, as parts of any kind. -/
def footprint (store : Store (StoreKind.Base Call)) : List StoragePart :=
  store.parts.map fun part : PartKind.Part Call => Kept.place part

variable {store : Store (StoreKind.Base Call)} {s t : Storage}

/-- The part of a base store is in the footprint of the store. -/
theorem place_mem_footprint {base : StoreKind.Base Call} (h : PartKind.part base ∈ store.parts) :
    Kept.place (PartKind.part base) ∈ store.footprint :=
  List.mem_map_of_mem h

/-- A call touches the parts of the store only, and opens no shared database. -/
theorem perform_spares (call : Call) (s : Storage) :
    Spares store.footprint s (store.perform call s).2 ∧
      (store.perform call s).2.shared = s.shared := by
  refine perform_keeps (fun t => Spares store.footprint s t ∧ t.shared = s.shared)
    StoreKind.closed_any ?_ ?_ trivial ⟨Spares.refl _ s, rfl⟩
  · rintro base hpart c t - ⟨hspares, hshared⟩
    refine ⟨hspares.trans ((Kept.spares_answer base c t).mono ?_),
      (Kept.shared_answer base c t).trans hshared⟩
    exact List.cons_subset.2 ⟨place_mem_footprint hpart, List.nil_subset _⟩
  · rintro guard - value c rival - - settings t ⟨hspares, hshared⟩
    exact ⟨hspares.trans (Spares.setGuard t guard settings), hshared⟩

/-- So does a program of calls. -/
theorem run_spares {α : Type} (p : Program Call α) (s : Storage) :
    Spares store.footprint s (p.run store.perform s).2 ∧
      (p.run store.perform s).2.shared = s.shared := by
  refine run_keeps (fun t => Spares store.footprint s t ∧ t.shared = s.shared) ?_ p
    ⟨Spares.refl _ s, rfl⟩
  rintro call t ⟨hspares, hshared⟩
  obtain ⟨hspares', hshared'⟩ := store.perform_spares call t
  exact ⟨hspares.trans hspares', hshared'.trans hshared⟩

/-- What base stores keep under a lifecycle call is kept by the store. -/
theorem lifecycle_keeps (Inv : Storage → Prop) (op : Lifecycle)
    (base : ∀ base, PartKind.part base ∈ store.parts → ∀ s, Inv s →
      Inv (StoreKind.answer base (Kept.lifecycle op : Call) s).2)
    (hs : Inv s) : Inv (store.perform (Kept.lifecycle op) s).2 := by
  refine perform_keeps Inv (Kept.closed_lifecycle op) ?_ ?_ rfl hs
  · rintro b hpart call s rfl hs
    exact base b hpart s hs
  · rintro guard - value call rival rfl hrival
    rw [Kept.rival_lifecycle] at hrival
    cases hrival

/-- A lifecycle call changes neither the clock nor a guard. -/
theorem lifecycle_quiet (op : Lifecycle) (s : Storage) :
    (store.perform (Kept.lifecycle op) s).2.clock = s.clock ∧
      (store.perform (Kept.lifecycle op) s).2.guards = s.guards := by
  refine lifecycle_keeps (fun t => t.clock = s.clock ∧ t.guards = s.guards) op ?_ ⟨rfl, rfl⟩
  rintro base - t ⟨hclock, hguards⟩
  exact ⟨(PartKind.clock_answer base _ t).trans hclock,
    (PartKind.guards_answer base _ t).trans hguards⟩

/-- Setting a store up changes no contents. -/
theorem spares_setup (s : Storage) :
    Spares [] s (store.perform (Kept.lifecycle .setup) s).2 :=
  lifecycle_keeps (fun t => Spares [] s t) .setup
    (fun base _ t h => h.trans (Kept.spares_setup base t)) (Spares.refl _ s)

/-- A store does not tell storages apart that have the same in its parts. -/
theorem respects_alikeOn {parts : List StoragePart} (hparts : store.footprint ⊆ parts) :
    Respects (fun _ => True) (AlikeOn parts) store where
  base _ hpart call _ _ _ h := Kept.alikeOn_answer (hparts (place_mem_footprint hpart)) call h
  guard guard _ _ _ h := congrArg (fun guards : Heap Guard => guards.get guard) h.guards.symm
  rival guard _ _ _ _ _ _ settings _ _ h := h.setGuard guard settings

/-- A store answers calls alike on storages that have the same in its parts, and leaves storages
that do. -/
theorem perform_alikeOn {parts : List StoragePart} (hparts : store.footprint ⊆ parts)
    (h : AlikeOn parts s t) (call : Call) :
    (store.perform call s).1 = (store.perform call t).1 ∧
      AlikeOn parts (store.perform call s).2 (store.perform call t).2 :=
  perform_related StoreKind.closed_any (respects_alikeOn hparts) trivial h

/-- A store answers programs alike on storages that have the same in its parts. -/
theorem run_eq_of_alikeOn {parts : List StoragePart} (hparts : store.footprint ⊆ parts)
    (h : AlikeOn parts s t) {α : Type} (p : Program Call α) :
    (p.run store.perform t).1 = (p.run store.perform s).1 := by
  have hstep : ∀ (call : Call) (s t : Storage), AlikeOn parts s t →
      (store.perform call s).1 = (store.perform call t).1 ∧
        AlikeOn parts (store.perform call s).2 (store.perform call t).2 :=
    fun call _ _ h => perform_alikeOn hparts h call
  exact (Program.run_related hstep p h).1.symm

end Store

/-! ## Stores of every contract -/

namespace AnyStore

/-- The contract that a store keeps. -/
def contract : AnyStore → Contract
  | .records _ => .records
  | .texts _ => .texts
  | .counters _ => .counters

/-- The parts of the storage behind a store. -/
def footprint : AnyStore → List StoragePart
  | .records store => @Store.footprint RecordCall _ _ _ _ _ _ _ _ store
  | .texts store => @Store.footprint (EntryCall String) _ _ _ _ _ _ _ _ store
  | .counters store => @Store.footprint (EntryCall Int64) _ _ _ _ _ _ _ _ store

/-- Whether a program run against a store leads from one storage to another. -/
def Runs (s t : Storage) : AnyStore → Prop
  | .records store => ∃ (α : Type) (p : Program RecordCall α), (store.run p s).2 = t
  | .texts store => ∃ (α : Type) (p : Program (EntryCall String) α), (store.run p s).2 = t
  | .counters store => ∃ (α : Type) (p : Program (EntryCall Int64) α), (store.run p s).2 = t

/-- Whether all programs that run against a store have one result on two storages. -/
def AnswersAlike (s t : Storage) : AnyStore → Prop
  | .records store =>
    ∀ (α : Type) (p : Program RecordCall α), (store.run p t).1 = (store.run p s).1
  | .texts store =>
    ∀ (α : Type) (p : Program (EntryCall String) α), (store.run p t).1 = (store.run p s).1
  | .counters store =>
    ∀ (α : Type) (p : Program (EntryCall Int64) α), (store.run p t).1 = (store.run p s).1

variable {store : AnyStore} {s t : Storage}

/-- Whatever runs against a store touches its own parts only, and opens no shared database. -/
theorem Runs.spares (h : store.Runs s t) :
    Spares store.footprint s t ∧ t.shared = s.shared := by
  cases store with
  | records store =>
    obtain ⟨α, p, rfl⟩ := h
    exact Store.run_spares p s
  | texts store =>
    obtain ⟨α, p, rfl⟩ := h
    exact Store.run_spares p s
  | counters store =>
    obtain ⟨α, p, rfl⟩ := h
    exact Store.run_spares p s

/-- A lifecycle call is a run. -/
theorem runs_lifecycle (store : AnyStore) (op : Lifecycle) (s : Storage) :
    store.Runs s (store.lifecycle op s).2 := by
  cases store with
  | records store =>
    exact ⟨Unit, .ofCall (RecordCall.lifecycle op),
      congrArg Prod.snd (congrFun (Program.run_ofCall (RecordStore.perform store) _) s)⟩
  | texts store =>
    exact ⟨Unit, .ofCall (EntryCall.lifecycle op),
      congrArg Prod.snd (congrFun (Program.run_ofCall (EntryStore.perform store) _) s)⟩
  | counters store =>
    exact ⟨Unit, .ofCall (EntryCall.lifecycle op),
      congrArg Prod.snd (congrFun (Program.run_ofCall (EntryStore.perform store) _) s)⟩

/-- A lifecycle call changes neither the clock nor a guard. -/
theorem lifecycle_quiet (store : AnyStore) (op : Lifecycle) (s : Storage) :
    (store.lifecycle op s).2.clock = s.clock ∧ (store.lifecycle op s).2.guards = s.guards := by
  cases store with
  | records store => exact Store.lifecycle_quiet op s
  | texts store => exact Store.lifecycle_quiet op s
  | counters store => exact Store.lifecycle_quiet op s

/-- Setting a store up changes no contents. -/
theorem spares_setup (store : AnyStore) (s : Storage) :
    Spares [] s (store.lifecycle .setup s).2 := by
  cases store with
  | records store => exact Store.spares_setup s
  | texts store => exact Store.spares_setup s
  | counters store => exact Store.spares_setup s

/-- A store answers alike on storages that have the same in its parts. -/
theorem answersAlike_of_alikeOn (h : AlikeOn store.footprint s t) : store.AnswersAlike s t := by
  cases store with
  | records store => exact fun α p => Store.run_eq_of_alikeOn (List.Subset.refl _) h p
  | texts store => exact fun α p => Store.run_eq_of_alikeOn (List.Subset.refl _) h p
  | counters store => exact fun α p => Store.run_eq_of_alikeOn (List.Subset.refl _) h p

end AnyStore

end TieredStore
