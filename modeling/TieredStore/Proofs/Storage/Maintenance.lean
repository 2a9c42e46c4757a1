import TieredStore.Proofs.Entry.Answers
import TieredStore.Proofs.Storage.Contracts

/-!
# Maintenance of stores of entries

Maintenance removes expired entries, and an expired entry is as good as an absent one.  Two
storages whose tables have the same live entries cannot be told apart by any store of
entries, whether it is in memory, a stack or behind a guard, as long as the clock never goes
back.  Maintenance on one side leaves them so.

Main results:

- Theorem `Storage.indifferent_perform`: storages with the same live entries are answered alike
  by any store and are left with the same live entries.
- Theorem `Storage.tidies_perform`: maintenance of any store leaves the live entries alone.
- Theorem `EntryStore.run_eq_of_tidied`: maintenance at any points of a run changes no result.
-/

namespace TieredStore

variable {V : Type} [Stored (EntryTable V)]

/-- What a guarded store answers, by the settings of the guard. -/
theorem Store.throughGuard_apply {Call : Type} [Interface Call] [StoreKind Call]
    (guard : Ref Guard) (name : String) (inner : Handler Call Storage) (call : Call) (s : Storage) :
    throughGuard guard name inner call s =
      if (s.cell guard).refuses (StoreKind.callName call) then
        (.error (.storage (.down name (StoreKind.callName call))), s)
      else match (s.cell guard).rival.bind fun value => StoreKind.rivalCall value call with
        | none => inner call s
        | some rival => (inner rival >>= fun _ => inner call)
            (s.setCell guard { s.cell guard with rival := none }) := by
  rw [throughGuard, Action.bind_apply, Action.read_apply]
  dsimp only
  by_cases hrefused : (s.cell guard).refuses (StoreKind.callName call) = true
  · rw [if_pos hrefused, if_pos hrefused, Action.fail_apply]
  · rw [if_neg hrefused, if_neg hrefused, Action.bind_apply, takeRival]
    cases (s.cell guard).rival.bind fun value => StoreKind.rivalCall value call <;> rfl

namespace Storage

/-! ## Storages with the same live entries -/

variable (V) in
/-- Whether two storages differ in entries that have expired by a time at most: their tables
have the same live entries, and all that stores of entries see beside them is the same. -/
structure Alike (now : Int64) (s t : Storage) : Prop where
  clock_left : s.clock = now
  clock_right : t.clock = now
  guards : s.guards = t.guards
  holds : ∀ ref : Ref (EntryTable V), s.Holds ref ↔ t.Holds ref
  looksLike : ∀ ref : Ref (EntryTable V), EntryTable.LooksLike now (s.cell ref) (t.cell ref)

variable {now : Int64} {s t u : Storage}

namespace Alike

/-- A storage is like itself. -/
theorem refl (hclock : s.clock = now) : Alike V now s s :=
  ⟨hclock, hclock, rfl, fun _ => Iff.rfl, fun _ _ => rfl⟩

/-- What is like something that is like a third storage is like this one. -/
theorem trans (h : Alike V now s t) (h' : Alike V now t u) : Alike V now s u where
  clock_left := h.clock_left
  clock_right := h'.clock_right
  guards := h.guards.trans h'.guards
  holds ref := (h.holds ref).trans (h'.holds ref)
  looksLike ref key := (h.looksLike ref key).trans (h'.looksLike ref key)

variable [StoredApart (EntryTable V)]

/-- Later times do not tell the storages apart. -/
theorem later (h : Alike V now s t) {time : Int64} (hle : now ≤ time) :
    Alike V time { s with clock := time } { t with clock := time } where
  clock_left := rfl
  clock_right := rfl
  guards := h.guards
  holds ref := (holds_withClock_iff s time).trans
    ((h.holds ref).trans (holds_withClock_iff t time).symm)
  looksLike ref := by
    rw [cell_withClock s, cell_withClock t]
    exact (h.looksLike ref).later hle

/-- Tables that look alike are written to the same cell. -/
theorem setCell (h : Alike V now s t) (ref : Ref (EntryTable V)) {a b : EntryTable V}
    (hlook : EntryTable.LooksLike now a b) : Alike V now (s.setCell ref a) (t.setCell ref b) where
  clock_left := by rw [clock_setCell, h.clock_left]
  clock_right := by rw [clock_setCell, h.clock_right]
  guards := by rw [guards_setCell, guards_setCell, h.guards]
  holds other := by rw [holds_setCell_iff, holds_setCell_iff, h.holds other]
  looksLike other := by
    by_cases hholds : s.Holds ref
    · by_cases hsame : other = ref
      · subst hsame
        rw [cell_setCell_self a hholds, cell_setCell_self b ((h.holds other).1 hholds)]
        exact hlook
      · rw [cell_setCell_of_ne _ _ hsame, cell_setCell_of_ne _ _ hsame]
        exact h.looksLike other
    · rw [cell_setCell_of_not_holds a hholds,
        cell_setCell_of_not_holds b fun hright => hholds ((h.holds ref).2 hright)]
      exact h.looksLike other

/-- A table is replaced by one with the same live entries. -/
theorem of_looksLike (hclock : s.clock = now) (ref : Ref (EntryTable V)) {table : EntryTable V}
    (hlook : EntryTable.LooksLike now (s.cell ref) table) :
    Alike V now s (s.setCell ref table) where
  clock_left := hclock
  clock_right := by rw [clock_setCell, hclock]
  guards := by rw [guards_setCell]
  holds other := by rw [holds_setCell_iff]
  looksLike other := by
    by_cases hsame : other = ref
    · subst hsame
      by_cases hholds : s.Holds other
      · rw [cell_setCell_self table hholds]
        exact hlook
      · rw [cell_setCell_of_not_holds table hholds]
        exact fun _ => rfl
    · rw [cell_setCell_of_ne _ _ hsame]
      exact fun _ => rfl

/-- The settings of a guard are written on both sides. -/
theorem setGuard (h : Alike V now s t) (guard : Ref Guard) (settings : Guard) :
    Alike V now (s.setCell guard settings) (t.setCell guard settings) where
  clock_left := h.clock_left
  clock_right := h.clock_right
  guards := congrArg (fun guards : Heap Guard => guards.set guard settings) h.guards
  holds ref := (holds_withGuards_iff s _).trans
    ((h.holds ref).trans (holds_withGuards_iff t _).symm)
  looksLike ref := by
    have hleft : (s.setCell guard settings).cell ref = s.cell ref := cell_withGuards s _ ref
    have hright : (t.setCell guard settings).cell ref = t.cell ref := cell_withGuards t _ ref
    rw [hleft, hright]
    exact h.looksLike ref

end Alike

/-! ## Stores do not tell them apart -/

/-- Whether a store answers storages with the same live entries alike, and leaves them with the
same live entries. -/
def Indifferent (now : Int64) (answer : Handler (EntryCall V) Storage) : Prop :=
  ∀ call s t, Alike V now s t →
    (answer call s).1 = (answer call t).1 ∧ Alike V now (answer call s).2 (answer call t).2

/-- A program has one result on storages with the same live entries. -/
theorem Indifferent.run {answer : Handler (EntryCall V) Storage} (hanswer : Indifferent now answer)
    {α : Type} (p : Program (EntryCall V) α) (h : Alike V now s t) :
    (p.run answer s).1 = (p.run answer t).1 ∧ Alike V now (p.run answer s).2 (p.run answer t).2 :=
  Program.run_related hanswer p h

section Stores

variable [DecidableEq V] [StoredApart (EntryTable V)]

/-- A store in memory answers from the live entries of its table. -/
theorem indifferent_answer (store : EntryBase V) : Indifferent now store.answer := by
  intro call s t h
  have hanswer := (h.looksLike store.table).answer call
  have hone : ∀ u : Storage, u.clock = now → store.answer call u =
      ((EntryTable.answer now call (u.cell store.table)).1,
        u.setCell store.table (EntryTable.answer now call (u.cell store.table)).2) := by
    rintro u rfl
    rfl
  rw [hone s h.clock_left, hone t h.clock_right]
  exact ⟨hanswer.1, h.setCell store.table hanswer.2⟩

/-- A guard decides by its settings alone. -/
theorem Indifferent.throughGuard [EntryValue V] {inner : Handler (EntryCall V) Storage}
    (hinner : Indifferent now inner) (guard : Ref Guard) (name : String) :
    Indifferent now (Store.throughGuard guard name inner) := by
  intro call s t h
  have hguard : s.cell guard = t.cell guard := congrArg (fun guards => guards.get guard) h.guards
  rw [Store.throughGuard_apply, Store.throughGuard_apply, hguard]
  split
  · exact ⟨rfl, h⟩
  · split
    · exact hinner call s t h
    · rename_i rival _
      have hrun := hinner.run (Program.ofCall rival >>= fun _ => Program.ofCall call)
        (h.setGuard guard { t.cell guard with rival := none })
      simpa only [Program.run_bind, Program.run_ofCall] using hrun

end Stores

mutual

/-- No store of entries tells storages with the same live entries apart. -/
theorem indifferent_perform [DecidableEq V] [StoredApart (EntryTable V)] [EntryValue V] :
    (store : EntryStore V) → Indifferent now (EntryStore.perform store)
  | .base store => by
    intro call
    rw [EntryStore.perform_memory]
    exact indifferent_answer store call
  | .stack name front lower => by
    intro call s t h
    rw [EntryStore.perform, Store.perform_stack]
    refine Program.run_related (fun request s t h => ?_) _ h
    obtain ⟨place, call⟩ := request
    cases place with
    | zero => exact indifferent_perform front call s t h
    | succ place =>
      exact indifferent_performBelow (indifferent_perform front) lower place call s t h
  | .guarded guard inner => by
    intro call
    rw [EntryStore.perform, Store.perform]
    exact (indifferent_perform inner).throughGuard guard _ call

/-- Nor does any of the lower layers of a stack. -/
theorem indifferent_performBelow [DecidableEq V] [StoredApart (EntryTable V)] [EntryValue V]
    {standIn : Handler (EntryCall V) Storage} (hstandIn : Indifferent now standIn) :
    (lower : List (EntryStore V)) → (place : Nat) →
      Indifferent now (Store.performBelow standIn lower place)
  | [], place => by
    intro call
    rw [Store.performBelow]
    exact hstandIn call
  | layer :: _, 0 => by
    intro call
    rw [Store.performBelow]
    exact indifferent_perform layer call
  | _ :: rest, place + 1 => by
    intro call
    rw [Store.performBelow]
    exact indifferent_performBelow hstandIn rest place call

end

/-! ## Maintenance -/

/-- Whether maintenance leaves the live entries as they are. -/
def Tidies (now : Int64) (answer : Handler (EntryCall V) Storage) : Prop :=
  ∀ s, s.clock = now → Alike V now s (answer (.lifecycle .maintenance) s).2

/-- Maintenance of some layers, one after the other, leaves the live entries as they are. -/
theorem alike_fanOut_maintenance {answer : Handler (At Nat (EntryCall V)) Storage}
    (hanswer : ∀ place, Tidies now fun call => answer ⟨place, call⟩) (places : List Nat)
    (hclock : s.clock = now) :
    Alike V now s
      ((Stack.fanOut (.ofCall (EntryCall.lifecycle .maintenance)) places).run answer s).2 := by
  induction places generalizing s with
  | nil => exact Alike.refl hclock
  | cons place rest ih =>
    have hfirst : Alike V now s (answer ⟨place, EntryCall.lifecycle .maintenance⟩ s).2 :=
      hanswer place s hclock
    rw [Stack.fanOut_cons, Program.run_bind, Program.run_at, Program.run_ofCall, Action.bind_apply]
    rcases hrun : answer ⟨place, EntryCall.lifecycle .maintenance⟩ s with ⟨result, s'⟩
    rw [hrun] at hfirst
    cases result with
    | error e => exact hfirst
    | ok u => exact hfirst.trans (ih hfirst.clock_right)

mutual

/-- Maintenance of any store of entries leaves the live entries as they are. -/
theorem tidies_perform [DecidableEq V] [StoredApart (EntryTable V)] [EntryValue V] :
    (store : EntryStore V) → Tidies now (EntryStore.perform store)
  | .base store => by
    rintro s rfl
    rw [EntryStore.perform_memory]
    exact Alike.of_looksLike rfl store.table EntryTable.looksLike_sweep
  | .stack name front lower => by
    intro s hclock
    rw [EntryStore.perform, Store.perform_stack]
    refine alike_fanOut_maintenance (fun place => ?_) _ hclock
    cases place with
    | zero => exact tidies_perform front
    | succ place => exact tidies_performBelow (tidies_perform front) lower place
  | .guarded guard inner => by
    intro s hclock
    rw [EntryStore.perform, Store.perform, Store.throughGuard_apply]
    split
    · exact Alike.refl hclock
    · have hnone : ((s.cell guard).rival.bind fun value =>
          StoreKind.rivalCall value (EntryCall.lifecycle (V := V) .maintenance)) = none := by
        cases (s.cell guard).rival <;> rfl
      rw [hnone]
      exact tidies_perform inner s hclock

/-- So does maintenance of any of the lower layers of a stack. -/
theorem tidies_performBelow [DecidableEq V] [StoredApart (EntryTable V)] [EntryValue V]
    {standIn : Handler (EntryCall V) Storage} (hstandIn : Tidies now standIn) :
    (lower : List (EntryStore V)) → (place : Nat) →
      Tidies now (Store.performBelow standIn lower place)
  | [], place => by
    intro s
    rw [Store.performBelow]
    exact hstandIn s
  | layer :: _, 0 => by
    intro s
    rw [Store.performBelow]
    exact tidies_perform layer s
  | _ :: rest, place + 1 => by
    intro s
    rw [Store.performBelow]
    exact tidies_performBelow hstandIn rest place s

end

end Storage

/-! ## Runs with maintenance -/

namespace Step

variable {Call : Type} [Interface Call] {α : Type}

/-- Whether the clock is never set back. -/
def NeverBack : Int64 → List (Step Call α) → Prop
  | _, [] => True
  | now, .clock time :: rest => now ≤ time ∧ NeverBack time rest
  | now, .program _ :: rest => NeverBack now rest

/-- Whether a run becomes another one by maintenance at some points. -/
inductive Tidied {V : Type} : List (Step (EntryCall V) Unit) → List (Step (EntryCall V) Unit) → Prop
  | nil : Tidied [] []
  | same (step : Step (EntryCall V) Unit) {steps tidied : List (Step (EntryCall V) Unit)}
      (rest : Tidied steps tidied) : Tidied (step :: steps) (step :: tidied)
  | maintenance {steps tidied : List (Step (EntryCall V) Unit)} (rest : Tidied steps tidied) :
      Tidied steps (.program (.ofCall (EntryCall.lifecycle .maintenance)) :: tidied)

/-- A run without maintenance is one with maintenance at no points. -/
theorem Tidied.refl {V : Type} : (steps : List (Step (EntryCall V) Unit)) → Tidied steps steps
  | [] => .nil
  | step :: rest => .same step (refl rest)

end Step

namespace EntryStore

variable [DecidableEq V] [StoredApart (EntryTable V)] [EntryValue V] (store : EntryStore V)

/-- The storage after a run of a store. -/
def after (steps : List (Step (EntryCall V) Unit)) (s : Storage) : Storage :=
  stateAfter (Step.answer store.perform) steps s

/-- Storages with the same live entries have them after every run, also if there is maintenance on
one side. -/
theorem alike_of_tidied {steps tidied : List (Step (EntryCall V) Unit)}
    (htidied : Step.Tidied steps tidied) {now : Int64} (forward : Step.NeverBack now steps)
    {s t : Storage} (h : Storage.Alike V now s t) :
    ∃ later, Storage.Alike V later (store.after steps s) (store.after tidied t) := by
  induction htidied generalizing now s t with
  | nil => exact ⟨now, h⟩
  | same step rest ih =>
    cases step with
    | clock time => exact ih forward.2 (h.later forward.1)
    | program p => exact ih forward ((Storage.indifferent_perform store).run p h).2
  | maintenance rest ih =>
    refine ih forward (h.trans ?_)
    have htidy := Storage.tidies_perform store t h.clock_right
    rw [← Program.run_ofCall (EntryStore.perform store)] at htidy
    exact htidy

/-- As long as the clock is never set back, maintenance at any points of a run changes no result
and loses no live entry, and an entry that has expired is as good as an absent one from then
on. -/
theorem run_eq_of_tidied (steps : List (Step (EntryCall V) Unit)) (s : Storage)
    (forward : Step.NeverBack s.clock steps) :
    (∀ tidied, Step.Tidied steps tidied →
      (∀ (β : Type) (p : Program (EntryCall V) β),
        (store.run p (store.after tidied s)).1 = (store.run p (store.after steps s)).1) ∧
      ∀ (ref : Ref (EntryTable V)) (key : String),
        EntryTable.live? ((store.after tidied s).cell ref) (store.after steps s).clock key =
          EntryTable.live? ((store.after steps s).cell ref) (store.after steps s).clock key) ∧
    ∀ (ref : Ref (EntryTable V)) (key : String) (entry : Entry V),
      (s.cell ref).get? key = some entry → entry.isExpired s.clock = true →
      ∀ (β : Type) (p : Program (EntryCall V) β),
        (store.run p (store.after steps (s.setCell ref ((s.cell ref).erase key)))).1 =
          (store.run p (store.after steps s)).1 := by
  constructor
  · intro tidied htidied
    obtain ⟨later, halike⟩ := store.alike_of_tidied htidied forward (Storage.Alike.refl rfl)
    refine ⟨fun β p => ((Storage.indifferent_perform store).run p halike).1.symm, ?_⟩
    intro ref key
    rw [halike.clock_left]
    exact (halike.looksLike ref key).symm
  · intro ref key entry hstored hexpired β p
    have hgone : Storage.Alike V s.clock s (s.setCell ref ((s.cell ref).erase key)) :=
      Storage.Alike.of_looksLike rfl ref (EntryTable.looksLike_erase key hstored hexpired)
    obtain ⟨later, halike⟩ := store.alike_of_tidied (Step.Tidied.refl steps) forward hgone
    exact ((Storage.indifferent_perform store).run p halike).1.symm

/-- A stack of two layers with an expired entry, of which another key's entry expires during the
run, and which is tidied before that and after it. -/
theorem run_eq_of_tidied_stack :
    let store : EntryStore String :=
      .stack "stack" (.base ⟨"front", ⟨0⟩⟩) [.base ⟨"back", ⟨1⟩⟩]
    let s : Storage := { texts := ⟨#[.ofList [("k", ⟨"old", 5⟩)], ∅]⟩, clock := 7 }
    let sweep : Step (EntryCall String) Unit :=
      .program (.ofCall (EntryCall.lifecycle .maintenance))
    let put : Step (EntryCall String) Unit := .program (Entries.put "l" (some "new") 2)
    let steps := [put, .clock 9]
    let tidied := [sweep, put, .clock 9, sweep]
    let p := Entries.compareAndSet "k" none "new"
    Step.NeverBack s.clock steps ∧ Step.Tidied steps tidied ∧
      (s.cell (⟨0⟩ : Ref (EntryTable String))).get? "k" = some ⟨"old", 5⟩ ∧
      (⟨"old", 5⟩ : Entry String).isExpired s.clock = true ∧
      (store.run p (store.after tidied s)).1 = (store.run p (store.after steps s)).1 ∧
      (store.run p (store.after steps
          (s.setCell ⟨0⟩ ((s.cell (⟨0⟩ : Ref (EntryTable String))).erase "k")))).1 =
        (store.run p (store.after steps s)).1 := by
  intro store s sweep put steps tidied p
  have forward : Step.NeverBack s.clock steps := ⟨by decide, trivial⟩
  have htidied : Step.Tidied steps tidied :=
    .maintenance (.same put (.same (.clock 9) (.maintenance .nil)))
  have hstored : (s.cell (⟨0⟩ : Ref (EntryTable String))).get? "k" = some ⟨"old", 5⟩ := by decide
  have hexpired : (⟨"old", 5⟩ : Entry String).isExpired s.clock = true := by decide
  have hrun := store.run_eq_of_tidied steps s forward
  exact ⟨forward, htidied, hstored, hexpired, (hrun.1 tidied htidied).1 _ p,
    hrun.2 ⟨0⟩ "k" _ hstored hexpired _ p⟩

end EntryStore

end TieredStore
