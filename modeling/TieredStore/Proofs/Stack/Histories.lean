import Mathlib.Data.Set.Insert
import TieredStore.Proofs.Stack.Layerwise

/-!
# Histories of a store

The storage that can be reached from equal tables by calls to one store, whether they succeed or
fail half way, while the clock is set and guards are told what to refuse.  With the storage goes
a note about the writes that have failed so far.  Whatever holds of the tables and the note at
the start, and is kept by whatever a call comes to, holds at every point of a history.

Parts of the storage are alike if all of them that have something have the same.

Main results:

- Theorem `Store.Reached.invariant`: what calls keep holds of all storage that can be reached.
- Theorem `Alike.of_lost`: parts that lose what they have stay alike.
-/

namespace TieredStore

/-! ## Reaching storage -/

section Reaching

variable {Call Table Note : Type} [Interface Call] [StoreKind Call] [Inhabited Table]
  [Stored Table] [MemoryKind Call Table] [PartKind Call Table]

/-- Whether storage can be reached by calls to a store whose parts had one table, with a note
about the calls so far.  A call that changes nothing may be left out. -/
inductive Store.Reached (initial : Table → Prop) (fresh : Note)
    (note : Note → (call : Call) → Except StoreError (Interface.Reply call) → Note)
    (store : Store (StoreKind.Base Call)) : Storage → Note → Prop where
  | start {s : Storage} {table : Table} (separate : store.parts.Nodup)
      (views : s.Views store.parts s.clock fun _ => table) (hinitial : initial table) :
      Reached initial fresh note store s fresh
  /-- A call succeeds or fails. -/
  | call {s : Storage} {noted : Note} (reached : Reached initial fresh note store s noted)
      (call : Call) :
      Reached initial fresh note store (store.perform call s).2
        (note noted call (store.perform call s).1)
  | clock {s : Storage} {noted : Note} (reached : Reached initial fresh note store s noted)
      (time : Int64) : Reached initial fresh note store { s with clock := time } noted
  /-- A guard is told which calls to refuse from now on. -/
  | refuse {s : Storage} {noted : Note} (reached : Reached initial fresh note store s noted)
      (guard : Ref Guard) (calls : List String) :
      Reached initial fresh note store (s.setCell guard { refused := calls }) noted

variable {initial : Table → Prop} {fresh noted : Note}
  {note : Note → (call : Call) → Except StoreError (Interface.Reply call) → Note}
  {store : Store (StoreKind.Base Call)} {s : Storage}

/-- What holds at the start and is kept by whatever a call comes to holds of all storage that can
be reached. -/
theorem Store.Reached.invariant {effect : Int64 → List (PartKind.Part Call) → (call : Call) →
      (PartKind.Part Call → Table) → Except StoreError (Interface.Reply call) →
      (PartKind.Part Call → Table) → Prop} (rule : PassesThroughLayers effect)
    {Inv : (PartKind.Part Call → Table) → Note → Prop}
    (hstart : ∀ table, initial table → Inv (fun _ => table) fresh)
    (hstep : ∀ now view noted call outcome view',
      effect now store.parts call view outcome view' → Inv view noted →
        Inv view' (note noted call outcome))
    (h : Reached initial fresh note store s noted) :
    store.parts.Nodup ∧ ∃ view, s.Views store.parts s.clock view ∧ Inv view noted := by
  induction h with
  | start separate views hinitial => exact ⟨separate, _, views, hstart _ hinitial⟩
  | call reached call ih =>
    obtain ⟨separate, view, hviews, hinv⟩ := ih
    obtain ⟨view', hviews', heffect⟩ :=
      store.ends_perform rule (List.Subset.refl _) separate call view _ hviews
    refine ⟨separate, view', ?_, hstep _ view _ call _ view' heffect hinv⟩
    rw [hviews'.clock]
    exact hviews'
  | clock reached time ih =>
    obtain ⟨separate, view, hviews, hinv⟩ := ih
    exact ⟨separate, view, hviews.withClock time, hinv⟩
  | refuse reached guard calls ih =>
    obtain ⟨separate, view, hviews, hinv⟩ := ih
    exact ⟨separate, view, hviews.refuse guard calls, hinv⟩

end Reaching

/-! ## Tables that agree -/

section Agreement

variable {Part α : Type}

/-- Whether all of some parts that have a hit have the same one. -/
def Alike (own : List Part) (hit : Part → Option α) : Prop :=
  ∀ a ∈ own, ∀ b ∈ own, ∀ x y, hit a = some x → hit b = some y → x = y

/-- Whether all of some parts have the same hit, or none of them has one. -/
def Same (own : List Part) (hit : Part → Option α) : Prop :=
  ∀ a ∈ own, ∀ b ∈ own, hit a = hit b

/-- Whether a hit is still the same, or is lost. -/
def SameOrLost (before after : Option α) : Prop :=
  after = before ∨ after = none

variable {own : List Part} {hit hit' : Part → Option α}

/-- Parts that have the same are alike. -/
theorem Same.alike (h : Same own hit) : Alike own hit := by
  intro a ha b hb x y hx hy
  rw [h a ha b hb, hy] at hx
  exact (Option.some.inj hx).symm

/-- Parts that all have some hit, or all have none, have the same. -/
theorem Same.of_eq (found : Option α) (h : ∀ part ∈ own, hit part = found) : Same own hit :=
  fun a ha b hb => (h a ha).trans (h b hb).symm

/-- A hit that changes in the same way in all parts is the same after that. -/
theorem Same.map (h : Same own hit) (change : Option α → Option α)
    (hchange : ∀ part ∈ own, hit' part = change (hit part)) : Same own hit' := by
  intro a ha b hb
  rw [hchange a ha, hchange b hb, h a ha b hb]

/-- Some parts may lose what they have without getting out of agreement. -/
theorem Alike.of_lost (h : Alike own hit)
    (hlost : ∀ part ∈ own, SameOrLost (hit part) (hit' part)) : Alike own hit' := by
  have hkept : ∀ part ∈ own, ∀ x, hit' part = some x → hit part = some x := by
    intro part hpart x hx
    rcases hlost part hpart with hsame | hnone
    · exact hsame ▸ hx
    · rw [hnone] at hx
      cases hx
  exact fun a ha b hb x y hx hy => h a ha b hb x y (hkept a ha x hx) (hkept b hb y hy)

/-- If one of some parts has a hit, there is a first hit among them. -/
theorem exists_findSome?_eq_some (hit : Part → Option α) {part : Part}
    (hpart : part ∈ own) {a : α} (ha : hit part = some a) :
    ∃ first ∈ own, ∃ b, hit first = some b ∧ own.findSome? hit = some b := by
  cases hfound : own.findSome? hit with
  | none =>
    have hnone := List.findSome?_eq_none_iff.1 hfound part hpart
    rw [ha] at hnone
    cases hnone
  | some b =>
    obtain ⟨first, hfirst, hb⟩ := List.exists_of_findSome?_eq_some hfound
    exact ⟨first, hfirst, b, hb, rfl⟩

section Spreading

variable {Table β : Type} {view view' : Part → Table} {change : Table → Table}
  {outcome : Except StoreError β}

/-- A change that keeps or loses a hit does so also if it is made half way. -/
theorem Spread.sameOrLost (h : Spread own change view outcome view') (hit : Table → Option α)
    (hchange : ∀ table, SameOrLost (hit table) (hit (change table))) :
    ∀ part ∈ own, SameOrLost (hit (view part)) (hit (view' part)) := by
  intro part hpart
  rcases h.each part hpart with hsame | hchanged
  · exact .inl (hsame ▸ rfl)
  · rw [hchanged]
    exact hchange _

/-- A change that spares something spares it also if it is made half way. -/
theorem Spread.spares (h : Spread own change view outcome view') (hit : Table → Option α)
    (hchange : ∀ table, hit (change table) = hit table) :
    ∀ part ∈ own, hit (view' part) = hit (view part) := by
  intro part hpart
  rcases h.each part hpart with hsame | hchanged
  · rw [hsame]
  · rw [hchanged]
    exact hchange _

end Spreading

end Agreement

end TieredStore
