import Mathlib.Data.List.Basic
import TieredStore.Proofs.Storage.Maintenance
import TieredStore.Proofs.Storage.Parts

/-!
# Calls that may stop half way

A call to a stack becomes calls to its layers, and any of them may be refused: then the call
stops, and what it has changed by then stays changed.  What a call comes to is a relation
between the tables before it, its result and the tables after it.  A relation that holds of base
stores and of refused calls, and that passes from the layers of a stack to the stack, holds of
every store.

Main results:

- Theorem `Action.Ends.bind`: actions in a row are followed one after the other.
- Theorem `Stack.ends_fanOut`: a change that goes to several layers is made in all of their
  parts, or, if it fails, in some of them.
- Theorems `Stack.ends_firstHit` and `Stack.ends_firstNonEmpty`: where the results of reads come
  from.
- Theorem `Store.ends_perform`: what holds of base stores, refusals and stacks holds of every
  store.
-/

namespace TieredStore

/-! ## Changes and reads -/

section Tables

variable {Part Table α β : Type}

/-- Whether a change was made in each of some parts, or, if it has failed, in some of them at
most. -/
structure Spread (own : List Part) (change : Table → Table) (view : Part → Table)
    (outcome : Except StoreError α) (view' : Part → Table) : Prop where
  outside : ∀ part ∉ own, view' part = view part
  each : ∀ part ∈ own, view' part = view part ∨ view' part = change (view part)
  all : ∀ a, outcome = .ok a → ∀ part ∈ own, view' part = change (view part)

/-- Whether something was read, and no table was changed. -/
structure Reads (found : α → Prop) (view : Part → Table)
    (outcome : Except StoreError α) (view' : Part → Table) : Prop where
  unchanged : view' = view
  found : ∀ a, outcome = .ok a → found a

namespace Spread

variable {own other : List Part} {change : Table → Table}
  {before mid after : Part → Table}

/-- A change that was refused was made nowhere. -/
theorem refused (own : List Part) (change : Table → Table) (before : Part → Table)
    (e : StoreError) : Spread own change before (.error e : Except StoreError α) before :=
  ⟨fun _ _ => rfl, fun _ _ => .inl rfl, fun _ h => nomatch h⟩

/-- A change of one part. -/
theorem single [DecidableEq Part] (part : Part) (change : Table → Table) (before : Part → Table)
    (outcome : Except StoreError α) : Spread [part] change before outcome
      (Function.update before part (change (before part))) := by
  have hsame : ∀ other ∈ [part], Function.update before part (change (before part)) other =
      change (before other) := by
    intro other hother
    rw [List.mem_singleton.1 hother, Function.update_self]
  exact ⟨fun other hother =>
      Function.update_of_ne (fun hsame => hother (List.mem_singleton.2 hsame)) _ _,
    fun other hother => .inr (hsame other hother), fun _ _ => hsame⟩

/-- A change that fails is not made in any further parts. -/
theorem append_error {e : StoreError}
    (h : Spread own change before (.error e : Except StoreError α) after) :
    Spread (own ++ other) change before (.error e : Except StoreError β) after := by
  refine ⟨fun part hpart => h.outside part fun hown => hpart (List.mem_append_left _ hown),
    fun part _ => ?_, fun _ h => nomatch h⟩
  by_cases hown : part ∈ own
  · exact h.each part hown
  · exact .inl (h.outside part hown)

/-- A change that goes on in further parts is made in all of them. -/
theorem append {a : α} {outcome : Except StoreError β} (hdisjoint : own.Disjoint other)
    (hown : Spread own change before (.ok a) mid) (hother : Spread other change mid outcome after) :
    Spread (own ++ other) change before outcome after := by
  have hfirst : ∀ part ∈ own, after part = change (before part) := fun part hpart =>
    (hother.outside part (hdisjoint hpart)).trans (hown.all a rfl part hpart)
  have hrest : ∀ part ∈ other, mid part = before part := fun part hpart =>
    hown.outside part fun hmem => hdisjoint hmem hpart
  refine ⟨fun part hpart => ?_, fun part hpart => ?_, fun b hb part hpart => ?_⟩
  · rw [List.mem_append, not_or] at hpart
    exact (hother.outside part hpart.2).trans (hown.outside part hpart.1)
  · rcases List.mem_append.1 hpart with hmem | hmem
    · exact .inr (hfirst part hmem)
    · rw [← hrest part hmem]
      exact hother.each part hmem
  · rcases List.mem_append.1 hpart with hmem | hmem
    · exact hfirst part hmem
    · rw [← hrest part hmem]
      exact hother.all b hb part hmem

end Spread

/-- A read that was refused has found nothing. -/
theorem Reads.refused (found : α → Prop) (view : Part → Table) (e : StoreError) :
    Reads found view (.error e) view :=
  ⟨rfl, fun _ h => nomatch h⟩

end Tables

variable {Call Table : Type} [Interface Call] [StoreKind Call] [Inhabited Table] [Stored Table]
  [MemoryKind Call Table] [PartKind Call Table] {α β : Type}
  {known : List (PartKind.Part Call)} {now : Int64} {view : PartKind.Part Call → Table}

/-! ## Actions on families of tables -/

namespace Action

/-- Whether an action, if some parts have some tables, leaves tables that are as described beside
its result. -/
def Ends (known : List (PartKind.Part Call)) (now : Int64) (view : PartKind.Part Call → Table)
    (x : Action Storage α) (post : Except StoreError α → (PartKind.Part Call → Table) → Prop) :
    Prop :=
  ∀ s : Storage, s.Views known now view →
    ∃ view', (x s).2.Views known now view' ∧ post (x s).1 view'

variable {post mid : Except StoreError α → (PartKind.Part Call → Table) → Prop}
  {x : Action Storage α}

/-- Giving a result changes nothing. -/
theorem Ends.pure {a : α} (h : post (.ok a) view) :
    Ends known now view (Pure.pure a : Action Storage α) post :=
  fun _ hs => ⟨view, hs, h⟩

/-- A weaker description holds as well. -/
theorem Ends.mono (h : Ends known now view x mid)
    (hpost : ∀ outcome view', mid outcome view' → post outcome view') :
    Ends known now view x post := by
  intro s hs
  obtain ⟨view', hviews, hmid⟩ := h s hs
  exact ⟨view', hviews, hpost _ _ hmid⟩

/-- The second action goes on with the tables that the first one leaves; an error ends both. -/
theorem Ends.bind {f : α → Action Storage β}
    {post : Except StoreError β → (PartKind.Part Call → Table) → Prop}
    (hx : Ends known now view x mid)
    (hf : ∀ a view', mid (.ok a) view' → Ends known now view' (f a) post)
    (herror : ∀ e view', mid (.error e) view' → post (.error e) view') :
    Ends known now view (x >>= f) post := by
  intro s hs
  obtain ⟨view', hviews, hmid⟩ := hx s hs
  rw [Action.bind_apply]
  rcases hrun : x s with ⟨outcome, s'⟩
  rw [hrun] at hviews hmid
  cases outcome with
  | ok a => exact hf a view' hmid s' hviews
  | error e => exact ⟨view', hviews, herror e view' hmid⟩

end Action

open TieredStore.Action (Ends)

/-! ## Calls through layers -/

namespace Stack

variable {answer : Handler (At Nat Call) Storage} {partsAt : Nat → List (PartKind.Part Call)}
  {places : List Nat}

omit [StoreKind Call] in
/-- The program of a single call to a layer is answered like the call. -/
theorem run_ofCall_at {σ : Type} (answer : Handler (At Nat Call) σ) (place : Nat) (call : Call) :
    ((Program.ofCall call).at place).run answer = answer ⟨place, call⟩ :=
  (Program.run_at place answer _).trans (Program.run_ofCall _ call)

/-- A change that goes to several layers is made in all of their parts, or, if it fails, in some
of them. -/
theorem ends_fanOut {p : Program Call Unit} {change : Table → Table}
    (hp : ∀ place ∈ places, ∀ view,
      Ends known now view ((p.at place).run answer) (Spread (partsAt place) change view))
    (hnodup : (places.flatMap partsAt).Nodup) :
    Ends known now view ((fanOut p places).run answer)
      (Spread (places.flatMap partsAt) change view) := by
  induction places generalizing view with
  | nil => exact Ends.pure ⟨fun _ _ => rfl, fun _ h => (nomatch h), fun _ _ _ h => (nomatch h)⟩
  | cons place rest ih =>
    rw [List.flatMap_cons] at hnodup ⊢
    rw [fanOut_cons, Program.run_bind]
    refine Ends.bind (hp place List.mem_cons_self view) (fun _ view' hfirst => ?_)
      fun e view' hfirst => hfirst.append_error
    refine (ih (fun other hother => hp other (List.mem_cons_of_mem _ hother))
      (List.Nodup.of_append_right hnodup)).mono fun outcome view'' hrest => ?_
    exact hfirst.append (List.disjoint_of_nodup_append hnodup) hrest

/-- A look through several layers gives the first hit among their parts. -/
theorem ends_firstHit {p : Program Call (Option α)} (hit : PartKind.Part Call → Option α)
    (hp : ∀ place ∈ places, Ends known now view ((p.at place).run answer)
      (Reads (fun found => found = (partsAt place).findSome? hit) view)) :
    Ends known now view ((firstHit p places).run answer)
      (Reads (fun found => found = (places.flatMap partsAt).findSome? hit) view) := by
  induction places with
  | nil => exact Ends.pure ⟨rfl, fun _ h => (Except.ok.inj h).symm⟩
  | cons place rest ih =>
    rw [firstHit_cons, Program.run_bind, List.flatMap_cons]
    refine Ends.bind (hp place List.mem_cons_self) ?_
      fun e view' h => ⟨h.unchanged, fun _ h => nomatch h⟩
    rintro found view' ⟨rfl, hfound⟩
    obtain rfl := hfound found rfl
    rw [List.findSome?_append]
    cases (partsAt place).findSome? hit with
    | some a => exact Ends.pure ⟨rfl, fun _ h => (Except.ok.inj h).symm⟩
    | none => exact ih fun other hother => hp other (List.mem_cons_of_mem _ hother)

/-- What is listed by the first layer that is not empty is in one of the parts. -/
theorem ends_firstNonEmpty {p : Program Call (List α)} (listed : PartKind.Part Call → α → Prop)
    (hp : ∀ place ∈ places, Ends known now view ((p.at place).run answer)
      (Reads (fun found => ∀ a ∈ found, ∃ part ∈ partsAt place, listed part a) view)) :
    Ends known now view ((firstNonEmpty p places).run answer)
      (Reads (fun found => ∀ a ∈ found, ∃ part ∈ places.flatMap partsAt, listed part a) view) := by
  induction places with
  | nil =>
    refine Ends.pure ⟨rfl, fun found h => ?_⟩
    obtain rfl := Except.ok.inj h
    exact fun a ha => nomatch ha
  | cons place rest ih =>
    rw [firstNonEmpty, Program.run_bind, List.flatMap_cons]
    refine Ends.bind (hp place List.mem_cons_self) ?_
      fun e view' h => ⟨h.unchanged, fun _ h => nomatch h⟩
    rintro found view' ⟨rfl, hfound⟩
    cases hempty : found.isEmpty with
    | false =>
      refine Ends.pure ⟨rfl, fun _ h => ?_⟩
      obtain rfl := Except.ok.inj h
      intro a ha
      obtain ⟨part, hpart, hlisted⟩ := hfound found rfl a ha
      exact ⟨part, List.mem_append_left _ hpart, hlisted⟩
    | true =>
      refine (ih fun other hother => hp other (List.mem_cons_of_mem _ hother)).mono ?_
      rintro outcome view'' ⟨rfl, hrest⟩
      refine ⟨rfl, fun found' h a ha => ?_⟩
      obtain ⟨part, hpart, hlisted⟩ := hrest found' h a ha
      exact ⟨part, List.mem_append_right _ hpart, hlisted⟩

end Stack

/-! ## Stores of any shape -/

/-- What a call comes to, as a relation between tables, result and tables, passes from base stores
and refusals to stacks. -/
structure PassesThroughLayers (effect : Int64 → List (PartKind.Part Call) → (call : Call) →
    (PartKind.Part Call → Table) → Except StoreError (Interface.Reply call) →
    (PartKind.Part Call → Table) → Prop) : Prop where
  refused : ∀ now own call view e, effect now own call view (.error e) view
  base : ∀ now part call view, effect now [part] call view
    (MemoryKind.answer now call (view part)).1
    (Function.update view part (MemoryKind.answer now call (view part)).2)
  layers : ∀ {known now answer partsAt lower},
    (∀ place ∈ Stack.places lower, ∀ call view,
      Ends known now view (answer ⟨place, call⟩) (effect now (partsAt place) call view)) →
    ((Stack.places lower).flatMap partsAt).Nodup → ∀ call view,
      Ends known now view ((StoreKind.throughLayers lower call).run answer)
        (effect now ((Stack.places lower).flatMap partsAt) call view)

namespace Store

/-- The layer at a place answers the calls that are meant for it. -/
theorem performAt_of_getElem? {front layer : Store (StoreKind.Base Call)}
    {lower : List (Store (StoreKind.Base Call))} {place : Nat}
    (h : (front :: lower)[place]? = some layer) (call : Call) :
    performAt front lower ⟨place, call⟩ = layer.perform call := by
  rw [performAt_eq, h]
  rfl

/-- At every place there is a layer. -/
theorem exists_layer {front : Store (StoreKind.Base Call)}
    {lower : List (Store (StoreKind.Base Call))} {place : Nat}
    (hplace : place ∈ Stack.places lower.length) :
    ∃ layer ∈ front :: lower, (front :: lower)[place]? = some layer ∧
      ∀ call : Call, performAt front lower ⟨place, call⟩ = layer.perform call := by
  have hlength : place < (front :: lower).length := List.mem_range.1 hplace
  have hlayer : (front :: lower)[place]? = some (front :: lower)[place] :=
    List.getElem?_eq_getElem hlength
  exact ⟨_, List.getElem_mem hlength, hlayer, fun call => performAt_of_getElem? hlayer call⟩

/-- The parts behind the layers, place by place. -/
theorem flatMap_places (front : Store (StoreKind.Base Call))
    (lower : List (Store (StoreKind.Base Call))) :
    (Stack.places lower.length).flatMap
        (fun place => ((front :: lower)[place]?.map parts).getD []) =
      (front :: lower).flatMap parts := by
  have hrange : ∀ layers : List (Store (StoreKind.Base Call)),
      (List.range layers.length).flatMap (fun place => (layers[place]?.map parts).getD []) =
        layers.flatMap parts := by
    intro layers
    induction layers with
    | nil => rfl
    | cons layer rest ih =>
      rw [List.length_cons, List.range_succ_eq_map, List.flatMap_cons, List.flatMap_map,
        List.flatMap_cons]
      exact congrArg (parts layer ++ ·) ih
  exact hrange (front :: lower)

variable {effect : Int64 → List (PartKind.Part Call) → (call : Call) →
    (PartKind.Part Call → Table) → Except StoreError (Interface.Reply call) →
    (PartKind.Part Call → Table) → Prop}

/-- A guard without a rival lets a call through or refuses it. -/
theorem ends_throughGuard (rule : PassesThroughLayers effect) {inner : Handler Call Storage}
    {own : List (PartKind.Part Call)} {call : Call}
    (hinner : Ends known now view (inner call) (effect now own call view)) (guard : Ref Guard)
    (name : String) :
    Ends known now view (throughGuard guard name inner call) (effect now own call view) := by
  intro s hs
  rw [throughGuard_apply, hs.quiet guard]
  split
  · exact ⟨view, hs, rule.refused now own call view _⟩
  · exact hinner s hs

/-- What holds of base stores, refusals and stacks holds of every store whose parts are
separate. -/
theorem ends_perform (rule : PassesThroughLayers effect) (store : Store (StoreKind.Base Call))
    (hparts : store.parts ⊆ known) (hnodup : store.parts.Nodup) (call : Call)
    (view : PartKind.Part Call → Table) :
    Ends known now view (store.perform call) (effect now store.parts call view) := by
  induction store using Store.inductionOn generalizing call view with
  | base store =>
    rw [Store.parts] at hparts ⊢
    rw [perform]
    intro s hs
    obtain ⟨table', hviews, ⟨e, herror, hsame⟩ | hanswer⟩ :=
      hs.answer (hparts (List.mem_singleton_self _)) call
    · rw [hsame, Function.update_eq_self] at hviews
      rw [herror]
      exact ⟨view, hviews, rule.refused now _ call view e⟩
    · have hbase := rule.base now (PartKind.part store) call view
      rw [← hanswer] at hbase
      exact ⟨_, hviews, hbase⟩
  | stack name front lower ih =>
    rw [parts_stack] at hparts hnodup
    rw [perform_stack, parts_stack, ← flatMap_places]
    refine rule.layers (fun place hplace call view => ?_) (by rwa [flatMap_places]) call view
    obtain ⟨layer, hmem, hlayer, hperform⟩ := exists_layer hplace
    have hsub : layer.parts ⊆ known :=
      fun part hpart => hparts (List.mem_flatMap.2 ⟨layer, hmem, hpart⟩)
    rw [hperform, hlayer, Option.map_some, Option.getD_some]
    exact ih layer hmem hsub ((List.nodup_flatMap.1 hnodup).1 layer hmem) call view
  | guarded guard inner ih =>
    rw [Store.parts] at hparts hnodup ⊢
    rw [perform]
    exact ends_throughGuard rule (ih hparts hnodup call view) guard _

end Store

end TieredStore
