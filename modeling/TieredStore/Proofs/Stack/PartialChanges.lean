import TieredStore.Proofs.Stack.Routes

/-!
# Changes that reach some layers

A change to a stack goes from the front layer on, and the first layer that fails ends it.  If the
layers are apart from each other, what happens at one of them is what would happen if the change
were made there alone: the layers before the failure have the change, the others are as they were,
and the failure is what the stack answers.  A read changes nothing at any layer, and the first one
that fails or has a hit gives its answer.

Main results:

- Theorem `Store.Apart.alikeOn_perform`: a call leaves stores alone that are apart from its own.
- Theorem `Store.perform_unchanged_of_error`: a layer that is no stack itself fails before it
  changes anything.
- Theorem `Store.madeUpToFailure_inTurn`: layers that run in turn, whatever they share, are changed
  up to the first one that fails.
- Theorem `Store.perform_stack_outcome`: what a change to a stack comes to if some layers fail, and
  what a read from it gives.
-/

namespace TieredStore

open Storage (AlikeOn)

namespace Store

variable {Call Table : Type} [Interface Call] [StoreKind Call] [Inhabited Table] [Stored Table]
  [MemoryKind Call Table] [PartKind Call Table] [Kept Call]

/-! ## Stores that are apart -/

/-- The databases behind a store. -/
def databases (store : Store (StoreKind.Base Call)) : List (Ref Database) :=
  store.footprint.filterMap StoragePart.database?

/-- Whether a call to one of two stores leaves the other one alone. -/
structure Apart (call : Call) (a b : Store (StoreKind.Base Call)) : Prop where
  footprints : a.footprint.Disjoint b.footprint
  /-- Setting up a store prepares its databases for all stores in them. -/
  databases : call = Kept.lifecycle .setup → a.databases.Disjoint b.databases

variable {call : Call} {a b store : Store (StoreKind.Base Call)} {s t : Storage}

/-- Stores are apart from each other. -/
theorem Apart.symm (h : Apart call a b) : Apart call b a :=
  ⟨fun _ hb ha => h.footprints ha hb, fun hcall _ hb ha => h.databases hcall ha hb⟩

/-- Unless stores are set up, they are apart if they have different parts. -/
theorem pairwise_apart {layers : List (Store (StoreKind.Base Call))}
    (h : (layers.map footprint).Pairwise List.Disjoint) (hcall : call ≠ Kept.lifecycle .setup) :
    layers.Pairwise (Apart call) :=
  (List.pairwise_map.1 h).imp fun h => ⟨h, fun hsetup => absurd hsetup hcall⟩

/-! ## Changes up to a failure -/

/-- A change is made at some layers one after the other, and each of them takes it. -/
inductive MadeAt (call : Call) : List (Store (StoreKind.Base Call)) → Storage → Storage → Prop where
  | nil (s : Storage) : MadeAt call [] s s
  | cons {layer : Store (StoreKind.Base Call)} {rest : List (Store (StoreKind.Base Call))}
    {reply : Interface.Reply call} {s t u : Storage} :
    layer.perform call s = (.ok reply, t) → MadeAt call rest t u → MadeAt call (layer :: rest) s u

/-- Whether a change was made at all layers, or at those before one that fails then, with the error
of that one.  This says nothing about what the layers share. -/
inductive MadeUpToFailure (call : Call) (layers : List (Store (StoreKind.Base Call)))
    (s : Storage) : Except StoreError (Interface.Reply call) × Storage → Prop where
  | all {reply : Interface.Reply call} {t : Storage} :
    MadeAt call layers s t → MadeUpToFailure call layers s (.ok reply, t)
  | stopped {before after : List (Store (StoreKind.Base Call))}
    {layer : Store (StoreKind.Base Call)} {e : StoreError} {t u : Storage} :
    layers = before ++ layer :: after → MadeAt call before s t →
      layer.perform call t = (.error e, u) → MadeUpToFailure call layers s (.error e, u)

/-- Whether a change that starts with some storage was made at the layers up to the first one that
fails, each of them taken by itself, and at no other layer. -/
structure ChangedUpToFailure (call : Call) (layers : List (Store (StoreKind.Base Call)))
    (s : Storage) (outcome : Except StoreError (Interface.Reply call) × Storage) : Prop where
  /-- The change succeeds exactly if no layer fails. -/
  ok_iff : (∃ reply, outcome.1 = .ok reply) ↔
    ∀ layer ∈ layers, ∃ reply, (layer.perform call s).1 = .ok reply
  /-- Otherwise it fails with the error of the first layer that does. -/
  error : ∀ before layer after e, layers = before ++ layer :: after →
    (∀ earlier ∈ before, ∃ reply, (earlier.perform call s).1 = .ok reply) →
      (layer.perform call s).1 = .error e → outcome.1 = .error e
  /-- The layers before the first failure are as if the change was made at each of them. -/
  changed : ∀ before layer after, layers = before ++ layer :: after →
    (∀ earlier ∈ before ++ [layer], ∃ reply, (earlier.perform call s).1 = .ok reply) →
      AlikeOn layer.footprint (layer.perform call s).2 outcome.2
  /-- The layers from the first failure on are as they were. -/
  unchanged : ∀ before layer after, layers = before ++ layer :: after →
    (∃ earlier ∈ before ++ [layer], ∃ e, (earlier.perform call s).1 = .error e) →
      AlikeOn layer.footprint s outcome.2

variable {layers : List (Store (StoreKind.Base Call))}

namespace ChangedUpToFailure

variable {first : Store (StoreKind.Base Call)}
  {outcome : Except StoreError (Interface.Reply call) × Storage}

/-- A layer that fails at once ends the change. -/
theorem of_error {e : StoreError} (hfails : (first.perform call s).1 = .error e)
    (hsame : ∀ layer ∈ first :: layers, AlikeOn layer.footprint s t) :
    ChangedUpToFailure call (first :: layers) s (.error e, t) := by
  have hnot : ¬∃ reply, (first.perform call s).1 = .ok reply := by
    rintro ⟨reply, hok⟩
    rw [hfails] at hok
    cases hok
  refine ⟨iff_of_false nofun fun h => hnot (h first List.mem_cons_self), ?_, ?_, ?_⟩
  · rintro (_ | ⟨_, before⟩) layer after e' hsplit hearlier herror
    · obtain ⟨rfl, -⟩ := List.cons.inj hsplit
      exact hfails.symm.trans herror
    · obtain ⟨rfl, -⟩ := List.cons.inj hsplit
      exact absurd (hearlier first List.mem_cons_self) hnot
  · intro before layer after hsplit hearlier
    refine absurd (hearlier first ?_) hnot
    cases before <;> obtain ⟨rfl, -⟩ := List.cons.inj hsplit <;> exact List.mem_cons_self
  · intro before layer after hsplit _
    refine hsame layer ?_
    rw [hsplit]
    exact List.mem_append_right _ List.mem_cons_self

/-- A layer that does not fail is changed, and the change goes on. -/
theorem cons {reply : Interface.Reply call} (hok : (first.perform call s).1 = .ok reply)
    (hfirst : AlikeOn first.footprint (first.perform call s).2 outcome.2)
    (hrest : ChangedUpToFailure call layers s outcome) :
    ChangedUpToFailure call (first :: layers) s outcome := by
  have hnot : ∀ e, (first.perform call s).1 ≠ .error e := by
    intro e hfails
    rw [hok] at hfails
    cases hfails
  refine ⟨?_, ?_, ?_, ?_⟩
  · rw [List.forall_mem_cons, hrest.ok_iff]
    exact ⟨fun h => ⟨⟨reply, hok⟩, h⟩, And.right⟩
  · rintro (_ | ⟨_, before⟩) layer after e hsplit hearlier herror
    · obtain ⟨rfl, -⟩ := List.cons.inj hsplit
      exact absurd herror (hnot e)
    · obtain ⟨rfl, hsplit'⟩ := List.cons.inj hsplit
      exact hrest.error before layer after e hsplit' (List.forall_mem_cons.1 hearlier).2 herror
  · rintro (_ | ⟨_, before⟩) layer after hsplit hearlier
    · obtain ⟨rfl, -⟩ := List.cons.inj hsplit
      exact hfirst
    · obtain ⟨rfl, hsplit'⟩ := List.cons.inj hsplit
      exact hrest.changed before layer after hsplit' (List.forall_mem_cons.1 hearlier).2
  · rintro (_ | ⟨_, before⟩) layer after hsplit ⟨earlier, hearlier, e, herror⟩
    · obtain ⟨rfl, -⟩ := List.cons.inj hsplit
      rw [List.mem_singleton.1 hearlier] at herror
      exact absurd herror (hnot e)
    · obtain ⟨rfl, hsplit'⟩ := List.cons.inj hsplit
      rcases List.mem_cons.1 hearlier with rfl | hearlier
      · exact absurd herror (hnot e)
      · exact hrest.unchanged before layer after hsplit' ⟨earlier, hearlier, e, herror⟩

end ChangedUpToFailure

/-- Layers that are run in turn are changed up to the first one that fails. -/
theorem madeUpToFailure_inTurn (call : Call) (layers : List (Store (StoreKind.Base Call)))
    (done : Interface.Reply call) (s : Storage) :
    MadeUpToFailure call layers s
      (Action.inTurn done (layers.map fun layer => layer.perform call) s) := by
  induction layers generalizing s with
  | nil => exact .all (.nil s)
  | cons first rest ih =>
    rw [List.map_cons, Action.inTurn, Action.bind_apply]
    rcases hrun : first.perform call s with ⟨outcome, t⟩
    cases outcome with
    | error e => exact .stopped (List.nil_append _).symm (.nil s) hrun
    | ok reply =>
      show MadeUpToFailure call (first :: rest) s
        (Action.inTurn done (rest.map fun layer => layer.perform call) t)
      have hmade := ih t
      generalize Action.inTurn done (rest.map fun layer => layer.perform call) t = ran at hmade ⊢
      cases hmade with
      | all hall => exact .all (.cons hrun hall)
      | stopped hsplit hbefore hfails =>
        exact .stopped (congrArg (first :: ·) hsplit) (.cons hrun hbefore) hfails

/-- Whether a store is a base store behind any number of guards. -/
def IsSingle {Base : Type} : Store Base → Bool
  | .base _ => true
  | .stack _ _ _ => false
  | .guarded _ inner => inner.IsSingle

/-! ## Calls that take their routes -/

variable [Routed Call]

/-- A call leaves stores alone that are apart from its own. -/
theorem Apart.alikeOn_perform (h : Apart call a b) (hroute : Routed.route call ≠ .exchange)
    (s : Storage) : AlikeOn b.footprint s (a.perform call s).2 := by
  refine perform_keeps_of_route hroute (fun t => AlikeOn b.footprint s t) ?_ (AlikeOn.refl _ s)
  intro base hbase t ht
  have hplace := place_mem_footprint hbase
  refine ht.trans (Routed.alikeOn_answer (fun part hpart hsame => ?_) ?_ t)
  · exact h.footprints hplace (hsame ▸ hpart)
  · intro hcall part hpart database hdatabase hsame
    exact h.databases hcall (List.mem_filterMap.2 ⟨_, hplace, hsame⟩)
      (List.mem_filterMap.2 ⟨part, hpart, hdatabase⟩)

/-- A base store behind any number of guards fails before it changes anything. -/
theorem perform_unchanged_of_error (hroute : Routed.route call ≠ .exchange)
    (hsingle : store.IsSingle = true) {e : StoreError}
    (h : (store.perform call s).1 = .error e) : (store.perform call s).2 = s := by
  induction store using Store.inductionOn with
  | base base =>
    rw [perform] at h ⊢
    exact Routed.answer_error h
  | stack name front lower ih => cases hsingle
  | guarded guard inner ih =>
    rw [perform_guarded hroute] at h ⊢
    by_cases hrefused : (s.cell guard).refuses (StoreKind.callName call) = true
    · rw [if_pos hrefused]
    · rw [if_neg hrefused] at h ⊢
      exact ih hsingle h

variable {done : Interface.Reply call}

/-- A change at some layers leaves a store alone that is apart from all of them. -/
theorem alikeOn_inTurn (hroute : Routed.route call ≠ .exchange)
    (h : ∀ layer ∈ layers, Apart call layer b) (s : Storage) :
    AlikeOn b.footprint s
      (Action.inTurn done (layers.map fun layer => layer.perform call) s).2 := by
  refine Action.inTurn_keeps (fun t => AlikeOn b.footprint s t) ?_ (AlikeOn.refl _ s)
  intro x hx t ht
  obtain ⟨layer, hlayer, rfl⟩ := List.mem_map.1 hx
  exact ht.trans ((h layer hlayer).alikeOn_perform hroute t)

/-- Layers that are apart are changed up to the first one that fails, whatever was done to other
stores before. -/
theorem changedUpToFailure_inTurn (hroute : Routed.route call ≠ .exchange)
    (apart : layers.Pairwise (Apart call))
    (whole : ∀ layer ∈ layers, ∀ e, (layer.perform call s).1 = .error e →
      AlikeOn layer.footprint s (layer.perform call s).2)
    (ht : ∀ layer ∈ layers, AlikeOn layer.footprint s t) :
    ChangedUpToFailure call layers s
      (Action.inTurn done (layers.map fun layer => layer.perform call) t) := by
  induction layers generalizing t with
  | nil =>
    refine ⟨iff_of_true ⟨done, rfl⟩ nofun, ?_, ?_, ?_⟩ <;>
      intro before layer after <;> simp
  | cons first rest ih =>
    obtain ⟨hfirstApart, hrestApart⟩ := List.pairwise_cons.1 apart
    obtain ⟨hfirst, hrest⟩ := List.forall_mem_cons.1 ht
    obtain ⟨hresult, hafter⟩ := perform_alikeOn (List.Subset.refl _) hfirst call
    have hrest' : ∀ layer ∈ rest, AlikeOn layer.footprint s (first.perform call t).2 :=
      fun layer hlayer => (hrest layer hlayer).trans
        ((hfirstApart layer hlayer).alikeOn_perform hroute t)
    rw [List.map_cons, Action.inTurn, Action.bind_apply]
    rcases hrun : first.perform call t with ⟨outcome, t'⟩
    rw [hrun] at hresult hafter hrest'
    cases outcome with
    | error e =>
      exact .of_error hresult (List.forall_mem_cons.2
        ⟨(whole first List.mem_cons_self e hresult).trans hafter, hrest'⟩)
    | ok reply =>
      refine .cons hresult ?_ (ih hrestApart
        (fun layer hlayer => whole layer (List.mem_cons_of_mem _ hlayer)) hrest')
      exact hafter.trans
        (alikeOn_inTurn hroute (fun layer hlayer => (hfirstApart layer hlayer).symm) t')

/-- A change to a stack is made at the layers before the first one that fails, with the error of
that one.  If the layers are apart, and fail before they change anything, each of the layers before
is as if the change was made there alone, and the others are as they were.  A read from a stack
changes nothing, and is answered by the first layer that fails or has a hit. -/
theorem perform_stack_outcome (name : String) (front : Store (StoreKind.Base Call))
    (lower : List (Store (StoreKind.Base Call))) (call : Call) (s : Storage) :
    (∀ done, Routed.route call = .change done →
      MadeUpToFailure call (front :: lower) s (perform (.stack name front lower) call s) ∧
      ((front :: lower).Pairwise (Apart call) →
        (∀ layer ∈ front :: lower, ∀ e, (layer.perform call s).1 = .error e →
          AlikeOn layer.footprint s (layer.perform call s).2) →
        ChangedUpToFailure call (front :: lower) s (perform (.stack name front lower) call s))) ∧
      ∀ isHit miss, Routed.route call = .read isHit miss →
        perform (.stack name front lower) call s =
          ((((front :: lower).map fun layer => (layer.perform call s).1).find?
            (Action.settles isHit)).getD (.ok miss), s) := by
  constructor
  · intro done hroute
    rw [perform_change hroute]
    have hne := CallRoute.ne_exchange_of_change hroute
    exact ⟨madeUpToFailure_inTurn call _ done s, fun apart whole =>
      changedUpToFailure_inTurn hne apart whole fun layer _ => AlikeOn.refl _ s⟩
  · intro isHit miss hroute
    exact perform_read hroute name front lower s

/-- A guard refuses updates before the middle one of three layers: a record that is stored gets
into the front layer only.  A record that the middle layer has is found there. -/
theorem perform_stack_outcome_guarded :
    let oid : Oid := ⟨"a", by decide⟩
    let other : Oid := ⟨"b", by decide⟩
    let fields : Fields := .ofList [("age", .int 7)]
    let update : RecordUpdate := (Record.loaded oid fields).pendingUpdate
    let front : RecordStore := .base (.memory "front" ⟨0⟩)
    let middle : RecordStore := .guarded ⟨0⟩ (.base (.memory "middle" ⟨1⟩))
    let back : RecordStore := .base (.relational "back" ⟨0⟩)
    let stack : RecordStore := .stack "users" front [middle, back]
    let s : Storage :=
      { records := ⟨#[∅, (∅ : RecordTable).insert other fields]⟩
        databases := ⟨#[{ ready := true }]⟩
        guards := ⟨#[{ refused := ["apply"] }]⟩ }
    ChangedUpToFailure (RecordCall.apply update) [front, middle, back] s
        (stack.perform (.apply update) s) ∧
      (stack.perform (.apply update) s).1 = .error (.storage (.down "middle" "apply")) ∧
      stack.perform (.get other) s = (.ok (some (Record.loaded other fields)), s) := by
  intro oid other fields update front middle back stack s
  have hfront : (front.perform (.apply update) s).1 = .ok () := rfl
  have hmiddle : (middle.perform (.apply update) s).1 =
      .error (.storage (.down "middle" "apply")) := rfl
  have hfound : ([front, middle, back].map fun layer => (layer.perform (.get other) s).1).find?
      (Action.settles Option.isSome) =
        (some (.ok (some (Record.loaded other fields))) :
          Option (Except StoreError (Option Record))) := by
    decide +kernel
  have hsingle : ∀ layer ∈ [front, middle, back], layer.IsSingle = true := by decide
  obtain ⟨hchange, -⟩ := perform_stack_outcome "users" front [middle, back]
    (RecordCall.apply update) s
  obtain ⟨-, hread⟩ := perform_stack_outcome "users" front [middle, back]
    (RecordCall.get other) s
  have hchanged := (hchange () rfl).2 ?_ fun layer hlayer e he => ?_
  · refine ⟨hchanged, ?_, (hread Option.isSome none rfl).trans (Prod.ext ?_ rfl)⟩
    · exact hchanged.error [front] middle [back] _ rfl
        (fun earlier hearlier => List.mem_singleton.1 hearlier ▸ ⟨(), hfront⟩) hmiddle
    · exact congrArg (·.getD (.ok none)) hfound
  · refine pairwise_apart ?_ nofun
    show [[StoragePart.records (.inMemory ⟨0⟩)], [.records (.inMemory ⟨1⟩)],
      [.records (.inDatabase ⟨0⟩ "back")]].Pairwise List.Disjoint
    simp
  · have hroute : Routed.route (RecordCall.apply update) ≠ .exchange := nofun
    rw [perform_unchanged_of_error hroute (hsingle layer hlayer) he]
    exact AlikeOn.refl _ s

end Store

end TieredStore
