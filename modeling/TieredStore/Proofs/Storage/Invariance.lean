import TieredStore.Proofs.Stack.LookUps

/-!
# What the calls to a store keep

A call to a store becomes calls to its base stores, whatever its shape is.  So a relation between
two storages that all base stores keep, and that all guards of the store see alike, is kept by the
store, which answers alike on both; and what all base stores keep of one storage the store keeps.
Only some calls need to be considered if these become calls of the same kind in every stack.

Main results:

- Theorem `Store.perform_related`: storages that base stores answer alike are answered alike by
  the whole store.
- Theorem `Store.perform_keeps`: what base stores keep of the storage is kept by the store.
- Theorems `RecordCall.closed` and `EntryCall.closed`: a call that is no compare-and-set becomes the
  same call at every layer, and no rival goes before it.
-/

namespace TieredStore

/-! ## Programs that make calls of one kind -/

namespace Program

variable {Call : Type} [Interface Call] {α β σ τ : Type} {allowed : Call → Prop}

/-- Whether all calls that a program makes are of some kind, whatever the replies are. -/
def Makes (allowed : Call → Prop) : Program Call α → Prop
  | .done _ => True
  | .fail _ => True
  | .ask call resume => allowed call ∧ ∀ reply, Makes allowed (resume reply)

/-- All programs make calls of any kind. -/
theorem makes_any (p : Program Call α) : p.Makes fun _ => True := by
  induction p with
  | done a => trivial
  | fail e => trivial
  | ask call resume ih => exact ⟨trivial, ih⟩

/-- A single call of a kind. -/
theorem makes_ofCall {call : Call} (h : allowed call) : (Program.ofCall call).Makes allowed :=
  ⟨h, fun _ => trivial⟩

/-- Programs in a row make the calls of both. -/
theorem Makes.bind {p : Program Call α} {f : α → Program Call β} (hp : p.Makes allowed)
    (hf : ∀ a, (f a).Makes allowed) : (p >>= f).Makes allowed := by
  induction p with
  | done a => exact hf a
  | fail e => trivial
  | ask call resume ih => exact ⟨hp.1, fun reply => ih reply (hp.2 reply)⟩

/-- Calls of a kind are calls of a wider kind. -/
theorem Makes.mono {wider : Call → Prop} {p : Program Call α} (hp : p.Makes allowed)
    (h : ∀ call, allowed call → wider call) : p.Makes wider := by
  induction p with
  | done a => trivial
  | fail e => trivial
  | ask call resume ih => exact ⟨h call hp.1, fun reply => ih reply (hp.2 reply)⟩

/-- At a place a program makes the same calls. -/
theorem Makes.at {Place : Type} {p : Program Call α} (hp : p.Makes allowed) (place : Place) :
    (p.at place).Makes fun request => allowed request.call := by
  induction p with
  | done a => trivial
  | fail e => trivial
  | ask call resume ih => exact ⟨hp.1, fun reply => ih reply (hp.2 reply)⟩

/-- A program has one result on states that answer its calls alike, and leaves states that do. -/
theorem run_related_of_makes {first : Handler Call σ} {second : Handler Call τ}
    {Related : σ → τ → Prop}
    (step : ∀ call s t, allowed call → Related s t →
      (first call s).1 = (second call t).1 ∧ Related (first call s).2 (second call t).2)
    {p : Program Call α} (hp : p.Makes allowed) {s : σ} {t : τ} (h : Related s t) :
    (p.run first s).1 = (p.run second t).1 ∧ Related (p.run first s).2 (p.run second t).2 := by
  induction p generalizing s t with
  | done a => exact ⟨rfl, h⟩
  | fail e => exact ⟨rfl, h⟩
  | ask call resume ih =>
    have hstep := step call s t hp.1 h
    rw [run_ask, run_ask, Action.bind_apply, Action.bind_apply]
    rcases hfirst : first call s with ⟨result, s'⟩
    rcases hsecond : second call t with ⟨result', t'⟩
    rw [hfirst, hsecond] at hstep
    obtain ⟨rfl, hrelated⟩ := hstep
    cases result with
    | ok reply => exact ih reply (hp.2 reply) hrelated
    | error e => exact ⟨rfl, hrelated⟩

end Program

namespace Stack

variable {Place Call : Type} [Interface Call] {allowed : Call → Prop}

/-- A change makes the same calls at every layer. -/
theorem makes_fanOut {p : Program Call Unit} (hp : p.Makes allowed) (places : List Place) :
    (fanOut p places).Makes fun request => allowed request.call := by
  induction places with
  | nil => trivial
  | cons place rest ih => exact (hp.at place).bind fun _ => ih

/-- So does a look for a hit. -/
theorem makes_firstHit {α : Type} {p : Program Call (Option α)} (hp : p.Makes allowed)
    (places : List Place) : (firstHit p places).Makes fun request => allowed request.call := by
  induction places with
  | nil => trivial
  | cons place rest ih =>
    refine (hp.at place).bind fun hit => ?_
    cases hit with
    | some a => trivial
    | none => exact ih

/-- So does a look for a list that is not empty. -/
theorem makes_firstNonEmpty {α : Type} {p : Program Call (List α)} (hp : p.Makes allowed)
    (places : List Place) :
    (firstNonEmpty p places).Makes fun request => allowed request.call := by
  induction places with
  | nil => trivial
  | cons place rest ih =>
    refine (hp.at place).bind fun found => ?_
    cases hfound : found.isEmpty with
    | true => exact ih
    | false => trivial

end Stack

/-! ## Kinds of calls -/

/-- Whether calls of some kind become calls of that kind in a stack, and are preceded only by calls
of that kind. -/
structure StoreKind.Closed {Call : Type} [Interface Call] [StoreKind Call]
    (allowed : Call → Prop) : Prop where
  layers : ∀ lower call, allowed call →
    (StoreKind.throughLayers lower call).Makes fun request => allowed request.call
  rival : ∀ value call rival, allowed call → StoreKind.rivalCall value call = some rival →
    allowed rival

/-- All calls are one kind. -/
theorem StoreKind.closed_any {Call : Type} [Interface Call] [StoreKind Call] :
    StoreKind.Closed fun _ : Call => True :=
  ⟨fun lower call _ => (StoreKind.throughLayers lower call).makes_any, fun _ _ _ _ _ => trivial⟩

namespace RecordCall

/-- A call is passed on to the layers as it is. -/
theorem makes_throughLayers (call : RecordCall) (places : List Nat) :
    (Stack.throughRecordLayers places call).Makes fun request => request.call = call := by
  have hone : (Program.ofCall call).Makes (· = call) := Program.makes_ofCall rfl
  cases call with
  | lifecycle op => exact Stack.makes_fanOut hone places
  | apply update => exact Stack.makes_fanOut hone places
  | remove oid => exact Stack.makes_fanOut hone places
  | get oid => exact Stack.makes_firstHit hone places
  | keys => exact Stack.makes_firstNonEmpty hone places
  | query q => exact Stack.makes_firstNonEmpty hone places

/-- A call becomes the same call at every layer, and no rival goes before it. -/
theorem closed (call : RecordCall) : StoreKind.Closed (· = call) where
  layers lower _ h := h ▸ makes_throughLayers call (Stack.places lower)
  rival _ _ _ _ h := nomatch h

end RecordCall

namespace EntryCall

variable {V : Type} [DecidableEq V] {call : EntryCall V}

/-- A call other than a compare-and-set is passed on to the layers as it is. -/
theorem makes_throughLayers (h : ∀ key expect update, call ≠ .compareAndSet key expect update)
    (front : Nat) (lower : List Nat) :
    (Stack.throughEntryLayers front lower call).Makes fun request => request.call = call := by
  have hone : (Program.ofCall call).Makes (· = call) := Program.makes_ofCall rfl
  cases call with
  | lifecycle op => exact Stack.makes_fanOut hone (front :: lower)
  | get key => exact Stack.makes_firstHit hone (front :: lower)
  | put key value ttl => exact Stack.makes_fanOut hone (front :: lower)
  | expire key time => exact Stack.makes_fanOut hone (front :: lower)
  | keys value => exact Stack.makes_firstNonEmpty hone (front :: lower)
  | compareAndSet key expect update => exact absurd rfl (h key expect update)

/-- It becomes the same call at every layer, and no rival goes before it. -/
theorem closed [Stored (EntryTable V)] [EntryValue V]
    (h : ∀ key expect update, call ≠ .compareAndSet key expect update) :
    StoreKind.Closed (· = call) where
  layers lower _ hcall := hcall ▸ makes_throughLayers h 0 (Stack.lowerPlaces lower)
  rival value called rival hcall hrival := by
    subst hcall
    cases called with
    | compareAndSet key expect update => exact absurd rfl (h key expect update)
    | _ => cases hrival

end EntryCall

/-! ## Stores of any shape -/

namespace Store

variable {Call Table : Type} [Interface Call] [StoreKind Call] [Inhabited Table] [Stored Table]
  [MemoryKind Call Table] [PartKind Call Table] {allowed : Call → Prop}

/-- Some layer of a stack answers the calls to a place. -/
theorem exists_performAt (front : Store (StoreKind.Base Call))
    (lower : List (Store (StoreKind.Base Call))) (place : Nat) :
    ∃ layer ∈ front :: lower, ∀ call : Call,
      performAt front lower ⟨place, call⟩ = layer.perform call := by
  have hbelow : ∀ (lower : List (Store (StoreKind.Base Call))) (place : Nat),
      ∃ layer ∈ front :: lower, ∀ call : Call,
        performBelow (perform front) lower place call = layer.perform call := by
    intro lower
    induction lower with
    | nil =>
      intro place
      exact ⟨front, List.mem_cons_self, fun call => by rw [performBelow]⟩
    | cons first rest ih =>
      intro place
      cases place with
      | zero =>
        exact ⟨first, List.mem_cons_of_mem _ List.mem_cons_self, fun call => by rw [performBelow]⟩
      | succ place =>
        obtain ⟨layer, hlayer, hperform⟩ := ih place
        refine ⟨layer, ?_, fun call => by rw [performBelow, hperform]⟩
        rcases List.mem_cons.1 hlayer with rfl | hrest
        · exact List.mem_cons_self
        · exact List.mem_cons_of_mem _ (List.mem_cons_of_mem _ hrest)
  cases place with
  | zero => exact ⟨front, List.mem_cons_self, fun _ => rfl⟩
  | succ place => exact hbelow lower place

/-- Whether two storages that are related look alike to all base stores and all guards of a store,
as far as calls of some kind go. -/
structure Respects (allowed : Call → Prop) (Related : Storage → Storage → Prop)
    (store : Store (StoreKind.Base Call)) : Prop where
  base : ∀ base, PartKind.part base ∈ store.parts → ∀ call s t, allowed call → Related s t →
    (StoreKind.answer base call s).1 = (StoreKind.answer base call t).1 ∧
      Related (StoreKind.answer base call s).2 (StoreKind.answer base call t).2
  guard : ∀ guard ∈ store.guards, ∀ s t, Related s t → s.cell guard = t.cell guard
  /-- A rival is used up on both sides. -/
  rival : ∀ guard ∈ store.guards, ∀ value call rival, allowed call →
    StoreKind.rivalCall value call = some rival → ∀ settings s t, Related s t →
      Related (s.setCell guard settings) (t.setCell guard settings)

variable {Related : Storage → Storage → Prop}

/-- What a stack respects its layers respect. -/
theorem Respects.layer {name : String} {front layer : Store (StoreKind.Base Call)}
    {lower : List (Store (StoreKind.Base Call))}
    (h : Respects allowed Related (.stack name front lower)) (hlayer : layer ∈ front :: lower) :
    Respects allowed Related layer where
  base base hpart := h.base base (by
    rw [parts_stack]
    exact List.mem_flatMap.2 ⟨layer, hlayer, hpart⟩)
  guard guard hguard := h.guard guard (by
    rw [guards_stack]
    exact List.mem_flatMap.2 ⟨layer, hlayer, hguard⟩)
  rival guard hguard := h.rival guard (by
    rw [guards_stack]
    exact List.mem_flatMap.2 ⟨layer, hlayer, hguard⟩)

/-- What a guarded store respects is respected by the store behind the guard. -/
theorem Respects.inner {guard : Ref Guard} {inner : Store (StoreKind.Base Call)}
    (h : Respects allowed Related (.guarded guard inner)) : Respects allowed Related inner where
  base base hpart := h.base base (by rwa [parts])
  guard other hother := h.guard other (by
    rw [guards]
    exact List.mem_cons_of_mem _ hother)
  rival other hother := h.rival other (by
    rw [guards]
    exact List.mem_cons_of_mem _ hother)

/-- Storages that base stores and guards do not tell apart are answered alike by the whole store,
and stay so. -/
theorem perform_related (closed : StoreKind.Closed allowed) {store : Store (StoreKind.Base Call)}
    (h : Respects allowed Related store) {call : Call} (hcall : allowed call) {s t : Storage}
    (hst : Related s t) :
    (store.perform call s).1 = (store.perform call t).1 ∧
      Related (store.perform call s).2 (store.perform call t).2 := by
  induction store using Store.inductionOn generalizing call s t with
  | base store =>
    rw [perform]
    refine h.base store ?_ call s t hcall hst
    rw [parts]
    exact List.mem_singleton_self _
  | stack name front lower ih =>
    rw [perform_stack]
    refine Program.run_related_of_makes ?_ (closed.layers lower.length call hcall) hst
    rintro ⟨place, request⟩ s t hrequest hst
    obtain ⟨layer, hlayer, hperform⟩ := exists_performAt front lower place
    rw [hperform]
    exact ih layer hlayer (h.layer hlayer) hrequest hst
  | guarded guard inner ih =>
    have hguard : guard ∈ (Store.guarded guard inner).guards := by
      rw [guards]
      exact List.mem_cons_self
    rw [perform, throughGuard_apply, throughGuard_apply, h.guard guard hguard s t hst]
    split
    · exact ⟨rfl, hst⟩
    · split
      · exact ih h.inner hcall hst
      · rename_i rival hrival
        obtain ⟨value, -, hvalue⟩ := Option.bind_eq_some_iff.1 hrival
        have hfirst := ih h.inner (closed.rival value call rival hcall hvalue)
          (h.rival guard hguard value call rival hcall hvalue
            { t.cell guard with rival := none } s t hst)
        rw [Action.bind_apply, Action.bind_apply]
        rcases hs : inner.perform rival _ with ⟨result, s'⟩
        rcases ht : inner.perform rival (t.setCell guard _) with ⟨result', t'⟩
        rw [hs, ht] at hfirst
        obtain ⟨rfl, hrelated⟩ := hfirst
        cases result with
        | ok reply => exact ih h.inner hcall hrelated
        | error e => exact ⟨rfl, hrelated⟩

/-- What base stores keep of the storage, and the use of a rival keeps, is kept by the store. -/
theorem perform_keeps (Inv : Storage → Prop) (closed : StoreKind.Closed allowed)
    {store : Store (StoreKind.Base Call)}
    (base : ∀ base, PartKind.part base ∈ store.parts → ∀ call s, allowed call → Inv s →
      Inv (StoreKind.answer base call s).2)
    (rival : ∀ guard ∈ store.guards, ∀ value call rival, allowed call →
      StoreKind.rivalCall value call = some rival → ∀ settings s, Inv s →
        Inv (s.setCell guard settings))
    {call : Call} (hcall : allowed call) {s : Storage} (hs : Inv s) :
    Inv (store.perform call s).2 := by
  have hrespects : Respects allowed (fun s t => s = t ∧ Inv s) store := by
    refine ⟨?_, ?_, ?_⟩
    · rintro b hpart c s t hc ⟨rfl, hs⟩
      exact ⟨rfl, rfl, base b hpart c s hc hs⟩
    · rintro guard - s t ⟨rfl, -⟩
      rfl
    · rintro guard hguard value c r hc hr settings s t ⟨rfl, hs⟩
      exact ⟨rfl, rival guard hguard value c r hc hr settings s hs⟩
  exact (perform_related closed hrespects hcall ⟨rfl, hs⟩).2.2

/-- What all calls keep is kept by programs. -/
theorem run_keeps (Inv : Storage → Prop) {store : Store (StoreKind.Base Call)}
    (h : ∀ (call : Call) s, Inv s → Inv (store.perform call s).2) {α : Type}
    (p : Program Call α) {s : Storage} (hs : Inv s) : Inv (p.run store.perform s).2 := by
  have hstep : ∀ (call : Call) (s t : Storage), s = t ∧ Inv s →
      (store.perform call s).1 = (store.perform call t).1 ∧
        (store.perform call s).2 = (store.perform call t).2 ∧ Inv (store.perform call s).2 := by
    rintro call s t ⟨rfl, hs⟩
    exact ⟨rfl, rfl, h call s hs⟩
  exact (Program.run_related hstep p ⟨rfl, hs⟩).2.2

end Store

end TieredStore
