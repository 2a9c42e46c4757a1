import TieredStore.Proofs.Stack.Routes
import TieredStore.Proofs.Storage.Saving

/-!
# Saves that are tried again

A save through a stack may stop at any layer.  The layers before it have the record then, as a whole
or changed by what was staged, and the others have what they had.  The record keeps what it has
staged, so the next save sends at least the same changes again, together with those that were made
in the meantime.  A delta that a layer has got before changes nothing there, so after any number of
failures every layer either has nothing, or is brought to the fields of the record by what is
staged.  The first save that goes through makes all layers equal to the record.

Main results:

- Theorem `RecordStore.recordAt_perform_apply`: a save that stops half way leaves every base store
  as it was, or with the record.
- Theorem `SaveHistory.follows`: whatever was tried before, each base store has nothing or is
  brought to the fields of the record by what it has staged.
- Theorem `SaveHistory.save_outcome`: what a save comes to that fails, and one that goes through.
-/

namespace TieredStore

/-- A delta that is applied once more changes nothing. -/
theorem Fields.applyDelta_applyDelta (delta target : Fields) :
    delta.applyDelta (delta.applyDelta target) = delta.applyDelta target := by
  refine SortedMap.ext_get? fun field => ?_
  rw [get?_applyDelta, get?_applyDelta]
  cases delta.get? field <;> rfl

/-! ## Records and their copies -/

namespace Record

variable {base : RecordBase} {r : Record} {s s' : Storage}

/-- The fields of a record have no nulls, and have what is staged. -/
structure Consistent (r : Record) : Prop where
  present : r.fields.present = r.fields
  staged : r.staged.applyDelta r.fields = r.fields

/-- A change is made to the fields and staged. -/
theorem Consistent.edit (h : r.Consistent) (e : RecordEdit) : (r.edit e).Consistent where
  present := present_edit h.present e
  staged := by rw [fields_edit h.staged.symm e, Fields.applyDelta_applyDelta]

/-- A record that was stored or loaded has nothing staged. -/
theorem IsLoaded.consistent (h : r.IsLoaded) : r.Consistent where
  present := h.present
  staged := by
    rw [h.staged]
    rfl

/-- A record follows a base store if it tracks what is stored there.  In a database that is not set
up there is nothing to track. -/
structure Follows (base : RecordBase) (r : Record) (s : Storage) : Prop where
  held : base.IsHeld s
  tracks : (RecordPart.ofBase base).IsSetUp s → r.Tracks base s

/-- The record that its owner has after trying to save it. -/
def afterSave (r : Record) : Except StoreError Record → Record
  | .ok saved => saved
  | .error _ => r

end Record

namespace RecordBase

variable {base other : RecordBase} {r : Record} {s s' : Storage} {oid : Oid}
  {update : RecordUpdate}

/-- A base store that is set up stores updates. -/
theorem answer_apply_of_isSetUp (hsetUp : (RecordPart.ofBase base).IsSetUp s)
    (update : RecordUpdate) : (base.answer (.apply update) s).1 = .ok () := by
  cases base with
  | memory name table => rfl
  | relational name database => rw [answer_apply_relational hsetUp]

/-- A base store that has stored an update was set up. -/
theorem isSetUp_of_answer_apply (hok : (base.answer (.apply update) s).1 = .ok ()) :
    (RecordPart.ofBase base).IsSetUp s := by
  cases base with
  | memory name table => trivial
  | relational name database =>
    cases hready : (s.cell database).ready with
    | true => exact hready
    | false =>
      rw [answer_apply_of_not_ready hready] at hok
      cases hok

/-- An update that is sent to some base store leaves what another one has, or is stored there. -/
theorem apply_cases (base other : RecordBase) (update : RecordUpdate) (s : Storage) :
    Storage.AlikeOn [.records (.ofBase base)] s (other.answer (.apply update) s).2 ∨
      (RecordPart.ofBase other = RecordPart.ofBase base ∧
        (other.answer (.apply update) s).1 = .ok ()) := by
  by_cases hpart : RecordPart.ofBase other = RecordPart.ofBase base
  · cases hresult : (other.answer (.apply update) s).1 with
    | error e =>
      rw [answer_of_error hresult]
      exact .inl (.refl _ s)
    | ok u => exact .inr ⟨hpart, rfl⟩
  · have hne : RecordCall.apply update ≠ Kept.lifecycle .setup := nofun
    refine .inl (Routed.alikeOn_answer (fun part hmem hsame => hpart ?_) (fun h => absurd h hne) s)
    exact StoragePart.records.inj (hsame.symm.trans (List.mem_singleton.1 hmem))

/-- Look-ups at a base store give the same if it has the same. -/
theorem recordAt_of_alikeOn (h : Storage.AlikeOn [.records (.ofBase base)] s s') (oid : Oid) :
    base.recordAt s' oid = base.recordAt s oid :=
  (alikeOn_answer (List.mem_singleton_self _) (.get oid) h).1.symm

/-- An update of a record that is stored at a base store leaves the record there. -/
theorem recordAt_apply_of_part (h : r.Follows base s)
    (hpart : RecordPart.ofBase other = RecordPart.ofBase base)
    (hok : (other.answer (.apply r.pendingUpdate) s).1 = .ok ()) :
    base.recordAt (other.answer (.apply r.pendingUpdate) s).2 r.oid = .ok (some r.markSaved) := by
  rw [answer_eq_of_part hpart] at hok ⊢
  exact (h.tracks (isSetUp_of_answer_apply hok)).recordAt_apply hok

/-- An update of a record that is sent to some base store leaves what a look-up gives at another
one, or it is the record. -/
theorem recordAt_apply_cases (h : r.Follows base s) (other : RecordBase) :
    base.recordAt (other.answer (.apply r.pendingUpdate) s).2 r.oid = base.recordAt s r.oid ∨
      base.recordAt (other.answer (.apply r.pendingUpdate) s).2 r.oid = .ok (some r.markSaved) :=
  (apply_cases base other r.pendingUpdate s).imp (fun halike => recordAt_of_alikeOn halike r.oid)
    fun hstored => recordAt_apply_of_part h hstored.1 hstored.2

/-- So the record has the fields that are stored, changed by what it has staged, after the update
as before. -/
theorem follows_apply (h : r.Follows base s) (hr : r.Consistent) (other : RecordBase) :
    r.Follows base (other.answer (.apply r.pendingUpdate) s).2 where
  held := isHeld_answer base other _ h.held
  tracks hsetUp := by
    refine ⟨isHeld_answer base other _ h.held, hr.present, fun hpersisted => ?_⟩
    rcases apply_cases base other r.pendingUpdate s with halike | ⟨hpart, hok⟩
    · rw [recordAt_of_alikeOn halike]
      have hbefore := (halike.setUp _ (List.mem_singleton_self _)).1 hsetUp
      exact (h.tracks hbefore).stored hpersisted
    · exact .inr ⟨r.markSaved, recordAt_apply_of_part h hpart hok, hr.staged.symm⟩

/-- What others may do in the meantime: nobody writes the record, and a database that is set up has
no copy of it at first. -/
structure Spared (base : RecordBase) (oid : Oid) (s s' : Storage) : Prop where
  unwritten : base.Unwritten oid s s'
  setUp : ¬(RecordPart.ofBase base).IsSetUp s → (RecordPart.ofBase base).IsSetUp s' →
    base.recordAt s' oid = .ok none

/-- Guards may be told anything. -/
theorem spared_guards (base : RecordBase) (oid : Oid) (s : Storage) (guards : Heap Guard) :
    base.Spared oid s { s with guards } := by
  cases base with
  | memory name table => exact ⟨⟨id, fun _ => .inl⟩, fun hbefore => absurd trivial hbefore⟩
  | relational name database => exact ⟨⟨id, fun _ => .inl⟩, fun h h' => absurd h' h⟩

end RecordBase

namespace Record.Follows

variable {base : RecordBase} {r : Record} {s s' : Storage}

/-- A stored record follows its base store. -/
theorem of_recordAt (h : base.recordAt s r.oid = .ok (some r)) : r.Follows base s where
  held := RecordBase.isHeld_of_stored h
  tracks _ := .of_recordAt h

/-- A change keeps the fields in step with what is staged. -/
theorem edit (h : r.Follows base s) (e : RecordEdit) : (r.edit e).Follows base s where
  held := h.held
  tracks hsetUp := (h.tracks hsetUp).edit e

/-- What others do in the meantime changes nothing about it. -/
theorem spared (h : r.Follows base s) (hr : r.Consistent) (hothers : base.Spared r.oid s s') :
    r.Follows base s' where
  held := hothers.unwritten.held h.held
  tracks hsetUp := by
    by_cases hbefore : (RecordPart.ofBase base).IsSetUp s
    · exact (h.tracks hbefore).unwritten hothers.unwritten
    · exact ⟨hothers.unwritten.held h.held, hr.present,
        fun _ => .inl (hothers.setUp hbefore hsetUp)⟩

end Record.Follows

/-! ## Updates through stores of any shape -/

namespace RecordStore

variable {store : RecordStore} {r : Record} {s : Storage} {base : RecordBase}

/-- Whether a record follows every base store behind a store. -/
def IsFollowed (store : RecordStore) (r : Record) (s : Storage) : Prop :=
  ∀ base, RecordPart.ofBase base ∈ RecordStore.parts store → r.Follows base s

/-- An update, wherever it stops, leaves a record following all base stores. -/
theorem IsFollowed.perform_apply (h : store.IsFollowed r s) (hr : r.Consistent) :
    store.IsFollowed r (store.perform (.apply r.pendingUpdate) s).2 :=
  Store.perform_keeps_of_route (RecordCall.route_ne_exchange _) (fun t => store.IsFollowed r t)
    (fun other _ _ ht base hbase => RecordBase.follows_apply (ht base hbase) hr other) h

/-- An update that stops half way leaves every base store as it was, or with the record. -/
theorem recordAt_perform_apply (h : store.IsFollowed r s) (hr : r.Consistent)
    (hbase : RecordPart.ofBase base ∈ RecordStore.parts store) :
    base.recordAt (store.perform (.apply r.pendingUpdate) s).2 r.oid = base.recordAt s r.oid ∨
      base.recordAt (store.perform (.apply r.pendingUpdate) s).2 r.oid =
        .ok (some r.markSaved) := by
  refine (Store.perform_keeps_of_route (RecordCall.route_ne_exchange _)
    (fun t => store.IsFollowed r t ∧ (base.recordAt t r.oid = base.recordAt s r.oid ∨
      base.recordAt t r.oid = .ok (some r.markSaved))) ?_ ⟨h, .inl rfl⟩).2
  rintro other - t ⟨ht, hcopy⟩
  refine ⟨fun b hb => RecordBase.follows_apply (ht b hb) hr other, ?_⟩
  rcases RecordBase.recordAt_apply_cases (ht base hbase) other with hsame | hsaved
  · exact hcopy.imp hsame.trans hsame.trans
  · exact .inr hsaved

/-- An update that goes through leaves all base stores with the record. -/
theorem recordAt_of_perform_apply (h : store.IsFollowed r s) (hr : r.Consistent)
    (hok : (store.perform (.apply r.pendingUpdate) s).1 = .ok ())
    (hbase : RecordPart.ofBase base ∈ RecordStore.parts store) :
    base.recordAt (store.perform (.apply r.pendingUpdate) s).2 r.oid = .ok (some r.markSaved) := by
  have hroute : Routed.route (RecordCall.apply r.pendingUpdate) = .change () := rfl
  refine Store.change_establishes hroute (fun t => store.IsFollowed r t)
    (fun part t => ∀ base : RecordBase, RecordPart.ofBase base = part →
      RecordPart.ofBase base ∈ RecordStore.parts store →
        base.recordAt t r.oid = .ok (some r.markSaved))
    (fun other hother t ht => ⟨?_, ?_, ?_⟩) h ⟨(), hok⟩ _ hbase base rfl hbase
  · exact fun b hb => RecordBase.follows_apply (ht b hb) hr other
  · rintro ⟨reply, hreply⟩ b hpart hb
    exact RecordBase.recordAt_apply_of_part (ht b hb) hpart.symm hreply
  · intro part hgood b hpart hb
    exact (RecordBase.recordAt_apply_cases (ht b hb) other).elim
      (fun hsame => hsame.trans (hgood b hpart hb)) id

/-- An update goes through if no guard refuses it and all databases are set up. -/
theorem perform_apply_succeeds (update : RecordUpdate)
    (hguards : ∀ guard ∈ store.guards, (s.cell guard).refuses "apply" = false)
    (hsetUp : ∀ part ∈ RecordStore.parts store, RecordPart.IsSetUp s part) :
    (store.perform (.apply update) s).1 = .ok () := by
  have hroute : Routed.route (RecordCall.apply update) = .change () := rfl
  have hsucceeds : Action.Succeeds (fun t => t.guards = s.guards ∧
      ∀ part ∈ RecordStore.parts store, RecordPart.IsSetUp t part)
      (store.perform (.apply update)) := by
    refine Store.change_succeeds hroute (fun t ht guard hguard => ?_) fun base hbase t ht => ?_
    · show ((t.guards.get guard).refuses "apply") = false
      rw [ht.1]
      exact hguards guard hguard
    · exact ⟨(), RecordBase.answer_apply_of_isSetUp (ht.2 _ hbase) update,
        (PartKind.guards_answer base _ t).trans ht.1, fun part hpart =>
          (RecordBase.spares_answer base _ t).setUp (.records part) (ht.2 part hpart)⟩
  obtain ⟨reply, hreply, -⟩ := hsucceeds s ⟨rfl, hsetUp⟩
  exact hreply

end RecordStore

/-! ## What is tried with a record -/

/-- A record and the storage after any run of changes to the record and of attempts to save it
through a store, each of which may stop half way.  The record is a new one, or was loaded with
fields that each base store behind the store has for it, if it is set up and has any.  In the
meantime nobody else writes the record, but guards may be told what to refuse, databases may be set
up, and the record may be removed. -/
inductive SaveHistory (store : RecordStore) : Record → Storage → Prop where
  | fresh (oid : Oid) {s : Storage} :
    (∀ base, RecordPart.ofBase base ∈ RecordStore.parts store → base.IsHeld s) →
      SaveHistory store (Record.create oid) s
  | loaded (oid : Oid) (fields : Fields) {s : Storage} :
    (∀ base, RecordPart.ofBase base ∈ RecordStore.parts store → base.IsHeld s ∧
      ((RecordPart.ofBase base).IsSetUp s → base.recordAt s oid = .ok none ∨
        base.recordAt s oid = .ok (some (Record.loaded oid fields)))) →
      SaveHistory store (Record.loaded oid fields) s
  | edited {r : Record} {s : Storage} (e : RecordEdit) :
    SaveHistory store r s → SaveHistory store (r.edit e) s
  | attempted {r : Record} {outcome : Except StoreError Record} {s s' : Storage} :
    SaveHistory store r s → store.run (Records.save r) s = (outcome, s') →
      SaveHistory store (r.afterSave outcome) s'
  | meanwhile {r : Record} {s s' : Storage} : SaveHistory store r s →
    (∀ base, RecordPart.ofBase base ∈ RecordStore.parts store → base.Spared r.oid s s') →
      SaveHistory store r s'

namespace SaveHistory

variable {store : RecordStore} {r : Record} {s s' : Storage}

/-- Whatever was tried before, the record has what it has staged, and each base store has nothing or
is brought to the fields of the record by it. -/
theorem follows (h : SaveHistory store r s) : r.Consistent ∧ store.IsFollowed r s := by
  induction h with
  | fresh oid held =>
    exact ⟨⟨rfl, rfl⟩, fun base hbase => ⟨held base hbase, fun _ => ⟨held base hbase, rfl, nofun⟩⟩⟩
  | loaded oid fields copies =>
    have hloaded := Record.isLoaded_loaded oid fields
    refine ⟨hloaded.consistent, fun base hbase => ⟨(copies base hbase).1, fun hsetUp => ?_⟩⟩
    refine ⟨(copies base hbase).1, hloaded.present, fun _ => ?_⟩
    exact ((copies base hbase).2 hsetUp).imp_right fun hcopy => ⟨_, hcopy, rfl⟩
  | edited e _ ih => exact ⟨ih.1.edit e, fun base hbase => (ih.2 base hbase).edit e⟩
  | @attempted r outcome s s' _ hsave ih =>
    obtain ⟨hconsistent, hfollowed⟩ := ih
    cases hdirty : r.isDirty with
    | false =>
      rw [store.run_save_of_clean s hdirty] at hsave
      obtain ⟨rfl, rfl⟩ := Prod.mk.inj hsave
      exact ⟨hconsistent, hfollowed⟩
    | true =>
      rw [store.run_save_of_dirty s hdirty] at hsave
      obtain ⟨rfl, rfl⟩ := Prod.mk.inj hsave
      cases hok : (store.perform (.apply r.pendingUpdate) s).1 with
      | error e => exact ⟨hconsistent, hfollowed.perform_apply hconsistent⟩
      | ok u =>
        refine ⟨⟨hconsistent.present, rfl⟩, fun base hbase => .of_recordAt ?_⟩
        exact RecordStore.recordAt_of_perform_apply hfollowed hconsistent hok hbase
  | meanwhile _ hothers ih =>
    exact ⟨ih.1, fun base hbase => (ih.2 base hbase).spared ih.1 (hothers base hbase)⟩

/-- A save that fails leaves the record as it was, with its fields and all that it has staged, and
each base store as it was or with the record.  A save that goes through leaves a record without
changes, and all base stores have that record.  It goes through if no guard refuses it and all
databases are set up. -/
theorem save_outcome (h : SaveHistory store r s) (hdirty : r.isDirty = true)
    {outcome : Except StoreError Record}
    (hsave : store.run (Records.save r) s = (outcome, s')) :
    (∀ e, outcome = .error e → r.afterSave outcome = r ∧
      ∀ base, RecordPart.ofBase base ∈ RecordStore.parts store →
        base.recordAt s' r.oid = base.recordAt s r.oid ∨
          base.recordAt s' r.oid = .ok (some r.markSaved)) ∧
    (∀ saved, outcome = .ok saved → r.afterSave outcome = saved ∧
      saved.fields = r.fields ∧ saved.isDirty = false ∧
      ∀ base, RecordPart.ofBase base ∈ RecordStore.parts store →
        base.recordAt s' r.oid = .ok (some saved)) ∧
    ((∀ guard ∈ store.guards, (s.cell guard).refuses "apply" = false) →
      (∀ part ∈ RecordStore.parts store, RecordPart.IsSetUp s part) →
        ∃ saved, outcome = .ok saved) := by
  obtain ⟨hconsistent, hfollowed⟩ := h.follows
  rw [store.run_save_of_dirty s hdirty] at hsave
  obtain ⟨rfl, rfl⟩ := Prod.mk.inj hsave
  refine ⟨fun e he => ⟨by rw [he]; rfl, fun base hbase =>
    RecordStore.recordAt_perform_apply hfollowed hconsistent hbase⟩, ?_, ?_⟩
  · intro saved hsaved
    cases hok : (store.perform (.apply r.pendingUpdate) s).1 with
    | error e =>
      rw [hok] at hsaved
      cases hsaved
    | ok u =>
      rw [hok] at hsaved
      obtain rfl : r.markSaved = saved := Except.ok.inj hsaved
      exact ⟨rfl, rfl, r.isDirty_markSaved, fun base hbase =>
        RecordStore.recordAt_of_perform_apply hfollowed hconsistent hok hbase⟩
  · intro hguards hsetUp
    rw [RecordStore.perform_apply_succeeds _ hguards hsetUp]
    exact ⟨_, rfl⟩

/-- A loaded record is changed and saved through three layers.  A guard refuses the first save
before the middle layer, which has no copy, and a database that is not set up the second one.  The
third save goes through, with all that was changed before it. -/
theorem save_outcome_third :
    let oid : Oid := ⟨"a", by decide⟩
    let original := Record.loaded oid (.ofList [("age", .int 7), ("name", .text "Ann")])
    let middle : RecordStore := .guarded ⟨0⟩ (.base (.memory "middle" ⟨1⟩))
    let back := RecordBase.relational "back" ⟨0⟩
    let stack : RecordStore := .stack "users" (.base (.memory "front" ⟨0⟩)) [middle, .base back]
    let s : Storage :=
      { records := ⟨#[(∅ : RecordTable).insert oid original.fields, ∅]⟩
        databases := ⟨#[{}]⟩
        guards := ⟨#[{ refused := ["apply"] }]⟩ }
    let first := original.edit (.put "age" (.int 8))
    let s₁ := (stack.run (Records.save first) s).2
    let second := first.edit (.put "city" (.text "Bern"))
    let s₂ := (stack.run (Records.save second) { s₁ with guards := ⟨#[{}]⟩ }).2
    let third := second.edit (.put "name" .null)
    let ready := (back.answer (.lifecycle .setup) s₂).2
    (stack.run (Records.save first) s).1 = .error (.storage (.down "middle" "apply")) ∧
      (stack.run (Records.save second) { s₁ with guards := ⟨#[{}]⟩ }).1 =
        .error (.storage .database) ∧
      SaveHistory stack third ready ∧ third.isDirty = true ∧
      ∃ saved s₃, stack.run (Records.save third) ready = (.ok saved, s₃) ∧
        saved.fields = .ofList [("age", .int 8), ("city", .text "Bern")] ∧
        saved.isDirty = false ∧
        ∀ base, RecordPart.ofBase base ∈ RecordStore.parts stack →
          base.recordAt s₃ oid = .ok (some saved) := by
  intro oid original middle back stack s first s₁ second s₂ third ready
  have hfirst : (stack.run (Records.save first) s).1 =
      .error (.storage (.down "middle" "apply")) := rfl
  have hsecond : (stack.run (Records.save second) { s₁ with guards := ⟨#[{}]⟩ }).1 =
      .error (.storage .database) := by decide +kernel
  have hparts : RecordStore.parts stack =
      [.inMemory ⟨0⟩, .inMemory ⟨1⟩, .inDatabase ⟨0⟩ "back"] := rfl
  have hbases : ∀ base, RecordPart.ofBase base ∈ RecordStore.parts stack →
      (∃ name, base = .memory name ⟨0⟩) ∨ (∃ name, base = .memory name ⟨1⟩) ∨ base = back := by
    intro base hbase
    rw [hparts] at hbase
    cases base with
    | memory name table => simpa [RecordPart.ofBase] using hbase
    | relational name database => simpa [RecordPart.ofBase, back, and_comm] using hbase
  have hfront : RecordBase.recordAt (.memory "front" ⟨0⟩) s oid = .ok (some original) := by
    decide +kernel
  have hloaded : SaveHistory stack original s := by
    refine .loaded oid _ fun base hbase => ?_
    rcases hbases base hbase with ⟨name, rfl⟩ | ⟨name, rfl⟩ | rfl
    · exact ⟨Nat.zero_lt_two, fun _ => .inr hfront⟩
    · exact ⟨Nat.one_lt_two, fun _ => .inl rfl⟩
    · exact ⟨Nat.zero_lt_one, fun hsetUp => absurd hsetUp Bool.false_ne_true⟩
  have hafterFirst : SaveHistory stack second s₁ :=
    .edited _ (.attempted (.edited _ hloaded) (Prod.ext hfirst rfl))
  have hafterSecond : SaveHistory stack third s₂ :=
    .edited _ (.attempted (.meanwhile hafterFirst fun base _ => base.spared_guards _ _ _)
      (Prod.ext hsecond rfl))
  have hhistory : SaveHistory stack third ready := by
    refine .meanwhile hafterSecond fun base hbase => ⟨RecordBase.unwritten_answer base back
      (.lifecycle .setup) s₂ third.oid fun _ => id, fun hbefore _ => ?_⟩
    rcases hbases base hbase with ⟨name, rfl⟩ | ⟨name, rfl⟩ | rfl
    · exact absurd trivial hbefore
    · exact absurd trivial hbefore
    · decide +kernel
  have hdirty : third.isDirty = true := by decide +kernel
  have hready : (ready.cell (⟨0⟩ : Ref Database)).ready = true := by decide +kernel
  have hadmitted : (ready.cell (⟨0⟩ : Ref Guard)).refuses "apply" = false := by decide +kernel
  have hsetUp : ∀ part ∈ RecordStore.parts stack, RecordPart.IsSetUp ready part := by
    rw [hparts]
    refine List.forall_mem_cons.2 ⟨trivial, List.forall_mem_cons.2 ⟨trivial, ?_⟩⟩
    exact List.forall_mem_singleton.2 hready
  have hguards : ∀ guard ∈ Store.guards stack, (ready.cell guard).refuses "apply" = false :=
    List.forall_mem_singleton.2 hadmitted
  obtain ⟨⟨outcome, s₃⟩, hrun⟩ : ∃ ran, stack.run (Records.save third) ready = ran := ⟨_, rfl⟩
  obtain ⟨-, hsaved, hsaves⟩ := save_outcome hhistory hdirty hrun
  obtain ⟨saved, rfl⟩ := hsaves hguards hsetUp
  obtain ⟨-, hfields, hclean, hcopies⟩ := hsaved saved rfl
  refine ⟨hfirst, hsecond, hhistory, hdirty, saved, s₃, hrun, ?_, hclean, hcopies⟩
  rw [hfields]
  decide +kernel

end SaveHistory

end TieredStore
