import TieredStore.Membership.Stores
import TieredStore.Proofs.Storage.Saving

/-!
# Handles of relationships

A relationship that was resolved, added or found is a copy of a stored row.  Its fields other than
the link can be changed, and a save checks that the row is still there: it changes the row by what
the copy has staged, or writes nothing.  Whatever happened to the row in the meantime, a save
neither brings a row back nor gives one another link.

Main results:

- Theorem `Program.Gives.run`: what a program gives if its calls are replied to as expected.
- Theorem `Handle.guarded`: a handle is a copy of a stored row and has staged no change of the
  link.
- Theorem `Relationship.Guarded.run_save`: a save changes a stored row, and writes nothing without
  one.
- Theorem `Handle.save_keeps_links`: no save of a handle adds, removes or relinks a row.
-/

namespace TieredStore

/-! ## What programs give -/

namespace Program

variable {Call : Type} [Interface Call] {α β σ : Type}
  {Expected : (call : Call) → Interface.Reply call → Prop} {Good : α → Prop}

/-- Whether all results of a program are good if its calls are replied to as expected. -/
def Gives (Expected : (call : Call) → Interface.Reply call → Prop) (Good : α → Prop) :
    Program Call α → Prop
  | .done a => Good a
  | .fail _ => True
  | .ask call resume => ∀ reply, Expected call reply → Gives Expected Good (resume reply)

/-- What a program gives, the next one can rely on. -/
theorem Gives.bind {Next : β → Prop} {p : Program Call α} {f : α → Program Call β}
    (hp : p.Gives Expected Good) (hf : ∀ a, Good a → (f a).Gives Expected Next) :
    (p >>= f).Gives Expected Next := by
  induction p with
  | done a => exact hf a hp
  | fail e => trivial
  | ask call resume ih => exact fun reply hreply => ih reply (hp reply hreply)

/-- Nothing is promised about the results of a program. -/
theorem gives_any (p : Program Call α) : p.Gives Expected fun _ => True := by
  induction p with
  | done a => trivial
  | fail e => trivial
  | ask call resume ih => exact fun reply _ => ih reply

/-- Whatever a program gives, the next one gives good results. -/
theorem gives_bind {Next : β → Prop} (p : Program Call α) {f : α → Program Call β}
    (hf : ∀ a, (f a).Gives Expected Next) : (p >>= f).Gives Expected Next :=
  (gives_any p).bind fun a _ => hf a

/-- A program that runs against replies as expected gives good results. -/
theorem Gives.run {answer : Handler Call σ}
    (hanswer : ∀ call s reply s', answer call s = (.ok reply, s') → Expected call reply)
    {p : Program Call α} (hp : p.Gives Expected Good) {s s' : σ} {a : α}
    (hrun : p.run answer s = (.ok a, s')) : Good a := by
  induction p generalizing s with
  | done b =>
    cases hrun
    exact hp
  | fail e => cases hrun
  | ask call resume ih =>
    rw [run_ask, Action.bind_apply] at hrun
    rcases hcall : answer call s with ⟨error | reply, next⟩
    · rw [hcall] at hrun
      cases hrun
    · rw [hcall] at hrun
      exact ih reply (hp reply (hanswer call s reply next hcall)) hrun

end Program

/-! ## Where relationships come from -/

namespace Membership

/-- Whether all rows of a list are as they are loaded. -/
def AllLoaded (rows : List Record) : Prop := ∀ r ∈ rows, r.IsLoaded

/-- Whether queries of the links are replied to with records as they are loaded. -/
def RepliesLoaded : (request : At MembershipTable RecordCall) → Interface.Reply request → Prop
  | ⟨.relations, .query _⟩, rows => AllLoaded rows
  | _, _ => True

/-- Whether a relationship, if there is one, is a copy of a stored row. -/
def LoadedIfAny (found : Option Relationship) : Prop := ∀ r ∈ found, r.record.IsLoaded

theorem AllLoaded.append {a b : List Record} (ha : AllLoaded a) (hb : AllLoaded b) :
    AllLoaded (a ++ b) := by
  intro r hr
  exact (List.mem_append.1 hr).elim (ha r) (hb r)

/-- The relationship of a row has this row. -/
theorem loadedIfAny_ofRecord? {r : Record} (h : r.IsLoaded) :
    LoadedIfAny (Relationship.ofRecord? r) := by
  intro found hfound
  obtain ⟨link, -, rfl⟩ := Option.map_eq_some_iff.1 hfound
  exact h

/-- A query of the links gives rows as they are loaded. -/
theorem gives_query (q : Query) :
    ((Records.query q).at MembershipTable.relations).Gives RepliesLoaded AllLoaded :=
  fun _ hrows => hrows

theorem gives_relationsWhere (p : Predicate) :
    (relationsWhere p).Gives RepliesLoaded AllLoaded :=
  gives_query (Query.filter p)

/-- Collapsing keeps one of the rows. -/
theorem gives_collapse {rows : List Record} (h : AllLoaded rows) :
    (collapse rows).Gives RepliesLoaded fun keep => AllLoaded keep.toList := by
  unfold collapse
  have hperm : (byDescendingOid rows).Perm rows := sortBy_perm rows
  cases hrows : byDescendingOid rows with
  | nil => exact fun r hr => nomatch hr
  | cons keep duplicates =>
    rw [hrows] at hperm
    refine Program.gives_bind (removeRelations duplicates) fun _ => ?_
    intro r hr
    obtain rfl : r = keep := List.mem_singleton.1 hr
    exact h r (hperm.mem_iff.1 List.mem_cons_self)

theorem gives_collapsePair (link : Link) :
    (collapsePair link).Gives RepliesLoaded LoadedIfAny := by
  refine (gives_relationsWhere link.predicate).bind fun rows hrows =>
    (gives_collapse hrows).bind fun keep hkeep => ?_
  cases keep with
  | none => exact fun r hr => nomatch hr
  | some row => exact loadedIfAny_ofRecord? (hkeep row List.mem_cons_self)

/-- A pair is resolved to a copy of a stored row. -/
theorem gives_resolve (link : Link) : (resolve link).Gives RepliesLoaded LoadedIfAny := by
  refine Program.gives_bind (healSides link) fun intact => ?_
  cases intact with
  | false => exact fun r hr => nomatch hr
  | true => exact gives_collapsePair link

/-- A pair that is added has a copy of a stored row. -/
theorem gives_add (fresh : Oid) (link : Link) :
    (add fresh link).Gives RepliesLoaded LoadedIfAny := by
  refine Program.gives_bind (healSides link) fun intact => ?_
  cases intact with
  | false => exact fun r hr => nomatch hr
  | true =>
    refine (gives_collapsePair link).bind fun existing hexisting => ?_
    cases existing with
    | some found => exact hexisting
    | none =>
      refine Program.gives_bind (.ofExcept (link.newRecord fresh)) fun row => ?_
      exact Program.gives_bind ((Records.save row).at .relations) fun _ => gives_collapsePair link

/-! ### Searches -/

/-- Whether all candidates that a search has kept are as they are loaded. -/
def Search.KeptLoaded (search : Search) : Prop :=
  ∀ link rows, search.kept.get? link = some rows → AllLoaded rows

namespace Search

variable {search : Search}

/-- What is learnt about groups and members does not concern the candidates. -/
@[simp] theorem kept_learn (search : Search) (side : Side) (oid : Oid) (found : Option Record) :
    (search.learn side oid found).kept = search.kept := by
  cases side <;> rfl

@[simp] theorem kept_learnAll (search : Search) (side : Side) (found : List Record) :
    (search.learnAll side found).kept = search.kept := by
  unfold learnAll
  induction found generalizing search with
  | nil => rfl
  | cons r rest ih => rw [List.foldl_cons, ih, kept_learn]

theorem keptLoaded_empty : KeptLoaded {} := fun _ _ h => nomatch h

/-- One more candidate is kept. -/
theorem KeptLoaded.keep (h : search.KeptLoaded) (link : Link) {row : Record}
    (hrow : row.IsLoaded) : (search.keep link row).KeptLoaded := by
  intro other rows hrows
  by_cases hother : other = link
  · subst hother
    have hget := (search.kept.get?_insert_self other _).symm.trans hrows
    obtain rfl := Option.some.inj hget
    refine AllLoaded.append ?_ fun r hr => ?_
    · cases hold : search.kept.get? other with
      | none => exact fun r hr => nomatch hr
      | some old => exact h other old hold
    · rw [List.mem_singleton.1 hr]
      exact hrow
  · exact h other rows ((search.kept.get?_insert_of_ne _ hother).symm.trans hrows)

end Search

variable {q : MembershipQuery}

/-- The candidates of some groups or members are rows as they are loaded. -/
theorem gives_relationsOf (q : MembershipQuery) (side : Side) (found : List Record) :
    (relationsOf q side found).Gives RepliesLoaded AllLoaded := by
  induction found with
  | nil => exact fun r hr => nomatch hr
  | cons first rest ih =>
    exact (gives_relationsWhere _).bind fun rows hrows =>
      ih.bind fun others hothers => hrows.append hothers

/-- The candidates of a query are rows as they are loaded, and none is kept yet. -/
theorem gives_fetch (q : MembershipQuery) :
    (fetch q).Gives RepliesLoaded fun fetched => AllLoaded fetched.1 ∧ fetched.2.KeptLoaded := by
  have hunlearned : ∀ rows : MembershipProgram (List Record), rows.Gives RepliesLoaded AllLoaded →
      (unlearned rows).Gives RepliesLoaded fun fetched =>
        AllLoaded fetched.1 ∧ fetched.2.KeptLoaded :=
    fun rows hrows => hrows.bind fun found hfound => ⟨hfound, Search.keptLoaded_empty⟩
  have hfanOut : ∀ side filter, (fanOut q side filter).Gives RepliesLoaded fun fetched =>
      AllLoaded fetched.1 ∧ fetched.2.KeptLoaded := by
    intro side filter
    refine Program.gives_bind _ fun matched => ?_
    refine (gives_relationsOf q side matched).bind fun rows hrows => ⟨hrows, ?_⟩
    intro link rows hkept
    rw [Search.kept_learnAll] at hkept
    cases hkept
  unfold fetch
  split
  · exact hunlearned _ (gives_relationsWhere _)
  · exact hunlearned _ (gives_relationsWhere _)
  · exact hunlearned _ (gives_relationsWhere _)
  · split
    · exact hfanOut _ _
    · exact hunlearned _ (gives_relationsWhere _)
    · exact hfanOut _ _
    · exact hunlearned _ (gives_query _)

/-- Checking a side of a candidate keeps nothing. -/
theorem gives_checkSide (q : MembershipQuery) (side : Side) (oid : Oid) {search : Search}
    (h : search.KeptLoaded) :
    (checkSide q side oid search).Gives RepliesLoaded fun checked => checked.2.KeptLoaded := by
  have hlookUp : (lookUp search side oid).Gives RepliesLoaded fun looked =>
      looked.2.KeptLoaded := by
    unfold lookUp
    split
    · exact h
    · refine Program.gives_bind _ fun found link rows hkept => ?_
      rw [Search.kept_learn] at hkept
      exact h link rows hkept
  unfold checkSide
  split
  · exact h
  · refine hlookUp.bind ?_
    rintro ⟨found, learnt⟩ hlearnt
    cases found with
    | some r => exact hlearnt
    | none => exact Program.gives_bind (purge side oid) fun _ => hlearnt

/-- Checking candidates keeps those that pass. -/
theorem gives_checkRows (q : MembershipQuery) {rows : List Record} (hrows : AllLoaded rows)
    {search : Search} (h : search.KeptLoaded) :
    (checkRows q rows search).Gives RepliesLoaded Search.KeptLoaded := by
  induction rows generalizing search with
  | nil => exact h
  | cons row rest ih =>
    obtain ⟨hrow, hrest⟩ := List.forall_mem_cons.1 hrows
    have hcheck : (checkRow q row search).Gives RepliesLoaded Search.KeptLoaded := by
      unfold checkRow
      split
      · rename_i link hlink
        refine (gives_checkSide q .group link.group h).bind ?_
        rintro ⟨group, learnt⟩ hlearnt
        refine (gives_checkSide q .member link.member hlearnt).bind ?_
        rintro ⟨member, learnt'⟩ hlearnt'
        show Search.KeptLoaded (if group && member then learnt'.keep link row else learnt')
        split
        · exact hlearnt'.keep link hrow
        · exact hlearnt'
      · exact Program.gives_bind (removeRelations [row]) fun _ => h
    exact hcheck.bind fun next hnext => ih hrest hnext

/-- Of each group of candidates one is left. -/
theorem gives_collapseAll {groups : List (List Record)} (h : ∀ rows ∈ groups, AllLoaded rows) :
    (collapseAll groups).Gives RepliesLoaded AllLoaded := by
  induction groups with
  | nil => exact fun r hr => nomatch hr
  | cons rows rest ih =>
    obtain ⟨hrows, hrest⟩ := List.forall_mem_cons.1 h
    exact (gives_collapse hrows).bind fun keep hkeep =>
      (ih hrest).bind fun others hothers => hkeep.append hothers

/-- The relationships that are found are copies of stored rows. -/
theorem gives_find (q : MembershipQuery) :
    (find q).Gives RepliesLoaded fun found => ∀ r ∈ found, r.record.IsLoaded := by
  refine Program.gives_bind (.ofExcept q.validate) fun _ => ?_
  refine (gives_fetch q).bind ?_
  rintro ⟨rows, search⟩ ⟨hrows, hsearch⟩
  refine (gives_checkRows q hrows hsearch).bind fun checked hchecked => ?_
  have hgroups : ∀ rows ∈ checked.kept.values, AllLoaded rows := by
    intro rows hrows
    obtain ⟨e, he, rfl⟩ := List.mem_map.1 hrows
    exact hchecked e.1 e.2 ((checked.kept.get?_eq_some_iff e.1 e.2).2 he)
  refine (gives_collapseAll hgroups).bind fun survivors hsurvivors => ?_
  intro r hr
  obtain ⟨row, hrow, hof⟩ := List.mem_filterMap.1 hr
  exact loadedIfAny_ofRecord? (hsurvivors row (Query.mem_of_mem_orderAndPage hrow)) r hof

end Membership

/-! ## Handles -/

/-- Tries a change on a relationship. -/
def RecordEdit.attemptOn (r : Relationship) : RecordEdit → Except StoreError Relationship
  | .put field value => r.put field value
  | .remove field => r.remove field

namespace Relationship

/-- The relationship after a change; one that is refused leaves it as it is. -/
def edit (r : Relationship) (e : RecordEdit) : Relationship :=
  match e.attemptOn r with
  | .ok changed => changed
  | .error _ => r

/-- Whether a relationship is a copy of a stored row that has staged no change of the link. -/
structure Guarded (r : Relationship) : Prop where
  persisted : r.record.persisted = true
  unstaged : ∀ side : Side, r.record.staged.get? side.field = none

/-- A change names no field of the link, or it is refused. -/
theorem edit_eq (r : Relationship) (e : RecordEdit) :
    r.edit e = r ∨
      (∀ side : Side, side.field ≠ e.field) ∧ r.edit e = { r with record := r.record.edit e } := by
  have hattempt : e.attemptOn r = r.put e.field e.value := by cases e <;> rfl
  by_cases hfield : e.field = Side.group.field ∨ e.field = Side.member.field
  · left
    unfold edit
    rw [hattempt, put, if_pos hfield]
  · have hsides : ∀ side : Side, side.field ≠ e.field := by
      rintro (_ | _) hsame
      · exact hfield (.inl hsame.symm)
      · exact hfield (.inr hsame.symm)
    refine .inr ⟨hsides, ?_⟩
    unfold edit
    rw [hattempt, put, if_neg hfield, Record.edit, RecordEdit.attempt_eq_put]
    cases r.record.put e.field e.value <;> rfl

/-- A copy as it was loaded has staged nothing. -/
theorem Guarded.of_isLoaded {r : Relationship} (h : r.record.IsLoaded) : r.Guarded :=
  ⟨h.persisted, fun _ => by rw [h.staged]; rfl⟩

/-- No change is staged for the link. -/
theorem Guarded.edit {r : Relationship} (h : r.Guarded) (e : RecordEdit) : (r.edit e).Guarded := by
  rcases r.edit_eq e with hsame | ⟨hfield, hedit⟩
  · rw [hsame]
    exact h
  · rw [hedit]
    refine ⟨(r.record.persisted_edit e).trans h.persisted, fun side => ?_⟩
    exact (r.record.get?_staged_edit_of_ne e (hfield side)).trans (h.unstaged side)

end Relationship

/-- The relationships that callers of a membership have in their hands: those that were resolved,
added or found at any time, and what they made of them. -/
inductive Handle (stores : MembershipStores) : Relationship → Prop where
  | resolved {link : Link} {r : Relationship} {s s' : Storage} :
    stores.run (Membership.resolve link) s = (.ok (some r), s') → Handle stores r
  | added {link : Link} {r : Relationship} {s s' : Storage} :
    stores.add link s = (.ok (some r), s') → Handle stores r
  | found {q : MembershipQuery} {rows : List Relationship} {r : Relationship} {s s' : Storage} :
    stores.run (Membership.find q) s = (.ok rows, s') → r ∈ rows → Handle stores r
  | edited {r : Relationship} (e : RecordEdit) : Handle stores r → Handle stores (r.edit e)
  | saved {r r' : Relationship} {s s' : Storage} : Handle stores r →
    RecordStore.run stores.relations r.save s = (.ok (some r'), s') → Handle stores r'

section Saves

variable {stores : MembershipStores} {base : RecordBase} {r : Relationship} {s s' : Storage}

/-- A base store replies to queries with records as they are loaded. -/
theorem MembershipStores.repliesLoaded (hbase : stores.relations = .base base)
    (request : At MembershipTable RecordCall) (s : Storage) (reply : Interface.Reply request)
    (s' : Storage) (h : stores.perform request s = (.ok reply, s')) :
    Membership.RepliesLoaded request reply := by
  -- Nothing is expected of the stores of groups and members, nor of other calls than queries.
  obtain ⟨place, call⟩ := request
  cases place with
  | groups => trivial
  | members => trivial
  | relations =>
    cases call with
    | query q =>
      have hanswer : (base.answer (.query q) s).1 = .ok reply := by
        have hperform : stores.perform ⟨.relations, .query q⟩ s = base.answer (.query q) s := by
          show stores.relations.perform (.query q) s = _
          rw [hbase, RecordStore.perform, Store.perform]
          rfl
        rw [← hperform, h]
      exact fun row hrow => (RecordBase.isLoaded_of_recordAt
        (RecordBase.recordAt_of_mem_query hanswer hrow)).2
    | _ => trivial

/-- A store tells whether it has a record. -/
theorem RecordBase.run_contains (base : RecordBase) (s : Storage) (oid : Oid) :
    RecordStore.run (.base base) (Records.contains oid) s =
      ((base.recordAt s oid).map Option.isSome, s) := by
  have hfound := base.run_record? s oid
  rw [run_eq] at hfound ⊢
  rw [Records.contains, Program.run_bind, Action.bind_apply, hfound]
  cases base.recordAt s oid <;> rfl

/-- A save that cannot look the row up fails and writes nothing. -/
theorem Relationship.run_save_of_error {e : StoreError}
    (hfailed : base.recordAt s r.record.oid = .error e) :
    RecordStore.run (.base base) r.save s = (.error e, s) := by
  have hcontains := base.run_contains s r.record.oid
  rw [hfailed, RecordBase.run_eq] at hcontains
  rw [RecordBase.run_eq, save, Program.run_bind, Action.bind_apply, hcontains]
  rfl

/-- A save of a row that is not stored any more writes nothing. -/
theorem Relationship.run_save_of_removed (hremoved : base.recordAt s r.record.oid = .ok none) :
    RecordStore.run (.base base) r.save s = (.ok none, s) := by
  have hcontains := base.run_contains s r.record.oid
  rw [hremoved, RecordBase.run_eq] at hcontains
  rw [RecordBase.run_eq, save, Program.run_bind, Action.bind_apply, hcontains]
  rfl

/-- A save of a stored row saves the copy of the row. -/
theorem Relationship.run_save_of_stored {stored : Record}
    (hstored : base.recordAt s r.record.oid = .ok (some stored)) {record : Record}
    (hsave : RecordStore.run (.base base) (Records.save r.record) s = (.ok record, s')) :
    RecordStore.run (.base base) r.save s = (.ok (some { r with record := record }), s') := by
  have hcontains := base.run_contains s r.record.oid
  rw [hstored, RecordBase.run_eq] at hcontains
  rw [RecordBase.run_eq] at hsave ⊢
  rw [save, Program.run_bind, Action.bind_apply, hcontains]
  show Program.run base.answer (Records.save r.record >>= _) s = _
  rw [Program.run_bind, Action.bind_apply, hsave]
  rfl

/-- A save that fails changes nothing, one without a stored row writes nothing, and one of a stored
row changes it by what the handle has staged, and nothing else. -/
theorem Relationship.Guarded.run_save (h : r.Guarded) (base : RecordBase) (s : Storage) :
    match base.recordAt s r.record.oid with
    | .error e => RecordStore.run (.base base) r.save s = (.error e, s)
    | .ok none => RecordStore.run (.base base) r.save s = (.ok none, s)
    | .ok (some stored) => ∃ s', RecordStore.run (.base base) r.save s =
          (.ok (some { r with record := r.record.markSaved }), s') ∧
        base.recordAt s' r.record.oid =
          .ok (some (Record.loaded r.record.oid (r.record.staged.applyDelta stored.fields))) ∧
        base.listed s' = base.listed s ∧
        ∀ other, other ≠ r.record.oid → base.recordAt s' other = base.recordAt s other := by
  split
  · rename_i e hfailed
    exact run_save_of_error hfailed
  · rename_i hremoved
    exact run_save_of_removed hremoved
  · rename_i stored hstored
    obtain ⟨s', hsave, hafter, hlisted, hothers⟩ :=
      RecordBase.run_save_of_stored hstored h.persisted
    exact ⟨s', run_save_of_stored hstored hsave, hafter, hlisted, hothers⟩

/-- A copy that was saved has staged nothing. -/
theorem Relationship.Guarded.saved (h : r.Guarded) {r' : Relationship}
    (hsave : RecordStore.run (.base base) r.save s = (.ok (some r'), s')) : r'.Guarded := by
  have hrun := h.run_save base s
  rw [hsave] at hrun
  split at hrun
  · cases hrun
  · cases hrun
  · obtain ⟨_, hsaved, -⟩ := hrun
    cases hsaved
    exact ⟨rfl, fun _ => rfl⟩

/-- A handle is a copy of a stored row and has staged no change of the link. -/
theorem Handle.guarded (hbase : stores.relations = .base base) (h : Handle stores r) :
    r.Guarded := by
  have hreplies := MembershipStores.repliesLoaded hbase
  induction h with
  | @resolved link r s s' hrun =>
    exact .of_isLoaded ((Membership.gives_resolve link).run hreplies hrun r rfl)
  | @added link r s s' hrun =>
    have hadd : stores.run (Membership.add (Oid.fresh s.drawn) link)
        { s with drawn := s.drawn + 1 } = (.ok (some r), s') := hrun
    exact .of_isLoaded ((Membership.gives_add _ link).run hreplies hadd r rfl)
  | @found q rows r s s' hrun hr =>
    exact .of_isLoaded ((Membership.gives_find q).run hreplies hrun r hr)
  | edited e _ ih => exact ih.edit e
  | saved _ hsave ih =>
    rw [hbase] at hsave
    exact ih.saved hsave

/-- The field of a side is not changed by what a handle has staged. -/
theorem Relationship.Guarded.get?_side (h : r.Guarded) {stored : Record} (hloaded : stored.IsLoaded)
    (side : Side) :
    (Record.loaded r.record.oid (r.record.staged.applyDelta stored.fields)).fields.get? side.field =
      stored.fields.get? side.field := by
  have hpresent := hloaded.present
  rw [Record.loaded, Fields.present_applyDelta, hpresent, Fields.get?_applyDelta, h.unstaged side]

/-- What a save of a relationship that does not fail brings about at the store of the links. -/
structure Relationship.SaveEffect (base : RecordBase) (r : Relationship) (s : Storage)
    (outcome : Option Relationship) (s' : Storage) : Prop where
  /-- No row is found exactly if none is stored under the OID at that moment. -/
  removed : outcome = none ↔ base.recordAt s r.record.oid = .ok none
  /-- Nothing is written then. -/
  unwritten : outcome = none → s' = s
  /-- A stored row gets its previous fields, changed by what the relationship has staged. -/
  changed : ∀ r', outcome = some r' → r'.link = r.link ∧ r'.record = r.record.markSaved ∧
    ∃ stored after, base.recordAt s r.record.oid = .ok (some stored) ∧
      base.recordAt s' r.record.oid = .ok (some after) ∧
      after.fields = r.record.staged.applyDelta stored.fields
  /-- No row is added or removed. -/
  listed : base.listed s' = base.listed s
  /-- No other row is changed. -/
  others : ∀ other, other ≠ r.record.oid → base.recordAt s' other = base.recordAt s other
  /-- No row gets another group or member. -/
  links : ∀ (oid : Oid) (side : Side),
    (base.recordAt s' oid).map (Option.map fun row => row.fields.get? side.field) =
      (base.recordAt s oid).map (Option.map fun row => row.fields.get? side.field)

/-- A save without a stored row has no effect. -/
theorem Relationship.saveEffect_of_removed (hremoved : base.recordAt s r.record.oid = .ok none) :
    SaveEffect base r s none s where
  removed := ⟨fun _ => hremoved, fun _ => rfl⟩
  unwritten _ := rfl
  changed := nofun
  listed := rfl
  others _ _ := rfl
  links _ _ := rfl

/-- A save of a stored row changes it by what the relationship has staged, which is nothing about
the link. -/
theorem Relationship.Guarded.saveEffect_of_stored (h : r.Guarded) {stored : Record}
    (hstored : base.recordAt s r.record.oid = .ok (some stored))
    (hafter : base.recordAt s' r.record.oid =
      .ok (some (Record.loaded r.record.oid (r.record.staged.applyDelta stored.fields))))
    (hlisted : base.listed s' = base.listed s)
    (hothers : ∀ other, other ≠ r.record.oid → base.recordAt s' other = base.recordAt s other) :
    SaveEffect base r s (some { r with record := r.record.markSaved }) s' where
  removed := ⟨nofun, fun hnone => by rw [hstored] at hnone; cases hnone⟩
  unwritten := nofun
  changed r' hr' := by
    cases hr'
    have hloaded := (RecordBase.isLoaded_of_recordAt hstored).2
    refine ⟨rfl, rfl, stored, _, hstored, hafter, ?_⟩
    rw [Record.loaded, Fields.present_applyDelta, hloaded.present]
  listed := hlisted
  others := hothers
  links oid side := by
    by_cases hoid : oid = r.record.oid
    · subst hoid
      have hside := h.get?_side (RecordBase.isLoaded_of_recordAt hstored).2 side
      rw [hafter, hstored]
      exact congrArg (fun v => Except.ok (some v)) hside
    · rw [hothers oid hoid]

/-- Whatever happened since a relationship was resolved, added or found, and whatever was changed
about it: a save finds no row exactly if there is none, and writes nothing then; otherwise it
changes the row by what the handle has staged.  It neither lists nor drops a row, gives no row
another group or member, and fails only if the row cannot be looked up. -/
theorem Handle.save_keeps_links (hbase : stores.relations = .base base) (h : Handle stores r)
    (s : Storage) :
    (∀ outcome s', RecordStore.run stores.relations r.save s = (.ok outcome, s') →
      r.SaveEffect base s outcome s') ∧
    ∀ found, base.recordAt s r.record.oid = .ok found →
      ∃ outcome s', RecordStore.run stores.relations r.save s = (.ok outcome, s') := by
  have hguarded := h.guarded hbase
  have hrun := hguarded.run_save base s
  rw [hbase]
  cases hrow : base.recordAt s r.record.oid with
  | error e =>
    simp only [hrow] at hrun
    rw [hrun]
    exact ⟨nofun, nofun⟩
  | ok found =>
    cases found with
    | none =>
      simp only [hrow] at hrun
      rw [hrun]
      refine ⟨fun outcome s' hsave => ?_, fun _ _ => ⟨none, s, rfl⟩⟩
      cases hsave
      exact Relationship.saveEffect_of_removed hrow
    | some stored =>
      simp only [hrow] at hrun
      obtain ⟨after, hsaved, hafter, hlisted, hothers⟩ := hrun
      rw [hsaved]
      refine ⟨fun outcome s' hsave => ?_, fun _ _ => ⟨_, after, rfl⟩⟩
      cases hsave
      exact hguarded.saveEffect_of_stored hrow hafter hlisted hothers

/-- A relationship is resolved and gets a role, and its link cannot be changed.  A save stores the
role beside the link; after the row was removed, it writes nothing. -/
theorem Handle.save_keeps_links_removed :
    let g : Oid := ⟨"g", by decide⟩
    let m : Oid := ⟨"m", by decide⟩
    let link : Link := ⟨g, m⟩
    let row : Record := Record.loaded ⟨"r", by decide⟩
      (.ofList [("groupID", .text "g"), ("memberID", .text "m")])
    let base := RecordBase.memory "relations" ⟨2⟩
    let stores : MembershipStores :=
      ⟨.base (.memory "groups" ⟨0⟩), .base (.memory "members" ⟨1⟩), .base base⟩
    let s : Storage := { records := ⟨#[.ofList [(g, ∅)], .ofList [(m, ∅)],
      .ofList [(row.oid, row.fields)]]⟩ }
    let removed := (base.answer (.remove row.oid) s).2
    let handle := ((⟨row, link⟩ : Relationship).edit (.put "role" (.int 3))).edit
      (.put "groupID" (.text "h"))
    stores.relations = .base base ∧ Handle stores handle ∧
      (∃ after s' stored, RecordStore.run stores.relations handle.save s = (.ok (some after), s') ∧
        base.listed s' = base.listed s ∧ base.recordAt s' row.oid = .ok (some stored) ∧
        stored.fields = .ofList [("groupID", .text "g"), ("memberID", .text "m"),
          ("role", .int 3)]) ∧
      RecordStore.run stores.relations handle.save removed = (.ok none, removed) := by
  intro g m link row base stores s removed handle
  have hbase : stores.relations = .base base := rfl
  have hresolved : (stores.run (Membership.resolve link) s).1 = .ok (some ⟨row, link⟩) := by
    decide +kernel
  have hhandle : Handle stores handle :=
    .edited _ (.edited _ (.resolved (Prod.ext hresolved rfl)))
  have hstored : base.recordAt s handle.record.oid = .ok (some row) := by decide +kernel
  have hnone : base.recordAt removed handle.record.oid = .ok none := by decide +kernel
  refine ⟨hbase, hhandle, ?_, ?_⟩
  · obtain ⟨houtcome, hsaves⟩ := Handle.save_keeps_links hbase hhandle s
    obtain ⟨outcome, s', hsave⟩ := hsaves (some row) hstored
    have heffect := houtcome outcome s' hsave
    cases outcome with
    | none =>
      have hremoved := heffect.removed.1 rfl
      rw [hstored] at hremoved
      cases hremoved
    | some after =>
      obtain ⟨-, -, before, stored, hbefore, hafter, hfields⟩ := heffect.changed after rfl
      obtain rfl : row = before := Option.some.inj (Except.ok.inj (hstored.symm.trans hbefore))
      exact ⟨after, s', stored, hsave, heffect.listed, hafter, hfields.trans (by decide +kernel)⟩
  · obtain ⟨houtcome, hsaves⟩ := Handle.save_keeps_links hbase hhandle removed
    obtain ⟨outcome, s', hsave⟩ := hsaves none hnone
    have heffect := houtcome outcome s' hsave
    have hnothing := heffect.removed.2 hnone
    rw [hsave, hnothing, heffect.unwritten hnothing]

end Saves

end TieredStore
