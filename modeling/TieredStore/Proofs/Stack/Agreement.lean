import Mathlib.Order.BooleanAlgebra.Set
import TieredStore.Proofs.Stack.Effects
import TieredStore.Proofs.Stack.Histories
import TieredStore.Proofs.Stack.LookUps

/-!
# What queries list and what look-ups give

A query takes its answer from the first layer where something passes the filter, and a look-up
by key from the first layer that has the key.  These may be different layers, and after a write
that has failed half way the layers may differ.  A note is taken of the keys that are concerned
by such writes.  For all other keys, in every history of calls that succeed or fail half way,
all layers that have something under the key have the same, and so a query lists what a look-up
gives.

Main results:

- Theorems `RecordsAgree.step` and `EntriesAgree.step`: what a call keeps of the agreement of the
  layers.
- Theorem `Store.reads_agree`: what is listed is what is looked up, save for keys with a write
  that has failed and was not made good since.
- Theorem `TornWrite.not_reads_agree`: after a change that gets to the front layer only, a query
  lists the old record, and a look-up gives the new one.
-/

namespace TieredStore

/-! ## Records -/

/-- A record that answers a query is a stored one, as it is loaded. -/
theorem RecordTable.get?_of_mem_query {table : RecordTable} {q : Query} {r : Record}
    (h : r ∈ table.query q) :
    ∃ fields, table.get? r.oid = some fields ∧ r = Record.loaded r.oid fields := by
  obtain ⟨fields, hget, hr⟩ := (mem_records _ r).1 (Query.mem_of_mem_orderAndPage h)
  rw [SortedMap.get?_filter, Option.filter_eq_some_iff] at hget
  exact ⟨fields, hget.1, hr⟩

/-- The fields that an update leaves, given those that were stored before. -/
def RecordUpdate.fieldsAfter (update : RecordUpdate) : Option Fields → Fields
  | some stored => if update.isNew then update.fields else update.delta.applyDelta stored
  | none => update.fields

/-- What an update leaves under its OID depends on what was there alone. -/
theorem RecordTable.get?_apply_self (table : RecordTable) (update : RecordUpdate) :
    (table.apply update).get? update.oid =
      some (update.fieldsAfter (table.get? update.oid)) := by
  unfold apply RecordUpdate.fieldsAfter
  cases table.get? update.oid with
  | none => exact table.get?_insert_self _ _
  | some stored => cases update.isNew <;> exact table.get?_insert_self _ _

/-- What failed writes may have left behind in the layers of a store of records. -/
structure Unfinished where
  /-- Records of which a removal has failed, so that some layers may lack them. -/
  removals : Set Oid
  /-- Records of which a save has failed, so that layers may differ on them; and those of which
  changes alone were saved while some layers may have lacked the record. -/
  saves : Set Oid

/-- Nothing is left behind of a record. -/
def Unfinished.settle (u : Unfinished) (oid : Oid) : Unfinished :=
  ⟨u.removals \ {oid}, u.saves \ {oid}⟩

/-- What is unfinished after a call.  A save of all fields, a removal, and the deletion of all
records make good what has failed before. -/
def RecordCall.note (u : Unfinished) :
    (call : RecordCall) → Except StoreError (Interface.Reply call) → Unfinished
  | .lifecycle .destroy, .ok _ => ⟨∅, ∅⟩
  | .lifecycle .destroy, .error _ => { u with removals := Set.univ }
  | .lifecycle .clear, .ok _ => ⟨∅, ∅⟩
  | .lifecycle .clear, .error _ => { u with removals := Set.univ }
  | .apply update, .ok _ =>
    if update.isNew then u.settle update.oid
    else { u with saves := u.saves ∪ ({update.oid} ∩ u.removals) }
  | .apply update, .error _ => { u with saves := insert update.oid u.saves }
  | .remove oid, .ok _ => u.settle oid
  | .remove oid, .error _ => { u with removals := insert oid u.removals }
  | _, _ => u

/-- Whether tables agree on all records but those with unfinished writes. -/
structure RecordsAgree {Part : Type} (own : List Part) (view : Part → RecordTable)
    (u : Unfinished) : Prop where
  alike : ∀ oid ∉ u.saves, Alike own fun part => (view part).get? oid
  same : ∀ oid ∉ u.saves, oid ∉ u.removals → Same own fun part => (view part).get? oid

namespace RecordsAgree

variable {Part : Type} {own : List Part} {view view' : Part → RecordTable} {u : Unfinished}
  {outcome : Except StoreError Unit}

/-- Tables that have the same under every OID agree. -/
theorem of_same (h : ∀ oid, Same own fun part => (view part).get? oid) (u : Unfinished) :
    RecordsAgree own view u :=
  ⟨fun oid _ => (h oid).alike, fun oid _ _ => h oid⟩

/-- A change that leaves all records as they are keeps the agreement. -/
theorem congr (h : RecordsAgree own view u)
    (hsame : ∀ oid, ∀ part ∈ own, (view' part).get? oid = (view part).get? oid) :
    RecordsAgree own view' u :=
  ⟨fun oid hsaves => (h.alike oid hsaves).of_lost fun part hpart => .inl (hsame oid part hpart),
    fun oid hsaves hremovals => (h.same oid hsaves hremovals).map id (hsame oid)⟩

/-- A change of one record keeps the agreement on the others. -/
theorem of_concerned {oid : Oid} {u' : Unfinished} (h : RecordsAgree own view u)
    (hothers : ∀ other ≠ oid, ∀ part ∈ own, (view' part).get? other = (view part).get? other)
    (hsaves : ∀ other ≠ oid, other ∉ u'.saves → other ∉ u.saves)
    (hremovals : ∀ other ≠ oid, other ∉ u'.removals → other ∉ u.removals)
    (halike : oid ∉ u'.saves → Alike own fun part => (view' part).get? oid)
    (hsame : oid ∉ u'.saves → oid ∉ u'.removals → Same own fun part => (view' part).get? oid) :
    RecordsAgree own view' u' := by
  refine ⟨fun other hother => ?_, fun other hother hother' => ?_⟩
  · by_cases hoid : other = oid
    · subst hoid
      exact halike hother
    · exact (h.alike other (hsaves other hoid hother)).of_lost
        fun part hpart => .inl (hothers other hoid part hpart)
  · by_cases hoid : other = oid
    · subst hoid
      exact hsame hother hother'
    · exact (h.same other (hsaves other hoid hother) (hremovals other hoid hother')).map id
        (hothers other hoid)

/-- The deletion of all records leaves none, or leaves some layers as they were. -/
theorem delete (h : RecordsAgree own view u)
    (heffect : Spread own (fun _ => ∅) view outcome view') :
    RecordsAgree own view' (RecordCall.note u (.lifecycle .clear) outcome) := by
  cases outcome with
  | ok a =>
    refine of_same (fun oid => Same.of_eq none fun part hpart => ?_) _
    rw [heffect.all a rfl part hpart]
    rfl
  | error e =>
    refine ⟨fun oid hsaves => (h.alike oid hsaves).of_lost ?_,
      fun oid _ hremovals => absurd (Set.mem_univ oid) hremovals⟩
    exact heffect.sameOrLost (·.get? oid) fun table => .inr rfl

/-- A removal leaves no layer with the record, or leaves some layers as they were. -/
theorem remove (h : RecordsAgree own view u) (oid : Oid)
    (heffect : Spread own (fun table => table.erase oid) view outcome view') :
    RecordsAgree own view' (RecordCall.note u (.remove oid) outcome) := by
  have hothers : ∀ other ≠ oid, ∀ part ∈ own, (view' part).get? other = (view part).get? other :=
    fun other hother => heffect.spares (·.get? other) fun table => table.get?_erase_of_ne hother
  cases outcome with
  | ok a =>
    have hsame : Same own fun part => (view' part).get? oid := Same.of_eq none fun part hpart => by
      rw [heffect.all a rfl part hpart]
      exact (view part).get?_erase_self oid
    exact h.of_concerned hothers (fun other hother hmem hsaves => hmem ⟨hsaves, hother⟩)
      (fun other hother hmem hremovals => hmem ⟨hremovals, hother⟩) (fun _ => hsame.alike)
      fun _ _ => hsame
  | error e =>
    refine h.of_concerned hothers (fun _ _ hmem => hmem)
      (fun other hother hmem hremovals => hmem (Set.mem_insert_of_mem _ hremovals))
      (fun hsaves => (h.alike oid hsaves).of_lost ?_)
      fun _ hmem => absurd (Set.mem_insert oid _) hmem
    exact heffect.sameOrLost (·.get? oid) fun table => .inr (table.get?_erase_self oid)

/-- A save leaves all layers with the same if they had the same before, or if all fields are
saved. -/
theorem save (h : RecordsAgree own view u) (update : RecordUpdate)
    (heffect : Spread own (fun table => table.apply update) view outcome view') :
    RecordsAgree own view' (RecordCall.note u (.apply update) outcome) := by
  have hothers : ∀ other ≠ update.oid, ∀ part ∈ own,
      (view' part).get? other = (view part).get? other :=
    fun other hother => heffect.spares (·.get? other) fun table =>
      RecordTable.get?_apply_of_ne table update hother
  cases outcome with
  | error e =>
    exact h.of_concerned hothers
      (fun other _ hmem hsaves => hmem (Set.mem_insert_of_mem _ hsaves)) (fun _ _ hmem => hmem)
      (fun hmem => absurd (Set.mem_insert update.oid _) hmem)
      fun hmem => absurd (Set.mem_insert update.oid _) hmem
  | ok a =>
    show RecordsAgree own view' (if update.isNew then u.settle update.oid
      else { u with saves := u.saves ∪ ({update.oid} ∩ u.removals) })
    have hself : ∀ part ∈ own, (view' part).get? update.oid =
        ((view part).apply update).get? update.oid := fun part hpart => by
      rw [heffect.all a rfl part hpart]
    cases hnew : update.isNew with
    | true =>
      have hsame : Same own fun part => (view' part).get? update.oid :=
        Same.of_eq (some update.fields) fun part hpart =>
          (hself part hpart).trans (RecordTable.get?_apply_new (view part) update (.inr hnew))
      exact h.of_concerned hothers (fun other hother hmem hsaves => hmem ⟨hsaves, hother⟩)
        (fun other hother hmem hremovals => hmem ⟨hremovals, hother⟩) (fun _ => hsame.alike)
        fun _ _ => hsame
    | false =>
      have hsame : update.oid ∉ u.saves ∪ ({update.oid} ∩ u.removals) →
          Same own fun part => (view' part).get? update.oid := by
        intro hmem
        rw [Set.mem_union, not_or] at hmem
        have hbefore := h.same update.oid hmem.1 fun hremovals => hmem.2 ⟨rfl, hremovals⟩
        exact hbefore.map (fun stored => some (update.fieldsAfter stored)) fun part hpart =>
          (hself part hpart).trans (RecordTable.get?_apply_self (view part) update)
      exact h.of_concerned hothers (fun other _ hmem hsaves => hmem (.inl hsaves))
        (fun _ _ hmem => hmem) (fun hmem => (hsame hmem).alike) fun hmem _ => hsame hmem

end RecordsAgree

/-- Whatever a call comes to, the tables agree on all records but those with unfinished
writes. -/
theorem RecordsAgree.step {own : List (PartKind.Part RecordCall)}
    {view view' : PartKind.Part RecordCall → RecordTable} {u : Unfinished} (call : RecordCall)
    {outcome : Except StoreError (Interface.Reply call)}
    (heffect : RecordCall.Effect own view call outcome view') (h : RecordsAgree own view u) :
    RecordsAgree own view' (RecordCall.note u call outcome) := by
  cases call with
  | lifecycle op =>
    cases op with
    | setup => exact h.congr fun oid => heffect.spares (·.get? oid) fun _ => rfl
    | destroy => cases outcome <;> exact h.delete heffect
    | clear => exact h.delete heffect
    | maintenance => exact h.congr fun oid => heffect.spares (·.get? oid) fun _ => rfl
  | get oid =>
    rw [heffect.unchanged]
    exact h
  | apply update => exact h.save update heffect
  | remove oid => exact h.remove oid heffect
  | keys =>
    rw [heffect.unchanged]
    exact h
  | query q =>
    rw [heffect.unchanged]
    exact h

/-! ## Entries -/

section Entries

variable {V : Type}

/-- The value that is stored under a key, be it live or expired. -/
def EntryTable.value? (table : EntryTable V) (key : String) : Option V :=
  (table.get? key).map (·.value)

/-- The keys with unfinished writes after a call: those under which a value or a compare-and-set
has failed.  Values that are put, removals, replacements and the deletion of all entries make
good what has failed before. -/
def EntryCall.note (u : Set String) :
    (call : EntryCall V) → Except StoreError (Interface.Reply call) → Set String
  | .lifecycle .destroy, .ok _ => ∅
  | .lifecycle .clear, .ok _ => ∅
  | .put key _ _, .ok _ => u \ {key}
  | .put key (some _) _, .error _ => insert key u
  | .compareAndSet key _ _, .ok true => u \ {key}
  | .compareAndSet key _ _, .error _ => insert key u
  | _, _ => u

/-- Whether a table has entries under good keys only. -/
def EntryTable.HasGoodKeys (table : EntryTable V) : Prop :=
  ∀ key e, checkKey key = .error e → table.value? key = none

/-- Whether tables agree on the values of all keys but those with unfinished writes, and have good
keys only. -/
structure EntriesAgree {Part : Type} (own : List Part) (view : Part → EntryTable V)
    (u : Set String) : Prop where
  alike : ∀ key ∉ u, Alike own fun part => (view part).value? key
  good : ∀ part ∈ own, (view part).HasGoodKeys

/-- A new time of expiry leaves the value, or there is none any more. -/
theorem EntryTable.value?_expire (table : EntryTable V) (now : Int64) (key : String)
    (time : Int64) (other : String) :
    SameOrLost (table.value? other) ((table.expire now key time).value? other) := by
  unfold value? expire
  cases hget : table.get? key with
  | none => exact .inl rfl
  | some entry =>
    cases hexpired : entry.isExpired now <;> by_cases hkey : other = key
    · subst hkey
      exact .inl (by simp [hexpired, hget])
    · exact .inl (by simp [hexpired, table.get?_insert_of_ne _ hkey])
    · subst hkey
      exact .inr (by simp [hexpired])
    · exact .inl (by simp [hexpired, table.get?_erase_of_ne hkey])

/-- Maintenance leaves the values, or removes them with their entries. -/
theorem EntryTable.value?_filter (table : EntryTable V) (kept : String → Entry V → Bool)
    (key : String) : SameOrLost (table.value? key) (value? (table.filter kept) key) := by
  unfold value?
  rw [SortedMap.get?_filter]
  cases table.get? key with
  | none => exact .inl rfl
  | some entry => cases hkept : kept key entry <;> simp [SameOrLost, hkept]

namespace EntriesAgree

variable {Part : Type} {own : List Part} {view view' : Part → EntryTable V} {u : Set String}
  {outcome : Except StoreError Unit} {key : String} {now : Int64}

/-- Tables that lose values stay in agreement. -/
theorem of_lost (h : EntriesAgree own view u)
    (hlost : ∀ key, ∀ part ∈ own, SameOrLost ((view part).value? key) ((view' part).value? key)) :
    EntriesAgree own view' u := by
  refine ⟨fun key hkey => (h.alike key hkey).of_lost (hlost key), ?_⟩
  intro part hpart key e hbad
  rcases hlost key part hpart with hsame | hnone
  · exact hsame.trans (h.good part hpart key e hbad)
  · exact hnone

/-- A change under one key keeps the agreement on the others. -/
theorem of_concerned {u' : Set String} (h : EntriesAgree own view u)
    (hothers : ∀ other, (checkKey other = .ok () → other ≠ key) → ∀ part ∈ own,
      (view' part).value? other = (view part).value? other)
    (hunfinished : ∀ other ≠ key, other ∉ u' → other ∉ u)
    (halike : checkKey key = .ok () → key ∉ u' → Alike own fun part => (view' part).value? key) :
    EntriesAgree own view' u' := by
  have hgood : ∀ part ∈ own, (view' part).HasGoodKeys := by
    intro part hpart other e hbad
    refine (hothers other (fun hok => ?_) part hpart).trans (h.good part hpart other e hbad)
    rw [hbad] at hok
    cases hok
  refine ⟨fun other hother => ?_, hgood⟩
  by_cases hsame : other = key
  · subst hsame
    cases hkey : checkKey other with
    | ok _ => exact halike hkey hother
    | error e => exact (Same.of_eq none fun part hpart => hgood part hpart other e hkey).alike
  · exact (h.alike other (hunfinished other hsame hother)).of_lost
      fun part hpart => .inl (hothers other (fun _ => hsame) part hpart)

/-- The deletion of all entries leaves none, or leaves some layers as they were. -/
theorem delete (h : EntriesAgree own view u)
    (heffect : Spread own (fun _ => ∅) view outcome view') :
    EntriesAgree own view' (EntryCall.note (V := V) u (.lifecycle .clear) outcome) := by
  have hlost : ∀ key, ∀ part ∈ own,
      SameOrLost ((view part).value? key) ((view' part).value? key) :=
    fun key => heffect.sameOrLost (·.value? key) fun _ => .inr rfl
  cases outcome with
  | error e => exact h.of_lost hlost
  | ok a =>
    refine ⟨fun key _ => (Same.of_eq none fun part hpart => ?_).alike, (h.of_lost hlost).good⟩
    rw [heffect.all a rfl part hpart]
    rfl

variable [DecidableEq V]

/-- A value that is put is left in all layers; a removal leaves none there, or leaves some layers
as they were. -/
theorem put (h : EntriesAgree own view u) (value : Option V) (ttl : UInt64)
    (heffect : Spread own (fun table => (EntryTable.answer now (.put key value ttl) table).2) view
      outcome view') :
    EntriesAgree own view' (EntryCall.note u (.put key value ttl) outcome) := by
  have hothers : ∀ other, (checkKey other = .ok () → other ≠ key) → ∀ part ∈ own,
      (view' part).value? other = (view part).value? other := fun other hother =>
    heffect.spares (·.value? other) fun table =>
      congrArg _ (EntryCall.get?_answer_put_of_ne now value ttl table other hother)
  have hput : ∀ (table : EntryTable V), checkKey key = .ok () →
      (EntryTable.answer now (.put key value ttl) table).2.value? key = value := by
    intro table hkey
    rw [table.answer_put now hkey]
    cases value with
    | none => exact congrArg _ (table.get?_erase_self key)
    | some value => exact congrArg _ (table.get?_insert_self key _)
  cases outcome with
  | ok a =>
    refine h.of_concerned hothers (fun other hother hmem hu => hmem ⟨hu, hother⟩) fun hkey _ => ?_
    refine (Same.of_eq value fun part hpart => ?_).alike
    rw [heffect.all a rfl part hpart]
    exact hput (view part) hkey
  | error e =>
    cases value with
    | some value =>
      exact h.of_concerned hothers (fun other _ hmem hu => hmem (Set.mem_insert_of_mem _ hu))
        fun _ hmem => absurd (Set.mem_insert key u) hmem
    | none =>
      refine h.of_concerned hothers (fun _ _ hmem => hmem) fun hkey hmem => ?_
      exact (h.alike key hmem).of_lost
        (heffect.sameOrLost (·.value? key) fun table => .inr (hput table hkey))

/-- A time of expiry leaves the values, also in layers that it does not get to. -/
theorem expire (h : EntriesAgree own view u) (time : Int64)
    (heffect : Spread own (fun table => (EntryTable.answer now (.expire key time) table).2) view
      outcome view') : EntriesAgree own view' u := by
  refine h.of_lost fun other => heffect.sameOrLost (·.value? other) fun table => ?_
  cases hkey : checkKey key with
  | ok _ =>
    rw [table.answer_expire now hkey]
    exact table.value?_expire now key time other
  | error e =>
    refine .inl (congrArg _ (EntryCall.get?_answer_expire_of_ne now time table other ?_))
    rintro hother rfl
    rw [hkey] at hother
    cases hother

omit [DecidableEq V] in
/-- A compare-and-set that succeeds leaves the new value in all layers. -/
theorem compareAndSet {outcome : Except StoreError Bool} (expect : Option V) {update : V}
    (h : EntriesAgree own view u)
    (heffect : EntryCall.Replaces now key update own view outcome view') :
    EntriesAgree own view' (EntryCall.note u (.compareAndSet key expect update) outcome) := by
  have hothers : ∀ other, (checkKey other = .ok () → other ≠ key) → ∀ part ∈ own,
      (view' part).value? other = (view part).value? other := fun other hother part _ =>
    congrArg _ (heffect.others part other hother)
  cases outcome with
  | error e =>
    exact h.of_concerned hothers (fun other _ hmem hu => hmem (Set.mem_insert_of_mem _ hu))
      fun _ hmem => absurd (Set.mem_insert key u) hmem
  | ok replaced =>
    cases replaced with
    | false =>
      rw [heffect.kept rfl]
      exact h
    | true =>
      refine h.of_concerned hothers (fun other hother hmem hu => hmem ⟨hu, hother⟩) fun _ _ => ?_
      exact (Same.of_eq (some update) fun part hpart =>
        congrArg (Option.map Entry.value) (heffect.replaced rfl part hpart)).alike

end EntriesAgree

variable [DecidableEq V] [Stored (EntryTable V)] [StoredApart (EntryTable V)] [EntryValue V]

/-- Whatever a call comes to, the tables agree on all keys but those with unfinished writes. -/
theorem EntriesAgree.step {now : Int64} {own : List (PartKind.Part (EntryCall V))}
    {view view' : PartKind.Part (EntryCall V) → EntryTable V} {u : Set String} (call : EntryCall V)
    {outcome : Except StoreError (Interface.Reply call)}
    (heffect : EntryCall.Effect now own view call outcome view') (h : EntriesAgree own view u) :
    EntriesAgree own view' (EntryCall.note u call outcome) := by
  cases call with
  | lifecycle op =>
    cases op with
    | setup => exact h.of_lost fun key => heffect.sameOrLost (·.value? key) fun _ => .inl rfl
    | destroy => cases outcome <;> exact h.delete heffect
    | clear => exact h.delete heffect
    | maintenance =>
      exact h.of_lost fun key => heffect.sameOrLost (·.value? key) fun table =>
        table.value?_filter _ key
  | get key =>
    rw [heffect.unchanged]
    exact h
  | put key value ttl => exact h.put value ttl heffect
  | expire key time => exact h.expire time heffect
  | keys value =>
    rw [heffect.unchanged]
    exact h
  | compareAndSet key expect update =>
    exact h.compareAndSet expect heffect

end Entries

/-! ## What is listed and what is looked up -/

namespace RecordStore

/-- Whether storage can be reached from equal tables by calls to a store of records, and what is
unfinished then. -/
abbrev Reached (store : RecordStore) (s : Storage) (u : Unfinished) : Prop :=
  Store.Reached (fun _ : RecordTable => True) ⟨∅, ∅⟩ RecordCall.note store s u

/-- Whether every record that a query lists is the one that its OID is looked up with, save for
some OIDs, which give some record.  A look-up fails only if something of the store refuses
look-ups. -/
def QueriesAgree (store : RecordStore) (s : Storage) (exceptions : Set Oid) : Prop :=
  ∀ q rows, (store.run (Records.query q) s).1 = .ok rows → ∀ r ∈ rows,
    (∃ other, (store.run (Records.record? r.oid) s).1 = .ok (some other) ∧
      other.oid = r.oid ∧ (r.oid ∉ exceptions → other = r)) ∨
    (∃ e, (store.run (Records.record? r.oid) s).1 = .error e) ∧ ¬store.AnswersLookUps s

/-- In every history, queries list what look-ups give, save for records with a save that has
failed and was not made good. -/
theorem queriesAgree_of_reached {store : RecordStore} {s : Storage} {u : Unfinished}
    (h : store.Reached s u) : store.QueriesAgree s u.saves := by
  obtain ⟨separate, view, hviews, hagree⟩ := h.invariant RecordCall.passesThroughLayers
    (fun table _ => RecordsAgree.of_same (fun oid => Same.of_eq (table.get? oid) fun _ _ => rfl) _)
    fun _ _ _ call _ _ heffect hinv => hinv.step call heffect
  intro q rows hrows r hr
  have hperform := fun call => Store.ends_perform RecordCall.passesThroughLayers store
    (List.Subset.refl _) separate call view s hviews
  rw [run, Records.query, Program.run_ofCall] at hrows
  obtain ⟨_, -, hquery⟩ := hperform (.query q)
  obtain ⟨part, hpart, hlisted⟩ := hquery.found rows hrows r hr
  obtain ⟨fields, hget, hloaded⟩ := RecordTable.get?_of_mem_query hlisted
  obtain ⟨_, -, hlook⟩ := hperform (.get r.oid)
  rw [run, Records.record?, Program.run_ofCall]
  cases houtcome : (store.perform (.get r.oid) s).1 with
  | error e =>
    refine .inr ⟨⟨e, rfl⟩, fun hanswers => ?_⟩
    obtain ⟨found, hfound⟩ := get_succeeds hviews hanswers r.oid
    rw [houtcome] at hfound
    cases hfound
  | ok found =>
    -- The look-up may end at another layer than the query, but then both layers have the record.
    obtain ⟨first, hfirst, other, hother, hfind⟩ := exists_findSome?_eq_some
      (fun part => ((view part).get? r.oid).map (Record.loaded r.oid)) hpart
      (by rw [hget, Option.map_some])
    obtain ⟨otherFields, hgetOther, rfl⟩ := Option.map_eq_some_iff.1 hother
    refine .inl ⟨_, congrArg Except.ok ((hlook.found found houtcome).trans hfind), rfl,
      fun hsaves => ?_⟩
    rw [hagree.alike r.oid hsaves first hfirst part hpart _ _ hgetOther hget, ← hloaded]

end RecordStore

namespace EntryStore

variable {V : Type} [DecidableEq V] [Stored (EntryTable V)] [StoredApart (EntryTable V)]
  [EntryValue V]

/-- Whether storage can be reached from equal tables by calls to a store of entries, and under
which keys there are unfinished writes then. -/
abbrev Reached (store : EntryStore V) (s : Storage) (u : Set String) : Prop :=
  Store.Reached EntryTable.HasGoodKeys ∅ (EntryCall.note (V := V)) store s u

/-- Whether every key that is listed for a value is looked up with this value, save for some keys,
which give some value.  A look-up fails only if a guard of the store refuses look-ups. -/
def ListingsAgree (store : EntryStore V) (s : Storage) (exceptions : Set String) : Prop :=
  ∀ v keys, (store.run (Entries.keys (some v)) s).1 = .ok keys → ∀ key ∈ keys,
    (∃ other, (store.run (Entries.value? key) s).1 = .ok (some other) ∧
      (key ∉ exceptions → other = v)) ∨
    (∃ e, (store.run (Entries.value? key) s).1 = .error e) ∧ ¬store.AnswersLookUps s

/-- In every history, keys are listed for the values that look-ups give, save for keys with a
write that has failed and was not made good. -/
theorem listingsAgree_of_reached {store : EntryStore V} {s : Storage} {u : Set String}
    (h : store.Reached s u) : store.ListingsAgree s u := by
  have hstart : ∀ table : EntryTable V, table.HasGoodKeys →
      EntriesAgree store.parts (fun _ => table) ∅ := fun table hgood =>
    ⟨fun key _ => (Same.of_eq (table.value? key) fun _ _ => rfl).alike, fun _ _ => hgood⟩
  obtain ⟨separate, view, hviews, hagree⟩ := h.invariant EntryCall.passesThroughLayers
    hstart fun _ _ _ call _ _ heffect hinv => EntriesAgree.step call heffect hinv
  intro v keys hkeys key hkey
  have hperform := fun call => Store.ends_perform EntryCall.passesThroughLayers store
    (List.Subset.refl _) separate call view s hviews
  rw [run, Entries.keys, Program.run_ofCall] at hkeys
  obtain ⟨_, -, hlist⟩ := hperform (.keys (some v))
  obtain ⟨part, hpart, hlisted⟩ := hlist.found keys hkeys key hkey
  obtain ⟨entry, hlive, hvalue⟩ := ((view part).mem_keysHolding_iff s.clock key (some v)).1 hlisted
  have hstored : (view part).value? key = some entry.value :=
    congrArg _ (((view part).live?_eq_some_iff s.clock key entry).1 hlive).1
  -- A look-up under a bad key would fail, but nothing is stored under one.
  have hgood : checkKey key = .ok () := by
    cases hcheck : checkKey key with
    | ok _ => rfl
    | error e =>
      have hnone := hagree.good part hpart key e hcheck
      rw [hstored] at hnone
      cases hnone
  obtain ⟨_, -, hlook⟩ := hperform (.get key)
  rw [run_value?]
  cases houtcome : (store.perform (.get key) s).1 with
  | error e =>
    refine .inr ⟨⟨e, rfl⟩, fun hanswers => ?_⟩
    obtain ⟨found, hfound⟩ := get_succeeds hviews.quiet hanswers hgood
    rw [houtcome] at hfound
    cases hfound
  | ok found =>
    obtain ⟨first, hfirst, other, hother, hfind⟩ := exists_findSome?_eq_some
      (fun part => (view part).live? s.clock key) hpart hlive
    have hstoredFirst : (view first).value? key = some other.value :=
      congrArg _ (((view first).live?_eq_some_iff s.clock key other).1 hother).1
    have hfound := (hlook.found found houtcome).trans hfind
    refine .inl ⟨other.value, ?_, fun hu => ?_⟩
    · rw [hfound]
      rfl
    · exact (hagree.alike key hu first hfirst part hpart _ _ hstoredFirst hstored).trans
        (beq_iff_eq.1 hvalue)

end EntryStore

/-- In every history of a store of any shape, with calls that succeed or fail half way, queries
list the records, and listings the keys, as look-ups give them, save for records and keys with a
write that has failed and was not made good since. -/
theorem Store.reads_agree :
    (∀ (store : RecordStore) (s : Storage) (u : Unfinished), store.Reached s u →
      store.QueriesAgree s u.saves) ∧
    ∀ (V : Type) [DecidableEq V] [Stored (EntryTable V)] [StoredApart (EntryTable V)]
      [EntryValue V] (store : EntryStore V) (s : Storage) (u : Set String), store.Reached s u →
        store.ListingsAgree s u :=
  ⟨fun _ _ _ h => RecordStore.queriesAgree_of_reached h,
    fun _ _ _ _ _ _ _ _ h => EntryStore.listingsAgree_of_reached h⟩

/-! ## A change that gets to the front layer only -/

namespace TornWrite

/-- Storage with two empty tables of records, two of texts, and a guard. -/
def start : Storage := { records := ⟨#[∅, ∅]⟩, texts := ⟨#[∅, ∅]⟩, guards := ⟨#[{}]⟩ }

/-- A stack of records with its lower layer behind the guard. -/
def records : RecordStore :=
  .stack "stack" (.base (.memory "front" ⟨0⟩)) [.guarded ⟨0⟩ (.base (.memory "back" ⟨1⟩))]

/-- A stack of texts with its lower layer behind the guard. -/
def entries : EntryStore String :=
  .stack "stack" (.base ⟨"front", ⟨0⟩⟩) [.guarded ⟨0⟩ (.base ⟨"back", ⟨1⟩⟩)]

/-- The record that is changed half way. -/
def torn : Oid := ⟨"torn", by decide⟩

/-- A record that is saved well. -/
def whole : Oid := ⟨"whole", by decide⟩

/-- Fields with a number. -/
def fields (a : Int64) : Fields := .ofList [("a", .int a)]

/-- A save of a record. -/
def save (oid : Oid) (a : Int64) (isNew : Bool) : RecordCall :=
  .apply ⟨oid, fields a, fields a, isNew⟩

/-- The guard lets no save and no put through from now on. -/
def refuse (s : Storage) : Storage :=
  s.setCell (⟨0⟩ : Ref Guard) { refused := ["apply", "put"] }

/-- The storage after two records are saved and a change of one gets to the front layer only. -/
def afterSaves : Storage :=
  let first := (records.perform (save whole 3 true) start).2
  let second := (records.perform (save torn 1 true) first).2
  (records.perform (save torn 2 false) (refuse second)).2

/-- The storage after a text is put and another one in its place gets to the front layer only. -/
def afterPuts : Storage :=
  let first := (entries.perform (.put "torn" (some "old") 0) start).2
  (entries.perform (.put "torn" (some "new") 0) (refuse first)).2

/-- At the start there is no rival in sight. -/
theorem quiet_start (guard : Ref Guard) : (start.cell guard).rival = none := by
  obtain ⟨index⟩ := guard
  cases index <;> rfl

/-- The torn record is the only one with an unfinished write. -/
theorem reached_afterSaves : records.Reached afterSaves ⟨∅, {torn}⟩ := by
  have hviews : start.Views (RecordStore.parts records) start.clock fun _ => ∅ := by
    refine ⟨fun part hpart => ?_, rfl, quiet_start⟩
    revert part
    exact List.forall_mem_cons.2 ⟨⟨by decide, rfl⟩, List.forall_mem_singleton.2 ⟨by decide, rfl⟩⟩
  have hstart : records.Reached start ⟨∅, ∅⟩ := .start (by decide) hviews trivial
  have hsaved : records.Reached _ (RecordCall.note (RecordCall.note ⟨∅, ∅⟩ (save whole 3 true)
      (.ok ())) (save torn 1 true) (.ok ())) :=
    (hstart.call (save whole 3 true)).call (save torn 1 true)
  have htorn : records.Reached afterSaves (RecordCall.note _ (save torn 2 false)
      (.error (.storage (.down "back" "apply")))) :=
    (hsaved.refuse ⟨0⟩ ["apply", "put"]).call (save torn 2 false)
  simpa [RecordCall.note, Unfinished.settle, save] using htorn

/-- The torn text is the only one with an unfinished write. -/
theorem reached_afterPuts : entries.Reached afterPuts {"torn"} := by
  have hviews : start.Views (EntryStore.parts entries) start.clock fun _ => ∅ := by
    refine ⟨fun part hpart => ?_, rfl, quiet_start⟩
    revert part
    exact List.forall_mem_cons.2 ⟨⟨by decide, rfl⟩, List.forall_mem_singleton.2 ⟨by decide, rfl⟩⟩
  have hstart : entries.Reached start ∅ := .start (by decide) hviews fun _ _ _ => rfl
  have hput : entries.Reached _ (EntryCall.note ∅ (.put "torn" (some "old") 0) (.ok ())) :=
    hstart.call (.put "torn" (some "old") 0)
  have htorn : entries.Reached afterPuts (EntryCall.note _ (.put "torn" (some "new") 0)
      (.error (.storage (.down "back" "put")))) :=
    (hput.refuse ⟨0⟩ ["apply", "put"]).call (.put "torn" (some "new") 0)
  simpa [EntryCall.note] using htorn

/-- Queries and look-ups agree on all records but the torn one, and on all texts but the torn
one. -/
theorem reads_agree_save_torn :
    records.Reached afterSaves ⟨∅, {torn}⟩ ∧ entries.Reached afterPuts {"torn"} ∧
      records.QueriesAgree afterSaves {torn} ∧ entries.ListingsAgree afterPuts {"torn"} :=
  ⟨reached_afterSaves, reached_afterPuts, Store.reads_agree.1 records _ _ reached_afterSaves,
    Store.reads_agree.2 String entries _ _ reached_afterPuts⟩

/-- After a write that has failed half way, what is listed may not be what is looked up: the
front layer has nothing any more that passes the filter, the lower layer still has the old
record or text, and a look-up gives the new one of the front layer. -/
theorem not_reads_agree :
    (¬∀ (store : RecordStore) s u, store.Reached s u → ∀ q rows,
      (store.run (Records.query q) s).1 = .ok rows → ∀ r ∈ rows,
        (store.run (Records.record? r.oid) s).1 = .ok (some r)) ∧
    ¬∀ (store : EntryStore String) s u, store.Reached s u → ∀ v keys,
      (store.run (Entries.keys (some v)) s).1 = .ok keys → ∀ key ∈ keys,
        (store.run (Entries.value? key) s).1 = .ok (some v) := by
  constructor
  · intro h
    -- The front layer has no record any more with the old number, and is passed over.
    have hquery : (records.run (Records.query { predicate := some (.compare "a" .eq (.int 1)) })
        afterSaves).1 = .ok [Record.loaded torn (fields 1)] := by
      decide +kernel
    have hlook : (records.run (Records.record? torn) afterSaves).1 ≠
        .ok (some (Record.loaded torn (fields 1))) := by
      decide +kernel
    exact hlook (h records _ _ reached_afterSaves _ _ hquery _ List.mem_cons_self)
  · intro h
    have hlist : (entries.run (Entries.keys (some "old")) afterPuts).1 = .ok ["torn"] := by
      decide +kernel
    have hlook : (entries.run (Entries.value? "torn") afterPuts).1 ≠ .ok (some "old") := by
      decide +kernel
    exact hlook (h entries _ _ reached_afterPuts _ _ hlist _ List.mem_cons_self)

end TornWrite

end TieredStore
