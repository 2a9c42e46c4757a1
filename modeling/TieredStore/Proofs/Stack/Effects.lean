import TieredStore.Proofs.Record.Answers
import TieredStore.Proofs.Stack.Layerwise

/-!
# What calls to records and entries come to

What a call to a store of any shape comes to, by the tables in the parts behind it.  A read
gives the first hit, or lists what some part has.  A change is made in every part, or, if it
fails half way, in some of them.  A compare-and-set that succeeds leaves the new value in every
part, with the time of expiry of the entry that was visible.

Main results:

- Theorem `RecordCall.passesThroughLayers`: the calls to stores of records.
- Theorem `EntryCall.ends_compareAndSet`: a compare-and-set through layers.
- Theorem `EntryCall.passesThroughLayers`: the calls to stores of entries.
-/

namespace TieredStore

open TieredStore.Action (Ends)

/-- The first hit among one part is its own. -/
theorem findSome?_singleton {Part α : Type} (hit : Part → Option α) (part : Part) :
    [part].findSome? hit = hit part := by
  rw [List.findSome?_cons]
  cases hit part <;> rfl

/-! ## Records -/

namespace RecordCall

/-- What a call to a store of records comes to. -/
def Effect (own : List (PartKind.Part RecordCall)) (view : PartKind.Part RecordCall → RecordTable) :
    (call : RecordCall) → Except StoreError (Interface.Reply call) →
      (PartKind.Part RecordCall → RecordTable) → Prop
  | .lifecycle op => Spread own (fun table => (RecordTable.answer (.lifecycle op) table).2) view
  | .get oid => Reads (fun found =>
      found = own.findSome? fun part => ((view part).get? oid).map (Record.loaded oid)) view
  | .apply update => Spread own (fun table => table.apply update) view
  | .remove oid => Spread own (fun table => table.erase oid) view
  | .keys => Reads (fun oids : List Oid =>
      ∀ oid ∈ oids, ∃ part ∈ own, oid ∈ (view part).keys) view
  | .query q => Reads (fun rows : List Record =>
      ∀ r ∈ rows, ∃ part ∈ own, r ∈ (view part).query q) view

/-- What calls to records come to passes from base stores and refusals to stacks. -/
theorem passesThroughLayers :
    PassesThroughLayers fun (_ : Int64) own (call : RecordCall) view => Effect own view call where
  refused now own call view e := by
    cases call with
    | lifecycle op => exact Spread.refused own _ view e
    | get oid => exact Reads.refused _ view e
    | apply update => exact Spread.refused own _ view e
    | remove oid => exact Spread.refused own _ view e
    | keys => exact Reads.refused _ view e
    | query q => exact Reads.refused _ view e
  base now part call view := by
    cases call with
    | lifecycle op => exact Spread.single part _ view _
    | get oid =>
      refine ⟨Function.update_eq_self part view, fun found h => ?_⟩
      rw [findSome?_singleton]
      exact (Except.ok.inj h).symm
    | apply update => exact Spread.single part _ view _
    | remove oid => exact Spread.single part _ view _
    | keys =>
      refine ⟨Function.update_eq_self part view, fun oids h oid hoid => ?_⟩
      obtain rfl := Except.ok.inj h
      exact ⟨part, List.mem_singleton_self part, hoid⟩
    | query q =>
      have hanswer : MemoryKind.answer now (RecordCall.query q) (view part) =
          (q.validate.map fun _ => (view part).query q, view part) :=
        RecordTable.answer_query (view part) q
      rw [hanswer]
      refine ⟨Function.update_eq_self part view, fun rows h r hr => ?_⟩
      cases hvalid : q.validate with
      | error e =>
        rw [hvalid] at h
        cases h
      | ok u =>
        rw [hvalid] at h
        obtain rfl := Except.ok.inj h
        exact ⟨part, List.mem_singleton_self part, hr⟩
  layers {known now answer partsAt lower} hlayers hnodup call view := by
    have hcall : ∀ place ∈ Stack.places lower, ∀ call view,
        Ends known now view (((Program.ofCall call).at place).run answer)
          (Effect (partsAt place) view call) := by
      intro place hplace call view
      rw [Stack.run_ofCall_at]
      exact hlayers place hplace call view
    cases call with
    | lifecycle op =>
      exact Stack.ends_fanOut (fun place hplace => hcall place hplace (.lifecycle op)) hnodup
    | get oid =>
      exact Stack.ends_firstHit _ fun place hplace => hcall place hplace (.get oid) view
    | apply update =>
      exact Stack.ends_fanOut (fun place hplace => hcall place hplace (.apply update)) hnodup
    | remove oid =>
      exact Stack.ends_fanOut (fun place hplace => hcall place hplace (.remove oid)) hnodup
    | keys =>
      exact Stack.ends_firstNonEmpty (fun part oid => oid ∈ (view part).keys) fun place hplace =>
        hcall place hplace .keys view
    | query q =>
      exact Stack.ends_firstNonEmpty (fun part r => r ∈ (view part).query q) fun place hplace =>
        hcall place hplace (.query q) view

end RecordCall

/-! ## Entries -/

namespace EntryCall

variable {V : Type}

section Tables

variable {Part : Type}

/-- Whether tables have changed in some parts and under one key at most, which must be a good
one. -/
structure ChangesOnly (key : String) (own : List Part) (view view' : Part → EntryTable V) :
    Prop where
  outside : ∀ part ∉ own, view' part = view part
  others : ∀ part other, (checkKey other = .ok () → other ≠ key) →
    (view' part).get? other = (view part).get? other

variable {key : String} {own : List Part} {view view' view'' : Part → EntryTable V}

/-- Nothing has changed at first. -/
theorem ChangesOnly.refl (key : String) (own : List Part) (view : Part → EntryTable V) :
    ChangesOnly key own view view :=
  ⟨fun _ _ => rfl, fun _ _ _ => rfl⟩

/-- Changes in some parts and then in more of them. -/
theorem ChangesOnly.trans {fewer : List Part} (h : ChangesOnly key fewer view view')
    (hfewer : fewer ⊆ own) (h' : ChangesOnly key own view' view'') :
    ChangesOnly key own view view'' where
  outside part hpart :=
    (h'.outside part hpart).trans (h.outside part fun hmem => hpart (hfewer hmem))
  others part other hother := (h'.others part other hother).trans (h.others part other hother)

/-- A change that concerns one key, made in some parts. -/
theorem ChangesOnly.of_spread {α : Type} {change : EntryTable V → EntryTable V}
    {outcome : Except StoreError α} (h : Spread own change view outcome view')
    (hchange : ∀ table other, (checkKey other = .ok () → other ≠ key) →
      (change table).get? other = table.get? other) :
    ChangesOnly key own view view' := by
  refine ⟨h.outside, fun part other hother => ?_⟩
  by_cases hpart : part ∈ own
  · rcases h.each part hpart with hsame | hchanged
    · rw [hsame]
    · rw [hchanged]
      exact hchange _ other hother
  · rw [h.outside part hpart]

/-- An entry was inserted in one part. -/
theorem ChangesOnly.insert [DecidableEq Part] (hkey : checkKey key = .ok ()) (part : Part)
    (view : Part → EntryTable V) (entry : Entry V) :
    ChangesOnly key [part] view (Function.update view part ((view part).insert key entry)) :=
  ChangesOnly.of_spread
    (Spread.single part (fun table => table.insert key entry) view
      (.ok () : Except StoreError Unit))
    fun table other hother => by
      have hne : other ≠ key := fun hsame => hother (hsame ▸ hkey) hsame
      exact table.get?_insert_of_ne entry hne

/-- The time of expiry of the entry that is visible through some parts, or none. -/
def visibleExpiry (now : Int64) (key : String) (own : List Part) (view : Part → EntryTable V) :
    Int64 :=
  ((own.findSome? fun part => (view part).live? now key).map (·.expiresAt)).getD 0

/-- What a compare-and-set comes to: it changes nothing unless it succeeds, and then all parts have
the new value, with the time of expiry of the entry that was visible. -/
structure Replaces (now : Int64) (key : String) (update : V) (own : List Part)
    (view : Part → EntryTable V) (outcome : Except StoreError Bool)
    (view' : Part → EntryTable V) : Prop extends ChangesOnly key own view view' where
  kept : outcome = .ok false → view' = view
  good : outcome = .ok true → checkKey key = .ok ()
  replaced : outcome = .ok true → ∀ part ∈ own,
    (view' part).get? key = some ⟨update, visibleExpiry now key own view⟩

/-- A compare-and-set that has failed may have changed its own key. -/
theorem Replaces.of_error {now : Int64} {update : V} (h : ChangesOnly key own view view')
    (e : StoreError) : Replaces now key update own view (.error e) view' :=
  ⟨h, fun h => (nomatch h), fun h => (nomatch h), fun h => (nomatch h)⟩

/-- A compare-and-set that does not succeed changes nothing. -/
theorem Replaces.of_kept (now : Int64) (key : String) (update : V) (own : List Part)
    (view : Part → EntryTable V) : Replaces now key update own view (.ok false) view :=
  ⟨ChangesOnly.refl key own view, fun _ => rfl, fun h => (nomatch h), fun h => (nomatch h)⟩

/-- The time of expiry of a visible entry has not come. -/
theorem isExpired_of_visible (now : Int64) (key : String) (own : List Part)
    (view : Part → EntryTable V) (value : V) :
    (⟨value, visibleExpiry now key own view⟩ : Entry V).isExpired now = false := by
  unfold visibleExpiry
  cases hvisible : own.findSome? fun part => (view part).live? now key with
  | none => exact Entry.isExpired_of_unlimited rfl now
  | some entry =>
    obtain ⟨part, -, hlive⟩ := List.exists_of_findSome?_eq_some hvisible
    have hkept := (view part).isExpired_of_kept now key value
    rwa [hlive] at hkept

/-- A call under a key that concerns this key alone concerns no bad key. -/
theorem get?_withKey_of_ne {α : Type} {table : EntryTable V} {other : String}
    {x : Action (EntryTable V) α}
    (hx : other ≠ key → (x table).2.get? other = table.get? other)
    (hother : checkKey other = .ok () → other ≠ key) :
    (EntryTable.withKey key x table).2.get? other = table.get? other := by
  rw [EntryTable.withKey_apply]
  cases hkey : checkKey key with
  | error e => rfl
  | ok u => exact hx fun hsame => hother (hsame ▸ hkey) hsame

/-- A put concerns its own key only. -/
theorem get?_answer_put_of_ne [DecidableEq V] (now : Int64) (value : Option V) (ttl : UInt64)
    (table : EntryTable V) (other : String) (hother : checkKey other = .ok () → other ≠ key) :
    (EntryTable.answer now (.put key value ttl) table).2.get? other = table.get? other := by
  refine get?_withKey_of_ne (fun hne => ?_) hother
  cases value with
  | none => exact table.get?_erase_of_ne hne
  | some value => exact table.get?_insert_of_ne _ hne

/-- A time of expiry concerns its own key only. -/
theorem get?_answer_expire_of_ne [DecidableEq V] (now : Int64) (time : Int64)
    (table : EntryTable V) (other : String) (hother : checkKey other = .ok () → other ≠ key) :
    (EntryTable.answer now (.expire key time) table).2.get? other = table.get? other := by
  refine get?_withKey_of_ne (fun hne => ?_) hother
  show (table.expire now key time).get? other = table.get? other
  unfold EntryTable.expire
  split
  · rfl
  · split
    · exact table.get?_erase_of_ne hne
    · exact table.get?_insert_of_ne _ hne

/-- The time of expiry of a live entry is replaced. -/
theorem get?_expire_self {table : EntryTable V} {now : Int64} {entry : Entry V}
    (hstored : table.get? key = some entry) (hlive : entry.isExpired now = false) (time : Int64) :
    (table.expire now key time).get? key = some { entry with expiresAt := time } := by
  simp only [EntryTable.expire, hstored, hlive]
  exact table.get?_insert_self key _

end Tables

variable [DecidableEq V] [Stored (EntryTable V)] [StoredApart (EntryTable V)] [EntryValue V]

/-- What a call to a store of entries comes to. -/
def Effect (now : Int64) (own : List (PartKind.Part (EntryCall V)))
    (view : PartKind.Part (EntryCall V) → EntryTable V) :
    (call : EntryCall V) → Except StoreError (Interface.Reply call) →
      (PartKind.Part (EntryCall V) → EntryTable V) → Prop
  | .lifecycle op => Spread own (fun table => (EntryTable.answer now (.lifecycle op) table).2) view
  | .get key => Reads (fun found =>
      found = own.findSome? fun part => (view part).live? now key) view
  | .put key value ttl =>
    Spread own (fun table => (EntryTable.answer now (.put key value ttl) table).2) view
  | .expire key time =>
    Spread own (fun table => (EntryTable.answer now (.expire key time) table).2) view
  | .keys value => Reads (fun keys : List String =>
      ∀ key ∈ keys, ∃ part ∈ own, key ∈ (view part).keysHolding now value) view
  | .compareAndSet key _ update => Replaces now key update own view

section Layers

variable {known : List (PartKind.Part (EntryCall V))} {now : Int64}
  {view : PartKind.Part (EntryCall V) → EntryTable V}
  {answer : Handler (At Nat (EntryCall V)) Storage}
  {partsAt : Nat → List (PartKind.Part (EntryCall V))} {lower : List Nat} {key : String}
  {update : V}

variable (hlayers : ∀ place ∈ 0 :: lower, ∀ call view,
    Ends known now view (((Program.ofCall call).at place).run answer)
      (Effect now (partsAt place) view call))
  (hnodup : ((0 :: lower).flatMap partsAt).Nodup)

include hlayers

/-- Given what the front layer has, the visible entry is the first one that is live in a part. -/
theorem ends_visibleEntry {front : Option (Entry V)}
    (hfront : front = (partsAt 0).findSome? fun part => (view part).live? now key) :
    Ends known now view ((Stack.visibleEntry front key lower).run answer)
      (Reads (fun found => found = ((0 :: lower).flatMap partsAt).findSome? fun part =>
        (view part).live? now key) view) := by
  rw [List.flatMap_cons, List.findSome?_append, ← hfront]
  cases front with
  | some entry => exact Ends.pure ⟨rfl, fun _ h => (Except.ok.inj h).symm⟩
  | none =>
    exact Stack.ends_firstHit _ fun place hplace =>
      hlayers place (List.mem_cons_of_mem _ hplace) (.get key) view

include hnodup

/-- A value that all parts have gets its time of expiry in all of them, where it had none before. -/
theorem ends_expireAll (hkey : checkKey key = .ok ()) {time : Int64}
    (htime : (⟨update, time⟩ : Entry V).isExpired now = false)
    (hstored : ∀ part ∈ (0 :: lower).flatMap partsAt, ∃ expiresAt,
      (expiresAt = 0 ∨ expiresAt = time) ∧ (view part).get? key = some ⟨update, expiresAt⟩) :
    Ends known now view ((Stack.fanOut (Entries.expire key time) (0 :: lower)).run answer)
      (fun outcome view' => ChangesOnly key ((0 :: lower).flatMap partsAt) view view' ∧
        (outcome = .ok () → ∀ part ∈ (0 :: lower).flatMap partsAt,
          (view' part).get? key = some ⟨update, time⟩)) := by
  have hspread : Ends known now view
      ((Stack.fanOut (Entries.expire key time) (0 :: lower)).run answer)
      (Spread ((0 :: lower).flatMap partsAt)
        (fun table => (EntryTable.answer now (.expire key time) table).2) view) :=
    Stack.ends_fanOut (fun place hplace view => hlayers place hplace (.expire key time) view) hnodup
  refine hspread.mono fun outcome view' hview' =>
    ⟨ChangesOnly.of_spread hview' (get?_answer_expire_of_ne now time), fun hok part hpart => ?_⟩
  obtain ⟨expiresAt, hexpiresAt, hget⟩ := hstored part hpart
  have hlive : (⟨update, expiresAt⟩ : Entry V).isExpired now = false := by
    rcases hexpiresAt with rfl | rfl
    · exact Entry.isExpired_of_unlimited rfl now
    · exact htime
  rw [hview'.all _ hok part hpart, EntryTable.answer_expire _ now hkey]
  exact get?_expire_self hget hlive time

/-- A value that the front layer has taken is written through to all parts, and gets the time of
expiry of the entry that it replaces. -/
theorem ends_writeThrough (hkey : checkKey key = .ok ()) {time : Int64}
    (htime : (⟨update, time⟩ : Entry V).isExpired now = false)
    (hfront : ∀ part ∈ partsAt 0, ∃ expiresAt, (expiresAt = 0 ∨ expiresAt = time) ∧
      (view part).get? key = some ⟨update, expiresAt⟩) :
    Ends known now view ((Stack.writeThrough key update time 0 lower).run answer)
      (fun outcome view' => ChangesOnly key ((0 :: lower).flatMap partsAt) view view' ∧
        outcome ≠ .ok false ∧
        (outcome = .ok true → ∀ part ∈ (0 :: lower).flatMap partsAt,
          (view' part).get? key = some ⟨update, time⟩)) := by
  have hlower : lower.flatMap partsAt ⊆ (0 :: lower).flatMap partsAt := by
    rw [List.flatMap_cons]
    exact List.subset_append_right _ _
  have hput : Ends known now view
      ((Stack.fanOut (Entries.put key (some update) 0) lower).run answer)
      (Spread (lower.flatMap partsAt)
        (fun table => (EntryTable.answer now (.put key (some update) 0) table).2) view) := by
    refine Stack.ends_fanOut (fun place hplace view => ?_) ?_
    · exact hlayers place (List.mem_cons_of_mem _ hplace) (.put key (some update) 0) view
    · rw [List.flatMap_cons] at hnodup
      exact List.Nodup.of_append_right hnodup
  rw [Stack.writeThrough, Program.run_bind]
  refine Ends.bind hput (fun _ mid hmid => ?_) fun e mid hmid => ?_
  · have hchanges := ChangesOnly.of_spread hmid (get?_answer_put_of_ne now (some update) 0)
    -- Now all parts have the value, but maybe not yet with its time of expiry.
    have hstored : ∀ part ∈ (0 :: lower).flatMap partsAt, ∃ expiresAt,
        (expiresAt = 0 ∨ expiresAt = time) ∧
          (mid part).get? key = some ⟨update, expiresAt⟩ := by
      intro part hpart
      by_cases hrest : part ∈ lower.flatMap partsAt
      · refine ⟨0, .inl rfl, ?_⟩
        rw [hmid.all _ rfl part hrest, EntryTable.answer_put _ now hkey]
        exact (view part).get?_insert_self key _
      · rw [hmid.outside part hrest]
        rw [List.flatMap_cons, List.mem_append] at hpart
        exact hfront part (hpart.resolve_right hrest)
    by_cases hzero : time = 0
    · rw [if_pos hzero]
      refine Ends.pure ⟨hchanges.trans hlower (ChangesOnly.refl key _ mid),
        fun h => (nomatch h), fun _ part hpart => ?_⟩
      obtain ⟨expiresAt, hexpiresAt, hget⟩ := hstored part hpart
      rw [hget, show expiresAt = time from hexpiresAt.elim (fun h => h.trans hzero.symm) id]
    · rw [if_neg hzero, Program.run_bind]
      refine Ends.bind (ends_expireAll hlayers hnodup hkey htime hstored)
        (fun _ last hlast => Ends.pure ⟨?_, fun h => (nomatch h), fun _ => hlast.2 rfl⟩)
        fun e last hlast => ⟨?_, fun h => (nomatch h), fun h => (nomatch h)⟩
      · exact hchanges.trans hlower hlast.1
      · exact hchanges.trans hlower hlast.1
  · exact ⟨(ChangesOnly.of_spread hmid (get?_answer_put_of_ne now (some update) 0)).trans hlower
      (ChangesOnly.refl key _ mid), fun h => (nomatch h), fun h => (nomatch h)⟩

/-- A compare-and-set through layers changes nothing unless it succeeds, and then all parts have
the new value. -/
theorem ends_compareAndSet (expect : Option V) :
    Ends known now view ((Stack.compareAndSet key expect update 0 lower).run answer)
      (Replaces now key update ((0 :: lower).flatMap partsAt) view) := by
  have hrefused : ∀ (e : StoreError), Replaces now key update ((0 :: lower).flatMap partsAt) view
      (.error e) view := Replaces.of_error (ChangesOnly.refl key _ view)
  have hfrontSub : partsAt 0 ⊆ (0 :: lower).flatMap partsAt := by
    rw [List.flatMap_cons]
    exact List.subset_append_left _ _
  rw [Stack.compareAndSet, Program.run_bind]
  refine Ends.bind (hlayers 0 List.mem_cons_self (.get key) view) ?_
    fun e view' hread => hread.unchanged ▸ hrefused e
  intro front view' hread
  have hfront := hread.found front rfl
  rw [hread.unchanged, Program.run_bind]
  refine Ends.bind (ends_visibleEntry hlayers hfront) ?_
    fun e view' hread => hread.unchanged ▸ hrefused e
  intro visible view' hread'
  have hvisible := hread'.found visible rfl
  rw [hread'.unchanged]
  by_cases hmatch : visible.map (·.value) = expect
  · rw [if_pos hmatch, Program.run_bind]
    refine Ends.bind (hlayers 0 List.mem_cons_self
      (.compareAndSet key (front.map Entry.value) update) view) (fun replaced mid hmid => ?_)
      fun e mid hmid => Replaces.of_error
        (hmid.toChangesOnly.trans hfrontSub (ChangesOnly.refl key _ mid)) e
    cases replaced with
    | false =>
      rw [hmid.kept rfl]
      exact Ends.pure (Replaces.of_kept now key update _ view)
    | true =>
      have htime : (visible.map (·.expiresAt)).getD 0 =
          visibleExpiry now key ((0 :: lower).flatMap partsAt) view := by
        rw [hvisible]
        rfl
      have hstored : ∀ part ∈ partsAt 0, ∃ expiresAt,
          (expiresAt = 0 ∨ expiresAt = (visible.map (·.expiresAt)).getD 0) ∧
            (mid part).get? key = some ⟨update, expiresAt⟩ := by
        refine fun part hpart => ⟨_, ?_, hmid.replaced rfl part hpart⟩
        rw [visibleExpiry, ← hfront, hvisible, List.flatMap_cons, List.findSome?_append, ← hfront]
        cases front with
        | none => exact .inl rfl
        | some entry => exact .inr rfl
      refine (ends_writeThrough hlayers hnodup (hmid.good rfl)
        (htime ▸ isExpired_of_visible now key _ view update) hstored).mono ?_
      rintro outcome last ⟨hchanges, hfalse, hall⟩
      exact ⟨hmid.toChangesOnly.trans hfrontSub hchanges, fun h => absurd h hfalse,
        fun _ => hmid.good rfl, fun h => htime ▸ hall h⟩
  · rw [if_neg hmatch]
    exact Ends.pure (Replaces.of_kept now key update _ view)

end Layers

/-- A look-up in one part finds its live entry. -/
theorem reads_answer_get (now : Int64) (part : PartKind.Part (EntryCall V))
    (view : PartKind.Part (EntryCall V) → EntryTable V) (key : String) :
    Effect now [part] view (.get key) (EntryTable.answer now (.get key) (view part)).1
      (Function.update view part (EntryTable.answer now (.get key) (view part)).2) := by
  rw [EntryTable.answer_get]
  refine ⟨Function.update_eq_self part view, fun found h => ?_⟩
  rw [findSome?_singleton]
  cases hkey : checkKey key with
  | error e =>
    rw [hkey] at h
    cases h
  | ok u =>
    rw [hkey] at h
    exact (Except.ok.inj h).symm

/-- A compare-and-set of one part replaces its live entry, or changes nothing. -/
theorem replaces_answer (now : Int64) (part : PartKind.Part (EntryCall V))
    (view : PartKind.Part (EntryCall V) → EntryTable V) (key : String) (expect : Option V)
    (update : V) :
    Effect now [part] view (.compareAndSet key expect update)
      (EntryTable.answer now (.compareAndSet key expect update) (view part)).1
      (Function.update view part
        (EntryTable.answer now (.compareAndSet key expect update) (view part)).2) := by
  cases hkey : checkKey key with
  | error e =>
    have hanswer : EntryTable.answer now (.compareAndSet key expect update) (view part) =
        (.error e, view part) := by
      refine ((view part).withKey_apply key _).trans ?_
      rw [hkey]
    rw [hanswer, Function.update_eq_self]
    exact Replaces.of_error (ChangesOnly.refl key _ view) e
  | ok u =>
    rw [EntryTable.answer_compareAndSet _ now hkey]
    by_cases hmatch : ((view part).live? now key).map (·.value) = expect
    · rw [if_pos hmatch]
      refine ⟨ChangesOnly.insert hkey part view _, fun h => (nomatch h), fun _ => hkey,
        fun _ other hother => ?_⟩
      obtain rfl := List.mem_singleton.1 hother
      rw [Function.update_self, SortedMap.get?_insert_self, visibleExpiry, findSome?_singleton]
    · rw [if_neg hmatch, Function.update_eq_self]
      exact Replaces.of_kept now key update _ view

/-- What calls to entries come to passes from base stores and refusals to stacks. -/
theorem passesThroughLayers :
    PassesThroughLayers fun now own (call : EntryCall V) view => Effect now own view call where
  refused now own call view e := by
    cases call with
    | lifecycle op => exact Spread.refused own _ view e
    | get key => exact Reads.refused _ view e
    | put key value ttl => exact Spread.refused own _ view e
    | expire key time => exact Spread.refused own _ view e
    | keys value => exact Reads.refused _ view e
    | compareAndSet key expect update => exact Replaces.of_error (ChangesOnly.refl key own view) e
  base now part call view := by
    cases call with
    | lifecycle op => exact Spread.single part _ view _
    | get key => exact reads_answer_get now part view key
    | put key value ttl => exact Spread.single part _ view _
    | expire key time => exact Spread.single part _ view _
    | keys value =>
      refine ⟨Function.update_eq_self part view, fun keys h key hkey => ?_⟩
      obtain rfl := Except.ok.inj h
      exact ⟨part, List.mem_singleton_self part, hkey⟩
    | compareAndSet key expect update => exact replaces_answer now part view key expect update
  layers {known now answer partsAt lower} hlayers hnodup call view := by
    have hcall : ∀ place ∈ Stack.places lower, ∀ call view,
        Ends known now view (((Program.ofCall call).at place).run answer)
          (Effect now (partsAt place) view call) := by
      intro place hplace call view
      rw [Stack.run_ofCall_at]
      exact hlayers place hplace call view
    rw [Stack.places_eq] at hcall hnodup ⊢
    cases call with
    | lifecycle op =>
      exact Stack.ends_fanOut (fun place hplace => hcall place hplace (.lifecycle op)) hnodup
    | get key =>
      exact Stack.ends_firstHit _ fun place hplace => hcall place hplace (.get key) view
    | put key value ttl =>
      exact Stack.ends_fanOut (fun place hplace => hcall place hplace (.put key value ttl)) hnodup
    | expire key time =>
      exact Stack.ends_fanOut (fun place hplace => hcall place hplace (.expire key time)) hnodup
    | keys value =>
      exact Stack.ends_firstNonEmpty (fun part key => key ∈ (view part).keysHolding now value)
        fun place hplace => hcall place hplace (.keys value) view
    | compareAndSet key expect update => exact ends_compareAndSet hcall hnodup expect

end EntryCall

end TieredStore
