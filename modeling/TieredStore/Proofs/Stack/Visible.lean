import TieredStore.Proofs.Entry.Answers
import TieredStore.Proofs.Interleaving.Upholds
import TieredStore.Proofs.Storage.MemoryStores

/-!
# What is visible through the layers

The live entries under a key at the layers of a stack, the value that is visible through
them, and what calls to single layers do to the entries under a key.  A compare-and-set that
the front layer answers with success is where the value of a client lands.

Main results:

- Theorem `MemoryStack.run_value?`: a read of the stack that nobody disturbs gives the
  visible value.
- Theorem `MemoryStack.answer_front`: when a compare-and-set of the front layer succeeds.
- Theorem `MemoryStack.stored?_answer_of_spares`: calls that spare a key leave its entries
  alone at every layer.
-/

namespace TieredStore

/-- A change from outside of the storage that a stack is kept in: the clock is set, or somebody
makes a call to a layer. -/
inductive Outside (Call : Type) where
  | clock (time : Int64)
  | call (request : At Nat Call)

namespace MemoryStack

section Turns

variable {Call Table : Type} [Interface Call] [StoreKind Call] [Inhabited Table] [Stored Table]
  [MemoryKind Call Table] (stack : MemoryStack Table)

/-- What a change from outside does. -/
def shift : Outside Call → Storage → Storage
  | .clock time, s => (Storage.setClock time s).2
  | .call request, s => (stack.answer Call request s).2

/-- What the clients of a stack come to if they take turns with single calls to its layers. -/
def takeTurns {ι α : Type} [DecidableEq ι] (moves : List (Move ι (Outside Call))) (s : Storage)
    (programs : ι → Program (At Nat Call) α) : Crowd ι (At Nat Call) Storage α :=
  Crowd.run (stack.answer Call) stack.shift moves { state := s, rest := programs }

end Turns

variable {V : Type} [Stored (EntryTable V)] (stack : MemoryStack (EntryTable V))

/-! ## Live entries and the visible value -/

/-- The live entry under a key at a layer. -/
def live? (s : Storage) (key : String) (place : Nat) : Option (Entry V) :=
  (s.cell (stack.ref place)).live? s.clock key

/-- The value that is visible under a key: that of the first layer with a live entry. -/
def visible? (s : Storage) (key : String) : Option V :=
  ((Stack.places stack.lower.length).findSome? (stack.live? s key)).map (·.value)

/-- The entry that is stored under a key at a layer. -/
def stored? (s : Storage) (key : String) (place : Nat) : Option (Entry V) :=
  (s.cell (stack.ref place)).get? key

variable {stack} {s : Storage} {key : String} {place : Nat}

/-- If the front layer has a live entry, its value is visible. -/
theorem visible?_of_front {entry : Entry V} (h : stack.live? s key 0 = some entry) :
    stack.visible? s key = some entry.value := by
  rw [visible?, Stack.places_eq, List.findSome?_cons, h]
  rfl

/-- An entry that never expires is live. -/
theorem live?_of_unlimited
    (hunlimited : ∀ entry, stack.stored? s key place = some entry → entry.expiresAt = 0) :
    stack.live? s key place = stack.stored? s key place :=
  (s.cell (stack.ref place)).live?_of_unlimited s.clock key hunlimited

/-- Without entries that expire, the first live entry at some places is the first entry there. -/
theorem findSome?_live?_of_unlimited (hunlimited : ∀ place ≤ stack.lower.length, ∀ entry,
      stack.stored? s key place = some entry → entry.expiresAt = 0) {places : List Nat}
    (hplaces : ∀ place ∈ places, place ≤ stack.lower.length) :
    places.findSome? (stack.live? s key) = places.findSome? (stack.stored? s key) := by
  induction places with
  | nil => rfl
  | cons place rest ih =>
    rw [List.findSome?_cons, List.findSome?_cons,
      live?_of_unlimited (hunlimited place (hplaces place List.mem_cons_self)),
      ih fun other hother => hplaces other (List.mem_cons_of_mem _ hother)]

/-- Without entries that expire, the visible value is that of the first layer with an entry. -/
theorem visible?_of_unlimited (hunlimited : ∀ place ≤ stack.lower.length, ∀ entry,
      stack.stored? s key place = some entry → entry.expiresAt = 0) :
    stack.visible? s key =
      ((Stack.places stack.lower.length).findSome? (stack.stored? s key)).map (·.value) := by
  rw [visible?, Stack.places_eq,
    findSome?_live?_of_unlimited hunlimited fun place => Stack.mem_places_iff.1]

/-! ## Answers of single layers -/

variable [DecidableEq V] [EntryValue V]

/-- A read at a layer gives its live entry. -/
theorem answer_get (hkey : checkKey key = .ok ()) (place : Nat) (s : Storage) :
    (stack.answer (EntryCall V) ⟨place, .get key⟩ s).1 = .ok (stack.live? s key place) := by
  rw [answer_apply]
  exact congrArg Prod.fst (EntryTable.answer_get_of_key _ _ hkey)

/-- A compare-and-set of the front layer succeeds exactly if its live value is the expected
one. -/
theorem answer_front (hkey : checkKey key = .ok ()) (expect : Option V) (update : V)
    (s : Storage) :
    (stack.answer (EntryCall V) ⟨0, .compareAndSet key expect update⟩ s).1 =
      .ok (decide ((stack.live? s key 0).map (·.value) = expect)) := by
  rw [answer_apply]
  refine (congrArg Prod.fst (EntryTable.answer_compareAndSet _ _ hkey expect update)).trans ?_
  by_cases hmatch : (stack.live? s key 0).map (·.value) = expect
  · rw [decide_eq_true hmatch]
    exact congrArg Prod.fst (if_pos hmatch)
  · rw [decide_eq_false hmatch]
    exact congrArg Prod.fst (if_neg hmatch)

/-- A value can be put to every layer. -/
theorem answer_put (hkey : checkKey key = .ok ()) (place : Nat) (value : Option V) (ttl : UInt64)
    (s : Storage) :
    (stack.answer (EntryCall V) ⟨place, .put key value ttl⟩ s).1 = .ok () := by
  rw [answer_apply]
  exact congrArg Prod.fst (EntryTable.answer_put _ _ hkey value ttl)

/-- A read under a bad key fails at every layer. -/
theorem answer_get_of_error {e : StoreError} (hkey : checkKey key = .error e) (place : Nat)
    (s : Storage) : (stack.answer (EntryCall V) ⟨place, .get key⟩ s).1 = .error e := by
  rw [answer_apply]
  refine (congrArg Prod.fst (EntryTable.answer_get _ _ key)).trans ?_
  rw [hkey]
  rfl

variable (stack) in
/-- The value that a client stores by a call, if that is a compare-and-set of the front layer
under a key and succeeds. -/
def landing? {ι : Type} (key : String) :
    Event ι (At Nat (EntryCall V)) Storage → Option V
  | ⟨_, ⟨0, .compareAndSet other expect update⟩, s⟩ =>
    match (stack.answer (EntryCall V) ⟨0, .compareAndSet other expect update⟩ s).1 with
    | .ok true => if other = key then some update else none
    | _ => none
  | _ => none

/-- A value lands exactly if the live value of the front layer is the expected one. -/
theorem landing?_compareAndSet {ι : Type} (hkey : checkKey key = .ok ()) (i : ι)
    (expect : Option V) (update : V) (s : Storage) :
    stack.landing? key ⟨i, ⟨0, .compareAndSet key expect update⟩, s⟩ =
      if (stack.live? s key 0).map (·.value) = expect then some update else none := by
  rw [landing?, answer_front hkey]
  by_cases hmatch : (stack.live? s key 0).map (·.value) = expect
  · rw [decide_eq_true hmatch, if_pos hmatch]
    exact if_pos rfl
  · rw [decide_eq_false hmatch, if_neg hmatch]

/-- Nothing lands by a read. -/
theorem landing?_get {ι : Type} (i : ι) (place : Nat) (other : String) (s : Storage) :
    stack.landing? key ⟨i, ⟨place, .get other⟩, s⟩ = none := by
  cases place <;> rfl

/-- Nothing lands by writing a value to a layer. -/
theorem landing?_put {ι : Type} (i : ι) (place : Nat) (other : String) (value : Option V)
    (ttl : UInt64) (s : Storage) :
    stack.landing? key ⟨i, ⟨place, .put other value ttl⟩, s⟩ = none := by
  cases place <;> rfl

section Undisturbed

variable [StoredApart (EntryTable V)] {clock : Int64} {tables : Nat → EntryTable V}

/-- The first hit is the live entry of the first place that has one. -/
theorem yields_firstHit_get (hkey : checkKey key = .ok ()) {places : List Nat}
    (hplaces : ∀ place ∈ places, place ≤ stack.lower.length) :
    stack.Yields clock tables (Stack.firstHit (Entries.entry? key) places)
      (.ok (places.findSome? fun place => (tables place).live? clock key)) tables := by
  induction places with
  | nil => exact yields_pure none
  | cons place rest ih =>
    have hread : stack.Yields clock tables ((Entries.entry? key).at place)
        (.ok ((tables place).live? clock key)) tables :=
      yields_read (hplaces place List.mem_cons_self) (Entries.run_get _ clock hkey)
    rw [Stack.firstHit_cons, List.findSome?_cons]
    refine hread.bind ?_
    cases (tables place).live? clock key with
    | some entry => exact yields_pure (some entry)
    | none => exact ih fun other hother => hplaces other (List.mem_cons_of_mem _ hother)

/-- A read of the stack that nobody disturbs gives the visible value. -/
theorem run_value? (hkey : checkKey key = .ok ())
    (hholds : ∀ place ≤ stack.lower.length, s.Holds (stack.ref place)) :
    ((Entries.value? key).run (stack.store (EntryCall V)).perform s).1 =
      .ok (stack.visible? s key) := by
  have hshows : stack.Shows s fun place => s.cell (stack.ref place) :=
    fun place hplace => ⟨hholds place hplace, rfl⟩
  have hhit := (yields_firstHit_get hkey (fun place => Stack.mem_places_iff.1) s hshows rfl).1
  have hget : (Entries.entry? key).run (stack.store (EntryCall V)).perform =
      (Stack.firstHit (Entries.entry? key) (0 :: Stack.lowerPlaces stack.lower.length)).run
        (stack.answer (EntryCall V)) :=
    (Program.run_ofCall _ _).trans (stack.perform_store (EntryCall.get key))
  rw [Entries.value?, Program.run_bind, Action.bind_apply, hget, visible?, Stack.places_eq]
  rcases hrun : (Stack.firstHit (Entries.entry? key)
    (0 :: Stack.lowerPlaces stack.lower.length)).run (stack.answer (EntryCall V)) s with ⟨result, s'⟩
  rw [hrun] at hhit
  cases hhit
  rfl

end Undisturbed

/-! ## What calls to single layers do -/

section Stored

variable [StoredApart (EntryTable V)] {request : At Nat (EntryCall V)} {other : Nat}

/-- No call to a layer frees a cell. -/
theorem holds_answer {ref : Ref (EntryTable V)} (hholds : s.Holds ref) :
    (stack.answer (EntryCall V) request s).2.Holds ref := by
  rw [answer_apply]
  exact (Storage.holds_setCell_iff _).2 hholds

/-- A call to a layer leaves the other layers alone. -/
theorem stored?_answer_of_ne (hplace : request.place ≤ stack.lower.length)
    (hother : other ≤ stack.lower.length) (hne : other ≠ request.place) :
    stack.stored? (stack.answer (EntryCall V) request s).2 key other =
      stack.stored? s key other := by
  rw [stored?, answer_apply, Storage.cell_setCell_of_ne _ _ (stack.ref_ne hother hplace hne),
    stored?]

/-- A call to a layer is answered from its table. -/
theorem stored?_answer_self (hholds : s.Holds (stack.ref request.place)) :
    stack.stored? (stack.answer (EntryCall V) request s).2 key request.place =
      (EntryTable.answer s.clock request.call (s.cell (stack.ref request.place))).2.get? key := by
  rw [stored?, answer_apply, Storage.cell_setCell_self _ hholds]
  rfl

/-- The front layer takes the update if its live value is the expected one. -/
theorem stored?_answer_front (hkey : checkKey key = .ok ()) (hholds : s.Holds (stack.ref 0))
    {expect : Option V} (hmatch : (stack.live? s key 0).map (·.value) = expect) (update : V) :
    stack.stored? (stack.answer (EntryCall V) ⟨0, .compareAndSet key expect update⟩ s).2 key 0 =
      some ⟨update, ((stack.live? s key 0).map (·.expiresAt)).getD 0⟩ := by
  refine (stored?_answer_self hholds).trans ?_
  have hanswer := (EntryTable.answer_compareAndSet (s.cell (stack.ref 0)) s.clock hkey expect
    update).trans (if_pos hmatch)
  rw [hanswer, SortedMap.get?_insert_self]
  rfl

/-- The front layer is left alone if its live value is another one. -/
theorem stored?_answer_front_of_refused (hkey : checkKey key = .ok ())
    (hholds : s.Holds (stack.ref 0)) {expect : Option V}
    (hmatch : ¬(stack.live? s key 0).map (·.value) = expect) (update : V) :
    stack.stored? (stack.answer (EntryCall V) ⟨0, .compareAndSet key expect update⟩ s).2 key 0 =
      stack.stored? s key 0 := by
  refine (stored?_answer_self hholds).trans ?_
  have hanswer := (EntryTable.answer_compareAndSet (s.cell (stack.ref 0)) s.clock hkey expect
    update).trans (if_neg hmatch)
  rw [hanswer]
  rfl

/-- A layer takes a value that is put there. -/
theorem stored?_answer_put (hkey : checkKey key = .ok ()) (hholds : s.Holds (stack.ref place))
    (value : V) :
    stack.stored? (stack.answer (EntryCall V) ⟨place, .put key (some value) 0⟩ s).2 key place =
      some ⟨value, 0⟩ := by
  refine (stored?_answer_self hholds).trans ?_
  rw [EntryTable.answer_put _ _ hkey]
  exact SortedMap.get?_insert_self _ _ _

/-- Calls that spare a key leave its entries alone at every layer, if they never expire. -/
theorem stored?_answer_of_spares (hspares : request.call.Spares key)
    (hholds : s.Holds (stack.ref other))
    (hunlimited : ∀ entry, stack.stored? s key other = some entry → entry.expiresAt = 0) :
    stack.stored? (stack.answer (EntryCall V) request s).2 key other =
      stack.stored? s key other := by
  rw [stored?, answer_apply]
  by_cases hsame : stack.ref other = stack.ref request.place
  · rw [← hsame, Storage.cell_setCell_self _ hholds]
    exact EntryTable.get?_answer_of_spares _ s.clock key hspares hunlimited
  · rw [Storage.cell_setCell_of_ne _ _ hsame, stored?]

end Stored

end MemoryStack

end TieredStore
