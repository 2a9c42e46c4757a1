import TieredStore.Proofs.Stack.Reads

/-!
# Additions by many clients

Several clients of a stack add to the value under one key.  An addition lands when the
compare-and-set of the front layer succeeds.  As long as none has landed, every layer has the
entry that it had at first, so that a client who finds the front layer without one adds to the
value that was visible at first.  After that the front layer always has an entry, and what the
clients write through to the lower layers does not count.

Main results:

- Theorem `MemoryStack.upholds_increment`: an addition that is through has landed exactly
  once, with the value that it returns.
- Theorem `MemoryStack.value_of_increments`: after any schedule, the value of the front layer
  is what was visible at first plus what has landed.
-/

namespace TieredStore

namespace MemoryStack

variable {ι : Type} (stack : MemoryStack (EntryTable Int64)) (key : String) (delta : ι → Int64)

/-! ## What has landed -/

/-- What was added by the calls that have landed. -/
def added (log : List (Event ι (At Nat (EntryCall Int64)) Storage)) : List Int64 :=
  log.filterMap fun e => (stack.landing? key e).map fun _ => delta e.client

/-- The values of a client that have landed. -/
def landed [DecidableEq ι] (i : ι) (log : List (Event ι (At Nat (EntryCall Int64)) Storage)) :
    List Int64 :=
  (log.filter fun e => e.client = i).filterMap (stack.landing? key)

section Landed

variable {stack key delta} {log later : List (Event ι (At Nat (EntryCall Int64)) Storage)}
  {e : Event ι (At Nat (EntryCall Int64)) Storage}

/-- A call that does not land adds nothing. -/
theorem added_concat_of_none (h : stack.landing? key e = none) :
    stack.added key delta (log ++ [e]) = stack.added key delta log := by
  simp [added, h]

/-- A call that lands adds what its client adds. -/
theorem added_concat_of_some {value : Int64} (h : stack.landing? key e = some value) :
    stack.added key delta (log ++ [e]) = stack.added key delta log ++ [delta e.client] := by
  simp [added, h]

/-- If nothing has been added by now, nothing had been before. -/
theorem added_eq_nil_of_isPrefix (hextends : log <+: later)
    (h : stack.added key delta later = []) : stack.added key delta log = [] := by
  obtain ⟨more, rfl⟩ := hextends
  rw [added, List.filterMap_append] at h
  exact (List.append_eq_nil_iff.1 h).1

variable [DecidableEq ι] {i : ι}

/-- A call that does not land adds no value of its client. -/
theorem landed_concat_of_none (h : stack.landing? key e = none) :
    stack.landed key i (log ++ [e]) = stack.landed key i log := by
  by_cases hclient : e.client = i
  · simp [landed, hclient, h]
  · simp [landed, hclient]

/-- A call that lands adds its value to those of its client. -/
theorem landed_concat_of_some {value : Int64} (h : stack.landing? key e = some value)
    (hclient : e.client = i) :
    stack.landed key i (log ++ [e]) = stack.landed key i log ++ [value] := by
  simp [landed, hclient, h]

/-- The calls of others add no value of a client. -/
theorem landed_meanwhile (h : Meanwhile i log later) :
    stack.landed key i later = stack.landed key i log := by
  obtain ⟨others, rfl, hothers⟩ := h
  have hnone : (others.filter fun e => e.client = i) = [] :=
    List.filter_eq_nil_iff.2 fun e he hclient => hothers e he (of_decide_eq_true hclient)
  rw [landed, List.filter_append, hnone, List.append_nil, landed]

end Landed

/-! ## The invariant -/

/-- Whether the additions to a value, of which some have landed, have made of a first storage what
is there now. -/
structure Adding [DecidableEq ι] (first : Storage)
    (log : List (Event ι (At Nat (EntryCall Int64)) Storage)) (s : Storage) : Prop where
  holds : ∀ place ≤ stack.lower.length, s.Holds (stack.ref place)
  unlimited : ∀ place ≤ stack.lower.length, ∀ entry, stack.stored? s key place = some entry →
    entry.expiresAt = 0
  untouched : stack.added key delta log = [] → ∀ place ≤ stack.lower.length,
    stack.stored? s key place = stack.stored? first key place
  taken : stack.added key delta log ≠ [] → (stack.stored? s key 0).isSome
  value : ∀ entry, stack.stored? s key 0 = some entry →
    entry.value = (stack.visible? first key).getD 0 + (stack.added key delta log).sum
  once : ∀ i, (stack.landed key i log).length ≤ 1

namespace Adding

variable [DecidableEq ι] {stack key delta} {first s : Storage}
  {log later : List (Event ι (At Nat (EntryCall Int64)) Storage)}
  {request : At Nat (EntryCall Int64)}

/-- Nothing has landed at the start. -/
theorem start (hholds : ∀ place ≤ stack.lower.length, first.Holds (stack.ref place))
    (hunlimited : ∀ place ≤ stack.lower.length, ∀ entry,
      stack.stored? first key place = some entry → entry.expiresAt = 0) :
    stack.Adding key delta first [] first where
  holds := hholds
  unlimited := hunlimited
  untouched _ _ _ := rfl
  taken h := absurd rfl h
  value entry hentry := by
    have hlive : stack.live? first key 0 = some entry :=
      (live?_of_unlimited (hunlimited 0 (Nat.zero_le _))).trans hentry
    rw [visible?_of_front hlive]
    simp [added]
  once _ := Nat.zero_le 1

/-- A call that does not land makes no difference in the log. -/
theorem concat_of_none (h : stack.Adding key delta first log s)
    {e : Event ι (At Nat (EntryCall Int64)) Storage} (hnone : stack.landing? key e = none) :
    stack.Adding key delta first (log ++ [e]) s := by
  refine ⟨h.holds, h.unlimited, ?_, ?_, ?_, fun i => ?_⟩
  · rw [added_concat_of_none hnone]
    exact h.untouched
  · rw [added_concat_of_none hnone]
    exact h.taken
  · rw [added_concat_of_none hnone]
    exact h.value
  · rw [landed_concat_of_none hnone]
    exact h.once i

/-- Storages that have the same under the key are as good as each other. -/
theorem congr {t : Storage} (h : stack.Adding key delta first log s)
    (hholds : ∀ place ≤ stack.lower.length, t.Holds (stack.ref place))
    (hstored : ∀ place ≤ stack.lower.length, stack.stored? t key place = stack.stored? s key place) :
    stack.Adding key delta first log t := by
  refine ⟨hholds, fun place hplace => ?_, fun hnone place hplace => ?_, fun hsome => ?_, ?_, h.once⟩
  · rw [hstored place hplace]
    exact h.unlimited place hplace
  · rw [hstored place hplace]
    exact h.untouched hnone place hplace
  · rw [hstored 0 (Nat.zero_le _)]
    exact h.taken hsome
  · rw [hstored 0 (Nat.zero_le _)]
    exact h.value

/-- The time makes no difference. -/
theorem withClock (h : stack.Adding key delta first log s) (time : Int64) :
    stack.Adding key delta first log { s with clock := time } :=
  h.congr (fun place hplace => (Storage.holds_withClock_iff s time).2 (h.holds place hplace))
    fun _ _ => congrArg (SortedMap.get? · key) (Storage.cell_withClock s time _)

/-- A call that spares the key makes no difference. -/
theorem answer_of_spares (h : stack.Adding key delta first log s)
    (hspares : request.call.Spares key) :
    stack.Adding key delta first log (stack.answer (EntryCall Int64) request s).2 :=
  h.congr (fun place hplace => holds_answer (h.holds place hplace))
    fun place hplace =>
      stored?_answer_of_spares hspares (h.holds place hplace) (h.unlimited place hplace)

/-- A read is one call more in the log. -/
theorem answer_get (h : stack.Adding key delta first log s) (i : ι) (place : Nat) :
    stack.Adding key delta first (log ++ [⟨i, ⟨place, .get key⟩, s⟩])
      (stack.answer (EntryCall Int64) ⟨place, .get key⟩ s).2 := by
  have hread : stack.Adding key delta first log
      (stack.answer (EntryCall Int64) ⟨place, .get key⟩ s).2 := h.answer_of_spares trivial
  exact hread.concat_of_none (landing?_get i place key s)

/-- A compare-and-set of the front layer that is refused is one call more in the log. -/
theorem answer_front_of_refused (h : stack.Adding key delta first log s)
    (hkey : checkKey key = .ok ()) (i : ι) {expect : Option Int64}
    (hmatch : ¬(stack.live? s key 0).map (·.value) = expect) (update : Int64) :
    stack.Adding key delta first (log ++ [⟨i, ⟨0, .compareAndSet key expect update⟩, s⟩])
      (stack.answer (EntryCall Int64) ⟨0, .compareAndSet key expect update⟩ s).2 := by
  have hnone : stack.landing? key ⟨i, ⟨0, .compareAndSet key expect update⟩, s⟩ = none :=
    (landing?_compareAndSet hkey i expect update s).trans (if_neg hmatch)
  refine (h.congr (fun place hplace => holds_answer (h.holds place hplace))
    fun place hplace => ?_).concat_of_none hnone
  by_cases hzero : place = 0
  · subst hzero
    exact stored?_answer_front_of_refused hkey (h.holds 0 hplace) hmatch update
  · exact stored?_answer_of_ne (Nat.zero_le _) hplace hzero

/-- A compare-and-set of the front layer that succeeds lands an addition, if the update is what a
client adds to what there is. -/
theorem answer_front (h : stack.Adding key delta first log s) (hkey : checkKey key = .ok ())
    (i : ι) {expect : Option Int64} (hmatch : (stack.live? s key 0).map (·.value) = expect)
    {update : Int64} (hupdate : update =
      (stack.visible? first key).getD 0 + (stack.added key delta log).sum + delta i)
    (hown : stack.landed key i log = []) :
    stack.Adding key delta first (log ++ [⟨i, ⟨0, .compareAndSet key expect update⟩, s⟩])
      (stack.answer (EntryCall Int64) ⟨0, .compareAndSet key expect update⟩ s).2 := by
  have hlands : stack.landing? key ⟨i, ⟨0, .compareAndSet key expect update⟩, s⟩ = some update :=
    (landing?_compareAndSet hkey i expect update s).trans (if_pos hmatch)
  have hadded : stack.added key delta
      (log ++ [⟨i, ⟨0, .compareAndSet key expect update⟩, s⟩]) =
      stack.added key delta log ++ [delta i] := added_concat_of_some hlands
  have hkept : ((stack.live? s key 0).map (·.expiresAt)).getD 0 = 0 := by
    rw [live?_of_unlimited (h.unlimited 0 (Nat.zero_le _))]
    cases hstored : stack.stored? s key 0 with
    | none => rfl
    | some entry => exact h.unlimited 0 (Nat.zero_le _) entry hstored
  have hfront := stored?_answer_front hkey (h.holds 0 (Nat.zero_le _)) hmatch update
  rw [hkept] at hfront
  refine ⟨fun place hplace => holds_answer (h.holds place hplace), ?_, ?_, ?_, ?_, fun j => ?_⟩
  · intro place hplace entry hentry
    by_cases hzero : place = 0
    · subst hzero
      rw [hfront] at hentry
      cases hentry
      rfl
    · rw [stored?_answer_of_ne (Nat.zero_le _) hplace hzero] at hentry
      exact h.unlimited place hplace entry hentry
  · intro hnone
    rw [hadded] at hnone
    simp at hnone
  · intro _
    rw [hfront]
    rfl
  · intro entry hentry
    rw [hfront] at hentry
    cases hentry
    rw [hadded, hupdate]
    simp [Int64.add_assoc]
  · by_cases hclient : i = j
    · subst hclient
      rw [landed_concat_of_some hlands rfl, hown]
      exact Nat.le_refl 1
    · rw [landed_meanwhile (Meanwhile.of_event log hclient)]
      exact h.once j

/-- Writing a value through to a lower layer makes no difference once the front layer has one: a
late write may leave an older value below, but the front layer hides it. -/
theorem answer_put (h : stack.Adding key delta first log s) (hkey : checkKey key = .ok ())
    (i : ι) (hlanded : stack.added key delta log ≠ []) {place : Nat}
    (hplace : place ≤ stack.lower.length) (hlower : place ≠ 0) (value : Int64) :
    stack.Adding key delta first (log ++ [⟨i, ⟨place, .put key (some value) 0⟩, s⟩])
      (stack.answer (EntryCall Int64) ⟨place, .put key (some value) 0⟩ s).2 := by
  have hfront : stack.stored?
      (stack.answer (EntryCall Int64) ⟨place, .put key (some value) 0⟩ s).2 key 0 =
      stack.stored? s key 0 := stored?_answer_of_ne hplace (Nat.zero_le _) (Ne.symm hlower)
  refine concat_of_none ⟨fun other hother => holds_answer (h.holds other hother), ?_,
    fun hnone => absurd hnone hlanded, ?_, ?_, h.once⟩ (landing?_put i place key (some value) 0 s)
  · intro other hother entry hentry
    by_cases hsame : other = place
    · subst hsame
      rw [stored?_answer_put hkey (h.holds other hother)] at hentry
      cases hentry
      rfl
    · rw [stored?_answer_of_ne hplace hother hsame] at hentry
      exact h.unlimited other hother entry hentry
  · rw [hfront]
    exact h.taken
  · rw [hfront]
    exact h.value

end Adding

/-! ## What a client knows -/

section Clients

variable {stack key delta} [DecidableEq ι] {first : Storage} {i : ι} {own : List Int64}
  {log later : List (Event ι (At Nat (EntryCall Int64)) Storage)}

/-- What was seen at a place never expires. -/
theorem Saw.unlimited {place : Nat} {entry : Entry Int64}
    (h : stack.Saw (stack.Adding key delta first) i key log place (some entry))
    (hplace : place ≤ stack.lower.length) : entry.expiresAt = 0 := by
  obtain ⟨now, s, -, hinv, hlive⟩ := h
  rw [live?_of_unlimited (hinv.unlimited place hplace)] at hlive
  exact hinv.unlimited place hplace entry hlive

/-- If nothing has landed, then what was seen at a place was there at first. -/
theorem Saw.untouched {place : Nat} {hit : Option (Entry Int64)}
    (h : stack.Saw (stack.Adding key delta first) i key log place hit)
    (hplace : place ≤ stack.lower.length) (hnone : stack.added key delta log = []) :
    stack.stored? first key place = hit := by
  obtain ⟨now, s, hnow, hinv, hlive⟩ := h
  rw [live?_of_unlimited (hinv.unlimited place hplace)] at hlive
  have hbefore := added_eq_nil_of_isPrefix ((List.prefix_append now _).trans hnow) hnone
  exact (hinv.untouched hbefore place hplace).symm.trans hlive

/-- The first entry that was seen never expires. -/
theorem FirstSeen.unlimited {places : List Nat} {hit : Option (Entry Int64)}
    (h : stack.FirstSeen (stack.Adding key delta first) i key log places hit)
    (hplaces : ∀ place ∈ places, place ≤ stack.lower.length) :
    (hit.map (·.expiresAt)).getD 0 = 0 := by
  induction h with
  | nowhere => rfl
  | here saw => exact saw.unlimited (hplaces _ List.mem_cons_self)
  | further _ _ ih => exact ih fun other hother => hplaces other (List.mem_cons_of_mem _ hother)

/-- If nothing has landed, then the first entry that was seen is the one that was there at
first. -/
theorem FirstSeen.untouched {places : List Nat} {hit : Option (Entry Int64)}
    (h : stack.FirstSeen (stack.Adding key delta first) i key log places hit)
    (hplaces : ∀ place ∈ places, place ≤ stack.lower.length)
    (hnone : stack.added key delta log = []) :
    places.findSome? (stack.stored? first key) = hit := by
  induction h with
  | nowhere => rfl
  | here saw =>
    rw [List.findSome?_cons, saw.untouched (hplaces _ List.mem_cons_self) hnone]
  | further saw _ ih =>
    rw [List.findSome?_cons, saw.untouched (hplaces _ List.mem_cons_self) hnone]
    exact ih fun other hother => hplaces other (List.mem_cons_of_mem _ hother)

/-- If the front layer still has what was read there, the value that was visible is what there
is. -/
theorem Adding.value_of_seen {front visible : Option (Entry Int64)} {t : Storage}
    (hfirst : ∀ place ≤ stack.lower.length, ∀ entry,
      stack.stored? first key place = some entry → entry.expiresAt = 0)
    (h : stack.Adding key delta first later t) (hlater : log <+: later)
    (hseen : stack.FirstSeen (stack.Adding key delta first) i key log
      (0 :: Stack.lowerPlaces stack.lower.length) visible)
    (hfront : front.isSome → visible = front)
    (hfree : (stack.live? t key 0).map (·.value) = front.map (·.value)) :
    (visible.map (·.value)).getD 0 =
      (stack.visible? first key).getD 0 + (stack.added key delta later).sum := by
  rw [live?_of_unlimited (h.unlimited 0 (Nat.zero_le _))] at hfree
  cases front with
  | none =>
    -- The front layer has no entry, so that nothing has landed.
    have hempty : stack.stored? t key 0 = none := Option.map_eq_none_iff.1 hfree
    have hnone : stack.added key delta later = [] := by
      by_contra hsome
      have htaken := h.taken hsome
      rw [hempty] at htaken
      cases htaken
    have hvisible := hseen.untouched (fun place => Stack.mem_places_iff.1)
      (added_eq_nil_of_isPrefix hlater hnone)
    rw [hnone, ← hvisible, visible?_of_unlimited hfirst, Stack.places_eq]
    simp
  | some entry =>
    obtain ⟨entry', hentry', hsame⟩ := Option.map_eq_some_iff.1 hfree
    rw [hfront rfl, ← h.value entry' hentry', hsame]
    rfl

/-- Reads keep the invariant, and nothing lands by them. -/
theorem keptByReads : stack.KeptByReads (stack.Adding key delta first) i key
    fun log => stack.landed key i log = own where
  inv _ _ place h := h.answer_get i place
  own _ s place h := (landed_concat_of_none (landing?_get i place key s)).trans h
  meanwhile _ _ hlater h := (landed_meanwhile hlater).trans h

/-- Writing through to the lower layers after a value has landed. -/
theorem upholds_fanOut_put (hkey : checkKey key = .ok ()) (value : Int64) {places : List Nat}
    (hplaces : ∀ place ∈ places, place ≠ 0 ∧ place ≤ stack.lower.length)
    (hlanded : stack.added key delta log ≠ []) (hown : stack.landed key i log = own) :
    (Stack.fanOut (Entries.put key (some value) 0) places).Upholds
      (stack.answer (EntryCall Int64)) (stack.Adding key delta first) i
      (fun outcome later => outcome = .ok () ∧ stack.landed key i later = own) log := by
  induction places generalizing log with
  | nil => exact Program.Upholds.pure fun later hlater => ⟨rfl, (landed_meanwhile hlater).trans hown⟩
  | cons place rest ih =>
    obtain ⟨hlower, hplace⟩ := hplaces place List.mem_cons_self
    rw [Stack.fanOut_cons]
    refine Program.Upholds.call fun now s hnow hinv => ?_
    have hnonempty : stack.added key delta now ≠ [] :=
      fun hnone => hlanded (added_eq_nil_of_isPrefix hnow.isPrefix hnone)
    have hput : stack.landing? key ⟨i, ⟨place, .put key (some value) 0⟩, s⟩ = none :=
      landing?_put i place key (some value) 0 s
    refine ⟨(), MemoryStack.answer_put hkey place (some value) 0 s,
      hinv.answer_put hkey i hnonempty hplace hlower value, ?_⟩
    refine ih (fun other hother => hplaces other (List.mem_cons_of_mem _ hother)) ?_ ?_
    · rw [added_concat_of_none hput]
      exact hnonempty
    · rw [landed_concat_of_none hput, landed_meanwhile hnow, hown]

/-- Writing through a value that has landed, for an entry that never expires. -/
theorem upholds_writeThrough (hkey : checkKey key = .ok ()) (value : Int64)
    (hlanded : stack.added key delta log ≠ []) (hown : stack.landed key i log = own) :
    (Stack.writeThrough key value 0 0 (Stack.lowerPlaces stack.lower.length)).Upholds
      (stack.answer (EntryCall Int64)) (stack.Adding key delta first) i
      (fun outcome later => outcome = .ok true ∧ stack.landed key i later = own) log := by
  refine Program.Upholds.bind ((upholds_fanOut_put hkey value
    (fun place => Stack.mem_lowerPlaces_iff.1) hlanded hown).mono ?_)
  rintro outcome later - ⟨rfl, hlater⟩
  exact Program.Upholds.pure fun last hlast => ⟨rfl, (landed_meanwhile hlast).trans hlater⟩

variable (hfirst : ∀ place ≤ stack.lower.length, ∀ entry,
  stack.stored? first key place = some entry → entry.expiresAt = 0)

include hfirst

/-- Setting the front layer to what is visible and what is added to it, if it still has what was
read there: the value lands if this succeeds. -/
theorem upholds_front (hkey : checkKey key = .ok ()) {front visible : Option (Entry Int64)}
    (hown : stack.landed key i log = []) (hfront : front.isSome → visible = front)
    (hseen : stack.FirstSeen (stack.Adding key delta first) i key log
      (0 :: Stack.lowerPlaces stack.lower.length) visible) {update : Int64}
    (hupdate : update = (visible.map (·.value)).getD 0 + delta i) :
    Program.Upholds (stack.answer (EntryCall Int64)) (stack.Adding key delta first) i
      (fun outcome later => ∃ stored, outcome = .ok stored ∧
        stack.landed key i later = if stored then [update] else [])
      ((Entries.compareAndSet key (front.map (·.value)) update).at 0 >>= fun replaced =>
        if replaced then Stack.writeThrough key update ((visible.map (·.expiresAt)).getD 0) 0
          (Stack.lowerPlaces stack.lower.length)
        else pure false) log := by
  refine Program.Upholds.call fun later t hlater hinv => ?_
  have hbefore := (landed_meanwhile hlater).trans hown
  have hlanding : stack.landing? key
      ⟨i, ⟨0, .compareAndSet key (front.map (·.value)) update⟩, t⟩ = _ :=
    landing?_compareAndSet hkey i _ update t
  have hanswer : (stack.answer (EntryCall Int64)
      ⟨0, .compareAndSet key (front.map (·.value)) update⟩ t).1 = _ :=
    MemoryStack.answer_front hkey _ update t
  by_cases hfree : (stack.live? t key 0).map (·.value) = front.map (·.value)
  · rw [if_pos hfree] at hlanding
    rw [decide_eq_true hfree] at hanswer
    have hvalue := hinv.value_of_seen hfirst hlater.isPrefix hseen hfront hfree
    refine ⟨true, hanswer, hinv.answer_front hkey i hfree (by rw [hupdate, hvalue]) hbefore, ?_⟩
    rw [if_pos rfl, hseen.unlimited fun place => Stack.mem_places_iff.1]
    refine (upholds_writeThrough hkey update ?_ (landed_concat_of_some hlanding rfl)).mono ?_
    · rw [added_concat_of_some hlanding]
      exact List.concat_ne_nil _ _
    · rintro outcome last - ⟨rfl, hlast⟩
      refine ⟨true, rfl, ?_⟩
      rw [hlast, hbefore]
      rfl
  · rw [if_neg hfree] at hlanding
    rw [decide_eq_false hfree] at hanswer
    refine ⟨false, hanswer, hinv.answer_front_of_refused hkey i hfree update, ?_⟩
    refine Program.Upholds.pure fun last hlast => ⟨false, rfl, ?_⟩
    rw [landed_meanwhile hlast, landed_concat_of_none hlanding, hbefore]
    rfl

/-- A compare-and-set that adds to the value that it expects lands once if it succeeds, and not
at all otherwise. -/
theorem upholds_addition (hkey : checkKey key = .ok ()) (current : Option Int64)
    (hown : stack.landed key i log = []) :
    (Stack.compareAndSet key current (current.getD 0 + delta i) 0
        (Stack.lowerPlaces stack.lower.length)).Upholds
      (stack.answer (EntryCall Int64)) (stack.Adding key delta first) i
      (fun outcome later => ∃ stored, outcome = .ok stored ∧ stack.landed key i later =
        if stored then [current.getD 0 + delta i] else []) log := by
  refine upholds_compareAndSet keptByReads hkey hown (fun later hlater => ⟨false, rfl, hlater⟩) ?_
  intro later front visible hown hfront hseen hmatch
  exact upholds_front hfirst hkey hown hfront hseen (by rw [hmatch])

/-- An addition that is through has landed once, with the value that it returns, or has not landed
and used up its attempts. -/
theorem upholds_increment (hkey : checkKey key = .ok ()) (attempts : Nat)
    (hnone : stack.landed key i log = []) :
    ((Entries.increment key (delta i) attempts).through
        (StoreKind.throughLayers stack.lower.length)).Upholds
      (stack.answer (EntryCall Int64)) (stack.Adding key delta first) i
      (fun outcome later => ∃ result, outcome = .ok result ∧
        stack.landed key i later = result.toList) log := by
  induction attempts generalizing log with
  | zero =>
    exact Program.Upholds.pure fun later hlater =>
      ⟨none, rfl, (landed_meanwhile hlater).trans hnone⟩
  | succ attempts ih =>
    refine Program.Upholds.bind ((upholds_firstHit keptByReads hkey
      (0 :: Stack.lowerPlaces stack.lower.length) hnone).mono ?_)
    rintro outcome now - ⟨hit, rfl, hown, -⟩
    refine Program.Upholds.bind ((upholds_addition hfirst hkey (hit.map (·.value)) hown).mono ?_)
    rintro outcome later - ⟨stored, rfl, hlanded⟩
    cases stored with
    | true =>
      exact Program.Upholds.pure fun last hlast =>
        ⟨some _, rfl, (landed_meanwhile hlast).trans hlanded⟩
    | false => exact ih hlanded

end Clients

/-! ## Whole runs -/

/-- What clients come to that each add to the value under a key, taking turns. -/
def increments [DecidableEq ι] (attempts : ι → Nat) (moves : List (Move ι (Outside (EntryCall Int64))))
    (s : Storage) : Crowd ι (At Nat (EntryCall Int64)) Storage (Option Int64) :=
  stack.takeTurns moves s fun i =>
    (Entries.increment key (delta i) (attempts i)).through
      (StoreKind.throughLayers stack.lower.length)

/-- If many clients add to a value that never expires, by any schedule and with anything else going
on that spares the key, then the front layer holds what was visible at first plus what has landed,
no addition lands twice, and one that is through has landed with the value that it returns. -/
theorem value_of_increments [DecidableEq ι] (hkey : key ≠ "") (attempts : ι → Nat)
    {moves : List (Move ι (Outside (EntryCall Int64)))} {s : Storage}
    (hholds : ∀ place ≤ stack.lower.length, s.Holds (stack.ref place))
    (hunlimited : ∀ place ≤ stack.lower.length, ∀ entry,
      stack.stored? s key place = some entry → entry.expiresAt = 0)
    (hspares : ∀ request, .outside (.call request) ∈ moves → request.call.Spares key) :
    (∀ entry, stack.live? (stack.increments key delta attempts moves s).state key 0 = some entry →
      entry.value = (stack.visible? s key).getD 0 +
        (stack.added key delta (stack.increments key delta attempts moves s).log).sum) ∧
    (∀ i, (stack.landed key i (stack.increments key delta attempts moves s).log).length ≤ 1) ∧
    ∀ i outcome, ((stack.increments key delta attempts moves s).rest i).outcome? = some outcome →
      ∃ result, outcome = .ok result ∧
        stack.landed key i (stack.increments key delta attempts moves s).log = result.toList := by
  have hkept : (stack.increments key delta attempts moves s).Kept
      (stack.answer (EntryCall Int64)) (stack.Adding key delta s)
      fun i outcome log => ∃ result, outcome = .ok result ∧
        stack.landed key i log = result.toList := by
    refine Crowd.Kept.run ?_ ⟨Adding.start hholds hunlimited, fun i => ?_⟩
    · intro change hchange log t hinv
      cases change with
      | clock time => exact hinv.withClock time
      | call request => exact hinv.answer_of_spares (hspares request hchange)
    · exact upholds_increment hunlimited (checkKey_of_ne hkey) (attempts i) rfl
  refine ⟨fun entry hentry => ?_, hkept.inv.once, fun i outcome => hkept.knows⟩
  rw [live?_of_unlimited (hkept.inv.unlimited 0 (Nat.zero_le _))] at hentry
  exact hkept.inv.value entry hentry

/-- Of two clients that add to a value of the back layer at the same time, the one that comes late
to the front layer tries again. -/
theorem value_of_increments_race :
    let stack : MemoryStack (EntryTable Int64) :=
      ⟨"stack", ⟨"front", ⟨0⟩⟩, [⟨"back", ⟨1⟩⟩], by decide⟩
    let s : Storage := { counters := ⟨#[∅, .ofList [("k", ⟨5, 0⟩)]]⟩ }
    let moves : List (Move Bool (Outside (EntryCall Int64))) :=
      [.client true, .client true, .client false, .client false, .client false, .client false,
        .outside (.clock 9), .client false, .outside (.call ⟨0, .put "l" (some 1) 0⟩),
        .client true, .client true, .client true, .client true, .client true, .client false]
    let delta : Bool → Int64 := fun late => if late then 1 else 2
    "k" ≠ "" ∧ (∀ place ≤ stack.lower.length, s.Holds (stack.ref place)) ∧
      (∀ place ≤ stack.lower.length, ∀ entry,
        stack.stored? s "k" place = some entry → entry.expiresAt = 0) ∧
      (∀ request, .outside (.call request) ∈ moves → request.call.Spares "k") ∧
      ((stack.increments "k" delta (fun _ => 2) moves s).rest true).outcome? =
        some (.ok (some 8)) ∧
      (∀ entry, stack.live? (stack.increments "k" delta (fun _ => 2) moves s).state "k" 0 = some entry →
        entry.value = (stack.visible? s "k").getD 0 +
          (stack.added "k" delta (stack.increments "k" delta (fun _ => 2) moves s).log).sum) ∧
      (∀ i, (stack.landed "k" i (stack.increments "k" delta (fun _ => 2) moves s).log).length ≤ 1) ∧
      ∀ i outcome, ((stack.increments "k" delta (fun _ => 2) moves s).rest i).outcome? = some outcome →
        ∃ result, outcome = .ok result ∧
          stack.landed "k" i (stack.increments "k" delta (fun _ => 2) moves s).log = result.toList := by
  intro stack s moves delta
  have hkey : "k" ≠ "" := by decide
  have hholds : ∀ place ≤ stack.lower.length, s.Holds (stack.ref place) := by decide
  have hunlimited : ∀ place ≤ stack.lower.length, ∀ entry,
      stack.stored? s "k" place = some entry → entry.expiresAt = 0 := by
    intro place hplace entry hentry
    have hcases : place = 0 ∨ place = 1 := by
      have hlength : stack.lower.length = 1 := rfl
      omega
    rcases hcases with rfl | rfl
    · rw [show stack.stored? s "k" 0 = none from rfl] at hentry
      cases hentry
    · rw [show stack.stored? s "k" 1 = some ⟨5, 0⟩ from rfl] at hentry
      cases hentry
      rfl
  have hspares : ∀ request, .outside (.call request) ∈ moves → request.call.Spares "k" := by
    intro request hrequest
    simp only [moves, List.mem_cons, reduceCtorEq, false_or, Move.outside.injEq,
      Outside.call.injEq, List.not_mem_nil, or_false] at hrequest
    subst hrequest
    exact (by decide : "l" ≠ "k")
  have hdone : ((stack.increments "k" delta (fun _ => 2) moves s).rest true).outcome? =
      some (.ok (some 8)) := by decide +kernel
  exact ⟨hkey, hholds, hunlimited, hspares, hdone,
    stack.value_of_increments "k" delta hkey (fun _ => 2) hholds hunlimited hspares⟩

end MemoryStack

end TieredStore
