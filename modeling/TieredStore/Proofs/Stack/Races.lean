import TieredStore.Proofs.Stack.Reads

/-!
# Compare-and-set among other clients

A compare-and-set of a stack reads the layers one by one until it has the visible value, and
then sets the front layer if it still has the live value that was read there.  Other clients
and the clock may change the layers in between.  A front layer with a live entry settles the
matter; below one without, the value that was visible may have changed unnoticed.

Main results:

- Theorem `MemoryStack.visible?_of_success`: after a success, the expected value was the
  visible one when the front layer was set, if the front layer had a live value or the layers
  that were read had kept theirs.
- Theorem `MemoryStack.not_visible?_of_success`: not so without this condition.
-/

namespace TieredStore

namespace MemoryStack

variable {ι : Type} (stack : MemoryStack (EntryTable Int64)) (i : ι) (key : String)

/-- Whether the layers that a client has called have the live values that they had then. -/
def Unchanged (log : List (Event ι (At Nat (EntryCall Int64)) Storage)) (s : Storage) : Prop :=
  ∀ e ∈ log, e.client = i →
    (stack.live? e.before key e.call.place).map (·.value) =
      (stack.live? s key e.call.place).map (·.value)

/-- Whether a value of a client landed in the front layer, and the expected value was the visible
one at this moment if the front layer had a live value or the layers that the client had called
had kept theirs. -/
def Took (expect : Option Int64) (update : Int64)
    (log : List (Event ι (At Nat (EntryCall Int64)) Storage)) : Prop :=
  ∃ early e late, log = early ++ e :: late ∧ e.client = i ∧
    stack.landing? key e = some update ∧
    ((stack.live? e.before key 0).isSome ∨ stack.Unchanged i key early e.before →
      stack.visible? e.before key = expect)

variable {stack i key} {log : List (Event ι (At Nat (EntryCall Int64)) Storage)}

/-- What was called by then is part of what was called later. -/
theorem Unchanged.of_prefix {later : List (Event ι (At Nat (EntryCall Int64)) Storage)}
    {s : Storage} (h : stack.Unchanged i key later s) (hextends : log <+: later) :
    stack.Unchanged i key log s :=
  fun e he => h e (hextends.subset he)

variable {Inv : List (Event ι (At Nat (EntryCall Int64)) Storage) → Storage → Prop} {s : Storage}

/-- What was seen is still there if the layers keep their values. -/
theorem Saw.value_of_unchanged {place : Nat} {own : Option (Entry Int64)}
    (h : stack.Saw Inv i key log place own) (hunchanged : stack.Unchanged i key log s) :
    own.map (·.value) = (stack.live? s key place).map (·.value) := by
  obtain ⟨now, t, hnow, -, hlive⟩ := h
  have hread := hunchanged ⟨i, ⟨place, .get key⟩, t⟩
    (hnow.subset (List.mem_append_right now List.mem_cons_self)) rfl
  rwa [hlive] at hread

/-- The first entry that was seen is still the first one if the layers keep their values. -/
theorem FirstSeen.value_of_unchanged {places : List Nat} {hit : Option (Entry Int64)}
    (h : stack.FirstSeen Inv i key log places hit) (hunchanged : stack.Unchanged i key log s) :
    (places.findSome? (stack.live? s key)).map (·.value) = hit.map (·.value) := by
  induction h with
  | nowhere => rfl
  | here saw =>
    obtain ⟨entry, hentry, hsame⟩ :=
      Option.map_eq_some_iff.1 (saw.value_of_unchanged hunchanged).symm
    rw [List.findSome?_cons, hentry]
    exact congrArg some hsame
  | further saw _ ih =>
    rw [List.findSome?_cons, Option.map_eq_none_iff.1 (saw.value_of_unchanged hunchanged).symm]
    exact ih

/-- Whoever sets the front layer with the value that was seen there takes what is visible, if the
front layer has a live value or nothing that was seen has changed. -/
theorem upholds_set (hkey : checkKey key = .ok ()) {expect : Option Int64} {update : Int64}
    {front visible : Option (Entry Int64)} (hfront : front.isSome → visible = front)
    (hseen : stack.FirstSeen (fun _ _ => True) i key log
      (0 :: Stack.lowerPlaces stack.lower.length) visible)
    (hmatch : visible.map (·.value) = expect)
    (rest : Bool → Program (At Nat (EntryCall Int64)) Bool) (hrest : rest false = pure false) :
    Program.Upholds (stack.answer (EntryCall Int64)) (fun _ _ => True) i
      (fun outcome later => outcome = .ok true → stack.Took i key expect update later)
      ((Entries.compareAndSet key (front.map (·.value)) update).at 0 >>= rest) log := by
  refine Program.Upholds.call fun now t hnow _ => ⟨_, answer_front hkey _ update t, trivial, ?_⟩
  by_cases hfree : (stack.live? t key 0).map (·.value) = front.map (·.value)
  · refine Program.Upholds.of_forall (fun _ _ => trivial) _ fun outcome last hlast _ => ?_
    obtain ⟨late, rfl⟩ := hlast
    refine ⟨now, ⟨i, ⟨0, .compareAndSet key _ update⟩, t⟩, late, List.append_assoc _ _ _, rfl,
      (landing?_compareAndSet hkey i _ update t).trans (if_pos hfree), ?_⟩
    rintro (hsome | hunchanged)
    · obtain ⟨entry, hentry⟩ := Option.isSome_iff_exists.1 hsome
      rw [hentry] at hfree
      have hown : front.isSome := by
        rw [← Option.isSome_map, ← hfree]
        rfl
      rw [visible?_of_front hentry, ← hmatch, hfront hown]
      exact hfree
    · rw [visible?, Stack.places_eq, ← hmatch]
      exact hseen.value_of_unchanged (hunchanged.of_prefix hnow.isPrefix)
  · rw [decide_eq_false hfree, hrest]
    refine Program.Upholds.pure fun _ _ hsuccess => ?_
    cases hsuccess

/-- A compare-and-set that succeeds has set the front layer, and has done so with the expected
value visible if nothing that it read was changed. -/
theorem upholds_success (expect : Option Int64) (update : Int64) :
    (Stack.compareAndSet key expect update 0 (Stack.lowerPlaces stack.lower.length)).Upholds
      (stack.answer (EntryCall Int64)) (fun _ _ => True) i
      (fun outcome later => outcome = .ok true → stack.Took i key expect update later) log := by
  cases hkey : checkKey key with
  | error e =>
    exact Program.Upholds.call_error fun later s _ _ =>
      ⟨e, answer_get_of_error hkey 0 s, trivial, fun _ _ h => nomatch h⟩
  | ok u =>
    have hkept : stack.KeptByReads (fun _ _ => True) i key fun _ => True :=
      ⟨fun _ _ _ _ => trivial, fun _ _ _ _ => trivial, fun _ _ _ _ => trivial⟩
    refine upholds_compareAndSet hkept hkey trivial (fun _ _ h => nomatch h) ?_
    intro later front visible _ hfront hseen hmatch
    exact upholds_set hkey hfront hseen hmatch _ rfl

/-- A compare-and-set that has returned success, whatever other clients did between its calls, has
set the front layer at a moment when the expected value was the visible one, if the front layer
had a live value then or the layers that had been read had kept theirs. -/
theorem visible?_of_success [DecidableEq ι] (expect : Option Int64) (update : Int64)
    {programs : ι → Program (At Nat (EntryCall Int64)) Bool}
    {moves : List (Move ι (Outside (EntryCall Int64)))}
    (hstart : programs i =
      Stack.compareAndSet key expect update 0 (Stack.lowerPlaces stack.lower.length))
    (hsuccess : ((stack.takeTurns moves s programs).rest i).outcome? = some (.ok true)) :
    stack.Took i key expect update (stack.takeTurns moves s programs).log := by
  have hkept : (stack.takeTurns moves s programs).Kept (stack.answer (EntryCall Int64))
      (fun _ _ => True) fun j outcome log =>
        j = i → outcome = .ok true → stack.Took i key expect update log := by
    refine Crowd.Kept.run (fun _ _ _ _ _ => trivial) ⟨trivial, fun j => ?_⟩
    by_cases hj : j = i
    · subst hj
      show Program.Upholds _ _ _ _ (programs j) []
      rw [hstart]
      exact (upholds_success expect update).mono fun _ _ _ h _ => h
    · exact Program.Upholds.of_forall (fun _ _ => trivial) _ fun _ _ _ hji => absurd hji hj
  exact hkept.knows hsuccess rfl rfl

/-- A time of expiry that another client sets between the calls, and time that goes by, do not keep a
compare-and-set from taking the value of the front layer. -/
theorem visible?_of_success_warm :
    let stack : MemoryStack (EntryTable Int64) :=
      ⟨"stack", ⟨"front", ⟨0⟩⟩, [⟨"back", ⟨1⟩⟩], by decide⟩
    let s : Storage := { counters := ⟨#[.ofList [("k", ⟨5, 0⟩)], ∅]⟩ }
    let programs : Bool → Program (At Nat (EntryCall Int64)) Bool := fun
      | true => Stack.compareAndSet "k" (some 5) 6 0 (Stack.lowerPlaces 1)
      | false => (Entries.expire "k" 10 >>= fun _ => pure true).through (StoreKind.throughLayers 1)
    let moves : List (Move Bool (Outside (EntryCall Int64))) :=
      [.client true, .client false, .outside (.clock 9), .client true, .client true]
    programs true =
        Stack.compareAndSet "k" (some 5) 6 0 (Stack.lowerPlaces stack.lower.length) ∧
      ((stack.takeTurns moves s programs).rest true).outcome? = some (.ok true) ∧
      stack.Took true "k" (some 5) 6 (stack.takeTurns moves s programs).log := by
  intro stack s programs moves
  have hstart : programs true =
      Stack.compareAndSet "k" (some 5) 6 0 (Stack.lowerPlaces stack.lower.length) := rfl
  have hsuccess : ((stack.takeTurns moves s programs).rest true).outcome? = some (.ok true) := by
    decide +kernel
  exact ⟨hstart, hsuccess, visible?_of_success (some 5) 6 hstart hsuccess⟩

/-- Otherwise a value may be replaced that is visible no more: a compare-and-set has read the
value of the back layer when another client removes it from both layers, and still finds the front
layer as empty as before. -/
theorem not_visible?_of_success :
    let stack : MemoryStack (EntryTable Int64) :=
      ⟨"stack", ⟨"front", ⟨0⟩⟩, [⟨"back", ⟨1⟩⟩], by decide⟩
    let s : Storage := { counters := ⟨#[∅, .ofList [("k", ⟨5, 0⟩)]]⟩ }
    let programs : Bool → Program (At Nat (EntryCall Int64)) Bool := fun
      | true => Stack.compareAndSet "k" (some 5) 6 0 (Stack.lowerPlaces 1)
      | false => (Entries.remove "k" >>= fun _ => pure true).through (StoreKind.throughLayers 1)
    ¬∀ moves : List (Move Bool (Outside (EntryCall Int64))),
      ((stack.takeTurns moves s programs).rest true).outcome? = some (.ok true) →
        ∃ e ∈ (stack.takeTurns moves s programs).log, e.client = true ∧
          stack.landing? "k" e = some 6 ∧ stack.visible? e.before "k" = some 5 := by
  intro stack s programs h
  let moves : List (Move Bool (Outside (EntryCall Int64))) :=
    [.client true, .client true, .client false, .client false, .client true, .client true]
  have hdone : ((stack.takeTurns moves s programs).rest true).outcome? = some (.ok true) := by
    decide +kernel
  have hnone : ∀ e ∈ (stack.takeTurns moves s programs).log, e.client = true →
      stack.landing? "k" e = some 6 → stack.visible? e.before "k" ≠ some 5 := by
    decide +kernel
  obtain ⟨e, he, hclient, hlands, hvisible⟩ := h moves hdone
  exact hnone e he hclient hlands hvisible

end MemoryStack

end TieredStore
