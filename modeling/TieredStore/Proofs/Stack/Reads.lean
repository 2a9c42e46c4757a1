import TieredStore.Proofs.Interleaving.Upholds
import TieredStore.Proofs.Stack.Visible

/-!
# Reading layer by layer among other clients

A client of a stack reads the layers one by one, and others may change them between its
calls.  What it has seen then is a matter of its own calls in the log, each within the
invariant of the state that it met.

Main results:

- Theorem `MemoryStack.upholds_firstHit`: looking through some layers gives the first entry
  that was seen there.
- Theorem `MemoryStack.upholds_compareAndSet`: what is left of a compare-and-set after it has
  read the layers is to set the front layer and to write through.
-/

namespace TieredStore

namespace MemoryStack

variable {ι V : Type} [Stored (EntryTable V)] (stack : MemoryStack (EntryTable V))
  (Inv : List (Event ι (At Nat (EntryCall V)) Storage) → Storage → Prop)
  (i : ι) (key : String)

/-- Whether a client has read a live entry, or that there is none, at a place. -/
def Saw (log : List (Event ι (At Nat (EntryCall V)) Storage)) (place : Nat)
    (own : Option (Entry V)) : Prop :=
  ∃ now s, now ++ [⟨i, ⟨place, .get key⟩, s⟩] <+: log ∧ Inv now s ∧ stack.live? s key place = own

/-- Whether a client has looked through some places, and where it has seen the first entry. -/
inductive FirstSeen (log : List (Event ι (At Nat (EntryCall V)) Storage)) :
    List Nat → Option (Entry V) → Prop where
  | nowhere : FirstSeen log [] none
  | here {place : Nat} {rest : List Nat} {entry : Entry V}
      (saw : stack.Saw Inv i key log place (some entry)) :
      FirstSeen log (place :: rest) (some entry)
  | further {place : Nat} {rest : List Nat} {hit : Option (Entry V)}
      (saw : stack.Saw Inv i key log place none) (seen : FirstSeen log rest hit) :
      FirstSeen log (place :: rest) hit

variable {stack Inv i key} {log later : List (Event ι (At Nat (EntryCall V)) Storage)}

/-- What was seen stays seen. -/
theorem Saw.extends {place : Nat} {own : Option (Entry V)} (h : stack.Saw Inv i key log place own)
    (hlater : log <+: later) : stack.Saw Inv i key later place own := by
  obtain ⟨now, s, hnow, hinv, hlive⟩ := h
  exact ⟨now, s, hnow.trans hlater, hinv, hlive⟩

/-- What was seen stays seen. -/
theorem FirstSeen.extends {places : List Nat} {hit : Option (Entry V)}
    (h : stack.FirstSeen Inv i key log places hit) (hlater : log <+: later) :
    stack.FirstSeen Inv i key later places hit := by
  induction h with
  | nowhere => exact .nowhere
  | here saw => exact .here (saw.extends hlater)
  | further saw _ ih => exact .further (saw.extends hlater) ih

variable [DecidableEq V] [EntryValue V]

variable (stack Inv i key) in
/-- Whether reads under a key keep an invariant, and something that a client knows about its own
calls. -/
structure KeptByReads (Own : List (Event ι (At Nat (EntryCall V)) Storage) → Prop) : Prop where
  inv : ∀ log s place, Inv log s →
    Inv (log ++ [⟨i, ⟨place, .get key⟩, s⟩]) (stack.answer (EntryCall V) ⟨place, .get key⟩ s).2
  own : ∀ log s place, Own log → Own (log ++ [⟨i, ⟨place, .get key⟩, s⟩])
  meanwhile : ∀ log later, Meanwhile i log later → Own log → Own later

variable {Own : List (Event ι (At Nat (EntryCall V)) Storage) → Prop}

/-- Looking through some layers gives the first entry that was seen there. -/
theorem upholds_firstHit (hkept : stack.KeptByReads Inv i key Own) (hkey : checkKey key = .ok ())
    (places : List Nat) (hown : Own log) :
    (Stack.firstHit (Entries.entry? key) places).Upholds (stack.answer (EntryCall V)) Inv i
      (fun outcome later => ∃ hit, outcome = .ok hit ∧ Own later ∧
        stack.FirstSeen Inv i key later places hit) log := by
  induction places generalizing log with
  | nil =>
    exact Program.Upholds.pure fun later hlater =>
      ⟨none, rfl, hkept.meanwhile log later hlater hown, .nowhere⟩
  | cons place rest ih =>
    rw [Stack.firstHit_cons]
    refine Program.Upholds.call fun now s hnow hinv =>
      ⟨_, answer_get hkey place s, hkept.inv now s place hinv, ?_⟩
    have hown' := hkept.own now s place (hkept.meanwhile log now hnow hown)
    have hsaw : stack.Saw Inv i key (now ++ [⟨i, ⟨place, .get key⟩, s⟩]) place
        (stack.live? s key place) := ⟨now, s, List.prefix_rfl, hinv, rfl⟩
    cases hlive : stack.live? s key place with
    | some entry =>
      rw [hlive] at hsaw
      exact Program.Upholds.pure fun later hlater => ⟨some entry, rfl,
        hkept.meanwhile _ later hlater hown', .here (hsaw.extends hlater.isPrefix)⟩
    | none =>
      rw [hlive] at hsaw
      refine (ih hown').mono ?_
      rintro outcome later hlater ⟨hit, rfl, hown, hseen⟩
      exact ⟨hit, rfl, hown, .further (hsaw.extends hlater) hseen⟩

/-- Given what was seen at the front layer, the visible entry is the first one that was seen. -/
theorem upholds_visibleEntry (hkept : stack.KeptByReads Inv i key Own)
    (hkey : checkKey key = .ok ()) {front : Option (Entry V)}
    (hsaw : stack.Saw Inv i key log 0 front) (hown : Own log) :
    (Stack.visibleEntry front key (Stack.lowerPlaces stack.lower.length)).Upholds
      (stack.answer (EntryCall V)) Inv i (fun outcome later => ∃ visible, outcome = .ok visible ∧
        Own later ∧ (front.isSome → visible = front) ∧ stack.FirstSeen Inv i key later
          (0 :: Stack.lowerPlaces stack.lower.length) visible) log := by
  cases front with
  | some entry =>
    exact Program.Upholds.pure fun later hlater => ⟨some entry, rfl,
      hkept.meanwhile log later hlater hown, fun _ => rfl, .here (hsaw.extends hlater.isPrefix)⟩
  | none =>
    refine (upholds_firstHit hkept hkey _ hown).mono ?_
    rintro outcome later hlater ⟨hit, rfl, hown, hseen⟩
    exact ⟨hit, rfl, hown, fun h => (nomatch h), .further (hsaw.extends hlater) hseen⟩

/-- After a compare-and-set has read the layers, it gives up or sets the front layer. -/
theorem upholds_compareAndSet (hkept : stack.KeptByReads Inv i key Own)
    (hkey : checkKey key = .ok ()) {expect : Option V} {update : V}
    {Knows : Except StoreError Bool → List (Event ι (At Nat (EntryCall V)) Storage) → Prop}
    (hown : Own log) (hfailed : ∀ later, Own later → Knows (.ok false) later)
    (hset : ∀ later front visible, Own later → (front.isSome → visible = front) →
      stack.FirstSeen Inv i key later (0 :: Stack.lowerPlaces stack.lower.length) visible →
      visible.map (·.value) = expect →
      Program.Upholds (stack.answer (EntryCall V)) Inv i Knows
        ((Entries.compareAndSet key (front.map (·.value)) update).at 0 >>= fun replaced =>
          if replaced then Stack.writeThrough key update ((visible.map (·.expiresAt)).getD 0) 0
            (Stack.lowerPlaces stack.lower.length)
          else pure false) later) :
    (Stack.compareAndSet key expect update 0 (Stack.lowerPlaces stack.lower.length)).Upholds
      (stack.answer (EntryCall V)) Inv i Knows log := by
  refine Program.Upholds.call fun now s hnow hinv =>
    ⟨_, answer_get hkey 0 s, hkept.inv now s 0 hinv, ?_⟩
  have hown' := hkept.own now s 0 (hkept.meanwhile log now hnow hown)
  have hsaw : stack.Saw Inv i key (now ++ [⟨i, ⟨0, .get key⟩, s⟩]) 0 (stack.live? s key 0) :=
    ⟨now, s, List.prefix_rfl, hinv, rfl⟩
  refine Program.Upholds.bind ((upholds_visibleEntry hkept hkey hsaw hown').mono ?_)
  rintro outcome later - ⟨visible, rfl, hown, hfront, hseen⟩
  dsimp only
  by_cases hmatch : visible.map (·.value) = expect
  · rw [if_pos hmatch]
    exact hset later _ visible hown hfront hseen hmatch
  · rw [if_neg hmatch]
    exact Program.Upholds.pure fun last hlast => hfailed last (hkept.meanwhile later last hlast hown)

end MemoryStack

end TieredStore
