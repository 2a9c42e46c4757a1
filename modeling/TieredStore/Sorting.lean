/-!
# Sorting by a comparison

Rows are put into order by merging runs, that is, lists that are in order already.
Every element starts as a run of its own, and two runs of about the same length are
merged as soon as both are there.  In a merge an element of the earlier run comes
first if it compares equal, so ties keep their order.

Main results:

- Theorem `sortBy_perm`: sorting only rearranges.
- Theorem `pairwise_sortBy`: the result is in order, for a total and transitive
  comparison.
- Theorem `sortOn_perm`: sorting by keys only rearranges.
-/

namespace TieredStore

section Definitions

variable {α : Type} (le : α → α → Bool)

/-- Puts an element before the first one of a later run that it does not follow; the rest
of its own run goes on from there. -/
def placeBy (a : α) (goOn : List α → List α) : List α → List α
  | [] => a :: goOn []
  | b :: later => if le a b then a :: goOn (b :: later) else b :: placeBy a goOn later

/-- The elements of an earlier and of a later run in order. -/
def mergeBy : List α → List α → List α
  | [], later => later
  | a :: earlier, later => placeBy le a (mergeBy earlier) later

/-- Adds a run to a list of runs, the latest one first.  The runs of the list are longer
and longer, and an empty one leaves its place to a run of its length. -/
def addRunBy (run : List α) : List (List α) → List (List α)
  | [] => [run]
  | [] :: runs => run :: runs
  | earlier :: runs => [] :: addRunBy (mergeBy le earlier run) runs

/-- The elements of a list in the order of `le`; ties keep their order. -/
def sortBy (l : List α) : List α :=
  (l.foldl (fun runs a => addRunBy le [a] runs) []).foldl
    (fun later earlier => mergeBy le earlier later) []

end Definitions

/-- The elements of a list in the order of their keys, which are computed once; ties
keep their order. -/
def sortOn {α κ : Type} (key : α → κ) (le : κ → κ → Bool) (l : List α) : List α :=
  (sortBy (fun a b => le a.1 b.1) (l.map fun a => (key a, a))).map Prod.snd

section Laws

variable {α : Type} {le : α → α → Bool}

/-! ## Sorting only rearranges -/

/-- Placing an element adds it. -/
theorem placeBy_perm (a : α) {goOn : List α → List α} {earlier : List α}
    (h : ∀ later, (goOn later).Perm (earlier ++ later)) (later : List α) :
    (placeBy le a goOn later).Perm (a :: earlier ++ later) := by
  induction later with
  | nil => exact (h []).cons a
  | cons b later ih =>
    unfold placeBy
    split
    · exact (h (b :: later)).cons a
    · exact (ih.cons b).trans List.perm_middle.symm

/-- A merge has the elements of both runs. -/
theorem mergeBy_perm (earlier later : List α) :
    (mergeBy le earlier later).Perm (earlier ++ later) := by
  induction earlier generalizing later with
  | nil => exact List.Perm.refl _
  | cons a earlier ih => exact placeBy_perm a ih later

/-- Adding a run adds its elements. -/
theorem flatten_addRunBy_perm (run : List α) (runs : List (List α)) :
    (addRunBy le run runs).flatten.Perm (run ++ runs.flatten) := by
  induction runs generalizing run with
  | nil => exact List.Perm.refl _
  | cons earlier runs ih =>
    cases earlier with
    | nil => exact List.Perm.refl _
    | cons b earlier =>
      show (addRunBy le (mergeBy le (b :: earlier) run) runs).flatten.Perm
        (run ++ (b :: earlier ++ runs.flatten))
      refine (ih _).trans (((mergeBy_perm _ run).append_right _).trans ?_)
      rw [← List.append_assoc]
      exact List.perm_append_comm.append_right _

/-- Making runs keeps the elements. -/
theorem flatten_foldl_addRunBy_perm (l : List α) (runs : List (List α)) :
    (l.foldl (fun runs a => addRunBy le [a] runs) runs).flatten.Perm (l ++ runs.flatten) := by
  induction l generalizing runs with
  | nil => exact List.Perm.refl _
  | cons a l ih =>
    refine (ih _).trans (((flatten_addRunBy_perm [a] runs).append_left l).trans ?_)
    exact List.perm_middle

/-- Merging runs keeps the elements. -/
theorem foldl_mergeBy_perm (runs : List (List α)) (later : List α) :
    (runs.foldl (fun later earlier => mergeBy le earlier later) later).Perm
      (runs.flatten ++ later) := by
  induction runs generalizing later with
  | nil => exact List.Perm.refl _
  | cons run runs ih =>
    refine (ih _).trans (((mergeBy_perm run later).append_left _).trans ?_)
    rw [List.flatten_cons, ← List.append_assoc]
    exact List.perm_append_comm.append_right _

/-- Sorting only rearranges. -/
theorem sortBy_perm (l : List α) : (sortBy le l).Perm l := by
  have runs := @flatten_foldl_addRunBy_perm α le l []
  have merged := @foldl_mergeBy_perm α le (l.foldl (fun runs a => addRunBy le [a] runs) []) []
  rw [List.append_nil] at merged
  rw [List.flatten_nil, List.append_nil] at runs
  exact merged.trans runs

/-- Sorting keeps the members. -/
@[simp] theorem mem_sortBy {a : α} {l : List α} : a ∈ sortBy le l ↔ a ∈ l :=
  (sortBy_perm l).mem_iff

/-- Sorting by keys only rearranges. -/
theorem sortOn_perm {κ : Type} (key : α → κ) (le : κ → κ → Bool) (l : List α) :
    (sortOn key le l).Perm l := by
  have h : (sortOn key le l).Perm ((l.map fun a => (key a, a)).map Prod.snd) :=
    (sortBy_perm _).map Prod.snd
  rw [List.map_map] at h
  exact h.trans (List.Perm.of_eq (List.map_id l))

/-- Sorting by keys keeps the members. -/
@[simp] theorem mem_sortOn {κ : Type} {key : α → κ} {le : κ → κ → Bool} {a : α} {l : List α} :
    a ∈ sortOn key le l ↔ a ∈ l :=
  (sortOn_perm key le l).mem_iff

/-! ## The result is in order -/

section Order

variable (total : ∀ a b, le a b = true ∨ le b a = true)
  (trans : ∀ a b c, le a b = true → le b c = true → le a c = true)

include total trans

/-- An element is placed where it belongs. -/
theorem pairwise_placeBy {a : α} {goOn : List α → List α} {earlier : List α}
    (elements : ∀ later, (goOn later).Perm (earlier ++ later))
    (ordered : ∀ later, later.Pairwise (fun x y => le x y = true) →
      (goOn later).Pairwise fun x y => le x y = true)
    (first : ∀ c ∈ earlier, le a c = true) {later : List α}
    (h : later.Pairwise fun x y => le x y = true) :
    (placeBy le a goOn later).Pairwise fun x y => le x y = true := by
  induction later with
  | nil =>
    refine List.pairwise_cons.2 ⟨fun c hc => ?_, ordered [] h⟩
    have hc := (elements []).mem_iff.1 hc
    rw [List.append_nil] at hc
    exact first c hc
  | cons b later ih =>
    obtain ⟨hb, hlater⟩ := List.pairwise_cons.1 h
    unfold placeBy
    split
    · rename_i hab
      refine List.pairwise_cons.2 ⟨fun c hc => ?_, ordered _ h⟩
      rcases List.mem_append.1 ((elements _).mem_iff.1 hc) with hc | hc
      · exact first c hc
      · rcases List.mem_cons.1 hc with rfl | hc
        · exact hab
        · exact trans a b c hab (hb c hc)
    · rename_i hab
      have hba : le b a = true := (total a b).resolve_left hab
      refine List.pairwise_cons.2 ⟨fun c hc => ?_, ih hlater⟩
      rcases List.mem_append.1 ((placeBy_perm a elements later).mem_iff.1 hc) with hc | hc
      · rcases List.mem_cons.1 hc with rfl | hc
        · exact hba
        · exact trans b a c hba (first c hc)
      · exact hb c hc

/-- A merge of runs is a run. -/
theorem pairwise_mergeBy {earlier later : List α}
    (hearlier : earlier.Pairwise fun x y => le x y = true)
    (hlater : later.Pairwise fun x y => le x y = true) :
    (mergeBy le earlier later).Pairwise fun x y => le x y = true := by
  induction earlier generalizing later with
  | nil => exact hlater
  | cons a earlier ih =>
    obtain ⟨first, hearlier⟩ := List.pairwise_cons.1 hearlier
    exact pairwise_placeBy total trans (mergeBy_perm earlier) (fun _ h => ih hearlier h) first
      hlater

/-- A list of runs stays one when a run is added. -/
theorem pairwise_of_mem_addRunBy {run : List α} {runs : List (List α)}
    (hrun : run.Pairwise fun x y => le x y = true)
    (hruns : ∀ r ∈ runs, r.Pairwise fun x y => le x y = true) :
    ∀ r ∈ addRunBy le run runs, r.Pairwise fun x y => le x y = true := by
  induction runs generalizing run with
  | nil => exact fun r hr => List.mem_singleton.1 hr ▸ hrun
  | cons earlier runs ih =>
    obtain ⟨hearlier, hrest⟩ := List.forall_mem_cons.1 hruns
    cases earlier with
    | nil => exact List.forall_mem_cons.2 ⟨hrun, hrest⟩
    | cons b earlier =>
      exact List.forall_mem_cons.2
        ⟨List.Pairwise.nil, ih (pairwise_mergeBy total trans hearlier hrun) hrest⟩

/-- The sorted list is in order. -/
theorem pairwise_sortBy (l : List α) : (sortBy le l).Pairwise fun x y => le x y = true := by
  have runs : ∀ (l : List α) (runs : List (List α)),
      (∀ r ∈ runs, r.Pairwise fun x y => le x y = true) →
      ∀ r ∈ l.foldl (fun runs a => addRunBy le [a] runs) runs,
        r.Pairwise fun x y => le x y = true := by
    intro l
    induction l with
    | nil => exact fun _ h => h
    | cons a l ih =>
      exact fun _ h => ih _ (pairwise_of_mem_addRunBy total trans (List.pairwise_singleton _ a) h)
  have merged : ∀ (runs : List (List α)) (later : List α),
      (∀ r ∈ runs, r.Pairwise fun x y => le x y = true) →
      (later.Pairwise fun x y => le x y = true) →
      (runs.foldl (fun later earlier => mergeBy le earlier later) later).Pairwise
        fun x y => le x y = true := by
    intro runs
    induction runs with
    | nil => exact fun _ _ h => h
    | cons run runs ih =>
      intro later hruns hlater
      obtain ⟨hrun, hruns⟩ := List.forall_mem_cons.1 hruns
      exact ih _ hruns (pairwise_mergeBy total trans hrun hlater)
  exact merged _ [] (runs l [] (fun _ h => absurd h List.not_mem_nil)) List.Pairwise.nil

end Order

end Laws

end TieredStore
