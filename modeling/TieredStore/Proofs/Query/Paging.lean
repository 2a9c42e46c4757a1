import TieredStore.Proofs.Query.Arrangement

/-!
# Answers and their pages

A query puts the rows that match it into order: by the values of the sort field from low to high or
from high to low, and rows that tie from low to high OID in either case.  Rows with different OIDs
can be put into this order in one way only, so it does not matter in which order they are found.
The answer is the part of them from the offset up to the limit, and pages of one length that follow
each other are all of them, whatever ties there are.

Main results:

- Theorem `Query.precedes_iff`: rows are compared by the order that the query states.
- Theorem `Query.Arranges.unique`: the rows that match have one arrangement.
- Theorem `Query.flatMap_evaluate_paged`: the first pages of one length are the first rows.
- Theorem `Query.exists_answer`: the answer of a query, and of every page of it, is a part of the
  one arrangement.
-/

namespace TieredStore

open Std

/-- Pieces of one length that follow each other are the beginning of the list. -/
theorem flatMap_pieces {α : Type} (l : List α) (size n : Nat) :
    ((List.range n).flatMap fun i => (l.drop (i * size)).take size) = l.take (n * size) := by
  induction n with
  | zero => simp
  | succ n ih =>
    rw [List.range_succ, List.flatMap_append, ih, List.flatMap_singleton, Nat.succ_mul,
      List.take_add]

namespace Query

variable {α : Type} [Row α]

/-! ## The order of rows -/

/-- The value that a row is sorted by: null if the row does not have the field. -/
def sortValue (field : String) (row : α) : Value := ((Row.fields row).get? field).getD .null

/-- Whether a row comes before another one: because of the values of the sort field, in the
direction of the order; or because of the OIDs, if the values tie or there is no sort field. -/
def Precedes (order : Option OrderBy) (a b : α) : Prop :=
  match order with
  | none => compare (Row.oid a) (Row.oid b) = .lt
  | some order =>
    let values := (sortValue order.field a).compareForSort (sortValue order.field b)
    (match order.direction with
      | .ascending => values = .lt
      | .descending => values = .gt) ∨
      values = .eq ∧ compare (Row.oid a) (Row.oid b) = .lt

/-- Rows are compared by the order that the query states. -/
theorem precedes_iff (order : Option OrderBy) (a b : α) :
    Precedes order a b ↔ compareKeys order (rowKey order a) (rowKey order b) = .lt := by
  rcases order with - | ⟨field, - | -⟩
  · exact Iff.rfl
  · exact Ordering.then_eq_lt.symm
  · refine Iff.trans ?_ Ordering.then_eq_lt.symm
    rw [Ordering.swap_eq_lt, Ordering.swap_eq_eq]
    exact Iff.rfl

/-- Of two rows one at most comes before the other. -/
theorem Precedes.asymm {order : Option OrderBy} {a b : α} (h : Precedes order a b) :
    ¬Precedes order b a := by
  rw [precedes_iff] at h ⊢
  have hswap : compareKeys order (rowKey order b) (rowKey order a) =
      (compareKeys order (rowKey order a) (rowKey order b)).swap := OrientedCmp.eq_swap
  rw [hswap, h]
  nofun

/-- Arranged rows with different OIDs are in strict order. -/
theorem pairwise_precedes_arrange (q : Query) {rows : List α}
    (distinct : (rows.map Row.oid).Nodup) : (q.arrange rows).Pairwise (Precedes q.order) := by
  have harranged : ((q.arrange rows).map Row.oid).Nodup :=
    ((sortOn_perm _ _ rows).map Row.oid).nodup_iff.2 distinct
  have hne : (q.arrange rows).Pairwise fun a b => Row.oid a ≠ Row.oid b :=
    List.pairwise_map.1 harranged
  refine ((q.pairwise_arrange rows).and hne).imp fun {a b} h => ?_
  obtain ⟨hle, hne⟩ := h
  rw [precedes_iff]
  rcases Ordering.isLE_iff_eq_lt_or_eq_eq.1 hle with hlt | htie
  · exact hlt
  · exact absurd (snd_eq_of_compareKeys htie) hne

/-- Rows with different OIDs that are in order already stay as they are. -/
theorem arrange_eq_self (q : Query) {rows : List α} (distinct : (rows.map Row.oid).Nodup)
    (h : rows.Pairwise (Precedes q.order)) : q.arrange rows = rows :=
  (sortOn_perm _ _ rows).eq_of_pairwise (fun _ _ _ _ hab hba => absurd hba hab.asymm)
    (q.pairwise_precedes_arrange distinct) h

/-! ## The one arrangement -/

/-- The rows that match a query. -/
def matching (q : Query) (rows : List α) : List α :=
  rows.filter fun row => q.matchesFields (Row.fields row)

/-- Whether a list has the rows that match a query, each as often as it was found, in the order of
the query. -/
structure Arranges (q : Query) (rows arranged : List α) : Prop where
  perm : arranged.Perm (q.matching rows)
  ordered : arranged.Pairwise (Precedes q.order)

/-- The rows that match have different OIDs if all rows have. -/
theorem nodup_matching (q : Query) {rows : List α} (distinct : (rows.map Row.oid).Nodup) :
    ((q.matching rows).map Row.oid).Nodup :=
  (List.filter_sublist.map Row.oid).nodup distinct

/-- Sorting the rows that match arranges them. -/
theorem arranges_arrange (q : Query) {rows : List α} (distinct : (rows.map Row.oid).Nodup) :
    q.Arranges rows (q.arrange (q.matching rows)) :=
  ⟨sortOn_perm _ _ _, q.pairwise_precedes_arrange (q.nodup_matching distinct)⟩

/-- The rows that match have one arrangement. -/
theorem Arranges.unique {q : Query} {rows a b : List α} (ha : q.Arranges rows a)
    (hb : q.Arranges rows b) : a = b :=
  (ha.perm.trans hb.perm.symm).eq_of_pairwise (fun _ _ _ _ hxy hyx => absurd hyx hxy.asymm)
    ha.ordered hb.ordered

/-- The answer does not depend on the order in which the rows are found. -/
theorem evaluate_eq_of_perm (q : Query) {rows others : List α} (hperm : rows.Perm others)
    (distinct : (rows.map Row.oid).Nodup) : q.evaluate others = q.evaluate rows :=
  (q.orderAndPage_eq_of_perm (hperm.filter _) (q.nodup_matching distinct)).symm

/-! ## Pages -/

/-- The query with another offset and limit. -/
def paged (q : Query) (offset : UInt64) (limit : Option UInt64) : Query :=
  { q with offset := offset, limit := limit }

omit [Row α] in
/-- A page has the rows from its offset up to its limit. -/
theorem getElem?_page (q : Query) (rows : List α) (i : Nat) :
    (q.page rows)[i]? =
      if q.limit.all (i < ·.toNat) then rows[q.offset.toNat + i]? else none := by
  unfold page
  cases q.limit with
  | none => simp
  | some limit => simp [List.getElem?_take]

/-- How many pages of a length some rows have. -/
def pageCount (rows size : Nat) : Nat := (rows + size - 1) / size

/-- Every page begins within the rows. -/
theorem mul_lt_of_lt_pageCount {rows size i : Nat} (hsize : 0 < size)
    (h : i < pageCount rows size) : i * size < rows := by
  have hnext : (i + 1) * size ≤ rows + size - 1 := (Nat.le_div_iff_mul_le hsize).1 h
  rw [Nat.succ_mul] at hnext
  omega

/-- The pages leave no row out. -/
theorem le_pageCount_mul (rows : Nat) {size : Nat} (hsize : 0 < size) :
    rows ≤ pageCount rows size * size := by
  have hdiv := Nat.div_add_mod (rows + size - 1) size
  have hmod := Nat.mod_lt (rows + size - 1) hsize
  rw [Nat.mul_comm] at hdiv
  unfold pageCount
  omega

/-- The first pages of one length are the first rows. -/
theorem flatMap_evaluate_paged (q : Query) (rows : List α) (size : UInt64) {n : Nat}
    (hfits : ∀ i < n, i * size.toNat < UInt64.size) :
    ((List.range n).flatMap fun i =>
      (q.paged (.ofNat (i * size.toNat)) (some size)).evaluate rows) =
        (q.arrange (q.matching rows)).take (n * size.toNat) := by
  rw [← flatMap_pieces]
  refine List.flatMap_congr fun i hi => ?_
  have hoffset : (UInt64.ofNat (i * size.toNat)).toNat = i * size.toNat :=
    UInt64.toNat_ofNat_of_lt' (hfits i (List.mem_range.1 hi))
  show ((q.arrange (q.matching rows)).drop _).take _ = _
  rw [paged, hoffset]

/-! ## The answer -/

/-- What a query answers over some rows, told by an arrangement of those that match. -/
structure Answer (q : Query) (rows arranged : List α) : Prop where
  /-- The rows that match can be put into order in this way only. -/
  arranges_iff (l : List α) : q.Arranges rows l ↔ l = arranged
  /-- The rows may be found in any order. -/
  evaluate_perm (others : List α) : rows.Perm others → q.evaluate others = q.evaluate rows
  /-- The answer is the part of the arrangement from the offset up to the limit. -/
  getElem?_evaluate (i : Nat) : (q.evaluate rows)[i]? =
    if q.limit.all (i < ·.toNat) then arranged[q.offset.toNat + i]? else none
  /-- Without offset and limit it is the whole arrangement. -/
  evaluate_whole : (q.paged 0 none).evaluate rows = arranged
  /-- The first pages of one length are the beginning of the arrangement. -/
  first_pages (size : UInt64) (n : Nat) : (∀ i < n, i * size.toNat < UInt64.size) →
    ((List.range n).flatMap fun i =>
      (q.paged (.ofNat (i * size.toNat)) (some size)).evaluate rows) =
        arranged.take (n * size.toNat)
  /-- All pages of one length are the whole arrangement, if there are no more rows than an offset
  can skip. -/
  all_pages (size : UInt64) : 0 < size → arranged.length ≤ UInt64.size →
    ((List.range (pageCount arranged.length size.toNat)).flatMap fun i =>
      (q.paged (.ofNat (i * size.toNat)) (some size)).evaluate rows) = arranged

/-- The answer of a query, and of every page of it, is a part of the one arrangement of the rows
that match. -/
theorem exists_answer (q : Query) (rows : List α) (distinct : (rows.map Row.oid).Nodup) :
    ∃ arranged, q.Answer rows arranged := by
  have harranges := q.arranges_arrange distinct
  refine ⟨q.arrange (q.matching rows), ?_, ?_, ?_, rfl, ?_, ?_⟩
  · exact fun l => ⟨fun h => h.unique harranges, fun h => h ▸ harranges⟩
  · exact fun others hperm => q.evaluate_eq_of_perm hperm distinct
  · exact q.getElem?_page _
  · exact fun size n hfits => q.flatMap_evaluate_paged rows size hfits
  · intro size hsize hlength
    have hpositive : 0 < size.toNat := hsize
    rw [q.flatMap_evaluate_paged rows size fun i hi =>
      Nat.lt_of_lt_of_le (mul_lt_of_lt_pageCount hpositive hi) hlength]
    exact List.take_of_length_le (le_pageCount_mul _ hpositive)

/-- From high to low values, rows that tie still go from low to high OID, and two pages of two
rows are all three that match. -/
theorem exists_answer_tied :
    let rows : List (Oid × Fields) := [(⟨"c", by decide⟩, .ofList [("n", .int 1)]),
      (⟨"a", by decide⟩, .ofList [("n", .text "1.0")]), (⟨"d", by decide⟩, ∅),
      (⟨"b", by decide⟩, .ofList [("n", .int 2)])]
    let q : Query := {
      predicate := some (.compare "n" .ge (.int 1)), order := some ⟨"n", .descending⟩ }
    (rows.map Row.oid).Nodup ∧ ∃ arranged, q.Answer rows arranged ∧
      arranged.map (fun row => row.1.text) = ["b", "a", "c"] ∧
      ((List.range 2).flatMap fun i => (q.paged (.ofNat (i * 2)) (some 2)).evaluate rows) =
        arranged := by
  intro rows q
  have distinct : (rows.map Row.oid).Nodup := by decide +kernel
  obtain ⟨arranged, h⟩ := q.exists_answer rows distinct
  have hrows : arranged.map (fun row => row.1.text) = ["b", "a", "c"] := by
    rw [← h.evaluate_whole]
    decide +kernel
  have hlength : arranged.length = 3 := by
    rw [← List.length_map (fun row : Oid × Fields => row.1.text), hrows]
    rfl
  have hpages := h.all_pages 2 (by decide) (by rw [hlength]; decide)
  rw [hlength] at hpages
  exact ⟨distinct, arranged, h, hrows, hpages⟩

end Query

end TieredStore
