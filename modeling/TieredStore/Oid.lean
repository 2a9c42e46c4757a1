import TieredStore.Error

/-!
# Object identifiers

An OID is a text of one to sixty-four ASCII letters and digits.  OIDs are ordered
by their characters.  Fresh OIDs are drawn from a numbered series whose order is
the order of the numbers; none of them spells a number.

Main results:

- Theorem `Oid.parse_text`: the text of an OID is read back.
-/

namespace TieredStore

open Std

/-- Whether a text is an OID. -/
def isOid (raw : String) : Bool :=
  !raw.toList.isEmpty && raw.toList.length ≤ 64 && raw.toList.all Char.isAlphanum

/-- The identifier of a record. -/
structure Oid where
  text : String
  valid : isOid text = true
  deriving DecidableEq

namespace Oid

/-- Reads an OID. -/
def parse (raw : String) : Except StoreError Oid :=
  if h : isOid raw = true then .ok ⟨raw, h⟩ else .error (.invalidOid raw)

/-- Reads an OID where a failure needs no message. -/
def parse? (raw : String) : Option Oid :=
  if h : isOid raw = true then some ⟨raw, h⟩ else none

/-- The text of an OID is read back. -/
@[simp] theorem parse_text (oid : Oid) : parse oid.text = .ok oid := by
  simp [parse, oid.valid]

/-- The text of an OID is read back. -/
@[simp] theorem parse?_text (oid : Oid) : parse? oid.text = some oid := by
  simp [parse?, oid.valid]

/-- Reading an OID keeps its text. -/
theorem text_of_parse? {raw : String} {oid : Oid} (h : parse? raw = some oid) : oid.text = raw := by
  unfold parse? at h
  split at h
  · cases h
    rfl
  · cases h

/-- OIDs of one text are one OID. -/
theorem ext_text {a b : Oid} (h : a.text = b.text) : a = b := by
  cases a
  cases b
  cases h
  rfl

/-! ## Order -/

/-- OIDs are ordered by their characters. -/
instance : Ord Oid := ⟨compareOn text⟩

instance : TransOrd Oid := inferInstanceAs (TransCmp (compareOn text))

instance : LawfulEqOrd Oid where
  eq_of_compare {a b} h := by
    have same : compare a.text b.text = .eq := h
    exact ext_text (LawfulEqOrd.eq_of_compare same)

/-! ## Fresh OIDs -/

/-- How many fresh OIDs there are: as many as there are numbers of twenty-eight
digits. -/
def freshLimit : Nat := 10000000000000000000000000000

/-- The characters of the `n`-th fresh OID: a fixed beginning and the number,
filled up with zeros to twenty-eight digits.  The numbers start over after the
last one of that length. -/
def freshChars (n : Nat) : List Char :=
  let digits := natDigits (n % freshLimit)
  ['0', '1', '9', 'c'] ++ (List.replicate (28 - digits.length) '0' ++ digits)

/-- A fresh OID has thirty-two letters and digits. -/
theorem isOid_freshChars (n : Nat) : isOid (String.ofList (freshChars n)) = true := by
  have hlen : (natDigits (n % freshLimit)).length ≤ 28 :=
    (Nat.length_toDigits_le_iff (by decide) (by decide)).2 (Nat.mod_lt _ (by decide))
  have hdigits : (natDigits (n % freshLimit)).all Char.isAlphanum = true :=
    List.all_eq_true.2 fun c hc => by
      simp [Char.isAlphanum, isDigit_of_mem_natDigits hc]
  simp only [isOid, String.toList_ofList, freshChars, Bool.and_eq_true, Bool.not_eq_true',
    decide_eq_true_eq]
  refine ⟨⟨by simp, ?_⟩, ?_⟩
  · simp only [List.length_append, List.length_replicate, List.length_cons, List.length_nil]
    omega
  · simp only [List.all_append, hdigits, Bool.and_true, List.all_replicate]
    split <;> decide

/-- The `n`-th fresh OID. -/
def fresh (n : Nat) : Oid := ⟨String.ofList (freshChars n), isOid_freshChars n⟩

end Oid

end TieredStore
