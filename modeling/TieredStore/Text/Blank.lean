import TieredStore.Text.CharTable

/-!
# White space

The characters of the Unicode property White_Space separate the tokens of a
query and are cut off both ends of a text before it is read as a number.

Main results:

- Theorem `trim_of_not_blank`: a text whose first and last characters are not
  blank is left as it is.
-/

namespace TieredStore

/-- The property White_Space. -/
def blankTable : CharTable := ⟨[
   (9, 13), (32, 32), (133, 133), (160, 160), (5760, 5760), (8192, 8202),
   (8232, 8233), (8239, 8239), (8287, 8287), (12288, 12288)]⟩

/-- Whether a character is white space. -/
def isBlank (c : Char) : Bool := blankTable.has c

/-- Cuts white space off both ends. -/
def trim (cs : List Char) : List Char :=
  ((cs.dropWhile isBlank).reverse.dropWhile isBlank).reverse

/-- Nothing is cut off a text whose first and last characters are not blank. -/
theorem trim_of_not_blank {cs : List Char} (first : ∀ c ∈ cs.head?, isBlank c = false)
    (last : ∀ c ∈ cs.getLast?, isBlank c = false) : trim cs = cs := by
  have keep : ∀ {l : List Char}, (∀ c ∈ l.head?, isBlank c = false) → l.dropWhile isBlank = l := by
    intro l h
    cases l with
    | nil => rfl
    | cons c rest => simp [h c (by simp)]
  unfold trim
  rw [keep first, keep (by simpa [List.head?_reverse] using last), List.reverse_reverse]

end TieredStore
