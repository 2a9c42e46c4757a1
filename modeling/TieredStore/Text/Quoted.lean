import TieredStore.Text.Hidden

/-!
# Quoted texts

Messages show a text between quotation marks.  Inside them the mark itself and
the backslash are escaped, tabs and line ends have short escapes, and a hidden
character is spelled by its code point in lower-case hexadecimal.

Main results:

- Theorem `escapeChar_of_visible`: a character that is neither the mark nor the
  backslash nor hidden is shown as it is.
-/

namespace TieredStore

/-- The spelling of a character between two quotation marks `mark`. -/
def escapeChar (mark c : Char) : List Char :=
  if c = mark || c = '\\' then ['\\', c]
  else if c = '\x00' then ['\\', '0']
  else if c = '\t' then ['\\', 't']
  else if c = '\n' then ['\\', 'n']
  else if c = '\r' then ['\\', 'r']
  else if isHidden c then ['\\', 'u', '{'] ++ Nat.toDigits 16 c.toNat ++ ['}']
  else [c]

/-- A text between double quotation marks. -/
def quoteText (s : String) : String :=
  String.ofList ('"' :: s.toList.flatMap (escapeChar '"') ++ ['"'])

/-- A character between single quotation marks. -/
def quoteChar (c : Char) : String :=
  String.ofList ('\'' :: escapeChar '\'' c ++ ['\''])

/-- A visible character other than the mark and the backslash is its own
spelling. -/
theorem escapeChar_of_visible {mark c : Char} (hmark : c ≠ mark) (hslash : c ≠ '\\')
    (hvisible : isHidden c = false)
    (hcontrol : c ≠ '\x00' ∧ c ≠ '\t' ∧ c ≠ '\n' ∧ c ≠ '\r') :
    escapeChar mark c = [c] := by
  simp [escapeChar, hmark, hslash, hvisible, hcontrol]

end TieredStore
