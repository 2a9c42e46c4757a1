import TieredStore.Error
import TieredStore.Text.Blank

/-!
# Splitting a query text into tokens

The text is read from left to right.  White space separates tokens and is
skipped, a sign takes its second character if that completes a longer sign, and a
word extends as far as word characters go.  Positions in messages count bytes of
the UTF-8 form.

Main results:

- Theorem `Token.scan_nil`: the end of the text completes a pending word.
-/

namespace TieredStore

namespace Token

/-- The token of a pending word, if there is one, before other tokens.  The word
is collected backwards. -/
def flush (word : List Char) (tokens : List Token) : List Token :=
  if word.isEmpty then tokens else ofWord word.reverse :: tokens

/-- The tokens of a text.  `word` is a word under way, backwards, and `position`
the number of bytes before the text. -/
def scan (word : List Char) (position : Nat) : List Char → Except QueryProblem (List Token)
  | [] => .ok (flush word [])
  | '(' :: rest => (scan [] (position + 1) rest).map fun ts => flush word (.opening :: ts)
  | ')' :: rest => (scan [] (position + 1) rest).map fun ts => flush word (.closing :: ts)
  | '?' :: rest => (scan [] (position + 1) rest).map fun ts => flush word (.placeholder :: ts)
  | '=' :: '=' :: rest =>
    (scan [] (position + 2) rest).map fun ts => flush word (.operator .eq :: ts)
  | '=' :: rest => (scan [] (position + 1) rest).map fun ts => flush word (.operator .eq :: ts)
  | '!' :: '=' :: rest =>
    (scan [] (position + 2) rest).map fun ts => flush word (.operator .ne :: ts)
  | '!' :: _ => .error (.loneExclamation position)
  | '<' :: '=' :: rest =>
    (scan [] (position + 2) rest).map fun ts => flush word (.operator .le :: ts)
  | '<' :: '>' :: rest =>
    (scan [] (position + 2) rest).map fun ts => flush word (.operator .ne :: ts)
  | '<' :: rest => (scan [] (position + 1) rest).map fun ts => flush word (.operator .lt :: ts)
  | '>' :: '=' :: rest =>
    (scan [] (position + 2) rest).map fun ts => flush word (.operator .ge :: ts)
  | '>' :: rest => (scan [] (position + 1) rest).map fun ts => flush word (.operator .gt :: ts)
  | c :: rest =>
    if isNameChar c then scan (c :: word) (position + c.utf8Size) rest
    else if isBlank c then (scan [] (position + c.utf8Size) rest).map (flush word)
    else .error (.unexpectedCharacter c position)

/-- The end of the text completes a pending word. -/
@[simp] theorem scan_nil (word : List Char) (position : Nat) :
    scan word position [] = .ok (flush word []) := by
  simp [scan]

/-- The tokens of a query text. -/
def ofText (text : String) : Except QueryProblem (List Token) := scan [] 0 text.toList

end Token

end TieredStore
