import TieredStore.Comparison
import TieredStore.Text.Quoted

/-!
# Tokens of a query

A query text is a sequence of names, comparison signs, placeholders, the keywords
`and` and `or`, and parentheses.

Main results:

- Theorem `Token.ofWord_keyword`: a word is a keyword exactly in one of the
  spellings of `and` and `or` by letter case.
-/

namespace TieredStore

/-- A token of a query text. -/
inductive Token where
  /-- A word that is not a keyword. -/
  | name (word : String)
  | operator (op : Operator)
  /-- The question mark, which stands for the next argument. -/
  | placeholder
  | and
  | or
  | opening
  | closing
  deriving DecidableEq

namespace Token

/-- The characters words are made of: letters, digits and the underscore of the
ASCII range. -/
def isNameChar (c : Char) : Bool := c.isAlphanum || c == '_'

/-- The token of a word: keywords are recognised in any letter case. -/
def ofWord (word : List Char) : Token :=
  if word.map Char.toLower = ['a', 'n', 'd'] then .and
  else if word.map Char.toLower = ['o', 'r'] then .or
  else .name (String.ofList word)

/-- A word gives a keyword exactly if it spells one. -/
theorem ofWord_keyword (word : List Char) :
    (ofWord word = .and ↔ word.map Char.toLower = ['a', 'n', 'd']) ∧
      (ofWord word = .or ↔ word.map Char.toLower = ['o', 'r']) := by
  unfold ofWord
  split
  · rename_i h
    simp [h]
  · split
    · rename_i h
      simp [h]
    · rename_i h h'
      simp [h, h']

/-- The name of an operator in a description. -/
def operatorName : Operator → String
  | .eq => "Eq"
  | .ne => "Ne"
  | .gt => "Gt"
  | .lt => "Lt"
  | .ge => "Ge"
  | .le => "Le"

/-- The description of a token in a message. -/
def describe : Token → String
  | .name word => "Ident(" ++ quoteText word ++ ")"
  | .operator op => "Op(" ++ operatorName op ++ ")"
  | .placeholder => "Placeholder"
  | .and => "And"
  | .or => "Or"
  | .opening => "LParen"
  | .closing => "RParen"

/-- The description of a token that may be missing at the end of the text. -/
def describeFound : Option Token → String
  | some token => "Some(" ++ token.describe ++ ")"
  | none => "None"

end Token

end TieredStore
