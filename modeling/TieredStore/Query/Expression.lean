import TieredStore.Predicate.Basic
import TieredStore.Query.Lexer

/-!
# Reading predicates

The grammar of query texts, with `?` standing for the next argument:

    expression := term (or term)*
    term       := factor (and factor)*
    factor     := ( expression ) | name operator ?

Tokens are consumed one by one.  What is open around the current position is a
stack with one level per open parenthesis, and each level remembers the finished
terms and the factors of the term under way.  The reader is thus a single
recursion on the tokens, and an error names the first token that fits nowhere.

Main results:

- Theorems `Predicate.read_opening` and `Predicate.read_closing`: a parenthesis
  adds a level to the stack, and closing it hands its predicate to the level
  below.
-/

namespace TieredStore

namespace Predicate

/-- What an open parenthesis, or the text as a whole, has collected so far. -/
structure Level where
  /-- The disjunction of the finished terms, if there are any. -/
  disjunction : Option Predicate
  /-- The conjunction of the factors of the current term, if there are any. -/
  conjunction : Option Predicate

/-- A level that has collected nothing. -/
def Level.fresh : Level := ⟨none, none⟩

/-- The current term, completed by one more factor. -/
def Level.term (level : Level) (factor : Predicate) : Predicate :=
  match level.conjunction with
  | none => factor
  | some conjunction => conjunction.and factor

/-- The whole level, completed by its last term. -/
def Level.result (level : Level) (term : Predicate) : Predicate :=
  match level.disjunction with
  | none => term
  | some disjunction => disjunction.or term

/-- What may come next. -/
inductive Expecting where
  | factor
  | operator (field : String)
  | placeholder (field : String) (op : Operator)
  /-- A connective, a closing parenthesis or the end, after a term. -/
  | connective (term : Predicate)

/-- Reads the rest of an expression.  `outer` are the levels around the current
one, innermost first, `arguments` those not yet used, and `supplied` the number of
all arguments. -/
def read (supplied : Nat) : Expecting → List Level → Level → List Value → List Token →
    Except StoreError Predicate
  | .factor, outer, level, arguments, .opening :: tokens =>
    read supplied .factor (level :: outer) .fresh arguments tokens
  | .factor, outer, level, arguments, .name field :: tokens =>
    if isFieldName field then read supplied (.operator field) outer level arguments tokens
    else .error (.invalidField field)
  | .factor, _, _, _, tokens => .error (.invalidQuery (.expectedOperand tokens.head?))
  | .operator field, outer, level, arguments, .operator op :: tokens =>
    read supplied (.placeholder field op) outer level arguments tokens
  | .operator field, _, _, _, tokens =>
    .error (.invalidQuery (.expectedOperator field tokens.head?))
  | .placeholder field op, outer, level, argument :: arguments, .placeholder :: tokens =>
    read supplied (.connective (level.term (.compare field op argument))) outer level arguments
      tokens
  | .placeholder _ _, _, _, [], .placeholder :: _ =>
    .error (.invalidQuery (.missingArgument (supplied + 1) supplied))
  | .placeholder field op, _, _, _, tokens =>
    .error (.invalidQuery (.expectedPlaceholder field op tokens.head?))
  | .connective term, outer, level, arguments, .and :: tokens =>
    read supplied .factor outer ⟨level.disjunction, some term⟩ arguments tokens
  | .connective term, outer, level, arguments, .or :: tokens =>
    read supplied .factor outer ⟨some (level.result term), none⟩ arguments tokens
  | .connective term, parent :: outer, level, arguments, .closing :: tokens =>
    read supplied (.connective (parent.term (level.result term))) outer parent arguments tokens
  | .connective _, _ :: _, _, _, _ => .error (.invalidQuery .unclosedParenthesis)
  | .connective _, [], _, _, token :: _ => .error (.invalidQuery (.trailingToken token))
  | .connective term, [], level, arguments, [] =>
    if arguments.isEmpty then .ok (level.result term)
    else .error (.invalidQuery (.unusedArguments (supplied - arguments.length) supplied))

/-- An opening parenthesis starts a level. -/
theorem read_opening (supplied : Nat) (outer : List Level) (level : Level)
    (arguments : List Value) (tokens : List Token) :
    read supplied .factor outer level arguments (.opening :: tokens) =
      read supplied .factor (level :: outer) .fresh arguments tokens := by
  simp [read]

/-- A closing parenthesis hands the predicate of its level to the level below. -/
theorem read_closing (supplied : Nat) (term : Predicate) (parent : Level) (outer : List Level)
    (level : Level) (arguments : List Value) (tokens : List Token) :
    read supplied (.connective term) (parent :: outer) level arguments (.closing :: tokens) =
      read supplied (.connective (parent.term (level.result term))) outer parent arguments
        tokens := by
  simp [read]

/-- Reads an expression from all of its tokens. -/
def ofTokens (tokens : List Token) (arguments : List Value) : Except StoreError Predicate :=
  read arguments.length .factor [] .fresh arguments tokens

/-- Reads the predicate of a query text; a text without tokens has none. -/
def ofText? (text : String) (arguments : List Value) : Except StoreError (Option Predicate) :=
  match Token.ofText text with
  | .error problem => .error (.invalidQuery problem)
  | .ok [] =>
    if arguments.isEmpty then .ok none
    else .error (.invalidQuery (.argumentsWithoutExpression arguments.length))
  | .ok tokens => (ofTokens tokens arguments).map some

end Predicate

end TieredStore
