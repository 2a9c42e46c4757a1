import TieredStore.Query.Token

/-!
# Errors

What can go wrong, by cause.  Every cause has one text, and the causes for which
the caller is to blame are told apart from failures of configuration and storage.

Main results:

- Theorem `StoreError.isValidation_iff`: exactly bad OIDs, keys, field names,
  queries and writes to fixed fields are the caller's mistakes.
-/

namespace TieredStore

/-- The three kinds of store. -/
inductive Contract where
  | records
  | texts
  | counters
  deriving DecidableEq

/-- The name of a contract in messages. -/
def Contract.description : Contract → String
  | .records => "data object maps"
  | .texts => "key-value maps"
  | .counters => "key-long maps"

/-- What is wrong with a query text or its arguments. -/
inductive QueryProblem where
  | argumentsWithoutExpression (supplied : Nat)
  /-- An exclamation mark without an equals sign. -/
  | loneExclamation (position : Nat)
  | unexpectedCharacter (c : Char) (position : Nat)
  /-- An opening parenthesis that is never closed. -/
  | unclosedParenthesis
  /-- Something else in the place of a comparison sign. -/
  | expectedOperator (field : String) (found : Option Token)
  /-- Something else in the place of a placeholder. -/
  | expectedPlaceholder (field : String) (op : Operator) (found : Option Token)
  | missingArgument (placeholder supplied : Nat)
  /-- Something else in the place of a comparison or a parenthesis. -/
  | expectedOperand (found : Option Token)
  | trailingToken (token : Token)
  | unusedArguments (used supplied : Nat)
  | stated (text : String)
  deriving DecidableEq

/-- The text of a query problem. -/
def QueryProblem.message : QueryProblem → String
  | .argumentsWithoutExpression supplied =>
    "empty expression given " ++ toString supplied ++ " argument(s)"
  | .loneExclamation position => "expected '=' after '!' at " ++ toString position
  | .unexpectedCharacter c position =>
    "unexpected character " ++ quoteChar c ++ " at " ++ toString position
  | .unclosedParenthesis => "missing closing parenthesis"
  | .expectedOperator field found =>
    "expected comparison operator after " ++ quoteText field ++ ", found " ++
      Token.describeFound found
  | .expectedPlaceholder field op found =>
    "expected '?' after " ++ field ++ " " ++ op.symbol ++ ", found " ++ Token.describeFound found
  | .missingArgument placeholder supplied =>
    "placeholder " ++ toString placeholder ++ " has no argument (" ++ toString supplied ++
      " supplied)"
  | .expectedOperand found => "expected field or '(', found " ++ Token.describeFound found
  | .trailingToken token => "unexpected trailing token " ++ token.describe
  | .unusedArguments used supplied =>
    "expression uses " ++ toString used ++ " argument(s) but " ++ toString supplied ++
      " were supplied"
  | .stated text => text

/-- What is wrong with the options of a provider. -/
inductive OptionProblem where
  /-- An option that the provider does not know. -/
  | unknown (option : String) (known : List String)
  /-- A value of another type than the option takes. -/
  | wrongType (found expected : String)
  /-- A value of the right type outside the option's range. -/
  | outOfRange (found expected : String)
  deriving DecidableEq

/-- A word between backquotes. -/
def backquoted (s : String) : String := String.ofList ('\x60' :: s.toList ++ ['\x60'])

/-- The text of an option problem. -/
def OptionProblem.message : OptionProblem → String
  | .unknown option known =>
    "unknown field " ++ backquoted option ++ ", expected " ++
      String.intercalate " or " (known.map backquoted)
  | .wrongType found expected => "invalid type: " ++ found ++ ", expected " ++ expected
  | .outOfRange found expected => "invalid value: " ++ found ++ ", expected " ++ expected

/-- What is wrong with a configuration. -/
inductive ConfigProblem where
  /-- A document that does not describe a configuration. -/
  | malformedDocument
  | unnamedProvider
  | duplicateProvider (name : String)
  /-- A name pattern that is refused, and what is wrong with it. -/
  | malformedPattern (pattern reason : String)
  | ruleWithoutProviders (pattern : String)
  /-- A namespace rule that names a provider that is not configured. -/
  | ruleWithUnknownProvider (pattern provider : String)
  /-- A store name that no namespace rule matches. -/
  | unmatchedStore (store : String)
  /-- A provider name that is not configured. -/
  | unknownProvider (name : String)
  /-- A provider of a type that is not registered. -/
  | unknownProviderType (name kind : String)
  /-- Options that a provider does not accept. -/
  | rejectedOptions (name kind : String) (problem : OptionProblem)
  | stackWithoutLayers (name : String)
  /-- A connection name that is in use for another type of client. -/
  | connectionOfOtherType (name : String)
  | stated (text : String)
  deriving DecidableEq

/-- The text of a configuration problem.  A pattern that is refused is left out. -/
def ConfigProblem.message : ConfigProblem → String
  | .malformedDocument => "invalid stack config"
  | .unnamedProvider => "provider with empty name"
  | .duplicateProvider name => "duplicate provider name " ++ quoteText name
  | .malformedPattern _ _ => "invalid namespace pattern"
  | .ruleWithoutProviders pattern => "namespace " ++ quoteText pattern ++ " lists no providers"
  | .ruleWithUnknownProvider pattern provider =>
    "namespace " ++ quoteText pattern ++ " references unknown provider " ++ quoteText provider
  | .unmatchedStore store => "no namespace rule matches store " ++ quoteText store
  | .unknownProvider name => "unknown provider " ++ quoteText name
  | .unknownProviderType name kind =>
    "provider " ++ quoteText name ++ " has unknown type " ++ quoteText kind
  | .rejectedOptions name kind problem =>
    "provider " ++ quoteText name ++ " (" ++ kind ++ "): " ++ problem.message
  | .stackWithoutLayers name => "stack " ++ quoteText name ++ " needs at least one layer"
  | .connectionOfOtherType name =>
    "connection " ++ quoteText name ++ " is registered with a different client type"
  | .stated text => text

/-- What the text of a configuration problem leaves out. -/
def ConfigProblem.detail : ConfigProblem → String
  | .malformedPattern pattern reason => " " ++ quoteText pattern ++ ": " ++ reason
  | _ => ""

/-- The whole text of a configuration problem. -/
def ConfigProblem.fullMessage (problem : ConfigProblem) : String :=
  problem.message ++ problem.detail

/-- How a store failed. -/
inductive StorageFailure where
  /-- The database refused a statement or could not be opened. -/
  | database
  /-- A field row whose kind and text denote no value. -/
  | corruptRow (kind text : String)
  /-- A store that is down for one kind of call. -/
  | down (store call : String)
  | stated (text : String)
  deriving DecidableEq

/-- The text of a storage failure. -/
def StorageFailure.message : StorageFailure → String
  | .database => "sqlite"
  | .corruptRow kind text => "corrupt " ++ quoteText kind ++ " field value " ++ quoteText text
  | .down store call => store ++ " is down: " ++ call
  | .stated text => text

/-- An error of a store, a stack, a membership or a context. -/
inductive StoreError where
  | configuration (problem : ConfigProblem)
  | invalidOid (raw : String)
  | invalidKey
  /-- A text that is no field name. -/
  | invalidField (name : String)
  /-- A write to a field that is fixed. -/
  | protectedField (name : String)
  | invalidQuery (problem : QueryProblem)
  /-- A contract that a provider does not serve. -/
  | unsupported (provider : String) (contract : Contract)
  | storage (failure : StorageFailure)
  deriving DecidableEq

namespace StoreError

/-- The text of an error. -/
def message : StoreError → String
  | .configuration problem => "configuration error: " ++ problem.message
  | .invalidOid raw => "invalid oid: " ++ quoteText raw
  | .invalidKey => "invalid key: key must not be empty"
  | .invalidField name => "invalid field name: " ++ quoteText name
  | .protectedField name => "field " ++ quoteText name ++ " is protected and cannot be modified"
  | .invalidQuery problem => "invalid query: " ++ problem.message
  | .unsupported provider contract =>
    "backend " ++ quoteText provider ++ " does not support " ++ contract.description
  | .storage failure => "backend failure: " ++ failure.message

/-- Whether the caller is to blame. -/
def isValidation : StoreError → Bool
  | .invalidOid _ | .invalidKey | .invalidField _ | .protectedField _ | .invalidQuery _ => true
  | .configuration _ | .unsupported _ _ | .storage _ => false

/-- The caller is to blame unless configuration, support or storage is. -/
theorem isValidation_iff (e : StoreError) :
    e.isValidation = true ↔
      (∀ p, e ≠ .configuration p) ∧ (∀ p c, e ≠ .unsupported p c) ∧ ∀ f, e ≠ .storage f := by
  cases e <;> simp [isValidation]

end StoreError

end TieredStore
