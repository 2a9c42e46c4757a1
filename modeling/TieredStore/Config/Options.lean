import TieredStore.Binary64.Layout
import TieredStore.Config.Basic

/-!
# Options of providers

The options that the two built-in types of provider understand.  Options are
decoded in the order of their names; the first one that is unknown or has a value
of a wrong type is reported.

Main results:

- Theorem `ProviderConfig.foldOptions_empty`: without options the defaults hold.
-/

namespace TieredStore

/-- A JSON value named in a message; numbers look as they do in a JSON text. -/
def Json.describe : Json → String
  | .null => "null"
  | .bool b => "boolean " ++ backquoted (if b then "true" else "false")
  | .integer i => "integer " ++ backquoted (String.ofList (intDigits i))
  | .float x =>
    "floating point " ++ backquoted (String.ofList (NumberLayout.json.ofBinary64 x))
  | .string s => "string " ++ quoteText s
  | .array _ => "sequence"
  | .object _ => "map"

/-! ## Values of options -/

/-- A size: an integer that is not negative. -/
def Json.asSize : Json → Except OptionProblem Nat
  | .integer i =>
    if 0 ≤ i then .ok i.toNat else .error (.outOfRange (Json.integer i).describe "usize")
  | j => .error (.wrongType j.describe "usize")

/-- A text that may be left out by writing `null`. -/
def Json.asOptionalText (expected : String) : Json → Except OptionProblem (Option String)
  | .null => .ok none
  | .string s => .ok (some s)
  | j => .error (.wrongType j.describe expected)

namespace ProviderConfig

/-- Adds the options one by one to the defaults. -/
def foldOptions {α : Type} (add : α → String → Json → Except OptionProblem α) (default : α)
    (p : ProviderConfig) : Except StoreError α :=
  (p.options.entries.foldlM (fun options e => add options e.1 e.2) default).mapError fun problem =>
    .configuration (.rejectedOptions p.name p.kind problem)

/-- Without options the defaults hold. -/
theorem foldOptions_empty {α : Type} (add : α → String → Json → Except OptionProblem α)
    (default : α) (name kind : String) :
    foldOptions add default { name := name, kind := kind } = .ok default := rfl

end ProviderConfig

/-! ## Stores in memory -/

/-- The options of stores in memory. -/
structure MemoryOptions where
  /-- For how many entries room is made in advance; it has no effect on results. -/
  initialCapacity : Nat := 0
  deriving DecidableEq

/-- Sets one option of a store in memory. -/
def MemoryOptions.add (options : MemoryOptions) (name : String) (value : Json) :
    Except OptionProblem MemoryOptions :=
  if name = "initialCapacity" then
    value.asSize.map fun capacity => { options with initialCapacity := capacity }
  else .error (.unknown name ["initialCapacity"])

/-- The options of a provider of stores in memory. -/
def ProviderConfig.memoryOptions (p : ProviderConfig) : Except StoreError MemoryOptions :=
  p.foldOptions MemoryOptions.add {}

/-! ## Stores in a database -/

/-- The options of stores in a relational database. -/
structure DatabaseOptions where
  /-- Where the database lies; `none` for a database in memory. -/
  path : Option String := none
  /-- Under which name its connection is shared. -/
  connection : Option String := none
  deriving DecidableEq

/-- Sets one option of a store in a database. -/
def DatabaseOptions.add (options : DatabaseOptions) (name : String) (value : Json) :
    Except OptionProblem DatabaseOptions :=
  if name = "path" then
    (value.asOptionalText "path string").map fun path => { options with path := path }
  else if name = "connection" then
    (value.asOptionalText "a string").map fun key => { options with connection := key }
  else .error (.unknown name ["path", "connection"])

/-- The options of a provider of stores in a database. -/
def ProviderConfig.databaseOptions (p : ProviderConfig) : Except StoreError DatabaseOptions :=
  p.foldOptions DatabaseOptions.add {}

end TieredStore
