import TieredStore.Action
import TieredStore.Binary64.Basic
import TieredStore.Binary64.Layout
import TieredStore.Binary64.Reader
import TieredStore.Binary64.Rounding
import TieredStore.Binary64.Shortest
import TieredStore.Comparison
import TieredStore.Config.Basic
import TieredStore.Config.Options
import TieredStore.Config.Resolver
import TieredStore.Context.Basic
import TieredStore.Context.ProviderType
import TieredStore.Context.Registry
import TieredStore.Descriptions
import TieredStore.Entry.Basic
import TieredStore.Entry.Table
import TieredStore.Error
import TieredStore.FieldName
import TieredStore.Json.Basic
import TieredStore.Json.Config
import TieredStore.Json.Decode
import TieredStore.Json.Number
import TieredStore.Json.Query
import TieredStore.Json.Source
import TieredStore.Membership.Find
import TieredStore.Membership.Link
import TieredStore.Membership.Query
import TieredStore.Membership.Repair
import TieredStore.Membership.Stores
import TieredStore.Oid
import TieredStore.Pattern.CharSet
import TieredStore.Pattern.Class
import TieredStore.Pattern.Covers
import TieredStore.Pattern.Engine
import TieredStore.Pattern.Escape
import TieredStore.Pattern.Marked
import TieredStore.Pattern.Matching
import TieredStore.Pattern.Phrase
import TieredStore.Pattern.Progress
import TieredStore.Pattern.Reader
import TieredStore.Pattern.Syntax
import TieredStore.Pattern.Weight
import TieredStore.Predicate.Basic
import TieredStore.Predicate.Printer
import TieredStore.Program
import TieredStore.Proofs.Binary64.TextRoundTrip
import TieredStore.Proofs.Entry.Answers
import TieredStore.Proofs.Entry.Lifetimes
import TieredStore.Proofs.Interleaving.Crowd
import TieredStore.Proofs.Interleaving.Upholds
import TieredStore.Proofs.Membership.Adding
import TieredStore.Proofs.Membership.Candidates
import TieredStore.Proofs.Membership.ConcurrentAdding
import TieredStore.Proofs.Membership.HighestRows
import TieredStore.Proofs.Membership.InMemory
import TieredStore.Proofs.Membership.PairOperations
import TieredStore.Proofs.Membership.PairRows
import TieredStore.Proofs.Membership.Reference
import TieredStore.Proofs.Membership.Repairs
import TieredStore.Proofs.Membership.Resemblance
import TieredStore.Proofs.Membership.Safety
import TieredStore.Proofs.Membership.Search
import TieredStore.Proofs.Membership.Tables
import TieredStore.Proofs.Predicate.Meaning
import TieredStore.Proofs.Query.Arrangement
import TieredStore.Proofs.Query.Grammar
import TieredStore.Proofs.Query.Templates
import TieredStore.Proofs.Query.Tokens
import TieredStore.Proofs.Record.Answers
import TieredStore.Proofs.Relational.Noninterference
import TieredStore.Proofs.Relational.PushDown
import TieredStore.Proofs.Relational.Refinement
import TieredStore.Proofs.Relational.Representation
import TieredStore.Proofs.Relational.Sharing
import TieredStore.Proofs.Runs
import TieredStore.Proofs.SortedMap
import TieredStore.Proofs.Stack.Agreement
import TieredStore.Proofs.Stack.CompareAndSet
import TieredStore.Proofs.Stack.Effects
import TieredStore.Proofs.Stack.EqualLayers
import TieredStore.Proofs.Stack.GuardedLayers
import TieredStore.Proofs.Stack.Histories
import TieredStore.Proofs.Stack.Increments
import TieredStore.Proofs.Stack.Layerwise
import TieredStore.Proofs.Stack.LookUps
import TieredStore.Proofs.Stack.LostExpiry
import TieredStore.Proofs.Stack.Races
import TieredStore.Proofs.Stack.Reads
import TieredStore.Proofs.Stack.Visible
import TieredStore.Proofs.Storage.Cells
import TieredStore.Proofs.Storage.Contracts
import TieredStore.Proofs.Storage.Maintenance
import TieredStore.Proofs.Storage.MemoryStores
import TieredStore.Proofs.Storage.Parts
import TieredStore.Query.Basic
import TieredStore.Query.Expression
import TieredStore.Query.Lexer
import TieredStore.Query.Token
import TieredStore.Record.Basic
import TieredStore.Record.Calls
import TieredStore.Record.Table
import TieredStore.Relational.Condition
import TieredStore.Relational.Database
import TieredStore.Relational.FieldRow
import TieredStore.Relational.Location
import TieredStore.Relational.Statement
import TieredStore.SortedMap
import TieredStore.Sorting
import TieredStore.Stack.Entries
import TieredStore.Stack.Layers
import TieredStore.Stack.Records
import TieredStore.Storage.AnyStore
import TieredStore.Storage.Basic
import TieredStore.Storage.EntryStore
import TieredStore.Storage.Heap
import TieredStore.Storage.RecordStore
import TieredStore.Storage.SharedDatabases
import TieredStore.Storage.Store
import TieredStore.Text.Blank
import TieredStore.Text.CaseFold
import TieredStore.Text.Category
import TieredStore.Text.CharTable
import TieredStore.Text.CodeRanges
import TieredStore.Text.Decimal
import TieredStore.Text.Hexadecimal
import TieredStore.Text.Hidden
import TieredStore.Text.Letter
import TieredStore.Text.Quoted
import TieredStore.Text.TextReader
import TieredStore.Text.Utf8
import TieredStore.Text.Word
import TieredStore.Value
import TieredStore.Proofs.Relational.Noninterference
import TieredStore.Proofs.Json.Literals
import TieredStore.Proofs.Json.Reading
import TieredStore.Proofs.Json.RoundTrip
import TieredStore.Proofs.Storage.Contents
import TieredStore.Proofs.Storage.Footprints
import TieredStore.Proofs.Storage.EmptyRecords
import TieredStore.Proofs.Context.Providers
import TieredStore.Proofs.Context.Opening
import TieredStore.Proofs.Context.Sessions
import TieredStore.Proofs.Context.SessionLaws
import TieredStore.Proofs.Record.Edits
import TieredStore.Proofs.Relational.StoredFields
import TieredStore.Proofs.Storage.StoredRecords
import TieredStore.Proofs.Storage.Saving
import TieredStore.Proofs.Membership.Handles
import TieredStore.Proofs.Membership.SeparateBases
import TieredStore.Proofs.Membership.Healing
import TieredStore.Proofs.Comparison.Numerals
import TieredStore.Proofs.Comparison.Laws
import TieredStore.Proofs.Stack.Routes
import TieredStore.Proofs.Stack.PartialChanges
import TieredStore.Proofs.Storage.SaveRetries
import TieredStore.Proofs.Query.Paging
import TieredStore.Proofs.Predicate.Fields
import TieredStore.Proofs.Predicate.Joining
import TieredStore.Proofs.Query.FieldComparisons
import TieredStore.Proofs.Config.Resolution
import TieredStore.Proofs.Context.Connections
import TieredStore.Proofs.Relational.CorruptRows
import TieredStore.Proofs.Query.Spellings
import TieredStore.Proofs.Pattern.LocalReaders
import TieredStore.Proofs.Pattern.Moves
import TieredStore.Proofs.Pattern.Steps
import TieredStore.Proofs.Pattern.BuiltIn
import TieredStore.Proofs.Config.WholeNames
import TieredStore.Proofs.Binary64.BitPatterns
import TieredStore.Proofs.Relational.ValueRows
