import TreeKeeper.Calendar.Basic
import TreeKeeper.Calendar.Timestamp
import TreeKeeper.Character.Alphabetic
import TreeKeeper.Character.Category
import TreeKeeper.Character.Digit
import TreeKeeper.Character.Folding
import TreeKeeper.Character.Property
import TreeKeeper.Character.Run
import TreeKeeper.Character.Script
import TreeKeeper.Character.Word
import TreeKeeper.CommandLine.Arguments
import TreeKeeper.CommandLine.Command
import TreeKeeper.CommandLine.Run
import TreeKeeper.Decimal.Binary64
import TreeKeeper.Decimal.Shortest
import TreeKeeper.Entry.Basic
import TreeKeeper.Entry.Kind
import TreeKeeper.Entry.Order
import TreeKeeper.Entry.Record
import TreeKeeper.Expression.Fault
import TreeKeeper.Expression.Reader
import TreeKeeper.Expression.Rounds
import TreeKeeper.Expression.Token
import TreeKeeper.FileTree.Basic
import TreeKeeper.FileTree.Fault
import TreeKeeper.FileTree.Listing
import TreeKeeper.FileTree.Operations
import TreeKeeper.FileTree.Resolve
import TreeKeeper.Filter.Basic
import TreeKeeper.Filter.Meaning
import TreeKeeper.Filter.Printer
import TreeKeeper.Filter.Validity
import TreeKeeper.Json.Basic
import TreeKeeper.Json.Printer
import TreeKeeper.Json.Reader
import TreeKeeper.Main
import TreeKeeper.Mode.Basic
import TreeKeeper.Path.Basic
import TreeKeeper.Pattern.Basic
import TreeKeeper.Pattern.Glob
import TreeKeeper.Policy.Action
import TreeKeeper.Policy.Apply
import TreeKeeper.Policy.Basic
import TreeKeeper.Policy.Cache
import TreeKeeper.Policy.Document
import TreeKeeper.Policy.Reader
import TreeKeeper.Policy.Run
import TreeKeeper.Predicate.Basic
import TreeKeeper.Predicate.Builtin
import TreeKeeper.Program.Basic
import TreeKeeper.Program.Condition
import TreeKeeper.Program.Standard
import TreeKeeper.Proofs.Expression.Grammar
import TreeKeeper.Regex.Basic
import TreeKeeper.Regex.CharacterClass
import TreeKeeper.Regex.Reader
import TreeKeeper.Search.Action
import TreeKeeper.Search.Basic
import TreeKeeper.Search.Format
import TreeKeeper.Search.Listing
import TreeKeeper.Search.Run
import TreeKeeper.Sink
import TreeKeeper.Store.Basic
import TreeKeeper.Store.Capabilities
import TreeKeeper.Store.Directory
import TreeKeeper.Store.Event
import TreeKeeper.Store.Opened
import TreeKeeper.Store.Results
import TreeKeeper.Store.Script
import TreeKeeper.Store.Snapshot
import TreeKeeper.Store.Uri
import TreeKeeper.Text.Basic
import TreeKeeper.Text.Blank
import TreeKeeper.Text.CommandWords
import TreeKeeper.Text.Dictionary
import TreeKeeper.Text.Numeral
import TreeKeeper.Window.Basic
import TreeKeeper.World
import TreeKeeper.Yaml.Cursor
import TreeKeeper.Yaml.Node
import TreeKeeper.Yaml.Scalar
import TreeKeeper.Yaml.ScalarText
import TreeKeeper.Yaml.Scanner
import TreeKeeper.Yaml.Token
import TreeKeeper.Yaml.Value
import TreeKeeper.Proofs.Expression.Reading
import TreeKeeper.Proofs.Text.Numeral
import TreeKeeper.Proofs.Filter.Shape
import TreeKeeper.Proofs.Filter.Building
import TreeKeeper.Proofs.Filter.RoundTrip
import TreeKeeper.Proofs.Policy.Applying
import TreeKeeper.Proofs.Policy.Decision
import TreeKeeper.Proofs.Policy.Handling
import TreeKeeper.Proofs.Policy.Course
import TreeKeeper.Proofs.Policy.Safety
import TreeKeeper.Proofs.Search.Execution
import TreeKeeper.Proofs.Search.Plan
import TreeKeeper.Proofs.Search.Misuse
import TreeKeeper.Proofs.Expression.Segments
import TreeKeeper.Proofs.Search.Planning
import TreeKeeper.Proofs.Search.Commands
import TreeKeeper.Proofs.Search.Asking
import TreeKeeper.Proofs.Search.Acceptance
import TreeKeeper.Proofs.Search.Flushing
import TreeKeeper.Proofs.Policy.Ending
import TreeKeeper.Proofs.Policy.Release
import TreeKeeper.Proofs.Policy.DryRun
import TreeKeeper.Proofs.Policy.Tallies
import TreeKeeper.Proofs.Policy.Counting
import TreeKeeper.Proofs.Store.Logging
import TreeKeeper.Proofs.Policy.Following
import TreeKeeper.Proofs.Policy.Agreement
import TreeKeeper.Proofs.Policy.Isolation
import TreeKeeper.Proofs.Json.RoundTrip
import TreeKeeper.Proofs.Entry.RoundTrip
import TreeKeeper.Proofs.FileTree.Writing
import TreeKeeper.Proofs.Store.Saving
import TreeKeeper.Proofs.Policy.Sharing
import TreeKeeper.Proofs.Entry.Ordering
import TreeKeeper.Proofs.Store.Selection
import TreeKeeper.Proofs.Store.Positions
import TreeKeeper.Proofs.Store.Operations
import TreeKeeper.Proofs.Store.Removal
import TreeKeeper.Proofs.Store.Persistence
import TreeKeeper.Proofs.Regex.Matching
import TreeKeeper.Proofs.Text.Pieces
import TreeKeeper.Proofs.Pattern.Translation
import TreeKeeper.Proofs.Path.Names
import TreeKeeper.Proofs.FileTree.Walking
import TreeKeeper.Proofs.FileTree.Erasing
import TreeKeeper.Proofs.FileTree.Visiting
import TreeKeeper.Proofs.Store.Places
import TreeKeeper.Proofs.Store.Confinement
import TreeKeeper.Proofs.Store.Walks
import TreeKeeper.Proofs.Store.Tours
import TreeKeeper.Proofs.Store.Objects
import TreeKeeper.Proofs.Search.Deleting
import TreeKeeper.Proofs.Store.Clearing
import TreeKeeper.Proofs.Search.Clearing
import TreeKeeper.Proofs.Policy.Caching
import TreeKeeper.Proofs.Policy.Mirroring
import TreeKeeper.Proofs.Policy.Rehearsal
import TreeKeeper.Proofs.Policy.Classes
import TreeKeeper.Proofs.Pattern.Quoting
import TreeKeeper.Proofs.Pattern.Brackets
import TreeKeeper.Proofs.Filter.Comparing
import TreeKeeper.Proofs.Window.Numerals
import TreeKeeper.Proofs.Window.Ages
import TreeKeeper.Proofs.Window.Sizes
import TreeKeeper.Proofs.Mode.Clauses
import TreeKeeper.Proofs.Mode.Bits
import TreeKeeper.Proofs.Mode.Reading
import TreeKeeper.Proofs.Text.CommandWords
import TreeKeeper.Proofs.Policy.Commands
import TreeKeeper.Proofs.Expression.Operands
import TreeKeeper.Proofs.Expression.Directives
import TreeKeeper.Proofs.Path.Resolution
import TreeKeeper.Proofs.FileTree.Absence
import TreeKeeper.Proofs.Store.Absence
import TreeKeeper.Proofs.Filter.Regularity
import TreeKeeper.Proofs.Search.Regularity
import TreeKeeper.Proofs.Policy.Regularity
import TreeKeeper.Proofs.Expression.Cursor
import TreeKeeper.Proofs.Expression.Bounds
import TreeKeeper.Proofs.Expression.Faults
import TreeKeeper.Proofs.Expression.Turns
import TreeKeeper.Proofs.Search.Formatting
import TreeKeeper.Proofs.Text.ByteOrder
import TreeKeeper.Proofs.Filter.Orders
import TreeKeeper.Proofs.Search.Kilobytes
import TreeKeeper.Proofs.Entry.Decomposition
