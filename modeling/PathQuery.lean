import PathQuery.Collection.Basic
import PathQuery.Command.Basic
import PathQuery.Command.Run
import PathQuery.Command.Start
import PathQuery.Document.Datum
import PathQuery.Document.Decode
import PathQuery.Entry.Basic
import PathQuery.Entry.Inspect
import PathQuery.Error
import PathQuery.Format
import PathQuery.Host.Basic
import PathQuery.Host.Disk
import PathQuery.Host.Path
import PathQuery.Host.Tree
import PathQuery.Host.Users
import PathQuery.Json.Basic
import PathQuery.Json.Document
import PathQuery.Json.Inspect
import PathQuery.Json.Reader
import PathQuery.Json.Text
import PathQuery.Log.Event
import PathQuery.Log.Filter
import PathQuery.Log.Journal
import PathQuery.Main
import PathQuery.Members
import PathQuery.Number.Basic
import PathQuery.Number.Decimal
import PathQuery.Number.Double
import PathQuery.Number.Floating
import PathQuery.Pattern.Ast
import PathQuery.Pattern.Basic
import PathQuery.Pattern.Bracket
import PathQuery.Pattern.Escape
import PathQuery.Pattern.Expression
import PathQuery.Pattern.Look
import PathQuery.Pattern.Reader
import PathQuery.Pattern.Regex
import PathQuery.Pattern.Resolve
import PathQuery.Pattern.SetSize
import PathQuery.Pattern.Size
import PathQuery.Pattern.Tally
import PathQuery.Pattern.WordSize
import PathQuery.Predicate.Basic
import PathQuery.Predicate.Text
import PathQuery.Proofs.Document.Position
import PathQuery.Proofs.Number.Digits
import PathQuery.Proofs.Number.NumeralText
import PathQuery.Proofs.Number.Rounding
import PathQuery.Proofs.Number.Shortest
import PathQuery.Proofs.Number.Value
import PathQuery.Proofs.Predicate.Comparison
import PathQuery.Proofs.Query.AcceptedTexts
import PathQuery.Proofs.Query.CanonicalText
import PathQuery.Proofs.Query.Completeness
import PathQuery.Proofs.Query.DocumentOrder
import PathQuery.Proofs.Query.Grammar
import PathQuery.Proofs.Query.LiteralText
import PathQuery.Proofs.Query.Outcome
import PathQuery.Proofs.Query.Soundness
import PathQuery.Proofs.Query.Tokens
import PathQuery.Proofs.Text.Characters
import PathQuery.Proofs.Text.Trimming
import PathQuery.Query.Basic
import PathQuery.Query.Reader
import PathQuery.Query.Text
import PathQuery.Query.Word
import PathQuery.Settings.Basic
import PathQuery.Settings.File
import PathQuery.Text.Alphabetic
import PathQuery.Text.Blank
import PathQuery.Text.CharSet
import PathQuery.Text.Encoding
import PathQuery.Text.Numeric
import PathQuery.Text.Quoted
import PathQuery.Text.Rest
import PathQuery.Text.Shapeless
import PathQuery.Text.Split
import PathQuery.Text.Word
import PathQuery.Toml.Basic
import PathQuery.Toml.Datetime
import PathQuery.Toml.Numeral
import PathQuery.Toml.Quoted
import PathQuery.Toml.Reader
import PathQuery.Toml.Table
import PathQuery.Toml.Text
import PathQuery.Unicode.Age
import PathQuery.Unicode.Basic
import PathQuery.Unicode.Break
import PathQuery.Unicode.CaseFold
import PathQuery.Unicode.Category
import PathQuery.Unicode.Derived
import PathQuery.Unicode.Lookup
import PathQuery.Unicode.Property
import PathQuery.Unicode.Query
import PathQuery.Unicode.Script
import PathQuery.Proofs.Document.Path
import PathQuery.Proofs.Query.Provenance
import PathQuery.Proofs.Document.Equality
import PathQuery.Proofs.Query.Addressing
import PathQuery.Proofs.Query.PredicateText
import PathQuery.Proofs.Query.Joining
import PathQuery.Proofs.Query.EntryByEntry
import PathQuery.Proofs.Document.Reordering
import PathQuery.Proofs.Predicate.Agreement
import PathQuery.Proofs.Query.KeyOrder
import PathQuery.Proofs.Command.Output
import PathQuery.Proofs.Command.Stages
import PathQuery.Proofs.Command.Logging
import PathQuery.Proofs.Query.Searching
import PathQuery.Proofs.Query.SearchOrder
import PathQuery.Proofs.Query.FaultPlaces
import PathQuery.Proofs.Host.FileName
import PathQuery.Proofs.Command.Arrival
import PathQuery.Proofs.Query.Filtering
import PathQuery.Proofs.Query.Spreading
import PathQuery.Proofs.Predicate.Ordering
import PathQuery.Proofs.Document.Equivalence
import PathQuery.Proofs.Predicate.Equivalence
import PathQuery.Proofs.Collection.Selection
import PathQuery.Proofs.Text.Taking
import PathQuery.Proofs.Number.LeadingDigits
import PathQuery.Proofs.Json.NumberText
import PathQuery.Proofs.Json.ScalarText
import PathQuery.Proofs.Collection.Projection
import PathQuery.Proofs.Toml.Conversion
import PathQuery.Proofs.Json.IndentedText
import PathQuery.Proofs.Command.Formats
import PathQuery.Proofs.Toml.DistinctKeys
import PathQuery.Proofs.Toml.StringText
import PathQuery.Proofs.Settings.SavedText
import PathQuery.Proofs.Host.Disk
import PathQuery.Proofs.Settings.Saving
import PathQuery.Proofs.Query.Calls
import PathQuery.Proofs.Query.Progress
