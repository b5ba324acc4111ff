import RowFilter.Catalog.Basic
import RowFilter.Catalog.Trie
import RowFilter.Column
import RowFilter.Command.Arguments
import RowFilter.Command.Basic
import RowFilter.Command.Program
import RowFilter.Compile.Basic
import RowFilter.Compile.Error
import RowFilter.Compile.Journal
import RowFilter.Config.Basic
import RowFilter.Config.Reader
import RowFilter.Json.Basic
import RowFilter.Json.Reader
import RowFilter.Main
import RowFilter.Number.Binary64
import RowFilter.Number.Decimal96
import RowFilter.Number.Notation
import RowFilter.Path
import RowFilter.Pattern.Anchor
import RowFilter.Pattern.Approach
import RowFilter.Pattern.Basic
import RowFilter.Pattern.Encoding
import RowFilter.Pattern.Footprint
import RowFilter.Pattern.Frontier
import RowFilter.Pattern.Needle
import RowFilter.Pattern.Program
import RowFilter.Pattern.Property
import RowFilter.Pattern.Reader
import RowFilter.Pattern.Reader.Bracket
import RowFilter.Pattern.Reader.Escape
import RowFilter.Pattern.Reader.Flags
import RowFilter.Pattern.Search
import RowFilter.Pattern.Substitution
import RowFilter.Pattern.Template
import RowFilter.Proofs.Catalog.Canonical
import RowFilter.Proofs.Catalog.Declarations
import RowFilter.Proofs.Catalog.Entries
import RowFilter.Proofs.Catalog.Frame
import RowFilter.Proofs.Catalog.Listing
import RowFilter.Proofs.Catalog.LongestMatch
import RowFilter.Proofs.Command.Detection
import RowFilter.Proofs.Compile.Acceptance
import RowFilter.Proofs.Compile.Composition
import RowFilter.Proofs.Compile.Containment
import RowFilter.Proofs.Compile.Elementwise
import RowFilter.Proofs.Compile.Faults
import RowFilter.Proofs.Compile.Groups
import RowFilter.Proofs.Compile.Inversion
import RowFilter.Proofs.Compile.References
import RowFilter.Proofs.Compile.Reordering
import RowFilter.Proofs.Json.Scanning
import RowFilter.Proofs.Meaning.Agreement
import RowFilter.Proofs.Meaning.Condition
import RowFilter.Proofs.Meaning.Grants
import RowFilter.Proofs.Meaning.Iteration
import RowFilter.Proofs.Meaning.Predicate
import RowFilter.Proofs.Meaning.Residual
import RowFilter.Proofs.Meaning.Value
import RowFilter.Proofs.Number.ExactOrder
import RowFilter.Proofs.Number.LeadingZeros
import RowFilter.Proofs.Number.Reading
import RowFilter.Proofs.Number.Rounding
import RowFilter.Proofs.Path.Dotted
import RowFilter.Proofs.Pattern.Escaping
import RowFilter.Proofs.Pattern.Searching
import RowFilter.Proofs.Pattern.Size
import RowFilter.Proofs.Pattern.Substituting
import RowFilter.Proofs.Residual.Balance
import RowFilter.Proofs.Residual.Collection
import RowFilter.Proofs.Residual.Completeness
import RowFilter.Proofs.Residual.Encoding
import RowFilter.Proofs.Residual.Grammar
import RowFilter.Proofs.Residual.Lookahead
import RowFilter.Proofs.Residual.Order
import RowFilter.Proofs.Residual.Printing
import RowFilter.Proofs.Residual.Soundness
import RowFilter.Proofs.Residual.Termination
import RowFilter.Proofs.Residual.WellFormed
import RowFilter.Proofs.Resolver.Column
import RowFilter.Proofs.Resolver.ColumnForm
import RowFilter.Proofs.Resolver.Exact
import RowFilter.Proofs.Resolver.KeyPattern
import RowFilter.Proofs.Resolver.Steps
import RowFilter.Proofs.Sql.Alike
import RowFilter.Proofs.Sql.Doubling
import RowFilter.Proofs.Sql.Exchange
import RowFilter.Proofs.Sql.Faults
import RowFilter.Proofs.Sql.Form
import RowFilter.Proofs.Sql.Grammar
import RowFilter.Proofs.Sql.Outline
import RowFilter.Proofs.Sql.Quoting
import RowFilter.Proofs.Sql.ReadBack
import RowFilter.Proofs.Sql.Reader
import RowFilter.Proofs.Sql.Scanner
import RowFilter.Proofs.Sql.Sources
import RowFilter.Proofs.Sql.Strings
import RowFilter.Proofs.Text.Character
import RowFilter.Proofs.Token.Answers
import RowFilter.Proofs.Token.Numeral
import RowFilter.Proofs.Token.Positions
import RowFilter.Proofs.Token.Stream
import RowFilter.Proofs.Token.Writing
import RowFilter.Residual.Decoder
import RowFilter.Residual.Order
import RowFilter.Residual.Parser
import RowFilter.Residual.Printer
import RowFilter.Residual.Query
import RowFilter.Residual.Term
import RowFilter.Resolver.Basic
import RowFilter.Resolver.Projection
import RowFilter.Sql.Node
import RowFilter.Sql.Rendering
import RowFilter.Text.Basic
import RowFilter.Text.CaseFold
import RowFilter.Text.Category.Letter
import RowFilter.Text.Category.Mark
import RowFilter.Text.Category.Sign
import RowFilter.Text.CharSet
import RowFilter.Text.Character
import RowFilter.Text.Property.Binary
import RowFilter.Text.Property.Break
import RowFilter.Text.Property.Category
import RowFilter.Text.Property.Script
import RowFilter.Text.Table.Age
import RowFilter.Text.Table.Break
import RowFilter.Text.Table.Casing
import RowFilter.Text.Table.Emoji
import RowFilter.Text.Table.Ideograph
import RowFilter.Text.Table.Marking
import RowFilter.Text.Table.Naming
import RowFilter.Text.Table.Script
import RowFilter.Text.Table.Sign
import RowFilter.Token.Basic
import RowFilter.Token.Scanner
