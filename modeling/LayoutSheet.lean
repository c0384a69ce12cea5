import LayoutSheet.Build
import LayoutSheet.Catalog
import LayoutSheet.CommandLine.Filter
import LayoutSheet.CommandLine.Options
import LayoutSheet.CommandLine.Run
import LayoutSheet.Config
import LayoutSheet.Config.Reading
import LayoutSheet.Decimal.Rounded
import LayoutSheet.Decimal.Shortest
import LayoutSheet.Event
import LayoutSheet.FileTree
import LayoutSheet.FileTree.Writing
import LayoutSheet.Files
import LayoutSheet.IndexedCatalog
import LayoutSheet.IndexedList
import LayoutSheet.Inputs
import LayoutSheet.Inputs.Directory
import LayoutSheet.Json.Decoder
import LayoutSheet.Json.Fault
import LayoutSheet.Json.Number
import LayoutSheet.Json.Numeral
import LayoutSheet.Json.Problem
import LayoutSheet.Json.Quoted
import LayoutSheet.Json.Record
import LayoutSheet.Json.Token
import LayoutSheet.Json.Tree
import LayoutSheet.KeyedList
import LayoutSheet.Layout
import LayoutSheet.Layout.Reading
import LayoutSheet.LoadError
import LayoutSheet.Path
import LayoutSheet.Pattern
import LayoutSheet.Pattern.Brackets
import LayoutSheet.Pattern.Cursor
import LayoutSheet.Pattern.Escape
import LayoutSheet.Pattern.Expr
import LayoutSheet.Pattern.Fault
import LayoutSheet.Pattern.Meaning
import LayoutSheet.Pattern.Property
import LayoutSheet.Pattern.Reading
import LayoutSheet.Pattern.Syntax
import LayoutSheet.Pattern.Weight
import LayoutSheet.Placement
import LayoutSheet.Placement.Walk
import LayoutSheet.Selector
import LayoutSheet.Sheet
import LayoutSheet.Sheet.Grouping
import LayoutSheet.Sheet.IndexedGrouping
import LayoutSheet.Sheet.Rendering
import LayoutSheet.Stylesheet.Compact
import LayoutSheet.Stylesheet.Piece
import LayoutSheet.Text.Blank
import LayoutSheet.Text.Case
import LayoutSheet.Text.Category
import LayoutSheet.Text.Hexadecimal
import LayoutSheet.Text.Letter
import LayoutSheet.Text.Quotation
import LayoutSheet.Text.Ranges
import LayoutSheet.Text.Script
import LayoutSheet.Text.Terminal
import LayoutSheet.Text.Visible
import LayoutSheet.Warning
import LayoutSheet.Watching
import LayoutSheet.Writes
import LayoutSheet.Main
import LayoutSheet.Proofs.BareIds
import LayoutSheet.Proofs.Breakpoints
import LayoutSheet.Proofs.Cascade
import LayoutSheet.Proofs.Catalog
import LayoutSheet.Proofs.Compaction
import LayoutSheet.Proofs.Containers
import LayoutSheet.Proofs.Decoding
import LayoutSheet.Proofs.Documents
import LayoutSheet.Proofs.Edits
import LayoutSheet.Proofs.Gathering
import LayoutSheet.Proofs.Grouping
import LayoutSheet.Proofs.History
import LayoutSheet.Proofs.Holding
import LayoutSheet.Proofs.IndexedGrouping
import LayoutSheet.Proofs.IndexedList
import LayoutSheet.Proofs.Items
import LayoutSheet.Proofs.KeptTokens
import LayoutSheet.Proofs.Layers
import LayoutSheet.Proofs.Lexemes
import LayoutSheet.Proofs.Listing
import LayoutSheet.Proofs.Longhands
import LayoutSheet.Proofs.Looks
import LayoutSheet.Proofs.Numerals
import LayoutSheet.Proofs.Partition
import LayoutSheet.Proofs.PassedOver
import LayoutSheet.Proofs.Paths
import LayoutSheet.Proofs.Placements
import LayoutSheet.Proofs.Reach
import LayoutSheet.Proofs.Readback
import LayoutSheet.Proofs.Realization
import LayoutSheet.Proofs.Registration
import LayoutSheet.Proofs.Resets
import LayoutSheet.Proofs.Resolution
import LayoutSheet.Proofs.RoundTrip
import LayoutSheet.Proofs.Savings
import LayoutSheet.Proofs.Scoping
import LayoutSheet.Proofs.SecondPass
import LayoutSheet.Proofs.Settling
import LayoutSheet.Proofs.Spans
import LayoutSheet.Proofs.Spelling
import LayoutSheet.Proofs.Strictness
import LayoutSheet.Proofs.Thinning
import LayoutSheet.Proofs.Tokens
import LayoutSheet.Proofs.Trees
import LayoutSheet.Proofs.UnknownKeys
import LayoutSheet.Proofs.Walk
import LayoutSheet.Proofs.Watched
import LayoutSheet.Proofs.Widening
import LayoutSheet.Proofs.Writes
import LayoutSheet.Proofs.Writing
