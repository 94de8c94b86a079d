import TestLocator.Automaton.Build
import TestLocator.Automaton.Context
import TestLocator.Automaton.Item
import TestLocator.Automaton.Lookahead
import TestLocator.Automaton.Merge
import TestLocator.Automaton.Mode
import TestLocator.Batch.Descriptor
import TestLocator.Batch.Process
import TestLocator.Batch.Row
import TestLocator.Batch.Run
import TestLocator.Batch.Table
import TestLocator.Command.Help
import TestLocator.Command.Line
import TestLocator.Command.Reach
import TestLocator.Command.Reading
import TestLocator.Command.Run
import TestLocator.Config.Files
import TestLocator.Config.Settings
import TestLocator.Csv.Cursor
import TestLocator.Csv.Record
import TestLocator.Csv.Writer
import TestLocator.Files.Disk
import TestLocator.Files.Memory
import TestLocator.Files.Path
import TestLocator.Files.View
import TestLocator.Grammar.CharSet
import TestLocator.Grammar.Production
import TestLocator.Grammar.Rule
import TestLocator.Grammar.Symbol
import TestLocator.Grammar.Token
import TestLocator.Json.Double
import TestLocator.Json.Fault
import TestLocator.Json.Reader
import TestLocator.Json.Value
import TestLocator.Json.Writer
import TestLocator.Lexing.Alphabet
import TestLocator.Lexing.Machine
import TestLocator.Lexing.Overlap
import TestLocator.Locating.Document
import TestLocator.Locating.Failure
import TestLocator.Locating.Report
import TestLocator.Locating.Rule
import TestLocator.Locating.Search
import TestLocator.Main
import TestLocator.Parsing.Concrete
import TestLocator.Parsing.Parser
import TestLocator.Parsing.Scan
import TestLocator.Parsing.Shown
import TestLocator.Parsing.Source
import TestLocator.Parsing.Stack
import TestLocator.Parsing.Tables
import TestLocator.Parsing.Tree
import TestLocator.Proofs.Batch.Columns
import TestLocator.Proofs.Batch.Course
import TestLocator.Proofs.Batch.Datasets
import TestLocator.Proofs.Batch.Descriptors
import TestLocator.Proofs.Batch.Ending
import TestLocator.Proofs.Batch.Isolation
import TestLocator.Proofs.Batch.Location
import TestLocator.Proofs.Batch.Output
import TestLocator.Proofs.Batch.Positions
import TestLocator.Proofs.Batch.Reading
import TestLocator.Proofs.Batch.RowForRow
import TestLocator.Proofs.Batch.SingleQuotes
import TestLocator.Proofs.Batch.Summary
import TestLocator.Proofs.Command.Contract
import TestLocator.Proofs.Command.Variable
import TestLocator.Proofs.Config.Nearest
import TestLocator.Proofs.Csv.CursorSteps
import TestLocator.Proofs.Csv.Header
import TestLocator.Proofs.Csv.RoundTrip
import TestLocator.Proofs.Csv.Spelling
import TestLocator.Proofs.Csv.TextFields
import TestLocator.Proofs.Files.Below
import TestLocator.Proofs.Files.Writing
import TestLocator.Proofs.Json.Decoding
import TestLocator.Proofs.Json.Digits
import TestLocator.Proofs.Json.Numerals
import TestLocator.Proofs.Json.Quotes
import TestLocator.Proofs.Json.Spelling
import TestLocator.Proofs.Json.Strings
import TestLocator.Proofs.Locating.Declarations
import TestLocator.Proofs.Locating.FirstMatch
import TestLocator.Proofs.Locating.LineCount
import TestLocator.Proofs.Locating.Outcomes
import TestLocator.Proofs.Locating.Quotation
import TestLocator.Proofs.Locating.SameBlock
import TestLocator.Proofs.Locating.Slices
import TestLocator.Proofs.Parsing.TreeOrder
import TestLocator.Proofs.Parsing.Walk
import TestLocator.Proofs.Syntax.Acceptance
import TestLocator.Proofs.Syntax.Kept
import TestLocator.Proofs.Syntax.Nesting
import TestLocator.Proofs.Syntax.NodeOrder
import TestLocator.Proofs.Text.Ascii
import TestLocator.Proofs.Text.Breaks
import TestLocator.Proofs.Text.Removal
import TestLocator.Proofs.Text.Trimming
import TestLocator.Script.EcmaGrammar
import TestLocator.Script.Parsers
import TestLocator.Script.Scanner
import TestLocator.Script.TypedGrammar
import TestLocator.Syntax.Fault
import TestLocator.Syntax.Language
import TestLocator.Syntax.Lower
import TestLocator.Syntax.Node
import TestLocator.Syntax.Span
import TestLocator.Syntax.Tree
import TestLocator.Text.Blank
import TestLocator.Text.Bytes
import TestLocator.Text.Lines
import TestLocator.Text.Quoted
import TestLocator.Text.Visible
import TestLocator.Toml.Reader
import TestLocator.Toml.Scalar
import TestLocator.Toml.Value
import TestLocator.Proofs.Locating.LineByLine
import TestLocator.Proofs.Locating.MarkerLeft
import TestLocator.Proofs.Parsing.Extents
import TestLocator.Proofs.Text.Stretch
import TestLocator.Proofs.Locating.Origins
import TestLocator.Proofs.Locating.WholeText
import TestLocator.Proofs.Locating.Quiet
import TestLocator.Proofs.Locating.Suite
import TestLocator.Proofs.Locating.SuiteTree
import TestLocator.Proofs.Batch.FilePaths
import TestLocator.Proofs.Batch.UnreadHeader
import TestLocator.Proofs.Locating.Pruning
import TestLocator.Proofs.Parsing.Levels
import TestLocator.Proofs.Syntax.Levels
import TestLocator.Proofs.Locating.BoundedDepth
import TestLocator.Batch.Spool
import TestLocator.Proofs.Syntax.Faults
import TestLocator.Proofs.Json.Layouts
import TestLocator.Proofs.Locating.Reports
import TestLocator.Proofs.Batch.Spooling
import TestLocator.Proofs.Files.Ancestors
import TestLocator.Proofs.Config.Window
import TestLocator.Proofs.Parsing.Moves
import TestLocator.Proofs.Locating.LineView
import TestLocator.Proofs.Files.Places
import TestLocator.Proofs.Config.Creation
import TestLocator.Proofs.Files.Insertions
import TestLocator.Proofs.Files.Respelling
import TestLocator.Proofs.Locating.MemoryFiles
import TestLocator.Proofs.Locating.WrappedValues
