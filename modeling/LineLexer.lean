import LineLexer.CharClass
import LineLexer.CommandLine.Option
import LineLexer.CommandLine.Reading
import LineLexer.CommandLine.Request
import LineLexer.CommandLine.Run
import LineLexer.Component
import LineLexer.Config
import LineLexer.Cursor
import LineLexer.Diagnostic.Basic
import LineLexer.Diagnostic.Location
import LineLexer.Diagnostic.Message
import LineLexer.Diagnostic.Phase
import LineLexer.Diagnostic.SyntaxIssue
import LineLexer.Failure
import LineLexer.Files
import LineLexer.Indentation
import LineLexer.Layout
import LineLexer.Line
import LineLexer.Main
import LineLexer.Report
import LineLexer.Reserved.Basic
import LineLexer.Reserved.Keyword
import LineLexer.Reserved.Symbol
import LineLexer.Scan.Literal
import LineLexer.Scan.Mode
import LineLexer.Scan.Number
import LineLexer.Scan.Output
import LineLexer.Scan.Run
import LineLexer.Scan.Step
import LineLexer.Scan.Symbol
import LineLexer.Scan.Word
import LineLexer.Setting
import LineLexer.SourceUnit
import LineLexer.Text.Blank
import LineLexer.Text.Column
import LineLexer.Text.Fields
import LineLexer.Text.Fingerprint
import LineLexer.Text.Invisible
import LineLexer.Text.Mark
import LineLexer.Text.Printable
import LineLexer.Text.Quoted
import LineLexer.Token
import LineLexer.Toml.DateTime
import LineLexer.Toml.Decimal
import LineLexer.Toml.Document
import LineLexer.Toml.Number
import LineLexer.Toml.Reader
import LineLexer.Toml.String
import LineLexer.Toml.Table
import LineLexer.Proofs.CharClass
import LineLexer.Proofs.Cursor
import LineLexer.Proofs.State
import LineLexer.Proofs.Transition
import LineLexer.Proofs.Invariant
import LineLexer.Proofs.Tiling
import LineLexer.Proofs.Lexeme
import LineLexer.Proofs.Separation
import LineLexer.Proofs.Window
import LineLexer.Proofs.Resync
import LineLexer.Proofs.Boundary
import LineLexer.Proofs.Diagnosis
import LineLexer.Proofs.Execution
import LineLexer.Proofs.Isolation
import LineLexer.Proofs.Trimming
import LineLexer.Proofs.Layout
import LineLexer.Proofs.Literal
import LineLexer.Proofs.Written
import LineLexer.Proofs.Order
import LineLexer.Proofs.Accounting
import LineLexer.Proofs.Locality
import LineLexer.Proofs.LifeCycle
import LineLexer.Proofs.Progress
import LineLexer.Proofs.Strict
import LineLexer.Proofs.Passage
import LineLexer.Proofs.Kind
import LineLexer.Proofs.LongestMatch
import LineLexer.Proofs.Quotation
import LineLexer.Proofs.Numeral
import LineLexer.Proofs.Name
import LineLexer.Proofs.NameCharacter
import LineLexer.Proofs.Comment
import LineLexer.Proofs.NumberParts
import LineLexer.Proofs.DecimalPoint
import LineLexer.Proofs.Content
import LineLexer.Proofs.Template
import LineLexer.Proofs.Rows
import LineLexer.Proofs.LineListing
import LineLexer.Proofs.TokenListing
import LineLexer.Proofs.DottedPath
import LineLexer.Proofs.IndentationText
