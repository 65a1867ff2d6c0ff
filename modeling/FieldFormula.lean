import FieldFormula.Catalogue
import FieldFormula.CommandLine
import FieldFormula.CommandLine.Arguments
import FieldFormula.CommandLine.Commands
import FieldFormula.Compiler
import FieldFormula.Compiler.Json
import FieldFormula.Decimal
import FieldFormula.Dependency
import FieldFormula.Double
import FieldFormula.Error
import FieldFormula.Error.Json
import FieldFormula.Expr
import FieldFormula.Expr.Build
import FieldFormula.Expr.Check
import FieldFormula.Expr.Collect
import FieldFormula.Expr.Json
import FieldFormula.Expr.Print
import FieldFormula.Expr.Rename
import FieldFormula.Fault
import FieldFormula.Json
import FieldFormula.Json.Number
import FieldFormula.Json.Reader
import FieldFormula.Json.Text
import FieldFormula.Json.Usable
import FieldFormula.Json.Writer
import FieldFormula.Kind
import FieldFormula.Limits
import FieldFormula.Limits.Json
import FieldFormula.Main
import FieldFormula.Manual
import FieldFormula.Numeral
import FieldFormula.Operator
import FieldFormula.Position
import FieldFormula.Proofs.Catalogue
import FieldFormula.Proofs.Comparisons
import FieldFormula.Proofs.Compiled
import FieldFormula.Proofs.Conditional
import FieldFormula.Proofs.Depth
import FieldFormula.Proofs.Enclosed
import FieldFormula.Proofs.Expr.Admissible
import FieldFormula.Proofs.Expr.Build
import FieldFormula.Proofs.Expr.Check
import FieldFormula.Proofs.Expr.Collect
import FieldFormula.Proofs.Expr.Mirror
import FieldFormula.Proofs.Expr.Print
import FieldFormula.Proofs.Expr.References
import FieldFormula.Proofs.Expr.Rename
import FieldFormula.Proofs.Expr.Walk
import FieldFormula.Proofs.Fading
import FieldFormula.Proofs.Feed
import FieldFormula.Proofs.Gap
import FieldFormula.Proofs.Grammar
import FieldFormula.Proofs.Json.Document
import FieldFormula.Proofs.Json.Spelling
import FieldFormula.Proofs.Layout
import FieldFormula.Proofs.LeftmostError
import FieldFormula.Proofs.Limits
import FieldFormula.Proofs.Literals
import FieldFormula.Proofs.Lookups
import FieldFormula.Proofs.Lowercase
import FieldFormula.Proofs.Name
import FieldFormula.Proofs.Noninterference
import FieldFormula.Proofs.NormalTypes
import FieldFormula.Proofs.Numeral
import FieldFormula.Proofs.OperatorCalls
import FieldFormula.Proofs.Parser.Aspect
import FieldFormula.Proofs.Parser.Careful
import FieldFormula.Proofs.Parser.Completeness
import FieldFormula.Proofs.Parser.Cursor
import FieldFormula.Proofs.Parser.Demand
import FieldFormula.Proofs.Parser.Exactness
import FieldFormula.Proofs.Parser.Height
import FieldFormula.Proofs.Parser.Soundness
import FieldFormula.Proofs.Parser.Tokens
import FieldFormula.Proofs.Parser.Viable
import FieldFormula.Proofs.Partition
import FieldFormula.Proofs.Quoted
import FieldFormula.Proofs.Registered
import FieldFormula.Proofs.Registry
import FieldFormula.Proofs.RenameLaws
import FieldFormula.Proofs.RenamedText
import FieldFormula.Proofs.Renaming
import FieldFormula.Proofs.Requests
import FieldFormula.Proofs.RoundTrip
import FieldFormula.Proofs.Rounding
import FieldFormula.Proofs.Scanner
import FieldFormula.Proofs.SchemaDocument
import FieldFormula.Proofs.Signature
import FieldFormula.Proofs.Simulation
import FieldFormula.Proofs.Sorted
import FieldFormula.Proofs.Spelling
import FieldFormula.Proofs.Stability
import FieldFormula.Proofs.Tape
import FieldFormula.Proofs.Typed
import FieldFormula.Proofs.WellFormed
import FieldFormula.Proofs.WrittenDecimals
import FieldFormula.Proofs.WrittenIntegers
import FieldFormula.Quoted
import FieldFormula.Registry
import FieldFormula.Schema
import FieldFormula.Schema.Json
import FieldFormula.Signature.ArgCount
import FieldFormula.Signature.ArgRule
import FieldFormula.Signature.Category
import FieldFormula.Signature.Definition
import FieldFormula.Signature.ReturnRule
import FieldFormula.Sorted
import FieldFormula.Table
import FieldFormula.Text.Alphabetic
import FieldFormula.Text.Cased
import FieldFormula.Text.CodeRanges
import FieldFormula.Text.Lines
import FieldFormula.Text.Lowercase
import FieldFormula.Text.Numeric
import FieldFormula.Text.Printable
import FieldFormula.Text.Visible
import FieldFormula.Text.Whitespace
import FieldFormula.Token
import FieldFormula.Token.Feed
import FieldFormula.Token.Scanner
import FieldFormula.Token.Spelling
import FieldFormula.Tree
import FieldFormula.Tree.Parser
import FieldFormula.Ty
import FieldFormula.Ty.Json
