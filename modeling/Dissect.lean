import Dissect.CommandLine.Hex
import Dissect.CommandLine.Memory
import Dissect.CommandLine.Options
import Dissect.CommandLine.Request
import Dissect.CommandLine.Run
import Dissect.Decimal.Positional
import Dissect.Decimal.Shortest
import Dissect.Document.Conversion
import Dissect.Document.Error
import Dissect.Document.Parse
import Dissect.Document.Reader
import Dissect.Document.Syntax
import Dissect.Files.Error
import Dissect.Files.Tree
import Dissect.Json.Basic
import Dissect.Json.Number
import Dissect.Json.Token
import Dissect.Layout.Basic
import Dissect.Layout.Builder
import Dissect.Layout.Identifier
import Dissect.Main
import Dissect.Path
import Dissect.Proofs.Script.Reader
import Dissect.Proofs.Wire.Buffer
import Dissect.Proofs.Wire.Progress
import Dissect.Report
import Dissect.Schema.Error
import Dissect.Schema.Model
import Dissect.Schema.Registry
import Dissect.Schema.TypeExpr
import Dissect.Script.Block
import Dissect.Script.Branch
import Dissect.Script.Declarations
import Dissect.Script.FieldType
import Dissect.Script.Literal
import Dissect.Script.Module
import Dissect.Script.Output
import Dissect.Script.Statement
import Dissect.Script.Writer
import Dissect.Text.Blank
import Dissect.Text.LetterCase
import Dissect.Text.Printable
import Dissect.Text.Quoted
import Dissect.Text.SnakeCase
import Dissect.Text.Span
import Dissect.Text.Utf8
import Dissect.Wire.Buffer
import Dissect.Wire.Decoder
import Dissect.Wire.Error
import Dissect.Wire.Instruction
import Dissect.Wire.Scalar
import Dissect.Wire.Value
import Dissect.Proofs.Script.Rereading
import Dissect.Proofs.Script.Execution
import Dissect.Proofs.Layout.Builder
import Dissect.Proofs.Layout.Layable
import Dissect.Proofs.Wire.Grammar
import Dissect.Proofs.Layout.Interning
import Dissect.Proofs.Layout.Outline
import Dissect.Proofs.Layout.Renaming
import Dissect.Proofs.Script.ProtocolLayout
import Dissect.Proofs.Text.SnakeCase
import Dissect.Proofs.Layout.Spelling
import Dissect.Proofs.Script.Parts
import Dissect.Proofs.Script.Declarations
import Dissect.Proofs.Script.Placeholders
import Dissect.Proofs.Schema.Required
import Dissect.Proofs.Layout.Slots
import Dissect.Proofs.Script.FieldTypes
import Dissect.Proofs.Document.Classes
import Dissect.Proofs.Document.Population
import Dissect.Proofs.Schema.Insertion
import Dissect.Proofs.Wire.Calls
import Dissect.Proofs.Script.Unrelated
import Dissect.Proofs.Json.Spelling
import Dissect.Proofs.Json.Values
import Dissect.Proofs.Document.Writing
import Dissect.Proofs.Document.RoundTrip
import Dissect.Proofs.Wire.Extension
import Dissect.Proofs.Layout.Termination
import Dissect.Proofs.Layout.Contributions
import Dissect.Proofs.Schema.Inheritance
import Dissect.Proofs.Schema.Search
import Dissect.Proofs.Layout.Circles
import Dissect.Proofs.Document.Methods
import Dissect.Proofs.Script.Lines
import Dissect.Proofs.Script.Literals
import Dissect.Proofs.Layout.Places
import Dissect.Proofs.Script.Names
import Dissect.Proofs.Script.Comments
import Dissect.Proofs.Script.WellFormed
import Dissect.Proofs.Document.Ordinals
import Dissect.Proofs.Script.Dispatch
import Dissect.Proofs.Wire.Texts
import Dissect.Proofs.Script.Files
import Dissect.Proofs.Script.Variables
import Dissect.Proofs.Script.Reports
import Dissect.Proofs.Script.Usage
import Dissect.Proofs.Script.Locals
