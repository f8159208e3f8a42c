import ExScript.Cli.Outcome
import ExScript.Cli.Source
import ExScript.Cli.Task
import ExScript.Command.Index
import ExScript.Expr
import ExScript.Expr.Json
import ExScript.Expr.Parser
import ExScript.Files
import ExScript.Files.Tree
import ExScript.Finding
import ExScript.Host
import ExScript.Host.Recorder
import ExScript.Json
import ExScript.Json.Reader
import ExScript.Json.Record
import ExScript.Keyword
import ExScript.Line.Lexed
import ExScript.Line.Logical
import ExScript.Main
import ExScript.Name
import ExScript.ParseError
import ExScript.Position
import ExScript.Proofs.Expr.Grammar
import ExScript.Proofs.Expr.Height
import ExScript.Proofs.Line.Printed
import ExScript.Proofs.Script.Modes
import ExScript.Proofs.Script.Recovery
import ExScript.Proofs.Script.RoundTrip
import ExScript.Proofs.Session.Callers
import ExScript.Proofs.Session.Evolution
import ExScript.Proofs.Session.Isolation
import ExScript.Proofs.Session.Simulation
import ExScript.Proofs.Session.Stacks
import ExScript.Proofs.Statement.Extent
import ExScript.Proofs.Statement.Printer
import ExScript.Proofs.Statement.Reading
import ExScript.Proofs.Token.Scanning
import ExScript.Scope
import ExScript.Script
import ExScript.Script.Check
import ExScript.Script.Json
import ExScript.Script.Parser
import ExScript.ScriptError
import ExScript.Session
import ExScript.Session.Error
import ExScript.Session.Frame
import ExScript.Session.Functions
import ExScript.Session.Heap
import ExScript.Session.Run
import ExScript.Session.Variable
import ExScript.Session.World
import ExScript.Settings
import ExScript.Statement
import ExScript.Statement.Json
import ExScript.Statement.Parser
import ExScript.Table
import ExScript.Text.Blank
import ExScript.Text.Bytes
import ExScript.Text.Decimal
import ExScript.Text.Lines
import ExScript.Text.Quoted
import ExScript.Text.Unprinted
import ExScript.Token
import ExScript.Token.Lexer
import ExScript.Value
import ExScript.Proofs.Session.Rules
import ExScript.Proofs.Session.Moments
import ExScript.Proofs.Session.Failure
import ExScript.Proofs.Session.Privacy
import ExScript.Proofs.Script.Agreement
import ExScript.Proofs.Script.Arguments
import ExScript.Proofs.Script.GlobalNames
import ExScript.Proofs.Line.Places
import ExScript.Proofs.Expr.Relocation
import ExScript.Proofs.Statement.Relocation
import ExScript.Proofs.Script.Relocation
import ExScript.Proofs.Line.Spacing
import ExScript.Proofs.Line.Joining
import ExScript.Proofs.Script.Layout
import ExScript.Proofs.Script.Spacing
import ExScript.Proofs.Script.ErrorPlaces
import ExScript.Proofs.Statement.Pace
import ExScript.Proofs.Script.Progress
import ExScript.Proofs.Script.Concatenation
import ExScript.Proofs.Session.ReadOnly
import ExScript.Proofs.Line.Shapes
import ExScript.Proofs.Statement.WellFormed
import ExScript.Proofs.Script.WellFormed
import ExScript.Proofs.Cli.Checking
import ExScript.Proofs.Json.Forms
import ExScript.Proofs.Script.Encoding
import ExScript.Proofs.Session.Atomicity
import ExScript.Proofs.Line.Listing
import ExScript.Proofs.Script.FlagLayouts
import ExScript.Proofs.Session.Layers
import ExScript.Proofs.Session.References
import ExScript.Proofs.Session.Stores
import ExScript.Proofs.Session.Grouping
import ExScript.Proofs.Session.Access
import ExScript.Proofs.Session.Comparison
