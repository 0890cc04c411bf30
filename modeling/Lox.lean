import Lox.Command.Arguments
import Lox.Command.Color
import Lox.Command.Program
import Lox.Command.Prompt
import Lox.Command.Report
import Lox.Diagnostic.Basic
import Lox.Diagnostic.Snippet
import Lox.Main
import Lox.Number.Basic
import Lox.Number.Printer
import Lox.Number.Rounding
import Lox.Number.Shortest
import Lox.Program.Parse
import Lox.Program.Parser.Cursor
import Lox.Program.Parser.Expression
import Lox.Program.Parser.Statement
import Lox.Program.SyntaxError
import Lox.Program.Tree
import Lox.Proofs.Control.Mirror
import Lox.Proofs.Control.Step
import Lox.Proofs.Diagnostic.Pointer
import Lox.Proofs.Diagnostic.Rendering
import Lox.Proofs.Grammar.Keywords
import Lox.Proofs.Grammar.Neighbours
import Lox.Proofs.Grammar.Rules
import Lox.Proofs.Grammar.Shape
import Lox.Proofs.Parser.Accepting
import Lox.Proofs.Parser.Completeness
import Lox.Proofs.Parser.Depth
import Lox.Proofs.Parser.Fragment
import Lox.Proofs.Parser.Reader
import Lox.Proofs.Parser.Reading
import Lox.Proofs.Parser.Relocation
import Lox.Proofs.Parser.Repetition
import Lox.Proofs.Parser.Soundness
import Lox.Proofs.Program.Acceptance
import Lox.Proofs.Program.Assigned
import Lox.Proofs.Program.Containment
import Lox.Proofs.Program.Cursor
import Lox.Proofs.Program.Formation
import Lox.Proofs.Program.Indexing
import Lox.Proofs.Program.LoopBody
import Lox.Proofs.Program.Recovery
import Lox.Proofs.Program.Resumption
import Lox.Proofs.Program.Sequence
import Lox.Proofs.Program.Stranded
import Lox.Proofs.Program.Unfinished
import Lox.Proofs.Run.Account
import Lox.Proofs.Run.Completion
import Lox.Proofs.Run.Delivery
import Lox.Proofs.Run.Echo
import Lox.Proofs.Run.Formation
import Lox.Proofs.Run.Frame
import Lox.Proofs.Run.Fuel
import Lox.Proofs.Run.Padding
import Lox.Proofs.Run.Provenance
import Lox.Proofs.Run.Relocation
import Lox.Proofs.Run.Rounds
import Lox.Proofs.Run.ScopeTree
import Lox.Proofs.Run.Scoping
import Lox.Proofs.Run.Variable
import Lox.Proofs.Session.Account
import Lox.Proofs.Session.Completion
import Lox.Proofs.Session.Delivery
import Lox.Proofs.Session.Echo
import Lox.Proofs.Session.Formation
import Lox.Proofs.Session.Increment
import Lox.Proofs.Session.Joining
import Lox.Proofs.Session.Layout
import Lox.Proofs.Session.OpenComment
import Lox.Proofs.Session.Placement
import Lox.Proofs.Session.Rendering
import Lox.Proofs.Session.Scoping
import Lox.Proofs.Text.Boundary
import Lox.Proofs.Text.Line
import Lox.Proofs.Text.Position
import Lox.Proofs.Token.Extension
import Lox.Proofs.Token.Gap
import Lox.Proofs.Token.Joining
import Lox.Proofs.Token.Nesting
import Lox.Proofs.Token.Partition
import Lox.Proofs.Token.Place
import Lox.Proofs.Token.Rescan
import Lox.Proofs.Token.Spelling
import Lox.Proofs.Token.Stray
import Lox.Proofs.Value.Carries
import Lox.Proofs.Value.Holder
import Lox.Proofs.Value.Rooted
import Lox.Run.Error
import Lox.Run.Evaluate
import Lox.Run.Machine
import Lox.Run.Observer
import Lox.Run.Operator
import Lox.Run.Sink
import Lox.Session
import Lox.Text.Blank
import Lox.Text.CodeRange
import Lox.Text.CodeUnit
import Lox.Text.Cut
import Lox.Text.HiddenTable
import Lox.Text.Identifier
import Lox.Text.IdentifierTable
import Lox.Text.Line
import Lox.Text.Offset
import Lox.Text.Quoted
import Lox.Text.Resemblance
import Lox.Text.Span
import Lox.Text.Utf8
import Lox.Token.Basic
import Lox.Token.Gap
import Lox.Token.Kind
import Lox.Token.Lexeme
import Lox.Token.Scan
import Lox.Value.Basic
import Lox.Value.Store
