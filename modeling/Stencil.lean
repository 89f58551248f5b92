import Stencil.Unicode.Ranges
import Stencil.Unicode.Alphanumeric
import Stencil.Unicode.Digit
import Stencil.Unicode.NameStart
import Stencil.Unicode.NameContinue
import Stencil.Unicode.Printable
import Stencil.Unicode.LetterCase
import Stencil.Text.Basic
import Stencil.Text.Class
import Stencil.Text.Lines
import Stencil.Text.Quoted
import Stencil.Place
import Stencil.Token
import Stencil.Delimiters
import Stencil.Error
import Stencil.Segment
import Stencil.Keyword
import Stencil.Script.Name
import Stencil.Script.Source
import Stencil.Loop
import Stencil.Node.Basic
import Stencil.Node.Outline
import Stencil.Block.Basic
import Stencil.Block.Assemble
import Stencil.Number.Binary
import Stencil.Number.Shortest
import Stencil.Number.Layout
import Stencil.Data
import Stencil.Options.Basic
import Stencil.Options.OfData
import Stencil.Options.Validate
import Stencil.Table
import Stencil.Scope
import Stencil.Script.Fault
import Stencil.Script.Value
import Stencil.Script.Store
import Stencil.Script.Display
import Stencil.Render.Evaluator
import Stencil.Render.Basic
import Stencil.Script.Host
import Stencil.Template
import Stencil.Session
import Stencil.Script.Expr
import Stencil.Script.Lexeme
import Stencil.Script.Grammar
import Stencil.Script.Binding
import Stencil.Script.Arithmetic
import Stencil.Script.Operation
import Stencil.Script.Sorting
import Stencil.Script.TextMethod
import Stencil.Script.Visit
import Stencil.Script.Call
import Stencil.Script.Body
import Stencil.Script.Run
import Stencil.Script.Language
import Stencil.Yaml.Document
import Stencil.Files
import Stencil.Script.Load
import Stencil.CommandLine.Help
import Stencil.CommandLine.Run
import Stencil.Main
import Stencil.Script.Format
import Stencil.Number.Rounded
import Stencil.Script.Eval
import Stencil.Proofs.Sequence
import Stencil.Proofs.Keyword
import Stencil.Proofs.Block.Depth
import Stencil.Proofs.Block.Move
import Stencil.Proofs.Block.Levels
import Stencil.Proofs.Block.Collect
import Stencil.Proofs.Block.Grammar
import Stencil.Proofs.Block.Build
import Stencil.Proofs.Block.Induction
import Stencil.Proofs.Node
import Stencil.Proofs.Block.Contents
import Stencil.Proofs.Block.Append
import Stencil.Proofs.Block.Soundness
import Stencil.Proofs.Block.Completeness
import Stencil.Proofs.Block.Nesting
import Stencil.Proofs.Segment.Cutting
import Stencil.Proofs.Segment.Cut
import Stencil.Proofs.Segment.Tokens
import Stencil.Proofs.Segment.Places
import Stencil.Proofs.Segment.Fault
import Stencil.Proofs.Loop
import Stencil.Proofs.Print.Basic
import Stencil.Proofs.Print.Cutting
import Stencil.Proofs.Print.RoundTrip
import Stencil.Proofs.Table
import Stencil.Proofs.Scope
import Stencil.Proofs.Scope.Change
import Stencil.Proofs.Scope.Consistent
import Stencil.Proofs.Render.MapEvaluator
import Stencil.Proofs.Render.Flat
import Stencil.Proofs.Render.Layers
import Stencil.Proofs.Render.Refinement
import Stencil.Proofs.Render.Rounds
import Stencil.Proofs.Render.Equivalence
import Stencil.Proofs.Render.Trace
import Stencil.Proofs.Session
import Stencil.Proofs.Script.Agree
import Stencil.Proofs.Script.Lexeme
import Stencil.Proofs.Script.Reading
import Stencil.Proofs.Script.Dedent
import Stencil.Proofs.Script.Normalize
import Stencil.Proofs.Text.Lines
import Stencil.Proofs.Script.Levels
import Stencil.Proofs.Script.Result
import Stencil.Proofs.Script.Variables
import Stencil.Proofs.Script.Inline
import Stencil.Proofs.Embedding
import Stencil.Proofs.Render.Append
import Stencil.Proofs.Render.Recording
import Stencil.Proofs.Render.Reached
import Stencil.Proofs.Script.Names
import Stencil.Proofs.LoopNames
import Stencil.Proofs.Block.Respell
import Stencil.Proofs.Segment.Priority
import Stencil.Proofs.Options.Unambiguous
import Stencil.Proofs.Block.Fault
import Stencil.Proofs.Culprit
import Stencil.Proofs.Scope.OneLayer
import Stencil.Proofs.Script.Effects
import Stencil.Proofs.Script.Layers
import Stencil.Proofs.Script.Mapping
import Stencil.Proofs.Script.Stack
import Stencil.Proofs.Script.Update
import Stencil.Proofs.Script.Touch
import Stencil.Proofs.Substitution
import Stencil.Proofs.Options.OfData
import Stencil.Proofs.CommandLine
import Stencil.Proofs.Scope.Image
import Stencil.Proofs.Script.Rename
import Stencil.Proofs.Script.Mirror
import Stencil.Proofs.Script.Follow
import Stencil.Proofs.Script.Follow.Format
import Stencil.Proofs.Script.Follow.Operation
import Stencil.Proofs.Script.Follow.Sequence
import Stencil.Proofs.Script.Follow.Call
import Stencil.Proofs.Script.Follow.Method
import Stencil.Proofs.Script.Mentioned
import Stencil.Proofs.Script.Follow.Run
import Stencil.Proofs.Script.Pure
import Stencil.Proofs.LoopSpacing
import Stencil.Proofs.Options.RoundTrip
import Stencil.Proofs.Script.Drain
import Stencil.Proofs.Block.FailFast
import Stencil.Proofs.Place
import Stencil.Proofs.Segment.Order
import Stencil.Proofs.TrimLines
import Stencil.Proofs.Script.Reindent
import Stencil.Proofs.Render.Equivalent
import Stencil.Proofs.Render.TwoWay
import Stencil.Proofs.Block.Exchange
import Stencil.Proofs.Block.ElseIf
import Stencil.Proofs.Segment.Scan
import Stencil.Proofs.Block.Consumed
import Stencil.Proofs.Script.Quoted
import Stencil.Proofs.Outline.Lines
import Stencil.Proofs.Outline.Reading
