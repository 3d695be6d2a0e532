import Declarator.Text.Basic
import Declarator.Text.Blank
import Declarator.Text.Extender
import Declarator.Text.Utf8
import Declarator.Text.Line
import Declarator.Text.Pieces
import Declarator.Text.Plain
import Declarator.Text.Printable
import Declarator.Text.Quoted
import Declarator.Text.Similarity
import Declarator.Decimal.Binary64
import Declarator.Decimal.Shortest
import Declarator.Outline
import Declarator.Parsing.Rule
import Declarator.Parsing.Outcome
import Declarator.Parsing.Combinator
import Declarator.Parsing.Tree
import Declarator.Json.Basic
import Declarator.Json.Problem
import Declarator.Json.Reader
import Declarator.Json.String
import Declarator.Json.Grammar
import Declarator.Json.Number
import Declarator.Json.Shape
import Declarator.Json.Skip
import Declarator.Json.Unexpected
import Declarator.Json.Typed
import Declarator.Json.WellFormed
import Declarator.Log.Level
import Declarator.Log.Record
import Declarator.Signature.Basic
import Declarator.Signature.Canonical
import Declarator.Signature.Error
import Declarator.Signature.Grammar
import Declarator.Signature.Json
import Declarator.Signature.Outline
import Declarator.Signature.Parser
import Declarator.Signature.Spelling
import Declarator.Signature.Trace
import Declarator.Log.Session
import Declarator.Cli.Batch
import Declarator.Cli.Options
import Declarator.Cli.Grammar
import Declarator.Cli.Suggestion
import Declarator.Cli.Usage
import Declarator.Cli.Run
import Declarator.Main
import Declarator.Proofs.Text.Cut
import Declarator.Proofs.Text.Pieces
import Declarator.Proofs.Text.Quoted
import Declarator.Proofs.Text.Trimming
import Declarator.Proofs.Text.Words
import Declarator.Proofs.Parsing.Tree
import Declarator.Proofs.Parsing.Verdict
import Declarator.Proofs.Parsing.Commitment
import Declarator.Proofs.Parsing.Decided
import Declarator.Proofs.Parsing.Evaluation
import Declarator.Proofs.Parsing.Position
import Declarator.Proofs.Parsing.Pruning
import Declarator.Proofs.Json.Reading
import Declarator.Proofs.Json.Spelling
import Declarator.Proofs.Json.Denotation
import Declarator.Proofs.Json.Number
import Declarator.Proofs.Json.Persistence
import Declarator.Proofs.Json.Skipping
import Declarator.Proofs.Json.FirstProblem
import Declarator.Proofs.Json.Shape
import Declarator.Proofs.Outline
import Declarator.Proofs.Outline.Layouts
import Declarator.Proofs.Signature.Argument
import Declarator.Proofs.Signature.Verdict
import Declarator.Proofs.Signature.Layout
import Declarator.Proofs.Signature.ArgumentList
import Declarator.Proofs.Signature.Grammar
import Declarator.Proofs.Signature.RoundTrip
import Declarator.Proofs.Signature.Canonical
import Declarator.Proofs.Signature.Outline
import Declarator.Proofs.Signature.Refusal
import Declarator.Proofs.Signature.Excerpt
import Declarator.Proofs.Signature.FirstProblem
import Declarator.Proofs.Signature.FirstWord
import Declarator.Proofs.Signature.HeaderWords
import Declarator.Proofs.Signature.Image
import Declarator.Proofs.Signature.Members
import Declarator.Proofs.Signature.Spelling
import Declarator.Proofs.Signature.Json
import Declarator.Proofs.Log.Threshold
import Declarator.Proofs.Log.Session
import Declarator.Proofs.Log.Raising
import Declarator.Proofs.Cli.Arguments
import Declarator.Proofs.Cli.Batch
import Declarator.Proofs.Cli.Input
import Declarator.Proofs.Cli.Run
import Declarator.Proofs.Cli.Verbosity
import Declarator.Proofs.Cli.Lines
import Declarator.Proofs.Cli.Output
import Declarator.Proofs.Cli.Unreadable
