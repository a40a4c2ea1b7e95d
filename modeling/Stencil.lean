import Stencil.Text.Blank
import Stencil.Text.Alphanumeric
import Stencil.Text.Category
import Stencil.Text.Script
import Stencil.Text.CaseFolding
import Stencil.Text.LetterCase
import Stencil.Text.Entity
import Stencil.Text.Percent
import Stencil.Text.Literal
import Stencil.Number.Integer
import Stencil.Number.Layout
import Stencil.Number.Reader
import Stencil.Value.Arithmetic
import Stencil.Value.Lookup
import Stencil.Value.Method
import Stencil.Value.Conversion
import Stencil.Expr.Scanner
import Stencil.Expr.Token
import Stencil.Expr.Parser
import Stencil.Value.Exchange
import Stencil.Template
import Stencil.Environment
import Stencil.Scope
import Stencil.Rendering
import Stencil.Proofs.Isolation
import Stencil.Proofs.CallLimit
import Stencil.Proofs.Autoescape
import Stencil.Proofs.Grammar.Complete
import Stencil.Proofs.Literal.RoundTrip
import Stencil.Proofs.Dependence
import Stencil.Proofs.Reachable
import Stencil.Proofs.Failure.Rendering
import Stencil.Proofs.Scanning.Lossless
import Stencil.Proofs.Signature
import Stencil.Proofs.AttributeName
import Stencil.Proofs.DeclaredNames
import Stencil.Proofs.Handover
import Stencil.Proofs.Pipeline
import Stencil.Proofs.ExplicitEscape
import Stencil.Proofs.IntegerOrder
import Stencil.Proofs.Length
import Stencil.Proofs.NumericKey
import Stencil.Proofs.Literal.Integer
import Stencil.Proofs.IntegerText
import Stencil.Proofs.Literal.Escapes
import Stencil.Proofs.Grammar.KeyWords
import Stencil.Proofs.LoopRuns
import Stencil.Proofs.Defaults
import Stencil.Proofs.Scanning.OperatorWords
import Stencil.Proofs.Lookup
import Stencil.Proofs.Exchange
import Stencil.Proofs.Query
import Stencil.Proofs.Entities
import Stencil.Proofs.Occurrences
import Stencil.Proofs.Ranges
import Stencil.Proofs.DistinctNames
import Stencil.Proofs.Equality
import Stencil.Proofs.Positions
import Stencil.Proofs.Depth
import Stencil.Proofs.MapEntries
import Stencil.Proofs.Scanning.States
import Stencil.Proofs.RegexSource
import Stencil.Proofs.Joining
import Stencil.Proofs.Faults
import Stencil.Proofs.OperatorRuns
import Stencil.Proofs.Arguments
