import Stencil.Unicode.Casing
import Stencil.Number.Shortest
import Stencil.Number.FixedPoint
import Stencil.Json.Printer
import Stencil.Json.Document
import Stencil.Text.Surrogate
import Stencil.Source.Lexer
import Stencil.Source.Parser
import Stencil.Query.Grammar
import Stencil.Query.Resolve
import Stencil.Function.Basic
import Stencil.Pattern.Match
import Stencil.Pattern.Classes
import Stencil.Pattern.Replace
import Stencil.Function.Standard
import Stencil.Template.Compile
import Stencil.Template.Evaluate
import Stencil.Json.Stream
import Stencil.Main
import Stencil.Proofs.Derivation
import Stencil.Proofs.MissingKeys
import Stencil.Proofs.Json.Grammar
import Stencil.Proofs.Json.Numbers
import Stencil.Proofs.Json.Reading
import Stencil.Proofs.Json.Printing
import Stencil.Proofs.Json.Stream
import Stencil.Proofs.Streaming
import Stencil.Proofs.Truncating
import Stencil.Proofs.Calls
import Stencil.Proofs.Rebinding
import Stencil.Proofs.Tokens
import Stencil.Proofs.Query.Grammar
import Stencil.Proofs.Query.Reading
import Stencil.Proofs.Query.Segments
import Stencil.Proofs.Query.Writing
import Stencil.Proofs.Query.Composing
import Stencil.Proofs.Query.Extent
import Stencil.Proofs.Query.Addressing
import Stencil.Proofs.Query.Failing
import Stencil.Proofs.Query.Places
import Stencil.Proofs.Query.Descent
import Stencil.Proofs.Query.Order
import Stencil.Proofs.Query.Slices
import Stencil.Proofs.Generating
import Stencil.Proofs.Json.Canonical
import Stencil.Proofs.Json.Lines
import Stencil.Proofs.Json.StringLiterals
import Stencil.Proofs.Walking
import Stencil.Proofs.Layout
import Stencil.Proofs.Json.Layouts
import Stencil.Proofs.Placement
import Stencil.Proofs.Offences
import Stencil.Proofs.Standard
import Stencil.Proofs.Blame
import Stencil.Proofs.Viability
import Stencil.Proofs.Json.Conversion
import Stencil.Proofs.Positions
import Stencil.Proofs.Replacing
import Stencil.Proofs.Annotations
import Stencil.Proofs.Numerals
