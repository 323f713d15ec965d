import LiveSheet.Text.Alphabetic
import LiveSheet.Text.Blank
import LiveSheet.Text.Control
import LiveSheet.Text.Quoted
import LiveSheet.Text.Casing
import LiveSheet.Text.Bytes
import LiveSheet.Text.Hex
import LiveSheet.Text.Percent
import LiveSheet.Text.Marks
import LiveSheet.Text.Composition
import LiveSheet.Text.Punycode
import LiveSheet.Number.Digits
import LiveSheet.Number.Power
import LiveSheet.Number.Integer
import LiveSheet.Number.Scientific
import LiveSheet.Number.Decimal
import LiveSheet.Number.Binary64
import LiveSheet.Number.Shortest
import LiveSheet.Number.Positional
import LiveSheet.Formula.Token
import LiveSheet.Formula.Scanner
import LiveSheet.Formula.Tokenize
import LiveSheet.Formula.Literal
import LiveSheet.Formula.Expr
import LiveSheet.Formula.Lexeme
import LiveSheet.Formula.Parser
import LiveSheet.Table
import LiveSheet.Formula.Error
import LiveSheet.Formula.Arithmetic
import LiveSheet.Formula.Aggregate
import LiveSheet.Formula.Evaluation
import LiveSheet.Formula.Evaluate
import LiveSheet.Formula.Value
import LiveSheet.Wire.Text
import LiveSheet.Wire.Numeral
import LiveSheet.Wire.Skip
import LiveSheet.Wire.Shape
import LiveSheet.Wire.Record
import LiveSheet.Store.Error
import LiveSheet.Store.Listener
import LiveSheet.Store.State
import LiveSheet.Store.Call
import LiveSheet.Store.World
import LiveSheet.External.Fetch
import LiveSheet.External.Domain
import LiveSheet.External.Host
import LiveSheet.External.Locator
import LiveSheet.External.Remote
import LiveSheet.Sheet.Resolution
import LiveSheet.Sheet.Solver
import LiveSheet.Sheet.Resolve
import LiveSheet.Sheet.Dependents
import LiveSheet.Sheet.Commit
import LiveSheet.Sheet.Upsert
import LiveSheet.Sheet.Engine
import LiveSheet.Sheet.Feed
import LiveSheet.Console.Fault
import LiveSheet.Console.Command
import LiveSheet.Console.Run
import LiveSheet.Http.MediaType
import LiveSheet.Http.Message
import LiveSheet.Http.Route
import LiveSheet.Http.Failure
import LiveSheet.Http.Server
import LiveSheet.Http.Line
import LiveSheet.Main
import LiveSheet.Proofs.Text.Casing
import LiveSheet.Proofs.Text.Blank
import LiveSheet.Proofs.Text.Alphabetic
import LiveSheet.Proofs.Table
import LiveSheet.Proofs.Formula.Scanning
import LiveSheet.Proofs.Formula.Names
import LiveSheet.Proofs.Formula.Requests
import LiveSheet.Proofs.Formula.Parsing
import LiveSheet.Proofs.Formula.Coverage
import LiveSheet.Proofs.Formula.Asking
import LiveSheet.Proofs.Store.Edges
import LiveSheet.Proofs.Store.Quiet
import LiveSheet.Proofs.Store.Walk
import LiveSheet.Proofs.Store.DepthFirst
import LiveSheet.Proofs.Store.Channels
import LiveSheet.Proofs.Store.Delivery
import LiveSheet.Proofs.Sheet.Page
import LiveSheet.Proofs.Sheet.Tracking
import LiveSheet.Proofs.Sheet.Derivation
import LiveSheet.Proofs.Sheet.Depth
import LiveSheet.Proofs.Sheet.Agreement
import LiveSheet.Proofs.Sheet.Sharing
import LiveSheet.Proofs.Sheet.Answers
import LiveSheet.Proofs.Sheet.Validation
import LiveSheet.Proofs.Sheet.WholeSheet
import LiveSheet.Proofs.Sheet.Denotation
import LiveSheet.Proofs.Sheet.ReferenceChains
import LiveSheet.Proofs.Sheet.Sessions
import LiveSheet.Proofs.Sheet.Notification
import LiveSheet.Proofs.Sheet.Consideration
import LiveSheet.Proofs.Sheet.Listening
import LiveSheet.Proofs.Sheet.Writing
import LiveSheet.Proofs.Sheet.Runs
import LiveSheet.Proofs.Sheet.Committed
import LiveSheet.Proofs.Sheet.Acyclic
import LiveSheet.Proofs.Sheet.Footprint
import LiveSheet.Proofs.Sheet.Rejection
import LiveSheet.Proofs.Store.Effects
import LiveSheet.Proofs.Sheet.Recursion
import LiveSheet.Proofs.Sheet.Effects
import LiveSheet.Proofs.Sheet.Events
import LiveSheet.Proofs.Sheet.Usage
import LiveSheet.Proofs.Sheet.LiveFeed
import LiveSheet.Proofs.Sheet.Outcome
import LiveSheet.Proofs.Sheet.ReadBack
import LiveSheet.Proofs.Sheet.Interruption
import LiveSheet.Proofs.Sheet.Isolation
import LiveSheet.Proofs.Sheet.Attempts
import LiveSheet.Proofs.Sheet.Failures
import LiveSheet.Proofs.Formula.Identifier
import LiveSheet.Proofs.Formula.Grammar
import LiveSheet.Proofs.Formula.Delimiting
import LiveSheet.Proofs.Formula.Spelling
import LiveSheet.Proofs.Formula.Rendering
import LiveSheet.Proofs.Formula.Building
import LiveSheet.Proofs.Formula.Acceptance
import LiveSheet.Proofs.Formula.Height
import LiveSheet.Proofs.Formula.Tokens
import LiveSheet.Proofs.Formula.Canonical
import LiveSheet.Proofs.Formula.Lossless
import LiveSheet.Proofs.Formula.Numeral
import LiveSheet.Proofs.Formula.Stable
import LiveSheet.Proofs.Number.Comparison
import LiveSheet.Proofs.Formula.Magnitude
import LiveSheet.Proofs.Number.Underflow
import LiveSheet.Proofs.Number.Width
import LiveSheet.Proofs.Formula.Readable
import LiveSheet.Proofs.Formula.Exchange
import LiveSheet.Proofs.Formula.Breaking
import LiveSheet.Proofs.Formula.Operands
import LiveSheet.Proofs.Sheet.Mention
import LiveSheet.Proofs.Text.Percent
import LiveSheet.Proofs.Wire.Text
import LiveSheet.Proofs.Wire.Shape
import LiveSheet.Proofs.Http.Addressing
import LiveSheet.Proofs.Http.Statuses
import LiveSheet.Proofs.Http.Fetching
import LiveSheet.Proofs.Sheet.Folding
import LiveSheet.Proofs.Sheet.Listed
import LiveSheet.Proofs.Http.Serving
import LiveSheet.Proofs.Http.Listing
import LiveSheet.Proofs.Sheet.Cycles
import LiveSheet.Proofs.Sheet.History
import LiveSheet.Proofs.Sheet.Calls
import LiveSheet.Proofs.Sheet.Bookkeeping
import LiveSheet.Proofs.Sheet.Readings
import LiveSheet.Proofs.Sheet.Economy
import LiveSheet.Proofs.Sheet.DependentCycles
import LiveSheet.Proofs.Sheet.Overrides
import LiveSheet.Proofs.Sheet.ValidationOrder
import LiveSheet.Proofs.Sheet.Repetition
import LiveSheet.Proofs.Store.Unheard
import LiveSheet.Proofs.Sheet.Parallel
import LiveSheet.Proofs.Sheet.Cancellation
import LiveSheet.Proofs.Formula.Failing
import LiveSheet.Proofs.Formula.TextOperands
import LiveSheet.Proofs.Formula.Extrema
import LiveSheet.Proofs.Formula.Exactness
import LiveSheet.Proofs.Formula.LeftToRight
import LiveSheet.Proofs.Formula.Integers
import LiveSheet.Proofs.Formula.IntegerTrees
