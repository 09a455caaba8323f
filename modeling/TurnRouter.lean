import TurnRouter.Binary64.Basic
import TurnRouter.Binary64.Decimal
import TurnRouter.Bot.Config
import TurnRouter.Bot.Decide
import TurnRouter.Bot.Describe
import TurnRouter.Bot.Envelope
import TurnRouter.Bot.Script
import TurnRouter.CommandLine.Arguments
import TurnRouter.CommandLine.Files
import TurnRouter.CommandLine.Load
import TurnRouter.CommandLine.Output
import TurnRouter.CommandLine.Run
import TurnRouter.Condition.Error
import TurnRouter.Condition.Expr
import TurnRouter.Condition.Lexer
import TurnRouter.Condition.Parser
import TurnRouter.Condition.Scalar
import TurnRouter.Condition.StringLiteral
import TurnRouter.Condition.Token
import TurnRouter.Dispatch
import TurnRouter.Fields
import TurnRouter.Json.Basic
import TurnRouter.Json.Number
import TurnRouter.Json.Reader
import TurnRouter.Json.Writer
import TurnRouter.Main
import TurnRouter.Numeral
import TurnRouter.Proofs.CommandLine.Arguments
import TurnRouter.Proofs.CommandLine.Endings
import TurnRouter.Proofs.CommandLine.Merging
import TurnRouter.Proofs.CommandLine.Reports
import TurnRouter.Proofs.CommandLine.Slots
import TurnRouter.Proofs.Condition.Answer
import TurnRouter.Proofs.Condition.Binary
import TurnRouter.Proofs.Condition.CodePoints
import TurnRouter.Proofs.Condition.Comparing
import TurnRouter.Proofs.Condition.Composition
import TurnRouter.Proofs.Condition.Counters
import TurnRouter.Proofs.Condition.Derivation
import TurnRouter.Proofs.Condition.Encoding
import TurnRouter.Proofs.Condition.Escapes
import TurnRouter.Proofs.Condition.Extension
import TurnRouter.Proofs.Condition.Grammar
import TurnRouter.Proofs.Condition.Height
import TurnRouter.Proofs.Condition.Locality
import TurnRouter.Proofs.Condition.Negation
import TurnRouter.Proofs.Condition.Neighbours
import TurnRouter.Proofs.Condition.Numbers
import TurnRouter.Proofs.Condition.Ordering
import TurnRouter.Proofs.Condition.Positions
import TurnRouter.Proofs.Condition.Respacing
import TurnRouter.Proofs.Condition.Room
import TurnRouter.Proofs.Condition.Scan
import TurnRouter.Proofs.Condition.Stages
import TurnRouter.Proofs.Condition.StringReading
import TurnRouter.Proofs.Condition.Template
import TurnRouter.Proofs.Condition.Walk
import TurnRouter.Proofs.Json.Objects
import TurnRouter.Proofs.Json.Plain
import TurnRouter.Proofs.Numeral
import TurnRouter.Proofs.Outcome
import TurnRouter.Proofs.Request.Preparing
import TurnRouter.Proofs.Request.Understanding
import TurnRouter.Proofs.Routing.Calls
import TurnRouter.Proofs.Routing.Conversation
import TurnRouter.Proofs.Routing.Course
import TurnRouter.Proofs.Routing.Lockstep
import TurnRouter.Proofs.Routing.Plan
import TurnRouter.Proofs.Routing.Replies
import TurnRouter.Proofs.Routing.Requests
import TurnRouter.Proofs.Routing.Search
import TurnRouter.Proofs.Routing.Writes
import TurnRouter.Proofs.Rule.Bytes
import TurnRouter.Proofs.Rule.Canonical
import TurnRouter.Proofs.Rule.Comparison
import TurnRouter.Proofs.Rule.Composite
import TurnRouter.Proofs.Rule.Coverage
import TurnRouter.Proofs.Rule.Injection
import TurnRouter.Proofs.Rule.LiteralEnds
import TurnRouter.Proofs.Rule.Passes
import TurnRouter.Proofs.Rule.Pieces
import TurnRouter.Proofs.Rule.Quoting
import TurnRouter.Proofs.Rule.RequestTypes
import TurnRouter.Proofs.Rule.Spans
import TurnRouter.Proofs.Rule.Truthiness
import TurnRouter.Proofs.Rule.Unterminated
import TurnRouter.Proofs.Session.Addressing
import TurnRouter.Proofs.Session.Paths
import TurnRouter.Proofs.Session.Places
import TurnRouter.Proofs.Session.Removal
import TurnRouter.Request
import TurnRouter.Rule.Check
import TurnRouter.Rule.Placeholder
import TurnRouter.Rule.Resolve
import TurnRouter.Rule.Segment
import TurnRouter.Session.Basic
import TurnRouter.Session.Path
import TurnRouter.Text.Alphabetic
import TurnRouter.Text.Basic
import TurnRouter.Text.Blank
import TurnRouter.Text.CodeUnit
import TurnRouter.Text.Name
import TurnRouter.Text.Numeric
import TurnRouter.Text.Quoted
import TurnRouter.Text.Reading
import TurnRouter.Text.Split
import TurnRouter.Text.Unprintable
import TurnRouter.Turn
