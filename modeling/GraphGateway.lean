import GraphGateway.Bytes.Base64
import GraphGateway.Bytes.Sha256
import GraphGateway.Bytes.Utf
import GraphGateway.Console.Arguments
import GraphGateway.Console.Disk
import GraphGateway.Console.Layout
import GraphGateway.Console.Literal
import GraphGateway.Console.Markup
import GraphGateway.Console.Session
import GraphGateway.Console.Style
import GraphGateway.Console.Table
import GraphGateway.Cypher.Clause
import GraphGateway.Cypher.Expression
import GraphGateway.Cypher.Quoted
import GraphGateway.Cypher.Supply
import GraphGateway.Decimal.Binary
import GraphGateway.Decimal.Parsed
import GraphGateway.Decimal.Shortest
import GraphGateway.Decimal.Spelled
import GraphGateway.Entries
import GraphGateway.Graphql.Coercion
import GraphGateway.Graphql.Document
import GraphGateway.Graphql.Introspection
import GraphGateway.Graphql.Legality
import GraphGateway.Graphql.LiteralFit
import GraphGateway.Graphql.LiteralValue
import GraphGateway.Graphql.Merging
import GraphGateway.Graphql.Reader
import GraphGateway.Graphql.Site
import GraphGateway.Graphql.Token
import GraphGateway.Graphql.TypeExpr
import GraphGateway.Graphql.TypeSystem
import GraphGateway.Graphql.Validity
import GraphGateway.Json.Printer
import GraphGateway.Json.Reader
import GraphGateway.Main
import GraphGateway.Paging.Cursor
import GraphGateway.Paging.PageInfo
import GraphGateway.Request.Argument
import GraphGateway.Request.Described
import GraphGateway.Request.Fault
import GraphGateway.Request.Reading
import GraphGateway.Request.Selection
import GraphGateway.Schema.Agreement
import GraphGateway.Schema.Augmented
import GraphGateway.Schema.Constraints
import GraphGateway.Schema.Declared
import GraphGateway.Schema.Described
import GraphGateway.Schema.Model
import GraphGateway.Schema.Naming
import GraphGateway.Schema.Problem
import GraphGateway.Schema.TypeReference
import GraphGateway.Service.Recorder
import GraphGateway.Service.Response
import GraphGateway.Service.Served
import GraphGateway.Settings.Connection
import GraphGateway.Settings.Environment
import GraphGateway.Settings.Features
import GraphGateway.Settings.Flaw
import GraphGateway.Statement.Answer
import GraphGateway.Statement.Compiled
import GraphGateway.Statement.Emission
import GraphGateway.Statement.Filter
import GraphGateway.Statement.Matches
import GraphGateway.Statement.Projection
import GraphGateway.Statement.ReadPlan
import GraphGateway.Statement.WritePlan
import GraphGateway.Store.Connecting
import GraphGateway.Store.Fault
import GraphGateway.Store.Script
import GraphGateway.Store.Server
import GraphGateway.Store.Session
import GraphGateway.Text.Alphanumeric
import GraphGateway.Text.CellRanges
import GraphGateway.Text.CellWidth
import GraphGateway.Text.Character
import GraphGateway.Text.LetterCase
import GraphGateway.Text.Picture
import GraphGateway.Text.PictureName
import GraphGateway.Text.Printable
import GraphGateway.Text.Surrogate
import GraphGateway.Value
import GraphGateway.Value.Order
import GraphGateway.Value.Shown
import GraphGateway.Proofs.Store.Sessions
import GraphGateway.Proofs.Store.Trial
import GraphGateway.Proofs.Entries
import GraphGateway.Proofs.Statement.Tally
import GraphGateway.Proofs.Outcome
import GraphGateway.Proofs.Service.AllOrNothing
import GraphGateway.Proofs.Statement.ReadOutline
import GraphGateway.Proofs.Statement.PlanOutline
import GraphGateway.Proofs.Cypher.Supply
import GraphGateway.Proofs.Statement.Wording
import GraphGateway.Proofs.Cypher.Written
import GraphGateway.Proofs.Schema.Sound
import GraphGateway.Proofs.Value.Order
import GraphGateway.Proofs.Statement.Asked
import GraphGateway.Proofs.Statement.Refusal
import GraphGateway.Proofs.Statement.Effect
import GraphGateway.Proofs.Statement.Required
import GraphGateway.Proofs.Bytes.Decoding
import GraphGateway.Proofs.Json.Quoted
import GraphGateway.Proofs.Json.Flat
import GraphGateway.Proofs.Paging.Cursor
import GraphGateway.Proofs.Cypher.Scene
import GraphGateway.Proofs.Paging.Pages
import GraphGateway.Proofs.Statement.Connection
import GraphGateway.Proofs.Statement.Walk
import GraphGateway.Proofs.Cypher.Scope
import GraphGateway.Proofs.Statement.Scoping
import GraphGateway.Proofs.Statement.PlanScoping
import GraphGateway.Proofs.Schema.Pairing
import GraphGateway.Proofs.Paging.Spelling
import GraphGateway.Proofs.Cypher.Sequenced
import GraphGateway.Proofs.Statement.Sequence
import GraphGateway.Proofs.Cypher.Keys
import GraphGateway.Proofs.Request.Collecting
import GraphGateway.Proofs.Request.Keyed
import GraphGateway.Proofs.Statement.Keys
import GraphGateway.Proofs.Schema.Closed
import GraphGateway.Proofs.Graphql.Checked
import GraphGateway.Proofs.Request.Grown
import GraphGateway.Proofs.Statement.Accepted
import GraphGateway.Proofs.Service.Answers
import GraphGateway.Proofs.Cypher.Counted
import GraphGateway.Proofs.Cypher.Memory
import GraphGateway.Proofs.Service.Pipeline
import GraphGateway.Proofs.Statement.Apart
import GraphGateway.Proofs.Statement.RowCounts
import GraphGateway.Proofs.Statement.Addresses
import GraphGateway.Proofs.Statement.Reports
import GraphGateway.Proofs.Graphql.Names
import GraphGateway.Proofs.Service.Reported
import GraphGateway.Proofs.Store.Standing
import GraphGateway.Proofs.Store.Books
import GraphGateway.Proofs.Schema.Collected
import GraphGateway.Proofs.Schema.Rearranged
import GraphGateway.Proofs.Schema.Reordered
import GraphGateway.Proofs.Service.Checks
import GraphGateway.Proofs.Statement.Shuffled
import GraphGateway.Proofs.Request.WrittenOut
import GraphGateway.Proofs.Service.Numbered
import GraphGateway.Proofs.Cypher.Unquoted
import GraphGateway.Proofs.Schema.Accounted
import GraphGateway.Proofs.Service.PageChecks
import GraphGateway.Proofs.Service.UpdatesOnly
import GraphGateway.Proofs.Statement.KnownKeys
import GraphGateway.Proofs.Schema.BareNames
import GraphGateway.Proofs.Store.Initialization
import GraphGateway.Proofs.Store.Retries
import GraphGateway.Proofs.Settings.Assigned
import GraphGateway.Proofs.Schema.TypeReference
import GraphGateway.Proofs.Schema.Listed
import GraphGateway.Proofs.Schema.Differing
import GraphGateway.Proofs.Settings.Overridden
import GraphGateway.Proofs.Statement.Bound
import GraphGateway.Proofs.Statement.Supplied
import GraphGateway.Proofs.Statement.Untold
import GraphGateway.Proofs.Service.Responses
