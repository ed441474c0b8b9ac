import Pushdown.Binding.Extraction
import Pushdown.Binding.Target
import Pushdown.Cleanup.Connective
import Pushdown.Cleanup.EmptyGroup
import Pushdown.Cleanup.Segment
import Pushdown.Codec.Form
import Pushdown.Codec.Percent
import Pushdown.Codec.Utf8
import Pushdown.Command.Basic
import Pushdown.Command.Help
import Pushdown.Command.Run
import Pushdown.Command.Signature
import Pushdown.Config.Auth
import Pushdown.Config.Basic
import Pushdown.Config.Document
import Pushdown.Config.Whitelist
import Pushdown.Json.Basic
import Pushdown.Json.Parser
import Pushdown.Json.Printer
import Pushdown.Main
import Pushdown.Number.Double
import Pushdown.Number.Shortest
import Pushdown.Plan
import Pushdown.Proofs.Binding.Condition
import Pushdown.Proofs.Binding.Extraction
import Pushdown.Proofs.Binding.Frame
import Pushdown.Proofs.Binding.Outline
import Pushdown.Proofs.Binding.Reach
import Pushdown.Proofs.Binding.Residual
import Pushdown.Proofs.Binding.Truth
import Pushdown.Proofs.Cleanup.Balance
import Pushdown.Proofs.Cleanup.Connective
import Pushdown.Proofs.Cleanup.Group
import Pushdown.Proofs.Cleanup.Quotation
import Pushdown.Proofs.Cleanup.Rounds
import Pushdown.Proofs.Cleanup.Segment
import Pushdown.Proofs.Cleanup.Stability
import Pushdown.Proofs.Cleanup.Tidy
import Pushdown.Proofs.Cleanup.Trimming
import Pushdown.Proofs.Codec.Escape
import Pushdown.Proofs.Codec.Form
import Pushdown.Proofs.Codec.Lossy
import Pushdown.Proofs.Codec.Order
import Pushdown.Proofs.Config.Trust
import Pushdown.Proofs.Config.Whitelist
import Pushdown.Proofs.Json.Ending
import Pushdown.Proofs.Json.Nesting
import Pushdown.Proofs.Json.Number
import Pushdown.Proofs.Json.RoundTrip
import Pushdown.Proofs.Outcome
import Pushdown.Proofs.Plan.Carriage
import Pushdown.Proofs.Plan.Coverage
import Pushdown.Proofs.Plan.Exchange
import Pushdown.Proofs.Plan.Faithful
import Pushdown.Proofs.Plan.Gluing
import Pushdown.Proofs.Plan.Incremental
import Pushdown.Proofs.Plan.Moves
import Pushdown.Proofs.Plan.Redirect
import Pushdown.Proofs.Plan.Stability
import Pushdown.Proofs.Plan.Threading
import Pushdown.Proofs.Sql.Equality
import Pushdown.Proofs.Sql.Tables
import Pushdown.Proofs.Table.Absolute
import Pushdown.Proofs.Table.Append
import Pushdown.Proofs.Table.Body
import Pushdown.Proofs.Table.Decoded
import Pushdown.Proofs.Table.Grouping
import Pushdown.Proofs.Table.Growth
import Pushdown.Proofs.Table.Header
import Pushdown.Proofs.Table.Interleaving
import Pushdown.Proofs.Table.Normal
import Pushdown.Proofs.Table.Params
import Pushdown.Proofs.Table.Query
import Pushdown.Proofs.Table.Request
import Pushdown.Proofs.Table.RoundTrip
import Pushdown.Proofs.Table.Single
import Pushdown.Proofs.Text.Dictionary
import Pushdown.Proofs.Text.Gap
import Pushdown.Proofs.Text.Splitting
import Pushdown.Proofs.Url.Absolute
import Pushdown.Proofs.Url.Front
import Pushdown.Proofs.Url.Growth
import Pushdown.Proofs.Url.Host
import Pushdown.Proofs.Url.Path
import Pushdown.Sql.Dialect
import Pushdown.Sql.Keyword
import Pushdown.Sql.Parser.Alias
import Pushdown.Sql.Parser.Basic
import Pushdown.Sql.Parser.Block
import Pushdown.Sql.Parser.Call
import Pushdown.Sql.Parser.Change
import Pushdown.Sql.Parser.Definition
import Pushdown.Sql.Parser.Definition.Alter
import Pushdown.Sql.Parser.Definition.Column
import Pushdown.Sql.Parser.Definition.Constraint
import Pushdown.Sql.Parser.Definition.Drop
import Pushdown.Sql.Parser.Definition.Index
import Pushdown.Sql.Parser.Definition.Operator
import Pushdown.Sql.Parser.Definition.Role
import Pushdown.Sql.Parser.Definition.Routine
import Pushdown.Sql.Parser.Definition.Schema
import Pushdown.Sql.Parser.Definition.Storage
import Pushdown.Sql.Parser.Definition.Table
import Pushdown.Sql.Parser.Definition.UserType
import Pushdown.Sql.Parser.Definition.View
import Pushdown.Sql.Parser.Expression
import Pushdown.Sql.Parser.Form
import Pushdown.Sql.Parser.Interval
import Pushdown.Sql.Parser.Name
import Pushdown.Sql.Parser.Option
import Pushdown.Sql.Parser.Query
import Pushdown.Sql.Parser.Query.Body
import Pushdown.Sql.Parser.Query.Pipe
import Pushdown.Sql.Parser.Query.Tail
import Pushdown.Sql.Parser.Select
import Pushdown.Sql.Parser.Session
import Pushdown.Sql.Parser.Session.Copy
import Pushdown.Sql.Parser.Session.Cursor
import Pushdown.Sql.Parser.Session.Maintenance
import Pushdown.Sql.Parser.Session.Message
import Pushdown.Sql.Parser.Session.Right
import Pushdown.Sql.Parser.Session.Setting
import Pushdown.Sql.Parser.Session.Show
import Pushdown.Sql.Parser.Session.Transaction
import Pushdown.Sql.Parser.Statement
import Pushdown.Sql.Parser.Table
import Pushdown.Sql.Parser.Table.Document
import Pushdown.Sql.Parser.Table.Pivot
import Pushdown.Sql.Parser.Table.Recognition
import Pushdown.Sql.Parser.Table.Sample
import Pushdown.Sql.Parser.Type
import Pushdown.Sql.Parser.Window
import Pushdown.Sql.Quoted
import Pushdown.Sql.Script
import Pushdown.Sql.Syntax
import Pushdown.Sql.Tables
import Pushdown.Sql.Token
import Pushdown.Table.Append
import Pushdown.Table.Basic
import Pushdown.Table.Header
import Pushdown.Table.Params
import Pushdown.Table.Request
import Pushdown.Text.Basic
import Pushdown.Text.Blank
import Pushdown.Text.Dictionary
import Pushdown.Text.Direction
import Pushdown.Text.Letter
import Pushdown.Text.Listing
import Pushdown.Text.Mark
import Pushdown.Text.Normal
import Pushdown.Text.Numeral
import Pushdown.Url.Address
import Pushdown.Url.Basic
import Pushdown.Url.Domain
import Pushdown.Url.Domain.Fold
import Pushdown.Url.Path
import Pushdown.Url.Punycode
import Pushdown.Yaml.Cursor
import Pushdown.Yaml.Node
import Pushdown.Yaml.Scalar
import Pushdown.Yaml.Token
