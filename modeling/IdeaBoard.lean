import IdeaBoard.Bootstrap
import IdeaBoard.Client.Endpoint
import IdeaBoard.Client.Failure
import IdeaBoard.Client.Response
import IdeaBoard.Client.Settings
import IdeaBoard.Client.Status
import IdeaBoard.Command
import IdeaBoard.CommandLine
import IdeaBoard.Config
import IdeaBoard.Config.Number
import IdeaBoard.Config.Reader
import IdeaBoard.Config.Store
import IdeaBoard.Config.Token
import IdeaBoard.Config.Tree
import IdeaBoard.Config.Writer
import IdeaBoard.Engine
import IdeaBoard.Files
import IdeaBoard.Filter
import IdeaBoard.Filter.QueryString
import IdeaBoard.Form
import IdeaBoard.History
import IdeaBoard.Json.Decimal
import IdeaBoard.Json.Double
import IdeaBoard.Json.Inspect
import IdeaBoard.Json.Number
import IdeaBoard.Json.Record
import IdeaBoard.Json.Token
import IdeaBoard.Json.Tree
import IdeaBoard.Json.Value
import IdeaBoard.Location
import IdeaBoard.Log
import IdeaBoard.Main
import IdeaBoard.Post
import IdeaBoard.Program
import IdeaBoard.Proofs.Blank
import IdeaBoard.Proofs.Casing
import IdeaBoard.Proofs.Split
import IdeaBoard.Proofs.Utf8
import IdeaBoard.Route.Pattern
import IdeaBoard.Route.Router
import IdeaBoard.Route.Table
import IdeaBoard.Screen
import IdeaBoard.Search.Inspect
import IdeaBoard.Search.Message
import IdeaBoard.Search.Request
import IdeaBoard.Search.State
import IdeaBoard.Search.Update
import IdeaBoard.Search.View
import IdeaBoard.Session
import IdeaBoard.TagSet
import IdeaBoard.Text.Blank
import IdeaBoard.Text.Casing
import IdeaBoard.Text.Casing.Table
import IdeaBoard.Text.DecimalDigit
import IdeaBoard.Text.Identifier
import IdeaBoard.Text.Normalization
import IdeaBoard.Text.Normalization.Table
import IdeaBoard.Text.Numeral
import IdeaBoard.Text.Printable
import IdeaBoard.Text.Quoted
import IdeaBoard.Text.Ranges
import IdeaBoard.Text.Runs
import IdeaBoard.Text.Split
import IdeaBoard.Text.Utf8
import IdeaBoard.Url
import IdeaBoard.Url.Address
import IdeaBoard.Url.Domain
import IdeaBoard.Url.Domain.MappingTable
import IdeaBoard.Url.Domain.PropertyTable
import IdeaBoard.Url.Domain.Punycode
import IdeaBoard.Url.Host
import IdeaBoard.Url.Join
import IdeaBoard.Url.Parser
import IdeaBoard.Url.Percent
import IdeaBoard.World
import IdeaBoard.Proofs.Form
import IdeaBoard.Proofs.QueryString
import IdeaBoard.Proofs.Location
import IdeaBoard.Proofs.Search.Run
import IdeaBoard.Proofs.Search.Tokens
import IdeaBoard.Proofs.Search.Reload
import IdeaBoard.Proofs.Engine
import IdeaBoard.Proofs.Freshness
import IdeaBoard.Proofs.Search.Burst
import IdeaBoard.Proofs.Route.Pattern
import IdeaBoard.Proofs.Route.Router
import IdeaBoard.Proofs.Outstanding
import IdeaBoard.Proofs.Awaited
import IdeaBoard.Proofs.Wakeup
import IdeaBoard.Proofs.Search.Influence
import IdeaBoard.Proofs.Tags
import IdeaBoard.Proofs.Rounds
import IdeaBoard.Proofs.History
import IdeaBoard.Proofs.Search.Drawn
import IdeaBoard.Proofs.Screen
import IdeaBoard.Proofs.Client.Request
import IdeaBoard.Proofs.Client.Response
import IdeaBoard.Proofs.Search.Coherence
import IdeaBoard.Proofs.Worker
import IdeaBoard.Proofs.Search.Confluence
import IdeaBoard.Proofs.Search.Growth
import IdeaBoard.Proofs.Config.Read
import IdeaBoard.Proofs.Config.Store
import IdeaBoard.Proofs.Precedence
import IdeaBoard.Proofs.Route.Table
import IdeaBoard.Proofs.Url.Path
import IdeaBoard.Proofs.Url.Parser
import IdeaBoard.Proofs.Client.Endpoint
import IdeaBoard.Proofs.Command
import IdeaBoard.Proofs.Limit
import IdeaBoard.Proofs.NormalText
import IdeaBoard.Proofs.Json.Scan
import IdeaBoard.Proofs.Json.Grammar
import IdeaBoard.Proofs.Json.Record
import IdeaBoard.Proofs.Json.Value
import IdeaBoard.Proofs.Bootstrap
