import NumberRegistry.Api.Add
import NumberRegistry.Api.Document
import NumberRegistry.Api.Error
import NumberRegistry.Api.Exchange
import NumberRegistry.Api.Query
import NumberRegistry.Api.Routes
import NumberRegistry.Api.Run
import NumberRegistry.Client.Basic
import NumberRegistry.Client.Body
import NumberRegistry.Client.Error
import NumberRegistry.Client.Network
import NumberRegistry.CommandLine.ConfigCheck
import NumberRegistry.CommandLine.Fault
import NumberRegistry.CommandLine.Help
import NumberRegistry.CommandLine.Options
import NumberRegistry.CommandLine.Reader
import NumberRegistry.CommandLine.Run
import NumberRegistry.Database.Connect
import NumberRegistry.Database.ConnectOptions
import NumberRegistry.Database.Migration
import NumberRegistry.Database.Pool
import NumberRegistry.Database.Row
import NumberRegistry.Database.Script
import NumberRegistry.Database.Server
import NumberRegistry.Database.Session
import NumberRegistry.Database.Store
import NumberRegistry.EnvFile.Lines
import NumberRegistry.EnvFile.Load
import NumberRegistry.EnvFile.Value
import NumberRegistry.Failure
import NumberRegistry.HealthCheck
import NumberRegistry.Http.Form
import NumberRegistry.Http.Message
import NumberRegistry.Http.Target
import NumberRegistry.Json.Basic
import NumberRegistry.Json.Reader
import NumberRegistry.Log.Basic
import NumberRegistry.Log.Filter
import NumberRegistry.Main
import NumberRegistry.Metrics
import NumberRegistry.Net.Address
import NumberRegistry.Net.AddressReader
import NumberRegistry.Net.SocketAddress
import NumberRegistry.Proofs.Api.Acceptance
import NumberRegistry.Proofs.Api.Addition
import NumberRegistry.Proofs.Api.Balance
import NumberRegistry.Proofs.Api.Bodies
import NumberRegistry.Proofs.Api.Commits
import NumberRegistry.Proofs.Api.Completion
import NumberRegistry.Proofs.Api.Deadline
import NumberRegistry.Proofs.Api.Document
import NumberRegistry.Proofs.Api.Effects
import NumberRegistry.Proofs.Api.Exchange
import NumberRegistry.Proofs.Api.Timeline
import NumberRegistry.Proofs.Client.Agreement
import NumberRegistry.Proofs.Client.Answers
import NumberRegistry.Proofs.Client.Body
import NumberRegistry.Proofs.Client.Endpoints
import NumberRegistry.Proofs.CommandLine.AddressOption
import NumberRegistry.Proofs.CommandLine.ConfigCheck
import NumberRegistry.Proofs.CommandLine.Parameters
import NumberRegistry.Proofs.CommandLine.Startup
import NumberRegistry.Proofs.Database.ConnectOptions
import NumberRegistry.Proofs.Database.FailedInsert
import NumberRegistry.Proofs.Database.Growth
import NumberRegistry.Proofs.Database.Opening
import NumberRegistry.Proofs.Database.Store
import NumberRegistry.Proofs.EnvFile.Load
import NumberRegistry.Proofs.EnvFile.Value
import NumberRegistry.Proofs.Failure
import NumberRegistry.Proofs.HealthCheck
import NumberRegistry.Proofs.Http.Form
import NumberRegistry.Proofs.Http.Target
import NumberRegistry.Proofs.Json.Grammar
import NumberRegistry.Proofs.Json.Literal
import NumberRegistry.Proofs.Json.Reader
import NumberRegistry.Proofs.Metrics.Exposition
import NumberRegistry.Proofs.Net.Address
import NumberRegistry.Proofs.Net.Ipv4
import NumberRegistry.Proofs.Net.Ipv6
import NumberRegistry.Proofs.Net.SocketAddress
import NumberRegistry.Proofs.Serving.Draining
import NumberRegistry.Proofs.Serving.LastRequest
import NumberRegistry.Proofs.Serving.Moves
import NumberRegistry.Proofs.Serving.Notice
import NumberRegistry.Proofs.Serving.Outcome
import NumberRegistry.Proofs.Serving.Ownership
import NumberRegistry.Proofs.Serving.Returning
import NumberRegistry.Proofs.Settings.BindAddress
import NumberRegistry.Proofs.Settings.Load
import NumberRegistry.Proofs.Settings.Redaction
import NumberRegistry.Proofs.Settings.Validation
import NumberRegistry.Proofs.Store.Agreement
import NumberRegistry.Proofs.Store.Clones
import NumberRegistry.Proofs.Store.Memory
import NumberRegistry.Proofs.Store.Sorting
import NumberRegistry.Proofs.Text.Decimal
import NumberRegistry.Proofs.Text.Normal
import NumberRegistry.Proofs.Text.Parts
import NumberRegistry.Proofs.Text.Ranges
import NumberRegistry.Proofs.Text.Utf8
import NumberRegistry.Proofs.Url.AsciiForm
import NumberRegistry.Proofs.Url.Directory
import NumberRegistry.Proofs.Url.Domain
import NumberRegistry.Proofs.Url.DomainMapping
import NumberRegistry.Proofs.Url.Host
import NumberRegistry.Proofs.Url.Ideographs
import NumberRegistry.Proofs.Url.Punycode
import NumberRegistry.Proofs.Url.Reread
import NumberRegistry.Proofs.Url.Segments
import NumberRegistry.Proofs.Url.Stages
import NumberRegistry.Proofs.Url.Userinfo
import NumberRegistry.Proofs.Url.Written
import NumberRegistry.Serving
import NumberRegistry.Settings.Basic
import NumberRegistry.Settings.Load
import NumberRegistry.Settings.Validate
import NumberRegistry.Store.Basic
import NumberRegistry.Store.Clones
import NumberRegistry.Store.Operation
import NumberRegistry.Store.Script
import NumberRegistry.Text.Classes
import NumberRegistry.Text.Decimal
import NumberRegistry.Text.Decomposition
import NumberRegistry.Text.Likeness
import NumberRegistry.Text.Normal
import NumberRegistry.Text.Outline
import NumberRegistry.Text.Percent
import NumberRegistry.Text.Quoted
import NumberRegistry.Text.Ranges
import NumberRegistry.Text.Utf8
import NumberRegistry.Url.Basic
import NumberRegistry.Url.Domain
import NumberRegistry.Url.DomainMapping
import NumberRegistry.Url.DomainScript
import NumberRegistry.Url.Host
import NumberRegistry.Url.Parser
import NumberRegistry.Url.Punycode
import NumberRegistry.Url.Resolve
