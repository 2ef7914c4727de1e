import Metering.Amount
import Metering.Backend
import Metering.Category
import Metering.Directory
import Metering.Document
import Metering.Document.Json
import Metering.Document.Printer
import Metering.Document.Record
import Metering.Document.Toml
import Metering.Document.Toml.Lexeme
import Metering.Document.Toml.Table
import Metering.Error
import Metering.Exposition
import Metering.Exposition.Address
import Metering.Exposition.Request
import Metering.Exposition.Server
import Metering.Exposition.Text
import Metering.Family
import Metering.Http.Head
import Metering.Hub
import Metering.Influx.Writer
import Metering.Influx.Http
import Metering.Influx.LineProtocol
import Metering.Influx.Reply
import Metering.Instrument
import Metering.Label
import Metering.Label.Policy
import Metering.Label.TypeName
import Metering.Main
import Metering.Meter
import Metering.Monitor
import Metering.Number.Shortest
import Metering.Options
import Metering.Options.File
import Metering.Options.Reading
import Metering.Options.Validation
import Metering.Options.Writing
import Metering.Probe.Datagram
import Metering.Probe.Deployment
import Metering.Probe.Endpoint
import Metering.Probe.EventBus
import Metering.Probe.HttpClient
import Metering.Probe.HttpServer
import Metering.Probe.Pool
import Metering.Text.Utf8
import Metering.Text.Basic
import Metering.Text.Composition
import Metering.Text.Direction
import Metering.Text.Joining
import Metering.Text.Ranges
import Metering.Text.Quoted
import Metering.Url
import Metering.Url.Domain
import Metering.Url.Domain.Mapping
import Metering.Url.Percent
import Metering.Url.Host
import Metering.Url.Punycode
import Metering.Url.Reading
import Metering.Proofs.Document.Arrangement
import Metering.Proofs.Document.Json
import Metering.Proofs.Exposition.Collision
import Metering.Proofs.Exposition.Coverage
import Metering.Proofs.Exposition.Exactness
import Metering.Proofs.Exposition.Grouping
import Metering.Proofs.Hub.Access
import Metering.Proofs.Hub.Alike
import Metering.Proofs.Hub.Identity
import Metering.Proofs.Hub.Listing
import Metering.Proofs.Hub.Order
import Metering.Proofs.Hub.Reading
import Metering.Proofs.Hub.Sound
import Metering.Proofs.Hub.State
import Metering.Proofs.Hub.Stock
import Metering.Proofs.Hub.Summary
import Metering.Proofs.Influx.Body
import Metering.Proofs.Influx.Grammar
import Metering.Proofs.Influx.LastPush
import Metering.Proofs.Influx.Loop
import Metering.Proofs.Influx.Parameters
import Metering.Proofs.Influx.Publication
import Metering.Proofs.Influx.Statement
import Metering.Proofs.Influx.Target
import Metering.Proofs.Influx.Writer
import Metering.Proofs.Label
import Metering.Proofs.Monitor.Chronicle
import Metering.Proofs.Monitor.Closing
import Metering.Proofs.Monitor.Delivery
import Metering.Proofs.Monitor.Directory
import Metering.Proofs.Monitor.Ownership
import Metering.Proofs.Monitor.Scrape
import Metering.Proofs.Monitor.World
import Metering.Proofs.Number.Count
import Metering.Proofs.Number.Text
import Metering.Proofs.Options.Arrangement
import Metering.Proofs.Probe.Account
import Metering.Proofs.Probe.Datagram
import Metering.Proofs.Probe.Duration
import Metering.Proofs.Probe.Endpoint
import Metering.Proofs.Probe.Event
import Metering.Proofs.Probe.EventBus
import Metering.Proofs.Probe.HttpClient
import Metering.Proofs.Probe.HttpServer
import Metering.Proofs.Probe.Layout
import Metering.Proofs.Probe.Peers
import Metering.Proofs.Probe.Pool
import Metering.Proofs.Probe.Ratio
import Metering.Proofs.Probe.Report
import Metering.Proofs.Probe.Schedule
import Metering.Proofs.Probe.Template
import Metering.Proofs.Probe.Token
import Metering.Proofs.Text.Utf8
import Metering.Proofs.Timer
import Metering.Proofs.TypeName.Expression
import Metering.Proofs.TypeName.Local
import Metering.Proofs.TypeName.Path
import Metering.Proofs.TypeName.Scanning
import Metering.Proofs.Url.Authority
import Metering.Proofs.Url.Form
import Metering.Proofs.Url.OtherSchemes
import Metering.Proofs.Url.Parts
import Metering.Proofs.Url.Path
import Metering.Proofs.Url.Refusal
import Metering.Proofs.Url.Service
import Metering.Proofs.Text.Edge
import Metering.Proofs.Influx.Excerpt
import Metering.Proofs.Probe.Separation
import Metering.Proofs.TypeName.Safety
import Metering.Proofs.Exposition.Naming
