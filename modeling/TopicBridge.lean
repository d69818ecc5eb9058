import TopicBridge.Bridge.Exchange
import TopicBridge.Bridge.Fault
import TopicBridge.Bridge.Message
import TopicBridge.Bridge.Publish
import TopicBridge.Bridge.Render
import TopicBridge.Bridge.Route
import TopicBridge.Bridge.RouteTable
import TopicBridge.Bridge.Twin
import TopicBridge.Broker.Options
import TopicBridge.Broker.Session
import TopicBridge.Cli.Command
import TopicBridge.Cli.Parse
import TopicBridge.Cli.Run
import TopicBridge.Host.Files
import TopicBridge.Http.JsonValue
import TopicBridge.Http.Listing
import TopicBridge.Http.RateLimit
import TopicBridge.Http.Request
import TopicBridge.Http.Router
import TopicBridge.Http.Server
import TopicBridge.Http.Size
import TopicBridge.Ident.Ulid
import TopicBridge.Ingest.Lanes
import TopicBridge.Ingest.Record
import TopicBridge.Ingest.Worker
import TopicBridge.Journal.Query
import TopicBridge.Journal.Statements
import TopicBridge.Log.Entry
import TopicBridge.Log.Level
import TopicBridge.Main
import TopicBridge.Net.Addr
import TopicBridge.Net.Client
import TopicBridge.Net.Header
import TopicBridge.Net.Url
import TopicBridge.Num.Double
import TopicBridge.Num.Literal
import TopicBridge.Num.Shortest
import TopicBridge.Num.Word
import TopicBridge.Proofs.BreakerRuns
import TopicBridge.Proofs.Classification
import TopicBridge.Proofs.DeliveryAttempts
import TopicBridge.Proofs.DispatchRuns
import TopicBridge.Proofs.FailureStatus
import TopicBridge.Proofs.FailureStreak
import TopicBridge.Proofs.IngestRuns
import TopicBridge.Proofs.LaneHistory
import TopicBridge.Proofs.MigrationScripts
import TopicBridge.Proofs.MillisecondSettings
import TopicBridge.Proofs.PartitionLanes
import TopicBridge.Proofs.RelayRuns
import TopicBridge.Proofs.RelaySchedule
import TopicBridge.Proofs.Publishing
import TopicBridge.Proofs.RoundRobin
import TopicBridge.Proofs.RouteRegistration
import TopicBridge.Proofs.SubscriptionRegistry
import TopicBridge.Proofs.TwinNames
import TopicBridge.Relay.Breaker
import TopicBridge.Relay.Channel
import TopicBridge.Relay.Dispatch
import TopicBridge.Relay.Retry
import TopicBridge.Relay.Worker
import TopicBridge.Settings.Basic
import TopicBridge.Settings.Decode
import TopicBridge.Settings.Load
import TopicBridge.Settings.Store
import TopicBridge.Text.Base64
import TopicBridge.Text.Blank
import TopicBridge.Text.Case
import TopicBridge.Text.Columns
import TopicBridge.Text.Octets
import TopicBridge.Text.Quoted
import TopicBridge.Text.Utf8
import TopicBridge.Time.Duration
import TopicBridge.Time.Instant
import TopicBridge.Time.Stamp
import TopicBridge.Tls.Certificate
import TopicBridge.Tls.Curve
import TopicBridge.Tls.Der
import TopicBridge.Tls.Ed25519
import TopicBridge.Tls.Layout
import TopicBridge.Tls.Pem
import TopicBridge.Tls.PrivateKey
import TopicBridge.Tls.Sha512
import TopicBridge.Yaml.Event
import TopicBridge.Yaml.Load
import TopicBridge.Yaml.Node
import TopicBridge.Yaml.Resolve
import TopicBridge.Yaml.Scanner
import TopicBridge.Yaml.Timestamp
import TopicBridge.Yaml.Token
import TopicBridge.Yaml.Value
import TopicBridge.Proofs.SinkPosts
import TopicBridge.Proofs.RateLimiting
import TopicBridge.Proofs.RecordHeaders
import TopicBridge.Proofs.ListingQuery
import TopicBridge.Proofs.ClientSetup
