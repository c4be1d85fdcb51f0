import Snarkypuss.Calls.Session
import Snarkypuss.Collections.Dict
import Snarkypuss.Exceptions
import Snarkypuss.Targets.Dependencies
import Snarkypuss.Targets.Models
import Snarkypuss.Providers.Base
import Snarkypuss.Status
import Snarkypuss.Control.Protocol
import Snarkypuss.Targets.Repository
import Snarkypuss.Control.Daemon
import Snarkypuss.Control.Connection
import Snarkypuss.Control.Footprint
import Snarkypuss.Control.Protection
import Snarkypuss.Control.Modes
import Snarkypuss.Calls.Interleaving
import Snarkypuss.Calls.Paths
import Snarkypuss.Calls.Processes
import Snarkypuss.Control.Concurrency
import Snarkypuss.Control.TargetAlias
import Snarkypuss.Control.Observation
import Snarkypuss.Control.PublicTargets
import Snarkypuss.Python.Text
import Snarkypuss.Providers.NordVpn
import Snarkypuss.Providers.Fields
import Snarkypuss.Control.Attribution
import Snarkypuss.Control.Degradation
import Snarkypuss.Json.Value
import Snarkypuss.Providers.Selectors
import Snarkypuss.Control.Arguments
import Snarkypuss.Control.Exposure
import Snarkypuss.Json.Scanner
import Snarkypuss.Json.Writer
import Snarkypuss.Json.RoundTrip
import Snarkypuss.Python.Json
import Snarkypuss.Targets.SelectorJson
import Snarkypuss.Targets.Sqlite
import Snarkypuss.Targets.SqliteTransactions
import Snarkypuss.Netfilter.Tables
import Snarkypuss.Activation.Host
import Snarkypuss.Activation.Scripts
import Snarkypuss.Activation.Firewall
import Snarkypuss.Activation.Restoration
import Snarkypuss.Activation.System
import Snarkypuss.Activation.Phases
import Snarkypuss.Activation.Outline
import Snarkypuss.Activation.Recovery
import Snarkypuss.Activation.Executions
import Snarkypuss.Activation.Persistence
import Snarkypuss.Activation.Interference
import Snarkypuss.Python.Conversions
import Snarkypuss.Python.Addresses
import Snarkypuss.Python.Configparser
import Snarkypuss.Web.Application
import Snarkypuss.Web.Guard
import Snarkypuss.Web.Verdict
import Snarkypuss.Web.Preflight
import Snarkypuss.Web.Statuses
import Snarkypuss.Dashboard.Metadata
import Snarkypuss.Dashboard.Editor
import Snarkypuss.Dashboard.Session
import Snarkypuss.Dashboard.Dependents
import Snarkypuss.Dashboard.Tracking
import Snarkypuss.Dashboard.Lineage
import Snarkypuss.Dashboard.Server
import Snarkypuss.Dashboard.Cleanup
import Snarkypuss.Dashboard.Runs
import Snarkypuss.Python.Base64
import Snarkypuss.Python.Paths
import Snarkypuss.Gateway.Setup
import Snarkypuss.Gateway.Readers
import Snarkypuss.Files.Tree
import Snarkypuss.Gateway.Host
import Snarkypuss.Calls.Histories
import Snarkypuss.Gateway.Configure
import Snarkypuss.Python.Regex
import Snarkypuss.Gateway.ProviderSettings
import Snarkypuss.Gateway.ProviderPolicy
import Snarkypuss.Providers.Discovery
import Snarkypuss.Control.FailureCodes
import Snarkypuss.Targets.SqliteFailures
import Snarkypuss.Control.Replacement
import Snarkypuss.Migration.Confinement
import Snarkypuss.Files.Placement
import Snarkypuss.Migration.Restore
import Snarkypuss.Migration.Writing
import Snarkypuss.Migration.Atomicity
import Snarkypuss.Targets.Creation
import Snarkypuss.Targets.SchemaValidation
import Snarkypuss.Dashboard.Clearing
import Snarkypuss.Dashboard.Aliases
import Snarkypuss.Dashboard.Freshness
import Snarkypuss.Python.Utf8
import Snarkypuss.Web.QueryString
import Snarkypuss.Web.DiscoveryContext
import Snarkypuss.Calls.Faults
import Snarkypuss.Dns.Cleanup
import Snarkypuss.Dns.Restoration
import Snarkypuss.Dns.Preservation
import Snarkypuss.Control.Frames
import Snarkypuss.Control.Payloads
import Snarkypuss.Control.Handling
import Snarkypuss.Cli.Commands
import Snarkypuss.Cli.Outcomes
import Snarkypuss.Cli.Reports
import Snarkypuss.Cli.ExitStatus
import Snarkypuss.Collections.Versions
import Snarkypuss.Targets.SqliteRows
import Snarkypuss.Targets.SqliteSystem
import Snarkypuss.Calls.Moments
import Snarkypuss.Targets.SqliteHistory
import Snarkypuss.Targets.SqliteRuns
import Snarkypuss.Control.Snapshot
import Snarkypuss.Control.SavedTargets
import Snarkypuss.Calls.Streams
import Snarkypuss.Calls.Schedules
import Snarkypuss.Control.Channel
import Snarkypuss.Control.Parties
import Snarkypuss.Control.Exchanges
import Snarkypuss.Control.ExchangeRuns
import Snarkypuss.Gateway.Effects
