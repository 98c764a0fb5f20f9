import Rescan.Attribution
import Rescan.CommandLine.Arguments
import Rescan.CommandLine.Help
import Rescan.CommandLine.Response
import Rescan.Controller
import Rescan.Debounce.Debouncer
import Rescan.Debounce.Drain
import Rescan.Debounce.Queue
import Rescan.Debounce.Report
import Rescan.Delivery.Fault
import Rescan.Delivery.Http
import Rescan.Delivery.Request
import Rescan.Failure
import Rescan.Identity.Cell
import Rescan.Json.Basic
import Rescan.Json.Fault
import Rescan.Json.Reader
import Rescan.Json.Writer
import Rescan.Main
import Rescan.Net.Ipv4
import Rescan.Net.Ipv6
import Rescan.Net.SocketAddress
import Rescan.Probe
import Rescan.Proofs.Debounce.Attributed
import Rescan.Proofs.Debounce.Change
import Rescan.Proofs.Debounce.Concurrency
import Rescan.Proofs.Debounce.Conservation
import Rescan.Proofs.Debounce.Flush
import Rescan.Proofs.Debounce.FlushProgress
import Rescan.Proofs.Debounce.FlushReport
import Rescan.Proofs.Debounce.Flushes
import Rescan.Proofs.Debounce.Handing
import Rescan.Proofs.Debounce.Lifecycle
import Rescan.Proofs.Debounce.LoopRun
import Rescan.Proofs.Debounce.Numbers
import Rescan.Proofs.Debounce.Pending
import Rescan.Proofs.Debounce.Run
import Rescan.Proofs.Debounce.Shutdown
import Rescan.Proofs.Debounce.Sound
import Rescan.Proofs.Debounce.Timed
import Rescan.Proofs.Debounce.Timetable
import Rescan.Proofs.Debounce.Timing
import Rescan.Proofs.Delivery.Origin
import Rescan.Proofs.Delivery.Posting
import Rescan.Proofs.Delivery.Requests
import Rescan.Proofs.Identity.Inquiry
import Rescan.Proofs.Json.Texts
import Rescan.Proofs.Monitoring.Outcome
import Rescan.Proofs.Monitoring.Registration
import Rescan.Proofs.Monitoring.Reports
import Rescan.Proofs.Monitoring.Startup
import Rescan.Proofs.Monitoring.Windows
import Rescan.Proofs.Net.Addresses
import Rescan.Proofs.Resource.Keys
import Rescan.Proofs.Settings.Check
import Rescan.Proofs.Settings.Environment
import Rescan.Proofs.Settings.Shown
import Rescan.Proofs.Settings.Variables
import Rescan.Proofs.Steps
import Rescan.Proofs.Supervision.Decision
import Rescan.Proofs.Supervision.Ends
import Rescan.Proofs.Supervision.Events
import Rescan.Proofs.Supervision.Grace
import Rescan.Proofs.Supervision.Teardown
import Rescan.Proofs.Telemetry.Outcomes
import Rescan.Proofs.Telemetry.Readings
import Rescan.Proofs.Text.Digits
import Rescan.Proofs.Text.Utf8
import Rescan.Proofs.Toml.Documents
import Rescan.Proofs.Toml.Texts
import Rescan.Proofs.Toml.Values
import Rescan.Proofs.Topology.Cluster
import Rescan.Proofs.Topology.Coverage
import Rescan.Proofs.Topology.Directory
import Rescan.Proofs.Topology.Endpoints
import Rescan.Proofs.Topology.Following
import Rescan.Proofs.Topology.Isolation
import Rescan.Proofs.Topology.Lookup
import Rescan.Proofs.Topology.Provenance
import Rescan.Proofs.Topology.Relist
import Rescan.Proofs.Url.Hosts
import Rescan.Proofs.Url.Paths
import Rescan.Resource.Change
import Rescan.Resource.Key
import Rescan.Resource.Kind
import Rescan.Resource.ObjectType
import Rescan.Roster
import Rescan.Settings.Basic
import Rescan.Settings.Check
import Rescan.Settings.Environment
import Rescan.Settings.File
import Rescan.Settings.Print
import Rescan.Settings.Tree
import Rescan.Simulation.Basic
import Rescan.Simulation.Operator
import Rescan.Simulation.Session
import Rescan.Simulation.Watcher
import Rescan.Supervisor.Basic
import Rescan.Supervisor.Trial
import Rescan.Telemetry.Exposition
import Rescan.Telemetry.Meter
import Rescan.Text.Basic
import Rescan.Text.Double
import Rescan.Text.Utf8
import Rescan.Timestamp
import Rescan.Toml.Basic
import Rescan.Toml.Reader
import Rescan.Toml.Scalar
import Rescan.Toml.Text
import Rescan.Toml.Writer
import Rescan.Topology.Registry
import Rescan.Topology.Service
import Rescan.Topology.Sync
import Rescan.Topology.Target
import Rescan.Unicode.ClassTable
import Rescan.Unicode.Classes
import Rescan.Unicode.Composition
import Rescan.Unicode.CompositionTable
import Rescan.Unicode.Mapping
import Rescan.Unicode.MappingTable
import Rescan.Unicode.Runs
import Rescan.Url.Basic
import Rescan.Url.Domain
import Rescan.Url.Host
import Rescan.Url.Percent
import Rescan.Url.Punycode
import Rescan.Url.Reader
import Rescan.Url.Segments
