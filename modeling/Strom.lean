import Strom.Aggregate.Protocol
import Strom.Effects.Program
import Strom.Go.Errors
import Strom.Go.Strings
import Strom.Go.Ascii
import Strom.Effects.Action
import Strom.Routes.Nodes
import Strom.Routes.Shapes
import Strom.Routes.Reached
import Strom.Updates.Version
import Strom.Updates.Disk
import Strom.Updates.Store
import Strom.Effects.Run
import Strom.Effects.Refinement
import Strom.Effects.Pool
import Strom.Effects.Trace
import Strom.Effects.Provided
import Strom.Effects.Triples
import Strom.Effects.Threads
import Strom.Effects.Exclusive
import Strom.Effects.Answers
import Strom.Aggregate.Session
import Strom.Aggregate.Manager
import Strom.Aggregate.Calls
import Strom.Aggregate.Listeners
import Strom.Aggregate.Cancellation
import Strom.Aggregate.Settings
import Strom.Aggregate.Reapply
import Strom.Aggregate.SettingsRuns
import Strom.Nutconf.Names
import Strom.Nutconf.Grammar
import Strom.Nutconf.Scans
import Strom.Nutconf.Render
import Strom.Nutconf.Scanner
import Strom.Nutconf.Sections
import Strom.Nutconf.Rescans
import Strom.Nutconf.SavedNames
import Strom.Nutconf.Readback
import Strom.Nutconf.Users
import Strom.Registry.Nodes
import Strom.Adoption.Messages
import Strom.Adoption.Adopter
import Strom.Adoption.Trusted
import Strom.Agent.Files
import Strom.Agent.Apply
import Strom.Agent.Adopt
import Strom.Agent.Reloads
import Strom.Agent.FirstAdopter
import Strom.Agent.Credentials
import Strom.Agent.Advertiser
import Strom.Agent.Phases
import Strom.Agent.Restarts
import Strom.Agent.Replays
import Strom.Agent.Crashes
import Strom.Agent.FactoryReset
import Strom.Agent.WritableVars
import Strom.Agent.Users
import Strom.Go.Quoting
import Strom.Nutpoll.ListVar
import Strom.Go.Paths
import Strom.Go.Urls
import Strom.FileSystem.Os
import Strom.FileSystem.Faults
import Strom.Updates.Node
import Strom.Updates.Instants
import Strom.Updates.Crash
import Strom.Updates.StoreRefinement
import Strom.Updates.Breakdowns
import Strom.Updates.StoreBreakdowns
import Strom.Updates.Intact
import Strom.Updates.ConcurrentStage
import Strom.Updates.Manifest
import Strom.Updates.Archive
import Strom.Updates.ArchiveSpec
import Strom.Updates.Upgrades
import Strom.Updates.GitHub
import Strom.Updates.Checker
import Strom.Updates.CheckerSpec
import Strom.Updates.VerifiedInstall
import Strom.Updates.Targets
import Strom.Updates.InstallOutcome
import Strom.Updates.Offers
import Strom.Go.Time
import Strom.Registry.Alerts
import Strom.Registry.AlertRules
import Strom.Alerts.Engine
import Strom.Alerts.Debounce
import Strom.Go.Json
import Strom.Naming.Slugs
import Strom.Naming.Keys
import Strom.Hotplug.Watcher
import Strom.Hotplug.Served
import Strom.Mqtt.Messages
import Strom.Mqtt.Publisher
import Strom.Mqtt.Cache
import Strom.Mqtt.Emissions
import Strom.Mqtt.Repeats
import Strom.Registry.Samples
import Strom.Registry.Inventory
import Strom.Registry.EventTables
import Strom.Registry.Migration
import Strom.Nutpoll.Poller
import Strom.Nutpoll.Failures
import Strom.Aggregate.Backend
import Strom.Aggregate.Aliases
import Strom.Alerts.Sightings
import Strom.Alerts.Offline
import Strom.Mqtt.Identifiers
import Strom.WebAuth.Manager
import Strom.WebAuth.Settings
import Strom.WebAuth.Calls
import Strom.WebAuth.Concurrent
import Strom.WebAuth.Sections
import Strom.WebAuth.Resets
import Strom.WebAuth.ResetRuns
import Strom.WebAuth.SshAccess
import Strom.WebAuth.SshSteps
import Strom.WebAuth.SshRuns
import Strom.WebAuth.Chpasswd
import Strom.Collections.Groups
import Strom.Registry.History
import Strom.Handlers.BatteryTrend
import Strom.Handlers.NodeStatus
import Strom.Handlers.NodeMetadata
import Strom.Go.JsonStrings
import Strom.Updates.StableTags
import Strom.Agent.CpuUsage
import Strom.Agent.Controls
import Strom.Mqtt.Commands
import Strom.Go.Floats
import Strom.Agent.NumericRange
import Strom.Handlers.BatteryRuntime
import Strom.Registry.Latest
import Strom.Mqtt.Batch
import Strom.Handlers.MqttSnapshots
import Strom.Registry.LatestRuns
import Strom.Python.Text
import Strom.Tools.Versioning
import Strom.Toml.Strings
import Strom.Toml.Documents
import Strom.Tools.Train
import Strom.Go.JsonTrees
import Strom.Agent.UpsMetadata
import Strom.Agent.MetadataRuns
import Strom.Api.Requests
import Strom.Api.Handlers
import Strom.Effects.Gates
import Strom.Api.Access
import Strom.Api.Permitted
import Strom.Api.Routes
import Strom.Api.HealthProbe
import Strom.Effects.Relabel
import Strom.Effects.Settled
import Strom.Handshake.Model
import Strom.Handshake.Stages
import Strom.Handshake.Agreement
import Strom.Agent.Undisturbed
import Strom.Handshake.Delivered
import Strom.Api.Encodings
import Strom.Api.Roles
import Strom.Api.ControllerUpdates
import Strom.Ota.Push
import Strom.Ota.PushOutcome
