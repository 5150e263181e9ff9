import HostAgent.Agent
import HostAgent.Central.Call
import HostAgent.Central.Client
import HostAgent.Central.Error
import HostAgent.Central.Exchange
import HostAgent.Central.IgnoreCache
import HostAgent.Central.Session
import HostAgent.Central.State
import HostAgent.Container
import HostAgent.CreateRequest
import HostAgent.Decimal.Binary64
import HostAgent.Decimal.Floating
import HostAgent.Decimal.Integer
import HostAgent.Decimal.Power
import HostAgent.Decimal.Shortest
import HostAgent.Engine.Api
import HostAgent.Engine.Call
import HostAgent.Engine.CreateBody
import HostAgent.Engine.Endpoint
import HostAgent.Engine.Error
import HostAgent.Engine.Image
import HostAgent.Engine.Inspection
import HostAgent.Engine.LineStream
import HostAgent.Engine.Ports
import HostAgent.Engine.State
import HostAgent.EventLog
import HostAgent.Failure
import HostAgent.Health.Endpoint
import HostAgent.Health.Registry
import HostAgent.Host
import HostAgent.IgnoreEntry
import HostAgent.Json.Decode
import HostAgent.Json.Encode
import HostAgent.Json.Numeral
import HostAgent.Json.Tree
import HostAgent.Json.Value
import HostAgent.KeyMap
import HostAgent.Main
import HostAgent.Metrics
import HostAgent.Net.Base64
import HostAgent.Net.Domain
import HostAgent.Net.Form
import HostAgent.Net.Http
import HostAgent.Net.IpAddress
import HostAgent.Net.Percent
import HostAgent.Net.Punycode
import HostAgent.Net.Url
import HostAgent.Proofs.Agent.Loops
import HostAgent.Proofs.Agent.Questions
import HostAgent.Proofs.Agent.Runs
import HostAgent.Proofs.Agent.Schedules
import HostAgent.Proofs.Agent.Startup
import HostAgent.Proofs.Central.Addressing
import HostAgent.Proofs.Central.Basing
import HostAgent.Proofs.Central.Closing
import HostAgent.Proofs.Central.Contract
import HostAgent.Proofs.Central.Line
import HostAgent.Proofs.Central.Origin
import HostAgent.Proofs.Central.Remembering
import HostAgent.Proofs.Central.Rivals
import HostAgent.Proofs.Central.Sending
import HostAgent.Proofs.Central.Steps
import HostAgent.Proofs.Central.Traffic
import HostAgent.Proofs.Engine.Environments
import HostAgent.Proofs.Engine.Mappings
import HostAgent.Proofs.Engine.Publishing
import HostAgent.Proofs.Engine.References
import HostAgent.Proofs.Engine.Reordering
import HostAgent.Proofs.Health.History
import HostAgent.Proofs.Json.Differing
import HostAgent.Proofs.Json.Keeping
import HostAgent.Proofs.Json.Lexemes
import HostAgent.Proofs.Json.Stability
import HostAgent.Proofs.Json.Writing
import HostAgent.Proofs.Net.Encoding
import HostAgent.Proofs.Net.Hosts
import HostAgent.Proofs.Net.Joining
import HostAgent.Proofs.Net.Plain
import HostAgent.Proofs.Net.Sites
import HostAgent.Proofs.Net.Spelling
import HostAgent.Proofs.Net.Walking
import HostAgent.Proofs.Reconcile.Calm
import HostAgent.Proofs.Reconcile.Convergence
import HostAgent.Proofs.Reconcile.Counting
import HostAgent.Proofs.Reconcile.Events
import HostAgent.Proofs.Reconcile.Fleet
import HostAgent.Proofs.Reconcile.Listening
import HostAgent.Proofs.Reconcile.Overwriting
import HostAgent.Proofs.Reconcile.Passes
import HostAgent.Proofs.Reconcile.Purging
import HostAgent.Proofs.Reconcile.Records
import HostAgent.Proofs.Settings.Verbatim
import HostAgent.Proofs.Tasks.Accounts
import HostAgent.Proofs.Tasks.Delivery
import HostAgent.Proofs.Tasks.Deploying
import HostAgent.Proofs.Tasks.Executing
import HostAgent.Proofs.Tasks.Ledger
import HostAgent.Proofs.Tasks.Polling
import HostAgent.Proofs.Tasks.Reading
import HostAgent.Proofs.Tasks.Settling
import HostAgent.Proofs.Tasks.Tending
import HostAgent.Proofs.Tasks.Unnamed
import HostAgent.Proofs.Text.Bytes
import HostAgent.Proofs.Time.Written
import HostAgent.Proofs.Wire
import HostAgent.Proofs.Work.History
import HostAgent.Proofs.Work.Interleaving
import HostAgent.Reconcile.Action
import HostAgent.Reconcile.Loop
import HostAgent.Reconcile.Sync
import HostAgent.Series
import HostAgent.Settings.Basic
import HostAgent.Settings.Ini
import HostAgent.Settings.Source
import HostAgent.Settings.Toml.Document
import HostAgent.Settings.Toml.Scalar
import HostAgent.Settings.Toml.Text
import HostAgent.Settings.Value
import HostAgent.Settings.Yaml.Document
import HostAgent.Settings.Yaml.Flow
import HostAgent.Settings.Yaml.Scalar
import HostAgent.Spec
import HostAgent.Task
import HostAgent.Tasks.Execute
import HostAgent.Tasks.Loop
import HostAgent.Tasks.Poll
import HostAgent.Text.Blank
import HostAgent.Text.Hex
import HostAgent.Text.Printable
import HostAgent.Text.Quoted
import HostAgent.Time.Duration
import HostAgent.Time.Reading
import HostAgent.Time.Timestamp
import HostAgent.Work.Action
import HostAgent.Work.Program
import HostAgent.Work.Ticker
import HostAgent.World.Rehearsal
import HostAgent.World.Schedule
import HostAgent.World.Script
import HostAgent.World.ScriptedHost
import HostAgent.World.Simulation
