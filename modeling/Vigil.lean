import Vigil.Check.Dispatch
import Vigil.Check.Journal
import Vigil.Check.Program
import Vigil.CommandLine.Addition
import Vigil.CommandLine.Help
import Vigil.CommandLine.Invocation
import Vigil.CommandLine.Machine
import Vigil.CommandLine.Options
import Vigil.CommandLine.Session
import Vigil.Config.Basic
import Vigil.Config.Codec
import Vigil.Config.File
import Vigil.Decimal.Basic
import Vigil.Decimal.Layout
import Vigil.Decimal.Numeral
import Vigil.Decimal.Reader
import Vigil.Decimal.Shortest
import Vigil.Decimal.Whole
import Vigil.Domain.Ascii
import Vigil.Domain.Label
import Vigil.Domain.Punycode
import Vigil.Files.Path
import Vigil.Files.Tree
import Vigil.Health.Level
import Vigil.Health.LogMode
import Vigil.Health.State
import Vigil.Item.Basic
import Vigil.Item.Validation
import Vigil.Json.Basic
import Vigil.Json.Reader
import Vigil.Json.Token
import Vigil.Json.Writer
import Vigil.Log.Filter
import Vigil.Log.Format
import Vigil.Log.Level
import Vigil.Main
import Vigil.Probe.Attempt
import Vigil.Probe.Connection
import Vigil.Probe.Registry
import Vigil.Probe.Target
import Vigil.Probe.Web
import Vigil.Proofs.Check.Effect
import Vigil.Proofs.Check.Failures
import Vigil.Proofs.Check.Story
import Vigil.Proofs.Config.RoundTrip
import Vigil.Proofs.Decimal.Numerals
import Vigil.Proofs.Files.Tree
import Vigil.Proofs.Json.RoundTrip
import Vigil.Proofs.Json.Tokens
import Vigil.Proofs.Polling.Basic
import Vigil.Proofs.Polling.BenchLoop
import Vigil.Proofs.Polling.Cadence
import Vigil.Proofs.Polling.Claims
import Vigil.Proofs.Polling.Edits
import Vigil.Proofs.Polling.Fresh
import Vigil.Proofs.Polling.Lane
import Vigil.Proofs.Polling.Orphans
import Vigil.Proofs.Polling.Projection
import Vigil.Proofs.Polling.Retest
import Vigil.Proofs.Polling.Serial
import Vigil.Proofs.Polling.Shutdown
import Vigil.Proofs.Polling.Uninterrupted
import Vigil.Proofs.Polling.Wakeups
import Vigil.Proofs.Reading.RoundTrip
import Vigil.Proofs.Scheduler.Outage
import Vigil.Proofs.Scheduler.Tick
import Vigil.Proofs.Scheduler.Undisturbed
import Vigil.Proofs.Script.Meaning
import Vigil.Proofs.Script.Scan
import Vigil.Proofs.Store.Agreement
import Vigil.Proofs.Store.Connection
import Vigil.Proofs.Store.Contents
import Vigil.Proofs.Store.ItemTable
import Vigil.Proofs.Store.Keyed
import Vigil.Proofs.Store.Mirror
import Vigil.Proofs.Store.ReadBack
import Vigil.Proofs.Store.Rows
import Vigil.Proofs.Store.World
import Vigil.Proofs.Time.Whole
import Vigil.Proofs.Toml.Document
import Vigil.Proofs.Toml.Scalar
import Vigil.Proofs.Toml.Text
import Vigil.Proofs.Uuid
import Vigil.Reading.Basic
import Vigil.Reading.Codec
import Vigil.Reading.Counter
import Vigil.Record.Basic
import Vigil.Record.Codec
import Vigil.Record.ResultFile
import Vigil.Scheduler.Claims
import Vigil.Scheduler.Retest
import Vigil.Scheduler.Task
import Vigil.Scheduler.Tick
import Vigil.Scheduler.Timing
import Vigil.Script.Evaluate
import Vigil.Script.Split
import Vigil.Script.Value
import Vigil.Simulation.Bench
import Vigil.Simulation.Engine
import Vigil.Simulation.Network
import Vigil.Simulation.Rehearsal
import Vigil.Simulation.Service
import Vigil.Simulation.Watch
import Vigil.Simulation.World
import Vigil.Store.Basic
import Vigil.Store.Cell
import Vigil.Store.Codec
import Vigil.Store.Database
import Vigil.Store.Faulty
import Vigil.Store.Memory
import Vigil.Store.Migration
import Vigil.Store.Retention
import Vigil.Store.Rows
import Vigil.Store.Schema
import Vigil.Store.Table
import Vigil.Text.Base64
import Vigil.Text.Blank
import Vigil.Text.Combining
import Vigil.Text.Quoted
import Vigil.Text.Unprintable
import Vigil.Time.Basic
import Vigil.Time.Calendar
import Vigil.Time.Length
import Vigil.Time.Rfc3339
import Vigil.Toml.Basic
import Vigil.Toml.Document
import Vigil.Toml.Scalar
import Vigil.Toml.Statement
import Vigil.Toml.Table
import Vigil.Toml.Text
import Vigil.Unicode.Composition
import Vigil.Unicode.Direction
import Vigil.Unicode.Joining
import Vigil.Unicode.Mapping
import Vigil.Unicode.Mark
import Vigil.Unicode.NormalForm
import Vigil.Unicode.Table
import Vigil.Url.Basic
import Vigil.Url.Host
import Vigil.Url.Ipv4
import Vigil.Url.Ipv6
import Vigil.Url.Percent
import Vigil.Url.Reader
import Vigil.Url.Reference
import Vigil.Uuid
import Vigil.Proofs.Store.Upkeep
import Vigil.Proofs.Script.Acceptance
import Vigil.Proofs.Reading.Counter
import Vigil.Proofs.Scheduler.Range
import Vigil.Proofs.Polling.Range
import Vigil.Proofs.Check.Readings
import Vigil.Proofs.Check.BenchDispatch
import Vigil.Proofs.Health.History
import Vigil.Proofs.Probe.Remeasure
import Vigil.Proofs.Probe.Target
import Vigil.Proofs.Probe.InTime
import Vigil.Proofs.Store.Newest
import Vigil.Proofs.Scheduler.RetestAll
import Vigil.Proofs.Script.Splitting
import Vigil.Proofs.Store.Expiry
import Vigil.Proofs.CommandLine.Addition
import Vigil.Proofs.Time.Calendar
import Vigil.Proofs.Time.Text
import Vigil.Proofs.Record.Line
import Vigil.Proofs.Record.Export
