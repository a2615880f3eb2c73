import RemoteUsb.Access.Exchange
import RemoteUsb.Bench.Backend
import RemoteUsb.Bench.Bridge
import RemoteUsb.Bench.Call
import RemoteUsb.Bench.Helpers
import RemoteUsb.Bench.Pattern
import RemoteUsb.Bench.Rig
import RemoteUsb.Bench.Script.Builtin
import RemoteUsb.Bench.Script.Command
import RemoteUsb.Bench.Script.Escape
import RemoteUsb.Bench.Script.Expand
import RemoteUsb.Bench.Script.Expression
import RemoteUsb.Bench.Script.Glob
import RemoteUsb.Bench.Script.Process
import RemoteUsb.Bench.Script.Reading
import RemoteUsb.Bench.Script.Run
import RemoteUsb.Bench.Script.Token
import RemoteUsb.Bench.Script.Tool
import RemoteUsb.Bench.Session
import RemoteUsb.Bench.Stand
import RemoteUsb.Bench.System
import RemoteUsb.Bench.Trial
import RemoteUsb.Bench.Turn
import RemoteUsb.Bus.Fault
import RemoteUsb.Bus.Handle
import RemoteUsb.Bus.Node
import RemoteUsb.Bus.Session
import RemoteUsb.Channel
import RemoteUsb.Channel.Connect
import RemoteUsb.Channel.Host
import RemoteUsb.Channel.Traffic
import RemoteUsb.Channel.Transport
import RemoteUsb.Client
import RemoteUsb.Client.Arguments
import RemoteUsb.Client.Watch
import RemoteUsb.Config
import RemoteUsb.Config.Store
import RemoteUsb.Config.Text
import RemoteUsb.Device
import RemoteUsb.Device.Sample
import RemoteUsb.Error
import RemoteUsb.Event
import RemoteUsb.Files
import RemoteUsb.Files.Disk
import RemoteUsb.Files.Path
import RemoteUsb.Filter
import RemoteUsb.Filter.Text
import RemoteUsb.Listening
import RemoteUsb.Logging
import RemoteUsb.Logging.Pattern
import RemoteUsb.Lz4.Block
import RemoteUsb.Lz4.Encoder
import RemoteUsb.Main
import RemoteUsb.Manager
import RemoteUsb.Manager.Connect
import RemoteUsb.Manager.Events
import RemoteUsb.Manager.Settings
import RemoteUsb.Proofs.Channel.Calls
import RemoteUsb.Proofs.Channel.Moves
import RemoteUsb.Proofs.Channel.Situation
import RemoteUsb.Proofs.Channel.Transit
import RemoteUsb.Proofs.Lz4.RoundTrip
import RemoteUsb.Proofs.Lz4.Sequences
import RemoteUsb.Proofs.Manager.Bindings
import RemoteUsb.Proofs.Manager.Change
import RemoteUsb.Proofs.Manager.Late
import RemoteUsb.Proofs.Manager.Moves
import RemoteUsb.Proofs.Manager.Steps
import RemoteUsb.Proofs.Manager.Turned
import RemoteUsb.Proofs.Manager.Unplug
import RemoteUsb.Proofs.Registry
import RemoteUsb.Proofs.Wire.Codec
import RemoteUsb.Proofs.Wire.Stream
import RemoteUsb.Proofs.Wire.Varint
import RemoteUsb.Registry
import RemoteUsb.Text.Blank
import RemoteUsb.Text.Digits
import RemoteUsb.Text.Escape
import RemoteUsb.Text.Hex
import RemoteUsb.Text.Hidden
import RemoteUsb.Text.Letter
import RemoteUsb.Text.Parts
import RemoteUsb.Text.Range
import RemoteUsb.Text.Span
import RemoteUsb.Text.Utf8
import RemoteUsb.Toml.Document
import RemoteUsb.Toml.Moment
import RemoteUsb.Toml.Number
import RemoteUsb.Toml.Quoted
import RemoteUsb.Toml.Reader
import RemoteUsb.Toml.Tree
import RemoteUsb.Wire.Codec
import RemoteUsb.Wire.Error
import RemoteUsb.Wire.Frame
import RemoteUsb.Wire.Message
import RemoteUsb.Wire.Packing
import RemoteUsb.Wire.Stream
import RemoteUsb.Wire.Varint
import RemoteUsb.Wire.Version
import RemoteUsb.Proofs.Channel.Delivery
import RemoteUsb.Proofs.Lz4.Uniform
import RemoteUsb.Proofs.Channel.Outcome
import RemoteUsb.Proofs.Manager.Deed
import RemoteUsb.Proofs.Manager.Matched
import RemoteUsb.Proofs.Manager.Doing
import RemoteUsb.Proofs.Manager.Deeds
import RemoteUsb.Proofs.Manager.Listeners
import RemoteUsb.Proofs.Manager.Represented
import RemoteUsb.Proofs.Channel.Spent
import RemoteUsb.Proofs.Manager.Shutdown
import RemoteUsb.Proofs.Manager.Revival
import RemoteUsb.Proofs.Manager.Keyed
import RemoteUsb.Proofs.Manager.Drivers
import RemoteUsb.Proofs.Channel.Sections
import RemoteUsb.Proofs.Channel.Reports
import RemoteUsb.Proofs.Manager.Silence
import RemoteUsb.Proofs.Manager.Periods
import RemoteUsb.Proofs.Manager.Failures
import RemoteUsb.Proofs.Manager.Origins
import RemoteUsb.Proofs.Manager.Policy
import RemoteUsb.Proofs.Channel.Fit
import RemoteUsb.Proofs.Manager.Lineup
import RemoteUsb.Proofs.Manager.Redirection
import RemoteUsb.Proofs.Wire.Reading
import RemoteUsb.Proofs.Wire.Front
import RemoteUsb.Proofs.Manager.Pump
import RemoteUsb.Proofs.Channel.Outbound
import RemoteUsb.Proofs.Channel.Conserved
import RemoteUsb.Proofs.Channel.Packed
import RemoteUsb.Proofs.Manager.Notices
import RemoteUsb.Proofs.Channel.Withdrawal
import RemoteUsb.Proofs.Channel.Grants
import RemoteUsb.Proofs.Manager.Wakeups
import RemoteUsb.Proofs.Filter.Grammar
import RemoteUsb.Proofs.Filter.RoundTrip
import RemoteUsb.Proofs.Wire.Apart
import RemoteUsb.Proofs.Wire.Slice
import RemoteUsb.Proofs.Wire.Shortest
import RemoteUsb.Proofs.Manager.Overtaken
import RemoteUsb.Proofs.Manager.Preflight
import RemoteUsb.Proofs.Bus.Interfaces
import RemoteUsb.Proofs.Bus.Opening
import RemoteUsb.Proofs.Bus.Undone
import RemoteUsb.Proofs.Filter.FirstMatch
import RemoteUsb.Proofs.Lz4.Format
import RemoteUsb.Proofs.Lz4.Steps
import RemoteUsb.Proofs.Channel.Contained
import RemoteUsb.Proofs.Manager.Disconnection
import RemoteUsb.Proofs.Manager.Loop
import RemoteUsb.Proofs.Manager.Consequences
import RemoteUsb.Proofs.Manager.Initialization
import RemoteUsb.Proofs.Registry.History
import RemoteUsb.Proofs.Listening
