import XdpSteering.Binary64
import XdpSteering.Bpf
import XdpSteering.Capability
import XdpSteering.Cli
import XdpSteering.CommandLine.Grammar
import XdpSteering.CommandLine.Notice
import XdpSteering.CommandLine.Parse
import XdpSteering.Conf
import XdpSteering.Conf.Fault
import XdpSteering.Conf.InlineValue
import XdpSteering.Conf.Layers
import XdpSteering.Conf.Reader
import XdpSteering.Conf.ValueReader
import XdpSteering.Conf.YamlFault
import XdpSteering.Conf.YamlReader
import XdpSteering.Conf.YamlText
import XdpSteering.Conf.YamlValue
import XdpSteering.Decision
import XdpSteering.Descriptor
import XdpSteering.Diagnosis
import XdpSteering.Environment
import XdpSteering.Event
import XdpSteering.Execution
import XdpSteering.FileSystem
import XdpSteering.KeyedList
import XdpSteering.Level
import XdpSteering.License
import XdpSteering.Loader
import XdpSteering.Log.Directive
import XdpSteering.Log.Filter
import XdpSteering.Log.Line
import XdpSteering.Log.Pattern
import XdpSteering.Log.Pattern.Class
import XdpSteering.Log.Pattern.Depth
import XdpSteering.Log.Pattern.Escape
import XdpSteering.Log.Pattern.Mode
import XdpSteering.Log.Time
import XdpSteering.Main
import XdpSteering.Operation
import XdpSteering.OsError
import XdpSteering.Path
import XdpSteering.Pin
import XdpSteering.PinStatus
import XdpSteering.Program
import XdpSteering.Proofs.Capability.Check
import XdpSteering.Proofs.Capability.Mask
import XdpSteering.Proofs.Capability.Remedy
import XdpSteering.Proofs.CommandLine.Acceptance
import XdpSteering.Proofs.CommandLine.Interchange
import XdpSteering.Proofs.CommandLine.Legality
import XdpSteering.Proofs.CommandLine.Reading
import XdpSteering.Proofs.CommandLine.Replacement
import XdpSteering.Proofs.CommandLine.Scanning
import XdpSteering.Proofs.CommandLine.Writing
import XdpSteering.Proofs.Conf.Agreement
import XdpSteering.Proofs.Conf.ConfigFile
import XdpSteering.Proofs.Conf.Document
import XdpSteering.Proofs.Conf.Interchange
import XdpSteering.Proofs.Conf.LinkPaths
import XdpSteering.Proofs.Conf.Loading
import XdpSteering.Proofs.Conf.LogLevel
import XdpSteering.Proofs.Conf.MissedFields
import XdpSteering.Proofs.Conf.Objects
import XdpSteering.Proofs.Conf.Precedence
import XdpSteering.Proofs.Conf.Reading
import XdpSteering.Proofs.Conf.RoundTrip
import XdpSteering.Proofs.Conf.Settings
import XdpSteering.Proofs.Conf.Trees
import XdpSteering.Proofs.Conf.UnknownKeys
import XdpSteering.Proofs.Decision
import XdpSteering.Proofs.Decision.Independence
import XdpSteering.Proofs.Decision.TraceLine
import XdpSteering.Proofs.Diagnosis.Run
import XdpSteering.Proofs.Diagnosis.Summary
import XdpSteering.Proofs.Execution
import XdpSteering.Proofs.Execution.Absence
import XdpSteering.Proofs.Execution.Diagnosis
import XdpSteering.Proofs.Execution.Frame
import XdpSteering.Proofs.Execution.Shutdown
import XdpSteering.Proofs.Execution.Status
import XdpSteering.Proofs.Execution.Unpinned
import XdpSteering.Proofs.Fallible
import XdpSteering.Proofs.FileSystem.Clearing
import XdpSteering.Proofs.FileSystem.Directories
import XdpSteering.Proofs.FileSystem.Entries
import XdpSteering.Proofs.FileSystem.Making
import XdpSteering.Proofs.FileSystem.Pins
import XdpSteering.Proofs.FileSystem.Removal
import XdpSteering.Proofs.FileSystem.Resolution
import XdpSteering.Proofs.FileSystem.Status
import XdpSteering.Proofs.FileSystem.Trees
import XdpSteering.Proofs.KeyedList
import XdpSteering.Proofs.Level
import XdpSteering.Proofs.Loader
import XdpSteering.Proofs.Operation
import XdpSteering.Proofs.Path
import XdpSteering.Proofs.Pin
import XdpSteering.Proofs.Program
import XdpSteering.Proofs.Program.Report
import XdpSteering.Proofs.QueueTable.Bound
import XdpSteering.Proofs.QueueTable.Changes
import XdpSteering.Proofs.QueueTable.Filling
import XdpSteering.Proofs.QueueTable.History
import XdpSteering.Proofs.QueueTable.Reads
import XdpSteering.Proofs.QueueTable.Reordering
import XdpSteering.Proofs.QueueTable.Slots
import XdpSteering.Proofs.QueueTable.Undo
import XdpSteering.Proofs.Text.Blank
import XdpSteering.Proofs.Text.Decoding
import XdpSteering.Proofs.Text.Hexadecimal
import XdpSteering.Proofs.Text.Numeral
import XdpSteering.Proofs.Text.Utf8
import XdpSteering.Proofs.Value.Insertion
import XdpSteering.Proofs.Value.Merge
import XdpSteering.Proofs.Value.Ordered
import XdpSteering.QueueTable
import XdpSteering.QueueTable.Session
import XdpSteering.Sockets
import XdpSteering.SteerError
import XdpSteering.Summary
import XdpSteering.Text.Alphanumeric
import XdpSteering.Text.Blank
import XdpSteering.Text.Cursor
import XdpSteering.Text.Numeral
import XdpSteering.Text.Printable
import XdpSteering.Text.Quoted
import XdpSteering.Text.Stretch
import XdpSteering.Text.Utf8
import XdpSteering.Value
import XdpSteering.Verdict
import XdpSteering.Yaml.Event
import XdpSteering.Yaml.Node
import XdpSteering.Yaml.Problem
import XdpSteering.Yaml.Scalar
import XdpSteering.Yaml.ScalarText
import XdpSteering.Yaml.Token
import XdpSteering.Yaml.Token.Property
import XdpSteering.Yaml.Token.Scalar
import XdpSteering.Yaml.Token.Stream
