import StaticMulticast.Address.Basic
import StaticMulticast.Address.Family
import StaticMulticast.Address.V4
import StaticMulticast.Address.V6
import StaticMulticast.CommandLine.Options
import StaticMulticast.CommandLine.Setup
import StaticMulticast.Configuration.Clause
import StaticMulticast.Configuration.Event
import StaticMulticast.Configuration.Line
import StaticMulticast.Configuration.Note
import StaticMulticast.Configuration.Operation
import StaticMulticast.Configuration.Pass
import StaticMulticast.Configuration.Reader
import StaticMulticast.Configuration.Rehearsal
import StaticMulticast.Configuration.Rejection
import StaticMulticast.Configuration.Settings
import StaticMulticast.Configuration.Statement
import StaticMulticast.Configuration.Word
import StaticMulticast.Daemon.Basic
import StaticMulticast.Daemon.Event
import StaticMulticast.Daemon.Script
import StaticMulticast.Event
import StaticMulticast.Failure
import StaticMulticast.Group.Basic
import StaticMulticast.Group.Table
import StaticMulticast.Host.Account
import StaticMulticast.Host.Environment
import StaticMulticast.Host.ExitStatus
import StaticMulticast.Host.Fault
import StaticMulticast.Host.Files
import StaticMulticast.Host.Interpreter
import StaticMulticast.Host.Process.Basic
import StaticMulticast.Host.Process.Task
import StaticMulticast.Host.Process.Stream
import StaticMulticast.Host.Process.Variable
import StaticMulticast.Host.Programs
import StaticMulticast.Host.Read
import StaticMulticast.Host.Shell.Redirect
import StaticMulticast.Host.Shell.Builtin.Control
import StaticMulticast.Host.Shell.Builtin.Check
import StaticMulticast.Host.Shell.Builtin.Known
import StaticMulticast.Host.Shell.Builtin.Condition
import StaticMulticast.Host.Shell.Builtin.Directory
import StaticMulticast.Host.Shell.Builtin.Signal
import StaticMulticast.Host.Shell.Builtin.Option
import StaticMulticast.Host.Shell.Builtin.Synopsis
import StaticMulticast.Host.Shell.Builtin.Text
import StaticMulticast.Host.Shell.Builtin.Variable
import StaticMulticast.Host.Shell.Calculation
import StaticMulticast.Host.Shell.Command
import StaticMulticast.Host.Shell.Declaration
import StaticMulticast.Host.Shell.Expansion
import StaticMulticast.Host.Shell.Field
import StaticMulticast.Host.Shell.Evaluation
import StaticMulticast.Host.Shell.Reader
import StaticMulticast.Host.Shell.Resolve
import StaticMulticast.Host.Shell.Run
import StaticMulticast.Host.Shell.Simple
import StaticMulticast.Host.Shell.Word
import StaticMulticast.Host.Utility.Argument
import StaticMulticast.Host.Utility.Arrangement
import StaticMulticast.Host.Utility.Lines
import StaticMulticast.Host.Utility.Calculation
import StaticMulticast.Host.Utility.Encoding
import StaticMulticast.Host.Utility.Column
import StaticMulticast.Host.Utility.Comparison
import StaticMulticast.Host.Utility.Copy
import StaticMulticast.Host.Utility.Date
import StaticMulticast.Host.Utility.Datum
import StaticMulticast.Host.Utility.Edit
import StaticMulticast.Host.Utility.Editor
import StaticMulticast.Host.Utility.File
import StaticMulticast.Host.Utility.Find
import StaticMulticast.Host.Utility.Format
import StaticMulticast.Host.Utility.Gathering
import StaticMulticast.Host.Utility.Input
import StaticMulticast.Host.Utility.Listing
import StaticMulticast.Host.Utility.Machine
import StaticMulticast.Host.Utility.Make
import StaticMulticast.Host.Utility.Rule.Basic
import StaticMulticast.Host.Utility.Rule.Reader
import StaticMulticast.Host.Utility.Rule.State
import StaticMulticast.Host.Utility.Rule.Run
import StaticMulticast.Host.Utility.Search
import StaticMulticast.Host.Utility.Sequence
import StaticMulticast.Host.Utility.Sorting
import StaticMulticast.Host.Utility.Splitting
import StaticMulticast.Host.Utility.Start
import StaticMulticast.Host.Utility.Statement.Token
import StaticMulticast.Host.Utility.Statement.BuiltIn
import StaticMulticast.Host.Utility.Statement.Call
import StaticMulticast.Host.Utility.Statement.Child
import StaticMulticast.Host.Utility.Statement.Run
import StaticMulticast.Host.Utility.Statement.Container
import StaticMulticast.Host.Utility.Statement.Function
import StaticMulticast.Host.Utility.Statement.Handle
import StaticMulticast.Host.Utility.Statement.Held
import StaticMulticast.Host.Utility.Statement.Reading
import StaticMulticast.Host.Utility.Statement.Name
import StaticMulticast.Host.Utility.Statement.Reader
import StaticMulticast.Host.Utility.Statement.State
import StaticMulticast.Host.Utility.Statement.Place
import StaticMulticast.Host.Utility.Statement.Term
import StaticMulticast.Host.Utility.Statement.Tool
import StaticMulticast.Host.Utility.Statement.Word
import StaticMulticast.Host.Utility.Table
import StaticMulticast.Interface.Basic
import StaticMulticast.Interface.Event
import StaticMulticast.Interface.Registry
import StaticMulticast.Interface.SlotPool
import StaticMulticast.Interface.System
import StaticMulticast.Log.Format
import StaticMulticast.Log.Record
import StaticMulticast.Main
import StaticMulticast.Ordered
import StaticMulticast.Outcome
import StaticMulticast.Program
import StaticMulticast.Program.Run
import StaticMulticast.Route.Basic
import StaticMulticast.Route.Table
import StaticMulticast.Signal.Machine
import StaticMulticast.Tables
import StaticMulticast.Text.Blank
import StaticMulticast.Text.Calendar
import StaticMulticast.Text.Decimal
import StaticMulticast.Text.Difference
import StaticMulticast.Text.Digest
import StaticMulticast.Text.Fraction
import StaticMulticast.Text.Member
import StaticMulticast.Text.Pattern
import StaticMulticast.Text.Quoted
import StaticMulticast.Text.Regular
import StaticMulticast.Text.Regular.Rich
import StaticMulticast.Text.Unprintable
import StaticMulticast.Text.Utf8
import StaticMulticast.Text.Version
import StaticMulticast.Proofs.Interface.History
import StaticMulticast.Proofs.Interface.Slots
import StaticMulticast.Proofs.Interface.Reset
import StaticMulticast.Proofs.Configuration.Naming
import StaticMulticast.Proofs.Configuration.Pass
import StaticMulticast.Proofs.Daemon.Reload
import StaticMulticast.Proofs.Address.Reading
import StaticMulticast.Proofs.Configuration.Turn
import StaticMulticast.Proofs.Configuration.Chunks
import StaticMulticast.Proofs.Configuration.Exits
import StaticMulticast.Proofs.Configuration.Statement
import StaticMulticast.Proofs.Configuration.Validity
import StaticMulticast.Proofs.Configuration.Ends
import StaticMulticast.Proofs.Configuration.Fault
import StaticMulticast.Proofs.Configuration.Interruption
import StaticMulticast.Proofs.Configuration.Calls
import StaticMulticast.Proofs.Configuration.Selection
import StaticMulticast.Proofs.Tables.Isolation
import StaticMulticast.Proofs.Address.Order
import StaticMulticast.Proofs.Tables.Order
import StaticMulticast.Proofs.Interface.WithoutIPv6
import StaticMulticast.Proofs.Configuration.WithoutIPv6
import StaticMulticast.Proofs.Tables.WithoutIPv6
import StaticMulticast.Proofs.Daemon.History
import StaticMulticast.Proofs.Daemon.WithoutIPv6
import StaticMulticast.Proofs.Interface.Soundness
import StaticMulticast.Proofs.Tables.Concatenation
import StaticMulticast.Proofs.Configuration.Reordering
import StaticMulticast.Proofs.Tables.Routes
import StaticMulticast.Proofs.Tables.Reordering
import StaticMulticast.Proofs.Signal.Interleaving
import StaticMulticast.Proofs.Configuration.Activation
import StaticMulticast.Proofs.Daemon.Activation
import StaticMulticast.Proofs.Tables.Soundness
import StaticMulticast.Proofs.Tables.Session
import StaticMulticast.Proofs.Tables.Journal
import StaticMulticast.Proofs.Daemon.Soundness
import StaticMulticast.Proofs.Daemon.Journal
import StaticMulticast.Proofs.Interface.Switching
import StaticMulticast.Proofs.Interface.Defaults
import StaticMulticast.Proofs.Interface.Discovery
import StaticMulticast.Proofs.Configuration.Precedence
import StaticMulticast.Proofs.Configuration.Meaning
import StaticMulticast.Proofs.Configuration.Arrangement
import StaticMulticast.Proofs.Address.Characters
import StaticMulticast.Proofs.Configuration.Resolution
import StaticMulticast.Proofs.Configuration.Threshold
import StaticMulticast.Proofs.Program
