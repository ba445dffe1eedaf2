import CommandVerbs.Bundle.Base
import CommandVerbs.Bundle.Basic
import CommandVerbs.Bundle.Connection
import CommandVerbs.Bundle.Java
import CommandVerbs.CommandLine.Grammar
import CommandVerbs.CommandLine.Help
import CommandVerbs.CommandLine.HelpPage
import CommandVerbs.CommandLine.Matches
import CommandVerbs.CommandLine.Parser
import CommandVerbs.CommandLine.Reading
import CommandVerbs.CommandLine.WordForm
import CommandVerbs.Config.File
import CommandVerbs.Config.Key
import CommandVerbs.Config.Store
import CommandVerbs.Config.Tool
import CommandVerbs.Console.Console
import CommandVerbs.Console.EnvironmentFile
import CommandVerbs.Console.Fault
import CommandVerbs.Console.LogFilter
import CommandVerbs.Console.LogFilter.Pattern
import CommandVerbs.Console.LogFilter.Rule
import CommandVerbs.Console.Startup
import CommandVerbs.Console.StockVerbs
import CommandVerbs.Console.Touched
import CommandVerbs.Fault
import CommandVerbs.Files.Path
import CommandVerbs.Files.Tree
import CommandVerbs.Host.Address
import CommandVerbs.Host.Written
import CommandVerbs.Json.Basic
import CommandVerbs.Json.Lexer
import CommandVerbs.Json.Reader
import CommandVerbs.Json.Record
import CommandVerbs.Json.Writer
import CommandVerbs.KeyMap
import CommandVerbs.Launch.Launcher
import CommandVerbs.Launch.Launching
import CommandVerbs.Launch.Request
import CommandVerbs.Main
import CommandVerbs.Package.Request
import CommandVerbs.Package.Scripts
import CommandVerbs.Registry
import CommandVerbs.Rehearsal.Bundle
import CommandVerbs.Rehearsal.Recorder
import CommandVerbs.Rehearsal.Service
import CommandVerbs.Rehearsal.Shell
import CommandVerbs.Rehearsal.Shell.Arithmetic
import CommandVerbs.Rehearsal.Shell.Builtin
import CommandVerbs.Rehearsal.Shell.Command
import CommandVerbs.Rehearsal.Shell.Condition
import CommandVerbs.Rehearsal.Shell.Evaluation
import CommandVerbs.Rehearsal.Shell.Expansion
import CommandVerbs.Rehearsal.Shell.Interpreter
import CommandVerbs.Rehearsal.Shell.Pattern
import CommandVerbs.Rehearsal.Shell.Program
import CommandVerbs.Rehearsal.Shell.Signal
import CommandVerbs.Rehearsal.Shell.Streams
import CommandVerbs.Rehearsal.Shell.Word
import CommandVerbs.Service.Client
import CommandVerbs.Service.Codec
import CommandVerbs.Service.Dial
import CommandVerbs.Service.IntegralCodec
import CommandVerbs.Service.Response
import CommandVerbs.Service.Target
import CommandVerbs.Session.Adapters
import CommandVerbs.Session.Diagnostic
import CommandVerbs.Session.Request
import CommandVerbs.Session.Script
import CommandVerbs.Session.World
import CommandVerbs.Sink
import CommandVerbs.Spec.Argument
import CommandVerbs.Spec.Attributes
import CommandVerbs.Spec.Option
import CommandVerbs.Table
import CommandVerbs.Text.Alphanumeric
import CommandVerbs.Text.Blank
import CommandVerbs.Text.Decimal
import CommandVerbs.Text.LetterCase
import CommandVerbs.Text.LetterCase.Classes
import CommandVerbs.Text.LetterCase.Mappings
import CommandVerbs.Text.Quoted
import CommandVerbs.Text.Split
import CommandVerbs.Text.Unseen
import CommandVerbs.Text.Utf8
import CommandVerbs.Text.Visible
import CommandVerbs.Value
import CommandVerbs.Value.Written
import CommandVerbs.Verb.Basic
import CommandVerbs.Verb.Command
import CommandVerbs.Verb.Declaration
import CommandVerbs.Verb.Modifier
import CommandVerbs.Proofs.Bundle.Completing
import CommandVerbs.Proofs.CommandLine.Building
import CommandVerbs.Proofs.CommandLine.Counts
import CommandVerbs.Proofs.CommandLine.Levels
import CommandVerbs.Proofs.CommandLine.Positionals
import CommandVerbs.Proofs.CommandLine.Raising
import CommandVerbs.Proofs.CommandLine.Syntax
import CommandVerbs.Proofs.Config.Assignments
import CommandVerbs.Proofs.Config.Binding
import CommandVerbs.Proofs.Config.Changes
import CommandVerbs.Proofs.Config.Commands
import CommandVerbs.Proofs.Config.ConfiguredCatalog
import CommandVerbs.Proofs.Config.HandEdited
import CommandVerbs.Proofs.Config.Interrupted
import CommandVerbs.Proofs.Config.KeyFilters
import CommandVerbs.Proofs.Config.LastChange
import CommandVerbs.Proofs.Config.ListThenSet
import CommandVerbs.Proofs.Config.Loading
import CommandVerbs.Proofs.Config.LoadingAgain
import CommandVerbs.Proofs.Config.PairLines
import CommandVerbs.Proofs.Config.Reopening
import CommandVerbs.Proofs.Config.SetThenGet
import CommandVerbs.Proofs.Config.SharedFile
import CommandVerbs.Proofs.Config.StoreCommands
import CommandVerbs.Proofs.Config.StoreLoading
import CommandVerbs.Proofs.Config.UnsavedChanges
import CommandVerbs.Proofs.Console.Verbosity
import CommandVerbs.Proofs.Files.Directories
import CommandVerbs.Proofs.Files.Making
import CommandVerbs.Proofs.Files.Resolving
import CommandVerbs.Proofs.Files.Rewriting
import CommandVerbs.Proofs.Files.Ways
import CommandVerbs.Proofs.Files.Writing
import CommandVerbs.Proofs.Host.Grammar
import CommandVerbs.Proofs.Host.Lists
import CommandVerbs.Proofs.Host.ReadingBack
import CommandVerbs.Proofs.Json.Reading
import CommandVerbs.Proofs.Json.Storable
import CommandVerbs.Proofs.Json.Tokens
import CommandVerbs.Proofs.Json.Writing
import CommandVerbs.Proofs.KeyMap
import CommandVerbs.Proofs.Launch.Requests
import CommandVerbs.Proofs.Launch.ServerArguments
import CommandVerbs.Proofs.Lifecycle.Execution
import CommandVerbs.Proofs.Lifecycle.Faults
import CommandVerbs.Proofs.Lifecycle.Order
import CommandVerbs.Proofs.Lifecycle.Reentry
import CommandVerbs.Proofs.Lifecycle.Stages
import CommandVerbs.Proofs.Lifecycle.Sweep
import CommandVerbs.Proofs.Lifecycle.Unwinding
import CommandVerbs.Proofs.Package.Outcomes
import CommandVerbs.Proofs.Package.Places
import CommandVerbs.Proofs.Package.Writing
import CommandVerbs.Proofs.Registry.Calls
import CommandVerbs.Proofs.Registry.Integrity
import CommandVerbs.Proofs.Rehearsal.StandIn
import CommandVerbs.Proofs.Service.Codecs
import CommandVerbs.Proofs.Service.Dialling
import CommandVerbs.Proofs.Service.Framing
import CommandVerbs.Proofs.Service.IntegralCodec
import CommandVerbs.Proofs.Service.Replies
import CommandVerbs.Proofs.Session.Answers
import CommandVerbs.Proofs.Session.Connections
import CommandVerbs.Proofs.Session.Ending
import CommandVerbs.Proofs.Session.Ledger
import CommandVerbs.Proofs.Session.Reliable
import CommandVerbs.Proofs.Session.Running
import CommandVerbs.Proofs.Spec.AttributeOffers
import CommandVerbs.Proofs.Spec.OptionOrder
import CommandVerbs.Proofs.Table.Alignment
import CommandVerbs.Proofs.Text.Decimal
import CommandVerbs.Proofs.Text.Lines
import CommandVerbs.Proofs.Text.LowerCase
import CommandVerbs.Proofs.Text.Trimming
import CommandVerbs.Proofs.Text.Utf8
import CommandVerbs.Proofs.Verb.Checking
import CommandVerbs.Proofs.Verb.Classpath
import CommandVerbs.Proofs.Verb.Defaults
import CommandVerbs.Proofs.Verb.Dispatching
import CommandVerbs.Proofs.Verb.Listing
import CommandVerbs.Proofs.Verb.MatchedValues
import CommandVerbs.Proofs.Verb.Operations
import CommandVerbs.Proofs.Verb.SelectorPlace
import CommandVerbs.Proofs.Verb.SharedNames
import CommandVerbs.Proofs.Verb.SuppliedValues
