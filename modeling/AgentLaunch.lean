import AgentLaunch.Account
import AgentLaunch.Account.Record
import AgentLaunch.Arguments.Help
import AgentLaunch.Arguments.Options
import AgentLaunch.Arguments.Parse
import AgentLaunch.Arguments.Usage
import AgentLaunch.Awk.Check
import AgentLaunch.Awk.Format
import AgentLaunch.Awk.Machine
import AgentLaunch.Awk.Parse
import AgentLaunch.Awk.Run
import AgentLaunch.Awk.Syntax
import AgentLaunch.Awk.Token
import AgentLaunch.Awk.Value
import AgentLaunch.Binary64
import AgentLaunch.Binary64.Arithmetic
import AgentLaunch.Binary64.Display
import AgentLaunch.Binary64.Shortest
import AgentLaunch.Command
import AgentLaunch.Environment
import AgentLaunch.Event
import AgentLaunch.FileTree
import AgentLaunch.Host
import AgentLaunch.Image
import AgentLaunch.Launch
import AgentLaunch.Layout
import AgentLaunch.LogFilter
import AgentLaunch.LogFormat
import AgentLaunch.Main
import AgentLaunch.OsError
import AgentLaunch.Path
import AgentLaunch.Perl.Functions
import AgentLaunch.Perl.Machine
import AgentLaunch.Perl.Parse
import AgentLaunch.Perl.Process
import AgentLaunch.Perl.Run
import AgentLaunch.Perl.Syntax
import AgentLaunch.Program
import AgentLaunch.Proofs.Accounts
import AgentLaunch.Proofs.AgentCommand
import AgentLaunch.Proofs.Arguments.AnyOrder
import AgentLaunch.Proofs.Arguments.CommandWord
import AgentLaunch.Proofs.Arguments.Line
import AgentLaunch.Proofs.Arguments.Step
import AgentLaunch.Proofs.Arguments.Understood
import AgentLaunch.Proofs.Awk
import AgentLaunch.Proofs.Binary64
import AgentLaunch.Proofs.Bind
import AgentLaunch.Proofs.Cause
import AgentLaunch.Proofs.Credentials
import AgentLaunch.Proofs.FileTree
import AgentLaunch.Proofs.FirstBlank
import AgentLaunch.Proofs.Launch
import AgentLaunch.Proofs.LogVariables
import AgentLaunch.Proofs.Numbering
import AgentLaunch.Proofs.Outcome
import AgentLaunch.Proofs.Perl
import AgentLaunch.Proofs.Recorder
import AgentLaunch.Proofs.Rehearsal
import AgentLaunch.Proofs.Rendering
import AgentLaunch.Proofs.Sed
import AgentLaunch.Proofs.Session
import AgentLaunch.Proofs.Settings.Acceptance
import AgentLaunch.Proofs.Settings.Choice
import AgentLaunch.Proofs.Settings.Completion
import AgentLaunch.Proofs.Settings.Foreign
import AgentLaunch.Proofs.Settings.Indifference
import AgentLaunch.Proofs.Settings.Joint
import AgentLaunch.Proofs.Settings.Layers
import AgentLaunch.Proofs.Settings.Merge
import AgentLaunch.Proofs.Settings.Order
import AgentLaunch.Proofs.Settings.Selection
import AgentLaunch.Proofs.Settings.Settled
import AgentLaunch.Proofs.Settings.Source
import AgentLaunch.Proofs.Settings.Stability
import AgentLaunch.Proofs.Settings.Stack
import AgentLaunch.Proofs.Shell.Regex
import AgentLaunch.Proofs.Shell.Script
import AgentLaunch.Proofs.Shell.Words
import AgentLaunch.Proofs.Text.Json
import AgentLaunch.Proofs.Text.Quoted
import AgentLaunch.Proofs.Tools.Lines
import AgentLaunch.Proofs.Tools.Sort
import AgentLaunch.Proofs.Trail
import AgentLaunch.Proofs.Validity
import AgentLaunch.Proofs.Verbatim
import AgentLaunch.Proofs.Waiting
import AgentLaunch.Recorder
import AgentLaunch.Request
import AgentLaunch.ScriptHeader
import AgentLaunch.Sed.Parse
import AgentLaunch.Sed.Run
import AgentLaunch.Sed.Syntax
import AgentLaunch.Session
import AgentLaunch.Settings
import AgentLaunch.Settings.File
import AgentLaunch.Settings.KeyPath
import AgentLaunch.Settings.Load
import AgentLaunch.Settings.Tree
import AgentLaunch.Shell.Arithmetic
import AgentLaunch.Shell.Builtins
import AgentLaunch.Shell.Connect
import AgentLaunch.Shell.Field
import AgentLaunch.Shell.Format
import AgentLaunch.Shell.Glob
import AgentLaunch.Shell.Lookup
import AgentLaunch.Shell.Loop
import AgentLaunch.Shell.Parameter
import AgentLaunch.Shell.Regex
import AgentLaunch.Shell.Run
import AgentLaunch.Shell.Script
import AgentLaunch.Shell.Signal
import AgentLaunch.Shell.Start
import AgentLaunch.Shell.State
import AgentLaunch.Shell.Test
import AgentLaunch.Shell.Token
import AgentLaunch.Shell.Word
import AgentLaunch.SpawnPlan
import AgentLaunch.Spec
import AgentLaunch.Style
import AgentLaunch.Text.Alphanumeric
import AgentLaunch.Text.Blank
import AgentLaunch.Text.Control
import AgentLaunch.Text.GraphemeExtend
import AgentLaunch.Text.Json
import AgentLaunch.Text.Lossy
import AgentLaunch.Text.Pattern
import AgentLaunch.Text.Pattern.Atom
import AgentLaunch.Text.Printable
import AgentLaunch.Text.Quoted
import AgentLaunch.Text.Ranges
import AgentLaunch.Toml.Document
import AgentLaunch.Toml.Key
import AgentLaunch.Toml.Moment
import AgentLaunch.Toml.MomentTable
import AgentLaunch.Toml.Number
import AgentLaunch.Toml.Reader
import AgentLaunch.Toml.Tables
import AgentLaunch.Toml.Text
import AgentLaunch.Toml.Value
import AgentLaunch.Tools.Accounts
import AgentLaunch.Tools.Archive
import AgentLaunch.Tools.Awk
import AgentLaunch.Tools.Catalog
import AgentLaunch.Tools.Charset
import AgentLaunch.Tools.Checksum
import AgentLaunch.Tools.Columns
import AgentLaunch.Tools.Compare
import AgentLaunch.Tools.Copy
import AgentLaunch.Tools.Dates
import AgentLaunch.Tools.Digest
import AgentLaunch.Tools.Expr
import AgentLaunch.Tools.Fields
import AgentLaunch.Tools.Files
import AgentLaunch.Tools.Find
import AgentLaunch.Tools.Gzip
import AgentLaunch.Tools.Input
import AgentLaunch.Tools.Lines
import AgentLaunch.Tools.Listing
import AgentLaunch.Tools.Machine
import AgentLaunch.Tools.Merge
import AgentLaunch.Tools.Mode
import AgentLaunch.Tools.Numbers
import AgentLaunch.Tools.Options
import AgentLaunch.Tools.Outline
import AgentLaunch.Tools.Perl
import AgentLaunch.Tools.Pieces
import AgentLaunch.Tools.Quantity
import AgentLaunch.Tools.Search
import AgentLaunch.Tools.Sed
import AgentLaunch.Tools.Sort
import AgentLaunch.Tools.Starters
import AgentLaunch.Tools.Tool
import AgentLaunch.Tools.Words
