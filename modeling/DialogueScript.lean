import DialogueScript.CommandLine.Arguments
import DialogueScript.CommandLine.Report
import DialogueScript.CommandLine.Run
import DialogueScript.Data
import DialogueScript.Decimal.Nearest
import DialogueScript.Decimal.Shortest
import DialogueScript.Decimal.Style
import DialogueScript.Host.Files
import DialogueScript.Host.World
import DialogueScript.Ini.Document
import DialogueScript.Json.Fault
import DialogueScript.Json.Number
import DialogueScript.Json.Quote
import DialogueScript.Json.Reader
import DialogueScript.Json.Record
import DialogueScript.Json.Tagged
import DialogueScript.Json.Tree
import DialogueScript.Json.Written
import DialogueScript.Json5.Document
import DialogueScript.Json5.Grammar
import DialogueScript.Ron.Document
import DialogueScript.Ron.Reader
import DialogueScript.Ron.Value
import DialogueScript.Script.Effect
import DialogueScript.Script.Eval
import DialogueScript.Script.Expr
import DialogueScript.Script.FromJson
import DialogueScript.Script.Instruction
import DialogueScript.Script.Path
import DialogueScript.Script.Scope
import DialogueScript.Script.Stored
import DialogueScript.Script.ToJson
import DialogueScript.Script.Value
import DialogueScript.Session.Interpreter
import DialogueScript.Settings.EnvFile
import DialogueScript.Settings.Given
import DialogueScript.Settings.Layers
import DialogueScript.Settings.Load
import DialogueScript.Settings.Name
import DialogueScript.Settings.Source
import DialogueScript.Text.Alphanumeric
import DialogueScript.Text.Cased
import DialogueScript.Text.Digits
import DialogueScript.Text.Hidden
import DialogueScript.Text.Letter
import DialogueScript.Text.Lower
import DialogueScript.Text.Peg
import DialogueScript.Text.Quoted
import DialogueScript.Text.Ranges
import DialogueScript.Text.Scan
import DialogueScript.Text.Space
import DialogueScript.Text.Utf8
import DialogueScript.Toml.Document
import DialogueScript.Toml.Scalar
import DialogueScript.Traversal.State
import DialogueScript.Traversal.Stepper
import DialogueScript.Yaml.Document
import DialogueScript.Yaml.Fault
import DialogueScript.Yaml.Scalar
import DialogueScript.Yaml.Scanner
import DialogueScript.Yaml.Stream
import DialogueScript.Yaml.Tag
import DialogueScript.Yaml.Value
import DialogueScript.Main
import DialogueScript.Proofs.Traversal.Events
import DialogueScript.Proofs.Traversal.Moves
import DialogueScript.Proofs.Traversal.Walk
import DialogueScript.Proofs.Session.Work
import DialogueScript.Proofs.Session.Agenda
import DialogueScript.Proofs.Session.Resume
import DialogueScript.Proofs.Traversal.Operations
import DialogueScript.Proofs.Session.Unfailing
import DialogueScript.Proofs.Json.Quoting
import DialogueScript.Proofs.Json.Reading
import DialogueScript.Proofs.Traversal.Flag
import DialogueScript.Proofs.Json.Spelling
import DialogueScript.Proofs.Decimal.Interval
import DialogueScript.Proofs.Decimal.Doubles
import DialogueScript.Proofs.Decimal.Rounding
import DialogueScript.Proofs.Decimal.Search
import DialogueScript.Proofs.Json.Numerals
import DialogueScript.Proofs.Json.Reproduction
import DialogueScript.Proofs.Json.Integers
import DialogueScript.Proofs.Script.Stored
import DialogueScript.Proofs.Session.Stored
import DialogueScript.Proofs.Session.Reopening
import DialogueScript.Proofs.Session.Lockstep
import DialogueScript.Proofs.Session.Preorder
import DialogueScript.Proofs.Session.Leaves
import DialogueScript.Proofs.Json.Values
import DialogueScript.Proofs.Json.Tagging
import DialogueScript.Proofs.Script.Written
import DialogueScript.Proofs.Host.Files
import DialogueScript.Proofs.Host.World
import DialogueScript.Proofs.Session.Turns
import DialogueScript.Proofs.CommandLine.Loop
import DialogueScript.Proofs.CommandLine.Processes
import DialogueScript.Proofs.CommandLine.Sessions
import DialogueScript.Proofs.Script.Variables
import DialogueScript.Proofs.Session.Course
import DialogueScript.Proofs.Session.Bindings
import DialogueScript.Proofs.Session.Completion
import DialogueScript.Proofs.CommandLine.Counts
import DialogueScript.Proofs.CommandLine.Failures
import DialogueScript.Proofs.Script.Writes
import DialogueScript.Proofs.Json.Pieces
import DialogueScript.Proofs.Json.Rounds
import DialogueScript.Proofs.Json.Extents
import DialogueScript.Proofs.Json.Slots
import DialogueScript.Proofs.Json.Roots
import DialogueScript.Proofs.Script.Decoding
import DialogueScript.Proofs.Script.Rearranged
import DialogueScript.Proofs.Script.Replaced
