import BrainHost.Actor
import BrainHost.Boundary
import BrainHost.Brain
import BrainHost.CommandLine
import BrainHost.Config
import BrainHost.Config.Load
import BrainHost.Config.Read
import BrainHost.Diagnostic
import BrainHost.Document.Basic
import BrainHost.Document.Json
import BrainHost.Document.Toml
import BrainHost.Engine
import BrainHost.Exception
import BrainHost.Failure
import BrainHost.Host
import BrainHost.Inspect
import BrainHost.Limit
import BrainHost.Log
import BrainHost.Main
import BrainHost.Marshal
import BrainHost.Number.Binary
import BrainHost.Number.Decimal
import BrainHost.Proofs.Act.Basic
import BrainHost.Proofs.Act.Blame
import BrainHost.Proofs.Act.Calls
import BrainHost.Proofs.Act.Field
import BrainHost.Proofs.Act.Free
import BrainHost.Proofs.Act.Keeps
import BrainHost.Proofs.Act.Make
import BrainHost.Proofs.Act.Outward
import BrainHost.Proofs.Act.Plain
import BrainHost.Proofs.Apart.Beside
import BrainHost.Proofs.Apart.Errand
import BrainHost.Proofs.Apart.Isolation
import BrainHost.Proofs.Apart.Level
import BrainHost.Proofs.Apart.Twin
import BrainHost.Proofs.Boundary.Access
import BrainHost.Proofs.Boundary.Bounds
import BrainHost.Proofs.Boundary.Buffer
import BrainHost.Proofs.Boundary.Call
import BrainHost.Proofs.Boundary.Code
import BrainHost.Proofs.Boundary.Heard
import BrainHost.Proofs.Boundary.Heeding
import BrainHost.Proofs.Boundary.Nesting
import BrainHost.Proofs.Boundary.Report
import BrainHost.Proofs.Boundary.Results
import BrainHost.Proofs.Boundary.Sight
import BrainHost.Proofs.Boundary.Stray
import BrainHost.Proofs.Boundary.Strings
import BrainHost.Proofs.Config.Lines
import BrainHost.Proofs.Config.Loaded
import BrainHost.Proofs.Config.Saved
import BrainHost.Proofs.Json.Inclusion
import BrainHost.Proofs.Json.Keys
import BrainHost.Proofs.Json.Meaning
import BrainHost.Proofs.Json.Minified
import BrainHost.Proofs.Json.Numbers
import BrainHost.Proofs.Json.ReadBack
import BrainHost.Proofs.Json.Reader
import BrainHost.Proofs.Json.Replaced
import BrainHost.Proofs.Json.Result
import BrainHost.Proofs.Json.RoundTrip
import BrainHost.Proofs.Json.Shown
import BrainHost.Proofs.Json.Snapshot
import BrainHost.Proofs.Json.Spelling
import BrainHost.Proofs.Json.Steps
import BrainHost.Proofs.Json.Strict
import BrainHost.Proofs.Json.Strings
import BrainHost.Proofs.Json.Telling
import BrainHost.Proofs.Json.Units
import BrainHost.Proofs.Json.Written
import BrainHost.Proofs.Message.Bounded
import BrainHost.Proofs.Message.Failure
import BrainHost.Proofs.Message.Listing
import BrainHost.Proofs.Message.Located
import BrainHost.Proofs.Message.Operation
import BrainHost.Proofs.Message.Preview
import BrainHost.Proofs.Message.Request
import BrainHost.Proofs.Message.Run
import BrainHost.Proofs.Message.Sinks
import BrainHost.Proofs.Message.Size
import BrainHost.Proofs.Message.Stack
import BrainHost.Proofs.Message.Underline
import BrainHost.Proofs.Module.Held
import BrainHost.Proofs.Module.Reload
import BrainHost.Proofs.Number.Double
import BrainHost.Proofs.Number.Integer
import BrainHost.Proofs.Number.Numeral
import BrainHost.Proofs.Number.Rounding
import BrainHost.Proofs.Number.Shortest
import BrainHost.Proofs.Number.Whole
import BrainHost.Proofs.Script.Accessor
import BrainHost.Proofs.Script.Arrives
import BrainHost.Proofs.Script.Calm
import BrainHost.Proofs.Script.Capability
import BrainHost.Proofs.Script.Compiling
import BrainHost.Proofs.Script.Errors
import BrainHost.Proofs.Script.Fault
import BrainHost.Proofs.Script.Founded
import BrainHost.Proofs.Script.Gives
import BrainHost.Proofs.Script.Pristine
import BrainHost.Proofs.Script.Reach
import BrainHost.Proofs.Script.Setup
import BrainHost.Proofs.Script.Traced
import BrainHost.Proofs.Service.Accepted
import BrainHost.Proofs.Service.Call
import BrainHost.Proofs.Service.Errors
import BrainHost.Proofs.Service.Lasting
import BrainHost.Proofs.Service.Lax
import BrainHost.Proofs.Service.Order
import BrainHost.Proofs.Service.Ownership
import BrainHost.Proofs.Service.Play
import BrainHost.Proofs.Service.Result
import BrainHost.Proofs.Service.SingleFlight
import BrainHost.Proofs.Service.Told
import BrainHost.Proofs.Table.Bounds
import BrainHost.Proofs.Table.Checks
import BrainHost.Proofs.Table.Fails
import BrainHost.Proofs.Table.Refine
import BrainHost.Proofs.Table.Reports
import BrainHost.Proofs.Table.Shared
import BrainHost.Proofs.Table.Sound
import BrainHost.Proofs.Table.Spec
import BrainHost.Proofs.Table.Step
import BrainHost.Proofs.Table.Within
import BrainHost.Proofs.Text.Class
import BrainHost.Proofs.Text.Lines
import BrainHost.Proofs.Text.Lossy
import BrainHost.Proofs.Update.Closing
import BrainHost.Proofs.Update.Cycle
import BrainHost.Proofs.Update.Delivery
import BrainHost.Proofs.Update.Drain
import BrainHost.Proofs.Update.FailingLine
import BrainHost.Proofs.Update.Memory
import BrainHost.Proofs.Update.Move
import BrainHost.Proofs.Update.Phase
import BrainHost.Proofs.Update.Queue
import BrainHost.Proofs.Update.Sealed
import BrainHost.Registry
import BrainHost.Running
import BrainHost.Scratch
import BrainHost.Script.Action
import BrainHost.Script.Builtin
import BrainHost.Script.Builtin.Array
import BrainHost.Script.Builtin.Buffer
import BrainHost.Script.Builtin.Capability
import BrainHost.Script.Builtin.Collection
import BrainHost.Script.Builtin.Date
import BrainHost.Script.Builtin.Function
import BrainHost.Script.Builtin.Json
import BrainHost.Script.Builtin.Math
import BrainHost.Script.Builtin.Object
import BrainHost.Script.Builtin.Primitive
import BrainHost.Script.Builtin.Promise
import BrainHost.Script.Builtin.RegExp
import BrainHost.Script.Builtin.Text
import BrainHost.Script.Bytes
import BrainHost.Script.Change
import BrainHost.Script.Convert
import BrainHost.Script.Engine
import BrainHost.Script.Evaluate
import BrainHost.Script.Evaluate.Basic
import BrainHost.Script.Evaluate.Class
import BrainHost.Script.Evaluate.Closure
import BrainHost.Script.Evaluate.Expression
import BrainHost.Script.Evaluate.Program
import BrainHost.Script.Evaluate.Scope
import BrainHost.Script.Evaluate.Statement
import BrainHost.Script.Evaluate.Target
import BrainHost.Script.Global
import BrainHost.Script.Iteration
import BrainHost.Script.Json
import BrainHost.Script.Lookup
import BrainHost.Script.Machine
import BrainHost.Script.Native
import BrainHost.Script.Numeric
import BrainHost.Script.Operator
import BrainHost.Script.Own
import BrainHost.Script.Parser
import BrainHost.Script.Parser.Expression
import BrainHost.Script.Parser.Function
import BrainHost.Script.Parser.Module
import BrainHost.Script.Parser.State
import BrainHost.Script.Parser.Statement
import BrainHost.Script.Pattern
import BrainHost.Script.Promise
import BrainHost.Script.Str
import BrainHost.Script.Syntax
import BrainHost.Script.Token
import BrainHost.Script.Value
import BrainHost.Service
import BrainHost.Session
import BrainHost.Text.Alphanumeric
import BrainHost.Text.Casing
import BrainHost.Text.Identifier
import BrainHost.Text.Line
import BrainHost.Text.Lossy
import BrainHost.Text.Ranges
import BrainHost.World
