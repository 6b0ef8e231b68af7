import Scratchpad.CommandLine.Arguments
import Scratchpad.CommandLine.Options
import Scratchpad.CommandLine.Session
import Scratchpad.Decimal.Binary
import Scratchpad.Decimal.Integral
import Scratchpad.Decimal.Places
import Scratchpad.Decimal.Reading
import Scratchpad.Decimal.Shortest
import Scratchpad.Failure
import Scratchpad.Guest.Image
import Scratchpad.Guest.Limiter
import Scratchpad.Guest.Program
import Scratchpad.Guest.Run
import Scratchpad.Interpreter.Embedded
import Scratchpad.Interpreter.Lifecycle
import Scratchpad.Interpreter.SourceRun
import Scratchpad.Interpreter.Stage
import Scratchpad.Json.Fault
import Scratchpad.Json.Reader
import Scratchpad.Json.Value
import Scratchpad.Json.Writer
import Scratchpad.Language
import Scratchpad.Main
import Scratchpad.Playground.Panel
import Scratchpad.Playground.Runner
import Scratchpad.Remote.Service
import Scratchpad.Reply
import Scratchpad.Script.Access
import Scratchpad.Script.Assignment
import Scratchpad.Script.Calls
import Scratchpad.Script.Classes
import Scratchpad.Script.Completion
import Scratchpad.Script.Console
import Scratchpad.Script.Conversion
import Scratchpad.Script.Engine
import Scratchpad.Script.Eval
import Scratchpad.Script.Evaluation
import Scratchpad.Script.Expressions
import Scratchpad.Script.Fault
import Scratchpad.Script.Handover
import Scratchpad.Script.Iteration
import Scratchpad.Script.Lexer
import Scratchpad.Script.Library.Addresses
import Scratchpad.Script.Library.Arguments
import Scratchpad.Script.Library.Arrays
import Scratchpad.Script.Library.Collections
import Scratchpad.Script.Library.Errors
import Scratchpad.Script.Library.Functions
import Scratchpad.Script.Library.Iterators
import Scratchpad.Script.Library.JsonText
import Scratchpad.Script.Library.JsonValues
import Scratchpad.Script.Library.Mathematics
import Scratchpad.Script.Library.Natives
import Scratchpad.Script.Library.Numbers
import Scratchpad.Script.Library.Objects
import Scratchpad.Script.Library.Promises
import Scratchpad.Script.Library.Sorting
import Scratchpad.Script.Library.Symbols
import Scratchpad.Script.Library.Texts
import Scratchpad.Script.Machine
import Scratchpad.Script.Memory
import Scratchpad.Script.Names
import Scratchpad.Script.Native
import Scratchpad.Script.Numeral
import Scratchpad.Script.Object
import Scratchpad.Script.Operator
import Scratchpad.Script.Parser.Classes
import Scratchpad.Script.Parser.Functions
import Scratchpad.Script.Parser.Grammar
import Scratchpad.Script.Parser.Names
import Scratchpad.Script.Parser.Operators
import Scratchpad.Script.Parser.Patterns
import Scratchpad.Script.Parser.Primary
import Scratchpad.Script.Parser.Programs
import Scratchpad.Script.Parser.State
import Scratchpad.Script.Parser.Statements
import Scratchpad.Script.Parts
import Scratchpad.Script.Patterns
import Scratchpad.Script.Realm
import Scratchpad.Script.Snippet
import Scratchpad.Script.Standard
import Scratchpad.Script.Statements
import Scratchpad.Script.Syntax
import Scratchpad.Script.Token
import Scratchpad.Script.Value
import Scratchpad.Settings
import Scratchpad.Text.Blank
import Scratchpad.Text.Case
import Scratchpad.Text.Letters
import Scratchpad.Text.Lines
import Scratchpad.Text.Quoted
import Scratchpad.Text.Ranges
import Scratchpad.Text.Units
import Scratchpad.Text.Utf8
import Scratchpad.TimeSpan
import Scratchpad.Traceback
import Scratchpad.Transcript.Handles
import Scratchpad.Proofs.Text.Lines
import Scratchpad.Proofs.Playground.EmbeddedRun
import Scratchpad.Playground.History
import Scratchpad.Proofs.Playground.LatestRun
import Scratchpad.Proofs.Remote.LoadingFlag
import Scratchpad.Playground.Callers
import Scratchpad.Proofs.Playground.SharedLoad
import Scratchpad.Json.Spelling
import Scratchpad.Proofs.Json.Spelling
import Scratchpad.Proofs.Json.Table
import Scratchpad.Proofs.Remote.Replies
import Scratchpad.Proofs.Json.Writing
import Scratchpad.Proofs.Remote.RoundTrip
import Scratchpad.Proofs.Text.Utf8
import Scratchpad.Guest.Schedule
import Scratchpad.Proofs.Guest.Deadlines
import Scratchpad.Script.Step
import Scratchpad.Script.Walker
import Scratchpad.Proofs.Script.Conversions
import Scratchpad.Proofs.Script.ConsoleCalls
import Scratchpad.Proofs.Script.ConsoleCapture
import Scratchpad.Proofs.Script.LostLines
import Scratchpad.Guest.Requests
import Scratchpad.Proofs.Guest.ZeroExit
import Scratchpad.Playground.Overlap
import Scratchpad.Proofs.Playground.StreamedRuns
import Scratchpad.Proofs.Playground.LastFinish
import Scratchpad.Guest.Conduct
import Scratchpad.Proofs.Guest.Conduct
import Scratchpad.Proofs.Guest.Overrun
import Scratchpad.Proofs.Guest.Attribution
import Scratchpad.Proofs.Guest.Ceilings
import Scratchpad.Proofs.Remote.RunControl
import Scratchpad.Proofs.Text.Trimming
import Scratchpad.Proofs.Traceback.ExceptionLines
import Scratchpad.Proofs.Traceback.LastException
import Scratchpad.Proofs.CommandLine.OneRun
import Scratchpad.Script.Runners
import Scratchpad.Proofs.Script.TwoRunners
import Scratchpad.Proofs.Script.ThrownValues
import Scratchpad.Proofs.Text.Joining
import Scratchpad.Proofs.Traceback.ClassNames
import Scratchpad.Proofs.Traceback.QualifiedNames
import Scratchpad.Proofs.Traceback.Reread
import Scratchpad.Proofs.Traceback.Printouts
import Scratchpad.Proofs.Playground.ReadyRuns
import Scratchpad.Proofs.Guest.LimitedGrowth
import Scratchpad.Transcript.Families
import Scratchpad.Proofs.Transcript.SharedTranscripts
import Scratchpad.Text.LossyReading
import Scratchpad.Proofs.Text.LossyReading
import Scratchpad.Proofs.Text.CutTexts
import Scratchpad.Proofs.Guest.CapturedStreams
