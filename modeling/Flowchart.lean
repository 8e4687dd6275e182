import Flowchart.Binary64.Basic
import Flowchart.Blocks.Branching
import Flowchart.Blocks.Calculation
import Flowchart.Blocks.Condition
import Flowchart.Blocks.Extraction
import Flowchart.Blocks.Replacement
import Flowchart.Blocks.Request
import Flowchart.Blocks.Standard
import Flowchart.Blocks.TextTransform
import Flowchart.Blocks.Wait
import Flowchart.Clock
import Flowchart.Command.Arguments
import Flowchart.Command.Basic
import Flowchart.Command.Example
import Flowchart.Command.Fault
import Flowchart.Command.Listener
import Flowchart.Command.Report
import Flowchart.Decimal.Layout
import Flowchart.Decimal.Read
import Flowchart.Decimal.Shortest
import Flowchart.Dictionary
import Flowchart.Encoding.Utf
import Flowchart.Encoding.Basic
import Flowchart.Encoding.ByteTable
import Flowchart.Engine
import Flowchart.Event.Basic
import Flowchart.Event.Bus
import Flowchart.Graph.Fault
import Flowchart.Graph.Index
import Flowchart.Handler.Basic
import Flowchart.Handler.Settings
import Flowchart.Http.Call
import Flowchart.Http.Client
import Flowchart.Http.Field
import Flowchart.Http.Message
import Flowchart.Identifier
import Flowchart.Instant.Basic
import Flowchart.Instant.Text
import Flowchart.Json.Decoder
import Flowchart.Json.Document
import Flowchart.Json.Fault
import Flowchart.Json.Path
import Flowchart.Json.Print
import Flowchart.Json.Reader
import Flowchart.Json.Token
import Flowchart.Json.Value
import Flowchart.Limits
import Flowchart.Main
import Flowchart.Pattern.Basic
import Flowchart.Pattern.Bracket
import Flowchart.Pattern.Candidates
import Flowchart.Pattern.Escape
import Flowchart.Pattern.Expression
import Flowchart.Pattern.Fault
import Flowchart.Pattern.Meaning
import Flowchart.Pattern.Parser
import Flowchart.Pattern.Program
import Flowchart.Pattern.Reader
import Flowchart.Pattern.Search
import Flowchart.Pattern.Size
import Flowchart.Pattern.Tree
import Flowchart.Proofs.Run.Clock
import Flowchart.Proofs.Command.Example
import Flowchart.Proofs.Graph.Construction
import Flowchart.Proofs.Refusal
import Flowchart.Proofs.Run.Entry
import Flowchart.Proofs.Run.Execution
import Flowchart.Proofs.Run.Interruption
import Flowchart.Proofs.Run.Record
import Flowchart.Proofs.Run.Trace
import Flowchart.Proofs.Run.Visits
import Flowchart.Record
import Flowchart.Registry
import Flowchart.Run.Trail
import Flowchart.Run.Walk
import Flowchart.Schedule
import Flowchart.Step
import Flowchart.Text.Blank
import Flowchart.Text.Case
import Flowchart.Text.CharSet
import Flowchart.Text.Quoted
import Flowchart.Text.Search
import Flowchart.Unicode.AgeTable
import Flowchart.Unicode.BreakTable
import Flowchart.Unicode.CaseTable
import Flowchart.Unicode.CategoryTable
import Flowchart.Unicode.ExtensionTable
import Flowchart.Unicode.Property
import Flowchart.Unicode.PropertyTable
import Flowchart.Unicode.ScriptTable
import Flowchart.Url.Address
import Flowchart.Url.Basic
import Flowchart.Url.Domain
import Flowchart.Url.Parser
import Flowchart.Url.Percent
import Flowchart.Url.Punycode
import Flowchart.Url.Reference
import Flowchart.Variables.Json
import Flowchart.Variables.Store
import Flowchart.Workflow.Basic
import Flowchart.Workflow.Json
import Flowchart.Xml.Element
import Flowchart.Xml.Entity
import Flowchart.Xml.Fault
import Flowchart.Xml.Path
import Flowchart.Xml.Tag
import Flowchart.Xml.Token
import Flowchart.Proofs.Graph.Reachability
import Flowchart.Proofs.Run.Completion
import Flowchart.Proofs.Run.Narration
import Flowchart.Proofs.Run.StepLimit
import Flowchart.Proofs.Blocks.Standard
import Flowchart.Proofs.Run.TimedSteps
import Flowchart.Proofs.Run.TimeLimit
import Flowchart.Proofs.Variables.Dictionary
import Flowchart.Proofs.Variables.Store
import Flowchart.Proofs.Variables.Lookup
import Flowchart.Proofs.Blocks.Footprint
import Flowchart.Proofs.Run.Frame
import Flowchart.Proofs.Blocks.Likeness
import Flowchart.Proofs.Run.Likeness
import Flowchart.Proofs.Run.Repetition
import Flowchart.Proofs.Run.Renaming
import Flowchart.Proofs.Run.Rearrangement
import Flowchart.Proofs.Instant.Count
import Flowchart.Proofs.Schedule.Due
import Flowchart.Proofs.Schedule.Polls
import Flowchart.Proofs.Run.CycleFree
import Flowchart.Proofs.Run.InputOrder
import Flowchart.Proofs.Decimal.Whole
import Flowchart.Proofs.Blocks.Loop
import Flowchart.Proofs.Run.Passage
import Flowchart.Proofs.Run.LoopNest
import Flowchart.Proofs.Run.NestedLoops
import Flowchart.Proofs.Blocks.Settings
import Flowchart.Proofs.Blocks.Refused
import Flowchart.Proofs.Json.Outcome
import Flowchart.Proofs.Json.Compact
import Flowchart.Proofs.Settings.Spelling
import Flowchart.Proofs.Settings.NormalForm
import Flowchart.Proofs.Settings.Fields
import Flowchart.Proofs.Settings.Texts
import Flowchart.Proofs.Json.Restores
import Flowchart.Proofs.Json.Records
import Flowchart.Proofs.Json.Thinned
import Flowchart.Proofs.Documents
import Flowchart.Proofs.Text.Blank
import Flowchart.Proofs.Variables.Names
import Flowchart.Proofs.Blocks.Rounds
import Flowchart.Proofs.Text.Search
import Flowchart.Proofs.Pattern.Escape
import Flowchart.Proofs.Pattern.Literal
import Flowchart.Proofs.Blocks.Replacement
import Flowchart.Proofs.Command.Listener
import Flowchart.Proofs.Command.Report
import Flowchart.Proofs.Schedule.Daily
import Flowchart.Proofs.Json.Path
import Flowchart.Proofs.Json.Location
import Flowchart.Proofs.Xml.Address
import Flowchart.Proofs.Xml.Matches
import Flowchart.Proofs.Xml.Path
import Flowchart.Proofs.Xml.Source
import Flowchart.Proofs.Binary64.Rounding
import Flowchart.Proofs.Decimal.Shortest
import Flowchart.Proofs.Json.Numbers
import Flowchart.Proofs.Json.Doubles
import Flowchart.Proofs.Json.NumberTexts
import Flowchart.Proofs.Json.Part
import Flowchart.Proofs.Json.Reread
import Flowchart.Proofs.Blocks.Extraction
import Flowchart.Proofs.Blocks.Mappings
import Flowchart.Proofs.Xml.Entity
import Flowchart.Proofs.Xml.Stream
import Flowchart.Proofs.Xml.Tag
import Flowchart.Proofs.Xml.Written
import Flowchart.Proofs.Graph.Choice
import Flowchart.Proofs.Variables.Template
import Flowchart.Proofs.Blocks.Response
import Flowchart.Proofs.Http.Fields
import Flowchart.Proofs.Blocks.RequestFields
import Flowchart.Proofs.Decimal.Interval
import Flowchart.Proofs.Decimal.Plain
import Flowchart.Proofs.Variables.Numbers
import Flowchart.Proofs.Binary64.Overflow
import Flowchart.Proofs.Blocks.Calculation
import Flowchart.Proofs.Run.Calculations
import Flowchart.Proofs.Run.Switch
import Flowchart.Proofs.Decimal.Spelling
import Flowchart.Proofs.Blocks.Condition
import Flowchart.Proofs.Run.Condition
import Flowchart.Proofs.Blocks.Limits
import Flowchart.Proofs.Event.Bus
import Flowchart.Proofs.Run.Broadcast
import Flowchart.Proofs.Run.LoopCounter
import Flowchart.Proofs.Run.Recording
