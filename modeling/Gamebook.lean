import Gamebook.Analysis.Metrics
import Gamebook.Analysis.Reachability
import Gamebook.Archive
import Gamebook.Archive.Envelope
import Gamebook.Archive.Fault
import Gamebook.Archive.Key
import Gamebook.Archive.Project
import Gamebook.CommandLine.Arguments
import Gamebook.CommandLine.Report
import Gamebook.CommandLine.Token
import Gamebook.Console
import Gamebook.Disk
import Gamebook.Disk.Path
import Gamebook.Entries
import Gamebook.Export.Artifact
import Gamebook.Export.Page
import Gamebook.Export.Player
import Gamebook.Export.Script
import Gamebook.Generation
import Gamebook.Json.Fault
import Gamebook.Json.Printer
import Gamebook.Json.Reader
import Gamebook.Json.Value
import Gamebook.Log
import Gamebook.Main
import Gamebook.Number.Binary64
import Gamebook.Number.Decimal
import Gamebook.Number.Fault
import Gamebook.Number.Numeral
import Gamebook.Number.Power
import Gamebook.Number.Scalar
import Gamebook.Play.Effect
import Gamebook.Play.Engine
import Gamebook.Play.Evaluation
import Gamebook.Play.Session
import Gamebook.Play.State
import Gamebook.Play.Trace
import Gamebook.Proofs.Analysis.Arrival
import Gamebook.Proofs.Analysis.Detached
import Gamebook.Proofs.Analysis.Metrics
import Gamebook.Proofs.Analysis.Reachability
import Gamebook.Proofs.Analysis.Walk
import Gamebook.Proofs.Archive.Damage
import Gamebook.Proofs.Archive.Envelope
import Gamebook.Proofs.Archive.Folder
import Gamebook.Proofs.Archive.Frame
import Gamebook.Proofs.Archive.Interruption
import Gamebook.Proofs.Archive.Key
import Gamebook.Proofs.Archive.Map
import Gamebook.Proofs.Archive.Project
import Gamebook.Proofs.Archive.Refusal
import Gamebook.Proofs.CommandLine.Command
import Gamebook.Proofs.CommandLine.Ending
import Gamebook.Proofs.Console
import Gamebook.Proofs.Console.Typing
import Gamebook.Proofs.Disk
import Gamebook.Proofs.Disk.Path
import Gamebook.Proofs.Disk.Tree
import Gamebook.Proofs.Entries
import Gamebook.Proofs.Export.Artifact
import Gamebook.Proofs.Export.Data
import Gamebook.Proofs.Export.Description
import Gamebook.Proofs.Export.Document
import Gamebook.Proofs.Export.Label
import Gamebook.Proofs.Export.Loading
import Gamebook.Proofs.Export.Page
import Gamebook.Proofs.Export.Passage
import Gamebook.Proofs.Export.Risky
import Gamebook.Proofs.Export.Script
import Gamebook.Proofs.Generation
import Gamebook.Proofs.Generation.AllOrNothing
import Gamebook.Proofs.Generation.Fresh
import Gamebook.Proofs.Json.Distinct
import Gamebook.Proofs.Json.Float
import Gamebook.Proofs.Json.Number
import Gamebook.Proofs.Json.Outline
import Gamebook.Proofs.Json.Parts
import Gamebook.Proofs.Json.ReadNames
import Gamebook.Proofs.Json.ReadParts
import Gamebook.Proofs.Json.RoundTrip
import Gamebook.Proofs.Json.Standard
import Gamebook.Proofs.Json.Text
import Gamebook.Proofs.Json.TooDeep
import Gamebook.Proofs.Json.Whole
import Gamebook.Proofs.Number.Numeral
import Gamebook.Proofs.Number.Overflow
import Gamebook.Proofs.Number.Power
import Gamebook.Proofs.Number.Rounding
import Gamebook.Proofs.Number.Shortest
import Gamebook.Proofs.Play.Binding
import Gamebook.Proofs.Play.Faults
import Gamebook.Proofs.Play.History
import Gamebook.Proofs.Play.Holdings
import Gamebook.Proofs.Play.Independence
import Gamebook.Proofs.Play.Kinds
import Gamebook.Proofs.Play.Magnitude
import Gamebook.Proofs.Play.Numbering
import Gamebook.Proofs.Play.Replay
import Gamebook.Proofs.Play.Resume
import Gamebook.Proofs.Play.Rules
import Gamebook.Proofs.Play.Run
import Gamebook.Proofs.Play.SavedState
import Gamebook.Proofs.Play.Session
import Gamebook.Proofs.Play.SessionRun
import Gamebook.Proofs.Play.Validated
import Gamebook.Proofs.Provider.Backoff
import Gamebook.Proofs.Provider.Failure
import Gamebook.Proofs.Provider.Registration
import Gamebook.Proofs.Provider.Retry
import Gamebook.Proofs.Reply.Layout
import Gamebook.Proofs.Reply.Listing
import Gamebook.Proofs.Reply.Object
import Gamebook.Proofs.Reply.Offer
import Gamebook.Proofs.Reply.Reading
import Gamebook.Proofs.Reply.Scene
import Gamebook.Proofs.Reply.Telling
import Gamebook.Proofs.Reply.Unflagged
import Gamebook.Proofs.Schema.Record
import Gamebook.Proofs.Service.Isolation
import Gamebook.Proofs.Service.Refusal
import Gamebook.Proofs.Service.Session
import Gamebook.Proofs.Story.Change
import Gamebook.Proofs.Story.Document
import Gamebook.Proofs.Story.Editing
import Gamebook.Proofs.Story.Frame
import Gamebook.Proofs.Story.Lookup
import Gamebook.Proofs.Story.Moment
import Gamebook.Proofs.Story.Reading
import Gamebook.Proofs.Story.References
import Gamebook.Proofs.Story.Rule
import Gamebook.Proofs.Story.Schema
import Gamebook.Proofs.Story.Shape
import Gamebook.Proofs.Story.Undo
import Gamebook.Proofs.Story.Written
import Gamebook.Proofs.Text.Blank
import Gamebook.Proofs.Text.Half
import Gamebook.Proofs.Text.Letter
import Gamebook.Proofs.Text.Line
import Gamebook.Proofs.Text.Occurrence
import Gamebook.Proofs.Text.Order
import Gamebook.Proofs.Text.Quoted
import Gamebook.Proofs.Text.Utf8
import Gamebook.Proofs.Validation
import Gamebook.Proofs.Validation.Codes
import Gamebook.Provider.Failure
import Gamebook.Provider.Message
import Gamebook.Provider.Retry
import Gamebook.Reply.Content
import Gamebook.Reply.Lines
import Gamebook.Reply.Object
import Gamebook.Reply.Pattern
import Gamebook.Reply.Reading
import Gamebook.Schema.Checked
import Gamebook.Schema.Lenient
import Gamebook.Schema.Loose
import Gamebook.Schema.Problem
import Gamebook.Service
import Gamebook.Service.Action
import Gamebook.Service.Body
import Gamebook.Service.Encoding
import Gamebook.Service.Response
import Gamebook.Service.Target
import Gamebook.Settings
import Gamebook.Story.Document
import Gamebook.Story.Editing
import Gamebook.Story.Moment
import Gamebook.Story.Project
import Gamebook.Story.Rule
import Gamebook.Text.Blank
import Gamebook.Text.Digit
import Gamebook.Text.Half
import Gamebook.Text.Letter
import Gamebook.Text.Line
import Gamebook.Text.Mark
import Gamebook.Text.Part
import Gamebook.Text.Printable
import Gamebook.Text.Quoted
import Gamebook.Text.Utf8
import Gamebook.Text.Word
import Gamebook.Validation
