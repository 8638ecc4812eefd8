import WorkflowEditor.Category
import WorkflowEditor.Command.Arguments
import WorkflowEditor.Command.Program
import WorkflowEditor.Connection
import WorkflowEditor.Edge
import WorkflowEditor.Feed
import WorkflowEditor.Graph.Basic
import WorkflowEditor.Graph.Editing
import WorkflowEditor.Graph.Store
import WorkflowEditor.Graph.Topology
import WorkflowEditor.Http.Client
import WorkflowEditor.Http.Url
import WorkflowEditor.Http.Wire
import WorkflowEditor.Id
import WorkflowEditor.Instant
import WorkflowEditor.Json.Basic
import WorkflowEditor.Json.Parser
import WorkflowEditor.Json.Printer
import WorkflowEditor.Json.Reading
import WorkflowEditor.Json.Token
import WorkflowEditor.Kind.Basic
import WorkflowEditor.Kind.Configuration
import WorkflowEditor.Main
import WorkflowEditor.Node
import WorkflowEditor.Number.Double
import WorkflowEditor.Number.Shortest
import WorkflowEditor.Palette
import WorkflowEditor.Proofs.Basic
import WorkflowEditor.Proofs.Category
import WorkflowEditor.Proofs.Command.Acceptance
import WorkflowEditor.Proofs.Command.Course
import WorkflowEditor.Proofs.Connection
import WorkflowEditor.Proofs.Connection.Planning
import WorkflowEditor.Proofs.Dialogue
import WorkflowEditor.Proofs.Dialogue.Alike
import WorkflowEditor.Proofs.Edge
import WorkflowEditor.Proofs.Graph.Batch
import WorkflowEditor.Proofs.Graph.Commuting
import WorkflowEditor.Proofs.Graph.Comparable
import WorkflowEditor.Proofs.Graph.Dropping
import WorkflowEditor.Proofs.Graph.Each
import WorkflowEditor.Proofs.Graph.Editing
import WorkflowEditor.Proofs.Graph.Filling
import WorkflowEditor.Proofs.Graph.Minting
import WorkflowEditor.Proofs.Graph.Neighbours
import WorkflowEditor.Proofs.Graph.Publishing
import WorkflowEditor.Proofs.Graph.Rebuilding
import WorkflowEditor.Proofs.Graph.Removing
import WorkflowEditor.Proofs.Graph.Shared
import WorkflowEditor.Proofs.Graph.Tools
import WorkflowEditor.Proofs.Graph.WellFormed
import WorkflowEditor.Proofs.Http.Address
import WorkflowEditor.Proofs.Http.Content
import WorkflowEditor.Proofs.Http.Encoding
import WorkflowEditor.Proofs.Http.Path
import WorkflowEditor.Proofs.Http.Recording
import WorkflowEditor.Proofs.Json.Canonical
import WorkflowEditor.Proofs.Json.Members
import WorkflowEditor.Proofs.Json.Reading
import WorkflowEditor.Proofs.Json.RoundTrip
import WorkflowEditor.Proofs.Json.Spelling
import WorkflowEditor.Proofs.Json.Token
import WorkflowEditor.Proofs.Json.WellFormed
import WorkflowEditor.Proofs.Node
import WorkflowEditor.Proofs.Number.Whole
import WorkflowEditor.Proofs.Position
import WorkflowEditor.Proofs.Repository
import WorkflowEditor.Proofs.Repository.Alike
import WorkflowEditor.Proofs.Repository.Copies
import WorkflowEditor.Proofs.Repository.Creating
import WorkflowEditor.Proofs.Repository.Merging
import WorkflowEditor.Proofs.Repository.Reading
import WorkflowEditor.Proofs.Run.Answer
import WorkflowEditor.Proofs.Run.Course
import WorkflowEditor.Proofs.Session.Adoption
import WorkflowEditor.Proofs.Session.Agreement
import WorkflowEditor.Proofs.Session.Confirmation
import WorkflowEditor.Proofs.Session.Contents
import WorkflowEditor.Proofs.Session.Course
import WorkflowEditor.Proofs.Session.Creation
import WorkflowEditor.Proofs.Session.Effect
import WorkflowEditor.Proofs.Session.Failure
import WorkflowEditor.Proofs.Session.FirstSave
import WorkflowEditor.Proofs.Session.Identity
import WorkflowEditor.Proofs.Session.Noninterference
import WorkflowEditor.Proofs.Session.Opening
import WorkflowEditor.Proofs.Session.RoundTrip
import WorkflowEditor.Proofs.Session.WellFormed
import WorkflowEditor.Proofs.Stages
import WorkflowEditor.Proofs.Text.Trimming
import WorkflowEditor.Proofs.Workflow.Body
import WorkflowEditor.Proofs.Workflow.Comparable
import WorkflowEditor.Proofs.Workflow.Each
import WorkflowEditor.Proofs.Workflow.Grammar
import WorkflowEditor.Proofs.Workflow.Payload
import WorkflowEditor.Proofs.Workflow.RoundTrip
import WorkflowEditor.Proofs.Workflow.Shared
import WorkflowEditor.Registry
import WorkflowEditor.Report
import WorkflowEditor.Repository
import WorkflowEditor.Repository.History
import WorkflowEditor.Run.Sequence
import WorkflowEditor.Run.State
import WorkflowEditor.Service.Dialogue
import WorkflowEditor.Service.Envelope
import WorkflowEditor.Service.Error
import WorkflowEditor.Service.History
import WorkflowEditor.Session
import WorkflowEditor.Session.History
import WorkflowEditor.Settings.Basic
import WorkflowEditor.Settings.Environment
import WorkflowEditor.Settings.File
import WorkflowEditor.Settings.Value
import WorkflowEditor.Stamp
import WorkflowEditor.Text.Blank
import WorkflowEditor.Text.Quoted
import WorkflowEditor.Text.Visible
import WorkflowEditor.Toml.Basic
import WorkflowEditor.Toml.Document
import WorkflowEditor.Toml.Scalar
import WorkflowEditor.Toml.Token
import WorkflowEditor.Workflow.Basic
import WorkflowEditor.Workflow.Payload
