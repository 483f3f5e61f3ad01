import FeatureFlow.Action.Accept
import FeatureFlow.Action.Basic
import FeatureFlow.Action.Binding
import FeatureFlow.Action.Output
import FeatureFlow.Action.Registry
import FeatureFlow.Action.Server
import FeatureFlow.Action.Storage
import FeatureFlow.Activity
import FeatureFlow.Contexts
import FeatureFlow.Contract.Basic
import FeatureFlow.Contract.Document
import FeatureFlow.Contract.Route
import FeatureFlow.Dispatch
import FeatureFlow.Engine.Basic
import FeatureFlow.Engine.Run
import FeatureFlow.Engine.Trigger
import FeatureFlow.Event
import FeatureFlow.Execution.Basic
import FeatureFlow.Execution.Run
import FeatureFlow.Expression.Basic
import FeatureFlow.Expression.Document
import FeatureFlow.Expression.Eval
import FeatureFlow.Guard
import FeatureFlow.Host
import FeatureFlow.HostService
import FeatureFlow.Http.Query
import FeatureFlow.Http.Request
import FeatureFlow.Http.Template
import FeatureFlow.Journal
import FeatureFlow.Json.Basic
import FeatureFlow.Json.Printer
import FeatureFlow.Json.Reader
import FeatureFlow.Json.Record
import FeatureFlow.KeyMap
import FeatureFlow.Number.Binary64
import FeatureFlow.Number.Layout
import FeatureFlow.Number.Scaled
import FeatureFlow.Number.Shortest
import FeatureFlow.Process
import FeatureFlow.Qualifier
import FeatureFlow.Regex.Ascii
import FeatureFlow.Regex.Node
import FeatureFlow.Regex.Parser
import FeatureFlow.Regex.Weight
import FeatureFlow.Repository
import FeatureFlow.Response
import FeatureFlow.Schedule
import FeatureFlow.Scope
import FeatureFlow.Services
import FeatureFlow.Settings
import FeatureFlow.Specifier
import FeatureFlow.Statement.Basic
import FeatureFlow.Statement.Document
import FeatureFlow.Text.Blank
import FeatureFlow.Text.Case
import FeatureFlow.Text.CaseTable
import FeatureFlow.Text.Cut
import FeatureFlow.Text.Hex
import FeatureFlow.Text.Numeral
import FeatureFlow.Text.Percent
import FeatureFlow.Text.Utf8
import FeatureFlow.Timestamp
import FeatureFlow.Unicode.Age
import FeatureFlow.Unicode.Break
import FeatureFlow.Unicode.Category
import FeatureFlow.Unicode.CharSet
import FeatureFlow.Unicode.Derived
import FeatureFlow.Unicode.Fold
import FeatureFlow.Unicode.Listed
import FeatureFlow.Unicode.Property
import FeatureFlow.Unicode.Script
import FeatureFlow.Unicode.Shared
import FeatureFlow.Uuid
import FeatureFlow.Value.Basic
import FeatureFlow.Value.Json
import FeatureFlow.Value.Order
import FeatureFlow.Proofs.Levels
import FeatureFlow.Proofs.Ends
import FeatureFlow.Proofs.Registry
import FeatureFlow.Proofs.Failure
import FeatureFlow.Proofs.Runs
import FeatureFlow.Proofs.Outcomes
import FeatureFlow.Proofs.Response
import FeatureFlow.Proofs.Isolation
import FeatureFlow.Proofs.Environments
import FeatureFlow.Proofs.Effects
import FeatureFlow.Proofs.Handling
import FeatureFlow.Proofs.Changes
import FeatureFlow.Proofs.Cascade
import FeatureFlow.Proofs.Startup
import FeatureFlow.Proofs.Wiring
import FeatureFlow.Proofs.Declarations
import FeatureFlow.Proofs.Requests
import FeatureFlow.Proofs.Correspondence
import FeatureFlow.Proofs.Independence
import FeatureFlow.Proofs.Reordering
import FeatureFlow.Proofs.Chronicle
import FeatureFlow.Proofs.Order
import FeatureFlow.Proofs.Causes
import FeatureFlow.Proofs.OrderedMaps
import FeatureFlow.Proofs.Texts
import FeatureFlow.Proofs.Identity
import FeatureFlow.Proofs.Footprint
import FeatureFlow.Proofs.Lookups
import FeatureFlow.Proofs.Doubles
import FeatureFlow.Proofs.Conversions
import FeatureFlow.Proofs.Records
import FeatureFlow.Proofs.Specifiers
import FeatureFlow.Proofs.Documents
import FeatureFlow.Proofs.Blanks
import FeatureFlow.Proofs.Fields
import FeatureFlow.Proofs.Casing
import FeatureFlow.Proofs.Guards
import FeatureFlow.Proofs.Observers
import FeatureFlow.Proofs.Conjunctions
import FeatureFlow.Proofs.Labels
import FeatureFlow.Proofs.Selections
import FeatureFlow.Proofs.Utf8
import FeatureFlow.Proofs.Escapes
import FeatureFlow.Proofs.Templates
import FeatureFlow.Proofs.Queries
import FeatureFlow.Proofs.Diagnosis
import FeatureFlow.Proofs.Publication
import FeatureFlow.Proofs.Responders
import FeatureFlow.Proofs.Choices
import FeatureFlow.Proofs.Deadlines
import FeatureFlow.Proofs.Integers
import FeatureFlow.Proofs.Registrations
import FeatureFlow.Proofs.Repetitions
import FeatureFlow.Proofs.Sorting
