import VideoSurvey.Main
import VideoSurvey.Wizard.Machine
import VideoSurvey.Proofs.Wizard.Operations
import VideoSurvey.Proofs.Wizard.Runs
import VideoSurvey.Proofs.Wizard.Indexing
import VideoSurvey.Proofs.Overlay.Compilation
import VideoSurvey.Proofs.Wizard.Closing
import VideoSurvey.Proofs.Wizard.History
import VideoSurvey.Proofs.Wizard.Independence
import VideoSurvey.Proofs.Wizard.Walk
import VideoSurvey.Proofs.Wizard.Record
import VideoSurvey.Proofs.Template.Filling
import VideoSurvey.Proofs.Overlay.BuiltIn
import VideoSurvey.Proofs.Json.Members
import VideoSurvey.Proofs.Json.Values
import VideoSurvey.Proofs.Json.Tokens
import VideoSurvey.Proofs.Json.RoundTrip
import VideoSurvey.Proofs.Json.Reading
import VideoSurvey.Proofs.Json.Records
import VideoSurvey.Proofs.Json.Keeping
import VideoSurvey.Proofs.Survey.Codec
import VideoSurvey.Proofs.Store.Records
import VideoSurvey.Proofs.Store.Mirror
import VideoSurvey.Proofs.Files.Reopening
import VideoSurvey.Proofs.Files.Changes
import VideoSurvey.Proofs.Store.Agreement
import VideoSurvey.Proofs.Store.Frame
import VideoSurvey.Proofs.Store.Identity
import VideoSurvey.Proofs.Service
import VideoSurvey.Proofs.Command.Documents
import VideoSurvey.Proofs.Overlay.Chain
import VideoSurvey.Proofs.Wizard.Timers
import VideoSurvey.Proofs.Wizard.Completion
import VideoSurvey.Proofs.Overlay.Markup
import VideoSurvey.Proofs.Overlay.Attributes
import VideoSurvey.Proofs.Wizard.HandBack
import VideoSurvey.Proofs.Store.OrderedMap
import VideoSurvey.Proofs.Store.Merging
import VideoSurvey.Proofs.Store.Scripts
import VideoSurvey.Proofs.Store.Interleaving
import VideoSurvey.Proofs.Store.Concurrency
import VideoSurvey.Proofs.Store.Updating
import VideoSurvey.Proofs.Template.Guards
import VideoSurvey.Proofs.Overlay.Fragments
import VideoSurvey.Proofs.Overlay.Activity
import VideoSurvey.Proofs.Overlay.Tracking
import VideoSurvey.Proofs.Wizard.Splitting
import VideoSurvey.Proofs.Wizard.Deadlines
import VideoSurvey.Proofs.Wizard.Arming
import VideoSurvey.Proofs.Overlay.Verdicts
import VideoSurvey.Proofs.Overlay.Rereading
import VideoSurvey.Proofs.Settings.Loading
import VideoSurvey.Proofs.Overlay.Structure
import VideoSurvey.Proofs.Overlay.Steps
import VideoSurvey.Proofs.Command.Grammar
import VideoSurvey.Proofs.Survey.Resolving
import VideoSurvey.Proofs.Template.Orders
import VideoSurvey.Proofs.Text.Families
import VideoSurvey.Proofs.Overlay.Tokens
import VideoSurvey.Proofs.Wizard.Footprint
