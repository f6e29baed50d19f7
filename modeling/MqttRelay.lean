import MqttRelay.Assoc
import MqttRelay.Client.Clock
import MqttRelay.Client.Config
import MqttRelay.Client.Creation
import MqttRelay.Client.Operations
import MqttRelay.Client.Shared
import MqttRelay.Client.State
import MqttRelay.Client.System
import MqttRelay.Command
import MqttRelay.Command.Arguments
import MqttRelay.Command.Invocation
import MqttRelay.Command.Watch
import MqttRelay.Event.Key
import MqttRelay.Event.Notice
import MqttRelay.Event.Payload
import MqttRelay.Failure
import MqttRelay.Identity
import MqttRelay.Log.Filter
import MqttRelay.Log.Level
import MqttRelay.Main
import MqttRelay.Metrics
import MqttRelay.Native.Adapter
import MqttRelay.Native.Connection
import MqttRelay.Native.Fault
import MqttRelay.Native.Recorder
import MqttRelay.Native.Request
import MqttRelay.Native.Script
import MqttRelay.Native.Wire
import MqttRelay.Options
import MqttRelay.Proofs.Assoc
import MqttRelay.Proofs.Client.Abandonments
import MqttRelay.Proofs.Client.Accounting
import MqttRelay.Proofs.Client.AccountingTasks
import MqttRelay.Proofs.Client.Accounts
import MqttRelay.Proofs.Client.Acknowledged
import MqttRelay.Proofs.Client.Agreement
import MqttRelay.Proofs.Client.Attempts
import MqttRelay.Proofs.Client.Attendance
import MqttRelay.Proofs.Client.Bookkeeping
import MqttRelay.Proofs.Client.Budget
import MqttRelay.Proofs.Client.Callbacks
import MqttRelay.Proofs.Client.Composing
import MqttRelay.Proofs.Client.ComposingTasks
import MqttRelay.Proofs.Client.Constructions
import MqttRelay.Proofs.Client.Courses
import MqttRelay.Proofs.Client.Cycle
import MqttRelay.Proofs.Client.Deeds
import MqttRelay.Proofs.Client.Delivery
import MqttRelay.Proofs.Client.Elsewhere
import MqttRelay.Proofs.Client.ElsewhereTasks
import MqttRelay.Proofs.Client.Endings
import MqttRelay.Proofs.Client.Enrolments
import MqttRelay.Proofs.Client.Finality
import MqttRelay.Proofs.Client.Generation
import MqttRelay.Proofs.Client.Handover
import MqttRelay.Proofs.Client.Hearing
import MqttRelay.Proofs.Client.Homes
import MqttRelay.Proofs.Client.Identifiers
import MqttRelay.Proofs.Client.Independence
import MqttRelay.Proofs.Client.Initialization
import MqttRelay.Proofs.Client.Orderly
import MqttRelay.Proofs.Client.Overrides
import MqttRelay.Proofs.Client.Pieces
import MqttRelay.Proofs.Client.Realm
import MqttRelay.Proofs.Client.Reasons
import MqttRelay.Proofs.Client.Refusals
import MqttRelay.Proofs.Client.Removal
import MqttRelay.Proofs.Client.Retries
import MqttRelay.Proofs.Client.Reuse
import MqttRelay.Proofs.Client.Roster
import MqttRelay.Proofs.Client.Session
import MqttRelay.Proofs.Client.Sharing
import MqttRelay.Proofs.Client.Stages
import MqttRelay.Proofs.Client.Staying
import MqttRelay.Proofs.Client.StayingTasks
import MqttRelay.Proofs.Client.Subscribers
import MqttRelay.Proofs.Client.Succession
import MqttRelay.Proofs.Client.Supersession
import MqttRelay.Proofs.Client.TakenBack
import MqttRelay.Proofs.Client.Tasks
import MqttRelay.Proofs.Client.Tending
import MqttRelay.Proofs.Client.Work
import MqttRelay.Proofs.Event.Name
import MqttRelay.Proofs.Event.Ownership
import MqttRelay.Proofs.History
import MqttRelay.Proofs.Native.Acknowledgements
import MqttRelay.Proofs.Native.Attachment
import MqttRelay.Proofs.Native.Backing
import MqttRelay.Proofs.Native.Counting
import MqttRelay.Proofs.Native.Grants
import MqttRelay.Proofs.Native.Known
import MqttRelay.Proofs.Native.Lateness
import MqttRelay.Proofs.Native.Layout
import MqttRelay.Proofs.Native.Outcomes
import MqttRelay.Proofs.Native.Pairing
import MqttRelay.Proofs.Native.Publishing
import MqttRelay.Proofs.Native.Recording
import MqttRelay.Proofs.Native.Resubscription
import MqttRelay.Proofs.Native.Run
import MqttRelay.Proofs.Native.Tracking
import MqttRelay.Proofs.Redaction.Borders
import MqttRelay.Proofs.Redaction.Findings
import MqttRelay.Proofs.Redaction.Leaks
import MqttRelay.Proofs.Redaction.Masking
import MqttRelay.Proofs.Redaction.Scanning
import MqttRelay.Proofs.Retry.Ascent
import MqttRelay.Proofs.Retry.Delay
import MqttRelay.Proofs.Retry.Jitter
import MqttRelay.Proofs.Router.Changes
import MqttRelay.Proofs.Router.Emission
import MqttRelay.Proofs.Router.Handles
import MqttRelay.Proofs.Router.Listeners
import MqttRelay.Proofs.Router.Listening
import MqttRelay.Proofs.Router.Places
import MqttRelay.Proofs.Router.Tidiness
import MqttRelay.Proofs.Router.Totals
import MqttRelay.Proofs.Router.Turns
import MqttRelay.Proofs.Scenario.Abiding
import MqttRelay.Proofs.Scenario.Closed
import MqttRelay.Proofs.Scenario.Pieces
import MqttRelay.Proofs.Scenario.Sharing
import MqttRelay.Proofs.Settings.Written
import MqttRelay.Proofs.Toml.Document
import MqttRelay.Proofs.Toml.Spelling
import MqttRelay.Proofs.Toml.Values
import MqttRelay.Proofs.Topic.Filter
import MqttRelay.Proofs.Topic.Ledger
import MqttRelay.Proofs.Topic.Table
import MqttRelay.Proofs.Url.Server
import MqttRelay.Proofs.Value.Record
import MqttRelay.Proofs.Value.Restored
import MqttRelay.Qos
import MqttRelay.ReasonCode
import MqttRelay.Redaction
import MqttRelay.Retry.Backoff
import MqttRelay.Retry.Policy
import MqttRelay.Router
import MqttRelay.Router.Dispatch
import MqttRelay.Router.Script
import MqttRelay.Scenario.Report
import MqttRelay.Scenario.Run
import MqttRelay.Scenario.Step
import MqttRelay.Settings
import MqttRelay.Settings.Source
import MqttRelay.Status
import MqttRelay.Text.Blank
import MqttRelay.Text.CaseTable
import MqttRelay.Text.Digits
import MqttRelay.Text.EscapeTable
import MqttRelay.Text.Lower
import MqttRelay.Text.Quoted
import MqttRelay.Text.Split
import MqttRelay.Text.Utf8
import MqttRelay.Toml.Document
import MqttRelay.Toml.Number
import MqttRelay.Toml.Table
import MqttRelay.Toml.Text
import MqttRelay.Topic.Filter
import MqttRelay.Topic.Table
import MqttRelay.Url
import MqttRelay.Url.Address
import MqttRelay.Url.Domain
import MqttRelay.Url.DomainTable
import MqttRelay.Value
import MqttRelay.Value.Decode
