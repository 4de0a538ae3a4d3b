import Telemetry.Admin.Listening
import Telemetry.Admin.Routes
import Telemetry.Admin.Wire
import Telemetry.Decimal.Double
import Telemetry.Decimal.Layout
import Telemetry.Decimal.Power
import Telemetry.Decimal.Reading
import Telemetry.Decimal.Shortest
import Telemetry.Declaration.Basic
import Telemetry.Declaration.JsonForm
import Telemetry.Declaration.Loading
import Telemetry.Declaration.Resolution
import Telemetry.Declaration.Shown
import Telemetry.Declaration.Source
import Telemetry.Declaration.Validity
import Telemetry.Error
import Telemetry.Files.Fault
import Telemetry.Files.Path
import Telemetry.Files.Tree
import Telemetry.Host.Endpoint
import Telemetry.Host.Probe
import Telemetry.Host.Snapshot
import Telemetry.Json.Access
import Telemetry.Json.Printer
import Telemetry.Json.Reader
import Telemetry.Json.Typed
import Telemetry.Json.Value
import Telemetry.Layer.Base
import Telemetry.Layer.Environment
import Telemetry.Layer.File
import Telemetry.Layer.KeyPath
import Telemetry.Layer.Node
import Telemetry.Layer.Reading
import Telemetry.Link.Connection
import Telemetry.Link.Dialing
import Telemetry.Link.JsonForm
import Telemetry.Log
import Telemetry.LogFilter
import Telemetry.Main
import Telemetry.Message.Basic
import Telemetry.Message.JsonForm
import Telemetry.Message.Layout
import Telemetry.Metrics
import Telemetry.NameMap
import Telemetry.Net.Authority
import Telemetry.Net.ServerName
import Telemetry.Net.SocketAddress
import Telemetry.Notice.Basic
import Telemetry.Notice.FileEvent
import Telemetry.Notice.FileWatch
import Telemetry.Notice.Watching
import Telemetry.Print.Pipeline
import Telemetry.Print.Together
import Telemetry.Print.Transcript
import Telemetry.Program
import Telemetry.Proofs.Admin.Listing
import Telemetry.Proofs.Declaration.Addresses
import Telemetry.Proofs.Declaration.Choice
import Telemetry.Proofs.Declaration.Normalised
import Telemetry.Proofs.Declaration.Origin
import Telemetry.Proofs.Declaration.Overriding
import Telemetry.Proofs.Declaration.Priority
import Telemetry.Proofs.Declaration.Resolved
import Telemetry.Proofs.Declaration.Secrecy
import Telemetry.Proofs.Declaration.Tables
import Telemetry.Proofs.Declaration.Validated
import Telemetry.Proofs.Declaration.Variables
import Telemetry.Proofs.Interference
import Telemetry.Proofs.Json.Forms
import Telemetry.Proofs.Link.Limits
import Telemetry.Proofs.NameMap
import Telemetry.Proofs.Notice.Coverage
import Telemetry.Proofs.Notice.Delivery
import Telemetry.Proofs.Print.Atomicity
import Telemetry.Proofs.Print.Failures
import Telemetry.Proofs.Print.Formats
import Telemetry.Proofs.Print.LabelledLayout
import Telemetry.Proofs.Print.Refusals
import Telemetry.Proofs.Reconcile.Alignment
import Telemetry.Proofs.Reconcile.Concurrent
import Telemetry.Proofs.Reconcile.Convergence
import Telemetry.Proofs.Reconcile.Ledger
import Telemetry.Proofs.Reconcile.LiveNames
import Telemetry.Proofs.Reconcile.Ownership
import Telemetry.Proofs.Reconcile.Pending
import Telemetry.Proofs.Reconcile.Repetition
import Telemetry.Proofs.Reconcile.Serial
import Telemetry.Proofs.Reconcile.Settlement
import Telemetry.Proofs.Reconcile.Shape
import Telemetry.Proofs.Registry.Agreement
import Telemetry.Proofs.Registry.Entries
import Telemetry.Proofs.Registry.History
import Telemetry.Proofs.Registry.Marking
import Telemetry.Proofs.Registry.Origins
import Telemetry.Proofs.Registry.Outcomes
import Telemetry.Proofs.Registry.PlainMap
import Telemetry.Proofs.Registry.Tracking
import Telemetry.Proofs.Render.EventLines
import Telemetry.Proofs.Render.ReadingBack
import Telemetry.Proofs.Service.Rewriting
import Telemetry.Proofs.Service.Shutdown
import Telemetry.Proofs.Service.Snapshot
import Telemetry.Proofs.Service.Synchrony
import Telemetry.Proofs.Text.Labelling
import Telemetry.Reconcile.InitAct
import Telemetry.Reconcile.Pass
import Telemetry.Reconcile.Reconciler
import Telemetry.Reconcile.Report
import Telemetry.Reconcile.Together
import Telemetry.Reconcile.Tracker
import Telemetry.Record
import Telemetry.Registry.Basic
import Telemetry.Registry.Initialisation
import Telemetry.Registry.Overview
import Telemetry.Render.Document
import Telemetry.Render.Event
import Telemetry.Render.Formatter
import Telemetry.Service.Basic
import Telemetry.Service.Launch
import Telemetry.Service.Shutdown
import Telemetry.Text.Blank
import Telemetry.Text.CodeRange
import Telemetry.Text.CombiningMark
import Telemetry.Text.Hex
import Telemetry.Text.LetterCase
import Telemetry.Text.LetterTable
import Telemetry.Text.Lines
import Telemetry.Text.Outline
import Telemetry.Text.Quoted
import Telemetry.Text.Unprintable
import Telemetry.Text.Utf8
import Telemetry.Toml.Definition
import Telemetry.Toml.Document
import Telemetry.Toml.Lexical
import Telemetry.Toml.Value
import Telemetry.Trust.Armor
import Telemetry.Trust.Base64
import Telemetry.Trust.Certificate
import Telemetry.Trust.Element
import Telemetry.Turns
