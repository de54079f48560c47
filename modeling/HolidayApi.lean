import HolidayApi.Access.AllowList
import HolidayApi.Access.Caller
import HolidayApi.Access.Entry
import HolidayApi.Access.Guard
import HolidayApi.Calendar.Date
import HolidayApi.Calendar.Holiday
import HolidayApi.Calendar.Service
import HolidayApi.Calendar.Store
import HolidayApi.Call.Event
import HolidayApi.Call.Id
import HolidayApi.Call.Policy
import HolidayApi.Call.Registry
import HolidayApi.Call.Session
import HolidayApi.Call.Slot
import HolidayApi.Call.Span
import HolidayApi.Call.Task
import HolidayApi.CommandLine.Grammar
import HolidayApi.CommandLine.Inspection
import HolidayApi.CommandLine.Program
import HolidayApi.Daemon.Filter
import HolidayApi.Daemon.Line
import HolidayApi.Daemon.Parties
import HolidayApi.Daemon.Server
import HolidayApi.Data.Datum
import HolidayApi.Data.Decode
import HolidayApi.Data.Double
import HolidayApi.Data.Json
import HolidayApi.Data.JsonText
import HolidayApi.Fault
import HolidayApi.Main
import HolidayApi.Net.Endpoint
import HolidayApi.Net.Headers
import HolidayApi.Net.Ipv4
import HolidayApi.Net.Ipv6
import HolidayApi.Net.Listener
import HolidayApi.Proofs.Access.Admission
import HolidayApi.Proofs.Access.Merging
import HolidayApi.Proofs.Access.Notation
import HolidayApi.Proofs.Access.Peers
import HolidayApi.Proofs.Access.Resolution
import HolidayApi.Proofs.Access.Rules
import HolidayApi.Proofs.Calendar.Bulk
import HolidayApi.Proofs.Calendar.Calls
import HolidayApi.Proofs.Calendar.Dates
import HolidayApi.Proofs.Calendar.Documents
import HolidayApi.Proofs.Calendar.Indexing
import HolidayApi.Proofs.Calendar.Issuing
import HolidayApi.Proofs.Calendar.Ledger
import HolidayApi.Proofs.Calendar.Listing
import HolidayApi.Proofs.Calendar.Periods
import HolidayApi.Proofs.Calendar.Writes
import HolidayApi.Proofs.Call.Advice
import HolidayApi.Proofs.Call.Alike
import HolidayApi.Proofs.Call.Awaiting
import HolidayApi.Proofs.Call.Chain
import HolidayApi.Proofs.Call.Contents
import HolidayApi.Proofs.Call.Frame
import HolidayApi.Proofs.Call.Legible
import HolidayApi.Proofs.Call.Levels
import HolidayApi.Proofs.Call.Scopes
import HolidayApi.Proofs.Call.Selection
import HolidayApi.Proofs.Call.Slots
import HolidayApi.Proofs.Call.Tally
import HolidayApi.Proofs.Call.Tree
import HolidayApi.Proofs.Call.Warnings
import HolidayApi.Proofs.Daemon.Delivery
import HolidayApi.Proofs.Daemon.Moves
import HolidayApi.Proofs.Data.Blanks
import HolidayApi.Proofs.Data.Decoding
import HolidayApi.Proofs.Data.Literals
import HolidayApi.Proofs.Data.Written
import HolidayApi.Proofs.Net.Dotted
import HolidayApi.Proofs.Net.Spelling
import HolidayApi.Proofs.Settings.Chains
import HolidayApi.Proofs.Settings.DeadEntries
import HolidayApi.Proofs.Settings.Rereading
import HolidayApi.Proofs.Settings.Verdicts
import HolidayApi.Proofs.Settings.Violations
import HolidayApi.Proofs.Stop.Receiving
import HolidayApi.Proofs.Text.Digits
import HolidayApi.Proofs.Text.Encoding
import HolidayApi.Proofs.Web.BodyLimit
import HolidayApi.Proofs.Web.Correlation
import HolidayApi.Proofs.Web.Effects
import HolidayApi.Proofs.Web.Identity
import HolidayApi.Proofs.Web.Metering
import HolidayApi.Proofs.Web.Plans
import HolidayApi.Proofs.Web.Refusals
import HolidayApi.Proofs.Web.Severity
import HolidayApi.Proofs.Web.Tracing
import HolidayApi.Proofs.Web.Wire
import HolidayApi.Proofs.Web.WriteGuard
import HolidayApi.Settings.Basic
import HolidayApi.Settings.Check
import HolidayApi.Settings.Report
import HolidayApi.Stop.Channel
import HolidayApi.Stop.Signal
import HolidayApi.Text.Alphanumeric
import HolidayApi.Text.Blank
import HolidayApi.Text.Hidden
import HolidayApi.Text.Numeral
import HolidayApi.Text.Pattern
import HolidayApi.Text.Percent
import HolidayApi.Text.Quoted
import HolidayApi.Text.Ranges
import HolidayApi.Text.Split
import HolidayApi.Text.Utf8
import HolidayApi.Toml.Document
import HolidayApi.Toml.Scalar
import HolidayApi.Toml.Table
import HolidayApi.Web.Application
import HolidayApi.Web.MediaType
import HolidayApi.Web.Message
import HolidayApi.Web.Operations
import HolidayApi.Web.Route
