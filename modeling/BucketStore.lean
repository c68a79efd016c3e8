import BucketStore.Arguments
import BucketStore.Config.Bucket
import BucketStore.Config.Cause
import BucketStore.Config.Lax
import BucketStore.Config.Settings
import BucketStore.Endpoint.Address
import BucketStore.Endpoint.Authority
import BucketStore.Endpoint.Basic
import BucketStore.Endpoint.Resolve
import BucketStore.Enrichment
import BucketStore.Failure
import BucketStore.FileTree
import BucketStore.Json.Printer
import BucketStore.Json.Reader
import BucketStore.Log.Directory
import BucketStore.Log.LevelName
import BucketStore.Log.LineFormat
import BucketStore.Log.Message
import BucketStore.Log.Output
import BucketStore.Log.Record
import BucketStore.Models
import BucketStore.Number.Real64
import BucketStore.Number.RealText
import BucketStore.Number.Rounding
import BucketStore.Number.Shortest
import BucketStore.Path
import BucketStore.Payload
import BucketStore.Registry
import BucketStore.Schema
import BucketStore.Service.Basic
import BucketStore.Service.Call
import BucketStore.Service.Connection
import BucketStore.Service.Script
import BucketStore.Store.Basic
import BucketStore.Store.Bucket
import BucketStore.Store.Listing
import BucketStore.Store.Object
import BucketStore.Store.Upload
import BucketStore.Tagging
import BucketStore.TaskGroup.Basic
import BucketStore.TaskGroup.Caller
import BucketStore.Template.Basic
import BucketStore.Template.Error
import BucketStore.Template.Format
import BucketStore.Template.Layout
import BucketStore.Template.Part
import BucketStore.Text.Blank
import BucketStore.Text.Case
import BucketStore.Text.CaseTable
import BucketStore.Text.CodePoints
import BucketStore.Text.Digit
import BucketStore.Text.Printable
import BucketStore.Text.Quoted
import BucketStore.Text.Word
import BucketStore.Time.Calendar
import BucketStore.Time.DateTime
import BucketStore.Time.HttpDate
import BucketStore.Time.Rfc3339
import BucketStore.Time.Timestamp
import BucketStore.Value
import BucketStore.ValueType
import BucketStore.Proofs.TaskGroup.Lemmas.Start
import BucketStore.Proofs.TaskGroup.Schedule
import BucketStore.Proofs.TaskGroup.Lemmas.Greedy
import BucketStore.Proofs.TaskGroup.Lemmas.Scheduled
import BucketStore.Proofs.TaskGroup.Lemmas.Invariant
import BucketStore.Proofs.TaskGroup.History
import BucketStore.Proofs.TaskGroup.Lemmas.History
import BucketStore.Proofs.TaskGroup.Theorems
import BucketStore.Proofs.TaskGroup.Lemmas.Exits
import BucketStore.Proofs.TaskGroup.Lemmas.Waits
import BucketStore.Proofs.TaskGroup.ListScheduling
import BucketStore.Proofs.Store.Lemmas.Actions
import BucketStore.Proofs.Store.Lemmas.Effects
import BucketStore.Proofs.Store.Lemmas.Walks
import BucketStore.Proofs.Store.Theorems
import BucketStore.Proofs.Store.Remote
import BucketStore.Proofs.Store.Lemmas.Remote
import BucketStore.Proofs.Enrichment.Lemmas.Files
import BucketStore.Proofs.Enrichment.Lemmas.Fetching
import BucketStore.Proofs.Enrichment.Theorems
import BucketStore.Proofs.Store.Reports
import BucketStore.Proofs.Store.Lemmas.Reports
import BucketStore.Proofs.Store.Lemmas.Contains
import BucketStore.Proofs.Store.Failing
import BucketStore.Proofs.Store.Lemmas.Enriched
import BucketStore.Proofs.Store.Lemmas.Openings
import BucketStore.Proofs.Store.Bound
import BucketStore.Proofs.Endpoint.Lemmas.Missing
import BucketStore.Proofs.Registry.Theorems
import BucketStore.Proofs.Endpoint.Lemmas.HostChars
import BucketStore.Proofs.Endpoint.Lemmas.Authority
import BucketStore.Proofs.Endpoint.Theorems
import BucketStore.Proofs.Endpoint.Written
import BucketStore.Proofs.Store.Guarded
import BucketStore.Proofs.Store.Lemmas.Readable
import BucketStore.Proofs.Store.Lemmas.Guarded
import BucketStore.Proofs.Store.Lemmas.GuardedOperations
import BucketStore.Proofs.Store.Leaks
import BucketStore.Proofs.Config.Lemmas.Records
import BucketStore.Proofs.Config.Theorems
import BucketStore.Proofs.Tagging.Form
import BucketStore.Proofs.Tagging.Lemmas.Form
import BucketStore.Proofs.Tagging.Theorems
import BucketStore.Proofs.Store.Agreement
import BucketStore.Proofs.Store.Lemmas.Extras
import BucketStore.Proofs.Store.HeadAndListing
import BucketStore.Proofs.Time.Lemmas.Calendar
import BucketStore.Proofs.Time.Lemmas.Instants
import BucketStore.Proofs.Text.Lemmas.Splits
import BucketStore.Proofs.Time.Lemmas.Padded
import BucketStore.Proofs.Time.Written
import BucketStore.Proofs.Time.Lemmas.Fields
import BucketStore.Proofs.Time.Lemmas.Blanks
import BucketStore.Proofs.Time.Lemmas.Rendered
import BucketStore.Proofs.Store.Requests
import BucketStore.Proofs.Time.Theorems
import BucketStore.Proofs.Store.Lemmas.Runs
import BucketStore.Proofs.Store.Secrecy
import BucketStore.Proofs.Store.Entries
import BucketStore.Proofs.Store.Lemmas.Fetched
import BucketStore.Proofs.Store.Lemmas.Flags
import BucketStore.Proofs.Store.Pages
import BucketStore.Proofs.Time.Lemmas.Stamps
import BucketStore.Proofs.Time.Stamps
import BucketStore.Proofs.Time.Order
import BucketStore.Proofs.Time.Lemmas.Layouts
import BucketStore.Proofs.Time.Layouts
import BucketStore.Proofs.Time.Overflow
import BucketStore.Proofs.TaskGroup.HigherLimit
import BucketStore.Proofs.TaskGroup.Lemmas.Failures
import BucketStore.Proofs.TaskGroup.FirstFailure
import BucketStore.Proofs.Endpoint.Regions
import BucketStore.Proofs.Endpoint.Lemmas.Addresses
import BucketStore.Proofs.Endpoint.Lemmas.Brackets
import BucketStore.Proofs.Endpoint.Hosts
import BucketStore.Proofs.Store.Uploads
import BucketStore.Proofs.Store.Limits
import BucketStore.Proofs.Store.InTurn
import BucketStore.Proofs.Store.Headers
import BucketStore.Proofs.Endpoint.Buckets
import BucketStore.Proofs.Tagging.Records
import BucketStore.Proofs.Text.Integers
import BucketStore.Proofs.Store.Sizes
import BucketStore.Proofs.Registry.Histories
import BucketStore.Proofs.Text.Lemmas.Letters
import BucketStore.Proofs.Log.Lemmas.Levels
import BucketStore.Proofs.Log.Setup
