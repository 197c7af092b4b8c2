import FileTriage.CommandLine.Arguments
import FileTriage.CommandLine.Run
import FileTriage.Configuration
import FileTriage.Data.Decimal
import FileTriage.Data.Decoding
import FileTriage.Data.Json.Reader
import FileTriage.Data.Json.Writer
import FileTriage.Data.Toml.Number
import FileTriage.Data.Toml.Reader
import FileTriage.Data.Toml.Table
import FileTriage.Data.Toml.Text
import FileTriage.Data.Toml.Writer
import FileTriage.Data.Value
import FileTriage.Definitions.Basic
import FileTriage.Definitions.Format
import FileTriage.Definitions.Manager
import FileTriage.Definitions.Reconcile
import FileTriage.Definitions.Standard
import FileTriage.Definitions.Store
import FileTriage.Disk.Basic
import FileTriage.Disk.Change
import FileTriage.Disk.Entry
import FileTriage.File
import FileTriage.File.Form
import FileTriage.Job.Filter
import FileTriage.Job.Hit
import FileTriage.Job.Run
import FileTriage.Job.Settings
import FileTriage.Job.Table
import FileTriage.Job.Worker
import FileTriage.Log.Event
import FileTriage.Log.Level
import FileTriage.Main
import FileTriage.Mime
import FileTriage.Mime.Types
import FileTriage.NameMap
import FileTriage.Path
import FileTriage.Regex
import FileTriage.Regex.Matching
import FileTriage.Regex.Parser
import FileTriage.Regex.Pattern
import FileTriage.Regex.Size
import FileTriage.Regex.Syntax
import FileTriage.Report.Summary
import FileTriage.Report.Text
import FileTriage.Rules.Condition
import FileTriage.Rules.FilesSet
import FileTriage.Rules.Form
import FileTriage.Rules.Kind
import FileTriage.Rules.Matcher
import FileTriage.Rules.Rule
import FileTriage.Scan
import FileTriage.Selection.Basic
import FileTriage.Selection.Glob
import FileTriage.Text.Blank
import FileTriage.Text.Lower
import FileTriage.Text.Utf8
import FileTriage.Time.Calendar
import FileTriage.Time.Instant
import FileTriage.Unicode.Case
import FileTriage.Unicode.Category
import FileTriage.Unicode.CodePoints
import FileTriage.Unicode.Property
import FileTriage.Unicode.Script
import FileTriage.Proofs.Definitions.FreeKey
import FileTriage.Proofs.Definitions.Accounting
import FileTriage.Proofs.Definitions.Basic
import FileTriage.Proofs.Definitions.Reconcile
import FileTriage.Proofs.Definitions.Placement
import FileTriage.Proofs.Definitions.Idempotence
import FileTriage.Proofs.Definitions.Upgrades
import FileTriage.Proofs.Text.Utf8
import FileTriage.Proofs.Toml.Assembly
import FileTriage.Proofs.Toml.RoundTrip
import FileTriage.Proofs.Data.Decoding
import FileTriage.Proofs.Definitions.TomlRoundTrip
import FileTriage.Proofs.Definitions.Saving
import FileTriage.Proofs.Definitions.Shipped
import FileTriage.Proofs.Definitions.ShippedDocument
import FileTriage.Proofs.Definitions.Startup
import FileTriage.Proofs.Disk.Entry
import FileTriage.Proofs.Disk.Replace
import FileTriage.Proofs.Job.Crew
import FileTriage.Proofs.Job.Schedule
import FileTriage.Proofs.Job.Snapshots
import FileTriage.Proofs.Job.Table
import FileTriage.Proofs.Job.Worker
import FileTriage.Proofs.Job.Restoration
import FileTriage.Proofs.Job.Posting
import FileTriage.Proofs.Json.Strings
import FileTriage.Proofs.Json.Numbers
import FileTriage.Proofs.Json.RoundTrip
import FileTriage.Proofs.Definitions.Formats
import FileTriage.Proofs.Definitions.JsonRoundTrip
import FileTriage.Proofs.Toml.Integers
import FileTriage.Proofs.Rules.Sizes
import FileTriage.Proofs.Definitions.Importing
import FileTriage.Proofs.Definitions.Intermediate
import FileTriage.Proofs.Rules.Building
import FileTriage.Proofs.Rules.Edits
import FileTriage.Proofs.Data.Order
import FileTriage.Proofs.Definitions.Provenance
import FileTriage.Proofs.Definitions.Order
import FileTriage.Proofs.Disk.Directory
import FileTriage.Proofs.Definitions.History
import FileTriage.Proofs.Disk.Listing
import FileTriage.Proofs.Definitions.Merging
import FileTriage.Proofs.Definitions.Precedence
import FileTriage.Proofs.Definitions.Filters
import FileTriage.Proofs.Path
import FileTriage.Proofs.Rules.ParentPath
import FileTriage.Proofs.Report.HitOrder
import FileTriage.Proofs.CommandLine.Applied
import FileTriage.Proofs.Job.Blocks
import FileTriage.Proofs.Rules.Construction
import FileTriage.Proofs.Rules.Membership
import FileTriage.Proofs.Rules.Extensions
import FileTriage.Proofs.Rules.DateWindow
import FileTriage.Proofs.Rules.FileSize
import FileTriage.Proofs.File
import FileTriage.Proofs.Disk.Tree
import FileTriage.Proofs.Scan.Course
import FileTriage.Proofs.Scan.Discovery
