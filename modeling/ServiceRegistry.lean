import ServiceRegistry.Audit.Body
import ServiceRegistry.Audit.Capture
import ServiceRegistry.Audit.Mask
import ServiceRegistry.Entry
import ServiceRegistry.Fault
import ServiceRegistry.Form.ContentType
import ServiceRegistry.Form.Multipart
import ServiceRegistry.Form.Platform
import ServiceRegistry.Form.Submission
import ServiceRegistry.Form.UrlEncoded
import ServiceRegistry.Http.Address
import ServiceRegistry.Http.Application
import ServiceRegistry.Http.Cors
import ServiceRegistry.Http.ErrorPage
import ServiceRegistry.Http.Message
import ServiceRegistry.Http.Route
import ServiceRegistry.Http.Server
import ServiceRegistry.Http.SessionCookie
import ServiceRegistry.Issue
import ServiceRegistry.Json.Display
import ServiceRegistry.Json.Document
import ServiceRegistry.Json.Printer
import ServiceRegistry.Json.Reader
import ServiceRegistry.Json.Shown
import ServiceRegistry.Json.Value
import ServiceRegistry.Logging
import ServiceRegistry.Number.Binary64
import ServiceRegistry.Number.Decimal
import ServiceRegistry.Number.Shortest
import ServiceRegistry.Page
import ServiceRegistry.Pattern.Charset
import ServiceRegistry.Pattern.Matcher
import ServiceRegistry.Pattern.Reader
import ServiceRegistry.Pattern.Syntax
import ServiceRegistry.Pattern.Token
import ServiceRegistry.Projection
import ServiceRegistry.Proofs.Audit.Event
import ServiceRegistry.Proofs.Audit.FormRecord
import ServiceRegistry.Proofs.Audit.Hiding
import ServiceRegistry.Proofs.Audit.Masking
import ServiceRegistry.Proofs.Audit.Record
import ServiceRegistry.Proofs.Form.ContentType
import ServiceRegistry.Proofs.Form.Ids
import ServiceRegistry.Proofs.Form.Spelling
import ServiceRegistry.Proofs.Form.Submission
import ServiceRegistry.Proofs.Form.UrlEncoded
import ServiceRegistry.Proofs.Http.Address
import ServiceRegistry.Proofs.Http.Aliases
import ServiceRegistry.Proofs.Http.Answer
import ServiceRegistry.Proofs.Http.Commit
import ServiceRegistry.Proofs.Http.DefaultService
import ServiceRegistry.Proofs.Http.Delivery
import ServiceRegistry.Proofs.Http.ErrorPage
import ServiceRegistry.Proofs.Http.Failing
import ServiceRegistry.Proofs.Http.Layers
import ServiceRegistry.Proofs.Http.ListedTable
import ServiceRegistry.Proofs.Http.Listing
import ServiceRegistry.Proofs.Http.Lockout
import ServiceRegistry.Proofs.Http.Quiet
import ServiceRegistry.Proofs.Http.Recording
import ServiceRegistry.Proofs.Http.Reordering
import ServiceRegistry.Proofs.Http.Replay
import ServiceRegistry.Proofs.Http.Reporting
import ServiceRegistry.Proofs.Http.ScriptHeader
import ServiceRegistry.Proofs.Http.Submission
import ServiceRegistry.Proofs.Http.Transparency
import ServiceRegistry.Proofs.Http.UnknownId
import ServiceRegistry.Proofs.Json.RoundTrip
import ServiceRegistry.Proofs.Json.Shown
import ServiceRegistry.Proofs.Logging
import ServiceRegistry.Proofs.Members
import ServiceRegistry.Proofs.Number.Decimal
import ServiceRegistry.Proofs.Page
import ServiceRegistry.Proofs.Pattern.Letters
import ServiceRegistry.Proofs.Pattern.Stem
import ServiceRegistry.Proofs.Projection
import ServiceRegistry.Proofs.Registry.Administration
import ServiceRegistry.Proofs.Registry.Admission
import ServiceRegistry.Proofs.Registry.Ensuring
import ServiceRegistry.Proofs.Registry.Listing
import ServiceRegistry.Proofs.Registry.Memory
import ServiceRegistry.Proofs.Registry.Positions
import ServiceRegistry.Proofs.Registry.Rows
import ServiceRegistry.Proofs.Registry.Seeding
import ServiceRegistry.Proofs.Registry.Stored
import ServiceRegistry.Proofs.Run
import ServiceRegistry.Proofs.Schema
import ServiceRegistry.Proofs.Session.Following
import ServiceRegistry.Proofs.Session.Ledger
import ServiceRegistry.Proofs.Session.Values
import ServiceRegistry.Proofs.Text.Markup
import ServiceRegistry.Proofs.Text.Replace
import ServiceRegistry.Proofs.Text.Utf8
import ServiceRegistry.Proofs.Trial.Changes
import ServiceRegistry.Proofs.Trial.Commuting
import ServiceRegistry.Proofs.Trial.Frame
import ServiceRegistry.Proofs.Trial.Growth
import ServiceRegistry.Proofs.Trial.Removal
import ServiceRegistry.Proofs.Trial.Reordering
import ServiceRegistry.Proofs.Trial.StandIn
import ServiceRegistry.Proofs.Trial.Stopping
import ServiceRegistry.Registry.Basic
import ServiceRegistry.Registry.Database
import ServiceRegistry.Registry.Management
import ServiceRegistry.Registry.Memory
import ServiceRegistry.Registry.Seed
import ServiceRegistry.Registry.Session
import ServiceRegistry.Registry.Trial
import ServiceRegistry.Schema
import ServiceRegistry.Settings
import ServiceRegistry.Text.Authority
import ServiceRegistry.Text.Blank
import ServiceRegistry.Text.CharName
import ServiceRegistry.Text.Digit
import ServiceRegistry.Text.Escape
import ServiceRegistry.Text.Hex
import ServiceRegistry.Text.Identifier
import ServiceRegistry.Text.LetterCase
import ServiceRegistry.Text.Loose
import ServiceRegistry.Text.Markup
import ServiceRegistry.Text.Percent
import ServiceRegistry.Text.Printable
import ServiceRegistry.Text.Quoted
import ServiceRegistry.Text.Replace
import ServiceRegistry.Text.Span
import ServiceRegistry.Text.Split
import ServiceRegistry.Text.Utf8
import ServiceRegistry.Text.WideUnits
import ServiceRegistry.Text.Word
import ServiceRegistry.Validate
