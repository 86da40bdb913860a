import Backoffice.Account.Access
import Backoffice.Account.Forms
import Backoffice.Account.Key
import Backoffice.Account.Password
import Backoffice.Account.Principal
import Backoffice.Account.Token
import Backoffice.Calendar.Date
import Backoffice.Calendar.IsoText
import Backoffice.Calendar.Moment
import Backoffice.Calendar.Span
import Backoffice.Digest.Hmac
import Backoffice.Digest.Sha256
import Backoffice.Directory.Fields
import Backoffice.Directory.Lookup
import Backoffice.Directory.Tables
import Backoffice.Directory.User
import Backoffice.Directory.UserList
import Backoffice.Directory.Write
import Backoffice.Failure
import Backoffice.Form.Fault
import Backoffice.Form.Reading
import Backoffice.Json.Basic
import Backoffice.Json.Label
import Backoffice.Json.Reader
import Backoffice.Json.Writer
import Backoffice.Menu.List
import Backoffice.Menu.Tree
import Backoffice.Number.Binary64
import Backoffice.Number.Word
import Backoffice.Proofs.Account.Access
import Backoffice.Proofs.Account.DigestTexts
import Backoffice.Proofs.Account.Issuance
import Backoffice.Proofs.Account.Passwords
import Backoffice.Proofs.Account.Tokens
import Backoffice.Proofs.Calendar.NextDay
import Backoffice.Proofs.Calendar.Order
import Backoffice.Proofs.Calendar.RoundTrip
import Backoffice.Proofs.Calendar.Seconds
import Backoffice.Proofs.Calendar.Spans
import Backoffice.Proofs.Digest.Derivation
import Backoffice.Proofs.Directory.Accounts
import Backoffice.Proofs.Directory.DeletedRows
import Backoffice.Proofs.Directory.EditedRows
import Backoffice.Proofs.Directory.FullNames
import Backoffice.Proofs.Directory.Keys
import Backoffice.Proofs.Directory.KnownFields
import Backoffice.Proofs.Directory.ListPages
import Backoffice.Proofs.Directory.PickerSelection
import Backoffice.Proofs.Directory.Rows
import Backoffice.Proofs.Directory.SameInstants
import Backoffice.Proofs.Directory.Secrets
import Backoffice.Proofs.Directory.Serving
import Backoffice.Proofs.Directory.Standing
import Backoffice.Proofs.Directory.UserSelection
import Backoffice.Proofs.Directory.WordSizes
import Backoffice.Proofs.Directory.WrittenRows
import Backoffice.Proofs.Fields
import Backoffice.Proofs.Form.Errors
import Backoffice.Proofs.Json.Documents
import Backoffice.Proofs.Json.Fronts
import Backoffice.Proofs.Json.RoundTrip
import Backoffice.Proofs.Json.Strings
import Backoffice.Proofs.Json.Texts
import Backoffice.Proofs.Menu.Arrangement
import Backoffice.Proofs.Menu.Grouping
import Backoffice.Proofs.Menu.RowGroups
import Backoffice.Proofs.Outcome
import Backoffice.Proofs.Query.ClientErrors
import Backoffice.Proofs.Query.CodedFilters
import Backoffice.Proofs.Query.CodedRanges
import Backoffice.Proofs.Query.Compile
import Backoffice.Proofs.Query.Exchange
import Backoffice.Proofs.Query.JoinedFilters
import Backoffice.Proofs.Query.Offsets
import Backoffice.Proofs.Query.PageSizes
import Backoffice.Proofs.Query.Params
import Backoffice.Proofs.Query.PickerParams
import Backoffice.Proofs.Query.PlainTexts
import Backoffice.Proofs.Query.SelectedIds
import Backoffice.Proofs.Query.SingleDay
import Backoffice.Proofs.Query.TypedParams
import Backoffice.Proofs.Session.Calls
import Backoffice.Proofs.Session.Endings
import Backoffice.Proofs.Session.Entries
import Backoffice.Proofs.Session.Interleaving
import Backoffice.Proofs.Session.LastLogin
import Backoffice.Proofs.Session.Overtaking
import Backoffice.Proofs.Session.Reads
import Backoffice.Proofs.Table.AccessPath
import Backoffice.Proofs.Table.Columns
import Backoffice.Proofs.Table.Containment
import Backoffice.Proofs.Table.Filters
import Backoffice.Proofs.Table.Listing
import Backoffice.Proofs.Table.Order
import Backoffice.Proofs.Table.Pages
import Backoffice.Proofs.Table.Parts
import Backoffice.Proofs.Table.Rendering
import Backoffice.Proofs.Table.Search
import Backoffice.Proofs.Table.Selection
import Backoffice.Proofs.Table.Unseen
import Backoffice.Proofs.Text.Base64
import Backoffice.Proofs.Text.Base64Grammar
import Backoffice.Proofs.Text.Case
import Backoffice.Proofs.Text.Digits
import Backoffice.Proofs.Text.Integers
import Backoffice.Proofs.Text.Numerals
import Backoffice.Proofs.Text.Percent
import Backoffice.Proofs.Text.Ranking
import Backoffice.Proofs.Text.Split
import Backoffice.Proofs.Text.Strip
import Backoffice.Proofs.Text.Utf8
import Backoffice.Proofs.Web.Accounts
import Backoffice.Proofs.Web.Actions
import Backoffice.Proofs.Web.Actors
import Backoffice.Proofs.Web.Addresses
import Backoffice.Proofs.Web.Answers
import Backoffice.Proofs.Web.Deletion
import Backoffice.Proofs.Web.Edits
import Backoffice.Proofs.Web.Independence
import Backoffice.Proofs.Web.LastLogin
import Backoffice.Proofs.Web.Menu
import Backoffice.Proofs.Web.Moves
import Backoffice.Proofs.Web.Origins
import Backoffice.Proofs.Web.Registration
import Backoffice.Proofs.Web.Roles
import Backoffice.Proofs.Web.Secrecy
import Backoffice.Proofs.Web.SessionRuns
import Backoffice.Proofs.Web.Sessions
import Backoffice.Proofs.Web.SingleUsers
import Backoffice.Proofs.Web.Snapshots
import Backoffice.Proofs.Web.Strangers
import Backoffice.Proofs.Web.Writes
import Backoffice.Query.Directive
import Backoffice.Query.Filter
import Backoffice.Query.Params
import Backoffice.Query.Predicate
import Backoffice.Schema.Migration
import Backoffice.Session.Cache
import Backoffice.Session.Memory
import Backoffice.Session.Store
import Backoffice.Settings
import Backoffice.Table.AccessPath
import Backoffice.Table.Cell
import Backoffice.Table.Condition
import Backoffice.Table.Listing
import Backoffice.Table.Pattern
import Backoffice.Text.Base64
import Backoffice.Text.Blank
import Backoffice.Text.Case
import Backoffice.Text.CaseTable
import Backoffice.Text.Hex
import Backoffice.Text.Numeral
import Backoffice.Text.Percent
import Backoffice.Text.Split
import Backoffice.Text.Utf8
import Backoffice.Web.Request
import Backoffice.Web.Response
import Backoffice.Web.Route
import Backoffice.Web.Service
import Backoffice.Web.View
