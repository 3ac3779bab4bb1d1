import TemplatedRequests.Base64
import TemplatedRequests.Binary64
import TemplatedRequests.Binary64.Layout
import TemplatedRequests.Binary64.Shortest
import TemplatedRequests.Builtins
import TemplatedRequests.Capture.Directive
import TemplatedRequests.Capture.Path
import TemplatedRequests.Charset
import TemplatedRequests.Charset.Chinese
import TemplatedRequests.Charset.Declared
import TemplatedRequests.Charset.Escaped
import TemplatedRequests.Charset.Hangul
import TemplatedRequests.Charset.Hanzi
import TemplatedRequests.Charset.Japanese
import TemplatedRequests.Charset.Kanji
import TemplatedRequests.Charset.KanjiMore
import TemplatedRequests.Charset.Korean
import TemplatedRequests.Charset.Page
import TemplatedRequests.Charset.Paired
import TemplatedRequests.Charset.Shifted
import TemplatedRequests.Charset.Traditional
import TemplatedRequests.Charset.Wide
import TemplatedRequests.Clock.Date
import TemplatedRequests.Clock.Moment
import TemplatedRequests.Clock.Offset
import TemplatedRequests.Compression.Checksum
import TemplatedRequests.Compression.Frame
import TemplatedRequests.Compression.Inflate
import TemplatedRequests.Compression.Prefix
import TemplatedRequests.Dotenv.Cache
import TemplatedRequests.Dotenv.Parse
import TemplatedRequests.Dotenv.Path
import TemplatedRequests.Dotenv.Search
import TemplatedRequests.Environments
import TemplatedRequests.Exchange
import TemplatedRequests.Exchange.Client
import TemplatedRequests.Exchange.Failure
import TemplatedRequests.Exchange.Incoming
import TemplatedRequests.Exchange.Outgoing
import TemplatedRequests.Exchange.Remote
import TemplatedRequests.Exchange.Status
import TemplatedRequests.Fault
import TemplatedRequests.Generator
import TemplatedRequests.Idna
import TemplatedRequests.Idna.Context
import TemplatedRequests.Idna.Direction
import TemplatedRequests.Idna.Label
import TemplatedRequests.Idna.Permitted
import TemplatedRequests.Idna.Punycode
import TemplatedRequests.Json.Encoded
import TemplatedRequests.Json.Path
import TemplatedRequests.Json.Reader
import TemplatedRequests.Json.Value
import TemplatedRequests.Json.Writer
import TemplatedRequests.Logging
import TemplatedRequests.Numeral
import TemplatedRequests.Numeral.Relaxed
import TemplatedRequests.OrderedMap
import TemplatedRequests.Request
import TemplatedRequests.Response
import TemplatedRequests.Scopes
import TemplatedRequests.Service
import TemplatedRequests.Service.Check
import TemplatedRequests.Service.Document
import TemplatedRequests.Service.Payload
import TemplatedRequests.Service.Reply
import TemplatedRequests.Service.Route
import TemplatedRequests.Sessions
import TemplatedRequests.Settings
import TemplatedRequests.Settings.Declarations
import TemplatedRequests.Store
import TemplatedRequests.Template
import TemplatedRequests.Text.Ascii
import TemplatedRequests.Text.Blank
import TemplatedRequests.Text.Case
import TemplatedRequests.Text.Case.Table
import TemplatedRequests.Text.Composed
import TemplatedRequests.Text.Composed.Table
import TemplatedRequests.Text.Digit
import TemplatedRequests.Text.Hex
import TemplatedRequests.Text.Lines
import TemplatedRequests.Text.Mark
import TemplatedRequests.Text.Quoted
import TemplatedRequests.Text.Search
import TemplatedRequests.Text.Unprintable
import TemplatedRequests.Text.Utf8
import TemplatedRequests.Url
import TemplatedRequests.Url.Host
import TemplatedRequests.Url.Ipv6
import TemplatedRequests.Url.Percent
import TemplatedRequests.Url.Reference
import TemplatedRequests.Proofs.Numeral.Written
import TemplatedRequests.Proofs.Text.Utf8
import TemplatedRequests.Proofs.Json.Location
import TemplatedRequests.Proofs.Json.Fitting
import TemplatedRequests.Proofs.Json.Written
import TemplatedRequests.Proofs.Json.Scalar
import TemplatedRequests.Proofs.Json.Compact
import TemplatedRequests.Proofs.Response.Extracted
import TemplatedRequests.Proofs.Response.Replaced
import TemplatedRequests.Proofs.Template.Expansion
import TemplatedRequests.Proofs.Template.Paths
import TemplatedRequests.Proofs.Template.Scan
import TemplatedRequests.Proofs.Template.Steady
import TemplatedRequests.Proofs.Template.Plain
import TemplatedRequests.Proofs.Template.Keys
import TemplatedRequests.Proofs.Template.Escape
import TemplatedRequests.Proofs.Builtins.Classified
import TemplatedRequests.Proofs.Exchange.Recorded
import TemplatedRequests.Proofs.Store.Operations
import TemplatedRequests.Proofs.Store.Reachable
import TemplatedRequests.Proofs.Store.Snapshot
import TemplatedRequests.Proofs.Store.Exclusive
import TemplatedRequests.Proofs.Store.Frame
import TemplatedRequests.Proofs.Service.Calls
import TemplatedRequests.Proofs.Service.Atomic
import TemplatedRequests.Proofs.Capture.Layout
import TemplatedRequests.Proofs.Template.Reach
import TemplatedRequests.Proofs.Sessions.Interleaved
import TemplatedRequests.Proofs.Template.Given
import TemplatedRequests.Proofs.Exchange.Reused
import TemplatedRequests.Proofs.Sessions.Memory
import TemplatedRequests.Proofs.Binary64.Quotient
import TemplatedRequests.Proofs.Clock.Timestamp
import TemplatedRequests.Proofs.Clock.Calendar
import TemplatedRequests.Proofs.Clock.Offset
import TemplatedRequests.Proofs.Builtins.Shifted
import TemplatedRequests.Proofs.Clock.Written
import TemplatedRequests.Proofs.Builtins.Dated
import TemplatedRequests.Proofs.Json.Reading
import TemplatedRequests.Proofs.Json.Refused
import TemplatedRequests.Proofs.Response.Reported
import TemplatedRequests.Proofs.Json.Finite
import TemplatedRequests.Proofs.Response.Agreement
import TemplatedRequests.Proofs.Dotenv.History
import TemplatedRequests.Proofs.Template.Undefined
import TemplatedRequests.Proofs.Builtins.Diagnosed
import TemplatedRequests.Proofs.Template.Cited
import TemplatedRequests.Proofs.OrderedMap.Merged
import TemplatedRequests.Proofs.Text.Lines
import TemplatedRequests.Proofs.Capture.Lines
import TemplatedRequests.Proofs.Response.Captured
import TemplatedRequests.Proofs.Request.Filled
import TemplatedRequests.Proofs.Template.InFlight
import TemplatedRequests.Proofs.Dotenv.Lines
import TemplatedRequests.Proofs.Dotenv.Written
import TemplatedRequests.Proofs.Store.Shared
import TemplatedRequests.Proofs.Service.Missing
import TemplatedRequests.Proofs.Capture.Balanced
import TemplatedRequests.Proofs.Scopes.Layered
import TemplatedRequests.Proofs.Sessions.Cleared
import TemplatedRequests.Proofs.Store.Drafted
import TemplatedRequests.Proofs.Service.Ended
import TemplatedRequests.Proofs.Scopes.Listed
import TemplatedRequests.Proofs.Environments.Switched
import TemplatedRequests.Proofs.Dotenv.Ascent
import TemplatedRequests.Proofs.Numeral.Exact
