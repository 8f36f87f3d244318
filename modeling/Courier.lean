import Courier.CallOptions
import Courier.Client
import Courier.Datum
import Courier.Directory.Message
import Courier.Directory.Rejection
import Courier.Directory.Service
import Courier.Directory.Store
import Courier.Directory.Uuid
import Courier.Failure
import Courier.Http.Exchange
import Courier.Http.Form
import Courier.Http.Framing
import Courier.Http.MediaType
import Courier.Http.SendError
import Courier.Http.Token
import Courier.Http.Wire
import Courier.Json.Basic
import Courier.Json.Equality
import Courier.Json.Literal
import Courier.Json.Numeral
import Courier.Json.Printer
import Courier.Json.Problem
import Courier.Json.Reading
import Courier.Json.Skipping
import Courier.Json.Value
import Courier.Method
import Courier.Number.Binary64
import Courier.Number.Decimal
import Courier.Number.Reading
import Courier.PathParams
import Courier.Proofs.Calls
import Courier.Proofs.Directory.History
import Courier.Proofs.Directory.Reflection
import Courier.Proofs.Directory.Serving
import Courier.Proofs.Directory.Store
import Courier.Proofs.Directory.Turn
import Courier.Proofs.Directory.Uuid
import Courier.Proofs.Failures
import Courier.Proofs.Http.Form
import Courier.Proofs.Http.HeaderValues
import Courier.Proofs.Http.PathValues
import Courier.Proofs.Http.Refusals
import Courier.Proofs.Http.Replies
import Courier.Proofs.Http.Sending
import Courier.Proofs.Http.SentBody
import Courier.Proofs.Http.SentHeaders
import Courier.Proofs.Http.SentQuery
import Courier.Proofs.Http.StatusTests
import Courier.Proofs.Json.Containers
import Courier.Proofs.Json.Literal
import Courier.Proofs.Json.Numeral
import Courier.Proofs.Json.Padding
import Courier.Proofs.Json.Places
import Courier.Proofs.Json.RoundTrip
import Courier.Proofs.Json.Spelling
import Courier.Proofs.Layering
import Courier.Proofs.Members
import Courier.Proofs.Method
import Courier.Proofs.OptionalBody
import Courier.Proofs.PathParams
import Courier.Proofs.Query
import Courier.Proofs.Query.Leaves
import Courier.Proofs.Query.Plain
import Courier.Proofs.RawCalls
import Courier.Proofs.ResponseModes
import Courier.Proofs.Session
import Courier.Proofs.Settings
import Courier.Proofs.Shape.Reading
import Courier.Proofs.Shape.RoundTrip
import Courier.Proofs.Steps
import Courier.Proofs.Template
import Courier.Proofs.Template.Parts
import Courier.Proofs.Template.Segments
import Courier.Proofs.Template.Structure
import Courier.Proofs.Template.Substitution
import Courier.Proofs.Text.ByteOrder
import Courier.Proofs.Text.Cutting
import Courier.Proofs.Text.Percent
import Courier.Proofs.Text.Utf8
import Courier.Proofs.TextBody
import Courier.Proofs.TextlessBody
import Courier.Proofs.UntypedBody
import Courier.Proofs.Url.Absolute
import Courier.Proofs.Url.Authority
import Courier.Proofs.Url.Filling
import Courier.Proofs.Url.Joining
import Courier.Proofs.Url.Pathless
import Courier.Proofs.Url.Resolving
import Courier.Proofs.Url.Segments
import Courier.Proofs.Url.Written
import Courier.Query
import Courier.Request
import Courier.Response
import Courier.Settings
import Courier.Shape.Basic
import Courier.Shape.Reading
import Courier.Template
import Courier.Text.Base64
import Courier.Text.Blank
import Courier.Text.Percent
import Courier.Text.Quoted
import Courier.Text.Utf8
import Courier.Text.Visible
import Courier.Url.Basic
import Courier.Url.Host
import Courier.Url.Idna
import Courier.Url.Idna.ClassData
import Courier.Url.Idna.Label
import Courier.Url.Idna.Mapping
import Courier.Url.Idna.MappingData
import Courier.Url.Idna.Normal
import Courier.Url.Idna.Punycode
import Courier.Url.Idna.Table
import Courier.Url.Ipv4
import Courier.Url.Ipv6
import Courier.Url.ParseError
import Courier.Url.Parser
import Courier.Url.Path
import Courier.Url.Resolve
