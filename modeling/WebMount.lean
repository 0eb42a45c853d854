import WebMount.CommandLine
import WebMount.Config.Basic
import WebMount.Config.Decode
import WebMount.Config.Load
import WebMount.Config.SocketAddress
import WebMount.Config.Validation
import WebMount.Form.Basic
import WebMount.Form.Component
import WebMount.Form.Convert
import WebMount.Form.FieldType
import WebMount.Form.Validator
import WebMount.Form.Value
import WebMount.Lookup
import WebMount.Main
import WebMount.Markup.Escape
import WebMount.Mount.Basic
import WebMount.Mount.Descriptor
import WebMount.Mount.Error
import WebMount.Mount.Pattern
import WebMount.Number.Binary
import WebMount.Number.Decimal
import WebMount.Number.Radix
import WebMount.Number.Shortest
import WebMount.Proofs.Resource.Protocol
import WebMount.Proofs.Resource.Revalidation
import WebMount.Proofs.Resource.Script
import WebMount.Proofs.Response.Buffered
import WebMount.Proofs.Response.Command
import WebMount.Proofs.Response.Headers
import WebMount.Proofs.Response.Reception
import WebMount.Proofs.Response.SinkAgreement
import WebMount.Proofs.Response.Streaming
import WebMount.Proofs.Server.Delivery
import WebMount.Proofs.Server.Outcome
import WebMount.Proofs.Server.Progress
import WebMount.Proofs.Text.Reader
import WebMount.Proofs.Time.Calendar
import WebMount.Proofs.Time.HttpDate
import WebMount.Request.Basic
import WebMount.Request.Uri
import WebMount.Resource.Basic
import WebMount.Resource.Body
import WebMount.Resource.Description
import WebMount.Resource.MediaTypeTable
import WebMount.Resource.MediaTypes
import WebMount.Resource.Registry
import WebMount.Resource.Script
import WebMount.Response.Buffered
import WebMount.Response.Caching
import WebMount.Response.Command
import WebMount.Response.Disposition
import WebMount.Response.Headers
import WebMount.Response.Op
import WebMount.Response.Reception
import WebMount.Response.Recorder
import WebMount.Response.Script
import WebMount.Response.Streaming
import WebMount.Response.Transcript
import WebMount.Response.Transfer
import WebMount.Route
import WebMount.Server.Answer
import WebMount.Server.Basic
import WebMount.Server.Delivery
import WebMount.Server.Dispatch
import WebMount.Server.Logging
import WebMount.Server.Shutdown
import WebMount.Storage.Basic
import WebMount.Storage.IoError
import WebMount.Storage.Path
import WebMount.Suggest.ClientScript
import WebMount.Suggest.Field
import WebMount.Suggest.Source
import WebMount.Text.Blank
import WebMount.Text.CaseFolding
import WebMount.Text.CaseTable
import WebMount.Text.LowerCase
import WebMount.Text.Percent
import WebMount.Text.PrintableTable
import WebMount.Text.Quoted
import WebMount.Text.Reader
import WebMount.Text.Slice
import WebMount.Text.Utf8
import WebMount.Time.Calendar
import WebMount.Time.HttpDate
import WebMount.Time.Instant
import WebMount.Toml.Document
import WebMount.Toml.Expression
import WebMount.Toml.Moment
import WebMount.Toml.Number
import WebMount.Toml.Spacing
import WebMount.Toml.Table
import WebMount.Toml.Text
import WebMount.Toml.Value
import WebMount.UrlEncoded
import WebMount.Xml.Entity
import WebMount.Xml.Event
import WebMount.Xml.Token
import WebMount.Markup.Attribute
import WebMount.Proofs.Markup.Escape
import WebMount.Proofs.Mount.Address
import WebMount.Proofs.Suggest.Address
import WebMount.Proofs.Form.Scalar
import WebMount.Proofs.Form.RoundTrip
import WebMount.Proofs.Resource.BuiltIn
import WebMount.Proofs.Xml.Tree
import WebMount.Mount.Declaration
import WebMount.Proofs.Mount.Descriptor
import WebMount.Proofs.Mount.Declaration
import WebMount.Mount.Shared
import WebMount.Proofs.Mount.History
import WebMount.Proofs.Mount.Shared
import WebMount.Proofs.Form.Submission
import WebMount.Proofs.Resource.MediaTypes
import WebMount.Proofs.Request.Uri
import WebMount.Proofs.Config.Validation
import WebMount.Proofs.Server.Assembly
import WebMount.Proofs.Server.Reach
import WebMount.Suggest.Listing
import WebMount.Server.Serving
import WebMount.Proofs.Text.Utf8
import WebMount.Proofs.UrlEncoded
import WebMount.Proofs.Form.Decoding
import WebMount.Proofs.Suggest.Listing
import WebMount.Proofs.Config.Rules
import WebMount.Proofs.Config.Exactness
import WebMount.Proofs.Server.Serving
import WebMount.Proofs.Server.Reload
import WebMount.Proofs.Mount.Redirect
import WebMount.Proofs.Mount.FilterPath
import WebMount.Mount.Interruption
import WebMount.Proofs.Mount.Interruption
import WebMount.Proofs.Mount.Sources
import WebMount.Proofs.Text.LowerCase
import WebMount.Proofs.Suggest.Beginning
import WebMount.Proofs.Number.Exact
import WebMount.Proofs.Number.Rounding
import WebMount.Proofs.Form.Range
import WebMount.Response.Parameters
import WebMount.Proofs.Text.Percent
import WebMount.Proofs.Response.Disposition
import WebMount.Proofs.Resource.Defect
import WebMount.Proofs.Server.StoredFile
import WebMount.Response.Freshness
import WebMount.Proofs.Resource.Freshness
import WebMount.Proofs.Resource.Copy
import WebMount.Form.Operation
import WebMount.Proofs.Form.Validation
import WebMount.Form.Leaves
import WebMount.Proofs.Form.Leaves
import WebMount.Form.History
import WebMount.Proofs.Form.Labels
import WebMount.Proofs.Form.TypeName
import WebMount.Markup.ScriptLiteral
import WebMount.Proofs.Markup.ScriptLiteral
import WebMount.Suggest.Binding
import WebMount.Proofs.Suggest.Binding
import WebMount.Number.Checked
import WebMount.Response.RangeWrite
import WebMount.Proofs.Response.RangeWrite
