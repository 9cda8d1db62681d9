import ResponseService.Envelope
import ResponseService.Fault.Chain
import ResponseService.Fault.Coding
import ResponseService.Fault.Condition
import ResponseService.Fault.FaultClass
import ResponseService.Fault.Mishap
import ResponseService.Fault.Report
import ResponseService.Fault.ServiceError
import ResponseService.Fault.SourceFault
import ResponseService.Fault.SystemFault
import ResponseService.Json.Display
import ResponseService.Json.Printer
import ResponseService.Json.Reader
import ResponseService.Json.SyntaxError
import ResponseService.Json.Token
import ResponseService.Json.Value
import ResponseService.Logging.Entry
import ResponseService.Logging.Level
import ResponseService.Logging.Record
import ResponseService.Logging.Root
import ResponseService.Logging.Template
import ResponseService.Number.Decimal
import ResponseService.Number.Double
import ResponseService.Number.Rounded
import ResponseService.Number.Shortest
import ResponseService.Number.Word
import ResponseService.Ordered
import ResponseService.Proofs.Envelope
import ResponseService.Proofs.Envelope.Recovered
import ResponseService.Proofs.Fault.Telling
import ResponseService.Proofs.Fault.Trace
import ResponseService.Proofs.Json.Characters
import ResponseService.Proofs.Json.Completion
import ResponseService.Proofs.Json.Contents
import ResponseService.Proofs.Json.Denotation
import ResponseService.Proofs.Json.Dialect
import ResponseService.Proofs.Json.Escaping
import ResponseService.Proofs.Json.Grammar
import ResponseService.Proofs.Json.Machine
import ResponseService.Proofs.Json.Nesting
import ResponseService.Proofs.Json.Number
import ResponseService.Proofs.Json.Oversized
import ResponseService.Proofs.Json.Position
import ResponseService.Proofs.Json.Printing
import ResponseService.Proofs.Json.Quotation
import ResponseService.Proofs.Json.Reading
import ResponseService.Proofs.Json.Scalars
import ResponseService.Proofs.Json.Standard
import ResponseService.Proofs.Json.Texts
import ResponseService.Proofs.Json.Tokens
import ResponseService.Proofs.Json.TooDeep
import ResponseService.Proofs.Logging.Handlers
import ResponseService.Proofs.Logging.Line
import ResponseService.Proofs.Number.Decimal
import ResponseService.Proofs.Number.Rounding
import ResponseService.Proofs.Ordered
import ResponseService.Proofs.Ordered.Agreement
import ResponseService.Proofs.Response.Buffered
import ResponseService.Proofs.Response.Delivery
import ResponseService.Proofs.Response.Envelopes
import ResponseService.Proofs.Response.HandedOver
import ResponseService.Proofs.Response.Held
import ResponseService.Proofs.Response.Payload
import ResponseService.Proofs.Response.Protocol
import ResponseService.Proofs.Response.Received
import ResponseService.Proofs.Response.Runs
import ResponseService.Proofs.Schema.Conversion
import ResponseService.Proofs.Schema.Failures
import ResponseService.Proofs.Schema.FieldValue
import ResponseService.Proofs.Schema.Inspection
import ResponseService.Proofs.Schema.Naming
import ResponseService.Proofs.Schema.Rendering
import ResponseService.Proofs.Schema.Shape
import ResponseService.Proofs.Schema.Strict
import ResponseService.Proofs.Schema.TooDeep
import ResponseService.Proofs.Settings.Origin
import ResponseService.Proofs.Settings.Ranked
import ResponseService.Proofs.Settings.References
import ResponseService.Proofs.Text.Ascii
import ResponseService.Proofs.Text.Blank
import ResponseService.Proofs.Text.Decoding
import ResponseService.Proofs.Text.Spelling
import ResponseService.Proofs.Text.Surrogates
import ResponseService.Proofs.Text.Utf8
import ResponseService.Proofs.Web.Answers
import ResponseService.Proofs.Web.Flags
import ResponseService.Proofs.Web.Identified
import ResponseService.Proofs.Web.Outcomes
import ResponseService.Proofs.Web.Served
import ResponseService.Proofs.Web.Startup
import ResponseService.Response.Buffer
import ResponseService.Response.Emission
import ResponseService.Response.Header
import ResponseService.Response.Writer
import ResponseService.Schema.Description
import ResponseService.Schema.Node
import ResponseService.Schema.Walk
import ResponseService.Settings.Argument
import ResponseService.Settings.Basic
import ResponseService.Settings.Dotenv
import ResponseService.Settings.Snapshot
import ResponseService.Settings.Sources
import ResponseService.Text.Basic
import ResponseService.Text.Blank
import ResponseService.Text.Case
import ResponseService.Text.Cased
import ResponseService.Text.Latin1
import ResponseService.Text.Printable
import ResponseService.Text.Quoted
import ResponseService.Text.Utf8
import ResponseService.Web.Application
import ResponseService.Web.Diagnostics
import ResponseService.Web.Framework
import ResponseService.Web.Lifespan
import ResponseService.Web.Parameter
import ResponseService.Web.Query
import ResponseService.Web.Route
