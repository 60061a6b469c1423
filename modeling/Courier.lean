import Courier.Address
import Courier.Binder
import Courier.Bundle.Basic
import Courier.Bundle.Change
import Courier.Bundle.Extent
import Courier.Bundle.Json
import Courier.Bundle.Tagged.Basic
import Courier.Bundle.Tagged.Document
import Courier.Bundle.Tagged.Reader
import Courier.Bundle.Wire
import Courier.Bytes
import Courier.Callback.Basic
import Courier.Callback.Proxy
import Courier.Callback.Registry
import Courier.Callback.Stub
import Courier.CommandLine
import Courier.Connection
import Courier.Envelope
import Courier.Fault
import Courier.Frame
import Courier.Host
import Courier.Json.Basic
import Courier.Json.Printer
import Courier.Json.Reader
import Courier.Json.Skipping
import Courier.Keyed
import Courier.Limits
import Courier.Loopback
import Courier.Main
import Courier.Number.Binary64
import Courier.Number.Shortest
import Courier.Parcel.Basic
import Courier.Parcel.Decoder
import Courier.Parcel.Pool
import Courier.Parcel.Wire
import Courier.Program
import Courier.Proofs.Admission
import Courier.Proofs.Bundle.Acceptance
import Courier.Proofs.Bundle.Canonical
import Courier.Proofs.Bundle.Extent
import Courier.Proofs.Bundle.Form
import Courier.Proofs.Bundle.History
import Courier.Proofs.Bundle.Holdings
import Courier.Proofs.Bundle.Json
import Courier.Proofs.Bundle.Locality
import Courier.Proofs.Bundle.Plain
import Courier.Proofs.Bundle.Reading
import Courier.Proofs.Bundle.Reencoding
import Courier.Proofs.Bundle.RoundTrip
import Courier.Proofs.Bundle.Tagged
import Courier.Proofs.Bundle.Unfinished
import Courier.Proofs.Bundle.Writing
import Courier.Proofs.Call
import Courier.Proofs.Callback.Arrangement
import Courier.Proofs.Callback.Delivery
import Courier.Proofs.Callback.Dispatch
import Courier.Proofs.Callback.Errand
import Courier.Proofs.Callback.Failure
import Courier.Proofs.Callback.Fallback
import Courier.Proofs.Callback.Gate
import Courier.Proofs.Callback.Receipt
import Courier.Proofs.Callback.Refusal
import Courier.Proofs.Callback.Relay
import Courier.Proofs.Callback.Results
import Courier.Proofs.Connection
import Courier.Proofs.Envelope
import Courier.Proofs.Fault
import Courier.Proofs.Frame
import Courier.Proofs.Handling
import Courier.Proofs.Introspection
import Courier.Proofs.Isolation
import Courier.Proofs.Json.Documents
import Courier.Proofs.Json.Lines
import Courier.Proofs.Json.Numbers
import Courier.Proofs.Json.RoundTrip
import Courier.Proofs.Keyed
import Courier.Proofs.Loopback
import Courier.Proofs.Number.Digits
import Courier.Proofs.Number.Rounding
import Courier.Proofs.Number.Shortest
import Courier.Proofs.Parcel.Decoding
import Courier.Proofs.Parcel.Fields
import Courier.Proofs.Parcel.Headers
import Courier.Proofs.Parcel.Items
import Courier.Proofs.Parcel.Operations
import Courier.Proofs.Program
import Courier.Proofs.Refinement
import Courier.Proofs.Recycling
import Courier.Proofs.Remote
import Courier.Proofs.Report
import Courier.Proofs.Sender
import Courier.Proofs.Serving
import Courier.Proofs.Stream
import Courier.Proofs.Text.Utf8
import Courier.Remote
import Courier.Report
import Courier.Text.CaseData
import Courier.Text.Digits
import Courier.Text.Lower
import Courier.Text.Printable
import Courier.Text.Quoted
import Courier.Text.Ranges
import Courier.Text.Utf8
import Courier.Transaction
