import TrialProtocol.Calendar.HttpDate
import TrialProtocol.Calendar.Instant
import TrialProtocol.Client
import TrialProtocol.Client.Config
import TrialProtocol.Client.Failure
import TrialProtocol.Client.Reply
import TrialProtocol.Decimal
import TrialProtocol.Decimal.Order
import TrialProtocol.Decimal.Rounding
import TrialProtocol.Experiment
import TrialProtocol.Experiment.Format
import TrialProtocol.Experiment.Name
import TrialProtocol.Http.Message
import TrialProtocol.Idna
import TrialProtocol.Idna.Composition
import TrialProtocol.Idna.Direction
import TrialProtocol.Idna.Joining
import TrialProtocol.Idna.Mapping
import TrialProtocol.Idna.Punycode
import TrialProtocol.Idna.Valid
import TrialProtocol.Json.Decoder
import TrialProtocol.Json.Fault
import TrialProtocol.Json.Generic
import TrialProtocol.Json.Record
import TrialProtocol.Json.Scan
import TrialProtocol.Json.Skip
import TrialProtocol.Json.Writer
import TrialProtocol.Link
import TrialProtocol.Metadata
import TrialProtocol.NameMap
import TrialProtocol.Number.Digit
import TrialProtocol.Number.Double
import TrialProtocol.Number.Shortest
import TrialProtocol.Server
import TrialProtocol.Server.Query
import TrialProtocol.Server.Route
import TrialProtocol.Store
import TrialProtocol.Text.Blank
import TrialProtocol.Text.Numeral
import TrialProtocol.Text.Percent
import TrialProtocol.Text.Quoted
import TrialProtocol.Text.Utf8
import TrialProtocol.Trial
import TrialProtocol.Trial.Format
import TrialProtocol.Url
import TrialProtocol.Url.Host
import TrialProtocol.Url.Ipv4
import TrialProtocol.Url.Ipv6
import TrialProtocol.Url.Path
import TrialProtocol.Url.Reader
import TrialProtocol.Url.Scheme
import TrialProtocol.Proofs.Experiment.Valid
import TrialProtocol.Proofs.Store.Invariant
import TrialProtocol.Proofs.Store.LifeCycle
import TrialProtocol.Proofs.Store.Limits
import TrialProtocol.Proofs.Store.Independence
import TrialProtocol.Proofs.Workers
import TrialProtocol.Proofs.Decimal.Text
import TrialProtocol.Proofs.Json.Spelling
import TrialProtocol.Proofs.Json.Record
import TrialProtocol.Proofs.Experiment.Document
import TrialProtocol.Proofs.Trial.Document
import TrialProtocol.Proofs.Link
import TrialProtocol.Proofs.Text.Ascii
import TrialProtocol.Proofs.Server.Header
import TrialProtocol.Proofs.Server.Request
import TrialProtocol.Proofs.Idna.Form
import TrialProtocol.Proofs.Url.Host
import TrialProtocol.Proofs.Url.Written
import TrialProtocol.Proofs.Url.Below
import TrialProtocol.Proofs.Url.Root
import TrialProtocol.Proofs.Server.Reachable
import TrialProtocol.Proofs.Url.Parsed
import TrialProtocol.Proofs.Client.Answer
import TrialProtocol.Proofs.Proxy
import TrialProtocol.Proofs.Url.Machine
import TrialProtocol.Proofs.Exchange
import TrialProtocol.Proofs.Dispenser
import TrialProtocol.Proofs.Server.Atomic
import TrialProtocol.Proofs.Listing
import TrialProtocol.Proofs.Server.Success
import TrialProtocol.Proofs.Resource
import TrialProtocol.Proofs.Revision
import TrialProtocol.Proofs.Server.Log
import TrialProtocol.Proofs.Server.Token
import TrialProtocol.Proofs.Decimal.Reread
import TrialProtocol.Proofs.Decimal.Value
import TrialProtocol.Proofs.Json.Decoded
import TrialProtocol.Proofs.Report
import TrialProtocol.Proofs.RoundTrip
import TrialProtocol.Proofs.Link.Damage
import TrialProtocol.Proofs.Metadata
import TrialProtocol.Proofs.Decimal.Reading
import TrialProtocol.Proofs.Paging
import TrialProtocol.Proofs.Calendar.Date
import TrialProtocol.Proofs.Calendar.HttpDate
import TrialProtocol.Proofs.Experiment.Item
import TrialProtocol.Proofs.Decimal.Saturation
import TrialProtocol.Proofs.Addressing
import TrialProtocol.Proofs.Link.Cut
import TrialProtocol.Proofs.Client.Decision
