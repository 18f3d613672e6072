import DohRelay.Cache.Entries
import DohRelay.Cache.Fingerprint
import DohRelay.Cache.Outcome
import DohRelay.Cache.State
import DohRelay.CommandLine.Arguments
import DohRelay.CommandLine.Program
import DohRelay.Config
import DohRelay.Dns.Edns
import DohRelay.Dns.Message
import DohRelay.Dns.Message.Reader
import DohRelay.Dns.Message.Writer
import DohRelay.Dns.Name
import DohRelay.Dns.Name.International
import DohRelay.Dns.Name.Reader
import DohRelay.Dns.Name.Text
import DohRelay.Dns.Name.Writer
import DohRelay.Dns.RecordData
import DohRelay.Dns.RecordData.Issuing
import DohRelay.Dns.RecordData.Reader
import DohRelay.Dns.RecordData.TypeSet
import DohRelay.Dns.RecordData.Writer
import DohRelay.Dns.RecordType
import DohRelay.Dns.Reply
import DohRelay.Dns.Wire.Fault
import DohRelay.Dns.Wire.FaultText
import DohRelay.Dns.Wire.Reader
import DohRelay.Dns.Wire.Writer
import DohRelay.Document.Fault
import DohRelay.Document.Number
import DohRelay.Document.Reader
import DohRelay.Document.Skip
import DohRelay.Document.Text
import DohRelay.Document.Value
import DohRelay.Endpoint.Selection
import DohRelay.Error
import DohRelay.Exchange.Inquiry
import DohRelay.Exchange.Transport
import DohRelay.Exchange.Wire
import DohRelay.Http.Body
import DohRelay.Http.Exchange
import DohRelay.Http.Header
import DohRelay.Idna.CombiningTable
import DohRelay.Idna.DecompositionTable
import DohRelay.Idna.DirectionTable
import DohRelay.Idna.Domain
import DohRelay.Idna.JoiningTable
import DohRelay.Idna.MappingTable
import DohRelay.Idna.MarkTable
import DohRelay.Idna.Normal
import DohRelay.Idna.Punycode
import DohRelay.Main
import DohRelay.Net.Ip
import DohRelay.Net.Ip.Parser
import DohRelay.Net.Network
import DohRelay.Net.SocketAddr
import DohRelay.Proofs.Cache.Death
import DohRelay.Proofs.Cache.Departure
import DohRelay.Proofs.Cache.Effect
import DohRelay.Proofs.Cache.Expiry
import DohRelay.Proofs.Cache.Flight
import DohRelay.Proofs.Cache.Identity
import DohRelay.Proofs.Cache.Independence
import DohRelay.Proofs.Cache.Lookups
import DohRelay.Proofs.Cache.Markers
import DohRelay.Proofs.Cache.Passing
import DohRelay.Proofs.Cache.Provenance
import DohRelay.Proofs.Cache.Results
import DohRelay.Proofs.Cache.Run
import DohRelay.Proofs.Cache.SingleFlight
import DohRelay.Proofs.Cache.Starters
import DohRelay.Proofs.Config.Headers
import DohRelay.Proofs.Config.NameServer
import DohRelay.Proofs.Dns.Crowded
import DohRelay.Proofs.Dns.DataForms
import DohRelay.Proofs.Dns.DataRead
import DohRelay.Proofs.Dns.Decoded
import DohRelay.Proofs.Dns.NameReading
import DohRelay.Proofs.Dns.NameText
import DohRelay.Proofs.Dns.Questions
import DohRelay.Proofs.Dns.Readable
import DohRelay.Proofs.Dns.Recovery
import DohRelay.Proofs.Dns.Room
import DohRelay.Proofs.Dns.Whole
import DohRelay.Proofs.Dns.Writable
import DohRelay.Proofs.Document.Written
import DohRelay.Proofs.Endpoint.Selection
import DohRelay.Proofs.Exchange.Assembly
import DohRelay.Proofs.Exchange.Carrying
import DohRelay.Proofs.Exchange.Checking
import DohRelay.Proofs.Exchange.Outgoing
import DohRelay.Proofs.Exchange.Refusal
import DohRelay.Proofs.Exchange.Translation
import DohRelay.Proofs.Http.Body
import DohRelay.Proofs.Http.Headers
import DohRelay.Proofs.Net.Addresses
import DohRelay.Proofs.Net.Brackets
import DohRelay.Proofs.Net.Grammar
import DohRelay.Proofs.Net.Masking
import DohRelay.Proofs.Net.Sockets
import DohRelay.Proofs.Outcome
import DohRelay.Proofs.Resolve.Data
import DohRelay.Proofs.Resolve.Delivery
import DohRelay.Proofs.Resolve.Echo
import DohRelay.Proofs.Resolve.Presentation
import DohRelay.Proofs.Resolve.Rebuilt
import DohRelay.Proofs.Resolve.Understood
import DohRelay.Proofs.Resolve.Written
import DohRelay.Proofs.Service.Accounting
import DohRelay.Proofs.Service.Answers
import DohRelay.Proofs.Service.Belonging
import DohRelay.Proofs.Service.Completeness
import DohRelay.Proofs.Service.Concealment
import DohRelay.Proofs.Service.Conversation
import DohRelay.Proofs.Service.Counting
import DohRelay.Proofs.Service.DatagramBound
import DohRelay.Proofs.Service.Deadline
import DohRelay.Proofs.Service.Departure
import DohRelay.Proofs.Service.Detecting
import DohRelay.Proofs.Service.Findings
import DohRelay.Proofs.Service.Keyed
import DohRelay.Proofs.Service.Operation
import DohRelay.Proofs.Service.Parameters
import DohRelay.Proofs.Service.Progress
import DohRelay.Proofs.Service.Received
import DohRelay.Proofs.Service.Replies
import DohRelay.Proofs.Service.ResponseCode
import DohRelay.Proofs.Service.Rulings
import DohRelay.Proofs.Service.Sharing
import DohRelay.Proofs.Service.Suppression
import DohRelay.Proofs.Subnet.Advertised
import DohRelay.Proofs.Subnet.Effect
import DohRelay.Proofs.Subnet.Lookups
import DohRelay.Proofs.Subnet.Run
import DohRelay.Proofs.Subnet.Turns
import DohRelay.Proofs.Text.Base64
import DohRelay.Proofs.Text.Decimal
import DohRelay.Proofs.Text.Fields
import DohRelay.Proofs.Text.Utf8
import DohRelay.Proofs.Transport.Connection
import DohRelay.Proofs.Transport.Framing
import DohRelay.Proofs.Url.Pairs
import DohRelay.Rehearsal.CacheRun
import DohRelay.Rehearsal.Schedule
import DohRelay.Rehearsal.Session
import DohRelay.Resolve.Convention
import DohRelay.Resolve.Document
import DohRelay.Resolve.RecordText
import DohRelay.Service.Startup
import DohRelay.Service.State
import DohRelay.Stats
import DohRelay.Subnet.Detection
import DohRelay.Subnet.Mode
import DohRelay.Table
import DohRelay.Text.Base64
import DohRelay.Text.Blank
import DohRelay.Text.CodeTable
import DohRelay.Text.Dyadic
import DohRelay.Text.Number
import DohRelay.Text.Numeral
import DohRelay.Text.Quoted
import DohRelay.Text.Unprintable
import DohRelay.Text.Utf8
import DohRelay.Transport.Connection
import DohRelay.Transport.Framing
import DohRelay.Trust.Certificates
import DohRelay.Url.Basic
import DohRelay.Url.Host
import DohRelay.Url.Pairs
import DohRelay.Url.Parser
import DohRelay.Url.Percent
