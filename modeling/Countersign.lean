import Countersign.Address.Ipv4
import Countersign.Address.Ipv6
import Countersign.Address.Socket
import Countersign.Body.Duplication
import Countersign.Body.Frame
import Countersign.Body.Plumbing
import Countersign.Body.Reading
import Countersign.Call.Basic
import Countersign.Call.Forwarding
import Countersign.Context
import Countersign.Digest.Hmac
import Countersign.Digest.Sha256
import Countersign.Domain.Composite
import Countersign.Domain.Direction
import Countersign.Domain.Joining
import Countersign.Domain.Mark
import Countersign.Domain.Name
import Countersign.Domain.NormalForm
import Countersign.Domain.Permitted
import Countersign.Domain.Punycode
import Countersign.Engine
import Countersign.Exchange.Basic
import Countersign.Exchange.Note
import Countersign.Failure
import Countersign.Forward.Target
import Countersign.Forward.Transport
import Countersign.Forward.Url
import Countersign.Front
import Countersign.Handler.Program
import Countersign.Handler.Script
import Countersign.Http.Framing
import Countersign.Http.Framing.Request
import Countersign.Http.Framing.Response
import Countersign.Http.Headers
import Countersign.Http.HopByHop
import Countersign.Http.Message
import Countersign.Http.Uri
import Countersign.Http.Wire
import Countersign.Lookup
import Countersign.Main
import Countersign.ObjectStorage
import Countersign.Operation
import Countersign.Pattern.Bracket
import Countersign.Pattern.Primitive
import Countersign.Pattern.Reading
import Countersign.Proofs.Call.Preparation
import Countersign.Proofs.Call.Rewriting
import Countersign.Proofs.Duplication.Fidelity
import Countersign.Proofs.Duplication.Outstanding
import Countersign.Proofs.Duplication.Progress
import Countersign.Proofs.Duplication.Run
import Countersign.Proofs.Engine.Authentication
import Countersign.Proofs.Engine.Conclusion
import Countersign.Proofs.Engine.Dispatch
import Countersign.Proofs.Engine.Gate
import Countersign.Proofs.Engine.Scope
import Countersign.Proofs.Engine.Stages
import Countersign.Proofs.Exchange.Delivery
import Countersign.Proofs.Exchange.Events
import Countersign.Proofs.Exchange.Frame
import Countersign.Proofs.Exchange.Resigning
import Countersign.Proofs.Exchange.Sink
import Countersign.Proofs.Fallible
import Countersign.Proofs.Front.Answer
import Countersign.Proofs.Front.Watching
import Countersign.Proofs.Http.HeaderText
import Countersign.Proofs.Http.HopByHop
import Countersign.Proofs.Provider.Classification
import Countersign.Proofs.Signature.CanonicalForm
import Countersign.Proofs.Signature.Coverage
import Countersign.Proofs.Signature.Reading
import Countersign.Proofs.Signature.Resource
import Countersign.Proofs.Signature.Signing
import Countersign.Proofs.Signature.Swap
import Countersign.Proofs.Text.Characters
import Countersign.Proofs.Text.Cutting
import Countersign.Proofs.Text.Ordering
import Countersign.Proofs.Text.Percent
import Countersign.Proofs.Text.Utf8
import Countersign.Provider.Basic
import Countersign.Provider.Registry
import Countersign.Response
import Countersign.Server.HealthCheck
import Countersign.Server.LogFilter
import Countersign.Server.RequestId
import Countersign.Server.Startup
import Countersign.Settings
import Countersign.Settings.Document
import Countersign.Signature.Authorization
import Countersign.Signature.Canonical
import Countersign.Signature.Fault
import Countersign.Signature.Resigning
import Countersign.Signature.Signing
import Countersign.Summary
import Countersign.Text.Basic
import Countersign.Text.Blank
import Countersign.Text.Decimal
import Countersign.Text.Elapsed
import Countersign.Text.Hex
import Countersign.Text.Hidden
import Countersign.Text.Letter
import Countersign.Text.Percent
import Countersign.Text.Quoted
import Countersign.Text.Ranges
import Countersign.Text.StringObject
import Countersign.Text.Utf8
import Countersign.Timestamp
import Countersign.Proofs.Signature.Rendering
import Countersign.Proofs.Signature.Tolerance
import Countersign.Proofs.Body.Stream
import Countersign.Proofs.Engine.Forwarding
import Countersign.Proofs.Cascade.Row
import Countersign.Proofs.Cascade.Share
import Countersign.Proofs.Cascade.Run
import Countersign.Proofs.Cascade.Fidelity
import Countersign.Proofs.Cascade.Progress
import Countersign.Proofs.Exchange.Abandonment
import Countersign.Proofs.Engine.Duplication
import Countersign.Proofs.Duplication.Standstill
import Countersign.Proofs.Duplication.Completion
import Countersign.Proofs.Duplication.Desertion
import Countersign.Proofs.Engine.Addressing
import Countersign.Proofs.Engine.Secrecy
import Countersign.Proofs.Duplication.Buffering
import Countersign.Proofs.Exchange.Attempt
import Countersign.Proofs.Http.UriText
import Countersign.Proofs.Exchange.Retrying
import Countersign.Proofs.Forward.Address
import Countersign.Proofs.Signature.Layout
import Countersign.Proofs.Signature.NormalForm
import Countersign.Proofs.Timestamp.Reading
import Countersign.Proofs.Engine.Dating
import Countersign.Proofs.Provider.Choice
import Countersign.Proofs.Engine.Resolution
import Countersign.Proofs.Text.Trimming
import Countersign.Proofs.Text.Decimal
import Countersign.Proofs.Text.Firsts
import Countersign.Proofs.Settings.Services
import Countersign.Proofs.Settings.Loading
import Countersign.Proofs.Provider.Registration
import Countersign.Proofs.Http.Stripping
import Countersign.Proofs.Text.StringObject
import Countersign.Proofs.Front.Report
