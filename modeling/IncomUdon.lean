import IncomUdon.Crypto.Admission
import IncomUdon.Crypto.AdmissionBinding
import IncomUdon.Crypto.Common
import IncomUdon.Crypto.CompactJws
import IncomUdon.Crypto.ControlAuth
import IncomUdon.Crypto.Credential
import IncomUdon.Crypto.Deriver
import IncomUdon.Crypto.DirectoryAad
import IncomUdon.Crypto.DirectoryFixture
import IncomUdon.Crypto.DomainSeparation
import IncomUdon.Crypto.Hkdf
import IncomUdon.Crypto.MediaNonce
import IncomUdon.Crypto.MediaPacket
import IncomUdon.Crypto.PasswordKey
import IncomUdon.Crypto.Raised
import IncomUdon.Crypto.Suite
import IncomUdon.Fec.Accepted
import IncomUdon.Fec.Block
import IncomUdon.Fec.Code
import IncomUdon.Fec.Completion
import IncomUdon.Fec.Conforming
import IncomUdon.Fec.Gf256
import IncomUdon.Fec.Parity
import IncomUdon.Fec.Payload
import IncomUdon.Fec.Product
import IncomUdon.Fec.Recovery
import IncomUdon.Fec.Total
import IncomUdon.Fec.Verdict
import IncomUdon.Lib.BigEndian
import IncomUdon.Lib.BinaryPoly
import IncomUdon.Lib.CharClass
import IncomUdon.Lib.Codec
import IncomUdon.Lib.ErrorLog
import IncomUdon.Lib.ExclusiveCursor
import IncomUdon.Lib.GuardedRun
import IncomUdon.Lib.Handover
import IncomUdon.Lib.KeyedOrder
import IncomUdon.Lib.Lease
import IncomUdon.Lib.Memo
import IncomUdon.Lib.ParityCode
import IncomUdon.Lib.ReplayWindow
import IncomUdon.Lib.RetainedLog
import IncomUdon.Lib.SelfDelimiting
import IncomUdon.Lib.Spacing
import IncomUdon.Lifecycle.CodecPolicy
import IncomUdon.Lifecycle.Common
import IncomUdon.Lifecycle.ControlPayloads
import IncomUdon.Lifecycle.Directory.ExpiredRegistration
import IncomUdon.Lifecycle.Directory.Fragments
import IncomUdon.Lifecycle.Directory.Pagination
import IncomUdon.Lifecycle.Directory.Reassembly
import IncomUdon.Lifecycle.Directory.Registration
import IncomUdon.Lifecycle.Directory.RegistrationRun
import IncomUdon.Lifecycle.Directory.Replay
import IncomUdon.Lifecycle.Directory.ReplayWatermark
import IncomUdon.Lifecycle.Directory.StagedPages
import IncomUdon.Lifecycle.FloorInterrupt
import IncomUdon.Lifecycle.FloorInterruptDocument
import IncomUdon.Lifecycle.FloorPackets
import IncomUdon.Lifecycle.FloorPreemption
import IncomUdon.Lifecycle.MediaDelivery
import IncomUdon.Lifecycle.MediaReplay
import IncomUdon.Lifecycle.MediaReplayDocument
import IncomUdon.Lifecycle.MediaReplayErrors
import IncomUdon.Lifecycle.Membership
import IncomUdon.Lifecycle.MembershipDocument
import IncomUdon.Lifecycle.MembershipLease
import IncomUdon.Lifecycle.MembershipRun
import IncomUdon.Lifecycle.PrivateControlLink.CounterDomain
import IncomUdon.Lifecycle.PrivateControlLink.CsvRules
import IncomUdon.Lifecycle.PrivateControlLink.DenyRule
import IncomUdon.Lifecycle.PrivateControlLink.Diagnostics
import IncomUdon.Lifecycle.PrivateControlLink.GrantHash
import IncomUdon.Lifecycle.PrivateControlLink.GrantRevocation
import IncomUdon.Lifecycle.PrivateControlLink.Polling
import IncomUdon.Lifecycle.PrivateControlLink.Redaction
import IncomUdon.Lifecycle.PrivateControlLink.Renewals
import IncomUdon.Lifecycle.PrivateControlLink.Retries
import IncomUdon.Lifecycle.PrivateControlLink.Revocation
import IncomUdon.Lifecycle.PrivateControlLink.ServiceId
import IncomUdon.Lifecycle.PrivateControlLink.Snapshot
import IncomUdon.Lifecycle.PrivateControlLink.SnapshotAssembly
import IncomUdon.Lifecycle.PrivateControlLink.SnapshotProjection
import IncomUdon.Lifecycle.Release
import IncomUdon.Lifecycle.ReleaseCases
import IncomUdon.Lifecycle.ReplayRules
import IncomUdon.Lifecycle.ServiceGrace
import IncomUdon.Lifecycle.SseDelivery
import IncomUdon.Lifecycle.SseResume
import IncomUdon.Lifecycle.SseStream
import IncomUdon.Lifecycle.Suite
import IncomUdon.Loader
import IncomUdon.Packet.Datagram
import IncomUdon.Packet.Encoder
import IncomUdon.Packet.Reader
import IncomUdon.Packet.Suite
import IncomUdon.Pointer.Resolve
import IncomUdon.Pointer.Rfc6901
import IncomUdon.Python.Base64
import IncomUdon.Python.Bytes
import IncomUdon.Python.JsonText
import IncomUdon.Python.Lines
import IncomUdon.Python.Operators
import IncomUdon.Python.Outcome
import IncomUdon.Python.Table
import IncomUdon.Python.Text
import IncomUdon.Python.Value
import IncomUdon.SchemaTargets.Coverage
import IncomUdon.SchemaTargets.Handled
import IncomUdon.SchemaTargets.Manifest
import IncomUdon.SchemaTargets.Repository
import IncomUdon.SchemaTargets.Targets
import IncomUdon.SpecVersion.Gate
import IncomUdon.SpecVersion.Version
import IncomUdon.Validator.Documents
import IncomUdon.Validator.Suites
