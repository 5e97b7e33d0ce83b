import SkfService.Api.Answers
import SkfService.Api.Page
import SkfService.Api.Peers
import SkfService.Api.Promises
import SkfService.Api.Settlements
import SkfService.Api.SkfApi
import SkfService.Asn1.Der
import SkfService.Asn1.Octets
import SkfService.Asn1.Pkcs10
import SkfService.Conduct.Dispatch
import SkfService.Conduct.Domain
import SkfService.Conduct.Effects
import SkfService.Conduct.Monitor
import SkfService.Conduct.Rules
import SkfService.Config.EnvVars
import SkfService.Config.LibPaths
import SkfService.Connection.Accounts
import SkfService.Connection.Authorization
import SkfService.Connection.Changes
import SkfService.Connection.Client
import SkfService.Connection.Conversation
import SkfService.Connection.Correlation
import SkfService.Connection.Deadlines
import SkfService.Connection.DeviceLoss
import SkfService.Connection.Exchange
import SkfService.Connection.HandleEffects
import SkfService.Connection.JsonRpcSession
import SkfService.Connection.Replies
import SkfService.Connection.Resets
import SkfService.Connection.Service
import SkfService.Connection.Unavailable
import SkfService.Connection.Wording
import SkfService.Crypto.Der
import SkfService.Crypto.Encoding
import SkfService.Crypto.HexText
import SkfService.Crypto.Trees
import SkfService.Csr.Encoding
import SkfService.Csr.Lengths
import SkfService.Csr.PemText
import SkfService.Csr.Request
import SkfService.Csr.RoundTrip
import SkfService.Csr.RsaKeys
import SkfService.Csr.Runs
import SkfService.Csr.Signatures
import SkfService.Csr.Subject
import SkfService.Custody.Direct
import SkfService.Custody.Domain
import SkfService.Custody.Inventory
import SkfService.Custody.Release
import SkfService.Dispatch.Applications
import SkfService.Dispatch.CertBytes
import SkfService.Dispatch.CertKeys
import SkfService.Dispatch.CertTree
import SkfService.Dispatch.Changes
import SkfService.Dispatch.Classification
import SkfService.Dispatch.Context
import SkfService.Dispatch.DefaultAlias
import SkfService.Dispatch.Device
import SkfService.Dispatch.Direct
import SkfService.Dispatch.EnvelopedKey
import SkfService.Dispatch.FindCertificates
import SkfService.Dispatch.HandleRequest
import SkfService.Dispatch.HostOnly
import SkfService.Dispatch.IssueCertificate
import SkfService.Dispatch.Numbers
import SkfService.Dispatch.PublicKeys
import SkfService.Dispatch.Random
import SkfService.Dispatch.Routine
import SkfService.Dispatch.Rules
import SkfService.Dispatch.Scopes
import SkfService.Dispatch.Session
import SkfService.Dispatch.Unavailable
import SkfService.Dispatch.VendorBuffers
import SkfService.Domain.Certificates
import SkfService.Domain.Common
import SkfService.Domain.Container
import SkfService.Domain.Crypto
import SkfService.Domain.Keys
import SkfService.Failures.Branches
import SkfService.Failures.Guarded
import SkfService.Failures.Honest
import SkfService.Failures.Issuing
import SkfService.Failures.Native
import SkfService.Failures.Requests
import SkfService.Failures.Verdicts
import SkfService.Gates.Branches
import SkfService.Gates.Guarded
import SkfService.Gates.Monitor
import SkfService.Gates.SharedGate
import SkfService.Gates.Traffic
import SkfService.Interaction.Alike
import SkfService.Interaction.Asks
import SkfService.Interaction.Gives
import SkfService.Interaction.History
import SkfService.Interaction.Implement
import SkfService.Interaction.Ledger
import SkfService.Interaction.Monitor
import SkfService.Interaction.Once
import SkfService.Interaction.Oracle
import SkfService.Interaction.Permits
import SkfService.Interaction.Program
import SkfService.Interaction.Run
import SkfService.Interaction.Verdict
import SkfService.Interaction.View
import SkfService.Logging.Faults
import SkfService.Logging.History
import SkfService.Logging.Retention
import SkfService.Logging.RotatingFile
import SkfService.Logging.Rotation
import SkfService.Machine.Layout
import SkfService.Machine.Steps
import SkfService.Panics.Branches
import SkfService.Panics.Setting
import SkfService.Payload.Branches
import SkfService.Payload.CipherRoom
import SkfService.Payload.Decoded
import SkfService.Payload.Lengths
import SkfService.Payload.Plain
import SkfService.Payload.Refusals
import SkfService.Payload.Setting
import SkfService.Protocol.Params
import SkfService.Protocol.PayloadGuard
import SkfService.Protocol.Rpc
import SkfService.Provider.Buffers
import SkfService.Provider.Ciphers
import SkfService.Provider.GuardAccounts
import SkfService.Provider.GuardLifetimes
import SkfService.Provider.GuardSteps
import SkfService.Provider.Native
import SkfService.Provider.NativeDevices
import SkfService.Provider.Symbols
import SkfService.Provider.Types
import SkfService.Server.BlockingWork
import SkfService.Server.Clients
import SkfService.Server.ConnectionCap
import SkfService.Server.Diagnostic
import SkfService.Server.FailureReason
import SkfService.Server.LibraryCache
import SkfService.Server.Lifecycle
import SkfService.Server.Startup
import SkfService.Server.StatusFile
import SkfService.Server.StatusRead
import SkfService.Server.WinService
import SkfService.Session.Auth
import SkfService.Session.AuthRuns
import SkfService.Session.HandleRuns
import SkfService.Session.Handles
import SkfService.Session.Lifetime
import SkfService.Session.Registry
import SkfService.Session.State
import SkfService.Skf.Interface
import SkfService.Skf.Layouts
import SkfService.Skf.Rules
import SkfService.Streams.Branches
import SkfService.Streams.Effects
import SkfService.Streams.Hashes
import SkfService.Streams.Requests
import SkfService.Streams.Runs
import SkfService.Text.Armour
import SkfService.Text.Base64
import SkfService.Text.Chars
import SkfService.Text.Encoded
import SkfService.Text.Json
import SkfService.Text.JsonLines
import SkfService.Text.JsonMembers
import SkfService.Text.JsonReader
import SkfService.Text.JsonScalars
import SkfService.Text.JsonText
import SkfService.Text.Markers
import SkfService.Text.Pem
import SkfService.Text.Split
import SkfService.Text.Trim
import SkfService.Text.Utf8
import SkfService.Wording.Branches
import SkfService.Wording.Rules
