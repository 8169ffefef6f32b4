import HealthCheckFirmware.Lib.BoundedMap
import HealthCheckFirmware.Lib.BoundedQueue
import HealthCheckFirmware.Lib.CPrint
import HealthCheckFirmware.Lib.CScan
import HealthCheckFirmware.Lib.CString
import HealthCheckFirmware.Lib.CText
import HealthCheckFirmware.Lib.Calendar
import HealthCheckFirmware.Lib.Codec
import HealthCheckFirmware.Lib.Crc
import HealthCheckFirmware.Lib.CrcBurst
import HealthCheckFirmware.Lib.FailedSave
import HealthCheckFirmware.Lib.Fair
import HealthCheckFirmware.Lib.Json
import HealthCheckFirmware.Lib.JsonString
import HealthCheckFirmware.Lib.KeyedList
import HealthCheckFirmware.Lib.MultiSector
import HealthCheckFirmware.Lib.NorFlash
import HealthCheckFirmware.Lib.PlainStore
import HealthCheckFirmware.Lib.PowerLoss
import HealthCheckFirmware.Lib.ReadFailure
import HealthCheckFirmware.Lib.Run
import HealthCheckFirmware.Lib.Sealed
import HealthCheckFirmware.Lib.SharedRing
import HealthCheckFirmware.Lib.SlotScan
import HealthCheckFirmware.Lib.SlotTable
import HealthCheckFirmware.Lib.SnapshotStore
import HealthCheckFirmware.Lib.Steady
import HealthCheckFirmware.Lib.StoredProperty
import HealthCheckFirmware.Lib.TwoBank
import HealthCheckFirmware.Storage.Atomicity
import HealthCheckFirmware.Storage.CallbackConfig
import HealthCheckFirmware.Storage.Checksum
import HealthCheckFirmware.Storage.FailedMutation
import HealthCheckFirmware.Storage.HealthCheckConfig
import HealthCheckFirmware.Storage.Sector
import HealthCheckFirmware.Storage.TlsServerCredentials
import HealthCheckFirmware.Storage.TlsTrustStore
import HealthCheckFirmware.Storage.TrustMigration
import HealthCheckFirmware.Storage.UnreadBanks
import HealthCheckFirmware.Storage.UploadOrder
import HealthCheckFirmware.Storage.UserMap
import HealthCheckFirmware.Storage.UserStore
import HealthCheckFirmware.Auth.Accounts
import HealthCheckFirmware.Auth.AuthService
import HealthCheckFirmware.Auth.Expiry
import HealthCheckFirmware.Auth.Rotation
import HealthCheckFirmware.Auth.Sessions
import HealthCheckFirmware.Auth.Transitions
import HealthCheckFirmware.Log.HealthCheckLog
import HealthCheckFirmware.Log.PowerLoss
import HealthCheckFirmware.Log.ReportedErrors
import HealthCheckFirmware.Log.Ring
import HealthCheckFirmware.Log.Runs
import HealthCheckFirmware.Reset.Button
import HealthCheckFirmware.Reset.Erasure
import HealthCheckFirmware.Reset.Gesture
import HealthCheckFirmware.Network.NetworkService
import HealthCheckFirmware.Callback.CallbackService
import HealthCheckFirmware.Callback.Encoding
import HealthCheckFirmware.Callback.Pipeline
import HealthCheckFirmware.Api.AccessControl
import HealthCheckFirmware.Api.Addressing
import HealthCheckFirmware.Api.Answers
import HealthCheckFirmware.Api.Changes
import HealthCheckFirmware.Api.Deletion
import HealthCheckFirmware.Api.Dispatch
import HealthCheckFirmware.Api.Documents
import HealthCheckFirmware.Api.Framing
import HealthCheckFirmware.Api.Json
import HealthCheckFirmware.Api.JsonEscape
import HealthCheckFirmware.Api.Listings
import HealthCheckFirmware.Api.LogResponse
import HealthCheckFirmware.Api.PartialUpdate
import HealthCheckFirmware.Api.Reading
import HealthCheckFirmware.Api.Request
import HealthCheckFirmware.Api.Response
import HealthCheckFirmware.Api.Wire
import HealthCheckFirmware.Transport.Connection
import HealthCheckFirmware.Transport.RequestText
import HealthCheckFirmware.Transport.Stages
import HealthCheckFirmware.Transport.StatusLine
import HealthCheckFirmware.Transport.Streams
import HealthCheckFirmware.Transport.TlsTransport
import HealthCheckFirmware.Monitor.CertificateExpiry
import HealthCheckFirmware.Monitor.CertificateWarning
import HealthCheckFirmware.Flash.Layout
import HealthCheckFirmware.Flash.PageProgram
import HealthCheckFirmware.Flash.SectorErase
import HealthCheckFirmware.Ethernet.Receive
import HealthCheckFirmware.Ethernet.Rings
import HealthCheckFirmware.Ethernet.Transmit
import HealthCheckFirmware.Startup.Calm
import HealthCheckFirmware.Startup.ErasedFlash
import HealthCheckFirmware.Startup.Interface
import HealthCheckFirmware.Startup.OutgoingRequests
import HealthCheckFirmware.Startup.PendingReset
import HealthCheckFirmware.Startup.Services
import HealthCheckFirmware.Startup.StoredTexts
import HealthCheckFirmware.Startup.TrustReferences
