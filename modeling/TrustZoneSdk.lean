import TrustZoneSdk.Foundation.Assignments
import TrustZoneSdk.Foundation.BitField
import TrustZoneSdk.Foundation.BitLength
import TrustZoneSdk.Foundation.BoxHeap
import TrustZoneSdk.Foundation.ByteCounter
import TrustZoneSdk.Foundation.ByteMemory
import TrustZoneSdk.Foundation.CString
import TrustZoneSdk.Foundation.CodeTable
import TrustZoneSdk.Foundation.Dialogue
import TrustZoneSdk.Foundation.Directory
import TrustZoneSdk.Foundation.Drain
import TrustZoneSdk.Foundation.Ending
import TrustZoneSdk.Foundation.Fallible
import TrustZoneSdk.Foundation.FiniteMap
import TrustZoneSdk.Foundation.Footprint
import TrustZoneSdk.Foundation.HexText
import TrustZoneSdk.Foundation.Json
import TrustZoneSdk.Foundation.Ledger
import TrustZoneSdk.Foundation.LittleEndian
import TrustZoneSdk.Foundation.LoadImage
import TrustZoneSdk.Foundation.MachineWord
import TrustZoneSdk.Foundation.PathText
import TrustZoneSdk.Foundation.PrefixCodec
import TrustZoneSdk.Foundation.Rfc4122
import TrustZoneSdk.Foundation.Script
import TrustZoneSdk.Foundation.Split
import TrustZoneSdk.Foundation.StructLayout
import TrustZoneSdk.Foundation.Transfer
import TrustZoneSdk.Foundation.Utf8
import TrustZoneSdk.SecureDb.Backend
import TrustZoneSdk.SecureDb.Bincode
import TrustZoneSdk.SecureDb.Client
import TrustZoneSdk.SecureDb.CrashConsistency
import TrustZoneSdk.SecureDb.Db
import TrustZoneSdk.SecureDb.Failure
import TrustZoneSdk.SecureDb.Isolation
import TrustZoneSdk.SecureDb.Program
import TrustZoneSdk.SecureDb.Refinement
import TrustZoneSdk.SecureDb.Storable
import TrustZoneSdk.SecureDb.TableName
import TrustZoneSdk.SecureDb.Tables
import TrustZoneSdk.Utee.Arithmetical
import TrustZoneSdk.Utee.Call
import TrustZoneSdk.Utee.CryptoOp
import TrustZoneSdk.Utee.Deprecated
import TrustZoneSdk.Utee.EntryPoint
import TrustZoneSdk.Utee.Error
import TrustZoneSdk.Utee.Handles
import TrustZoneSdk.Utee.MemrefBoundary
import TrustZoneSdk.Utee.OutputBuffer
import TrustZoneSdk.Utee.Parameter
import TrustZoneSdk.Utee.Plugin
import TrustZoneSdk.Utee.Property
import TrustZoneSdk.Utee.Reply
import TrustZoneSdk.Utee.Session
import TrustZoneSdk.Utee.Slot
import TrustZoneSdk.Utee.Socket
import TrustZoneSdk.Utee.SocketAdapter
import TrustZoneSdk.Utee.TeeParams
import TrustZoneSdk.Teec.Error
import TrustZoneSdk.Teec.Operation
import TrustZoneSdk.Teec.Plugin
import TrustZoneSdk.Teec.PluginOutput
import TrustZoneSdk.Teec.Session
import TrustZoneSdk.UteeBuild.CodeGenerator
import TrustZoneSdk.UteeBuild.PropertyTable
import TrustZoneSdk.Boundary.Operation
import TrustZoneSdk.Boundary.Plugin
import TrustZoneSdk.Boundary.PositionedWrite
import TrustZoneSdk.Boundary.Property
import TrustZoneSdk.Boundary.Result
import TrustZoneSdk.Boundary.Uuid
import TrustZoneSdk.CargoOptee.Artifacts
import TrustZoneSdk.CargoOptee.BuildFlow
import TrustZoneSdk.CargoOptee.BuildPlan
import TrustZoneSdk.CargoOptee.BuildUuid
import TrustZoneSdk.CargoOptee.CargoCommand
import TrustZoneSdk.CargoOptee.Config
import TrustZoneSdk.CargoOptee.ElfUuid
import TrustZoneSdk.CargoOptee.Metadata
import TrustZoneSdk.CargoOptee.PluginCopy
import TrustZoneSdk.CargoOptee.TaBuilder
import TrustZoneSdk.EthWallet.Bincode
import TrustZoneSdk.EthWallet.Command
import TrustZoneSdk.EthWallet.Host
import TrustZoneSdk.EthWallet.Proto
import TrustZoneSdk.EthWallet.Sharing
import TrustZoneSdk.EthWallet.Wallets
import TrustZoneSdk.TrustedApps.Aes
import TrustZoneSdk.TrustedApps.AesSession
import TrustZoneSdk.TrustedApps.Command
import TrustZoneSdk.TrustedApps.Hotp
import TrustZoneSdk.TrustedApps.SecureStorage
import TrustZoneSdk.TrustedApps.SocketClient
import TrustZoneSdk.TrustedApps.TlsServer
