import TrustZoneSdk.Foundation.Rfc4122
import TrustZoneSdk.SecureDb.TableName
import TrustZoneSdk.SecureDb.Tables

/-!
# The messages of the Ethereum wallet

Commands, their inputs and outputs and the stored wallet.  How they look on the
wire is the matter of a serializer, which may fail; `Formats` is what it does
at each type.
-/

namespace TrustZoneSdk.EthWallet

open TrustZoneSdk.Foundation
open TrustZoneSdk.SecureDb

/-! ## Identifiers -/

abbrev Uuid := UuidOctets

/-- Version 4 and the variant bits are put over the random bytes. -/
def Uuid.fromRandomBytes (random : Uuid) : Uuid where
  bytes := (random.bytes.modify 6 fun b => (b &&& 0x0f) ||| 0x40).modify 8
    fun b => (b &&& 0x3f) ||| 0x80
  size := by simp [random.size]

structure Address where
  bytes : Bytes
  size : bytes.length = 20
  deriving DecidableEq

/-! ## Commands -/

inductive Command where
  | createWallet
  | removeWallet
  | deriveAddress
  | signTransaction
  | unknown
  deriving DecidableEq, Repr

def Command.fromPrimitive (code : UInt32) : Command :=
  if code = 0 then .createWallet
  else if code = 1 then .removeWallet
  else if code = 2 then .deriveAddress
  else if code = 3 then .signTransaction
  else .unknown

def Command.intoPrimitive : Command → UInt32
  | .createWallet => 0
  | .removeWallet => 1
  | .deriveAddress => 2
  | .signTransaction => 3
  | .unknown => 4

theorem Command.fromPrimitive_intoPrimitive (command : Command) :
    Command.fromPrimitive command.intoPrimitive = command := by
  cases command <;> rfl

structure CreateWalletInput where
  deriving DecidableEq

structure CreateWalletOutput where
  walletId : Uuid
  mnemonic : String
  deriving DecidableEq

structure RemoveWalletInput where
  walletId : Uuid
  deriving DecidableEq

structure RemoveWalletOutput where
  deriving DecidableEq

structure DeriveAddressInput where
  walletId : Uuid
  hdPath : String
  deriving DecidableEq

structure DeriveAddressOutput where
  address : Address
  publicKey : Bytes
  deriving DecidableEq

structure EthTransaction where
  chainId : UInt64
  nonce : BitVec 128
  «to» : Option Address
  value : BitVec 128
  gasPrice : BitVec 128
  gas : BitVec 128
  data : Bytes
  deriving DecidableEq

structure SignTransactionInput where
  walletId : Uuid
  hdPath : String
  transaction : EthTransaction
  deriving DecidableEq

structure SignTransactionOutput where
  signature : Bytes
  deriving DecidableEq

structure Wallet where
  id : Uuid
  entropy : Bytes
  deriving DecidableEq

/-! ## The serializer -/

structure Formats where
  createWalletInput : ValueCodec CreateWalletInput
  createWalletOutput : ValueCodec CreateWalletOutput
  removeWalletInput : ValueCodec RemoveWalletInput
  removeWalletOutput : ValueCodec RemoveWalletOutput
  deriveAddressInput : ValueCodec DeriveAddressInput
  deriveAddressOutput : ValueCodec DeriveAddressOutput
  signTransactionInput : ValueCodec SignTransactionInput
  signTransactionOutput : ValueCodec SignTransactionOutput
  wallet : ValueCodec Wallet

/-- Every value can be written, and is read back. -/
def Faithful {V : Type} (values : ValueCodec V) : Prop :=
  ∀ value, ∃ bytes, values.serialize value = .ok bytes ∧
    values.deserialize bytes = .ok value

structure Formats.Faithful (formats : Formats) : Prop where
  emptyInput : formats.createWalletInput.deserialize [] = .ok ⟨⟩
  createWalletOutput : EthWallet.Faithful formats.createWalletOutput
  removeWalletInput : EthWallet.Faithful formats.removeWalletInput
  removeWalletOutput : EthWallet.Faithful formats.removeWalletOutput
  deriveAddressInput : EthWallet.Faithful formats.deriveAddressInput
  deriveAddressOutput : EthWallet.Faithful formats.deriveAddressOutput
  signTransactionInput : EthWallet.Faithful formats.signTransactionInput
  signTransactionOutput : EthWallet.Faithful formats.signTransactionOutput
  wallet : EthWallet.Faithful formats.wallet

abbrev walletTable : Storable Wallet where
  Key := Uuid
  uniqueId := Wallet.id
  keyToString id := String.ofList id.text
  tableName := tableName "ta::wallet::Wallet"

example : walletTable.tableName = "Wallet" := by decide

end TrustZoneSdk.EthWallet
