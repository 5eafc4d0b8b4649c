import TrustZoneSdk.EthWallet.Proto
import TrustZoneSdk.Foundation.PrefixCodec
import TrustZoneSdk.SecureDb.Bincode

/-!
# The wire format of the Ethereum wallet

Fields in order, lengths in front of byte strings, fixed arrays without one.
Bytes behind the last field are ignored.
-/

namespace TrustZoneSdk.EthWallet.Bincode

open TrustZoneSdk.Foundation
open TrustZoneSdk.SecureDb

def format {V : Type} (codec : PrefixCodec V) : ValueCodec V where
  serialize value := .ok (codec.encode value)
  deserialize bytes :=
    match codec.decode bytes with
    | some (value, _) => .ok value
    | none => .error "io error: unexpected end of file"

theorem format_faithful {V : Type} (codec : PrefixCodec V) :
    Faithful (format codec) := by
  intro value
  refine ⟨codec.encode value, rfl, ?_⟩
  simp [format, codec.decode_encode]

def text : PrefixCodec String :=
  ⟨SecureDb.Bincode.encodeText, SecureDb.Bincode.decodeText,
    SecureDb.Bincode.decodeText_suffix⟩

/-- An identifier is a byte string that has to be 16 bytes long. -/
def uuid : PrefixCodec Uuid :=
  PrefixCodec.bytes.refine
    (fun bytes => if h : bytes.length = 16 then some ⟨bytes, h⟩ else none)
    UuidOctets.bytes (fun id => dif_pos id.size)

def address : PrefixCodec Address :=
  (PrefixCodec.block 20).refine (fun bytes => some ⟨bytes.1, bytes.2⟩)
    (fun address => ⟨address.bytes, address.size⟩) (fun _ => rfl)

def ethTransaction : PrefixCodec EthTransaction :=
  ((PrefixCodec.word 8).pair ((PrefixCodec.word 16).pair
    ((PrefixCodec.option address).pair ((PrefixCodec.word 16).pair
      ((PrefixCodec.word 16).pair ((PrefixCodec.word 16).pair
        PrefixCodec.bytes)))))).refine
    (fun (chainId, nonce, «to», value, gasPrice, gas, data) =>
      some ⟨⟨chainId⟩, nonce, «to», value, gasPrice, gas, data⟩)
    (fun t => (t.chainId.toBitVec, t.nonce, t.to, t.value, t.gasPrice, t.gas,
      t.data))
    (fun _ => rfl)

def wallet : PrefixCodec Wallet :=
  (uuid.pair PrefixCodec.bytes).refine
    (fun (id, entropy) => some ⟨id, entropy⟩)
    (fun wallet => (wallet.id, wallet.entropy)) (fun _ => rfl)

def formats : Formats where
  createWalletInput := format (PrefixCodec.unit.refine
    (fun _ => some ⟨⟩) (fun _ => ()) (fun _ => rfl))
  createWalletOutput := format ((uuid.pair text).refine
    (fun (walletId, mnemonic) => some ⟨walletId, mnemonic⟩)
    (fun output => (output.walletId, output.mnemonic)) (fun _ => rfl))
  removeWalletInput := format (uuid.refine
    (fun walletId => some ⟨walletId⟩) RemoveWalletInput.walletId
    (fun _ => rfl))
  removeWalletOutput := format (PrefixCodec.unit.refine
    (fun _ => some ⟨⟩) (fun _ => ()) (fun _ => rfl))
  deriveAddressInput := format ((uuid.pair text).refine
    (fun (walletId, hdPath) => some ⟨walletId, hdPath⟩)
    (fun input => (input.walletId, input.hdPath)) (fun _ => rfl))
  deriveAddressOutput := format ((address.pair PrefixCodec.bytes).refine
    (fun (address, publicKey) => some ⟨address, publicKey⟩)
    (fun output => (output.address, output.publicKey)) (fun _ => rfl))
  signTransactionInput := format ((uuid.pair (text.pair ethTransaction)).refine
    (fun (walletId, hdPath, transaction) =>
      some ⟨walletId, hdPath, transaction⟩)
    (fun input => (input.walletId, input.hdPath, input.transaction))
    (fun _ => rfl))
  signTransactionOutput := format (PrefixCodec.bytes.refine
    (fun signature => some ⟨signature⟩) SignTransactionOutput.signature
    (fun _ => rfl))
  wallet := format wallet

theorem formats_faithful : formats.Faithful where
  emptyInput := rfl
  createWalletOutput := format_faithful _
  removeWalletInput := format_faithful _
  removeWalletOutput := format_faithful _
  deriveAddressInput := format_faithful _
  deriveAddressOutput := format_faithful _
  signTransactionInput := format_faithful _
  signTransactionOutput := format_faithful _
  wallet := format_faithful _

end TrustZoneSdk.EthWallet.Bincode
