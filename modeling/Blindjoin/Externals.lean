import Blindjoin.Bitcoin.Rpc

/-!
# What the coordinator calls

The functions of third-party crates the coordinator relies on, as parameters:
hashes, encodings, signature schemes, the parsers of addresses and keys, and the
parts of the `bitcoin` crate that are computations rather than data. Nothing is
assumed of them here. A theorem that needs something takes it as a hypothesis; what
several theorems need has a name, `Blindjoin.Externals.ReadsKeys` and
`Blindjoin.Externals.ExtractsSigned` below, and other structures of laws where they
are used.
-/

namespace Blindjoin

/-- The UTF-8 bytes of a text, `str::as_bytes`. -/
def utf8 (s : String) : Bytes := s.toUTF8.data.toList

/-- A public key of the blind signature scheme, `BjPublicKey`. -/
structure RsaPublicKey where
  der : Bytes
deriving DecidableEq

/-- A secret key of the blind signature scheme, `BjSecretKey`. -/
structure RsaSecretKey where
  der : Bytes
deriving DecidableEq

/-- A `bitcoin::Address`, checked for a network. -/
structure Address where
  network : Network
  scriptPubkey : Script
deriving DecidableEq

/-- A `bitcoin::PublicKey`: its serialization, and whether it is the compressed
one. -/
structure PublicKey where
  bytes : Bytes
  compressed : Bool
deriving DecidableEq

/-- A `bitcoin::CompressedPublicKey`, as the 33 bytes of its serialization. -/
abbrev CompressedPublicKey := List.Vector UInt8 33

/-- A taproot signature hash type the coordinator accepts. -/
inductive TapSighashType
  | default
  | all
deriving DecidableEq, Repr

/-- The third-party functions the coordinator calls. -/
structure Externals where
  /-- `Sha256::digest`. -/
  sha256 : Bytes → Bytes32
  /-- `hash160::Hash::hash`. -/
  hash160 : Bytes → Bytes20
  /-- HMAC-SHA256 under a key. -/
  hmacSha256 : Bytes → Bytes → Bytes32
  /-- Base64 encoding, standard alphabet. -/
  base64Encode : Bytes → String
  /-- Base64 decoding, standard alphabet. -/
  base64Decode : String → Except String Bytes
  /-- `hex::decode`. -/
  hexDecode : String → Except String Bytes
  /-- `serde_json::from_str::<Vec<String>>`. -/
  jsonStringArray : String → Option (List String)
  /-- `serde_json::from_str` at `OwnershipProof`: version, witness stack,
  base64 PSBT input, and declared script type. -/
  jsonOwnershipProof :
    String → Except String (UInt8 × Witness × Option String × Option ScriptType)
  /-- `serde_json::from_value` at the node's answer to `gettxout`. -/
  txOutFromJson : Value → Except String GetTxOut
  /-- The text of a failed `Txid::from_str`. -/
  txidParseError : String → String
  /-- `BjSecretKey::blind_sign`. -/
  blindSign : RsaSecretKey → Bytes → Except String Bytes
  /-- `BjPublicKey::verify`: signature, message randomizer, message. -/
  rsaVerify : RsaPublicKey → Bytes → Option Bytes32 → Bytes → Bool
  /-- `Address::from_str`, `require_network`, `script_pubkey`. -/
  addressToScript : String → Network → Except String Script
  /-- `Address::from_script`. -/
  addressFromScript : Script → Network → Except String Address
  /-- `Address::is_related_to_pubkey`. -/
  isRelatedToPubkey : Address → PublicKey → Bool
  /-- `bip322::verify_simple`. -/
  bip322VerifySimple : Address → Bytes → Witness → Except String Unit
  /-- `CompressedPublicKey::from_slice`. The bytes are those of a key in any form, the
  result is its compressed form. -/
  compressedPublicKey : Bytes → Option CompressedPublicKey
  /-- `bitcoin::PublicKey::from_slice`. -/
  publicKey : Bytes → Option PublicKey
  /-- `ecdsa::Signature::from_der` accepts. -/
  isDerSignature : Bytes → Bool
  /-- `Secp256k1::verify_ecdsa`: digest, DER signature, key. -/
  verifyEcdsa : Bytes32 → Bytes → CompressedPublicKey → Bool
  /-- `XOnlyPublicKey::from_slice` accepts. -/
  isXOnlyKey : Bytes → Bool
  /-- `Secp256k1::verify_schnorr`: digest, signature, x-only key. -/
  verifySchnorr : Bytes32 → Bytes → Bytes → Bool
  /-- `SighashCache::p2wpkh_signature_hash` with `SIGHASH_ALL`: input index,
  script, value. -/
  p2wpkhSignatureHash : Transaction → ℕ → Script → ℕ → Option Bytes32
  /-- `SighashCache::taproot_key_spend_signature_hash` over all previous outputs. -/
  taprootSignatureHash : Transaction → ℕ → List TxOut → TapSighashType → Option Bytes32
  /-- `bitcoin::consensus::deserialize::<Witness>`. -/
  deserializeWitness : Bytes → Except String Witness
  /-- `Psbt::deserialize`. -/
  psbtDeserialize : Bytes → Except String Psbt
  /-- `Psbt::serialize`. -/
  psbtSerialize : Psbt → Bytes
  /-- `Psbt::extract_tx`. -/
  extractTx : Psbt → Except String Transaction
  /-- `consensus::encode::serialize_hex`. -/
  serializeHex : Transaction → String
  /-- The outpoints a node finds spent by a transaction it was sent in
  hexadecimal. -/
  spentOutpoints : String → List OutPoint

namespace Externals

variable (E : Externals)

/-- `CompressedPublicKey::wpubkey_hash`. -/
def wpubkeyHash (key : CompressedPublicKey) : Bytes20 := E.hash160 key.toList

/-- `Script::script_hash`. -/
def scriptHash (s : Script) : Bytes20 := E.hash160 s

/-- What the two parsers of keys are documented to do: a key in thirty-three bytes is
read as these bytes, by both or by neither, and the general one keeps what it read. -/
structure ReadsKeys : Prop where
  compressed : ∀ bs key, E.compressedPublicKey bs = some key → bs.length = 33 → key.toList = bs
  bytes : ∀ bs key, E.publicKey bs = some key →
    key.bytes = bs ∧ (key.compressed = true ↔ bs.length = 33)
  agree : ∀ bs key, E.publicKey bs = some key → bs.length = 33 →
    ∃ key', E.compressedPublicKey bs = some key'

/-- What `Psbt::extract_tx` is documented to do where it does not fail: it gives the
unsigned transaction with the final scripts and witnesses of the inputs. -/
def ExtractsSigned : Prop :=
  ∀ psbt tx, E.extractTx psbt = .ok tx → tx = psbt.extracted

variable {E} {bs : Bytes}

/-- A compressed key is read as itself. -/
theorem ReadsKeys.compressedPublicKey_toList (h : E.ReadsKeys) (pubkey : CompressedPublicKey)
    {key : PublicKey} (hkey : E.publicKey pubkey.toList = some key) :
    E.compressedPublicKey pubkey.toList = some pubkey := by
  obtain ⟨key', hkey'⟩ := h.agree _ _ hkey pubkey.toList_length
  have hsame := h.compressed _ _ hkey' pubkey.toList_length
  rw [hkey', List.Vector.toList_injective hsame]

/-- What the general parser reads as compressed is a compressed key. -/
theorem ReadsKeys.exists_of_compressed (h : E.ReadsKeys) {key : PublicKey}
    (hkey : E.publicKey bs = some key) (hcompressed : key.compressed = true) :
    ∃ pubkey : CompressedPublicKey, bs = pubkey.toList ∧ key = ⟨pubkey.toList, true⟩ ∧
      E.compressedPublicKey pubkey.toList = some pubkey := by
  obtain ⟨hbytes, hlen⟩ := h.bytes _ _ hkey
  have h33 := hlen.mp hcompressed
  obtain ⟨bytes, compressed⟩ := key
  obtain rfl : bytes = bs := hbytes
  obtain rfl : compressed = true := hcompressed
  exact ⟨⟨bytes, h33⟩, rfl, rfl, h.compressedPublicKey_toList ⟨bytes, h33⟩ hkey⟩

end Externals

end Blindjoin
