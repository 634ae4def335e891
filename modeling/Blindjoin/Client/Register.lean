import Blindjoin.Client.Discover
import Blindjoin.Client.WalletProof
import Blindjoin.Shared.Info

/-!
# How the client registers

To register its coin the client checks the key of the round, blinds the message of the
output it is going to ask for, proves ownership of the coin, and sends both
(`Blindjoin.prepareInput`). From the answer it unblinds the signature of the message, which
it checks at once (`Blindjoin.finishInput`). Later it registers the output with the message
and the signature, after it made sure that the key is still the same
(`Blindjoin.outputRequest`).

These are `register_input` and `register_output` between their exchanges with the
coordinator.
-/

namespace Blindjoin

/-- What is drawn to blind a message: the randomizer that goes before the message, the
salt of its encoding, and the factor that hides it. -/
structure BlindDraw where
  msgRandomizer : Bytes32
  salt : List.Vector UInt8 48
  factor : ℕ
deriving DecidableEq

/-- A `BlindingResult`: what is sent, and what is kept to unblind the answer. -/
structure BlindingResult where
  blindMessage : Bytes
  secret : Bytes
  msgRandomizer : Option Bytes32
deriving DecidableEq

/-- The third-party functions the client calls, beside those of `Blindjoin.Externals`. -/
structure ClientExternals where
  /-- `BjPublicKey::from_spki`. -/
  fromSpki : Bytes → Except String RsaPublicKey
  /-- `BjPublicKey::blind`, under what it draws. -/
  blind : RsaPublicKey → BlindDraw → Bytes → Except String BlindingResult
  /-- `BjPublicKey::finalize`: blind signature, blinding, message. -/
  finalize : RsaPublicKey → Bytes → BlindingResult → Bytes → Except String Bytes
  /-- `Address::to_string`. -/
  addressToString : Address → String
  /-- The JSON library. -/
  json : JsonCodec

/-- A wallet that takes part in rounds: it has an address for the output and one for the
change. -/
structure RoundWallet (E : Externals) (S : SignerExternals) extends ProofWallet E S where
  coinjoinOutputAddress : Address
  changeAddress : Address
  change : changeScript = changeAddress.scriptPubkey

/-- What the client keeps of its registration. -/
structure RegisteredInputState extends InputRegState where
  blindingSecret : Bytes
  msgRandomizer : Option Bytes32
  messageBytes : Bytes32
  unblindedSig : Bytes
  pkHashAtRegistration : Bytes32
deriving DecidableEq

section Register

variable (E : Externals) (C : ClientExternals) {S : SignerExternals} (wallet : RoundWallet E S)

/-! ### Registering the input -/

/-- The key of the round, with its hash, which the coordinator committed to. -/
def announcedKey (info : InfoResponse) : Except String (RsaPublicKey × Bytes32) := do
  let pkDerB64 ← okOr "Coordinator did not provide RSA public key in /info" info.rsaPubkeyDerB64
  let pkDer ← E.base64Decode pkDerB64
  let pkHashActual := E.sha256 pkDer
  let announcedHash ← okOr "Coordinator did not announce RSA key hash" info.rsaPubkeyHash
  let announcedBytes ← E.hexDecode announcedHash
  require (announcedBytes = pkHashActual.toList)
    "RSA public key hash mismatch — coordinator key commitment violated"
  let pk ← (C.fromSpki pkDer).mapError fun e => s!"Failed to parse coordinator RSA public key: {e}"
  pure (pk, pkHashActual)

/-- The transaction that carries a witness in the second envelope. -/
def v2EnvelopeTx : Transaction where
  version := 2
  lockTime := 0
  input := [{ previousOutput := OutPoint.null, scriptSig := [], sequence := 0, witness := [] }]
  output := []

/-- The envelope of a witness: a transaction whose one input is final. -/
def buildV2PsbtInputB64 (witness : Witness) (finalScriptSig : Option Script) :
    Except String String := do
  let psbt ← (Psbt.fromUnsignedTx v2EnvelopeTx).mapError fun e =>
    s!"Psbt::from_unsigned_tx (v=2 envelope): {e}"
  let psbt := { psbt with
    inputs := psbt.inputs.modifyHead fun input =>
      { input with finalScriptWitness := some witness, finalScriptSig := finalScriptSig } }
  pure (E.base64Encode (E.psbtSerialize psbt))

/-- The envelope a witness is put into. -/
def v2Envelope (witness : Witness) (finalScriptSig : Option Script) : Psbt where
  unsignedTx := v2EnvelopeTx
  inputs := [{ finalScriptWitness := some witness, finalScriptSig := finalScriptSig }]

theorem buildV2PsbtInputB64_eq (witness : Witness) (finalScriptSig : Option Script) :
    buildV2PsbtInputB64 E witness finalScriptSig =
      .ok (E.base64Encode (E.psbtSerialize (v2Envelope witness finalScriptSig))) := rfl

/-- The proof as it is sent: in the first envelope to an old coordinator, else in the
second. That a proof for an old coordinator is one of P2WPKH is asserted in test builds. -/
def ownershipProofFor (isLegacy : Bool) (signed : Bip322SignedProof) :
    Except String OwnershipProof :=
  if isLegacy then .ok ⟨1, signed.witnessStack, none, none⟩
  else do
    let psbtInputB64 ← buildV2PsbtInputB64 E signed.witness signed.finalScriptSig
    pure ⟨2, signed.witnessStack, some psbtInputB64, some signed.scriptType⟩

/-- What the client keeps while it waits for the answer. -/
structure PendingInput where
  pk : RsaPublicKey
  pkHash : Bytes32
  blinding : BlindingResult
  messageBytes : Bytes32
  denominationSats : ℕ
deriving DecidableEq

/-- The request that registers the coin, and what is kept until it is answered. -/
def prepareInput (info : InfoResponse) (coordinatorInfo : CoordinatorInfo) (draw : BlindDraw) :
    Res String (InputRegRequest × PendingInput) := do
  let (pk, pkHashActual) ← ofExcept id (announcedKey E C info)
  let outputScript := wallet.coinjoinOutputAddress.scriptPubkey
  let messageBytes := computeBlindTokenMessage E outputScript info.denominationSats
  let blinding ← ofExcept (fun e => s!"Blinding failed: {e}") (C.blind pk draw messageBytes.toList)
  let roundIdStr := (info.roundId.map Uuid.toText).getD ""
  let bip322Message := ownershipMessage roundIdStr wallet.utxoOutpoint
  let signed ← wallet.signBip322 bip322Message
  let ownershipProof ← ofExcept id
    (ownershipProofFor E coordinatorInfo.capabilities.isLegacy signed)
  pure ({
      utxoOutpoint := wallet.utxoOutpoint.toText
      ownershipProof := ownershipProof.toJsonHexStr C.json
      blindedToken := E.base64Encode blinding.blindMessage
      changeAddress := C.addressToString wallet.changeAddress },
    ⟨pk, pkHashActual, blinding, messageBytes, info.denominationSats⟩)

/-- What the client makes of the answer. -/
def finishInput (pending : PendingInput) (resp : InputRegResponse) :
    Except String RegisteredInputState := do
  let blindSig ← E.base64Decode resp.blindSignature
  let sig ← (C.finalize pending.pk blindSig pending.blinding pending.messageBytes.toList).mapError
    fun e => s!"Unblinding/finalization failed — blind signature invalid: {e}"
  let sessionToken ← E.base64Decode resp.sessionToken
  pure {
    roundId := resp.roundId
    sessionToken := sessionToken
    outputScript := wallet.coinjoinOutputAddress.scriptPubkey
    denominationSats := pending.denominationSats
    blindingSecret := pending.blinding.secret
    msgRandomizer := pending.blinding.msgRandomizer
    messageBytes := pending.messageBytes
    unblindedSig := sig
    pkHashAtRegistration := pending.pkHash }

/-! ### Registering the output -/

/-- The request that registers the output, for what the coordinator says now. -/
def outputRequest (state : RegisteredInputState) (currentInfo : InfoResponse) :
    Except String OutputRegRequest := do
  let pkDerB64 ← okOr "Missing RSA public key in /info during output phase"
    currentInfo.rsaPubkeyDerB64
  let pkDerBytes ← E.base64Decode pkDerB64
  require (E.sha256 pkDerBytes = state.pkHashAtRegistration)
    ("Coordinator rotated RSA key between input and output registration phases — " ++
     "aborting")
  pure {
    unblindedToken := E.base64Encode state.messageBytes.toList
    signature := E.base64Encode state.unblindedSig
    outputAddress := C.addressToString wallet.coinjoinOutputAddress
    amountSats := currentInfo.denominationSats
    msgRandomizer := state.msgRandomizer.map fun mr => E.base64Encode mr.toList }

end Register

end Blindjoin
