import Blindjoin.Coordinator.Utxo
import Blindjoin.Round.Blame
import Blindjoin.Round.InputReg
import Blindjoin.Round.OutputReg
import Blindjoin.Round.Signing

/-!
# The request handlers

A handler holds the round lock only in parts, and between them the round may
change under it. Each handler is therefore given as the sequence of its parts,
one definition for what it does between two lock operations:

* `POST /round/input`: `Blindjoin.checkPhase` and `Blindjoin.postInputOutpoint`,
  then `Blindjoin.postInputBanCheck` and `Blindjoin.postInputDecode`, then
  `Blindjoin.postInputSnapshot`, then `Blindjoin.postInputValidate` without a
  lock, then `Blindjoin.postInputRegister` under the write lock;
* `POST /round/output`: `Blindjoin.checkPhase` and `Blindjoin.postOutputDecode`,
  then `Blindjoin.postOutputRegister` under the write lock;
* `POST /round/sign`: `Blindjoin.checkPhase` and `Blindjoin.postSignDecode`, then
  `Blindjoin.postSignProcess` under the write lock;
* `GET /round/tx`: `Blindjoin.getTx` under the read lock.
-/

namespace Blindjoin

open Collections

/-- Build an error response. -/
def apiError (status : StatusCode) (code message : String) (roundId : Option String) : HttpError :=
  ⟨status, code, message, roundId⟩

/-- The response of a handler that met the round in another phase. -/
def wrongPhase (expected : Phase) (s : RoundState) : HttpError :=
  apiError .conflict "WRONG_PHASE" s!"Expected {expected.asStr}, got {s.phase.asStr}"
    (some s.roundId.toText)

/-- The phase check every handler makes, before and under the write lock. -/
def checkPhase (expected : Phase) (s : RoundState) : Except HttpError Unit :=
  require (s.phase = expected) (wrongPhase expected s)

/-- The network, of a configuration that was validated. -/
def runtimeNetwork {ε : Type} (config : CoordinatorConfig) : Res ε Network :=
  expect "bitcoin_network validated in CoordinatorConfig::validate"
    (parseBitcoinNetwork config.network.bitcoinNetwork).toOption

/-- Exactly thirty-two bytes. -/
def toBytes32 (bs : Bytes) : Option Bytes32 := if h : bs.length = 32 then some ⟨bs, h⟩ else none

section Handlers

variable (E : Externals) (config : CoordinatorConfig)

/-- Decode a base64 field of a request. -/
def decodeField (code field text : String) : Except HttpError Bytes :=
  (E.base64Decode text).mapError fun _ =>
    apiError .badRequest code s!"{field} is not valid base64" none

/-- Decode a base64 field of thirty-two bytes. -/
def decodeField32 (code field text : String) : Except HttpError Bytes32 := do
  let bytes ← decodeField E code field text
  okOr (apiError .badRequest code s!"{field} must be 32 bytes" none) (toBytes32 bytes)

/-! ### `POST /round/input` -/

/-- The outpoint of a registration. -/
def postInputOutpoint (req : InputRegRequest) : Except HttpError OutPoint :=
  okOr (apiError .badRequest "UTXO_NOT_FOUND" "Invalid utxo_outpoint format (expected txid:vout)"
    none) (parseOutpoint req.utxoOutpoint)

/-- The ban check of a registration. It asks for the canonical text of the
parsed outpoint, not for the text of the request. -/
def postInputBanCheck (banList : BanList) (utxo : OutPoint) (now : ℕ) : Except HttpError Unit :=
  require (banList.isBanned E utxo.toText now = false)
    (apiError .forbidden "UTXO_BANNED" "UTXO is temporarily banned" none)

/-- The blinded token and the ownership proof of a registration. The token has
the size of an RSA modulus. -/
def postInputDecode (req : InputRegRequest) : Except HttpError (Bytes × OwnershipProof) := do
  let blindedToken ← decodeField E "INVALID_TOKEN" "blinded_token" req.blindedToken
  require (blindedToken.length = 256 ∨ blindedToken.length = 512)
    (apiError .badRequest "INVALID_TOKEN"
      s!"blinded_token must be 256 or 512 bytes (RSA modulus size), got {blindedToken.length}" none)
  let ownershipProof ← (OwnershipProof.fromJsonHexStr E req.ownershipProof).mapError fun e =>
    apiError .badRequest "INVALID_PROOF" e none
  pure (blindedToken, ownershipProof)

/-- What a registration remembers of the round while it validates the coin. -/
structure InputSnapshot where
  registered : List OutPoint
  roundId : String
deriving DecidableEq

/-- Take the snapshot. -/
def postInputSnapshot (s : RoundState) : InputSnapshot where
  registered := match s.inner with
    | some inner => inner.registeredInputs.keys.filterMap parseOutpoint
    | none => []
  roundId := s.roundId.toText

/-- The response to a refused coin. -/
def utxoHttpError : UtxoError → HttpError
  | .notFound => apiError .badRequest "UTXO_NOT_FOUND" "UTXO not found or already spent" none
  | .alreadyRegistered =>
    apiError .conflict "UTXO_ALREADY_REGISTERED" "UTXO already registered in this round" none
  | .insufficientValue _ required => apiError .badRequest "UTXO_INSUFFICIENT_VALUE"
      s!"UTXO value below required threshold of {required} sats" none
  | .invalidProof _ =>
    apiError .badRequest "INVALID_PROOF" "BIP-322 ownership proof verification failed" none
  | .rpcUnavailable m => apiError .serviceUnavailable "RPC_UNAVAILABLE" m none

/-- Validate the coin and the change address, under the node's answer to
`gettxout`. The fee share is the one of the smallest round. -/
def postInputValidate (req : InputRegRequest) (utxo : OutPoint) (ownershipProof : OwnershipProof)
    (snapshot : InputSnapshot) (answer : HttpAnswer) : Res HttpError UtxoDetails := do
  let feeShare ← estimateFeeShare config.bip config.coordinator.minParticipants
    config.coordinator.feeRateSatPerVbyte
  let network ← runtimeNetwork config
  let details ← ofExcept utxoHttpError <|
    validateUtxo E answer utxo snapshot.registered config.coordinator.denominationSats feeShare
      ownershipProof config.bip network snapshot.roundId
  let _ ← ofExcept (fun e => apiError .badRequest "INVALID_ADDRESS" e none)
    (parseAddressToScript E req.changeAddress network)
  pure details

/-- The response to a round operation that failed: the status belongs to the
error code. -/
def roundHttpError (status : ErrorCode → StatusCode) (roundIdStr : String) (e : ApiError) :
    HttpError :=
  apiError (status e.code) e.code.asStr e.message (some roundIdStr)

/-- The status of a failed registration. -/
def inputStatus : ErrorCode → StatusCode
  | .wrongPhase => .conflict
  | .utxoAlreadyRegistered => .conflict
  | _ => .badRequest

/-- Register the validated coin, under the write lock. Of the snapshot, only the
phase is checked again. -/
def postInputRegister (s : RoundState) (req : InputRegRequest) (utxo : OutPoint)
    (blindedToken : Bytes) (details : UtxoDetails) :
    Res HttpError (RoundState × InputRegResult) := do
  ofExcept id (checkPhase .inputReg s)
  let roundIdStr := s.roundId.toText
  require (s.participantCount < config.coordinator.maxParticipants)
    (.err (apiError .conflict "ROUND_FULL" "Round is full" (some roundIdStr)))
  require (s.inner.isSome)
    (.err (apiError .conflict "WRONG_PHASE" "Round inner state not initialized" (some roundIdStr)))
  let (s', result) ← (registerInput E s utxo blindedToken req.changeAddress details.scriptPubkey
    details.valueSats details.scriptType roundIdStr).mapErr (roundHttpError inputStatus roundIdStr)
  let s'' := if config.coordinator.maxParticipants ≤ s'.participantCount then
      s'.tryTransitionTo .outputReg s'.roundId
    else s'
  pure (s'', result)

/-- The response to an accepted registration. -/
def inputRegResponse (roundId : Uuid) (result : InputRegResult) : InputRegResponse where
  blindSignature := result.blindSignatureB64 E
  roundId := roundId
  sessionToken := result.sessionTokenB64 E

/-! ### `POST /round/output` -/

/-- The decoded fields of an output registration. -/
structure DecodedOutput where
  tokenMsg : Bytes32
  sigBytes : Bytes
  msgRandomizer : Option Bytes32
  outputScript : Script
deriving DecidableEq

/-- Decode an output registration. -/
def postOutputDecode (req : OutputRegRequest) : Res HttpError DecodedOutput := do
  let tokenMsg ← ofExcept id (decodeField32 E "INVALID_TOKEN" "unblinded_token" req.unblindedToken)
  let sigBytes ← ofExcept id (decodeField E "INVALID_TOKEN" "signature" req.signature)
  let msgRandomizer ← ofExcept id <| match req.msgRandomizer with
    | some text => (decodeField32 E "INVALID_TOKEN" "msg_randomizer" text).map some
    | none => .ok none
  let network ← runtimeNetwork config
  let outputScript ← ofExcept (fun e => apiError .badRequest "INVALID_ADDRESS" e none)
    (parseAddressToScript E req.outputAddress network)
  pure ⟨tokenMsg, sigBytes, msgRandomizer, outputScript⟩

/-- The status of a refused output. -/
def outputStatus : ErrorCode → StatusCode
  | .tokenAlreadyUsed => .conflict
  | _ => .badRequest

/-- Register the output, under the write lock. -/
def postOutputRegister (s : RoundState) (req : OutputRegRequest) (decoded : DecodedOutput) :
    Res HttpError RoundState := do
  ofExcept id (checkPhase .outputReg s)
  let roundIdStr := s.roundId.toText
  let inner ← okOr (.err (apiError .conflict "WRONG_PHASE" "Round inner state not initialized"
    (some roundIdStr))) s.inner
  let signer ← expect "rsa_signer must be Some during OutputReg" inner.rsaSigner
  let redeemed ← ofExcept (roundHttpError outputStatus roundIdStr) <|
    registerOutputLogic E signer.publicKey inner.redeemedTokens decoded.tokenMsg decoded.sigBytes
      decoded.msgRandomizer config.coordinator.denominationSats req.amountSats decoded.outputScript
  let outputs := inner.registeredOutputs ++ [⟨req.outputAddress, req.amountSats⟩]
  let s' := { s with inner := some { inner with
    redeemedTokens := redeemed
    registeredOutputs := outputs } }
  pure (if s'.participantCount ≤ outputs.length ∧ 0 < s'.participantCount then
      s'.tryTransitionTo .signing s'.roundId
    else s')

/-! ### `POST /round/sign` -/

/-- The decoded fields of a signature submission. -/
structure DecodedSign where
  utxo : OutPoint
  partialSig : Bytes
  sessionToken : Bytes32
deriving DecidableEq

/-- Decode a signature submission. -/
def postSignDecode (req : SignRequest) : Except HttpError DecodedSign := do
  let utxo ← okOr (apiError .badRequest "SESSION_INVALID" "Invalid utxo_outpoint format" none)
    (parseOutpoint req.utxoOutpoint)
  let partialSig ← decodeField E "SESSION_INVALID" "partial_signature" req.partialSignature
  let sessionToken ← decodeField32 E "SESSION_INVALID" "session_token" req.sessionToken
  pure ⟨utxo, partialSig, sessionToken⟩

/-- The status of a refused signature. -/
def signStatus : ErrorCode → StatusCode
  | .sessionInvalid => .unauthorized
  | .wrongPhase => .conflict
  | .rpcUnavailable => .serviceUnavailable
  | _ => .badRequest

/-- Process the signature, under the write lock. The state may have changed even
where an error is reported. -/
def postSignProcess (s : RoundState) (decoded : DecodedSign) (iter : SignIteration) :
    RoundState × Res HttpError SignOutcome :=
  match checkPhase .signing s with
  | .error e => (s, fail e)
  | .ok () =>
    let roundIdStr := s.roundId.toText
    let (s', outcome) := processSign E s config decoded.utxo decoded.partialSig
      decoded.sessionToken roundIdStr iter
    (s', outcome.mapErr (roundHttpError signStatus roundIdStr))

/-! ### `GET /round/tx` -/

/-- The transaction the participants are shown. -/
def buildDisplayPsbt (inner : RoundStateInner) (roundIdStr : String)
    (values : List RegisteredInput) : Res HttpError Psbt :=
  buildRoundPsbt E
    { invalidOutpoint := fun utxoStr => apiError .internalServerError "INTERNAL_ERROR"
        s!"Invalid outpoint: {utxoStr}" (some roundIdStr)
      invalidChangeAddress := fun e =>
        apiError .badRequest "INVALID_ADDRESS" e (some roundIdStr)
      invalidOutputAddress := fun e =>
        apiError .badRequest "INVALID_ADDRESS" e (some roundIdStr)
      psbtConstruction := fun e => apiError .internalServerError "INTERNAL_ERROR"
        s!"PSBT build failed: {e.toText}" (some roundIdStr) }
    inner config values

/-- Return the assembled transaction for signing. -/
def getTx (s : RoundState) (values : List RegisteredInput) : Res HttpError RoundTxResponse := do
  ofExcept id (checkPhase .signing s)
  let roundIdStr := s.roundId.toText
  let inner ← okOr (.err (apiError .conflict "WRONG_PHASE" "Round inner state not initialized"
    (some roundIdStr))) s.inner
  let psbt ← buildDisplayPsbt E config inner roundIdStr values
  let n := values.length
  let feePerParticipantSats ← estimateFeeShare config.bip n config.coordinator.feeRateSatPerVbyte
  pure {
    roundId := s.roundId
    psbt := E.base64Encode (E.psbtSerialize psbt)
    feeTotalSats := feePerParticipantSats * n
    feePerParticipantSats := feePerParticipantSats }

/-! ### What a successful part has checked -/

variable {E config}

theorem runtimeNetwork_eq_ok {ε : Type} {network : Network} :
    (runtimeNetwork config : Res ε Network) = .ok network ↔
      parseBitcoinNetwork config.network.bitcoinNetwork = .ok network := by
  rw [runtimeNetwork, expect_eq_ok, toOption_eq_some]

theorem parseAddressToScript_eq_ok {addr : String} {network : Network} {script : Script} :
    parseAddressToScript E addr network = .ok script ↔
      E.addressToScript addr network = .ok script :=
  mapError_eq_ok

/-- An address that parses for the network of the coordinator. -/
def ParsesTo (E : Externals) (config : CoordinatorConfig) (addr : String) (script : Script) :
    Prop :=
  ∃ network, parseBitcoinNetwork config.network.bitcoinNetwork = .ok network ∧
    E.addressToScript addr network = .ok script

/-- What is known of a coin and a change address that were validated for
registration, the ownership proof being verified under a round id. -/
structure Validated (E : Externals) (config : CoordinatorConfig) (utxo : OutPoint)
    (changeAddress : String) (proof : OwnershipProof) (roundId : String) (details : UtxoDetails) :
    Prop where
  /-- The coin covers the denomination and the fee share of the smallest round. -/
  covers : ∃ share, (estimateFeeShare config.bip config.coordinator.minParticipants
      config.coordinator.feeRateSatPerVbyte : Res HttpError ℕ) = .ok share ∧
    config.coordinator.denominationSats + share ≤ details.valueSats
  /-- The proof is for the message that names the round and the coin. -/
  proven : ∃ network, parseBitcoinNetwork config.network.bitcoinNetwork = .ok network ∧
    dispatchOwnershipProof E details.scriptPubkey proof network config.bip
      (utf8 (ownershipMessage roundId utxo)) = .ok details.scriptType
  /-- The change address parses. -/
  change : ∃ script, ParsesTo E config changeAddress script

/-- **What the part before the write lock establishes.** -/
theorem postInputValidate_eq_ok {req : InputRegRequest} {utxo : OutPoint} {proof : OwnershipProof}
    {snapshot : InputSnapshot} {answer : HttpAnswer} {details : UtxoDetails}
    (h : postInputValidate E config req utxo proof snapshot answer = .ok details) :
    Validated E config utxo req.changeAddress proof snapshot.roundId details := by
  simp only [postInputValidate, bind_eq_ok, ofExcept_eq_ok, runtimeNetwork_eq_ok,
    parseAddressToScript_eq_ok] at h
  obtain ⟨share, hshare, network, hnet, details', hvalid, script, hscript, hdetails⟩ := h
  obtain rfl := Except.ok.inj hdetails
  obtain ⟨hvalue, hproof⟩ := validateUtxo_eq_ok hvalid
  exact ⟨⟨share, hshare, hvalue⟩, ⟨network, hnet, hproof⟩, ⟨script, network, hnet, hscript⟩⟩

/-- A decoded output registration has the script of its address. -/
theorem postOutputDecode_eq_ok {req : OutputRegRequest} {d : DecodedOutput}
    (h : postOutputDecode E config req = .ok d) :
    ParsesTo E config req.outputAddress d.outputScript := by
  simp only [postOutputDecode, bind_eq_ok, ofExcept_eq_ok, runtimeNetwork_eq_ok,
    parseAddressToScript_eq_ok] at h
  obtain ⟨_, _, _, _, _, _, network, hnet, script, hscript, hd⟩ := h
  obtain rfl := Except.ok.inj hd
  exact ⟨network, hnet, hscript⟩

theorem checkPhase_eq_ok {expected : Phase} {s : RoundState} {u : Unit} :
    checkPhase expected s = .ok u ↔ s.phase = expected := require_eq_ok

end Handlers

end Blindjoin
