import Blindjoin.Coordinator.Config
import Blindjoin.Shared.Protocol

/-!
# Validating a coin

`Blindjoin.validateUtxo` decides whether a coin may be registered: it is not
registered yet, the node reports it unspent, it is worth enough, and its owner
proved ownership of it *for this round*: the proven message
(`Blindjoin.ownershipMessage`) names the round and the coin.
`Blindjoin.validateUtxo_eq_ok` says what an accepted coin is known to satisfy.
-/

namespace Blindjoin

/-- Why a coin was refused. -/
inductive UtxoError
  | notFound
  | alreadyRegistered
  | insufficientValue (value required : ℕ)
  | invalidProof (reason : String)
  | rpcUnavailable (message : String)
deriving DecidableEq

/-- What registration keeps of a validated coin. -/
structure UtxoDetails where
  valueSats : ℕ
  scriptPubkey : Script
  scriptType : ScriptType
deriving DecidableEq

/-- The message an ownership proof signs. -/
def ownershipMessage (roundId : String) (utxo : OutPoint) : String :=
  "blindjoin:round:" ++ roundId ++ ":utxo:" ++ utxo.toText

section Dispatch

variable (E : Externals)

/-- Decode the envelope of a version 2 proof and extract the final witness. -/
def decodePsbtInputWitness (b64 : String) : Except Bip322Error Witness := do
  let bytes ← (E.base64Decode b64).mapError fun e => .decodeError s!"base64: {e}"
  let psbt ← (E.psbtDeserialize bytes).mapError fun e => .decodeError s!"psbt: {e}"
  let input ← okOr (.wireFormatMismatch "v2 PSBT envelope contains zero inputs") psbt.inputs.head?
  okOr (.wireFormatMismatch "v2 PSBT input lacks final_script_witness") input.finalScriptWitness

/-- Verify an ownership proof for a script. Both versions derive the script type
from the script that is on the chain; version 2 must declare the same one. -/
def dispatchOwnershipProof (scriptPubkey : Script) (ownershipProof : OwnershipProof)
    (network : Network) (bip : BipConfig) (message : Bytes) : Except Bip322Error ScriptType :=
  if ownershipProof.version = 1 then do
    let derived ← detectScriptType scriptPubkey
    require (bip.allows derived) .unsupportedScriptType
    verifySimple E derived scriptPubkey ownershipProof.witnessStack message network
    pure derived
  else if ownershipProof.version = 2 then do
    let psbtInputB64 ← okOr (.wireFormatMismatch "v2 OwnershipProof requires psbt_input_b64")
      ownershipProof.psbtInputB64
    let declared ← okOr (.wireFormatMismatch "v2 OwnershipProof requires script_type field")
      ownershipProof.scriptType
    let witness ← decodePsbtInputWitness E psbtInputB64
    let derived ← detectScriptType scriptPubkey
    require (declared = derived) (.scriptTypeMismatch declared derived)
    require (bip.allows derived) .unsupportedScriptType
    verifySimple E derived scriptPubkey witness message network
    pure derived
  else .error (.unsupportedProofVersion ownershipProof.version)

/-- The bytes of the script `gettxout` reports. -/
def parseScriptPubkeyFromTxout (txout : GetTxOut) : Except String Script :=
  (E.hexDecode txout.scriptPubkeyHex).mapError fun e => s!"hex decode: {e}"

/-- Validate a coin for registration, under the node's answer to `gettxout`. -/
def validateUtxo (answer : HttpAnswer) (utxo : OutPoint) (registeredInputs : List OutPoint)
    (denominationSats feeShareSats : ℕ) (ownershipProof : OwnershipProof) (bip : BipConfig)
    (network : Network) (roundId : String) : Except UtxoError UtxoDetails := do
  require (utxo ∉ registeredInputs) .alreadyRegistered
  let unspent ← (gettxout E.txOutFromJson answer).mapError fun e => .rpcUnavailable e.toText
  let txout ← okOr .notFound unspent
  let valueSats ← txout.value.mapError fun e => .invalidProof s!"BTC amount parse: {e}"
  let required := denominationSats + feeShareSats
  require (required ≤ valueSats) (.insufficientValue valueSats required)
  let scriptPubkey ← (parseScriptPubkeyFromTxout E txout).mapError .invalidProof
  let message := utf8 (ownershipMessage roundId utxo)
  let derived ← (dispatchOwnershipProof E scriptPubkey ownershipProof network bip message).mapError
    fun e => .invalidProof e.toText
  pure ⟨valueSats, scriptPubkey, derived⟩

variable {E}

/-- An accepted proof is for an allowed script type, the one on the chain. -/
theorem dispatchOwnershipProof_eq_ok {spk : Script} {proof : OwnershipProof} {network : Network}
    {bip : BipConfig} {message : Bytes} {st : ScriptType}
    (h : dispatchOwnershipProof E spk proof network bip message = .ok st) :
    detectScriptType spk = .ok st ∧ bip.allows st = true ∧
      ∃ witness, verifySimple E st spk witness message network = .ok () := by
  rw [dispatchOwnershipProof] at h
  split at h
  · simp only [bind_eq_ok, require_eq_ok] at h
    obtain ⟨derived, hderived, _, hallows, _, hverify, hst⟩ := h
    obtain rfl : derived = st := Except.ok.inj hst
    exact ⟨hderived, hallows, _, hverify⟩
  · split at h
    · simp only [bind_eq_ok, require_eq_ok] at h
      obtain ⟨_, _, _, _, witness, _, derived, hderived, _, _, _, hallows, _, hverify, hst⟩ := h
      obtain rfl : derived = st := Except.ok.inj hst
      exact ⟨hderived, hallows, witness, hverify⟩
    · exact absurd h (by simp)

/-- **What an accepted coin satisfies**: it is worth the denomination and the
fee share, its script type is allowed, and the proof was verified for the
message naming this round and this coin. -/
theorem validateUtxo_eq_ok {answer : HttpAnswer} {utxo : OutPoint} {registered : List OutPoint}
    {denominationSats feeShareSats : ℕ} {proof : OwnershipProof} {bip : BipConfig}
    {network : Network} {roundId : String} {details : UtxoDetails}
    (h : validateUtxo E answer utxo registered denominationSats feeShareSats proof bip network
      roundId = .ok details) :
    denominationSats + feeShareSats ≤ details.valueSats ∧
    dispatchOwnershipProof E details.scriptPubkey proof network bip
      (utf8 (ownershipMessage roundId utxo)) = .ok details.scriptType := by
  simp only [validateUtxo, bind_eq_ok, require_eq_ok, mapError_eq_ok] at h
  obtain ⟨_, _, _, _, _, _, value, _, _, hvalue, spk, _, derived, hderived, hdetails⟩ := h
  obtain rfl := Except.ok.inj hdetails
  exact ⟨hvalue, hderived⟩

end Dispatch

end Blindjoin
