import Blindjoin.Lib.Collections
import Blindjoin.Shared.Bip322
import Blindjoin.Shared.Errors

/-!
# Verifying the signature of one input

A participant submits the serialized witness of their input. It is verified
against the transaction the round will broadcast before it is recorded, so that
a participant with a bad signature counts as one who did not sign.

What the final transaction needs to know of an accepted witness is
`Blindjoin.Controls`: the script of the input is the one the key in the witness
makes (`Blindjoin.verifyInputSignature_eq_ok`).
-/

namespace Blindjoin

/-- `EcdsaSighashType::All` and `TapSighashType::All` as a byte. -/
def sighashAll : UInt8 := 0x01

section Verify

variable (E : Externals)

/-- Split a signature element into its DER part and its hash type, which has to
be `SIGHASH_ALL`. -/
def parseEcdsaSig (sigElem : Bytes) : Res String Bytes := do
  let flag ← okOr (.err "empty signature element") sigElem.getLast?
  require (flag = sighashAll) (.err "signature is not SIGHASH_ALL")
  require (E.isDerSignature sigElem.dropLast) (.err "malformed DER signature")
  pure sigElem.dropLast

/-- Check an ECDSA signature over a digest. -/
def verifyEcdsa (sighash : Bytes32) (sig : Bytes) (pubkey : CompressedPublicKey) :
    Res String Unit :=
  require (E.verifyEcdsa sighash sig pubkey) (.err "ecdsa signature verification failed")

/-- A P2WPKH witness: signature and key, the key hashing to the script. -/
def verifyP2wpkh (psbt : Psbt) (inputIndex : ℕ) (witness : Witness) (spk : Script) (value : ℕ) :
    Res String Unit := do
  require (witness.length = 2) (.err "p2wpkh witness must have exactly 2 elements")
  let sigElem ← unwrap witness[0]?
  let sig ← parseEcdsaSig E sigElem
  let pubkeyBytes ← unwrap witness[1]?
  let pubkey ← okOr (.err "witness pubkey is not a valid compressed key")
    (E.compressedPublicKey pubkeyBytes)
  let derived := Script.newP2wpkh (E.wpubkeyHash pubkey)
  require (derived = spk) (.err "witness pubkey does not match input script")
  let sighash ← okOr (.err "p2wpkh sighash computation failed")
    (E.p2wpkhSignatureHash psbt.unsignedTx inputIndex spk value)
  verifyEcdsa E sighash sig pubkey

/-- A P2SH-P2WPKH witness: signature and key, the script committing to the
redeem script of the key. -/
def verifyP2shP2wpkh (psbt : Psbt) (inputIndex : ℕ) (witness : Witness) (spk : Script)
    (value : ℕ) : Res String Unit := do
  require (witness.length = 2) (.err "p2sh-p2wpkh witness must have exactly 2 elements")
  let sigElem ← unwrap witness[0]?
  let sig ← parseEcdsaSig E sigElem
  let pubkeyBytes ← unwrap witness[1]?
  let pubkey ← okOr (.err "witness pubkey is not a valid compressed key")
    (E.compressedPublicKey pubkeyBytes)
  let redeem := Script.newP2wpkh (E.wpubkeyHash pubkey)
  let derivedP2sh := Script.newP2sh (E.scriptHash redeem)
  require (derivedP2sh = spk) (.err "witness pubkey does not match input p2sh script")
  let sighash ← okOr (.err "p2sh-p2wpkh sighash computation failed")
    (E.p2wpkhSignatureHash psbt.unsignedTx inputIndex redeem value)
  verifyEcdsa E sighash sig pubkey

/-- The signature and hash type of a taproot signature element. -/
def splitTaprootSig (sigElem : Bytes) : Res String (Bytes × TapSighashType) :=
  if sigElem.length = 64 then .ok (sigElem, .default)
  else if sigElem.length = 65 then do
    let flag ← unwrap sigElem[64]?
    require (flag = sighashAll) (.err "p2tr explicit sighash type is not ALL")
    pure (sigElem.take 64, .all)
  else fail "p2tr signature must be 64 or 65 bytes"

/-- A P2TR key-path witness: one Schnorr signature, of 64 bytes or with an
explicit hash type. The 64 bytes are a signature whatever they are. -/
def verifyP2tr (psbt : Psbt) (inputIndex : ℕ) (witness : Witness) : Res String Unit := do
  require (witness.length = 1) (.err "p2tr key-path witness must have exactly 1 element")
  let sigElem ← unwrap witness[0]?
  let (sig, sighashType) ← splitTaprootSig sigElem
  let prevouts ← okOr (.err "a round input is missing its witness_utxo")
    (psbt.inputs.mapM PsbtInput.witnessUtxo)
  let prevout ← unwrap prevouts[inputIndex]?
  let spk := prevout.scriptPubkey
  require (spk.isP2tr) (.err "input script is not p2tr")
  let program := (spk.drop 2).take 32
  require (E.isXOnlyKey program) (.err "input p2tr program is not a valid x-only key")
  let sighash ← okOr (.err "p2tr sighash computation failed")
    (E.taprootSignatureHash psbt.unsignedTx inputIndex prevouts sighashType)
  require (E.verifySchnorr sighash sig program) (.err "schnorr signature verification failed")

/-- Verify the witness submitted for an input of the transaction in `psbt`. -/
def verifyInputSignature (psbt : Psbt) (inputIndex : ℕ) (scriptType : ScriptType)
    (witnessBytes : Bytes) : Res String Unit := do
  let witness ← ofExcept (fun _ => "witness is not consensus-deserializable")
    (E.deserializeWitness witnessBytes)
  let witnessUtxo ← okOr (.err "input has no witness_utxo for sighash")
    (psbt.inputs[inputIndex]?.bind PsbtInput.witnessUtxo)
  let value := witnessUtxo.value
  let spk := witnessUtxo.scriptPubkey
  match scriptType with
  | .p2wpkh => verifyP2wpkh E psbt inputIndex witness spk value
  | .p2shP2wpkh => verifyP2shP2wpkh E psbt inputIndex witness spk value
  | .p2tr => verifyP2tr E psbt inputIndex witness

/-- A witness controls a script of the given type: the key it presents, in one form
or another, is the one the script commits to. -/
def Controls (scriptType : ScriptType) (witness : Witness) (spk : Script) : Prop :=
  match scriptType with
  | .p2wpkh => ∃ sig keyBytes key, witness = [sig, keyBytes] ∧
      E.compressedPublicKey keyBytes = some key ∧ spk = Script.newP2wpkh (E.wpubkeyHash key)
  | .p2shP2wpkh => ∃ sig keyBytes key, witness = [sig, keyBytes] ∧
      E.compressedPublicKey keyBytes = some key ∧
      spk = Script.newP2sh (E.scriptHash (Script.newP2wpkh (E.wpubkeyHash key)))
  | .p2tr => witness.length = 1 ∧ spk.isP2tr = true

variable {E} {psbt : Psbt} {i value : ℕ} {witness : Witness} {spk : Script}

/-- A witness of two elements is its first element and its second. -/
theorem eq_pair_of_second {bytes : Bytes} (hlen : witness.length = 2)
    (hget : witness[1]? = some bytes) : ∃ sig, witness = [sig, bytes] := by
  obtain ⟨sig, second, rfl⟩ := List.length_eq_two.mp hlen
  obtain rfl : second = bytes := by simpa using hget
  exact ⟨sig, rfl⟩

theorem verifyP2wpkh_eq_ok (h : verifyP2wpkh E psbt i witness spk value = .ok ()) :
    Controls E .p2wpkh witness spk := by
  simp only [verifyP2wpkh, bind_eq_ok, require_eq_ok, unwrap_eq_ok, okOr_eq_ok] at h
  obtain ⟨_, hlen, _, _, _, _, bytes, hget, key, hkey, _, hspk, _⟩ := h
  obtain ⟨sig, hw⟩ := eq_pair_of_second hlen hget
  exact ⟨sig, bytes, key, hw, hkey, hspk.symm⟩

theorem verifyP2shP2wpkh_eq_ok (h : verifyP2shP2wpkh E psbt i witness spk value = .ok ()) :
    Controls E .p2shP2wpkh witness spk := by
  simp only [verifyP2shP2wpkh, bind_eq_ok, require_eq_ok, unwrap_eq_ok, okOr_eq_ok] at h
  obtain ⟨_, hlen, _, _, _, _, bytes, hget, key, hkey, _, hspk, _⟩ := h
  obtain ⟨sig, hw⟩ := eq_pair_of_second hlen hget
  exact ⟨sig, bytes, key, hw, hkey, hspk.symm⟩

theorem verifyP2tr_eq_ok (h : verifyP2tr E psbt i witness = .ok ()) {utxo : TxOut}
    (hutxo : psbt.inputs[i]?.bind PsbtInput.witnessUtxo = some utxo) :
    Controls E .p2tr witness utxo.scriptPubkey := by
  simp only [verifyP2tr, bind_eq_ok, require_eq_ok, unwrap_eq_ok, okOr_eq_ok] at h
  obtain ⟨_, hlen, _, _, _, _, prevouts, hprevouts, prevout, hprevout, _, htr, _⟩ := h
  -- the list of all previous outputs holds at `i` what the input itself holds
  rw [Collections.getElem?_of_mapM_eq_some hprevouts, hutxo] at hprevout
  obtain rfl : utxo = prevout := Option.some.inj hprevout
  exact ⟨hlen, htr⟩

/-- **What an accepted witness shows**: it decodes, and it controls the script
of the input it was submitted for. -/
theorem verifyInputSignature_eq_ok {st : ScriptType} {bytes : Bytes}
    (h : verifyInputSignature E psbt i st bytes = .ok ()) :
    ∃ witness utxo, E.deserializeWitness bytes = .ok witness ∧
      psbt.inputs[i]?.bind PsbtInput.witnessUtxo = some utxo ∧
      Controls E st witness utxo.scriptPubkey := by
  simp only [verifyInputSignature, bind_eq_ok, ofExcept_eq_ok, okOr_eq_ok] at h
  obtain ⟨witness, hw, utxo, hutxo, h⟩ := h
  refine ⟨witness, utxo, hw, hutxo, ?_⟩
  cases st with
  | p2wpkh => exact verifyP2wpkh_eq_ok h
  | p2shP2wpkh => exact verifyP2shP2wpkh_eq_ok h
  | p2tr => exact verifyP2tr_eq_ok h hutxo

end Verify

end Blindjoin
