import Blindjoin.Externals

/-!
# Ownership proofs: script types and verification

The script type of an input is read off the script that is on the chain
(`Blindjoin.detectScriptType`), never off what a client declares. A proof is
verified by `Blindjoin.verifySimple`, which routes to one verifier for each
script type; the three differ in the number of witness elements they insist on
(`Blindjoin.verifyWithArity`) and share everything after that, including the
check that the key in the witness is the one the script commits to.
-/

namespace Blindjoin

/-- Why an ownership proof was rejected. -/
inductive Bip322Error
  | unsupportedProofVersion (version : UInt8)
  | wireFormatMismatch (message : String)
  | decodeError (message : String)
  | unrecognisedScriptPubkey (source : String)
  | unsupportedScriptType
  | scriptTypeMismatch (declared derived : ScriptType)
  | invalidWitnessLength (expected got : ℕ)
  | crateVerifyFailed (source : String)
  | witnessKeyMismatch
deriving DecidableEq

/-- The `Display` text of a rejection. No key, address or outpoint occurs in it. -/
def Bip322Error.toText : Bip322Error → String
  | .unsupportedProofVersion v => s!"unsupported OwnershipProof version: {v.toNat}"
  | .wireFormatMismatch m => s!"wire-format mismatch: {m}"
  | .decodeError m => s!"PSBT/base64 decode error: {m}"
  | .unrecognisedScriptPubkey _ =>
    "script_pubkey is not a recognised single-key address (P2WPKH / P2TR / P2SH-P2WPKH)"
  | .unsupportedScriptType => "unsupported script type"
  | .scriptTypeMismatch declared derived =>
    s!"declared script_type {declared.debug} does not match on-chain {derived.debug}"
  | .invalidWitnessLength expected got =>
    s!"invalid witness length: expected {expected}, got {got}"
  | .crateVerifyFailed _ => "BIP-322 crate verification failed"
  | .witnessKeyMismatch => "witness public key does not match the proven scriptPubKey"

/-- Detect the script type of an on-chain script. Any P2SH script counts as
P2SH-P2WPKH here: only the hash of the redeem script is on the chain, and the
key is bound to it by the verifier. -/
def detectScriptType (spk : Script) : Except Bip322Error ScriptType :=
  if spk.isP2wpkh then .ok .p2wpkh
  else if spk.isP2tr then .ok .p2tr
  else if spk.isP2sh then .ok .p2shP2wpkh
  else .error .unsupportedScriptType

section Verify

variable (E : Externals)

/-- The key-binding guard: for anything but P2TR, the witness is a signature and
a compressed public key related to the address. -/
def keyBindingGuard (spk : Script) (address : Address) (witness : Witness) :
    Except Bip322Error Unit :=
  if spk.isP2tr then .ok ()
  else if witness.length ≠ 2 then .error (.invalidWitnessLength 2 witness.length)
  else match witness[1]? with
    | none => .error .witnessKeyMismatch
    | some pkBytes => match E.publicKey pkBytes with
      | none => .error .witnessKeyMismatch
      | some pubkey =>
        if !pubkey.compressed || !E.isRelatedToPubkey address pubkey then
          .error .witnessKeyMismatch
        else .ok ()

/-- Verification through the third-party verifier, behind the key-binding guard. -/
def verifyViaBip322Crate (spk : Script) (witness : Witness) (message : Bytes)
    (network : Network) : Except Bip322Error Unit :=
  match E.addressFromScript spk network with
  | .error source => .error (.unrecognisedScriptPubkey source)
  | .ok address => match keyBindingGuard E spk address witness with
    | .error e => .error e
    | .ok () => match E.bip322VerifySimple address message witness with
      | .error source => .error (.crateVerifyFailed source)
      | .ok () => .ok ()

/-- What the three verifiers have in common: the witness has the number of
elements of the script type, and the shared verification accepts it. -/
def verifyWithArity (arity : ℕ) (spk : Script) (witness : Witness) (message : Bytes)
    (network : Network) : Except Bip322Error Unit :=
  if witness.length ≠ arity then .error (.invalidWitnessLength arity witness.length)
  else verifyViaBip322Crate E spk witness message network

/-- `p2wpkh::verify`: signature and key. -/
def p2wpkhVerify := verifyWithArity E 2

/-- `p2tr::verify`: one Schnorr signature. -/
def p2trVerify := verifyWithArity E 1

/-- `p2sh_p2wpkh::verify`: signature and key. -/
def p2shP2wpkhVerify := verifyWithArity E 2

/-- Verify an ownership proof for the given script type. -/
def verifySimple (scriptType : ScriptType) (spk : Script) (witness : Witness) (message : Bytes)
    (network : Network) : Except Bip322Error Unit :=
  match scriptType with
  | .p2wpkh => p2wpkhVerify E spk witness message network
  | .p2tr => p2trVerify E spk witness message network
  | .p2shP2wpkh => p2shP2wpkhVerify E spk witness message network

/-- The final `scriptSig` of a P2SH-P2WPKH input: the push of the redeem script
of its key. -/
def p2shP2wpkhFinalScriptSig (pubkey : CompressedPublicKey) : Script :=
  Script.pushSlice (Script.newP2wpkh (E.wpubkeyHash pubkey))

end Verify

/-- **What an accepted proof has passed**, of whatever type it was: its script has an
address, the key is the one the script commits to, and the third-party verifier
accepts. -/
theorem exists_of_verifySimple {E : Externals} {scriptType : ScriptType} {spk : Script}
    {witness : Witness} {message : Bytes} {network : Network}
    (h : verifySimple E scriptType spk witness message network = .ok ()) :
    ∃ address, E.addressFromScript spk network = .ok address ∧
      keyBindingGuard E spk address witness = .ok () ∧
      E.bip322VerifySimple address message witness = .ok () := by
  have harity : ∃ arity, verifyWithArity E arity spk witness message network = .ok () := by
    cases scriptType with
    | p2wpkh => exact ⟨2, h⟩
    | p2tr => exact ⟨1, h⟩
    | p2shP2wpkh => exact ⟨2, h⟩
  obtain ⟨arity, harity⟩ := harity
  rw [verifyWithArity] at harity
  split at harity
  · exact absurd harity (by simp)
  · rw [verifyViaBip322Crate] at harity
    cases hfrom : E.addressFromScript spk network with
    | error source =>
      rw [hfrom] at harity
      exact absurd harity (by simp)
    | ok address =>
      rw [hfrom] at harity
      cases hguard : keyBindingGuard E spk address witness with
      | error e =>
        simp only [hguard] at harity
        exact absurd harity (by simp)
      | ok u =>
        cases hcrate : E.bip322VerifySimple address message witness with
        | error source =>
          simp only [hguard, hcrate] at harity
          exact absurd harity (by simp)
        | ok u' => exact ⟨address, rfl, hguard, hcrate⟩

end Blindjoin
