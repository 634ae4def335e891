import Blindjoin.Shared.Bip322
import Blindjoin.Shared.Errors
import Blindjoin.Shared.Token

/-!
# Ownership proofs: signing

A proof is a signature of a transaction that is never broadcast: one transaction
whose input commits to the message and whose output carries the script to be proven
for (`Blindjoin.buildBip322ToSpend`), and one that spends it
(`Blindjoin.buildBip322ToSign`). The client signs the second with the key of its coin
(`Blindjoin.signSimple`).

The signers of the two newer script types compare the script with the one their key
makes before they sign. The P2WPKH signer does not: it signs for any P2WPKH script,
and it is the verifier that refuses what a wrong key signed.
-/

namespace Blindjoin

/-- The order of the group of the curve. -/
def curveOrder : ℕ := 0xfffffffffffffffffffffffffffffffebaaedce6af48a03bbfd25e8cd0364141

/-- A `secp256k1::SecretKey`: a scalar other than zero. -/
structure SecretKey where
  scalar : ℕ
  pos : 0 < scalar
  lt : scalar < curveOrder
deriving DecidableEq

/-- The third-party functions the signer calls. -/
structure SignerExternals where
  /-- `PublicKey::from_secret_key`, serialized. -/
  publicKey : SecretKey → CompressedPublicKey
  /-- `Keypair::tap_tweak` without a merkle root. -/
  tapTweak : SecretKey → SecretKey
  /-- `Secp256k1::sign_ecdsa`: the DER serialization of the signature. -/
  signEcdsa : Bytes32 → SecretKey → Bytes
  /-- `Secp256k1::sign_ecdsa_with_noncedata`, likewise. -/
  signEcdsaWithNoncedata : Bytes32 → SecretKey → Bytes → Bytes
  /-- `Secp256k1::sign_schnorr_no_aux_rand`. -/
  signSchnorrNoAuxRand : Bytes32 → SecretKey → List.Vector UInt8 64
  /-- `Transaction::compute_txid`. -/
  computeTxid : Transaction → Txid
  /-- The text of a failed `SighashCache::p2wpkh_signature_hash`. -/
  sighashError : Transaction → ℕ → Script → ℕ → String

/-- `Keypair::x_only_public_key`, serialized: the public key less the byte that
tells the parity. -/
def SignerExternals.xOnlyPublicKey (S : SignerExternals) (key : SecretKey) : Bytes32 :=
  ⟨(S.publicKey key).toList.drop 1, by simp⟩

/-- `ScriptBuf::new_p2tr_tweaked`. -/
def Script.newP2tr (outputKey : Bytes32) : Script := 0x51 :: 0x20 :: outputKey.toList

/-- `OutPoint::null`. -/
def OutPoint.null : OutPoint := ⟨⟨List.Vector.replicate 32 0⟩, 0xffffffff⟩

section Sign

variable (E : Externals) (S : SignerExternals)

/-- The tagged hash of a message. -/
def bip322MessageHash (message : Bytes) : Bytes32 :=
  let tagHash := E.sha256 (utf8 "BIP0322-signed-message")
  E.sha256 (tagHash.toList ++ tagHash.toList ++ message)

/-- The transaction to spend: an input from nowhere that commits to the message, an
output with the script. -/
def buildBip322ToSpend (spk : Script) (msgHash : Bytes32) : Transaction where
  version := 0
  lockTime := 0
  input := [
    { previousOutput := OutPoint.null
      scriptSig := 0x00 :: Script.pushSlice msgHash.toList
      sequence := 0
      witness := [] }]
  output := [{ value := 0, scriptPubkey := spk }]

/-- The transaction to sign: it spends that output, and has one output with a bare
`OP_RETURN`. -/
def buildBip322ToSign (toSpend : Transaction) : Transaction where
  version := 0
  lockTime := 0
  input := [
    { previousOutput := ⟨S.computeTxid toSpend, 0⟩
      scriptSig := []
      sequence := 0
      witness := [] }]
  output := [{ value := 0, scriptPubkey := [0x6a] }]

/-- The passes of the retry loop, for the counters that are left. -/
def retryCompatLength (msg : Bytes32) (key : SecretKey) : List ℕ → Bytes → Bytes
  | [], sig => sig
  | counter :: counters, sig =>
    let totalLen := sig.length + 1
    if totalLen = 71 ∨ totalLen = 72 then sig
    else
      let entropy := leBytes32 (UInt32.ofNat counter) ++ List.replicate 28 0
      retryCompatLength msg key counters (S.signEcdsaWithNoncedata msg key entropy)

/-- Sign a digest, again with a counter for entropy as long as the signature with its
hash type has neither 71 nor 72 bytes, and 256 times at most. -/
def signEcdsaCompatBip322Length (msg : Bytes32) (key : SecretKey) : Bytes :=
  retryCompatLength S msg key (List.range' 1 256) (S.signEcdsa msg key)

/-- `p2wpkh::sign`. The script is not compared with the key. -/
def p2wpkhSign (spk : Script) (key : SecretKey) (message : Bytes) : Res Bip322Error Witness := do
  let pubkey := S.publicKey key
  let msgHash := bip322MessageHash E message
  let toSpend := buildBip322ToSpend spk msgHash
  let toSign := buildBip322ToSign S toSpend
  let sighash ← okOr (.err (.decodeError s!"p2wpkh sighash: {S.sighashError toSign 0 spk 0}"))
    (E.p2wpkhSignatureHash toSign 0 spk 0)
  let sigBytes := signEcdsaCompatBip322Length S sighash key ++ [0x01]
  pure [sigBytes, pubkey.toList]

/-- `p2tr::sign`: with the tweaked key, for the script of the tweaked key only. -/
def p2trSign (spk : Script) (key : SecretKey) (message : Bytes) : Res Bip322Error Witness := do
  let tweaked := S.tapTweak key
  let expectedSpk := Script.newP2tr (S.xOnlyPublicKey tweaked)
  if expectedSpk ≠ spk then
    -- a script of no known type counts as the type that was asked for
    let declared := (detectScriptType spk).toOption.getD .p2tr
    fail (.scriptTypeMismatch declared .p2tr)
  else
    let msgHash := bip322MessageHash E message
    let toSpend := buildBip322ToSpend spk msgHash
    let toSign := buildBip322ToSign S toSpend
    let sighash ← expect "sighash on well-formed to_sign"
      (E.taprootSignatureHash toSign 0 [{ value := 0, scriptPubkey := spk }] .default)
    let sig := S.signSchnorrNoAuxRand sighash tweaked
    pure [sig.toList]

/-- `p2sh_p2wpkh::sign`: for the script that wraps the P2WPKH script of the key only.
The digest is that of the script inside. -/
def p2shP2wpkhSign (spk : Script) (key : SecretKey) (message : Bytes) :
    Res Bip322Error Witness := do
  let pubkey := S.publicKey key
  let unwrappedP2wpkh := Script.newP2wpkh (E.wpubkeyHash pubkey)
  let expectedSpk := Script.newP2sh (E.scriptHash unwrappedP2wpkh)
  if expectedSpk ≠ spk then
    let declared := (detectScriptType spk).toOption.getD .p2shP2wpkh
    fail (.scriptTypeMismatch declared .p2shP2wpkh)
  else
    let msgHash := bip322MessageHash E message
    let toSpend := buildBip322ToSpend spk msgHash
    let toSign := buildBip322ToSign S toSpend
    let sighash ← expect "sighash on well-formed to_sign"
      (E.p2wpkhSignatureHash toSign 0 unwrappedP2wpkh 0)
    let sigBytes := signEcdsaCompatBip322Length S sighash key ++ [0x01]
    pure [sigBytes, pubkey.toList]

/-- Sign an ownership proof for the given script type. -/
def signSimple (scriptType : ScriptType) (spk : Script) (key : SecretKey) (message : Bytes) :
    Res Bip322Error Witness :=
  match scriptType with
  | .p2wpkh => p2wpkhSign E S spk key message
  | .p2tr => p2trSign E S spk key message
  | .p2shP2wpkh => p2shP2wpkhSign E S spk key message

end Sign

/-! ### What the signers return -/

section Sign

variable {E : Externals} {S : SignerExternals} {spk : Script} {key : SecretKey} {message : Bytes}

/-- The transaction a proof of a message for a script signs. -/
def toSignOf (E : Externals) (S : SignerExternals) (spk : Script) (message : Bytes) : Transaction :=
  buildBip322ToSign S (buildBip322ToSpend spk (bip322MessageHash E message))

/-- **What is returned is one of the signatures**: what holds of a signature with
whatever entropy holds of the one the loop ends with. -/
theorem signEcdsaCompat_induction {P : Bytes → Prop} {msg : Bytes32}
    (hsign : P (S.signEcdsa msg key))
    (hretry : ∀ entropy, P (S.signEcdsaWithNoncedata msg key entropy)) :
    P (signEcdsaCompatBip322Length S msg key) := by
  have hpasses : ∀ (counters : List ℕ) (sig : Bytes), P sig →
      P (retryCompatLength S msg key counters sig) := by
    intro counters
    induction counters with
    | nil =>
      intro sig hsig
      exact hsig
    | cons counter counters ih =>
      intro sig hsig
      rw [retryCompatLength]
      split
      · exact hsig
      · exact ih _ (hretry _)
  exact hpasses _ _ hsign

/-- The P2WPKH signer signs whenever there is a digest. -/
theorem p2wpkhSign_eq_ok {w : Witness} :
    p2wpkhSign E S spk key message = .ok w ↔
      ∃ d, E.p2wpkhSignatureHash (toSignOf E S spk message) 0 spk 0 = some d ∧
        w = [signEcdsaCompatBip322Length S d key ++ [0x01], (S.publicKey key).toList] := by
  rw [p2wpkhSign, bind_eq_ok]
  constructor
  · rintro ⟨d, hd, hw⟩
    exact ⟨d, okOr_eq_ok.mp hd, (Except.ok.inj hw).symm⟩
  · rintro ⟨d, hd, rfl⟩
    exact ⟨d, okOr_eq_ok.mpr hd, rfl⟩

/-- For the script of its key, the P2TR signer signs when there is a digest. -/
theorem p2trSign_eq_ok {d : Bytes32}
    (hspk : Script.newP2tr (S.xOnlyPublicKey (S.tapTweak key)) = spk)
    (hd : E.taprootSignatureHash (toSignOf E S spk message) 0 [⟨0, spk⟩] .default = some d) :
    p2trSign E S spk key message =
      .ok [(S.signSchnorrNoAuxRand d (S.tapTweak key)).toList] := by
  have hne : ¬Script.newP2tr (S.xOnlyPublicKey (S.tapTweak key)) ≠ spk := not_not.mpr hspk
  simp only [p2trSign, if_neg hne]
  rw [bind_eq_ok]
  exact ⟨d, expect_eq_ok.mpr hd, rfl⟩

/-- For the script of its key, the P2SH-P2WPKH signer signs when there is a digest of
the script inside. -/
theorem p2shP2wpkhSign_eq_ok {d : Bytes32}
    (hspk : Script.newP2sh
      (E.scriptHash (Script.newP2wpkh (E.wpubkeyHash (S.publicKey key)))) = spk)
    (hd : E.p2wpkhSignatureHash (toSignOf E S spk message) 0
      (Script.newP2wpkh (E.wpubkeyHash (S.publicKey key))) 0 = some d) :
    p2shP2wpkhSign E S spk key message =
      .ok [signEcdsaCompatBip322Length S d key ++ [0x01], (S.publicKey key).toList] := by
  have hne : ¬Script.newP2sh
      (E.scriptHash (Script.newP2wpkh (E.wpubkeyHash (S.publicKey key)))) ≠ spk := not_not.mpr hspk
  simp only [p2shP2wpkhSign, if_neg hne]
  rw [bind_eq_ok]
  exact ⟨d, expect_eq_ok.mpr hd, rfl⟩

end Sign

end Blindjoin
