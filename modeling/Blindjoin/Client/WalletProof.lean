import Blindjoin.Client.Sign
import Blindjoin.System.SignVerify

/-!
# The ownership proof of a wallet

A wallet proves that it owns its coin in one of three ways. A wallet made from a single
key signs with this key, a descriptor wallet whose first address holds the coin signs
with the key of this address, and any other wallet leaves the signing to `bdk_wallet`
(`Blindjoin.ProofWallet.signBip322`). A wallet carries what its constructors checked: the
key it signs with is the key of the script of its coin.

Whichever way is taken, the coordinator's verifier accepts the proof under the type of
the wallet (`Blindjoin.ProofWallet.signBip322_accepted`).
-/

namespace Blindjoin

/-- An ownership proof of a wallet. The witness is there twice, once for each envelope. -/
structure Bip322SignedProof where
  witnessStack : Witness
  witness : Witness
  finalScriptSig : Option Script
  scriptType : ScriptType
deriving DecidableEq

/-- What the signer of `bdk_wallet` leaves in an input. Partial signatures are kept in
the order of their keys. -/
structure SignedInput where
  finalScriptWitness : Option Witness := none
  finalScriptSig : Option Script := none
  partialSigs : List (Bytes × Bytes) := []
  tapKeySig : Option Bytes := none
deriving DecidableEq

/-- Whether a key controls a script of the given type. It never does for P2TR, whose
proofs are left to `bdk_wallet`. -/
def ecdsaLeafControlsScript (E : Externals) (S : SignerExternals) (sk : SecretKey)
    (scriptType : ScriptType) (spk : Script) : Bool :=
  let redeem := Script.newP2wpkh (E.wpubkeyHash (S.publicKey sk))
  match scriptType with
  | .p2wpkh => redeem = spk
  | .p2shP2wpkh => Script.newP2sh (E.scriptHash redeem) = spk
  | .p2tr => false

/-- A wallet as far as it proves ownership: the key of a single-key wallet, the key of
the first address of a descriptor wallet, and the signer of `bdk_wallet`. -/
structure ProofWallet (E : Externals) (S : SignerExternals) extends ClientWallet where
  utxoScriptPubkey : Script
  scriptType : ScriptType
  wifKey : Option SecretKey
  externalLeafSk : Option SecretKey
  /-- `Wallet::sign` on a transaction with one input. -/
  signToSign : Psbt → Except String SignedInput
  /-- `from_wif` makes the script of the key. -/
  wif : ∀ sk ∈ wifKey, scriptType = .p2wpkh ∧
    Script.newP2wpkh (E.wpubkeyHash (S.publicKey sk)) = utxoScriptPubkey
  /-- `from_descriptor` keeps no other key. -/
  leaf : ∀ sk ∈ externalLeafSk, ecdsaLeafControlsScript E S sk scriptType utxoScriptPubkey = true

namespace ProofWallet

variable {E : Externals} {S : SignerExternals} (wallet : ProofWallet E S)

/-- The proof of a single-key wallet. -/
def wifSignBip322 (sk : SecretKey) (message : String) : Res String Bip322SignedProof := do
  let witness ← (signSimple E S .p2wpkh wallet.utxoScriptPubkey sk (utf8 message)).mapErr
    fun e => s!"shared::bip322::sign_simple failed: {e.toText}"
  pure ⟨witness, witness, none, .p2wpkh⟩

/-- The proof with the key of the first address. -/
def leafSignBip322 (leafSk : SecretKey) (message : String) : Res String Bip322SignedProof := do
  let witness ← (signSimple E S wallet.scriptType wallet.utxoScriptPubkey leafSk
    (utf8 message)).mapErr
      fun e => s!"shared::bip322::sign_simple (descriptor ECDSA proof): {e.toText}"
  let finalScriptSig := if wallet.scriptType = .p2shP2wpkh then
      some (p2shP2wpkhFinalScriptSig E (S.publicKey leafSk))
    else none
  pure ⟨witness, witness, finalScriptSig, wallet.scriptType⟩

/-- The transaction `bdk_wallet` is asked to sign for a proof. -/
def proofPsbt (message : String) : Except String Psbt := do
  let msgHash := bip322MessageHash E (utf8 message)
  let toSpend := buildBip322ToSpend wallet.utxoScriptPubkey msgHash
  let psbt ← Psbt.fromUnsignedTx (buildBip322ToSign S toSpend)
  pure { psbt with
    inputs := psbt.inputs.modifyHead fun input =>
      { input with witnessUtxo := some ⟨0, wallet.utxoScriptPubkey⟩ } }

/-- The witness and the `scriptSig` of a signed input. -/
def signedWitness (scriptType : ScriptType) (input : SignedInput) :
    Except String (Witness × Option Script) :=
  match scriptType with
  | .p2wpkh =>
    match input.finalScriptWitness, input.partialSigs.head? with
    | some w, _ => .ok (w, none)
    | none, some (pk, sig) => .ok ([sig, pk], none)
    | none, none => .error "bdk_wallet did not produce a P2WPKH BIP-322 witness"
  | .p2tr =>
    match input.finalScriptWitness, input.tapKeySig with
    | some w, _ => .ok (w, none)
    | none, some tapKeySig => .ok ([tapKeySig], none)
    | none, none => .error ("bdk_wallet did not produce a P2TR witness " ++
        "(neither final_script_witness nor tap_key_sig populated)")
  | .p2shP2wpkh => do
    let w ← okOr "bdk_wallet did not produce a P2SH-P2WPKH final_script_witness"
      input.finalScriptWitness
    let ssig ← okOr "bdk_wallet did not produce a P2SH-P2WPKH final_script_sig"
      input.finalScriptSig
    pure (w, some ssig)

/-- The proof that is left to `bdk_wallet`. -/
def bdkSignBip322 (message : String) : Res String Bip322SignedProof := do
  let psbt ← ofExcept (fun e => s!"Psbt::from_unsigned_tx (BIP-322 to_sign): {e}")
    (wallet.proofPsbt message)
  let input ← ofExcept (fun e => s!"bdk_wallet BIP-322 sign failed: {e}") (wallet.signToSign psbt)
  let (witness, finalScriptSig) ← ofExcept id (signedWitness wallet.scriptType input)
  pure ⟨witness, witness, finalScriptSig, wallet.scriptType⟩

/-- Prove ownership of the coin, with a signature of a message. -/
def signBip322 (message : String) : Res String Bip322SignedProof :=
  match wallet.wifKey, wallet.externalLeafSk with
  | some sk, _ => wallet.wifSignBip322 sk message
  | none, some leafSk => wallet.leafSignBip322 leafSk message
  | none, none => wallet.bdkSignBip322 message

end ProofWallet

/-! ### Every proof is accepted -/

section Accepted

variable {E : Externals} {S : SignerExternals} {D : Digests} {wallet : ProofWallet E S}

/-- A proof for the script of a coin, of the type of the wallet, that the coordinator's
verifier accepts on every network. -/
structure ProofWallet.Accepts (wallet : ProofWallet E S) (message : String)
    (signed : Bip322SignedProof) : Prop where
  same : signed.witnessStack = signed.witness
  scriptType : signed.scriptType = wallet.scriptType
  detected : detectScriptType wallet.utxoScriptPubkey = .ok wallet.scriptType
  verifies : ∀ network, verifySimple E wallet.scriptType wallet.utxoScriptPubkey signed.witness
    (utf8 message) network = .ok ()

/-- **`bdk_wallet` signs**: the input it leaves behind is final, and its witness is
valid for the script of the coin, which is of the type of the wallet. -/
structure ProofWallet.BdkSigns (wallet : ProofWallet E S) : Prop where
  detected : detectScriptType wallet.utxoScriptPubkey = .ok wallet.scriptType
  signs : ∀ message psbt, wallet.proofPsbt message = .ok psbt → ∃ input witness,
    wallet.signToSign psbt = .ok input ∧ input.finalScriptWitness = some witness ∧
      (wallet.scriptType = .p2shP2wpkh → input.finalScriptSig.isSome) ∧
      ∀ network, verifySimple E wallet.scriptType wallet.utxoScriptPubkey witness
        (utf8 message) network = .ok ()

/-- A key that controls a script is the key of this script. -/
theorem ecdsaLeafControlsScript_eq_true {sk : SecretKey} {scriptType : ScriptType} {spk : Script} :
    ecdsaLeafControlsScript E S sk scriptType spk = true ↔
      scriptType ≠ .p2tr ∧ keyScript E S sk scriptType = spk := by
  cases scriptType <;> simp [ecdsaLeafControlsScript, keyScript]

/-- The script of a key is of the type it was made for. -/
theorem detectScriptType_keyScript (sk : SecretKey) (st : ScriptType) :
    detectScriptType (keyScript E S sk st) = .ok st := by
  cases st <;> simp [detectScriptType, keyScript, Script.isP2wpkh, Script.isP2tr, Script.isP2sh,
    Script.newP2wpkh, Script.newP2tr, Script.newP2sh]

/-- The key of the script of the coin makes an accepted proof. -/
theorem ProofWallet.accepts_of_keyScript (hlaws : SigningLaws E S D) {sk : SecretKey}
    (hspk : keyScript E S sk wallet.scriptType = wallet.utxoScriptPubkey) (message : String)
    (finalScriptSig : Option Script) :
    ∃ w, signSimple E S wallet.scriptType wallet.utxoScriptPubkey sk (utf8 message) = .ok w ∧
      wallet.Accepts message ⟨w, w, finalScriptSig, wallet.scriptType⟩ := by
  obtain ⟨w, hsign, hverify⟩ := exists_sign_verify hlaws wallet.scriptType sk (utf8 message)
  rw [hspk] at hsign hverify
  refine ⟨w, hsign, rfl, rfl, ?_, hverify⟩
  rw [← hspk]
  exact detectScriptType_keyScript sk wallet.scriptType

theorem ProofWallet.proofPsbt_isOk (wallet : ProofWallet E S) (message : String) :
    ∃ psbt, wallet.proofPsbt message = .ok psbt := ⟨_, rfl⟩

/-- **Every wallet proves ownership of its coin**, and the proof is accepted under the
type of the wallet. -/
theorem ProofWallet.signBip322_accepted (hlaws : SigningLaws E S D)
    (hbdk : wallet.wifKey = none → wallet.externalLeafSk = none → wallet.BdkSigns)
    (message : String) :
    ∃ signed, wallet.signBip322 message = .ok signed ∧ wallet.Accepts message signed := by
  rw [ProofWallet.signBip322]
  cases hwif : wallet.wifKey with
  | some sk =>
    obtain ⟨htype, hspk⟩ := wallet.wif sk hwif
    have hkey : keyScript E S sk wallet.scriptType = wallet.utxoScriptPubkey := by
      rw [htype]
      exact hspk
    obtain ⟨w, hsign, haccepts⟩ := ProofWallet.accepts_of_keyScript hlaws hkey message none
    rw [htype] at hsign haccepts
    refine ⟨_, ?_, haccepts⟩
    simp only [ProofWallet.wifSignBip322, hsign]
    rfl
  | none =>
    cases hleaf : wallet.externalLeafSk with
    | some leafSk =>
      obtain ⟨-, hspk⟩ := ecdsaLeafControlsScript_eq_true.mp (wallet.leaf leafSk hleaf)
      obtain ⟨w, hsign, haccepts⟩ := ProofWallet.accepts_of_keyScript hlaws hspk message
        (if wallet.scriptType = .p2shP2wpkh then
          some (p2shP2wpkhFinalScriptSig E (S.publicKey leafSk)) else none)
      refine ⟨_, ?_, haccepts⟩
      simp only [ProofWallet.leafSignBip322, hsign]
      rfl
    | none =>
      obtain ⟨hdetect, hsigns⟩ := hbdk hwif hleaf
      obtain ⟨psbt, hpsbt⟩ := wallet.proofPsbt_isOk message
      obtain ⟨input, w, hsign, hfinal, hscriptSig, hverify⟩ := hsigns message psbt hpsbt
      obtain ⟨ssig, hwitness⟩ : ∃ ssig,
          ProofWallet.signedWitness wallet.scriptType input = .ok (w, ssig) := by
        cases htype : wallet.scriptType with
        | p2wpkh => exact ⟨none, by simp [ProofWallet.signedWitness, hfinal]⟩
        | p2tr => exact ⟨none, by simp [ProofWallet.signedWitness, hfinal]⟩
        | p2shP2wpkh =>
          obtain ⟨ssig, hssig⟩ := Option.isSome_iff_exists.mp (hscriptSig htype)
          exact ⟨some ssig, by simp [ProofWallet.signedWitness, hfinal, hssig, okOr]; rfl⟩
      refine ⟨⟨w, w, ssig, wallet.scriptType⟩, ?_, rfl, rfl, hdetect, hverify⟩
      simp only [ProofWallet.bdkSignBip322, bind_eq_ok, ofExcept_eq_ok]
      exact ⟨psbt, hpsbt, input, hsign, (w, ssig), hwitness, rfl⟩

end Accepted

end Blindjoin
