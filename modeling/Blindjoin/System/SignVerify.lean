import Blindjoin.Shared.Bip322Sign
import Blindjoin.System.CoinChecks
import Blindjoin.System.KeyBinding
import Blindjoin.System.SighashAll

/-!
# Signing and verifying ownership proofs

The client signs a proof and the coordinator verifies it through a third-party
verifier, which builds the two transactions and the digest on its own. So the two
sides agree only if each builds what BIP-322 says. `Blindjoin.Bip322Spec` is the
specification: the message a proof signs, field by field, and when a witness is a
proof. The transactions of the signer carry these messages
(`Blindjoin.segwitMessage_toSignOf`, `Blindjoin.taprootMessage_toSignOf`).

Then a proof signed with the key of the script is accepted
(`Blindjoin.exists_sign_verify`). The P2WPKH signer signs for the script of another
key too, but that proof shows the wrong key and is refused
(`Blindjoin.verifySimple_ne_ok_of_other`).
-/

namespace Blindjoin

/-! ### The specification -/

namespace Bip322Spec

section Messages

variable (E : Externals) (S : SignerExternals) (spk : Script) (message : Bytes)

/-- The tagged hash of the message. -/
def messageHash : Bytes32 :=
  let tag := (E.sha256 (utf8 "BIP0322-signed-message")).toList
  E.sha256 (tag ++ tag ++ message)

/-- `to_spend`: version and lock time zero, the message hash in the `scriptSig` of an
input from nowhere, and the script to be proven for. -/
def toSpend : Transaction :=
  ⟨0, 0, [⟨⟨⟨List.Vector.replicate 32 0⟩, 0xffffffff⟩,
    [0x00, 0x20] ++ (messageHash E message).toList, 0, []⟩], [⟨0, spk⟩]⟩

/-- The outpoint `to_sign` spends. -/
def outpoint : OutPoint := ⟨S.computeTxid (toSpend E spk message), 0⟩

/-- What is signed of `to_sign` with the key of a hash: version, lock time and
sequence zero, no value, and a bare `OP_RETURN`. -/
def segwit (hash : Bytes20) : SegwitMessage where
  version := 0
  prevouts := [outpoint E S spk message]
  sequences := [0]
  outpoint := outpoint E S spk message
  scriptCode := [0x76, 0xa9, 0x14] ++ hash.toList ++ [0x88, 0xac]
  value := 0
  sequence := 0
  outputs := [⟨0, [0x6a]⟩]
  lockTime := 0

/-- What is signed of `to_sign` with an output key. -/
def taproot (hashType : TapSighashType) : TaprootMessage where
  hashType := hashType
  version := 0
  lockTime := 0
  prevouts := [outpoint E S spk message]
  spent := [⟨0, spk⟩]
  sequences := [0]
  outputs := [⟨0, [0x6a]⟩]
  inputIndex := 0

end Messages

section Verifies

variable (E : Externals) (S : SignerExternals) (D : Digests) (spk : Script) (message : Bytes)

/-- A signature and the key whose script this is. The hash in the script is of the bytes
in the witness, so these are the key in its compressed form. -/
def ecdsaVerifies : Witness → Bool
  | [sig, pkBytes] => match E.compressedPublicKey pkBytes with
    | some key => key.toList = pkBytes ∧ spk = boundScript E spk key ∧
        sig.getLast? = some sighashAll ∧
        E.isDerSignature sig.dropLast ∧
        E.verifyEcdsa (D.segwit (segwit E S spk message (E.wpubkeyHash key))) sig.dropLast key
    | none => false
  | _ => false

/-- A signature for the key that is the script's program, of 64 bytes or with its
hash type. -/
def schnorrVerifies : Witness → Bool
  | [sig] =>
    let program := (spk.drop 2).take 32
    E.isXOnlyKey program ∧
      (sig.length = 64 ∧
          E.verifySchnorr (D.taproot (taproot E S spk message .default)) sig program ∨
        sig.length = 65 ∧ sig.getLast? = some sighashAll ∧
          E.verifySchnorr (D.taproot (taproot E S spk message .all)) sig.dropLast program)
  | _ => false

/-- A witness proves a script for a message. -/
def verifies (witness : Witness) : Bool :=
  match detectScriptType spk with
  | .ok .p2wpkh => ecdsaVerifies E S D spk message witness
  | .ok .p2shP2wpkh => ecdsaVerifies E S D spk message witness
  | .ok .p2tr => schnorrVerifies E S D spk message witness
  | .error _ => false

end Verifies

end Bip322Spec

/-- What is assumed of the third-party functions: the digests are those of BIP-143 and
of BIP-341, a signature verifies under the key and for the digest it was made with, and
the verifier accepts what BIP-322 says is a proof. -/
structure SigningLaws (E : Externals) (S : SignerExternals) (D : Digests) : Prop
    extends AddressLaws E where
  address : ∀ spk network, detectScriptType spk ≠ .error .unsupportedScriptType →
    ∃ address, E.addressFromScript spk network = .ok address
  segwit : ∀ tx i spk value,
    E.p2wpkhSignatureHash tx i spk value = (segwitMessage tx i spk value).map D.segwit
  taproot : ∀ tx i spent hashType,
    E.taprootSignatureHash tx i spent hashType = (taprootMessage tx i spent hashType).map D.taproot
  publicKey : ∀ key, E.publicKey (S.publicKey key).toList = some ⟨(S.publicKey key).toList, true⟩
  isXOnlyKey : ∀ key, E.isXOnlyKey (S.xOnlyPublicKey key).toList = true
  ecdsa : ∀ d key, E.isDerSignature (S.signEcdsa d key) = true ∧
    E.verifyEcdsa d (S.signEcdsa d key) (S.publicKey key) = true
  ecdsaWithNoncedata : ∀ d key entropy,
    E.isDerSignature (S.signEcdsaWithNoncedata d key entropy) = true ∧
      E.verifyEcdsa d (S.signEcdsaWithNoncedata d key entropy) (S.publicKey key) = true
  schnorr : ∀ d key, E.verifySchnorr d (S.signSchnorrNoAuxRand d key).toList
    (S.xOnlyPublicKey key).toList = true
  verifier : ∀ address message witness, E.bip322VerifySimple address message witness = .ok () ↔
    Bip322Spec.verifies E S D address.scriptPubkey message witness = true

/-- The script of a key, of each type. -/
def keyScript (E : Externals) (S : SignerExternals) (key : SecretKey) : ScriptType → Script
  | .p2wpkh => Script.newP2wpkh (E.wpubkeyHash (S.publicKey key))
  | .p2tr => Script.newP2tr (S.xOnlyPublicKey (S.tapTweak key))
  | .p2shP2wpkh =>
    Script.newP2sh (E.scriptHash (Script.newP2wpkh (E.wpubkeyHash (S.publicKey key))))

section Agree

variable {E : Externals} {S : SignerExternals} {D : Digests} {spk : Script} {key : SecretKey}
  {message : Bytes} {network : Network} {w : Witness}

/-! ### The two sides build the same message -/

/-- **The signer's `to_spend` is the one of the specification.** -/
theorem buildBip322ToSpend_eq :
    buildBip322ToSpend spk (bip322MessageHash E message) = Bip322Spec.toSpend E spk message := by
  have hpush : ∀ hash : Bytes32, Script.pushSlice hash.toList = 0x20 :: hash.toList := by
    intro hash
    rw [Script.pushSlice, List.Vector.toList_length]
    rfl
  rw [buildBip322ToSpend, hpush]
  rfl

/-- **What the signer signs for a P2WPKH script** is the message of the
specification, whatever script the proof is for. -/
theorem segwitMessage_toSignOf (hash : Bytes20) :
    segwitMessage (toSignOf E S spk message) 0 (Script.newP2wpkh hash) 0 =
      some (Bip322Spec.segwit E S spk message hash) := by
  have hp2wpkh : (Script.newP2wpkh hash).isP2wpkh = true := by
    simp [Script.isP2wpkh, Script.newP2wpkh]
  rw [segwitMessage, if_pos hp2wpkh, toSignOf, buildBip322ToSpend_eq]
  rfl

/-- **What the signer signs for a taproot script.** -/
theorem taprootMessage_toSignOf :
    taprootMessage (toSignOf E S spk message) 0 [⟨0, spk⟩] .default =
      some (Bip322Spec.taproot E S spk message .default) := by
  rw [toSignOf, buildBip322ToSpend_eq]
  rfl

/-- A digest of a script other than P2WPKH is not computed. -/
theorem isP2wpkh_of_segwitMessage {tx : Transaction} {i value : ℕ} {m : SegwitMessage}
    (h : segwitMessage tx i spk value = some m) : spk.isP2wpkh = true := by
  by_contra hne
  rw [segwitMessage, if_neg hne] at h
  exact absurd h (by simp)

/-! ### What the verifier accepts -/

/-- An accepted proof is a proof. -/
theorem verifies_of_verifySimple {st : ScriptType} (hlaws : SigningLaws E S D)
    (h : verifySimple E st spk w message network = .ok ()) :
    Bip322Spec.verifies E S D spk message w = true := by
  obtain ⟨address, hfrom, -, hcrate⟩ := exists_of_verifySimple h
  rw [← hlaws.scriptPubkey _ _ _ hfrom]
  exact (hlaws.verifier _ _ _).mp hcrate

/-- A proof that passes the guard is accepted. -/
theorem verifyWithArity_of_verifies {arity : ℕ} (hlaws : SigningLaws E S D)
    (hlen : w.length = arity) (hspk : detectScriptType spk ≠ .error .unsupportedScriptType)
    (hguard : ∀ address : Address, address.scriptPubkey = spk →
      keyBindingGuard E spk address w = .ok ())
    (h : Bip322Spec.verifies E S D spk message w = true) :
    verifyWithArity E arity spk w message network = .ok () := by
  obtain ⟨address, hfrom⟩ := hlaws.address spk network hspk
  have haddress := hlaws.scriptPubkey _ _ _ hfrom
  have hcrate : E.bip322VerifySimple address message w = .ok () := by
    rw [hlaws.verifier, haddress]
    exact h
  rw [verifyWithArity, if_neg (not_not.mpr hlen), verifyViaBip322Crate, hfrom]
  simp only [hguard address haddress, hcrate]

/-- The guard lets a key through that makes the script. -/
theorem keyBindingGuard_of_boundScript {address : Address} {pubkey : CompressedPublicKey}
    {sig : Bytes} (hlaws : AddressLaws E) (hspk : spk.isP2wpkh = true ∨ spk.isP2sh = true)
    (haddress : address.scriptPubkey = spk)
    (hpubkey : E.publicKey pubkey.toList = some ⟨pubkey.toList, true⟩)
    (hbound : spk = boundScript E spk pubkey) :
    keyBindingGuard E spk address [sig, pubkey.toList] = .ok () := by
  have hrelated : E.isRelatedToPubkey address ⟨pubkey.toList, true⟩ = true := by
    rw [hlaws.related]
    exact (relatedToPubkey_eq_true_iff hspk haddress).mpr
      (.inl ((eq_boundScript_iff hspk).mp hbound))
  rw [keyBindingGuard, if_neg (by simp [isP2tr_eq_false hspk])]
  simp [hpubkey, hrelated]

/-- An accepted witness for a P2WPKH script shows the key of the script. -/
theorem eq_newP2wpkh_of_verifies {sig : Bytes} {pubkey : CompressedPublicKey}
    (hspk : spk.isP2wpkh = true)
    (h : Bip322Spec.verifies E S D spk message [sig, pubkey.toList] = true) :
    spk = Script.newP2wpkh (E.wpubkeyHash pubkey) := by
  have hdetect : detectScriptType spk = .ok .p2wpkh := if_pos hspk
  simp only [Bip322Spec.verifies, hdetect, Bip322Spec.ecdsaVerifies] at h
  cases hkey : E.compressedPublicKey pubkey.toList with
  | none =>
    rw [hkey] at h
    exact absurd h (by simp)
  | some pubkey' =>
    rw [hkey] at h
    obtain ⟨hbytes, hbound, -⟩ := of_decide_eq_true h
    obtain rfl := List.Vector.toList_injective hbytes
    rwa [boundScript, if_pos hspk] at hbound

/-! ### What the signer makes is a proof -/

/-- The signature the loop ends with is a signature of the digest. -/
theorem signEcdsaCompat_verifies (hlaws : SigningLaws E S D) (key : SecretKey) (d : Bytes32) :
    E.isDerSignature (signEcdsaCompatBip322Length S d key) = true ∧
      E.verifyEcdsa d (signEcdsaCompatBip322Length S d key) (S.publicKey key) = true := by
  refine signEcdsaCompat_induction (P := fun sig => E.isDerSignature sig = true ∧
    E.verifyEcdsa d sig (S.publicKey key) = true) (hlaws.ecdsa d key) ?_
  intro entropy
  exact hlaws.ecdsaWithNoncedata d key entropy

/-- The witness of an ECDSA signer is a proof for the script of the key. -/
theorem ecdsaVerifies_sign (hlaws : SigningLaws E S D)
    (hbound : spk = boundScript E spk (S.publicKey key)) :
    Bip322Spec.ecdsaVerifies E S D spk message
      [signEcdsaCompatBip322Length S (D.segwit (Bip322Spec.segwit E S spk message
        (E.wpubkeyHash (S.publicKey key)))) key ++ [0x01], (S.publicKey key).toList] = true := by
  have hkey := hlaws.compressedPublicKey_toList _ (hlaws.publicKey key)
  obtain ⟨hder, hverify⟩ := signEcdsaCompat_verifies hlaws key
    (D.segwit (Bip322Spec.segwit E S spk message (E.wpubkeyHash (S.publicKey key))))
  rw [Bip322Spec.ecdsaVerifies, hkey]
  refine decide_eq_true ⟨rfl, hbound, ?_, ?_, ?_⟩
  · rw [List.getLast?_concat]
    rfl
  · rw [List.dropLast_concat]
    exact hder
  · rw [List.dropLast_concat]
    exact hverify

/-- **An ECDSA signature for the script of the key is accepted.** -/
theorem verifyWithArity_ecdsa (hlaws : SigningLaws E S D)
    (hspk : spk.isP2wpkh = true ∨ spk.isP2sh = true)
    (hbound : spk = boundScript E spk (S.publicKey key)) :
    verifyWithArity E 2 spk
      [signEcdsaCompatBip322Length S (D.segwit (Bip322Spec.segwit E S spk message
        (E.wpubkeyHash (S.publicKey key)))) key ++ [0x01], (S.publicKey key).toList]
      message network = .ok () := by
  have hdetect : detectScriptType spk = .ok .p2wpkh ∨ detectScriptType spk = .ok .p2shP2wpkh := by
    rw [detectScriptType, isP2tr_eq_false hspk]
    rcases hspk with h | h
    · exact .inl (if_pos h)
    · by_cases hp2wpkh : spk.isP2wpkh = true
      · exact .inl (if_pos hp2wpkh)
      · rw [if_neg hp2wpkh, if_neg Bool.false_ne_true, if_pos h]
        exact .inr rfl
  refine verifyWithArity_of_verifies hlaws rfl ?_ ?_ ?_
  · rcases hdetect with h | h <;> simp [h]
  · intro address haddress
    exact keyBindingGuard_of_boundScript hlaws.toAddressLaws hspk haddress
      (hlaws.publicKey key) hbound
  · rw [Bip322Spec.verifies]
    rcases hdetect with h | h
    · rw [h]
      exact ecdsaVerifies_sign hlaws hbound
    · rw [h]
      exact ecdsaVerifies_sign hlaws hbound

/-- **A Schnorr signature for the script of the tweaked key is accepted.** -/
theorem verifyWithArity_schnorr (hlaws : SigningLaws E S D) (tweaked : SecretKey)
    (hspk : spk = Script.newP2tr (S.xOnlyPublicKey tweaked)) :
    verifyWithArity E 1 spk [(S.signSchnorrNoAuxRand
      (D.taproot (Bip322Spec.taproot E S spk message .default)) tweaked).toList]
      message network = .ok () := by
  have hp2tr : spk.isP2tr = true := by simp [hspk, Script.isP2tr, Script.newP2tr]
  have hdetect : detectScriptType spk = .ok .p2tr := by
    have hp2wpkh : spk.isP2wpkh = false := by simp [hspk, Script.isP2wpkh, Script.newP2tr]
    rw [detectScriptType, hp2wpkh, if_neg Bool.false_ne_true, if_pos hp2tr]
  have hprogram : (spk.drop 2).take 32 = (S.xOnlyPublicKey tweaked).toList := by
    rw [hspk]
    exact List.take_of_length_le (List.Vector.toList_length _).le
  refine verifyWithArity_of_verifies hlaws rfl (by simp [hdetect]) ?_ ?_
  · intro address haddress
    rw [keyBindingGuard, if_pos hp2tr]
  · rw [Bip322Spec.verifies, hdetect]
    simp only [Bip322Spec.schnorrVerifies, hprogram]
    refine decide_eq_true ⟨hlaws.isXOnlyKey tweaked, .inl ⟨List.Vector.toList_length _, ?_⟩⟩
    exact hlaws.schnorr _ tweaked

/-! ### The two sides agree -/

/-- **A key signs for its script and the proof is accepted**: of each type, and on
every network. -/
theorem exists_sign_verify (hlaws : SigningLaws E S D) (st : ScriptType) (key : SecretKey)
    (message : Bytes) :
    ∃ w, signSimple E S st (keyScript E S key st) key message = .ok w ∧
      ∀ network, verifySimple E st (keyScript E S key st) w message network = .ok () := by
  cases st with
  | p2wpkh =>
    have hspk : (keyScript E S key .p2wpkh).isP2wpkh = true := by
      simp [keyScript, Script.isP2wpkh, Script.newP2wpkh]
    have hbound : keyScript E S key .p2wpkh =
        boundScript E (keyScript E S key .p2wpkh) (S.publicKey key) := by
      rw [boundScript, if_pos hspk]
      rfl
    refine ⟨_, p2wpkhSign_eq_ok.mpr ⟨D.segwit (Bip322Spec.segwit E S
      (keyScript E S key .p2wpkh) message (E.wpubkeyHash (S.publicKey key))), ?_, rfl⟩,
      fun network => ?_⟩
    · rw [hlaws.segwit, keyScript, segwitMessage_toSignOf]
      rfl
    · exact verifyWithArity_ecdsa hlaws (.inl hspk) hbound
  | p2tr =>
    refine ⟨_, p2trSign_eq_ok (d := D.taproot (Bip322Spec.taproot E S (keyScript E S key .p2tr)
      message .default)) rfl ?_, fun network => ?_⟩
    · rw [hlaws.taproot, taprootMessage_toSignOf]
      rfl
    · exact verifyWithArity_schnorr hlaws _ rfl
  | p2shP2wpkh =>
    have hspk : (keyScript E S key .p2shP2wpkh).isP2sh = true := Script.isP2sh_newP2sh _
    have hbound : keyScript E S key .p2shP2wpkh =
        boundScript E (keyScript E S key .p2shP2wpkh) (S.publicKey key) := by
      have hp2wpkh : (keyScript E S key .p2shP2wpkh).isP2wpkh = false := by
        simp [keyScript, Script.isP2wpkh, Script.newP2sh]
      rw [boundScript, hp2wpkh]
      rfl
    refine ⟨_, p2shP2wpkhSign_eq_ok (d := D.segwit (Bip322Spec.segwit E S
      (keyScript E S key .p2shP2wpkh) message (E.wpubkeyHash (S.publicKey key)))) rfl ?_,
      fun network => ?_⟩
    · rw [hlaws.segwit, segwitMessage_toSignOf]
      rfl
    · exact verifyWithArity_ecdsa hlaws (.inr hspk) hbound

/-- **What the P2WPKH signer signs for the script of another key is refused**, under
every type, for every message and on every network. -/
theorem verifySimple_ne_ok_of_other (hlaws : SigningLaws E S D)
    (hother : spk ≠ keyScript E S key .p2wpkh) (hsign : p2wpkhSign E S spk key message = .ok w)
    (st : ScriptType) (message' : Bytes) (network : Network) :
    verifySimple E st spk w message' network ≠ .ok () := by
  obtain ⟨d, hd, rfl⟩ := p2wpkhSign_eq_ok.mp hsign
  rw [hlaws.segwit, Option.map_eq_some_iff] at hd
  obtain ⟨m, hm, -⟩ := hd
  intro haccepted
  exact hother (eq_newP2wpkh_of_verifies (isP2wpkh_of_segwitMessage hm)
    (verifies_of_verifySimple hlaws haccepted))

/-- **Signing and verifying agree.** A proof signed with the key of the script is
accepted. For any other script the signers of the newer types refuse, and what the
P2WPKH signer returns is never accepted. -/
theorem sign_verify_agree (hlaws : SigningLaws E S D) (st : ScriptType) (key : SecretKey)
    (message : Bytes) :
    (∃ w, signSimple E S st (keyScript E S key st) key message = .ok w ∧
      ∀ network, verifySimple E st (keyScript E S key st) w message network = .ok ()) ∧
    ∀ spk, spk ≠ keyScript E S key st →
      match st with
      | .p2wpkh => ∀ w, signSimple E S .p2wpkh spk key message = .ok w →
          ∀ st' message' network, verifySimple E st' spk w message' network ≠ .ok ()
      | .p2tr => signSimple E S .p2tr spk key message =
          fail (.scriptTypeMismatch ((detectScriptType spk).toOption.getD .p2tr) .p2tr)
      | .p2shP2wpkh => signSimple E S .p2shP2wpkh spk key message =
          fail (.scriptTypeMismatch ((detectScriptType spk).toOption.getD .p2shP2wpkh)
            .p2shP2wpkh) := by
  refine ⟨exists_sign_verify hlaws st key message, ?_⟩
  intro spk hother
  cases st with
  | p2wpkh =>
    intro w hsign st' message' network
    exact verifySimple_ne_ok_of_other hlaws hother hsign st' message' network
  | p2tr => exact if_pos (Ne.symm hother)
  | p2shP2wpkh => exact if_pos (Ne.symm hother)

end Agree

/-! ### The keys of the recorded session -/

/-- What holds of the recorded answers and of the default holds of every answer. -/
theorem forall_answer {α β : Type} [DecidableEq α] {P : α → β → Prop} {table : List (α × β)}
    {default : β} (htable : ∀ e ∈ table, P e.1 e.2) (hdefault : ∀ a, P a default) (a : α) :
    P a (answer table default a) := by
  rw [answer]
  split
  · next entry hfind =>
    obtain rfl : entry.1 = a := by simpa using List.find?_some hfind
    exact htable _ (List.mem_of_find?_eq_some hfind)
  · exact hdefault a

/-- The secret keys of the two participants, and the first one tweaked. -/
def firstSecret : SecretKey := ⟨1, by decide, by decide⟩

def secondSecret : SecretKey := ⟨2, by decide, by decide⟩

def tweakedSecret : SecretKey :=
  ⟨0x3cf5216d476a5e637bf0da674e50ddf55c403270dd36494dfcca438132fa30e8, by decide, by decide⟩

/-- The public key of the tweaked one, and the taproot script of the first key. -/
def tweakedKey : Bytes := beWords [
    0x03da4710964f7852695de2da025290e24af6d8c281de5a0b902b7135fd9fd74d] ++
  beBytes 1 0x21

def firstTaprootScript : Script := [0x51, 0x20] ++ beBytes 32
  0xda4710964f7852695de2da025290e24af6d8c281de5a0b902b7135fd9fd74d21

/-- The message of the second ownership proof. -/
def secondMessage : Bytes := utf8 (ownershipMessage firstRound.toText secondCoin)

/-- What the P2WPKH, the P2SH-P2WPKH and the P2TR proof sign. -/
def firstDigest : Bytes32 := beVector 32
  0x3c82eea4429c855ee73f85802c10e822516acf843aeb60db2e311c7e753abe68

def secondDigest : Bytes32 := beVector 32
  0x6e488ccf466e25b272126080078bf2ef48e163d87951518eb41db2d7b4f4c972

def taprootDigest : Bytes32 := beVector 32
  0x61a9e4ae4e898207f3d657a3d72c762f498692a0b9215d71b317c5104d582ef3

/-- The Schnorr signature of the P2TR proof. -/
def taprootProof : List.Vector UInt8 64 := ⟨beWords [
  0xbbeb1f13ccc737b2c5d8aea50d1f5e885e572ec987c9c1f3788ff34190b75e6e,
  0x6bd0f368fcb3d3da03d7eb543c895dceeb426200dbfe7a3f671f19eb72f0c525], by decide⟩

/-- The answers to what was not recorded: a signature in DER, and one of sixty-four
zeros. -/
def defaultSig : Bytes := [0x30, 0x06, 0x02, 0x01, 0x01, 0x02, 0x01, 0x01]

def defaultSchnorr : List.Vector UInt8 64 := List.Vector.replicate 64 0

/-- The session, with the hashes of BIP-322. -/
def proofRecording : Recording :=
  let tag : ℕ := 0x746584a1872fa10041554effa038d6124942dd79b4e58a4cda184e13dbe62c49
  { session with
    sha256 := [
      (utf8 "BIP0322-signed-message", beVector 32 tag),
      (beWords [tag, tag] ++ firstMessage, beVector 32
        0x2f3254c3bd0cfcd204471cebaceab222d5d69eb14eed3ca8bde1ea560ec16e8d),
      (beWords [tag, tag] ++ secondMessage, beVector 32
        0x9bda32d3092a259ebab3608e5a86e8f0a301897b5a8822190600ae3eeeb5aee4)] }

/-- The session, with the keys and the signatures of the three proofs. -/
def proofExternals : Externals :=
  { proofRecording.relating with
    compressedPublicKey := readCompressedKey [firstKey, secondKey, tweakedKey] []
    publicKey := readKey [firstKey, secondKey, tweakedKey] []
    isXOnlyKey := fun bs => [firstKey, secondKey, tweakedKey].any fun key => key.drop 1 = bs
    isDerSignature := fun sig =>
      [firstProof.dropLast, secondProof.dropLast, defaultSig].any fun der => der = sig
    verifyEcdsa := fun d sig key => sig = defaultSig ||
      [(firstDigest, firstProof.dropLast, firstKey),
        (secondDigest, secondProof.dropLast, secondKey)].any fun e => e = (d, sig, key.toList)
    verifySchnorr := fun d sig key => sig = defaultSchnorr.toList ||
      (d, sig, key) = (taprootDigest, taprootProof.toList, tweakedKey.drop 1) }

/-- The signer of the two participants. -/
def proofSigner : SignerExternals where
  publicKey := answer [(firstSecret, ⟨firstKey, by decide⟩), (secondSecret, ⟨secondKey, by decide⟩),
    (tweakedSecret, ⟨tweakedKey, by decide⟩)] ⟨firstKey, by decide⟩
  tapTweak key := if key = firstSecret then tweakedSecret else key
  signEcdsa d key := answer [((firstDigest, firstSecret), firstProof.dropLast),
    ((secondDigest, secondSecret), secondProof.dropLast)] defaultSig (d, key)
  signEcdsaWithNoncedata _ _ _ := defaultSig
  signSchnorrNoAuxRand d key :=
    answer [((taprootDigest, tweakedSecret), taprootProof)] defaultSchnorr (d, key)
  computeTxid := answer [
      (Bip322Spec.toSpend proofExternals firstScript firstMessage, ⟨beVector 32
        0xf2ca8940cca6066930c4c923997afc35ab1ff97a8412056f0f1f4e17bb3008b9⟩),
      (Bip322Spec.toSpend proofExternals secondScript secondMessage, ⟨beVector 32
        0x60a064cb9795d764b07ad264c76e1a1fcee962222c0b5673f576fe03ae602780⟩),
      (Bip322Spec.toSpend proofExternals firstTaprootScript firstMessage, ⟨beVector 32
        0x9f96b554db2dbae264c473af2c300e3d7d9368b69d5fd639cf2161acb6a65925⟩)]
    ⟨List.Vector.replicate 32 0⟩
  sighashError _ _ _ _ := "not a p2wpkh script"

/-- The digests of the three proofs. -/
def proofDigests : Digests where
  segwit := answer [
      (Bip322Spec.segwit proofExternals proofSigner firstScript firstMessage
        (proofExternals.hash160 firstKey), firstDigest),
      (Bip322Spec.segwit proofExternals proofSigner secondScript secondMessage
        (proofExternals.hash160 secondKey), secondDigest)] (List.Vector.replicate 32 0)
  taproot := answer [
      (Bip322Spec.taproot proofExternals proofSigner firstTaprootScript firstMessage .default,
        taprootDigest)] (List.Vector.replicate 32 0)

/-- Third-party functions with given digests, and a verifier that follows the
specification. -/
def Externals.following (E : Externals) (S : SignerExternals) (D : Digests) : Externals :=
  { E with
    p2wpkhSignatureHash := fun tx i spk value => (segwitMessage tx i spk value).map D.segwit
    taprootSignatureHash := fun tx i spent hashType =>
      (taprootMessage tx i spent hashType).map D.taproot
    bip322VerifySimple := fun address message witness =>
      if Bip322Spec.verifies E S D address.scriptPubkey message witness then .ok ()
      else .error "invalid" }

theorem following_bip322VerifySimple (E : Externals) (S : SignerExternals) (D : Digests)
    (address : Address) (message : Bytes) (witness : Witness) :
    (E.following S D).bip322VerifySimple address message witness = .ok () ↔
      Bip322Spec.verifies (E.following S D) S D address.scriptPubkey message witness = true := by
  have hspec : Bip322Spec.verifies (E.following S D) S D address.scriptPubkey message witness =
      Bip322Spec.verifies E S D address.scriptPubkey message witness := rfl
  have hanswer : (E.following S D).bip322VerifySimple address message witness =
      if Bip322Spec.verifies E S D address.scriptPubkey message witness then .ok ()
      else .error "invalid" := rfl
  rw [hspec, hanswer]
  split
  · next h => exact ⟨fun _ => h, fun _ => rfl⟩
  · next h => exact ⟨fun hok => absurd hok (by simp), fun hok => absurd hok h⟩

/-- The session with a verifier that follows the specification. -/
def proving : Externals := proofExternals.following proofSigner proofDigests

/-- The public keys are those that were recorded. -/
theorem proofSigner_publicKey (key : SecretKey) :
    (proofSigner.publicKey key).toList ∈ [firstKey, secondKey, tweakedKey] := by
  refine forall_answer (P := fun (_ : SecretKey) (pubkey : CompressedPublicKey) =>
    pubkey.toList ∈ [firstKey, secondKey, tweakedKey]) ?_ ?_ key
  · intro e he
    simp only [List.mem_cons, List.not_mem_nil, or_false] at he
    rcases he with rfl | rfl | rfl
    · exact List.mem_cons_self
    · exact List.mem_cons_of_mem _ List.mem_cons_self
    · exact List.mem_cons_of_mem _ (List.mem_cons_of_mem _ List.mem_cons_self)
  · intro a
    exact List.mem_cons_self

/-- The default signature verifies. -/
theorem proving_defaultSig (d : Bytes32) (pubkey : CompressedPublicKey) :
    proving.isDerSignature defaultSig = true ∧
      proving.verifyEcdsa d defaultSig pubkey = true := by
  constructor
  · decide +kernel
  · rfl

theorem provingLaws : SigningLaws proving proofSigner proofDigests where
  toReadsKeys := readsKeys_of_known rfl rfl
  scriptPubkey := (Recording.addressLaws proofRecording).scriptPubkey
  related := by
    intro address key
    rfl
  address := by
    intro spk network hspk
    have hknown : spk.isP2wpkh ∨ spk.isP2tr ∨ spk.isP2sh := by
      by_contra hnone
      simp only [not_or, Bool.not_eq_true] at hnone
      obtain ⟨hp2wpkh, hp2tr, hp2sh⟩ := hnone
      exact hspk (by rw [detectScriptType, hp2wpkh, hp2tr, hp2sh]; rfl)
    exact ⟨_, if_pos hknown⟩
  segwit := by
    intro tx i spk value
    rfl
  taproot := by
    intro tx i spent hashType
    rfl
  publicKey := by
    intro key
    exact readKey_toList (proofSigner_publicKey key)
  isXOnlyKey := by
    intro key
    exact List.any_eq_true.mpr ⟨_, proofSigner_publicKey key, decide_eq_true rfl⟩
  ecdsa := by
    intro d key
    refine forall_answer (P := fun (e : Bytes32 × SecretKey) (sig : Bytes) =>
      proving.isDerSignature sig = true ∧
        proving.verifyEcdsa e.1 sig (proofSigner.publicKey e.2) = true) ?_ ?_ (d, key)
    · intro e he
      rcases List.mem_pair.mp he with rfl | rfl
      · exact ⟨by decide +kernel, by decide +kernel⟩
      · exact ⟨by decide +kernel, by decide +kernel⟩
    · intro e
      exact proving_defaultSig _ _
  ecdsaWithNoncedata := by
    intro d key entropy
    exact proving_defaultSig _ _
  schnorr := by
    intro d key
    refine forall_answer (P := fun (e : Bytes32 × SecretKey) (sig : List.Vector UInt8 64) =>
      proving.verifySchnorr e.1 sig.toList (proofSigner.xOnlyPublicKey e.2).toList = true)
      ?_ ?_ (d, key)
    · intro e he
      obtain rfl := List.mem_singleton.mp he
      decide +kernel
    · intro e
      rfl
  verifier := following_bip322VerifySimple _ _ _

/-- **The three proofs**: each is signed as it was recorded, and is accepted. -/
theorem sign_verify_agree_session :
    (signSimple proving proofSigner .p2wpkh firstScript firstSecret firstMessage =
        .ok [firstProof, firstKey] ∧
      ∀ network, verifySimple proving .p2wpkh firstScript [firstProof, firstKey] firstMessage
        network = .ok ()) ∧
    (signSimple proving proofSigner .p2shP2wpkh secondScript secondSecret secondMessage =
        .ok [secondProof, secondKey] ∧
      ∀ network, verifySimple proving .p2shP2wpkh secondScript [secondProof, secondKey]
        secondMessage network = .ok ()) ∧
    (signSimple proving proofSigner .p2tr firstTaprootScript firstSecret firstMessage =
        .ok [taprootProof.toList] ∧
      ∀ network, verifySimple proving .p2tr firstTaprootScript [taprootProof.toList] firstMessage
        network = .ok ()) := by
  have haccepted : ∀ st key message spk w, keyScript proving proofSigner key st = spk →
      signSimple proving proofSigner st spk key message = .ok w →
      ∀ network, verifySimple proving st spk w message network = .ok () := by
    rintro st key message spk w rfl hsign
    obtain ⟨⟨w', hsign', hverify⟩, -⟩ := sign_verify_agree provingLaws st key message
    obtain rfl := Except.ok.inj (hsign.symm.trans hsign')
    exact hverify
  have hp2wpkh : signSimple proving proofSigner .p2wpkh firstScript firstSecret firstMessage =
      .ok [firstProof, firstKey] := by
    decide +kernel
  have hp2sh : signSimple proving proofSigner .p2shP2wpkh secondScript secondSecret
      secondMessage = .ok [secondProof, secondKey] := by
    decide +kernel
  have hp2tr : signSimple proving proofSigner .p2tr firstTaprootScript firstSecret
      firstMessage = .ok [taprootProof.toList] := by
    decide +kernel
  exact ⟨⟨hp2wpkh, haccepted _ _ _ _ _ (by decide +kernel) hp2wpkh⟩,
    ⟨hp2sh, haccepted _ _ _ _ _ (by decide +kernel) hp2sh⟩,
    ⟨hp2tr, haccepted _ _ _ _ _ (by decide +kernel) hp2tr⟩⟩

end Blindjoin
