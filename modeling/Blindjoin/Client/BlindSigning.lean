import Blindjoin.Client.Register
import Blindjoin.Lib.BlindRsa

/-!
# Blind signatures that are RSA

The client blinds and unblinds, and the coordinator signs and verifies, through a crate that
implements RSA blind signatures in their randomized variant: what is signed is the message
behind thirty-two random bytes. `Blindjoin.ImplementsBlindRsa` says so of the third-party
functions, as far as the key of one signer goes: they are the functions of the scheme, up to
how their results are packed and to the texts of errors.

There are such functions for every key and encoding of messages
(`Blindjoin.implementsBlindRsa_withBlindRsa`).
-/

namespace Blindjoin

/-- **The blind signatures under the key of a signer are RSA signatures** of the encoding of
the message behind its randomizer. -/
structure ImplementsBlindRsa (E : Externals) (C : ClientExternals) (signer : RsaBlindSigner)
    (key : BlindRsa.SecretKey)
    (enc : BlindRsa.Encoding key.toPublicKey (List.Vector UInt8 48)) : Prop where
  size : key.size = 256 ∨ key.size = 512
  blind : ∀ draw msg, (C.blind signer.publicKey draw msg).toOption =
    (BlindRsa.blind key.toPublicKey enc draw.salt draw.factor
      (draw.msgRandomizer.toList ++ msg)).map fun r =>
        ⟨r.1, BlindRsa.i2osp key.size r.2, some draw.msgRandomizer⟩
  blindSign : ∀ blinded, (E.blindSign signer.secretKey blinded).toOption =
    BlindRsa.blindSign key blinded
  finalize : ∀ blindSig result randomizer msg, result.msgRandomizer = some randomizer →
    (C.finalize signer.publicKey blindSig result msg).toOption =
      BlindRsa.finalize key.toPublicKey enc blindSig (BlindRsa.os2ip result.secret)
        (randomizer.toList ++ msg)
  verify : ∀ sig randomizer msg, E.rsaVerify signer.publicKey sig (some randomizer) msg =
    BlindRsa.verify key.toPublicKey enc (randomizer.toList ++ msg) sig

/-- **A message is blinded, signed and unblinded**: the client can take whatever the signer
makes of what it sends, and the signature does not depend on the factor that hid the
message. -/
theorem ImplementsBlindRsa.round_trip {E : Externals} {C : ClientExternals}
    {signer : RsaBlindSigner} {key : BlindRsa.SecretKey}
    {enc : BlindRsa.Encoding key.toPublicKey (List.Vector UInt8 48)}
    (h : ImplementsBlindRsa E C signer key enc) (draw : BlindDraw) (msg : Bytes)
    (hdraw : (BlindRsa.blind key.toPublicKey enc draw.salt draw.factor
      (draw.msgRandomizer.toList ++ msg)).isSome) :
    ∃ blinding blindSig, C.blind signer.publicKey draw msg = .ok blinding ∧
      blinding.msgRandomizer = some draw.msgRandomizer ∧
      (blinding.blindMessage.length = 256 ∨ blinding.blindMessage.length = 512) ∧
      E.blindSign signer.secretKey blinding.blindMessage = .ok blindSig ∧
      C.finalize signer.publicKey blindSig blinding msg =
        .ok (BlindRsa.signature key enc draw.salt (draw.msgRandomizer.toList ++ msg)) := by
  obtain ⟨⟨token, inverse⟩, hblinded⟩ := Option.isSome_iff_exists.mp hdraw
  obtain ⟨blindSig, hsigned, hfinal⟩ := BlindRsa.finalize_sign hblinded
  obtain ⟨-, -, htoken, hinverse⟩ := BlindRsa.blind_eq_some.mp hblinded
  refine ⟨⟨token, BlindRsa.i2osp key.size inverse, some draw.msgRandomizer⟩, blindSig, ?_, rfl, ?_,
    ?_, ?_⟩
  · rw [← toOption_eq_some, h.blind, hblinded]
    rfl
  · -- the token is as long as the modulus
    show token.length = 256 ∨ token.length = 512
    rw [htoken, BlindRsa.length_i2osp]
    exact h.size
  · rw [← toOption_eq_some, h.blindSign, hsigned]
  · -- the inverse of the factor is below the modulus, so it is read back
    have hread : BlindRsa.os2ip (BlindRsa.i2osp key.size inverse) = inverse := by
      refine BlindRsa.os2ip_i2osp (lt_of_lt_of_le ?_ key.le)
      rw [hinverse]
      exact ZMod.val_lt _
    rw [← toOption_eq_some, h.finalize _ _ draw.msgRandomizer _ rfl, hread, hfinal]

section Implement

variable (signer : RsaBlindSigner) (key : BlindRsa.SecretKey)
  (enc : BlindRsa.Encoding key.toPublicKey (List.Vector UInt8 48))

/-- Third-party functions that sign under a key, and under no other. -/
def Externals.withBlindRsa (E : Externals) : Externals :=
  { E with
    blindSign := fun sk blinded =>
      if sk = signer.secretKey then okOr "incorrect parameters" (BlindRsa.blindSign key blinded)
      else .error "unknown key"
    rsaVerify := fun pk sig randomizer msg => pk = signer.publicKey ∧
      BlindRsa.verify key.toPublicKey enc ((randomizer.elim [] List.Vector.toList) ++ msg) sig }

/-- A client that can blind for this key: it knows the serialization of the key, and the
texts of some addresses. -/
def blindRsaClient (pkDer : Bytes) (addressToString : Address → String) : ClientExternals where
  fromSpki der := if der = pkDer then .ok signer.publicKey else .error "encoding error"
  blind pk draw msg :=
    if pk = signer.publicKey then
      (okOr "incorrect parameters" (BlindRsa.blind key.toPublicKey enc draw.salt draw.factor
        (draw.msgRandomizer.toList ++ msg))).map fun r =>
          ⟨r.1, BlindRsa.i2osp key.size r.2, some draw.msgRandomizer⟩
    else .error "unknown key"
  finalize pk blindSig result msg :=
    if pk = signer.publicKey then
      okOr "verification failed" (BlindRsa.finalize key.toPublicKey enc blindSig
        (BlindRsa.os2ip result.secret) ((result.msgRandomizer.elim [] List.Vector.toList) ++ msg))
    else .error "unknown key"
  addressToString := addressToString
  json := compactJson

theorem toOption_okOr {ε α : Type} (e : ε) (o : Option α) : (okOr e o).toOption = o := by
  cases o <;> rfl

/-- **Every key has an implementation.** -/
theorem implementsBlindRsa_withBlindRsa (E : Externals) (pkDer : Bytes)
    (addressToString : Address → String) (hsize : key.size = 256 ∨ key.size = 512) :
    ImplementsBlindRsa (E.withBlindRsa signer key enc)
      (blindRsaClient signer key enc pkDer addressToString) signer key enc where
  size := hsize
  blind draw msg := by
    show (if signer.publicKey = signer.publicKey then _ else _ : Except String _).toOption = _
    rw [if_pos rfl]
    cases BlindRsa.blind key.toPublicKey enc draw.salt draw.factor
      (draw.msgRandomizer.toList ++ msg) <;> rfl
  blindSign blinded := by
    show (if signer.secretKey = signer.secretKey then _ else _ : Except String _).toOption = _
    rw [if_pos rfl, toOption_okOr]
  finalize blindSig result randomizer msg h := by
    show (if signer.publicKey = signer.publicKey then _ else _ : Except String _).toOption = _
    rw [if_pos rfl, toOption_okOr, h]
    rfl
  verify sig randomizer msg := by
    show decide (signer.publicKey = signer.publicKey ∧ _) = _
    simp

/-- What such a client unblinds is a signature. -/
theorem rsaVerify_of_finalize (E : Externals) {pkDer : Bytes} {addressToString : Address → String}
    {blindSig msg sig : Bytes} {result : BlindingResult}
    (h : (blindRsaClient signer key enc pkDer addressToString).finalize signer.publicKey blindSig
      result msg = .ok sig) :
    (E.withBlindRsa signer key enc).rsaVerify signer.publicKey sig result.msgRandomizer msg =
      true := by
  have hfinalize : BlindRsa.finalize key.toPublicKey enc blindSig (BlindRsa.os2ip result.secret)
      ((result.msgRandomizer.elim [] List.Vector.toList) ++ msg) = some sig := by
    rw [← toOption_okOr "verification failed" (BlindRsa.finalize ..), toOption_eq_some]
    exact (if_pos rfl).symm.trans h
  have hverify := BlindRsa.verify_of_finalize hfinalize
  show decide (signer.publicKey = signer.publicKey ∧ _) = true
  exact decide_eq_true ⟨rfl, hverify⟩

end Implement

end Blindjoin
