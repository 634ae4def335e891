import Blindjoin.Coordinator.Utxo
import Blindjoin.System.Recorded

/-!
# What a registered coin is known to be

A registration rests on two checks: the node's answer about the coin, and the
proof that the participant owns it.

The proof comes in two envelopes. What is accepted does not depend on the
envelope but on the witness it carries (`Blindjoin.OwnershipProof.Carries`) and
on the script that is on the chain (`Blindjoin.dispatchOwnershipProof_eq_ok_iff`).
The one thing a client declares, the script type of the second envelope, is an
additional condition: declaring another type can only turn an acceptance into a
rejection, except that declaring the type on the chain lifts the rejection a
wrong declaration led to (`Blindjoin.dispatch_governed_by_chain`).

Of the node's answer the value and the script are used. The number of
confirmations and the coinbase flag are read by nothing, so a coinbase output is
registered before it can be spent: an accepted coin is what it should be exactly
when the answer says it is confirmed and not an immature coinbase output
(`Blindjoin.spendable_iff`).

The value is compared with the exact sum of the denomination and the fee estimate. The
sum of the code is that of `u64`, and the two agree under `Blindjoin.FitsU64`
(`Blindjoin.registrationGateU64_of_fitsU64`).
-/

namespace Blindjoin

open TextCodec

/-! ### The witness of an envelope -/

/-- The witness an envelope carries: the stack of version 1, the final witness of
the first input of the transaction of version 2. -/
def OwnershipProof.Carries (E : Externals) (proof : OwnershipProof) (witness : Witness) : Prop :=
  (proof.version = 1 ∧ proof.witnessStack = witness) ∨
  (proof.version = 2 ∧ ∃ b64 bytes psbt input, proof.psbtInputB64 = some b64 ∧
    E.base64Decode b64 = .ok bytes ∧ E.psbtDeserialize bytes = .ok psbt ∧
    psbt.inputs.head? = some input ∧ input.finalScriptWitness = some witness)

section Dispatch

variable {E : Externals} {spk : Script} {proof proof' v1 v2 : OwnershipProof} {network : Network}
  {bip : BipConfig} {message : Bytes} {witness witness' : Witness} {st : ScriptType}

/-- When an envelope decodes, and to what. -/
theorem decodePsbtInputWitness_eq_ok {b64 : String} :
    decodePsbtInputWitness E b64 = .ok witness ↔
      ∃ bytes psbt input, E.base64Decode b64 = .ok bytes ∧ E.psbtDeserialize bytes = .ok psbt ∧
        psbt.inputs.head? = some input ∧ input.finalScriptWitness = some witness := by
  simp only [decodePsbtInputWitness, bind_eq_ok, mapError_eq_ok, okOr_eq_ok]
  constructor
  · rintro ⟨bytes, hbytes, psbt, hpsbt, input, hinput, hwitness⟩
    exact ⟨bytes, psbt, input, hbytes, hpsbt, hinput, hwitness⟩
  · rintro ⟨bytes, psbt, input, hbytes, hpsbt, hinput, hwitness⟩
    exact ⟨bytes, hbytes, psbt, hpsbt, input, hinput, hwitness⟩

/-- An envelope carries one witness. -/
theorem OwnershipProof.Carries.unique (h : proof.Carries E witness)
    (h' : proof.Carries E witness') : witness = witness' := by
  rcases h with ⟨hv, rfl⟩ | ⟨hv, b64, bytes, psbt, input, hb64, hbytes, hpsbt, hinput, hw⟩
  · rcases h' with ⟨-, rfl⟩ | ⟨hv', -⟩
    · rfl
    · rw [hv] at hv'
      exact absurd hv' (by decide)
  · rcases h' with ⟨hv', -⟩ | ⟨-, b64', bytes', psbt', input', hb64', hbytes', hpsbt', hinput', hw'⟩
    · rw [hv] at hv'
      exact absurd hv' (by decide)
    · obtain rfl := Option.some.inj (hb64.symm.trans hb64')
      obtain rfl := Except.ok.inj (hbytes.symm.trans hbytes')
      obtain rfl := Except.ok.inj (hpsbt.symm.trans hpsbt')
      obtain rfl := Option.some.inj (hinput.symm.trans hinput')
      exact Option.some.inj (hw.symm.trans hw')

/-- **When a proof is accepted**: the witness it carries is one for the script on
the chain, the type of that script is allowed, and version 2 declares it. -/
theorem dispatchOwnershipProof_eq_ok_iff :
    dispatchOwnershipProof E spk proof network bip message = .ok st ↔
      detectScriptType spk = .ok st ∧ bip.allows st = true ∧
      (∃ witness, proof.Carries E witness ∧
        verifySimple E st spk witness message network = .ok ()) ∧
      (proof.version = 2 → proof.scriptType = some st) := by
  have hne : (2 : UInt8) ≠ 1 := by decide
  rw [dispatchOwnershipProof]
  by_cases hv1 : proof.version = 1
  · have hv2 : proof.version ≠ 2 := by
      rw [hv1]
      exact hne.symm
    rw [if_pos hv1]
    simp only [bind_eq_ok, require_eq_ok]
    constructor
    · rintro ⟨derived, hderived, _, hallows, _, hverify, hst⟩
      obtain rfl : derived = st := Except.ok.inj hst
      exact ⟨hderived, hallows, ⟨_, .inl ⟨hv1, rfl⟩, hverify⟩, fun h => absurd h hv2⟩
    · rintro ⟨hderived, hallows, ⟨witness, hcarries, hverify⟩, -⟩
      obtain rfl := hcarries.unique (.inl ⟨hv1, rfl⟩)
      exact ⟨st, hderived, (), hallows, (), hverify, rfl⟩
  · by_cases hv2 : proof.version = 2
    · rw [if_neg hv1, if_pos hv2]
      simp only [bind_eq_ok, require_eq_ok, okOr_eq_ok, decodePsbtInputWitness_eq_ok]
      constructor
      · rintro ⟨b64, hb64, declared, hdeclared, witness,
          ⟨bytes, psbt, input, hbytes, hpsbt, hinput, hwitness⟩, derived, hderived, _, heq, _,
          hallows, _, hverify, hst⟩
        obtain rfl : derived = st := Except.ok.inj hst
        obtain rfl := heq
        refine ⟨hderived, hallows, ⟨witness, ?_, hverify⟩, fun _ => hdeclared⟩
        exact .inr ⟨hv2, b64, bytes, psbt, input, hb64, hbytes, hpsbt, hinput, hwitness⟩
      · rintro ⟨hderived, hallows, ⟨witness, hcarries, hverify⟩, hdeclared⟩
        rcases hcarries with ⟨hv, -⟩ |
          ⟨-, b64, bytes, psbt, input, hb64, hbytes, hpsbt, hinput, hwitness⟩
        · exact absurd hv hv1
        · exact ⟨b64, hb64, st, hdeclared hv2, witness,
            ⟨bytes, psbt, input, hbytes, hpsbt, hinput, hwitness⟩, st, hderived, (), rfl, (),
            hallows, (), hverify, rfl⟩
    · rw [if_neg hv1, if_neg hv2]
      constructor
      · intro h
        exact absurd h (by simp)
      · rintro ⟨-, -, ⟨witness, hcarries, -⟩, -⟩
        rcases hcarries with ⟨hv, -⟩ | ⟨hv, -⟩
        · exact absurd hv hv1
        · exact absurd hv hv2

/-- The two envelopes, carrying the same witness: the second one with the type on
the chain is answered as the first one is. -/
theorem dispatchOwnershipProof_congr (hv1 : v1.version = 1) (hv2 : v2.version = 2)
    (h1 : v1.Carries E witness) (h2 : v2.Carries E witness) (hst : v2.scriptType = some st)
    (hdetect : detectScriptType spk = .ok st) :
    dispatchOwnershipProof E spk v1 network bip message =
      dispatchOwnershipProof E spk v2 network bip message := by
  have hne : v2.version ≠ 1 := by
    rw [hv2]
    decide
  obtain rfl := h1.unique (.inl ⟨hv1, rfl⟩)
  rcases h2 with ⟨hv, -⟩ | ⟨-, b64, bytes, psbt, input, hb64, hbytes, hpsbt, hinput, hwitness⟩
  · exact absurd hv hne
  · have hdecode : decodePsbtInputWitness E b64 = .ok v1.witnessStack :=
      decodePsbtInputWitness_eq_ok.mpr ⟨bytes, psbt, input, hbytes, hpsbt, hinput, hwitness⟩
    rw [dispatchOwnershipProof, dispatchOwnershipProof, if_pos hv1, if_neg hne, if_pos hv2, hb64,
      hst, hdetect]
    have hok : ∀ {α β : Type} (a : α) (f : α → Except Bip322Error β), (Except.ok a >>= f) = f a :=
      fun _ _ => rfl
    have hdeclared : require True (Bip322Error.scriptTypeMismatch st st) = .ok () :=
      if_pos trivial
    simp only [okOr, hok, hdecode, hdeclared]

/-- **The chain governs the verdict, whatever the envelope.** What is accepted; that
the envelope of version 2 with the type on the chain is answered as the one of
version 1; and that of two proofs of a version with the same witness, one is accepted
and the other is not only if the other declares a type that is not on the chain. -/
theorem dispatch_governed_by_chain (E : Externals) (spk : Script) (network : Network)
    (bip : BipConfig) (message : Bytes) :
    (∀ proof st, dispatchOwnershipProof E spk proof network bip message = .ok st ↔
      (proof.version = 1 ∨ proof.version = 2) ∧
      detectScriptType spk = .ok st ∧ bip.allows st = true ∧
      (∃ witness, proof.Carries E witness ∧
        verifySimple E st spk witness message network = .ok ()) ∧
      (proof.version = 2 → proof.scriptType = some st)) ∧
    (∀ v1 v2 witness st, v1.version = 1 → v2.version = 2 → v1.Carries E witness →
      v2.Carries E witness → v2.scriptType = some st →
      (dispatchOwnershipProof E spk v1 network bip message = .ok st ↔
        dispatchOwnershipProof E spk v2 network bip message = .ok st) ∧
      (detectScriptType spk = .ok st →
        dispatchOwnershipProof E spk v1 network bip message =
          dispatchOwnershipProof E spk v2 network bip message)) ∧
    (∀ proof proof' witness st, proof'.version = proof.version → proof.Carries E witness →
      proof'.Carries E witness →
      dispatchOwnershipProof E spk proof' network bip message = .ok st →
      dispatchOwnershipProof E spk proof network bip message = .ok st ∨
        (proof.version = 2 ∧ proof.scriptType ≠ some st ∧ proof'.scriptType = some st)) := by
  refine ⟨?_, ?_, ?_⟩
  · intro proof st
    rw [dispatchOwnershipProof_eq_ok_iff]
    constructor
    · rintro ⟨hderived, hallows, ⟨witness, hcarries, hverify⟩, hdeclared⟩
      refine ⟨?_, hderived, hallows, ⟨witness, hcarries, hverify⟩, hdeclared⟩
      exact hcarries.imp And.left And.left
    · rintro ⟨-, h⟩
      exact h
  · intro v1 v2 witness st hv1 hv2 h1 h2 hst
    refine ⟨?_, fun hdetect => dispatchOwnershipProof_congr hv1 hv2 h1 h2 hst hdetect⟩
    have hne : v1.version ≠ 2 := by
      rw [hv1]
      decide
    rw [dispatchOwnershipProof_eq_ok_iff, dispatchOwnershipProof_eq_ok_iff]
    constructor
    · rintro ⟨hderived, hallows, ⟨witness', hcarries, hverify⟩, -⟩
      obtain rfl := hcarries.unique h1
      exact ⟨hderived, hallows, ⟨witness', h2, hverify⟩, fun _ => hst⟩
    · rintro ⟨hderived, hallows, ⟨witness', hcarries, hverify⟩, -⟩
      obtain rfl := hcarries.unique h2
      exact ⟨hderived, hallows, ⟨witness', h1, hverify⟩, fun h => absurd h hne⟩
  · intro proof proof' witness st hversion h h' haccept
    obtain ⟨hderived, hallows, ⟨witness', hcarries, hverify⟩, hdeclared⟩ :=
      dispatchOwnershipProof_eq_ok_iff.mp haccept
    obtain rfl := hcarries.unique h'
    -- the declared type is all that is left to tell the two proofs apart
    by_cases hst : proof.version = 2 → proof.scriptType = some st
    · refine .inl (dispatchOwnershipProof_eq_ok_iff.mpr ?_)
      exact ⟨hderived, hallows, ⟨witness', h, hverify⟩, hst⟩
    · rw [Classical.not_imp] at hst
      exact .inr ⟨hst.1, hst.2, hdeclared (hversion.trans hst.1)⟩

end Dispatch

/-! ### The envelope of version 2 -/

/-- The transaction an envelope of version 2 is made around. -/
def envelopeTx : Transaction where
  version := 2
  lockTime := 0
  input := [⟨firstCoin, [], sequenceEnableRbfNoLocktime, []⟩]
  output := []

/-- An envelope with the proof of the first participant. -/
def envelope : Psbt where
  unsignedTx := envelopeTx
  inputs := [{ finalScriptWitness := some [firstProof, firstKey] }]

/-- Its bytes: the magic, the unsigned transaction, and one input whose final witness
is the only field. -/
def envelopeBytes : Bytes :=
  [0x70, 0x73, 0x62, 0x74, 0xff, 0x01, 0x00] ++
    Script.pushSlice (leBytes32 2 ++ 1 :: encodeTxIn ⟨firstCoin, [], sequenceEnableRbfNoLocktime,
      []⟩ ++ 0 :: leBytes32 0) ++
    [0x00, 0x01, 0x08] ++ Script.pushSlice (encodeWitness [firstProof, firstKey]) ++ [0x00]

/-- The session, with this envelope. -/
def envelopeExternals : Externals :=
  { ({ session with base64Texts := envelopeBytes :: session.base64Texts }).externals with
    psbtDeserialize := fun bs =>
      if bs = envelopeBytes then .ok envelope else .error "invalid magic" }

/-- The proof of the first participant, in version 2, for the declared type. -/
def envelopeProof (declared : ScriptType) : OwnershipProof :=
  ⟨2, [], some (base64 envelopeBytes), some declared⟩

/-- The message the first participant proves. -/
def firstMessage : Bytes := utf8 (ownershipMessage firstRound.toText firstCoin)

theorem envelopeProof_carries (declared : ScriptType) :
    (envelopeProof declared).Carries envelopeExternals [firstProof, firstKey] := by
  refine .inr ⟨rfl, base64 envelopeBytes, envelopeBytes, envelope,
    { finalScriptWitness := some [firstProof, firstKey] }, rfl, ?_, ?_, rfl, rfl⟩
  · decide +kernel
  · decide +kernel

theorem dispatch_governed_by_chain_envelope :
    dispatchOwnershipProof envelopeExternals firstScript ⟨1, [firstProof, firstKey], none, none⟩
      .signet {} firstMessage =
    dispatchOwnershipProof envelopeExternals firstScript (envelopeProof .p2wpkh) .signet {}
      firstMessage := by
  have hagree := (dispatch_governed_by_chain envelopeExternals firstScript .signet {}
    firstMessage).2.1 ⟨1, [firstProof, firstKey], none, none⟩ (envelopeProof .p2wpkh)
    [firstProof, firstKey] .p2wpkh rfl rfl (.inl ⟨rfl, rfl⟩) (envelopeProof_carries _) rfl
  exact hagree.2 (by decide)

/-- **Declaring the type on the chain lifts a rejection**: two proofs that differ in
the declared type only, of which the first is rejected and the second accepted. -/
theorem declared_type_lifts_rejection :
    dispatchOwnershipProof envelopeExternals firstScript (envelopeProof .p2tr) .signet {}
      firstMessage = .error (.scriptTypeMismatch .p2tr .p2wpkh) ∧
    dispatchOwnershipProof envelopeExternals firstScript
      { envelopeProof .p2tr with scriptType := some .p2wpkh } .signet {} firstMessage =
      .ok .p2wpkh := by
  decide +kernel

/-! ### The node's answer -/

section Coin

variable {E : Externals} {answer : HttpAnswer} {utxo : OutPoint} {registered : List OutPoint}
  {denominationSats feeShareSats : ℕ} {proof : OwnershipProof} {bip : BipConfig}
  {network : Network} {roundId : String} {details : UtxoDetails}

/-- What a registered coin is to be: confirmed and unspent, spendable by the round,
worth enough, and owned by whoever made the proof. -/
structure Spendable (E : Externals) (answer : HttpAnswer) (utxo : OutPoint)
    (denominationSats feeShareSats : ℕ) (proof : OwnershipProof) (bip : BipConfig)
    (network : Network) (roundId : String) (details : UtxoDetails) (txout : GetTxOut) : Prop where
  unspent : gettxout E.txOutFromJson answer = .ok (some txout)
  confirmed : 1 ≤ txout.confirmations
  mature : txout.coinbase = true → 100 ≤ txout.confirmations
  value : txout.value = .ok details.valueSats
  sufficient : denominationSats + feeShareSats ≤ details.valueSats
  script : E.hexDecode txout.scriptPubkeyHex = .ok details.scriptPubkey
  scriptType : detectScriptType details.scriptPubkey = .ok details.scriptType
  allowed : bip.allows details.scriptType = true
  owned : ∃ witness, proof.Carries E witness ∧
    verifySimple E details.scriptType details.scriptPubkey witness
      (utf8 (ownershipMessage roundId utxo)) network = .ok ()

/-- **What an accepted coin satisfies**: everything but what the answer says of its
confirmations. -/
theorem exists_of_validateUtxo
    (h : validateUtxo E answer utxo registered denominationSats feeShareSats proof bip network
      roundId = .ok details) :
    ∃ txout, gettxout E.txOutFromJson answer = .ok (some txout) ∧
      (1 ≤ txout.confirmations → (txout.coinbase = true → 100 ≤ txout.confirmations) →
        Spendable E answer utxo denominationSats feeShareSats proof bip network roundId details
          txout) := by
  simp only [validateUtxo, parseScriptPubkeyFromTxout, bind_eq_ok, require_eq_ok, mapError_eq_ok,
    okOr_eq_ok] at h
  obtain ⟨_, _, unspent, hanswer, txout, rfl, value, hvalue, _, hsufficient, spk, hspk, derived,
    hderived, hdetails⟩ := h
  obtain rfl := Except.ok.inj hdetails
  obtain ⟨hdetect, hallows, howned, -⟩ := dispatchOwnershipProof_eq_ok_iff.mp hderived
  refine ⟨txout, hanswer, fun hconfirmed hmature => ?_⟩
  exact ⟨hanswer, hconfirmed, hmature, hvalue, hsufficient, hspk, hdetect, hallows, howned⟩

/-- **An accepted coin is spendable exactly when the node says so**: the answer
reports a confirmation, and a hundred of them for a coinbase output. -/
theorem spendable_iff
    (h : validateUtxo E answer utxo registered denominationSats feeShareSats proof bip network
      roundId = .ok details) :
    (∃ txout, Spendable E answer utxo denominationSats feeShareSats proof bip network roundId
      details txout) ↔
    ∃ txout, gettxout E.txOutFromJson answer = .ok (some txout) ∧ 1 ≤ txout.confirmations ∧
      (txout.coinbase = true → 100 ≤ txout.confirmations) := by
  constructor
  · rintro ⟨txout, hspendable⟩
    exact ⟨txout, hspendable.unspent, hspendable.confirmed, hspendable.mature⟩
  · rintro ⟨txout, hanswer, hconfirmed, hmature⟩
    obtain ⟨txout', hanswer', hspendable⟩ := exists_of_validateUtxo h
    obtain rfl := Option.some.inj (Except.ok.inj (hanswer.symm.trans hanswer'))
    exact ⟨txout, hspendable hconfirmed hmature⟩

end Coin

/-- The proof of the first participant, as it is read from the request. -/
def firstOwnership : OwnershipProof := ⟨1, [firstProof, firstKey], none, none⟩

/-- What registration keeps of the first coin. -/
def firstDetails : UtxoDetails := ⟨1020000, firstScript, .p2wpkh⟩

theorem validateUtxo_first :
    validateUtxo session.externals (unspentAnswer "0.01020000" firstScript) firstCoin [] 1000000
      266 firstOwnership {} .signet firstRound.toText = .ok firstDetails := by
  decide +kernel

theorem spendable_iff_first :
    (∃ txout, Spendable session.externals (unspentAnswer "0.01020000" firstScript) firstCoin
      1000000 266 firstOwnership {} .signet firstRound.toText firstDetails txout) ↔
    ∃ txout, gettxout session.externals.txOutFromJson (unspentAnswer "0.01020000" firstScript) =
      .ok (some txout) ∧ 1 ≤ txout.confirmations ∧
      (txout.coinbase = true → 100 ≤ txout.confirmations) :=
  spendable_iff validateUtxo_first

/-- The answer of the node for an output of the coinbase transaction of the block
before the last. -/
def freshCoinbaseAnswer : HttpAnswer :=
  .response (.object [("value", .number "0.01020000"), ("confirmations", .number "2"),
    ("coinbase", .bool true),
    ("scriptPubKey", .object [("hex", .string (hexText firstScript))])]) none

/-- **An immature coinbase output is registered.** -/
theorem immature_coinbase_accepted :
    validateUtxo session.externals freshCoinbaseAnswer firstCoin [] 1000000 266 firstOwnership {}
      .signet firstRound.toText = .ok firstDetails ∧
    ¬ ∃ txout, Spendable session.externals freshCoinbaseAnswer firstCoin 1000000 266
      firstOwnership {} .signet firstRound.toText firstDetails txout := by
  have hanswer : ∃ txout, gettxout session.externals.txOutFromJson freshCoinbaseAnswer =
      .ok (some txout) ∧ txout.coinbase = true ∧ txout.confirmations = 2 :=
    ⟨⟨.ok 1020000, hexText firstScript, 2, true⟩, rfl, rfl, rfl⟩
  refine ⟨by decide +kernel, ?_⟩
  rintro ⟨txout, hspendable⟩
  obtain ⟨txout', hanswer', hcoinbase, hconfirmations⟩ := hanswer
  obtain rfl := Option.some.inj (Except.ok.inj (hspendable.unspent.symm.trans hanswer'))
  have hmature := hspendable.mature hcoinbase
  omega

end Blindjoin
