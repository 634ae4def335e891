import Blindjoin.System.Transaction
import Blindjoin.System.Recorded

/-!
# Signatures, and the final transaction

A signature is recorded after it was verified against the transaction of the
round. The transaction does not change while signatures are collected, so every
recorded signature is one of the round's one transaction
(`Blindjoin.AcceptedSig`), however the registered inputs were iterated each time
it was built. When the last one is there, what is broadcast is that transaction
with these witnesses in place, each at the input it was verified for
(`Blindjoin.one_transaction_per_round`).

The verifier takes a key in any form, the assembly looks for thirty-three bytes. So a
nested input whose witness presents its key in another form is accepted, and goes out
without the `scriptSig` it needs (`Blindjoin.long_key_loses_scriptSig`).
-/

namespace Blindjoin

open Interleaving Collections

/-! ### Recorded signatures -/

/-- A signature that was accepted for the input of an outpoint text, against the
transaction of the round. -/
structure AcceptedSig (E : Externals) (config : CoordinatorConfig) (inner : RoundStateInner)
    (utxo : OutPoint) (sig : Bytes) (reg : RegisteredInput) (psbt : Psbt) (i : ℕ) : Prop where
  registered : inner.registeredInputs.lookup utxo.toText = some reg
  built : IsRoundPsbt E config inner inner.registeredInputs.values psbt
  index : psbt.unsignedTx.input.findIdx? (fun txin => txin.previousOutput = utxo) = some i
  accepted : verifyInputSignature E psbt i reg.scriptType sig = .ok ()

/-- Every recorded signature was accepted. -/
def RoundStateInner.SigsAccepted (E : Externals) (config : CoordinatorConfig)
    (inner : RoundStateInner) : Prop :=
  ∀ utxoStr sig, inner.partialSigs.lookup utxoStr = some sig →
    ∃ utxo reg psbt i, utxo.toText = utxoStr ∧ AcceptedSig E config inner utxo sig reg psbt i

section Steps

variable {E : Externals} {config : CoordinatorConfig} {s s' : RoundState}
  {inner inner' : RoundStateInner} {psbt : Psbt}

/-- The transaction depends on the registered inputs and outputs only. -/
theorem IsRoundPsbt.congr {values : List RegisteredInput}
    (h : IsRoundPsbt E config inner values psbt)
    (houtputs : inner'.registeredOutputs = inner.registeredOutputs) :
    IsRoundPsbt E config inner' values psbt := by
  obtain ⟨network, inputs, outputs, hres, hbuild⟩ := h
  exact ⟨network, inputs, outputs, ⟨hres.parses, hres.inputs, houtputs ▸ hres.outputs⟩, hbuild⟩

/-- A signature stays accepted when another one is recorded. -/
theorem AcceptedSig.withSig {utxo utxo' : OutPoint} {sig sig' : Bytes} {reg : RegisteredInput}
    {i : ℕ} (h : AcceptedSig E config inner utxo sig reg psbt i) :
    AcceptedSig E config (inner.withSig utxo' sig') utxo sig reg psbt i :=
  ⟨h.registered, h.built.congr rfl, h.index, h.accepted⟩

theorem RoundStateInner.sigsAccepted_of_empty (h : inner.partialSigs = ∅) :
    inner.SigsAccepted E config := fun _ _ hsig => absurd hsig (by simp [h])

/-- A submission that passes the checks is accepted against the transaction of
the round, whatever order it was built in. -/
theorem Submissible.acceptedSig {utxo : OutPoint} {partialSig : Bytes} {sessionToken : Bytes32}
    {roundIdStr : String} {values : List RegisteredInput}
    (h : Submissible E s config utxo partialSig sessionToken roundIdStr values inner)
    (hkeys : inner.KeysCanonical) (hvalues : values.Perm inner.registeredInputs.values) :
    ∃ reg psbt i, AcceptedSig E config inner utxo partialSig reg psbt i := by
  obtain ⟨reg, psbt, i, hreg, hpsbt, hindex, haccepted⟩ := h.verified
  have hround := buildCanonicalPsbt_eq_ok.mp hpsbt
  exact ⟨reg, psbt, i, hreg, hround.perm hkeys hvalues hvalues, hindex, haccepted⟩

/-- Recording a signature that passed the checks keeps all of them accepted. -/
theorem RoundStateInner.SigsAccepted.withSig {utxo : OutPoint} {partialSig : Bytes}
    {sessionToken : Bytes32} {roundIdStr : String} {values : List RegisteredInput}
    (hinv : inner.SigsAccepted E config)
    (h : Submissible E s config utxo partialSig sessionToken roundIdStr values inner)
    (hkeys : inner.KeysCanonical) (hvalues : values.Perm inner.registeredInputs.values) :
    (inner.withSig utxo partialSig).SigsAccepted E config := by
  intro utxoStr sig hsig
  rcases HashMap.lookup_insert_cases hsig with ⟨rfl, rfl⟩ | hsig
  · obtain ⟨reg, psbt, i, haccepted⟩ := h.acceptedSig hkeys hvalues
    exact ⟨utxo, reg, psbt, i, rfl, haccepted.withSig⟩
  · obtain ⟨utxo', reg, psbt, i, htext, haccepted⟩ := hinv utxoStr sig hsig
    exact ⟨utxo', reg, psbt, i, htext, haccepted.withSig⟩

/-- **Every step keeps the recorded signatures accepted**: before the signing
phase there are none, and during it the transaction stays the same. -/
theorem RoundStep.sigsAccepted {fresh : Uuid} {es : List RoundEvent} (hround : RoundInv config s)
    (h : RoundStep E config fresh s es s')
    (hinv : ∀ inner, s.inner = some inner → inner.SigsAccepted E config) :
    ∀ inner, s'.inner = some inner → inner.SigsAccepted E config := by
  cases h with
  | unchanged => exact hinv
  | install hphase material =>
    intro inner hinner
    obtain rfl := Option.some.inj hinner
    exact RoundStateInner.sigsAccepted_of_empty rfl
  | registerInput h =>
    intro inner hinner
    obtain rfl := Option.some.inj hinner
    have hempty := (hround.inner _ h.inner_eq).unsigned (by rw [h.phase]; rfl)
    exact RoundStateInner.sigsAccepted_of_empty hempty
  | inputDeadline => exact hinv
  | registerOutput h =>
    intro inner hinner
    obtain rfl := Option.some.inj hinner
    have hempty := (hround.inner _ h.inner_eq).unsigned (by rw [h.phase]; rfl)
    exact RoundStateInner.sigsAccepted_of_empty hempty
  | outputDeadline => exact hinv
  | recordSig hphase hiter hid hsub hout =>
    intro inner hinner
    obtain rfl := Option.some.inj hinner
    exact (hinv _ hsub.inner_eq).withSig hsub (hround.inner _ hsub.inner_eq).keys hiter.1
  | complete hphase hiter hid hsub hout hdone =>
    intro inner hinner
    obtain rfl := Option.some.inj hinner
    exact (hinv _ hsub.inner_eq).withSig hsub (hround.inner _ hsub.inner_eq).keys hiter.1
  | finish => exact fun inner hinner => absurd hinner (by simp [RoundState.newIdle])

/-- **The signatures of a round that ran were accepted.** -/
theorem RoundRun.sigsAccepted {log : List RoundEvent} (hv : config.Valid)
    (h : RoundRun E config s log) :
    ∀ inner, s.inner = some inner → inner.SigsAccepted E config := by
  induction h with
  | start fresh => exact fun inner hinner => absurd hinner (by simp [RoundState.newIdle])
  | step hrun hstep ih => exact hstep.sigsAccepted (hrun.roundInv hv) ih

end Steps

/-! ### The final transaction -/

/-- The `scriptSig` the assembly gives a nested input: the push of the redeem script of
the key in its witness, if that has thirty-three bytes. -/
def nestedScriptSig (E : Externals) (keyBytes : Bytes) : Script :=
  if keyBytes.length = 33 then Script.pushSlice (Script.newP2wpkh (E.hash160 keyBytes)) else []

/-- An input of the final transaction: it carries the witness that was submitted
for it, which was accepted for this very input of the transaction of the round, and it
carries no `scriptSig` unless it is nested. -/
structure FinalInput (E : Externals) (psbt : Psbt) (recorded : RoundStateInner) (i : ℕ)
    (txin : TxIn) (reg : RegisteredInput) (sig : Bytes) (utxo : TxOut) : Prop where
  registered : recorded.registeredInputs.lookup txin.previousOutput.toText = some reg
  submitted : recorded.partialSigs.lookup txin.previousOutput.toText = some sig
  spent : psbt.inputs[i]?.bind PsbtInput.witnessUtxo = some utxo
  witness : E.deserializeWitness sig = .ok txin.witness
  accepted : verifyInputSignature E psbt i reg.scriptType sig = .ok ()
  nested : reg.scriptType = .p2shP2wpkh → ∃ sigElem keyBytes key,
    txin.witness = [sigElem, keyBytes] ∧ E.compressedPublicKey keyBytes = some key ∧
    utxo.scriptPubkey = Script.newP2sh (E.scriptHash (Script.newP2wpkh (E.wpubkeyHash key))) ∧
    txin.scriptSig = nestedScriptSig E keyBytes
  plain : reg.scriptType ≠ .p2shP2wpkh → txin.scriptSig = []

/-- The final transaction of a round: its transaction, every input being a final
one. -/
structure FinalTx (E : Externals) (psbt : Psbt) (recorded : RoundStateInner) (tx : Transaction) :
    Prop where
  version : tx.version = psbt.unsignedTx.version
  lockTime : tx.lockTime = psbt.unsignedTx.lockTime
  output : tx.output = psbt.unsignedTx.output
  outpoints : tx.input.map TxIn.previousOutput = psbt.unsignedTx.input.map TxIn.previousOutput
  inputs : ∀ i txin, tx.input[i]? = some txin → ∃ reg sig utxo,
    FinalInput E psbt recorded i txin reg sig utxo

/-- Every nested input carries the push of the redeem script of the key its witness
presents, which is the redeem script its own script commits to. -/
def NestedSigned (E : Externals) (psbt : Psbt) (recorded : RoundStateInner) (tx : Transaction) :
    Prop :=
  ∀ (i : ℕ) (txin : TxIn) reg utxo, tx.input[i]? = some txin →
    recorded.registeredInputs.lookup txin.previousOutput.toText = some reg →
    psbt.inputs[i]?.bind PsbtInput.witnessUtxo = some utxo → reg.scriptType = .p2shP2wpkh →
    ∃ keyBytes key, txin.witness[1]? = some keyBytes ∧ E.compressedPublicKey keyBytes = some key ∧
      txin.scriptSig = p2shP2wpkhFinalScriptSig E key ∧
      utxo.scriptPubkey = Script.newP2sh (E.scriptHash (Script.newP2wpkh (E.wpubkeyHash key)))

/-- Every witness submitted for a nested input presents its key in thirty-three bytes. -/
def RoundStateInner.PresentsShortKeys (E : Externals) (recorded : RoundStateInner) : Prop :=
  ∀ utxoStr reg sig witness keyBytes, recorded.registeredInputs.lookup utxoStr = some reg →
    reg.scriptType = .p2shP2wpkh → recorded.partialSigs.lookup utxoStr = some sig →
    E.deserializeWitness sig = .ok witness → witness[1]? = some keyBytes → keyBytes.length = 33

section Final

variable {E : Externals} {config : CoordinatorConfig} {inner : RoundStateInner} {psbt : Psbt}
  {values : List RegisteredInput}

/-- **The `scriptSig` of an accepted input**: a nested one gets the push of the
redeem script of its key, if the key has thirty-three bytes; any other gets none. -/
theorem finalScriptSig_of_controls {input : PsbtInput} {witness : Witness} {utxo : TxOut}
    {st : ScriptType} (hutxo : input.witnessUtxo = some utxo) (hnone : input.finalScriptSig = none)
    (h : Controls E st witness utxo.scriptPubkey) :
    (st = .p2shP2wpkh → ∃ sigElem keyBytes key, witness = [sigElem, keyBytes] ∧
      E.compressedPublicKey keyBytes = some key ∧
      utxo.scriptPubkey = Script.newP2sh (E.scriptHash (Script.newP2wpkh (E.wpubkeyHash key))) ∧
      (finalScriptSig E input witness).getD [] = nestedScriptSig E keyBytes) ∧
    (st ≠ .p2shP2wpkh → finalScriptSig E input witness = none) := by
  cases st with
  | p2wpkh =>
    obtain ⟨sig, keyBytes, key, rfl, -, hspk⟩ := h
    refine ⟨fun h => absurd h (by simp), fun _ => ?_⟩
    simp [finalScriptSig, hutxo, hspk, hnone]
  | p2tr =>
    obtain ⟨hlen, -⟩ := h
    obtain ⟨sig, rfl⟩ := List.length_eq_one_iff.mp hlen
    refine ⟨fun h => absurd h (by simp), fun _ => ?_⟩
    simp [finalScriptSig, hutxo, hnone]
  | p2shP2wpkh =>
    obtain ⟨sig, keyBytes, key, rfl, hkey, hspk⟩ := h
    refine ⟨fun _ => ⟨sig, keyBytes, key, rfl, hkey, hspk, ?_⟩, fun h => absurd rfl h⟩
    by_cases hlen : keyBytes.length = 33
    · simp [finalScriptSig, nestedScriptSig, hutxo, hspk, hlen, Script.pushSlice, Script.newP2wpkh]
    · simp [finalScriptSig, nestedScriptSig, hutxo, hlen, hnone]

/-- **When the `scriptSig` of a nested input is the push of its redeem script**: when the
key has thirty-three bytes. -/
theorem nestedScriptSig_eq_iff (hE : E.ReadsKeys) {keyBytes : Bytes} {key : CompressedPublicKey}
    (hkey : E.compressedPublicKey keyBytes = some key) :
    nestedScriptSig E keyBytes = p2shP2wpkhFinalScriptSig E key ↔ keyBytes.length = 33 := by
  constructor
  · intro hscript
    by_contra hlen
    rw [nestedScriptSig, if_neg hlen, p2shP2wpkhFinalScriptSig, Script.pushSlice] at hscript
    exact absurd hscript (by simp)
  · intro hlen
    rw [nestedScriptSig, if_pos hlen, ← hE.compressed keyBytes key hkey hlen]
    rfl

/-- The records of the transaction of a round: one for each input, which carries
the output it spends and nothing else. -/
theorem IsRoundPsbt.inputs (h : IsRoundPsbt E config inner values psbt) :
    psbt.unsignedTx.input.length = psbt.inputs.length ∧
    ∀ (i : ℕ) (input : PsbtInput), psbt.inputs[i]? = some input →
      (∃ utxo, input.witnessUtxo = some utxo) ∧ input.finalScriptSig = none := by
  obtain ⟨network, inputs, outputs, -, hbuild⟩ := h
  obtain ⟨-, -, rfl⟩ := buildCoinjoinPsbt_eq_ok.mp hbuild
  refine ⟨by simp [coinjoinPsbt, coinjoinTx], fun i input hinput => ?_⟩
  simp only [coinjoinPsbt, List.getElem?_map, Option.map_eq_some_iff] at hinput
  obtain ⟨inp, -, rfl⟩ := hinput
  exact ⟨⟨_, rfl⟩, rfl⟩

/-- No outpoint is spent twice by the transaction of a round. -/
theorem IsRoundPsbt.nodup_outpoints (h : IsRoundPsbt E config inner values psbt)
    (hkeys : inner.KeysCanonical) (hvalues : values.Perm inner.registeredInputs.values) :
    (psbt.unsignedTx.input.map TxIn.previousOutput).Nodup := by
  obtain ⟨network, inputs, outputs, hres, hbuild⟩ := h
  obtain ⟨-, -, rfl⟩ := buildCoinjoinPsbt_eq_ok.mp hbuild
  rw [coinjoinPsbt, input_coinjoinTx]
  exact ((sortByKey_permutes _ inputs).map _).nodup_iff.mpr (hres.nodup_outpoints hkeys hvalues)

/-- Where an outpoint is spent, if it is spent once. -/
theorem index_eq_of_findIdx? {l : List TxIn} {i j : ℕ} {txin : TxIn}
    (hnd : (l.map TxIn.previousOutput).Nodup) (hi : l[i]? = some txin)
    (hj : l.findIdx? (fun t => t.previousOutput = txin.previousOutput) = some j) : i = j := by
  obtain ⟨hlt, hfound, -⟩ := List.findIdx?_eq_some_iff_getElem.mp hj
  obtain ⟨hlt', rfl⟩ := List.getElem?_eq_some_iff.mp hi
  rw [decide_eq_true_eq] at hfound
  refine (List.getElem?_inj (by simpa using hlt') hnd).mp ?_
  rw [List.getElem?_map, List.getElem?_map, List.getElem?_eq_getElem hlt,
    List.getElem?_eq_getElem hlt', Option.map_some, Option.map_some, hfound]

/-- An input of the final transaction comes from the input of the transaction of
the round at its place, with its record and the signature that was submitted. -/
theorem input_of_assembleFinalTx (hextract : E.ExtractsSigned) {roundIdStr : String}
    {tx : Transaction} (h : assembleFinalTx E inner config roundIdStr values = .ok tx) :
    ∃ psbt inputs, IsRoundPsbt E config inner values psbt ∧
      tx = Psbt.extracted { psbt with inputs := inputs } ∧
      inputs.length = psbt.inputs.length ∧
      ∀ i input', inputs[i]? = some input' → ∃ txin input,
        psbt.unsignedTx.input[i]? = some txin ∧ psbt.inputs[i]? = some input ∧
        applySignature E inner.partialSigs roundIdStr i txin input = .ok input' := by
  simp only [assembleFinalTx, bind_eq_ok, buildCanonicalPsbt_eq_ok, ofExcept_eq_ok] at h
  obtain ⟨psbt, hpsbt, inputs, hinputs, hresult⟩ := h
  refine ⟨psbt, inputs, hpsbt, hextract _ _ hresult, ?_, fun i input' hinput' => ?_⟩
  · rw [length_of_mapM_eq_ok hinputs, List.length_zipIdx, List.length_zip, hpsbt.inputs.1,
      Nat.min_self]
  · obtain ⟨⟨⟨txin, input⟩, j⟩, hplace, happly⟩ := exists_of_mapM_eq_ok hinputs hinput'
    rw [List.getElem?_zipIdx, Option.map_eq_some_iff] at hplace
    obtain ⟨pair, hzip, heq⟩ := hplace
    obtain ⟨rfl, hj⟩ := Prod.mk.inj heq
    obtain ⟨htxin, hinput⟩ := List.getElem?_zip_eq_some.mp hzip
    rw [Nat.zero_add] at hj
    exact ⟨txin, input, htxin, hinput, hj ▸ happly⟩

/-- What attaching a signature leaves of a record. -/
theorem applySignature_eq_ok {sigs : HashMap String Bytes} {roundIdStr : String} {i : ℕ}
    {txin : TxIn} {input input' : PsbtInput}
    (h : applySignature E sigs roundIdStr i txin input = .ok input') :
    ∃ sig witness, sigs.lookup txin.previousOutput.toText = some sig ∧
      E.deserializeWitness sig = .ok witness ∧
      input' = { input with
        finalScriptWitness := some witness
        finalScriptSig := finalScriptSig E input witness } := by
  rw [applySignature] at h
  split at h
  · exact absurd h (by simp)
  · next sig hsig =>
    split at h
    · next witness hwitness => exact ⟨sig, witness, hsig, hwitness, (Except.ok.inj h).symm⟩
    · exact absurd h (by simp)

/-- **The final transaction is the one that was signed**: the transaction of the
round, each input with the witness that was accepted for it. -/
theorem finalTx_of_assembleFinalTx (hextract : E.ExtractsSigned) {roundIdStr : String}
    {tx : Transaction} (hkeys : inner.KeysCanonical) (hsigs : inner.SigsAccepted E config)
    (hvalues : values.Perm inner.registeredInputs.values)
    (hpsbt : IsRoundPsbt E config inner inner.registeredInputs.values psbt)
    (h : assembleFinalTx E inner config roundIdStr values = .ok tx) :
    FinalTx E psbt inner tx := by
  obtain ⟨psbt', inputs, hpsbt', rfl, hlen, hplace⟩ := input_of_assembleFinalTx hextract h
  obtain rfl : psbt' = psbt := (hpsbt'.perm hkeys hvalues hvalues).unique hpsbt
  have hlen' : psbt'.unsignedTx.input.length = inputs.length := by rw [hlen, hpsbt.inputs.1]
  refine ⟨rfl, rfl, rfl, ?_, fun i final hfinal => ?_⟩
  · refine List.ext_getElem (by simp [Psbt.extracted, hlen']) fun i _ _ => ?_
    simp [Psbt.extracted, PsbtInput.finalize]
  · obtain ⟨txin, input', htxin, hinput', rfl⟩ := List.getElem?_zipWith_eq_some.mp hfinal
    obtain ⟨txin', input, htxin', hinput, happly⟩ := hplace i input' hinput'
    obtain rfl : txin = txin' := Option.some.inj (htxin.symm.trans htxin')
    obtain ⟨sig, witness, hsig, hwitness, rfl⟩ := applySignature_eq_ok happly
    obtain ⟨⟨utxo, hutxo⟩, hnone⟩ := hpsbt.inputs.2 i input hinput
    -- the signature was accepted for the index at which this outpoint is spent
    obtain ⟨o, reg, psbt₀, j, htext, haccepted⟩ := hsigs _ sig hsig
    obtain rfl := OutPoint.toText_injective htext
    obtain rfl : psbt₀ = psbt' := haccepted.built.unique hpsbt
    have hnd := hpsbt.nodup_outpoints hkeys (List.Perm.refl _)
    obtain rfl := index_eq_of_findIdx? hnd htxin haccepted.index
    obtain ⟨witness', utxo', hwitness', hutxo', hcontrols⟩ :=
      verifyInputSignature_eq_ok haccepted.accepted
    obtain rfl : witness = witness' := Except.ok.inj (hwitness.symm.trans hwitness')
    have hspent : psbt₀.inputs[i]?.bind PsbtInput.witnessUtxo = some utxo := by
      rw [hinput, Option.bind_some, hutxo]
    obtain rfl : utxo = utxo' := Option.some.inj (hspent.symm.trans hutxo')
    obtain ⟨hnested, hplain⟩ := finalScriptSig_of_controls hutxo hnone hcontrols
    refine ⟨reg, sig, utxo, haccepted.registered, hsig, hspent, hwitness, haccepted.accepted,
      fun hst => ?_, fun hst => ?_⟩
    · obtain ⟨sigElem, keyBytes, key, hpair, hkey, hspk, hscript⟩ := hnested hst
      exact ⟨sigElem, keyBytes, key, hpair, hkey, hspk, hscript⟩
    · rw [PsbtInput.finalize, hplain hst]
      rfl

/-- At the place of an input of the transaction of the round, the final transaction
spends the same outpoint. -/
theorem FinalTx.exists_input {tx : Transaction} (h : FinalTx E psbt inner tx) {i : ℕ} {txin : TxIn}
    (htxin : psbt.unsignedTx.input[i]? = some txin) :
    ∃ txin', tx.input[i]? = some txin' ∧ txin'.previousOutput = txin.previousOutput := by
  have hat := congrArg (fun l => l[i]?) h.outpoints
  simp only [List.getElem?_map, htxin, Option.map_some] at hat
  exact Option.map_eq_some_iff.mp hat

/-- **When every nested input gets its `scriptSig`**: when every key submitted for one
has thirty-three bytes. -/
theorem nestedSigned_iff (hE : E.ReadsKeys) {tx : Transaction} (hsigs : inner.SigsAccepted E config)
    (hpsbt : IsRoundPsbt E config inner inner.registeredInputs.values psbt)
    (h : FinalTx E psbt inner tx) :
    NestedSigned E psbt inner tx ↔ inner.PresentsShortKeys E := by
  constructor
  · intro hnested utxoStr reg sig witness keyBytes hreg hst hsig hwitness hget
    -- the input of the final transaction the witness was accepted for
    obtain ⟨o, reg', psbt₀, i, rfl, haccepted⟩ := hsigs utxoStr sig hsig
    obtain rfl : psbt₀ = psbt := haccepted.built.unique hpsbt
    obtain ⟨hlt, hfound, -⟩ := List.findIdx?_eq_some_iff_getElem.mp haccepted.index
    obtain ⟨txin, htxin, hprev⟩ := h.exists_input (List.getElem?_eq_getElem hlt)
    rw [of_decide_eq_true hfound] at hprev
    obtain ⟨reg₀, sig₀, utxo, hfinal⟩ := h.inputs i txin htxin
    have hlookup := hfinal.registered
    rw [hprev, hreg] at hlookup
    obtain rfl := Option.some.inj hlookup
    obtain ⟨sigElem, keyBytes', key, hpair, hkey, -, hscript⟩ := hfinal.nested hst
    obtain ⟨keyBytes'', key', hget', hkey', hpush, -⟩ := hnested i txin reg utxo htxin
      hfinal.registered hfinal.spent hst
    have hsubmitted := hfinal.submitted
    rw [hprev, hsig] at hsubmitted
    obtain rfl := Option.some.inj hsubmitted
    obtain rfl : witness = txin.witness := Except.ok.inj (hwitness.symm.trans hfinal.witness)
    -- there is one key in the witness, and the assembly made the push of it
    rw [hpair] at hget hget'
    obtain rfl : keyBytes' = keyBytes := Option.some.inj hget
    obtain rfl : keyBytes' = keyBytes'' := Option.some.inj hget'
    obtain rfl : key = key' := Option.some.inj (hkey.symm.trans hkey')
    exact (nestedScriptSig_eq_iff hE hkey).mp (hscript.symm.trans hpush)
  · intro hshort i txin reg utxo htxin hreg hspent hst
    obtain ⟨reg', sig, utxo', hfinal⟩ := h.inputs i txin htxin
    obtain rfl : reg = reg' := Option.some.inj (hreg.symm.trans hfinal.registered)
    obtain rfl : utxo = utxo' := Option.some.inj (hspent.symm.trans hfinal.spent)
    obtain ⟨sigElem, keyBytes, key, hpair, hkey, hspk, hscript⟩ := hfinal.nested hst
    have hget : txin.witness[1]? = some keyBytes := by rw [hpair]; rfl
    have hlen := hshort _ reg sig _ keyBytes hreg hst hfinal.submitted hfinal.witness hget
    exact ⟨keyBytes, key, hget, hkey,
      hscript.trans ((nestedScriptSig_eq_iff hE hkey).mpr hlen), hspk⟩

end Final

/-! ### Every reachable world -/

section Reachable

variable {E : Externals} {config : CoordinatorConfig} {fresh : Uuid} {banList : BanList}
  {w : World Coordinator Task Event}

/-- **One transaction for each round.** Building does not depend on the order of
the inputs. So in a reachable signing state there is one transaction: it is the
one every build yields, before and after a signature is recorded, and the one
the display handler serves; and what a submission hands over to the broadcast is
this transaction with the witnesses that were accepted for it. Its nested inputs carry
the `scriptSig` they need exactly if every key submitted for one of them has
thirty-three bytes. -/
theorem one_transaction_per_round (hvalid : config.validate = .ok ()) (hE : E.ReadsKeys)
    (hextract : E.ExtractsSigned) (hr : Reachable (coordinator E config) (startup fresh banList) w)
    (hphase : w.shared.round.phase = .signing) :
    (∀ (inputs inputs' : List ParticipantInput) outputs denomination feeRate st,
      inputs.Perm inputs' → (inputs.map ParticipantInput.outpoint).Nodup →
      ∀ psbt, buildCoinjoinPsbt inputs outputs denomination feeRate st = .ok psbt ↔
        buildCoinjoinPsbt inputs' outputs denomination feeRate st = .ok psbt) ∧
    ∃ inner psbt, w.shared.round.inner = some inner ∧
      (∀ values : List RegisteredInput, values.Perm inner.registeredInputs.values →
        (∀ roundIdStr, buildCanonicalPsbt E inner config roundIdStr values = .ok psbt) ∧
        (∀ utxo sig roundIdStr,
          buildCanonicalPsbt E (inner.withSig utxo sig) config roundIdStr values = .ok psbt) ∧
        ∃ response, getTx E config w.shared.round values = .ok response ∧
          response.psbt = E.base64Encode (E.psbtSerialize psbt)) ∧
      ∀ utxo partialSig sessionToken roundIdStr (iter : SignIteration) s' prepared,
        iter.Of inner →
        processSign E w.shared.round config utxo partialSig sessionToken roundIdStr iter =
          (s', .ok (.readyToBroadcast prepared)) →
        ∃ tx, s'.inner = some (inner.withSig utxo partialSig) ∧
          assembleFinalTx E (inner.withSig utxo partialSig) config roundIdStr iter.assemble =
            .ok tx ∧
          prepared.txHex = E.serializeHex tx ∧ FinalTx E psbt (inner.withSig utxo partialSig) tx ∧
          (NestedSigned E psbt (inner.withSig utxo partialSig) tx ↔
            (inner.withSig utxo partialSig).PresentsShortKeys E) := by
  have hv := CoordinatorConfig.valid_of_validate hvalid
  have hrun := roundRun_of_reachable hr
  obtain ⟨inner, hinner, hinv, hround⟩ := hrun.signing hv hphase
  have hkeys : inner.KeysCanonical := hinv.keys
  obtain ⟨network, inputs, outputs, hbuildable, -⟩ := hround _ (List.Perm.refl _)
  obtain ⟨psbt, hpsbt⟩ : ∃ psbt, IsRoundPsbt E config inner inner.registeredInputs.values psbt :=
    ⟨_, hbuildable.isRoundPsbt⟩
  refine ⟨fun _ _ _ _ _ _ hperm hnd _ => buildCoinjoinPsbt_perm hperm hnd, inner, psbt, hinner,
    fun values hvalues => ?_, fun utxo sig token roundIdStr iter s' prepared hiter hsign => ?_⟩
  · have hbuilt := hpsbt.perm hkeys (List.Perm.refl _) hvalues.symm
    exact ⟨fun _ => buildCanonicalPsbt_eq_ok.mpr hbuilt,
      fun _ _ _ => buildCanonicalPsbt_eq_ok.mpr (hbuilt.congr rfl),
      getTx_of_isRoundPsbt hv hphase hinner hbuilt⟩
  · rcases processSign_cases E config utxo sig token roundIdStr iter hphase with
      ⟨e, hcase⟩ | ⟨inner', hsub, outcome, hout, hcase⟩ | ⟨inner', hsub, prepared', hdone, hcase⟩
    · exact absurd (congrArg Prod.snd (hcase.symm.trans hsign)) (by simp)
    · exact absurd (congrArg Prod.snd (hcase.symm.trans hsign)) (hout prepared)
    · obtain ⟨rfl, hprepared⟩ := Prod.mk.inj (hcase.symm.trans hsign)
      obtain rfl : inner' = inner := Option.some.inj (hsub.inner_eq.symm.trans hinner)
      obtain ⟨tx, htx, hhex⟩ := hdone.assembled
      have hprep : prepared' = prepared := by simpa using hprepared
      have hsigs := (hrun.sigsAccepted hv _ hinner).withSig hsub hkeys hiter.1
      have hbuilt : IsRoundPsbt E config (inner'.withSig utxo sig)
          inner'.registeredInputs.values psbt := hpsbt.congr rfl
      have hkeys' : (inner'.withSig utxo sig).KeysCanonical := hkeys
      have hfinal := finalTx_of_assembleFinalTx hextract hkeys' hsigs hiter.2.1 hbuilt htx
      exact ⟨tx, rfl, htx, hprep ▸ hhex, hfinal, nestedSigned_iff hE hsigs hbuilt hfinal⟩

end Reachable

/-! ### The session, and a key in sixty-five bytes -/

theorem Recording.readsKeys (R : Recording) : R.externals.ReadsKeys := readsKeys_of_known rfl rfl

theorem Recording.extractsSigned (R : Recording) : R.externals.ExtractsSigned := by
  intro psbt tx h
  exact (Except.ok.inj h).symm

/-- The keys are short when those of all recorded witnesses are. -/
theorem RoundStateInner.presentsShortKeys_of_values {E : Externals} {recorded : RoundStateInner}
    (h : ∀ sig ∈ recorded.partialSigs.values, ∀ witness ∈ (E.deserializeWitness sig).toOption,
      ∀ keyBytes ∈ witness[1]?, keyBytes.length = 33) : recorded.PresentsShortKeys E := by
  intro utxoStr reg sig witness keyBytes _ _ hsig hwitness hget
  exact h sig (HashMap.mem_values.mpr ⟨utxoStr, hsig⟩) witness
    (Option.mem_def.mpr (toOption_eq_some.mpr hwitness)) keyBytes hget

/-- A submission whose outcome is known to be a broadcast. -/
theorem exists_ready_of_toOption {E : Externals} {s : RoundState} {config : CoordinatorConfig}
    {utxo : OutPoint} {partialSig : Bytes} {token : Bytes32} {roundIdStr : String}
    {iter : SignIteration} {prepared : PreparedBroadcast}
    (h : (processSign E s config utxo partialSig token roundIdStr iter).2.toOption =
      some (.readyToBroadcast prepared)) :
    ∃ s', processSign E s config utxo partialSig token roundIdStr iter =
      (s', .ok (.readyToBroadcast prepared)) :=
  ⟨_, Prod.ext rfl (toOption_eq_some.mp h)⟩

/-- The witness the second participant submits in the session. -/
def sessionSubmission : Bytes := encodeWitness [secondSig ++ [0x01], secondKey]

/-- The second submission makes the session ready to be broadcast, and its nested input
carries its redeem script. -/
theorem one_transaction_per_round_session :
    ∃ inner psbt s' tx, (worldAfter oneSignedMoves).shared.round.inner = some inner ∧
      processSign session.externals (worldAfter oneSignedMoves).shared.round configOfTwo secondCoin
        sessionSubmission secondSession firstRound.toText sessionIteration =
        (s', .ok (.readyToBroadcast sessionBroadcast)) ∧
      sessionBroadcast.txHex = transactionHex tx ∧
      FinalTx session.externals psbt (inner.withSig secondCoin sessionSubmission) tx ∧
      NestedSigned session.externals psbt (inner.withSig secondCoin sessionSubmission) tx := by
  have hrun : (worldAfter oneSignedMoves).shared.round.phase = .signing ∧
      (processSign session.externals (worldAfter oneSignedMoves).shared.round configOfTwo
        secondCoin sessionSubmission secondSession firstRound.toText sessionIteration).2.toOption =
        some (.readyToBroadcast sessionBroadcast) ∧
      ∀ inner ∈ (worldAfter oneSignedMoves).shared.round.inner, sessionIteration.Of inner ∧
        ∀ sig ∈ (inner.withSig secondCoin sessionSubmission).partialSigs.values,
          ∀ witness ∈ (session.externals.deserializeWitness sig).toOption,
            ∀ keyBytes ∈ witness[1]?, keyBytes.length = 33 := by
    decide +kernel
  obtain ⟨hphase, hready, hinner⟩ := hrun
  obtain ⟨-, inner, psbt, heq, -, hsubmission⟩ := one_transaction_per_round configOfTwo_validate
    session.readsKeys session.extractsSigned (worldAfter_reachable oneSignedMoves) hphase
  obtain ⟨hiter, hshort⟩ := hinner inner heq
  obtain ⟨s', hsign⟩ := exists_ready_of_toOption hready
  obtain ⟨tx, -, -, hhex, hfinal, hnested⟩ := hsubmission _ _ _ _ _ _ _ hiter hsign
  exact ⟨inner, psbt, s', tx, heq, hsign, hhex, hfinal,
    hnested.mpr (RoundStateInner.presentsShortKeys_of_values hshort)⟩

/-- The second key, with both coordinates. -/
def secondKeyLong : Bytes := [0x04] ++ secondKey.drop 1 ++ beBytes 32
  0x1ae168fea63dc339a3c58419466ceaeef7f632653266d0e1236431a950cfe52a

/-- The session, in which the second participant writes their key in the longer form. -/
def longKey : Recording :=
  { session with
    witnesses := [[firstSig ++ [0x01], firstKey], [secondSig ++ [0x01], secondKeyLong]]
    expandedKeys := [(secondKeyLong, ⟨secondKey, length_secondKey⟩)] }

/-- The witness the second participant submits then, and the transaction it completes. -/
def longSubmission : Bytes := encodeWitness [secondSig ++ [0x01], secondKeyLong]

def longKeyTx : Transaction :=
  jointTx [firstSig ++ [0x01], firstKey] [secondSig ++ [0x01], secondKeyLong] []

/-- That session up to the first signature. -/
def longKeyRun : List Step × World Coordinator Task Event :=
  recorded longKey.externals configOfTwo oneSignedMoves

/-- **A key in sixty-five bytes costs the input its `scriptSig`**: in a reachable
signing state the signature is accepted and makes the round ready to be broadcast, and
the nested input of the transaction carries no `scriptSig`. -/
theorem long_key_loses_scriptSig :
    longKey.externals.ReadsKeys ∧ longKey.externals.ExtractsSigned ∧
    configOfTwo.validate = .ok () ∧
    Reachable (coordinator longKey.externals configOfTwo) (startup firstRound .new) longKeyRun.2 ∧
    longKeyRun.2.shared.round.phase = .signing ∧
    ∃ inner s' prepared reg, longKeyRun.2.shared.round.inner = some inner ∧
      sessionIteration.Of inner ∧
      processSign longKey.externals longKeyRun.2.shared.round configOfTwo secondCoin longSubmission
        secondSession firstRound.toText sessionIteration =
        (s', .ok (.readyToBroadcast prepared)) ∧
      prepared.txHex = transactionHex longKeyTx ∧
      assembleFinalTx longKey.externals (inner.withSig secondCoin longSubmission) configOfTwo
        firstRound.toText sessionIteration.assemble = .ok longKeyTx ∧
      inner.registeredInputs.lookup secondCoin.toText = some reg ∧
      reg.scriptType = .p2shP2wpkh ∧
      ∃ txin ∈ longKeyTx.input, txin.previousOutput = secondCoin ∧ txin.scriptSig = [] := by
  have hrun : longKeyRun.2.shared.round.phase = .signing ∧
      (processSign longKey.externals longKeyRun.2.shared.round configOfTwo secondCoin
        longSubmission secondSession firstRound.toText sessionIteration).2.toOption =
        some (.readyToBroadcast ⟨transactionHex longKeyTx, sessionBroadcast.inputOutpoints⟩) ∧
      ∃ inner ∈ longKeyRun.2.shared.round.inner, sessionIteration.Of inner ∧
        (assembleFinalTx longKey.externals (inner.withSig secondCoin longSubmission) configOfTwo
          firstRound.toText sessionIteration.assemble).toOption = some longKeyTx ∧
        ∃ reg ∈ inner.registeredInputs.lookup secondCoin.toText, reg.scriptType = .p2shP2wpkh := by
    decide +kernel
  obtain ⟨hphase, hready, inner, hinner, hiter, htx, reg, hreg, hst⟩ := hrun
  obtain ⟨s', hsign⟩ := exists_ready_of_toOption hready
  exact ⟨longKey.readsKeys, longKey.extractsSigned, configOfTwo_validate,
    (recorded_ran longKey.externals configOfTwo oneSignedMoves).reachable, hphase, inner, s', _,
    reg, hinner, hiter, hsign, rfl, toOption_eq_some.mp htx, hreg, hst, _,
    List.mem_cons_of_mem _ List.mem_cons_self, rfl, rfl⟩

end Blindjoin
