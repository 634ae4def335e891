import Blindjoin.System.FeeRate
import Blindjoin.System.HighFee

/-!
# What a failed submission leaves

A submission that fails its checks leaves the round as it was. One that passes them
is recorded, and if it was the last one the final transaction is assembled. Should
that fail, the signature stays recorded and the round stays in its phase, for the
signing deadline to end (`Blindjoin.processSign_error`).

What can fail at that point is the extraction alone, and only at an absurd fee rate:
the transaction was built before, every recorded witness decoded when it was
accepted, and the outputs never pay out more than the inputs spend
(`Blindjoin.assembleFinalTx_of_complete`). So **the last accepted signature completes
the round**, unless the final transaction pays more than the limit of the crate
(`Blindjoin.sign_all_or_nothing`). Nothing keeps the configured rate below that limit
(`Blindjoin.highFee_half_changed`).
-/

namespace Blindjoin

open Interleaving Collections

/-! ### Statement -/

/-- `Psbt::extract_tx` fails exactly when the outputs pay out more than the inputs
spend, or the extracted transaction pays more than the limit. -/
structure Externals.ExtractsBelowLimit (E : Externals) : Prop where
  signed : E.ExtractsSigned
  below : ∀ psbt spent, psbt.spentValue = some spent →
    ((∃ tx, E.extractTx psbt = .ok tx) ↔ psbt.paidValue ≤ spent ∧ ¬psbt.AbsurdFeeRate spent)

/-- The record of an input with the witness that was submitted for it. -/
def signedInput (E : Externals) (sigs : HashMap String Bytes) (txin : TxIn) (input : PsbtInput) :
    PsbtInput :=
  let witness := submittedWitness E sigs txin.previousOutput
  { input with
    finalScriptWitness := some witness
    finalScriptSig := finalScriptSig E input witness }

/-- A transaction with the witnesses that were submitted for its inputs. -/
def Psbt.signed (E : Externals) (sigs : HashMap String Bytes) (psbt : Psbt) : Psbt :=
  { psbt with inputs := List.zipWith (signedInput E sigs) psbt.unsignedTx.input psbt.inputs }

/-- What the registered inputs are worth. -/
def RoundStateInner.spentValue (inner : RoundStateInner) : ℕ :=
  (inner.registeredInputs.values.map RegisteredInput.valueSats).sum

/-- Every registered input has its signature. -/
def RoundStateInner.Complete (inner : RoundStateInner) : Prop :=
  ∀ utxoStr ∈ inner.registeredInputs, utxoStr ∈ inner.partialSigs

section Assembly

variable {E : Externals} {config : CoordinatorConfig} {inner : RoundStateInner} {psbt : Psbt}
  {values : List RegisteredInput} {sigs : HashMap String Bytes} {roundIdStr : String}

/-! ### Assembling the final transaction -/

theorem inputs_signed : (psbt.signed E sigs).inputs =
    (psbt.unsignedTx.input.zip psbt.inputs).map fun p => signedInput E sigs p.1 p.2 := by
  simp only [Psbt.signed, List.zip, List.map_zipWith]

/-- The witnesses do not change what the inputs spend. -/
theorem spentValue_signed (hlen : psbt.unsignedTx.input.length = psbt.inputs.length) :
    (psbt.signed E sigs).spentValue = psbt.spentValue := by
  have hutxos : (psbt.signed E sigs).inputs.map PsbtInput.witnessUtxo =
      psbt.inputs.map PsbtInput.witnessUtxo := by
    rw [inputs_signed, List.map_map]
    conv_rhs => rw [← List.map_snd_zip hlen.ge, List.map_map]
    rfl
  have hmapM : (psbt.signed E sigs).inputs.mapM PsbtInput.witnessUtxo =
      psbt.inputs.mapM PsbtInput.witnessUtxo := by
    refine Option.ext fun utxos => ?_
    rw [mapM_eq_some, mapM_eq_some, hutxos]
  rw [Psbt.spentValue, Psbt.spentValue, hmapM]

/-- Attaching a signature that decodes. -/
theorem applySignature_of_lookup {i : ℕ} {txin : TxIn} {input : PsbtInput} {sig : Bytes}
    {witness : Witness} (hsig : sigs.lookup txin.previousOutput.toText = some sig)
    (hwitness : E.deserializeWitness sig = .ok witness) :
    applySignature E sigs roundIdStr i txin input = .ok (signedInput E sigs txin input) := by
  simp only [applySignature, signedInput, submittedWitness, hsig, hwitness]

/-- **When every signature is there and decodes, only the extraction can fail.** -/
theorem assembleFinalTx_of_decodes (hpsbt : IsRoundPsbt E config inner values psbt)
    (hdecodes : ∀ txin ∈ psbt.unsignedTx.input, ∃ sig witness,
      inner.partialSigs.lookup txin.previousOutput.toText = some sig ∧
        E.deserializeWitness sig = .ok witness) :
    assembleFinalTx E inner config roundIdStr values =
      ofExcept (fun e => ⟨.broadcastRejected, s!"PSBT extraction failed: {e}", some roundIdStr⟩)
        (E.extractTx (psbt.signed E inner.partialSigs)) := by
  -- the loop over the inputs attaches every signature, since every one decodes
  let pairs := psbt.unsignedTx.input.zip psbt.inputs
  have happly : (pairs.zipIdx.mapM fun p =>
      applySignature E inner.partialSigs roundIdStr p.2 p.1.1 p.1.2) =
      .ok (psbt.signed E inner.partialSigs).inputs := by
    rw [mapM_eq_ok, inputs_signed, List.map_map]
    calc pairs.zipIdx.map (fun p =>
          applySignature E inner.partialSigs roundIdStr p.2 p.1.1 p.1.2)
        = pairs.zipIdx.map fun p => .ok (signedInput E inner.partialSigs p.1.1 p.1.2) := by
          refine List.map_congr_left fun p hmem => ?_
          obtain ⟨⟨txin, input⟩, i⟩ := p
          have hzip := List.mem_of_getElem? (List.mk_mem_zipIdx_iff_getElem?.mp hmem)
          obtain ⟨sig, witness, hsig, hwitness⟩ := hdecodes txin (List.of_mem_zip hzip).1
          exact applySignature_of_lookup hsig hwitness
      _ = (pairs.zipIdx.map Prod.fst).map fun p =>
            .ok (signedInput E inner.partialSigs p.1 p.2) := by
          rw [List.map_map]
          rfl
      _ = pairs.map fun p => .ok (signedInput E inner.partialSigs p.1 p.2) := by
          rw [List.zipIdx_map_fst]
  rw [assembleFinalTx, buildCanonicalPsbt_eq_ok.mpr hpsbt]
  change (ofExcept id (pairs.zipIdx.mapM _) >>= _ : Res ApiError Transaction) = _
  rw [happly]
  rfl

/-- An input of the transaction of a round spends a registered outpoint. -/
theorem IsRoundPsbt.mem_registeredInputs (h : IsRoundPsbt E config inner values psbt)
    (hkeys : inner.KeysCanonical) (hvalues : values.Perm inner.registeredInputs.values)
    {txin : TxIn} (htxin : txin ∈ psbt.unsignedTx.input) :
    txin.previousOutput.toText ∈ inner.registeredInputs := by
  obtain ⟨network, inputs, outputs, hres, hbuild⟩ := h
  obtain ⟨-, -, rfl⟩ := buildCoinjoinPsbt_eq_ok.mp hbuild
  have hprev := List.mem_map_of_mem (f := TxIn.previousOutput) htxin
  rw [coinjoinPsbt, input_coinjoinTx] at hprev
  obtain ⟨inp, hordered, houtpoint⟩ := List.mem_map.mp hprev
  have hinp := (sortByKey_permutes ParticipantInput.outpoint inputs).mem_iff.mp hordered
  obtain ⟨reg, hreg, hbecomes⟩ := exists_of_mem_forall₂ hres.inputs hinp
  have hmem := hvalues.mem_iff.mp hreg
  obtain ⟨utxoStr, hlookup⟩ := HashMap.mem_values.mp hmem
  obtain ⟨rfl, -⟩ := hkeys utxoStr reg hlookup
  rw [← houtpoint, hkeys.toText_outpoint hmem hbecomes]
  exact HashMap.mem_of_lookup hlookup

/-- A recorded signature decodes. -/
theorem RoundStateInner.SigsAccepted.decodes (h : inner.SigsAccepted E config) {utxoStr : String}
    (hsigned : utxoStr ∈ inner.partialSigs) : ∃ sig witness,
    inner.partialSigs.lookup utxoStr = some sig ∧ E.deserializeWitness sig = .ok witness := by
  obtain ⟨sig, hsig⟩ := HashMap.exists_lookup hsigned
  obtain ⟨utxo, reg, psbt, i, -, haccepted⟩ := h utxoStr sig hsig
  obtain ⟨witness, _, hwitness, -, -⟩ := verifyInputSignature_eq_ok haccepted.accepted
  exact ⟨sig, witness, hsig, hwitness⟩

/-- **The outputs never pay out more than the inputs spend.** -/
theorem IsRoundPsbt.paidValue_le (h : IsRoundPsbt E config inner values psbt)
    (hvalues : values.Perm inner.registeredInputs.values)
    (hlen : inner.registeredOutputs.length = HashMap.len inner.registeredInputs) :
    psbt.spentValue = some inner.spentValue ∧ psbt.paidValue ≤ inner.spentValue := by
  obtain ⟨network, inputs, outputs, hres, hbuild⟩ := h
  obtain ⟨-, hfunds, rfl⟩ := buildCoinjoinPsbt_eq_ok.mp hbuild
  have hcount : outputs.length = inputs.length := by
    -- one output for each input, so that the fees add up
    rw [← hres.outputs.length_eq, hlen, ← hres.inputs.length_eq, hvalues.length_eq,
      HashMap.length_values]
  have hordered : (orderedInputs inputs).Perm inputs := sortByKey_permutes _ inputs
  have hspent : inner.spentValue = (inputs.map ParticipantInput.valueSats).sum := by
    rw [RoundStateInner.spentValue, ← (hvalues.map _).sum_eq,
      map_eq_of_forall₂ hres.inputs fun reg _ inp h => h.value]
  have hutxos : (coinjoinPsbt inputs outputs config.coordinator.denominationSats
      config.coordinator.feeRateSatPerVbyte config.bip.outputScriptType).inputs.mapM
      PsbtInput.witnessUtxo = some ((orderedInputs inputs).map ParticipantInput.witnessUtxo) := by
    rw [mapM_eq_some, coinjoinPsbt, List.map_map, List.map_map]
    rfl
  constructor
  · rw [Psbt.spentValue, hutxos, Option.map_some, List.map_map, hspent, ← (hordered.map _).sum_eq]
    rfl
  · rw [hspent, sum_inputs_eq hcount hfunds, Psbt.paidValue]
    omega

/-- **When every registered input has its signature, what is left to fail** is the
extraction, at an absurd fee rate. -/
theorem assembleFinalTx_of_complete (hextract : E.ExtractsBelowLimit)
    (hkeys : inner.KeysCanonical) (hsigs : inner.SigsAccepted E config)
    (hcomplete : inner.Complete)
    (hlen : inner.registeredOutputs.length = HashMap.len inner.registeredInputs)
    (hvalues : values.Perm inner.registeredInputs.values)
    (hpsbt : IsRoundPsbt E config inner values psbt) :
    (¬(psbt.signed E inner.partialSigs).AbsurdFeeRate inner.spentValue →
      assembleFinalTx E inner config roundIdStr values =
        .ok (psbt.signed E inner.partialSigs).extracted) ∧
    ((psbt.signed E inner.partialSigs).AbsurdFeeRate inner.spentValue →
      ∃ e, assembleFinalTx E inner config roundIdStr values = .error e) := by
  have hdecodes : ∀ txin ∈ psbt.unsignedTx.input, ∃ sig witness,
      inner.partialSigs.lookup txin.previousOutput.toText = some sig ∧
        E.deserializeWitness sig = .ok witness := fun txin htxin =>
    hsigs.decodes (hcomplete _ (hpsbt.mem_registeredInputs hkeys hvalues htxin))
  obtain ⟨hspent, hpaid⟩ := hpsbt.paidValue_le hvalues hlen
  have hiff := hextract.below (psbt.signed E inner.partialSigs) inner.spentValue
    (by rw [spentValue_signed hpsbt.inputs.1, hspent])
  rw [assembleFinalTx_of_decodes hpsbt hdecodes]
  -- the outputs pay out no more than is spent, so the fee rate alone decides
  cases hresult : E.extractTx (psbt.signed E inner.partialSigs) with
  | ok tx =>
    obtain ⟨-, hbelow⟩ := hiff.mp ⟨tx, hresult⟩
    obtain rfl := hextract.signed _ _ hresult
    exact ⟨fun _ => rfl, fun habsurd => absurd habsurd hbelow⟩
  | error e =>
    refine ⟨fun hbelow => ?_, fun _ => ⟨_, rfl⟩⟩
    obtain ⟨tx, hok⟩ := hiff.mpr ⟨hpaid, hbelow⟩
    exact absurd (hresult.symm.trans hok) (by simp)

end Assembly

/-! ### One submission -/

section Submission

variable {E : Externals} {config : CoordinatorConfig} {s s' : RoundState} {utxo : OutPoint}
  {partialSig : Bytes} {sessionToken : Bytes32} {roundIdStr : String} {iter : SignIteration}
  {inner : RoundStateInner} {e : Fault ApiError}

/-- A submission that was recorded as the last one and completed nothing: the final
transaction was not assembled, or the round cannot go on to the broadcast. -/
structure Uncompleted (E : Externals) (s : RoundState) (config : CoordinatorConfig)
    (roundIdStr : String) (iter : SignIteration) (recorded : RoundStateInner) : Prop where
  collected : s.participantCount ≤ HashMap.len recorded.partialSigs
  failed : (∃ e, assembleFinalTx E recorded config roundIdStr iter.assemble = .error e) ∨
    s.phase.canTransitionTo .broadcast = false

/-- A submission passes its checks. -/
theorem Submissible.checkSubmission_eq {values : List RegisteredInput}
    (h : Submissible E s config utxo partialSig sessionToken roundIdStr values inner) :
    checkSubmission E s config utxo partialSig sessionToken roundIdStr values = .ok inner := by
  obtain ⟨reg, psbt, i, hreg, hpsbt, hindex, haccepted⟩ := h.verified
  simp only [checkSubmission, bind_eq_ok, okOr_eq_ok, require_eq_ok, mapErr_eq_ok]
  exact ⟨inner, h.inner_eq, (), by simpa [verifySessionToken] using h.session, reg, hreg, (),
    h.fresh, psbt, hpsbt, i, hindex, (), haccepted, rfl⟩

/-- **What a failed submission leaves**: everything as it was, or the signature that
completed nothing. -/
theorem processSign_error
    (h : processSign E s config utxo partialSig sessionToken roundIdStr iter = (s', .error e)) :
    s' = s ∨ ∃ inner,
      Submissible E s config utxo partialSig sessionToken roundIdStr iter.verify inner ∧
      s' = { s with inner := some (inner.withSig utxo partialSig) } ∧
      Uncompleted E s config roundIdStr iter (inner.withSig utxo partialSig) := by
  cases hcheck : checkSubmission E s config utxo partialSig sessionToken roundIdStr
      iter.verify with
  | error e' =>
    rw [processSign, hcheck] at h
    exact Or.inl (Prod.mk.inj h).1.symm
  | ok inner =>
    refine Or.inr ⟨inner, checkSubmission_eq_ok hcheck, ?_⟩
    by_cases hcount : s.participantCount ≤
        HashMap.len (inner.withSig utxo partialSig).partialSigs
    · simp only [processSign, hcheck, if_pos hcount, completeSigning] at h
      cases htx : assembleFinalTx E (inner.withSig utxo partialSig) config roundIdStr
          iter.assemble with
      | error e' =>
        -- the signature is recorded before the transaction is assembled
        simp only [assembleFinalTxHex, htx, bind, Except.bind] at h
        exact ⟨(Prod.mk.inj h).1.symm, hcount, .inl ⟨e', htx⟩⟩
      | ok tx =>
        simp only [assembleFinalTxHex, htx, bind, Except.bind, pure, Except.pure,
          RoundState.transitionTo] at h
        by_cases hedge : s.phase.canTransitionTo .broadcast = true
        · simp [hedge] at h
        · rw [if_neg hedge] at h
          exact ⟨(Prod.mk.inj h).1.symm, hcount, .inr (by simpa using hedge)⟩
    · simp only [processSign, hcheck, if_neg hcount] at h
      exact absurd (congrArg Prod.snd h) (by simp)

/-- The last submission in the signing phase, when the final transaction is
assembled. -/
theorem processSign_of_assembled {tx : Transaction} (hphase : s.phase = .signing)
    (hsub : Submissible E s config utxo partialSig sessionToken roundIdStr iter.verify inner)
    (hcount : s.participantCount ≤ HashMap.len (inner.withSig utxo partialSig).partialSigs)
    (htx : assembleFinalTx E (inner.withSig utxo partialSig) config roundIdStr iter.assemble =
      .ok tx) :
    processSign E s config utxo partialSig sessionToken roundIdStr iter =
      ({ s with
          phase := .broadcast
          inner := some (inner.withSig utxo partialSig) },
        .ok (.readyToBroadcast ⟨E.serializeHex tx, iter.outpoints⟩)) := by
  have hedge : Phase.canTransitionTo s.phase .broadcast = true := by
    rw [hphase]
    rfl
  simp only [processSign, hsub.checkSubmission_eq, if_pos hcount, completeSigning,
    assembleFinalTxHex, htx, bind, Except.bind, pure, Except.pure, RoundState.transitionTo, hedge,
    if_true]
  rfl

/-- The last submission, when the final transaction is not assembled. -/
theorem processSign_of_not_assembled {e : Fault ApiError}
    (hsub : Submissible E s config utxo partialSig sessionToken roundIdStr iter.verify inner)
    (hcount : s.participantCount ≤ HashMap.len (inner.withSig utxo partialSig).partialSigs)
    (htx : assembleFinalTx E (inner.withSig utxo partialSig) config roundIdStr iter.assemble =
      .error e) :
    processSign E s config utxo partialSig sessionToken roundIdStr iter =
      ({ s with inner := some (inner.withSig utxo partialSig) }, .error e) := by
  simp only [processSign, hsub.checkSubmission_eq, if_pos hcount, completeSigning,
    assembleFinalTxHex, htx, bind, Except.bind]

end Submission

/-! ### Every reachable round -/

section Round

variable {E : Externals} {config : CoordinatorConfig} {s : RoundState} {log : List RoundEvent}
  {inner : RoundStateInner} {psbt : Psbt} {utxo : OutPoint} {partialSig : Bytes}
  {sessionToken : Bytes32} {roundIdStr : String} {iter : SignIteration}

/-- What the assembly makes of the signatures of a round, once all of them are
there. -/
theorem RoundRun.assembles (hv : config.Valid) (hextract : E.ExtractsBelowLimit)
    (hrun : RoundRun E config s log) (hphase : s.phase = .signing)
    (hpsbt : IsRoundPsbt E config inner inner.registeredInputs.values psbt)
    (hiter : iter.Of inner)
    (hsub : Submissible E s config utxo partialSig sessionToken roundIdStr iter.verify inner)
    (hcomplete : (inner.withSig utxo partialSig).Complete) :
    (¬(psbt.signed E (inner.withSig utxo partialSig).partialSigs).AbsurdFeeRate inner.spentValue →
      assembleFinalTx E (inner.withSig utxo partialSig) config roundIdStr iter.assemble =
        .ok (psbt.signed E (inner.withSig utxo partialSig).partialSigs).extracted) ∧
    ((psbt.signed E (inner.withSig utxo partialSig).partialSigs).AbsurdFeeRate inner.spentValue →
      ∃ e, assembleFinalTx E (inner.withSig utxo partialSig) config roundIdStr iter.assemble =
        .error e) := by
  have hinner := hsub.inner_eq
  have hinv := (hrun.roundInv hv).inner inner hinner
  have hkeys : inner.KeysCanonical := hinv.keys
  have hlen : inner.registeredOutputs.length = HashMap.len inner.registeredInputs := by
    rw [← hinv.count_eq]
    exact (hrun.outputsInv hv inner hinner).complete (by rw [hphase]; rfl)
  exact assembleFinalTx_of_complete hextract hkeys
    ((hrun.sigsAccepted hv inner hinner).withSig hsub hkeys hiter.1) hcomplete hlen hiter.2.1
    ((hpsbt.perm hkeys (List.Perm.refl _) hiter.2.1.symm).congr rfl)

/-- A submission that completed nothing was the last one, at an absurd fee rate. -/
theorem RoundRun.absurd_of_uncompleted (hv : config.Valid) (hextract : E.ExtractsBelowLimit)
    (hrun : RoundRun E config s log) (hphase : s.phase = .signing)
    (hpsbt : IsRoundPsbt E config inner inner.registeredInputs.values psbt)
    (hiter : iter.Of inner)
    (hsub : Submissible E s config utxo partialSig sessionToken roundIdStr iter.verify inner)
    (h : Uncompleted E s config roundIdStr iter (inner.withSig utxo partialSig)) :
    (inner.withSig utxo partialSig).Complete ∧
      (psbt.signed E (inner.withSig utxo partialSig).partialSigs).AbsurdFeeRate
        inner.spentValue := by
  have hinv := (hrun.roundInv hv).inner inner hsub.inner_eq
  -- there are as many signatures as inputs, and all of them are of inputs
  have hcomplete : (inner.withSig utxo partialSig).Complete := by
    refine HashMap.mem_of_len_le (fun utxoStr hsigned => ?_) (hinv.count_eq ▸ h.collected)
    rcases (AList.mem_insert _).mp hsigned with rfl | hsigned
    · exact hsub.mem_registeredInputs
    · exact hinv.signed utxoStr hsigned
  refine ⟨hcomplete, ?_⟩
  by_contra hbelow
  have htx := (hrun.assembles hv hextract hphase hpsbt hiter hsub hcomplete).1 hbelow
  rcases h.failed with ⟨e, herror⟩ | hedge
  · exact absurd (herror.symm.trans htx) (by simp)
  · rw [hphase] at hedge
    exact absurd hedge (by decide)

/-- **The last submission** completes the round below the limit, and only records the
signature above it. -/
theorem RoundRun.processSign_last (hv : config.Valid) (hextract : E.ExtractsBelowLimit)
    (hrun : RoundRun E config s log) (hphase : s.phase = .signing)
    (hpsbt : IsRoundPsbt E config inner inner.registeredInputs.values psbt)
    (hiter : iter.Of inner)
    (hsub : Submissible E s config utxo partialSig sessionToken roundIdStr iter.verify inner)
    (hcomplete : (inner.withSig utxo partialSig).Complete) :
    (¬(psbt.signed E (inner.withSig utxo partialSig).partialSigs).AbsurdFeeRate inner.spentValue →
      processSign E s config utxo partialSig sessionToken roundIdStr iter =
        ({ s with
            phase := .broadcast
            inner := some (inner.withSig utxo partialSig) },
          .ok (.readyToBroadcast
            ⟨E.serializeHex (psbt.signed E (inner.withSig utxo partialSig).partialSigs).extracted,
              iter.outpoints⟩))) ∧
    ((psbt.signed E (inner.withSig utxo partialSig).partialSigs).AbsurdFeeRate inner.spentValue →
      ∃ e, processSign E s config utxo partialSig sessionToken roundIdStr iter =
        ({ s with inner := some (inner.withSig utxo partialSig) }, .error e)) := by
  obtain ⟨hbelow, habove⟩ := hrun.assembles hv hextract hphase hpsbt hiter hsub hcomplete
  have hcount : s.participantCount ≤ HashMap.len (inner.withSig utxo partialSig).partialSigs := by
    rw [((hrun.roundInv hv).inner inner hsub.inner_eq).count_eq]
    exact HashMap.len_le_of_subset hcomplete
  refine ⟨fun h => processSign_of_assembled hphase hsub hcount (hbelow h), fun h => ?_⟩
  obtain ⟨e, herror⟩ := habove h
  exact ⟨e, processSign_of_not_assembled hsub hcount herror⟩

end Round

/-- **A failed submission changes nothing, and the last one completes the round**,
unless the final transaction is refused. In any state a failed submission leaves the
round as it was, or with the accepted signature that completed nothing. In a reachable
signing state the latter happens at an absurd fee rate only; and there the accepted
signature of the last input that has none makes the round ready to be broadcast, as
its transaction with the submitted witnesses, unless that transaction pays more than
the limit. -/
theorem submission_completes_below_limit {E : Externals} {config : CoordinatorConfig}
    (hvalid : config.validate = .ok ()) (hextract : E.ExtractsBelowLimit) :
    (∀ s utxo partialSig sessionToken roundIdStr iter s' e,
      processSign E s config utxo partialSig sessionToken roundIdStr iter = (s', .error e) →
      s' = s ∨ ∃ inner,
        Submissible E s config utxo partialSig sessionToken roundIdStr iter.verify inner ∧
        s' = { s with inner := some (inner.withSig utxo partialSig) } ∧
        Uncompleted E s config roundIdStr iter (inner.withSig utxo partialSig)) ∧
    ∀ fresh banList w, Reachable (coordinator E config) (startup fresh banList) w →
      w.shared.round.phase = .signing →
      ∃ inner psbt, w.shared.round.inner = some inner ∧
        IsRoundPsbt E config inner inner.registeredInputs.values psbt ∧
        ∀ utxo partialSig sessionToken roundIdStr iter, SignIteration.Of iter inner →
          let recorded := inner.withSig utxo partialSig
          let final := psbt.signed E recorded.partialSigs
          (∀ s' e, processSign E w.shared.round config utxo partialSig sessionToken roundIdStr
              iter = (s', .error e) →
            s' = w.shared.round ∨ s' = { w.shared.round with inner := some recorded } ∧
              recorded.Complete ∧ final.AbsurdFeeRate inner.spentValue) ∧
          ∀ reg i, AcceptedSig E config inner utxo partialSig reg psbt i →
            generateSessionToken E inner.roundSecret utxo = sessionToken →
            utxo.toText ∉ inner.partialSigs → recorded.Complete →
            (¬final.AbsurdFeeRate inner.spentValue →
              processSign E w.shared.round config utxo partialSig sessionToken roundIdStr iter =
                ({ w.shared.round with
                    phase := .broadcast
                    inner := some recorded },
                  .ok (.readyToBroadcast ⟨E.serializeHex final.extracted, iter.outpoints⟩))) ∧
            (final.AbsurdFeeRate inner.spentValue →
              ∃ e, processSign E w.shared.round config utxo partialSig sessionToken roundIdStr
                iter = ({ w.shared.round with inner := some recorded }, .error e)) := by
  have hv := CoordinatorConfig.valid_of_validate hvalid
  refine ⟨fun s utxo partialSig sessionToken roundIdStr iter s' e h => processSign_error h,
    fun fresh banList w hr hphase => ?_⟩
  have hrun := roundRun_of_reachable hr
  obtain ⟨inner, hinner, hinv, hround⟩ := hrun.signing hv hphase
  have hkeys : inner.KeysCanonical := hinv.keys
  obtain ⟨network, inputs, outputs, hbuildable, -⟩ := hround _ (List.Perm.refl _)
  obtain ⟨psbt, hpsbt⟩ : ∃ psbt, IsRoundPsbt E config inner inner.registeredInputs.values psbt :=
    ⟨_, hbuildable.isRoundPsbt⟩
  refine ⟨inner, psbt, hinner, hpsbt, fun utxo partialSig token roundIdStr iter hiter =>
    ⟨fun s' e h => ?_, fun reg i haccepted hsession hfresh hcomplete => ?_⟩⟩
  · rcases processSign_error h with hsame | ⟨inner', hsub, hleft, hfails⟩
    · exact Or.inl hsame
    · obtain rfl : inner' = inner := Option.some.inj (hsub.inner_eq.symm.trans hinner)
      exact Or.inr
        ⟨hleft, hrun.absurd_of_uncompleted hv hextract hphase hpsbt hiter hsub hfails⟩
  -- the transaction the signature was checked against is the one of the round
  · refine hrun.processSign_last hv hextract hphase hpsbt hiter ?_ hcomplete
    exact ⟨hinner, hsession, hfresh, reg, psbt, i, haccepted.registered,
      buildCanonicalPsbt_eq_ok.mpr (hpsbt.perm hkeys (List.Perm.refl _) hiter.1.symm),
      haccepted.index, haccepted.accepted⟩

/-! ### The recorded sessions -/

theorem Recording.extractsBelowLimit (R : Recording) :
    R.externalsWithLimit.ExtractsBelowLimit where
  signed := by
    intro psbt tx h
    exact (Psbt.extractTx_eq_ok.mp h).2
  below := by
    intro psbt spent hspent
    have hiff : (∃ tx, R.externalsWithLimit.extractTx psbt = .ok tx) ↔
        psbt.extractTxError = none :=
      ⟨fun ⟨_, hok⟩ => (Psbt.extractTx_eq_ok.mp hok).1,
        fun herror => ⟨_, Psbt.extractTx_eq_ok.mpr ⟨herror, rfl⟩⟩⟩
    rw [hiff, Psbt.extractTxError, hspent, ← not_lt]
    by_cases hout : spent < psbt.paidValue
    · simp [hout]
    · by_cases habsurd : psbt.AbsurdFeeRate spent
      · simp [hout, habsurd]
      · simp [hout, habsurd]

/-- The submission of the second participant of a session passes the checks, and is
the last one. -/
structure SecondCompletes (E : Externals) (config : CoordinatorConfig) (s : RoundState)
    (partialSig : Bytes) (iter : SignIteration) (inner : RoundStateInner) (psbt : Psbt) : Prop where
  phase : s.phase = .signing
  iter_of : iter.Of inner
  complete : ∀ utxoStr ∈ inner.registeredInputs.keys,
    utxoStr ∈ (inner.withSig secondCoin partialSig).partialSigs
  submissible : Submissible E s config secondCoin partialSig secondSession firstRound.toText
    iter.verify inner
  built : buildCanonicalPsbt E inner config firstRound.toText iter.verify = .ok psbt

/-- The witness the second participant submits at an absurd fee rate. -/
def highFeeSubmission : Bytes := encodeWitness [highFeeSecondSig ++ [0x01], secondKey]

/-- The session up to the first signature. -/
def sessionRun : List Step × World Coordinator Task Event :=
  recorded session.externalsWithLimit configOfTwo oneSignedMoves

theorem sessionRun_ran : Ran (coordinator session.externalsWithLimit configOfTwo)
    (startup firstRound .new) sessionRun.1 sessionRun.2 :=
  recorded_ran session.externalsWithLimit configOfTwo oneSignedMoves

/-- The session at an absurd fee rate up to the first signature. -/
def highFeeRun : List Step × World Coordinator Task Event :=
  recorded highFee.externalsWithLimit highFeeConfig highFeeOneSignedMoves

theorem highFeeRun_ran : Ran (coordinator highFee.externalsWithLimit highFeeConfig)
    (startup firstRound .new) highFeeRun.1 highFeeRun.2 :=
  recorded_ran highFee.externalsWithLimit highFeeConfig highFeeOneSignedMoves

theorem exists_secondCompletes {E : Externals} {config : CoordinatorConfig} {s : RoundState}
    {partialSig : Bytes} {iter : SignIteration} {P : RoundStateInner → Psbt → Prop}
    (h : s.phase = .signing ∧ ∃ inner ∈ s.inner, iter.Of inner ∧
      (∀ utxoStr ∈ inner.registeredInputs.keys,
        utxoStr ∈ (inner.withSig secondCoin partialSig).partialSigs) ∧
      (checkSubmission E s config secondCoin partialSig secondSession firstRound.toText
        iter.verify).toOption.isSome = true ∧
      ∃ psbt ∈ (buildCanonicalPsbt E inner config firstRound.toText iter.verify).toOption,
        P inner psbt) :
    ∃ inner psbt, SecondCompletes E config s partialSig iter inner psbt ∧ P inner psbt := by
  obtain ⟨hphase, inner, hinner, hiter, hcomplete, hcheck, psbt, hbuilt, hP⟩ := h
  refine ⟨inner, psbt, ⟨hphase, hiter, hcomplete, ?_, ?_⟩, hP⟩
  · obtain ⟨inner', hchecked⟩ := Option.isSome_iff_exists.mp hcheck
    have hsub := checkSubmission_eq_ok (toOption_eq_some.mp hchecked)
    obtain rfl : inner' = inner := Option.some.inj (hsub.inner_eq.symm.trans hinner)
    exact hsub
  · exact toOption_eq_some.mp hbuilt

/-- The session pays less than the limit. -/
theorem session_secondCompletes : ∃ inner psbt,
    SecondCompletes session.externalsWithLimit configOfTwo sessionRun.2.shared.round
      sessionSubmission sessionIteration inner psbt ∧
    ¬(psbt.signed session.externalsWithLimit
      (inner.withSig secondCoin sessionSubmission).partialSigs).AbsurdFeeRate inner.spentValue := by
  refine exists_secondCompletes ?_
  decide +kernel

/-- The session at an absurd fee rate pays more. -/
theorem highFee_secondCompletes : ∃ inner psbt,
    SecondCompletes highFee.externalsWithLimit highFeeConfig highFeeRun.2.shared.round
      highFeeSubmission highFeeIteration inner psbt ∧
    (psbt.signed highFee.externalsWithLimit
      (inner.withSig secondCoin highFeeSubmission).partialSigs).AbsurdFeeRate inner.spentValue := by
  refine exists_secondCompletes ?_
  decide +kernel

/-- The second submission is accepted against the one transaction of the round. -/
theorem SecondCompletes.acceptedSig {E : Externals} {config : CoordinatorConfig} {s : RoundState}
    {partialSig : Bytes} {iter : SignIteration} {inner : RoundStateInner} {psbt psbt' : Psbt}
    (h : SecondCompletes E config s partialSig iter inner psbt) (hinv : RoundInv config s)
    (hpsbt : IsRoundPsbt E config inner inner.registeredInputs.values psbt') :
    psbt = psbt' ∧ ∃ reg i, AcceptedSig E config inner secondCoin partialSig reg psbt' i := by
  have hkeys : inner.KeysCanonical := (hinv.inner inner h.submissible.inner_eq).keys
  have hbuilt := (buildCanonicalPsbt_eq_ok.mp h.built).perm hkeys h.iter_of.1 h.iter_of.1
  obtain ⟨reg, psbt₀, i, haccepted⟩ := h.submissible.acceptedSig hkeys h.iter_of.1
  obtain rfl : psbt₀ = psbt' := haccepted.built.unique hpsbt
  exact ⟨hbuilt.unique hpsbt, reg, i, haccepted⟩

/-- The last signature of the session makes it ready to be broadcast. -/
theorem submission_completes_below_limit_session : ∃ s' prepared,
    processSign session.externalsWithLimit sessionRun.2.shared.round configOfTwo secondCoin
      sessionSubmission secondSession firstRound.toText sessionIteration =
      (s', .ok (.readyToBroadcast prepared)) ∧ s'.phase = .broadcast := by
  obtain ⟨inner, psbt, h, hbelow⟩ := session_secondCompletes
  obtain ⟨-, hreachable⟩ := submission_completes_below_limit configOfTwo_validate
    session.extractsBelowLimit
  obtain ⟨inner', psbt', hinner, hpsbt, hsubmission⟩ := hreachable firstRound .new sessionRun.2
    sessionRun_ran.reachable h.phase
  obtain rfl : inner' = inner := Option.some.inj (hinner.symm.trans h.submissible.inner_eq)
  have hinv := (roundRun_of_reachable sessionRun_ran.reachable).roundInv
    (CoordinatorConfig.valid_of_validate configOfTwo_validate)
  obtain ⟨rfl, reg, i, haccepted⟩ := h.acceptedSig hinv hpsbt
  obtain ⟨-, hlast⟩ := hsubmission secondCoin sessionSubmission secondSession firstRound.toText
    sessionIteration h.iter_of
  obtain ⟨hready, -⟩ := hlast reg i haccepted h.submissible.session h.submissible.fresh h.complete
  exact ⟨_, _, hready hbelow, rfl⟩

/-- **At an absurd fee rate the round is stuck half-changed**: in a reachable signing
state, under a configuration that is accepted, the last signature passes every check
and is recorded, and the submission fails all the same. -/
theorem highFee_half_changed :
    highFeeConfig.validate = .ok () ∧ highFee.externalsWithLimit.ExtractsBelowLimit ∧
    Reachable (coordinator highFee.externalsWithLimit highFeeConfig) (startup firstRound .new)
      highFeeRun.2 ∧
    highFeeRun.2.shared.round.phase = .signing ∧
    ∃ inner reg psbt i, highFeeRun.2.shared.round.inner = some inner ∧
      highFeeIteration.Of inner ∧
      AcceptedSig highFee.externalsWithLimit highFeeConfig inner secondCoin highFeeSubmission reg
        psbt i ∧
      (inner.withSig secondCoin highFeeSubmission).Complete ∧
      ∃ s' e, processSign highFee.externalsWithLimit highFeeRun.2.shared.round highFeeConfig
          secondCoin highFeeSubmission secondSession firstRound.toText highFeeIteration =
          (s', .error e) ∧
        s' ≠ highFeeRun.2.shared.round := by
  obtain ⟨inner, psbt, h, habsurd⟩ := highFee_secondCompletes
  have hv := CoordinatorConfig.valid_of_validate highFeeConfig_validate
  have hrun := roundRun_of_reachable highFeeRun_ran.reachable
  have hinv := hrun.roundInv hv
  have hkeys : inner.KeysCanonical := (hinv.inner inner h.submissible.inner_eq).keys
  have hpsbt := (buildCanonicalPsbt_eq_ok.mp h.built).perm hkeys h.iter_of.1 h.iter_of.1
  obtain ⟨-, reg, i, haccepted⟩ := h.acceptedSig hinv hpsbt
  obtain ⟨e, herror⟩ := (hrun.processSign_last hv highFee.extractsBelowLimit h.phase hpsbt
    h.iter_of h.submissible h.complete).2 habsurd
  refine ⟨highFeeConfig_validate, highFee.extractsBelowLimit, highFeeRun_ran.reachable, h.phase,
    inner, reg, psbt, i, h.submissible.inner_eq, h.iter_of, haccepted, h.complete, _, e, herror,
    fun hsame => ?_⟩
  -- the signature was not there before
  have hinner : some (inner.withSig secondCoin highFeeSubmission) = some inner :=
    (congrArg RoundState.inner hsame).trans h.submissible.inner_eq
  have hmem : secondCoin.toText ∈ (inner.withSig secondCoin highFeeSubmission).partialSigs :=
    (AList.mem_insert _).mpr (.inl rfl)
  rw [Option.some.inj hinner] at hmem
  exact h.submissible.fresh hmem

end Blindjoin
