import Mathlib.Data.Finset.Card
import Blindjoin.System.Recorded
import Blindjoin.System.Registered

/-!
# The transaction can be built

Once the participants of a round are fixed its transaction can be built: every
text stored at registration is read back, and every input pays its share of the
fee, because it was admitted with the share of the smallest round
(`Blindjoin.exists_isRoundPsbt`). So in the signing phase neither the display
handler nor the verification of a signature fails for want of a transaction
(`Blindjoin.psbt_of_signing`), and the transaction starts with one output of the
denomination for each redeemed token (`Blindjoin.outputs_of_reachable`).
-/

namespace Blindjoin

open Interleaving Collections

section Build

variable {E : Externals} {config : CoordinatorConfig} {s : RoundState} {inner : RoundStateInner}
  {phase : Phase} {count : ℕ} {scripts : List Script} {values : List RegisteredInput}
  {psbt : Psbt}

/-! ### Reading back what was registered -/

/-- An admitted input is read back. -/
theorem RegisteredInput.exists_becomes {network : Network} {reg : RegisteredInput}
    (hnet : parseBitcoinNetwork config.network.bitcoinNetwork = .ok network)
    (hkeys : inner.KeysCanonical) (hadm : inner.AllAdmitted E config)
    (hreg : reg ∈ inner.registeredInputs.values) : ∃ inp, reg.Becomes E network inp := by
  obtain ⟨utxoStr, hlookup⟩ := HashMap.mem_values.mp hreg
  obtain ⟨rfl, utxo, hutxo⟩ := hkeys utxoStr reg hlookup
  obtain ⟨script, network', hnet', hscript⟩ := (hadm _ reg hlookup).change
  obtain rfl : network = network' := Except.ok.inj (hnet.symm.trans hnet')
  refine ⟨⟨utxo, reg.valueSats, reg.scriptPubkey, script, reg.scriptType⟩, ?_, hscript, rfl, rfl,
    rfl⟩
  rw [← hutxo, parseOutpoint_toText]

/-- The accepted outputs are read back, as the scripts they were accepted for. -/
theorem Accepts.becomes {network : Network} (h : Accepts E config inner scripts)
    (hnet : parseBitcoinNetwork config.network.bitcoinNetwork = .ok network) :
    List.Forall₂ (RegisteredOutput.Becomes E network) inner.registeredOutputs
      (scripts.map ParticipantOutput.mk) := by
  rw [List.forall₂_map_right_iff]
  refine h.outputs.imp fun out script hpays => ?_
  obtain ⟨⟨network', hnet', hscript⟩, -⟩ := hpays
  obtain rfl : network = network' := Except.ok.inj (hnet.symm.trans hnet')
  exact hscript

/-- An output of change is paid to a registered change address. -/
def PaysChange (E : Externals) (config : CoordinatorConfig) (values : List RegisteredInput)
    (out : TxOut) : Prop :=
  ∃ reg ∈ values, ParsesTo E config reg.changeAddress out.scriptPubkey

/-- The inputs and outputs of a round, read back, of which a transaction can be built:
there is an input, and every input is of an allowed type and pays its share. -/
structure Buildable (E : Externals) (config : CoordinatorConfig) (inner : RoundStateInner)
    (values : List RegisteredInput) (network : Network) (inputs : List ParticipantInput)
    (outputs : List ParticipantOutput) : Prop where
  resolves : Resolves E config inner values network inputs outputs
  nonempty : inputs ≠ []
  allowed : ∀ inp ∈ inputs, config.bip.allows inp.scriptType = true
  funded : ∀ inp ∈ inputs, config.coordinator.denominationSats +
    feeShare inputs config.coordinator.feeRateSatPerVbyte config.bip.outputScriptType ≤
      inp.valueSats

/-- The transaction that is built of them. -/
theorem Buildable.buildCoinjoinPsbt {network : Network} {inputs : List ParticipantInput}
    {outputs : List ParticipantOutput}
    (h : Buildable E config inner values network inputs outputs) :
    buildCoinjoinPsbt inputs outputs config.coordinator.denominationSats
      config.coordinator.feeRateSatPerVbyte config.bip.outputScriptType =
      .ok (coinjoinPsbt inputs outputs config.coordinator.denominationSats
        config.coordinator.feeRateSatPerVbyte config.bip.outputScriptType) :=
  buildCoinjoinPsbt_eq_ok.mpr ⟨h.nonempty, h.funded, rfl⟩

theorem Buildable.isRoundPsbt {network : Network} {inputs : List ParticipantInput}
    {outputs : List ParticipantOutput}
    (h : Buildable E config inner values network inputs outputs) :
    IsRoundPsbt E config inner values (coinjoinPsbt inputs outputs
      config.coordinator.denominationSats config.coordinator.feeRateSatPerVbyte
      config.bip.outputScriptType) :=
  ⟨network, inputs, outputs, h.resolves, h.buildCoinjoinPsbt⟩

/-- What an input is read back from was admitted. -/
theorem Resolves.exists_admitted {network : Network} {inputs : List ParticipantInput}
    {outputs : List ParticipantOutput}
    (hres : Resolves E config inner values network inputs outputs)
    (hadm : inner.AllAdmitted E config) (hvalues : values.Perm inner.registeredInputs.values) :
    ∀ inp ∈ inputs, ∃ reg ∈ values, reg.Becomes E network inp ∧ Admitted E config reg := by
  intro inp hinp
  obtain ⟨reg, hreg, hbecomes⟩ := exists_of_mem_forall₂ hres.inputs hinp
  obtain ⟨utxoStr, hlookup⟩ := HashMap.mem_values.mp (hvalues.mem_iff.mp hreg)
  exact ⟨reg, hreg, hbecomes, hadm utxoStr reg hlookup⟩

/-- **Nobody in a closed round is charged more than was checked at registration**: the
script types are allowed, and the share is at most the estimate for the smallest round. -/
theorem Resolves.feeShare_le {network : Network} {inputs : List ParticipantInput}
    {outputs : List ParticipantOutput}
    (hres : Resolves E config inner values network inputs outputs) (hv : config.Valid)
    (hinner : InnerInv config phase count inner) (hclosed : phase.inputsClosed = true)
    (hadm : inner.AllAdmitted E config) (hvalues : values.Perm inner.registeredInputs.values) :
    (∀ inp ∈ inputs, config.bip.allows inp.scriptType = true) ∧
    ∀ share, (estimateFeeShare config.bip config.coordinator.minParticipants
        config.coordinator.feeRateSatPerVbyte : Res HttpError ℕ) = .ok share →
      feeShare inputs config.coordinator.feeRateSatPerVbyte config.bip.outputScriptType ≤
        share := by
  have hallowed : ∀ inp ∈ inputs, config.bip.allows inp.scriptType = true := by
    intro inp hinp
    obtain ⟨reg, -, hbecomes, hadmitted⟩ := hres.exists_admitted hadm hvalues inp hinp
    rw [hbecomes.scriptType]
    exact hadmitted.allowed
  have hlen : inputs.length = count := by
    rw [← hres.inputs.length_eq, hvalues.length_eq, HashMap.length_values, hinner.count_eq]
  have hmin := hinner.min_le hclosed
  have hpos := hv.two_le_min
  exact ⟨hallowed, fun share => feeShare_le_estimateFeeShare (by omega) (by omega) hallowed⟩

/-- **The inputs and outputs of a closed round are read back**, in whatever order its
inputs are iterated, and a transaction can be built of them. -/
theorem exists_buildable (hv : config.Valid) (hinner : InnerInv config phase count inner)
    (hclosed : phase.inputsClosed = true) (hadm : inner.AllAdmitted E config)
    (hacc : Accepts E config inner scripts)
    (hvalues : values.Perm inner.registeredInputs.values) :
    ∃ network inputs,
      Buildable E config inner values network inputs (scripts.map ParticipantOutput.mk) := by
  obtain ⟨network, hnet⟩ := hv.network
  have hkeys : inner.KeysCanonical := hinner.keys
  obtain ⟨inputs, hinputs⟩ := exists_forall₂ fun reg hreg =>
    RegisteredInput.exists_becomes hnet hkeys hadm (hvalues.mem_iff.mp hreg)
  have hres : Resolves E config inner values network inputs
      (scripts.map ParticipantOutput.mk) := ⟨hnet, hinputs, hacc.becomes hnet⟩
  obtain ⟨hallowed, hshare⟩ := hres.feeShare_le hv hinner hclosed hadm hvalues
  refine ⟨network, inputs, hres, ?_, hallowed, ?_⟩
  · rintro rfl
    have hlen : values.length = 0 := hinputs.length_eq
    rw [hvalues.length_eq, HashMap.length_values, ← hinner.count_eq] at hlen
    have hmin := hinner.min_le hclosed
    have hpos := hv.two_le_min
    omega
  · -- the share that was checked at registration is at least the real one
    intro inp hinp
    obtain ⟨reg, -, hbecomes, hadmitted⟩ := hres.exists_admitted hadm hvalues inp hinp
    obtain ⟨share, hestimate, hcovers⟩ := hadmitted.covers
    have hle := hshare share hestimate
    rw [hbecomes.value]
    omega

/-- **The transaction of a closed round can be built**, in whatever order its
inputs are iterated. It starts with the denomination outputs, and the others are
change. -/
theorem exists_isRoundPsbt (hv : config.Valid) (hinner : InnerInv config phase count inner)
    (hclosed : phase.inputsClosed = true) (hadm : inner.AllAdmitted E config)
    (hacc : Accepts E config inner scripts)
    (hvalues : values.Perm inner.registeredInputs.values) :
    ∃ psbt change, IsRoundPsbt E config inner values psbt ∧
      psbt.unsignedTx.output =
        scripts.map (fun script => ⟨config.coordinator.denominationSats, script⟩) ++ change ∧
      ∀ out ∈ change, PaysChange E config values out := by
  obtain ⟨network, inputs, hbuildable⟩ := exists_buildable hv hinner hclosed hadm hacc hvalues
  have hres := hbuildable.resolves
  let share := feeShare inputs config.coordinator.feeRateSatPerVbyte config.bip.outputScriptType
  refine ⟨_, (orderedInputs inputs).filterMap
    (changeOutput config.coordinator.denominationSats share), hbuildable.isRoundPsbt, ?_, ?_⟩
  · rw [coinjoinPsbt, coinjoinTx, List.map_map]
    rfl
  · intro out hout
    obtain ⟨inp, hinp, hchange⟩ := List.mem_filterMap.mp hout
    obtain ⟨reg, hreg, hbecomes⟩ := exists_of_mem_forall₂ hres.inputs
      ((sortByKey_permutes _ inputs).mem_iff.mp hinp)
    refine ⟨reg, hreg, network, hres.parses, ?_⟩
    rw [changeOutput] at hchange
    split at hchange
    · obtain rfl := Option.some.inj hchange
      exact hbecomes.change
    · exact absurd hchange (by simp)

/-- **A round that collects signatures** has an inner state that keeps the invariants, and
whatever order its inputs are iterated in, a transaction can be built, of as many outputs
as inputs. -/
theorem RoundRun.signing {log : List RoundEvent} (hv : config.Valid)
    (hrun : RoundRun E config s log) (hphase : s.phase = .signing) :
    ∃ inner, s.inner = some inner ∧ InnerInv config s.phase s.participantCount inner ∧
      ∀ values : List RegisteredInput, values.Perm inner.registeredInputs.values →
        ∃ network inputs outputs, Buildable E config inner values network inputs outputs ∧
          outputs.length = inputs.length := by
  obtain ⟨inner, hinner, hinv⟩ := (hrun.roundInv hv).exists_inner (by simp [hphase])
  have hout := hrun.outputsInv hv inner hinner
  obtain ⟨scripts, hacc⟩ := hout.accepts
  refine ⟨inner, hinner, hinv, fun values hvalues => ?_⟩
  obtain ⟨network, inputs, hbuildable⟩ := exists_buildable hv hinv (by rw [hphase]; rfl)
    (hrun.allAdmitted inner hinner) hacc hvalues
  have hres := hbuildable.resolves
  refine ⟨network, inputs, _, hbuildable, ?_⟩
  rw [← hres.outputs.length_eq, hout.complete (by rw [hphase]; rfl), ← hres.inputs.length_eq,
    hvalues.length_eq, HashMap.length_values, hinv.count_eq]

/-- What the display handler answers in the signing phase, given the share it shows. -/
theorem getTx_eq_of_isRoundPsbt {share : ℕ} (hphase : s.phase = .signing)
    (hinner : s.inner = some inner) (h : IsRoundPsbt E config inner values psbt)
    (hshare : (estimateFeeShare config.bip values.length config.coordinator.feeRateSatPerVbyte :
      Res HttpError ℕ) = .ok share) :
    getTx E config s values = .ok
      ⟨s.roundId, E.base64Encode (E.psbtSerialize psbt), share * values.length, share⟩ := by
  simp only [getTx, bind_eq_ok, ofExcept_eq_ok, checkPhase_eq_ok, okOr_eq_ok,
    buildDisplayPsbt_eq_ok]
  exact ⟨(), hphase, inner, hinner, psbt, h, share, hshare, rfl⟩

/-- The display handler answers in the signing phase. -/
theorem getTx_of_isRoundPsbt (hv : config.Valid) (hphase : s.phase = .signing)
    (hinner : s.inner = some inner) (h : IsRoundPsbt E config inner values psbt) :
    ∃ response, getTx E config s values = .ok response ∧
      response.psbt = E.base64Encode (E.psbtSerialize psbt) := by
  obtain ⟨share, hshare⟩ := exists_estimateFeeShare (ε := HttpError) hv.allowed values.length
    config.coordinator.feeRateSatPerVbyte
  exact ⟨_, getTx_eq_of_isRoundPsbt hphase hinner h hshare, rfl⟩

end Build

/-! ### Every reachable world -/

section Reachable

variable {E : Externals} {config : CoordinatorConfig} {fresh : Uuid} {banList : BanList}
  {w : World Coordinator Task Event}

/-- **The registration gate covers the real fee**: in every reachable signing
state, and for every order in which the registered inputs may be iterated, the
transaction that signatures are verified against is built, the display handler
builds it too and answers, and every input was registered with at least the
denomination and the fee share of the smallest round. -/
theorem psbt_of_signing (hvalid : config.validate = .ok ())
    (hr : Reachable (coordinator E config) (startup fresh banList) w)
    (hphase : w.shared.round.phase = .signing) :
    ∃ inner, w.shared.round.inner = some inner ∧
      ∀ values : List RegisteredInput, values.Perm inner.registeredInputs.values →
        (∀ roundIdStr, ∃ psbt, buildCanonicalPsbt E inner config roundIdStr values = .ok psbt ∧
          buildDisplayPsbt E config inner roundIdStr values = .ok psbt) ∧
        (∃ response, getTx E config w.shared.round values = .ok response) ∧
        ∀ reg ∈ values, ∃ share,
          (estimateFeeShare config.bip config.coordinator.minParticipants
            config.coordinator.feeRateSatPerVbyte : Res HttpError ℕ) = .ok share ∧
          config.coordinator.denominationSats + share ≤ reg.valueSats := by
  have hv := CoordinatorConfig.valid_of_validate hvalid
  have hrun := roundRun_of_reachable hr
  obtain ⟨inner, hinner, -, hround⟩ := hrun.signing hv hphase
  refine ⟨inner, hinner, fun values hvalues => ?_⟩
  obtain ⟨network, inputs, outputs, hbuildable, -⟩ := hround values hvalues
  have hpsbt := hbuildable.isRoundPsbt
  refine ⟨fun _ => ⟨_, buildCanonicalPsbt_eq_ok.mpr hpsbt, buildDisplayPsbt_eq_ok.mpr hpsbt⟩,
    ?_, fun reg hreg => ?_⟩
  · obtain ⟨response, hresponse, -⟩ := getTx_of_isRoundPsbt hv hphase hinner hpsbt
    exact ⟨response, hresponse⟩
  · obtain ⟨utxoStr, hlookup⟩ := HashMap.mem_values.mp (hvalues.mem_iff.mp hreg)
    exact (hrun.allAdmitted inner hinner utxoStr reg hlookup).covers

theorem psbt_of_signing_session :
    ∃ inner, (worldAfter signingMoves).shared.round.inner = some inner ∧
      ∀ values : List RegisteredInput, values.Perm inner.registeredInputs.values →
        (∀ roundIdStr, ∃ psbt,
          buildCanonicalPsbt session.externals inner configOfTwo roundIdStr values = .ok psbt ∧
          buildDisplayPsbt session.externals configOfTwo inner roundIdStr values = .ok psbt) ∧
        (∃ response, getTx session.externals configOfTwo (worldAfter signingMoves).shared.round
          values = .ok response) ∧
        ∀ reg ∈ values, ∃ share,
          (estimateFeeShare configOfTwo.bip configOfTwo.coordinator.minParticipants
            configOfTwo.coordinator.feeRateSatPerVbyte : Res HttpError ℕ) = .ok share ∧
          configOfTwo.coordinator.denominationSats + share ≤ reg.valueSats :=
  psbt_of_signing configOfTwo_validate (worldAfter_reachable signingMoves) signing_reached

/-- **Outputs are counted and paid once**: there are as many outputs as redeemed
tokens, no more than inputs, exactly as many once signatures are collected, and
none before output registration. Each is one of the denomination, the scripts
are distinct, the redeemed tokens are the messages of these scripts, and the
transaction pays them first, in this order. -/
theorem outputs_of_reachable (hvalid : config.validate = .ok ())
    (hr : Reachable (coordinator E config) (startup fresh banList) w) {inner : RoundStateInner}
    (hinner : w.shared.round.inner = some inner) :
    inner.registeredOutputs.length = inner.redeemedTokens.card ∧
    inner.registeredOutputs.length ≤ HashMap.len inner.registeredInputs ∧
    (w.shared.round.phase.holdsSigs = true →
      inner.registeredOutputs.length = HashMap.len inner.registeredInputs) ∧
    (w.shared.round.phase = .inputReg → inner.registeredOutputs = []) ∧
    ∃ scripts, List.Forall₂ (RegisteredOutput.Pays E config) inner.registeredOutputs scripts ∧
      scripts.Nodup ∧ (scripts.map (tokenOf E config)).Nodup ∧
      inner.redeemedTokens = (scripts.map (tokenOf E config)).toFinset ∧
      (w.shared.round.phase.holdsSigs = true →
        ∀ values : List RegisteredInput, values.Perm inner.registeredInputs.values →
          ∀ roundIdStr, ∃ psbt change,
            buildCanonicalPsbt E inner config roundIdStr values = .ok psbt ∧
            psbt.unsignedTx.output =
              scripts.map (fun script => ⟨config.coordinator.denominationSats, script⟩) ++ change ∧
            ∀ out ∈ change, PaysChange E config values out) := by
  have hv := CoordinatorConfig.valid_of_validate hvalid
  have hrun := roundRun_of_reachable hr
  have hround := hrun.roundInv hv
  have hinv := hround.inner inner hinner
  have hout := hrun.outputsInv hv inner hinner
  have hadm := hrun.allAdmitted inner hinner
  obtain ⟨scripts, hacc⟩ := hout.accepts
  refine ⟨?_, hrun.outputs_le_inputs hv hinner, fun hsigs => ?_, hout.none_yet, scripts,
    hacc.outputs, List.Nodup.of_map _ hacc.nodup, hacc.nodup, hacc.tokens,
    fun hsigs values hvalues _ => ?_⟩
  · rw [hacc.tokens, List.toFinset_card_of_nodup hacc.nodup, List.length_map,
      hacc.outputs.length_eq]
  · rw [← hinv.count_eq, hout.complete hsigs]
  · have hclosed : w.shared.round.phase.inputsClosed = true := by
      cases hphase : w.shared.round.phase <;> rw [hphase] at hsigs <;>
        first | rfl | exact absurd hsigs (by decide)
    obtain ⟨psbt, change, hpsbt, houtput, hchange⟩ :=
      exists_isRoundPsbt hv hinv hclosed hadm hacc hvalues
    exact ⟨psbt, change, buildCanonicalPsbt_eq_ok.mpr hpsbt, houtput, hchange⟩

theorem outputs_of_reachable_session :
    ∃ inner, (worldAfter signingMoves).shared.round.inner = some inner ∧
      inner.registeredOutputs.length = inner.redeemedTokens.card ∧
      inner.registeredOutputs.length = HashMap.len inner.registeredInputs ∧
      ∃ scripts, List.Forall₂ (RegisteredOutput.Pays session.externals configOfTwo)
          inner.registeredOutputs scripts ∧ scripts.Nodup ∧
        inner.redeemedTokens = (scripts.map (tokenOf session.externals configOfTwo)).toFinset := by
  have hv := CoordinatorConfig.valid_of_validate configOfTwo_validate
  have hround := (roundRun_of_reachable (worldAfter_reachable signingMoves)).roundInv hv
  obtain ⟨inner, hinner, -⟩ := hround.exists_inner (by simp [signing_reached])
  obtain ⟨hcard, -, hcomplete, -, scripts, hpays, hnodup, -, htokens, -⟩ :=
    outputs_of_reachable configOfTwo_validate (worldAfter_reachable signingMoves) hinner
  exact ⟨inner, hinner, hcard, hcomplete (by rw [signing_reached]; rfl), scripts, hpays, hnodup,
    htokens⟩

end Reachable

end Blindjoin
