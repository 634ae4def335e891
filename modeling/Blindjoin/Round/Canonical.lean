import Blindjoin.Api.Handlers

/-!
# The transaction of a round

The transaction of a round is built at three places, each time from the
registered inputs in whatever order the hash map yields them.
`Blindjoin.IsRoundPsbt` says what is built, without the errors the places report
in different words (`Blindjoin.buildRoundPsbt_eq_ok`), and **the order does not
matter** (`Blindjoin.IsRoundPsbt.perm`): the registered inputs are kept under
the canonical text of their outpoint, so no outpoint occurs twice, and the
inputs are sorted by outpoint.
-/

namespace Blindjoin

open Collections

/-! ### What is built -/

/-- What a registered input becomes in the transaction. -/
structure RegisteredInput.Becomes (E : Externals) (network : Network) (reg : RegisteredInput)
    (inp : ParticipantInput) : Prop where
  outpoint : parseOutpoint reg.utxoStr = some inp.outpoint
  change : E.addressToScript reg.changeAddress network = .ok inp.changeAddress
  value : inp.valueSats = reg.valueSats
  script : inp.scriptPubkey = reg.scriptPubkey
  scriptType : inp.scriptType = reg.scriptType

/-- What a registered output becomes in the transaction. -/
def RegisteredOutput.Becomes (E : Externals) (network : Network) (out : RegisteredOutput)
    (o : ParticipantOutput) : Prop :=
  E.addressToScript out.address network = .ok o.scriptPubkey

/-- The inputs and outputs of the transaction of a round, the registered inputs
being iterated in the order `values`. -/
structure Resolves (E : Externals) (config : CoordinatorConfig) (inner : RoundStateInner)
    (values : List RegisteredInput) (network : Network) (inputs : List ParticipantInput)
    (outputs : List ParticipantOutput) : Prop where
  parses : parseBitcoinNetwork config.network.bitcoinNetwork = .ok network
  inputs : List.Forall₂ (RegisteredInput.Becomes E network) values inputs
  outputs : List.Forall₂ (RegisteredOutput.Becomes E network) inner.registeredOutputs outputs

/-- The transaction that is built of a round. -/
def IsRoundPsbt (E : Externals) (config : CoordinatorConfig) (inner : RoundStateInner)
    (values : List RegisteredInput) (psbt : Psbt) : Prop :=
  ∃ network inputs outputs, Resolves E config inner values network inputs outputs ∧
    buildCoinjoinPsbt inputs outputs config.coordinator.denominationSats
      config.coordinator.feeRateSatPerVbyte config.bip.outputScriptType = .ok psbt

section Build

variable {E : Externals} {config : CoordinatorConfig} {inner : RoundStateInner}
  {values values' : List RegisteredInput} {network : Network} {psbt psbt' : Psbt}
  {inputs : List ParticipantInput} {outputs : List ParticipantOutput}

theorem participantInput_eq_ok {ε : Type} {errors : BuildErrors ε} {reg : RegisteredInput}
    {inp : ParticipantInput} :
    participantInput E errors network reg = .ok inp ↔ reg.Becomes E network inp := by
  simp only [participantInput, bind_eq_ok, okOr_eq_ok, mapError_eq_ok, parseAddressToScript_eq_ok]
  constructor
  · rintro ⟨outpoint, houtpoint, change, hchange, hinp⟩
    obtain rfl := Except.ok.inj hinp
    exact ⟨houtpoint, hchange, rfl, rfl, rfl⟩
  · intro h
    refine ⟨inp.outpoint, h.outpoint, inp.changeAddress, h.change, ?_⟩
    rw [← h.value, ← h.script, ← h.scriptType]
    rfl

theorem participantOutput_eq_ok {ε : Type} {errors : BuildErrors ε} {out : RegisteredOutput}
    {o : ParticipantOutput} :
    participantOutput E errors network out = .ok o ↔ out.Becomes E network o := by
  simp only [participantOutput, bind_eq_ok, mapError_eq_ok, parseAddressToScript_eq_ok]
  constructor
  · rintro ⟨script, hscript, ho⟩
    obtain rfl := Except.ok.inj ho
    exact hscript
  · exact fun h => ⟨o.scriptPubkey, h, rfl⟩

/-- The inputs and outputs of a round are read back in one way. -/
theorem Resolves.unique {network' : Network} {inputs' : List ParticipantInput}
    {outputs' : List ParticipantOutput}
    (h : Resolves E config inner values network inputs outputs)
    (h' : Resolves E config inner values network' inputs' outputs') :
    network = network' ∧ inputs = inputs' ∧ outputs = outputs' := by
  obtain rfl := Except.ok.inj (h.parses.symm.trans h'.parses)
  have hinput : Relator.RightUnique (RegisteredInput.Becomes E network) := by
    rintro reg ⟨outpoint, value, spk, change, st⟩ ⟨outpoint', value', spk', change', st'⟩ hb hb'
    obtain rfl := Option.some.inj (hb.outpoint.symm.trans hb'.outpoint)
    obtain rfl := Except.ok.inj (hb.change.symm.trans hb'.change)
    obtain rfl := hb.value.trans hb'.value.symm
    obtain rfl := hb.script.trans hb'.script.symm
    obtain rfl := hb.scriptType.trans hb'.scriptType.symm
    rfl
  have houtput : Relator.RightUnique (RegisteredOutput.Becomes E network) := by
    rintro out ⟨script⟩ ⟨script'⟩ hb hb'
    obtain rfl := Except.ok.inj (hb.symm.trans hb')
    rfl
  exact ⟨rfl, hinput.forall₂ h.inputs h'.inputs, houtput.forall₂ h.outputs h'.outputs⟩

/-- **When a transaction is built, and which**: this does not depend on how the
errors are reported. -/
theorem buildRoundPsbt_eq_ok {ε : Type} {errors : BuildErrors ε} :
    buildRoundPsbt E errors inner config values = .ok psbt ↔
      IsRoundPsbt E config inner values psbt := by
  have hinputs : ∀ network inputs, values.mapM (participantInput E errors network) = .ok inputs ↔
      List.Forall₂ (RegisteredInput.Becomes E network) values inputs := by
    intro network inputs
    simp only [mapM_eq_ok_iff_forall₂, participantInput_eq_ok]
  have houtputs : ∀ network outputs,
      inner.registeredOutputs.mapM (participantOutput E errors network) = .ok outputs ↔
      List.Forall₂ (RegisteredOutput.Becomes E network) inner.registeredOutputs outputs :=
    fun network outputs => by simp only [mapM_eq_ok_iff_forall₂, participantOutput_eq_ok]
  rw [buildRoundPsbt, ← runtimeNetwork, IsRoundPsbt]
  simp only [bind_eq_ok, runtimeNetwork_eq_ok, ofExcept_eq_ok, hinputs, houtputs]
  constructor
  · rintro ⟨network, hnet, inputs, hin, outputs, hout, hbuild⟩
    exact ⟨network, inputs, outputs, ⟨hnet, hin, hout⟩, hbuild⟩
  · rintro ⟨network, inputs, outputs, h, hbuild⟩
    exact ⟨network, h.parses, inputs, h.inputs, outputs, h.outputs, hbuild⟩

theorem buildCanonicalPsbt_eq_ok {roundIdStr : String} :
    buildCanonicalPsbt E inner config roundIdStr values = .ok psbt ↔
      IsRoundPsbt E config inner values psbt := buildRoundPsbt_eq_ok

theorem buildDisplayPsbt_eq_ok {roundIdStr : String} :
    buildDisplayPsbt E config inner roundIdStr values = .ok psbt ↔
      IsRoundPsbt E config inner values psbt := buildRoundPsbt_eq_ok

/-! ### The order of the inputs -/

/-- The inputs are kept under the canonical text of their outpoint. -/
def RoundStateInner.KeysCanonical (inner : RoundStateInner) : Prop :=
  ∀ utxoStr reg, inner.registeredInputs.lookup utxoStr = some reg →
    reg.utxoStr = utxoStr ∧ ∃ utxo : OutPoint, utxo.toText = utxoStr

/-- The outpoint of an input of the transaction, in the text it is registered
under. -/
theorem RoundStateInner.KeysCanonical.toText_outpoint (hkeys : inner.KeysCanonical)
    {reg : RegisteredInput} {inp : ParticipantInput} (hreg : reg ∈ inner.registeredInputs.values)
    (h : reg.Becomes E network inp) : inp.outpoint.toText = reg.utxoStr := by
  obtain ⟨utxoStr, hlookup⟩ := HashMap.mem_values.mp hreg
  obtain ⟨rfl, utxo, hutxo⟩ := hkeys utxoStr reg hlookup
  have hparse := h.outpoint
  rw [← hutxo, parseOutpoint_toText, Option.some.injEq] at hparse
  rw [← hparse, hutxo]

theorem Resolves.map_toText (h : Resolves E config inner values network inputs outputs)
    (hkeys : inner.KeysCanonical) (hvalues : values.Perm inner.registeredInputs.values) :
    inputs.map (OutPoint.toText ∘ ParticipantInput.outpoint) =
      values.map RegisteredInput.utxoStr := by
  exact map_eq_of_forall₂ h.inputs fun reg hreg _ hbecomes =>
    hkeys.toText_outpoint (hvalues.mem_iff.mp hreg) hbecomes

/-- No outpoint occurs twice in the transaction of a round. -/
theorem Resolves.nodup_outpoints (h : Resolves E config inner values network inputs outputs)
    (hkeys : inner.KeysCanonical) (hvalues : values.Perm inner.registeredInputs.values) :
    (inputs.map ParticipantInput.outpoint).Nodup := by
  refine List.Nodup.of_map OutPoint.toText ?_
  rw [List.map_map, h.map_toText hkeys hvalues]
  refine ((hvalues.map _).nodup_iff).mpr ?_
  exact HashMap.nodup_map_values fun utxoStr reg hlookup => (hkeys utxoStr reg hlookup).1

/-- **The transaction of a round does not depend on the order** in which its
registered inputs are iterated. -/
theorem IsRoundPsbt.perm (h : IsRoundPsbt E config inner values psbt)
    (hkeys : inner.KeysCanonical) (hvalues : values.Perm inner.registeredInputs.values)
    (hperm : values.Perm values') : IsRoundPsbt E config inner values' psbt := by
  obtain ⟨network, inputs, outputs, hres, hbuild⟩ := h
  obtain ⟨inputs', hin, hinputs⟩ := forall₂_perm hperm hres.inputs
  refine ⟨network, inputs', outputs, ⟨hres.parses, hin, hres.outputs⟩, ?_⟩
  exact (buildCoinjoinPsbt_perm hinputs (hres.nodup_outpoints hkeys hvalues)).mp hbuild

/-- **A round has one transaction.** -/
theorem IsRoundPsbt.unique (h : IsRoundPsbt E config inner values psbt)
    (h' : IsRoundPsbt E config inner values psbt') : psbt = psbt' := by
  have hbuild : buildDisplayPsbt E config inner "" values = .ok psbt := buildDisplayPsbt_eq_ok.mpr h
  rw [buildDisplayPsbt_eq_ok.mpr h'] at hbuild
  exact (Except.ok.inj hbuild).symm

end Build

end Blindjoin
