import Mathlib.Algebra.Order.BigOperators.Group.List
import Mathlib.Algebra.Order.Ring.Nat
import Blindjoin.Lib.Collections
import Blindjoin.Coordinator.Config

/-!
# The CoinJoin transaction

`Blindjoin.buildCoinjoinPsbt` turns the registered inputs and outputs of a round
into the transaction the participants sign. Its inputs are sorted by outpoint,
so the order they are handed over in does not matter
(`Blindjoin.buildCoinjoinPsbt_perm`), and it succeeds exactly when there is an
input and every input can pay the denomination and its share of the fee, the
result then being `Blindjoin.coinjoinPsbt` (`Blindjoin.buildCoinjoinPsbt_eq_ok`).

Amounts are exact here. The code computes in `u64`; under `Blindjoin.FitsU64`
it builds the same transaction (`Blindjoin.buildCoinjoinPsbtU64_of_fitsU64`).
-/

namespace Blindjoin

open Collections

/-- P2WPKH dust threshold. Change below it is folded into the fee. -/
def dustThresholdSats : ℕ := 294

/-- Fixed transaction overhead in virtual bytes. -/
def txOverheadVbytes : ℕ := 10

/-- Worst-case virtual bytes of an input. -/
def scriptInputVbytes : ScriptType → ℕ
  | .p2wpkh => 68
  | .p2tr => 58
  | .p2shP2wpkh => 91

/-- Virtual bytes of an output. -/
def scriptOutputVbytes : ScriptType → ℕ
  | .p2wpkh => 31
  | .p2tr => 43
  | .p2shP2wpkh => 32

/-- An input as the builder takes it. -/
structure ParticipantInput where
  outpoint : OutPoint
  valueSats : ℕ
  scriptPubkey : Script
  changeAddress : Script
  scriptType : ScriptType
deriving DecidableEq

/-- An output as the builder takes it. -/
structure ParticipantOutput where
  scriptPubkey : Script
deriving DecidableEq

/-- Why no transaction was built. -/
inductive TxError
  | insufficientFunds (value required : ℕ)
  | noParticipants
  | psbt (message : String)
deriving DecidableEq

/-- The `Display` text of a failed build. -/
def TxError.toText : TxError → String
  | .insufficientFunds value required =>
    s!"Participant input too small: {value} sats < {required} sats"
  | .noParticipants => "No participants"
  | .psbt m => s!"PSBT error: {m}"

section Build

variable (inputs : List ParticipantInput) (outputs : List ParticipantOutput)
  (denominationSats feeRate : ℕ) (outputScriptType : ScriptType)

/-- The size the fee is computed from: every participant is taken to have a
change output. -/
def estimatedVsize : ℕ :=
  txOverheadVbytes + (inputs.map fun inp => scriptInputVbytes inp.scriptType).sum +
    (inputs.length + inputs.length) * scriptOutputVbytes outputScriptType

/-- The fee each participant pays, rounded down. -/
def feeShare : ℕ := estimatedVsize inputs outputScriptType * feeRate / inputs.length

/-- The inputs in canonical order. -/
def orderedInputs : List ParticipantInput := sortByKey ParticipantInput.outpoint inputs

/-- The change output of an input, unless the change is dust. -/
def changeOutput (share : ℕ) (inp : ParticipantInput) : Option TxOut :=
  let change := inp.valueSats - denominationSats - share
  if dustThresholdSats ≤ change then some ⟨change, inp.changeAddress⟩ else none

/-- The transaction without signatures: the inputs, the denomination outputs,
and the change outputs in the order of the inputs. -/
def coinjoinTx (share : ℕ) (ordered : List ParticipantInput) : Transaction where
  version := 2
  lockTime := 0
  input := ordered.map fun inp => ⟨inp.outpoint, [], sequenceEnableRbfNoLocktime, []⟩
  output := (outputs.map fun out => ⟨denominationSats, out.scriptPubkey⟩) ++
    ordered.filterMap (changeOutput denominationSats share)

/-- The `witness_utxo` of an input. -/
def ParticipantInput.witnessUtxo (inp : ParticipantInput) : TxOut :=
  ⟨inp.valueSats, inp.scriptPubkey⟩

/-- Build the CoinJoin transaction. -/
def buildCoinjoinPsbt : Except TxError Psbt :=
  if inputs.isEmpty then .error .noParticipants
  else
    let ordered := orderedInputs inputs
    let share := feeShare inputs feeRate outputScriptType
    let required := denominationSats + share
    match inputs.find? fun inp => inp.valueSats < required with
    | some inp => .error (.insufficientFunds inp.valueSats required)
    | none =>
      match Psbt.fromUnsignedTx (coinjoinTx outputs denominationSats share ordered) with
      | .error e => .error (.psbt e)
      | .ok psbt => .ok { psbt with
          inputs := List.zipWith
            (fun inp input => { input with witnessUtxo := some inp.witnessUtxo })
            ordered psbt.inputs }

/-- The result of a successful build. -/
def coinjoinPsbt : Psbt where
  unsignedTx := coinjoinTx outputs denominationSats (feeShare inputs feeRate outputScriptType)
    (orderedInputs inputs)
  inputs := (orderedInputs inputs).map fun inp => { witnessUtxo := some inp.witnessUtxo }

/-- The inputs of the transaction carry no signature data, so they are accepted
as the inputs of an unsigned transaction. -/
theorem fromUnsignedTx_coinjoinTx (share : ℕ) (ordered : List ParticipantInput) :
    Psbt.fromUnsignedTx (coinjoinTx outputs denominationSats share ordered) =
      .ok { unsignedTx := coinjoinTx outputs denominationSats share ordered
            inputs := ordered.map fun _ => {} } := by
  simp [Psbt.fromUnsignedTx, coinjoinTx, Function.comp_def]

variable {inputs outputs denominationSats feeRate outputScriptType}

/-- **When a transaction is built, and which**: there is an input, and every
input covers the denomination and the fee share. -/
theorem buildCoinjoinPsbt_eq_ok {psbt : Psbt} :
    buildCoinjoinPsbt inputs outputs denominationSats feeRate outputScriptType = .ok psbt ↔
      inputs ≠ [] ∧
      (∀ inp ∈ inputs,
        denominationSats + feeShare inputs feeRate outputScriptType ≤ inp.valueSats) ∧
      psbt = coinjoinPsbt inputs outputs denominationSats feeRate outputScriptType := by
  have hzip : ∀ l : List ParticipantInput,
      List.zipWith (fun inp (input : PsbtInput) =>
        { input with witnessUtxo := some inp.witnessUtxo }) l (l.map fun _ => {}) =
      l.map fun inp => { witnessUtxo := some inp.witnessUtxo } := by
    intro l
    rw [List.zipWith_map_right, List.zipWith_self]
  by_cases hempty : inputs = []
  · simp [buildCoinjoinPsbt, hempty]
  · rw [buildCoinjoinPsbt, if_neg (by simpa using hempty)]
    simp only [fromUnsignedTx_coinjoinTx, hzip]
    split
    · next inp hfind =>
      have hmem := List.mem_of_find?_eq_some hfind
      have hsmall := List.find?_some hfind
      simp only [decide_eq_true_eq] at hsmall
      refine ⟨fun h => absurd h (by simp), fun ⟨_, hall, _⟩ => ?_⟩
      exact absurd (hall inp hmem) (by omega)
    · next hfind =>
      have hall : ∀ inp ∈ inputs,
          denominationSats + feeShare inputs feeRate outputScriptType ≤ inp.valueSats := by
        simpa using List.find?_eq_none.mp hfind
      simp only [Except.ok.injEq]
      exact ⟨fun h => ⟨hempty, hall, h.symm⟩, fun h => h.2.2.symm⟩

/-! ### Order of the inputs -/

theorem estimatedVsize_perm {inputs' : List ParticipantInput} (h : inputs.Perm inputs') :
    estimatedVsize inputs outputScriptType = estimatedVsize inputs' outputScriptType := by
  rw [estimatedVsize, estimatedVsize, (h.map _).sum_eq, h.length_eq]

theorem feeShare_perm {inputs' : List ParticipantInput} (h : inputs.Perm inputs') :
    feeShare inputs feeRate outputScriptType = feeShare inputs' feeRate outputScriptType := by
  rw [feeShare, feeShare, estimatedVsize_perm h, h.length_eq]

theorem coinjoinPsbt_perm {inputs' : List ParticipantInput} (h : inputs.Perm inputs')
    (hnd : (inputs.map ParticipantInput.outpoint).Nodup) :
    coinjoinPsbt inputs outputs denominationSats feeRate outputScriptType =
      coinjoinPsbt inputs' outputs denominationSats feeRate outputScriptType := by
  rw [coinjoinPsbt, coinjoinPsbt, feeShare_perm h, orderedInputs, orderedInputs,
    sortByKey_perm hnd h]

/-- **The transaction does not depend on the order of the inputs**, as long as
no outpoint occurs twice. -/
theorem buildCoinjoinPsbt_perm {inputs' : List ParticipantInput} (h : inputs.Perm inputs')
    (hnd : (inputs.map ParticipantInput.outpoint).Nodup) {psbt : Psbt} :
    buildCoinjoinPsbt inputs outputs denominationSats feeRate outputScriptType = .ok psbt ↔
      buildCoinjoinPsbt inputs' outputs denominationSats feeRate outputScriptType = .ok psbt := by
  rw [buildCoinjoinPsbt_eq_ok, buildCoinjoinPsbt_eq_ok, feeShare_perm h, coinjoinPsbt_perm h hnd]
  have hne : inputs = [] ↔ inputs' = [] :=
    ⟨fun he => (he ▸ h).nil_eq.symm, fun he => (he ▸ h).eq_nil⟩
  have hall : ∀ p : ParticipantInput → Prop, (∀ inp ∈ inputs, p inp) ↔ ∀ inp ∈ inputs', p inp :=
    fun p => ⟨fun hp inp hi => hp inp (h.mem_iff.mpr hi), fun hp inp hi => hp inp (h.mem_iff.mp hi)⟩
  rw [Ne, hne, hall]

/-- The inputs of the transaction are the given outpoints, in canonical order. -/
theorem input_coinjoinTx (share : ℕ) (ordered : List ParticipantInput) :
    (coinjoinTx outputs denominationSats share ordered).input.map TxIn.previousOutput =
      ordered.map ParticipantInput.outpoint := by
  simp [coinjoinTx, Function.comp_def]

end Build

end Blindjoin
