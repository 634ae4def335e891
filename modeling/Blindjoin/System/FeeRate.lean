import Mathlib.Algebra.Order.Floor.Div
import Mathlib.Tactic.Ring
import Blindjoin.Bitcoin.Weight
import Blindjoin.Coordinator.Accounting
import Blindjoin.System.Signatures

/-!
# The fee rate of the final transaction

The fee is computed before any witness is known, from a table of sizes, and is split
among the participants by floor division. The transaction that is broadcast has the
size it has.

The table allows every participant a weight for what they provide: the witness and the
change script, and the script of an output. What is left over in this budget has to
make up for two things that are not charged to anyone, the marker and the flag of a
transaction with witnesses and the sats the division drops
(`Blindjoin.WithinBudget`). Then the final transaction pays the configured rate; and
where nobody's change is dropped as dust, only then (`Blindjoin.fee_rate_met_iff`).

In the recorded session one signature has 72 bytes and the other 71, so the budget is
exceeded by a single unit of weight, and the fee is two sats short. With two signatures
of 71 bytes the session pays its rate.
-/

namespace Blindjoin

open Interleaving Collections

/-! ### The budget -/

/-- The witness submitted for an outpoint. -/
def submittedWitness (E : Externals) (sigs : HashMap String Bytes) (utxo : OutPoint) : Witness :=
  match sigs.lookup utxo.toText with
  | none => []
  | some sig => match E.deserializeWitness sig with
    | .ok witness => witness
    | .error _ => []

/-- The weight a witness adds: its own, and for a nested input that of the push of the
redeem script, which is there when the key has thirty-three bytes. -/
def witnessWeight (st : ScriptType) (witness : Witness) : ℕ :=
  (if st = .p2shP2wpkh ∧ witness[1]?.map List.length = some 33 then 92 else 0) +
    Witness.size witness

/-- The weight of an output that pays to a script. -/
def paidOutputWeight (script : Script) : ℕ := 4 * (8 + varBytesSize script)

/-- The weight the table of sizes has for the witness of an input of a type. -/
def witnessAllowance : ScriptType → ℕ
  | .p2wpkh => 108
  | .p2tr => 68
  | .p2shP2wpkh => 200

section Budget

variable (inputs : List ParticipantInput) (outputs : List ParticipantOutput) (feeRate : ℕ)
  (outputScriptType : ScriptType) (witnessOf : OutPoint → Witness)

/-- The weight of what the participants provide: the witnesses, the change scripts and
the scripts of the outputs. -/
def providedWeight : ℕ :=
  (inputs.map fun inp => witnessWeight inp.scriptType (witnessOf inp.outpoint) +
    paidOutputWeight inp.changeAddress).sum +
    (outputs.map fun out => paidOutputWeight out.scriptPubkey).sum

/-- The weight they are allowed: for each of them a witness of its type, and two outputs
of the output type of the round. -/
def allowedWeight : ℕ :=
  (inputs.map fun inp =>
    witnessAllowance inp.scriptType + 8 * scriptOutputVbytes outputScriptType).sum

/-- The virtual bytes the sats are worth that dividing the fee drops. -/
def droppedVbytes : ℕ :=
  (10 + (inputs.map fun inp => scriptInputVbytes inp.scriptType).sum) * feeRate %
    inputs.length ⌈/⌉ feeRate

/-- What the participants provide, the marker and the flag, and what the division drops
are within what the participants are allowed. -/
def WithinBudget : Prop :=
  providedWeight inputs outputs witnessOf + 2 + 4 * droppedVbytes inputs feeRate ≤
    allowedWeight inputs outputScriptType

instance : Decidable (WithinBudget inputs outputs feeRate outputScriptType witnessOf) :=
  inferInstanceAs (Decidable (_ ≤ _))

/-- The weight of the transaction with these witnesses: version, lock time, two counts
of a byte each, marker and flag are forty-two units. -/
def signedWeight (denominationSats : ℕ) : ℕ :=
  42 + (inputs.map fun inp => 164 + witnessWeight inp.scriptType (witnessOf inp.outpoint)).sum +
    (outputs.map fun out => paidOutputWeight out.scriptPubkey).sum +
    (inputs.map fun inp =>
      if paidChange inputs denominationSats feeRate outputScriptType inp then
        paidOutputWeight inp.changeAddress else 0).sum

variable {inputs outputs feeRate outputScriptType witnessOf} {denominationSats : ℕ}

/-! ### The budget and the size -/

/-- An entry of the table is what an input has without a witness, and the allowance for
its witness. -/
theorem four_mul_scriptInputVbytes (st : ScriptType) :
    4 * scriptInputVbytes st = 164 + witnessAllowance st := by
  cases st <;> rfl

/-- The estimate is the weight without anything provided, less marker and flag, and what
is allowed. -/
theorem four_mul_estimatedVsize (inputs : List ParticipantInput)
    (outputScriptType : ScriptType) :
    4 * estimatedVsize inputs outputScriptType =
      40 + 164 * inputs.length + allowedWeight inputs outputScriptType := by
  have heach : (inputs.map fun inp => 4 * scriptInputVbytes inp.scriptType) =
      inputs.map fun inp => 164 + witnessAllowance inp.scriptType :=
    List.map_congr_left fun inp _ => four_mul_scriptInputVbytes inp.scriptType
  rw [estimatedVsize, txOverheadVbytes, Nat.mul_add, Nat.mul_add, ← List.sum_map_mul_left, heach]
  simp only [allowedWeight, List.sum_map_add, List.map_const', List.sum_replicate, smul_eq_mul]
  ring

/-- The weight of the transaction is at most that of everything provided, and it is that
if everyone is paid change. -/
theorem signedWeight_le (inputs : List ParticipantInput) (outputs : List ParticipantOutput)
    (feeRate : ℕ) (outputScriptType : ScriptType) (witnessOf : OutPoint → Witness)
    (denominationSats : ℕ) :
    signedWeight inputs outputs feeRate outputScriptType witnessOf denominationSats ≤
      42 + 164 * inputs.length + providedWeight inputs outputs witnessOf ∧
    ((∀ inp ∈ inputs, paidChange inputs denominationSats feeRate outputScriptType inp) →
      signedWeight inputs outputs feeRate outputScriptType witnessOf denominationSats =
        42 + 164 * inputs.length + providedWeight inputs outputs witnessOf) := by
  simp only [signedWeight, providedWeight, List.sum_map_add, List.map_const', List.sum_replicate,
    smul_eq_mul]
  constructor
  · have hchange : (inputs.map fun inp =>
        if paidChange inputs denominationSats feeRate outputScriptType inp then
          paidOutputWeight inp.changeAddress else 0).sum ≤
        (inputs.map fun inp => paidOutputWeight inp.changeAddress).sum := by
      refine List.sum_le_sum fun inp _ => ?_
      split
      · exact le_rfl
      · exact Nat.zero_le _
    omega
  · intro hall
    have hchange : (inputs.map fun inp =>
        if paidChange inputs denominationSats feeRate outputScriptType inp then
          paidOutputWeight inp.changeAddress else 0) =
        inputs.map fun inp => paidOutputWeight inp.changeAddress :=
      List.map_congr_left fun inp hinp => if_pos (hall inp hinp)
    rw [hchange]
    omega

/-- If everyone is paid change, none is folded into the fee. -/
theorem foldedChange_eq_zero
    (h : ∀ inp ∈ inputs, paidChange inputs denominationSats feeRate outputScriptType inp) :
    foldedChange inputs denominationSats feeRate outputScriptType = 0 := by
  rw [foldedChange, List.map_congr_left fun inp hinp => if_pos (h inp hinp)]
  simp

/-- **What the division drops** is what is left of the size that is not the same for
everyone. -/
theorem estimatedVsize_mul_mod (inputs : List ParticipantInput) (feeRate : ℕ)
    (outputScriptType : ScriptType) :
    estimatedVsize inputs outputScriptType * feeRate % inputs.length =
      (10 + (inputs.map fun inp => scriptInputVbytes inp.scriptType).sum) * feeRate %
        inputs.length := by
  have hsplit : estimatedVsize inputs outputScriptType * feeRate =
      (10 + (inputs.map fun inp => scriptInputVbytes inp.scriptType).sum) * feeRate +
        inputs.length * (2 * scriptOutputVbytes outputScriptType * feeRate) := by
    rw [estimatedVsize, txOverheadVbytes]
    ring
  rw [hsplit, Nat.add_mul_mod_self_left]

/-- **The budget is kept exactly if the estimate covers the size**, at the configured
rate, of everything provided, and what the division drops. -/
theorem withinBudget_iff (hrate : 0 < feeRate) :
    WithinBudget inputs outputs feeRate outputScriptType witnessOf ↔
      feeRate * ((42 + 164 * inputs.length + providedWeight inputs outputs witnessOf + 3) / 4) +
        estimatedVsize inputs outputScriptType * feeRate % inputs.length ≤
      estimatedVsize inputs outputScriptType * feeRate := by
  have hest := four_mul_estimatedVsize inputs outputScriptType
  rw [WithinBudget, droppedVbytes, ← estimatedVsize_mul_mod inputs feeRate outputScriptType]
  generalize estimatedVsize inputs outputScriptType = vsize at hest ⊢
  generalize vsize * feeRate % inputs.length = dropped
  generalize hreal : (42 + 164 * inputs.length + providedWeight inputs outputs witnessOf + 3) / 4 =
    real
  have hceil : ∀ k, dropped ⌈/⌉ feeRate ≤ k ↔ dropped ≤ feeRate * k :=
    fun k => ceilDiv_le_iff_le_mul hrate
  constructor
  · intro hbudget
    have hle : real + dropped ⌈/⌉ feeRate ≤ vsize := by omega
    have hdropped := (hceil _).mp le_rfl
    calc feeRate * real + dropped
        ≤ feeRate * real + feeRate * (dropped ⌈/⌉ feeRate) := Nat.add_le_add_left hdropped _
      _ = feeRate * (real + dropped ⌈/⌉ feeRate) := (Nat.mul_add _ _ _).symm
      _ ≤ vsize * feeRate := by
        rw [Nat.mul_comm vsize]
        exact Nat.mul_le_mul_left _ hle
  · intro hcovers
    rw [Nat.mul_comm vsize] at hcovers
    have hle : real ≤ vsize :=
      Nat.le_of_mul_le_mul_left ((Nat.le_add_right _ _).trans hcovers) hrate
    have hdropped : dropped ⌈/⌉ feeRate ≤ vsize - real := by
      rw [hceil, Nat.mul_sub]
      omega
    omega

/-- **It is enough that everyone leaves a virtual byte unused**, of the allowance for the
witness and the change of an input, and that no output is larger than the table has it. -/
theorem withinBudget_of_each (hrate : 0 < feeRate) (hne : inputs ≠ [])
    (hlen : outputs.length = inputs.length)
    (hinputs : ∀ inp ∈ inputs, witnessWeight inp.scriptType (witnessOf inp.outpoint) +
      paidOutputWeight inp.changeAddress + 4 ≤
        witnessAllowance inp.scriptType + 4 * scriptOutputVbytes outputScriptType)
    (houtputs : ∀ out ∈ outputs,
      paidOutputWeight out.scriptPubkey ≤ 4 * scriptOutputVbytes outputScriptType) :
    WithinBudget inputs outputs feeRate outputScriptType witnessOf := by
  have hpos : 0 < inputs.length := List.length_pos_of_ne_nil hne
  have hprovided := List.sum_le_sum hinputs
  have hpaid : (outputs.map fun out => paidOutputWeight out.scriptPubkey).sum ≤
      inputs.length * (4 * scriptOutputVbytes outputScriptType) := by
    rw [← hlen]
    have hle := List.sum_le_card_nsmul (outputs.map fun out => paidOutputWeight out.scriptPubkey)
      (4 * scriptOutputVbytes outputScriptType) (by
        intro weight hweight
        obtain ⟨out, hout, rfl⟩ := List.mem_map.mp hweight
        exact houtputs out hout)
    simpa using hle
  -- the division drops fewer sats than there are participants
  have hdropped : droppedVbytes inputs feeRate ≤ inputs.length - 1 := by
    rw [droppedVbytes, ceilDiv_le_iff_le_mul hrate]
    have hlt := Nat.mod_lt ((10 + (inputs.map fun inp => scriptInputVbytes inp.scriptType).sum) *
      feeRate) hpos
    calc _ ≤ inputs.length - 1 := by omega
      _ ≤ feeRate * (inputs.length - 1) := Nat.le_mul_of_pos_left _ hrate
  rw [WithinBudget, providedWeight, allowedWeight]
  simp only [List.sum_map_add, List.map_const', List.sum_replicate, smul_eq_mul] at hprovided ⊢
  have hdouble : inputs.length * (8 * scriptOutputVbytes outputScriptType) =
      2 * (inputs.length * (4 * scriptOutputVbytes outputScriptType)) := by ring
  omega

end Budget

/-! ### The weight of the final transaction -/

section Final

variable {E : Externals} {config : CoordinatorConfig} {inner : RoundStateInner} {psbt : Psbt}
  {values : List RegisteredInput} {network : Network} {inputs : List ParticipantInput}
  {outputs : List ParticipantOutput} {tx : Transaction} {i : ℕ} {txin : TxIn}
  {reg : RegisteredInput} {sig : Bytes} {utxo : TxOut}

/-- An accepted witness is not empty. -/
theorem Controls.ne_nil {st : ScriptType} {witness : Witness} {spk : Script}
    (h : Controls E st witness spk) : witness ≠ [] := by
  rintro rfl
  cases st with
  | p2wpkh =>
    obtain ⟨sig, keyBytes, key, hw, -⟩ := h
    exact absurd hw (by simp)
  | p2tr => exact absurd h.1 (by simp)
  | p2shP2wpkh =>
    obtain ⟨sig, keyBytes, key, hw, -⟩ := h
    exact absurd hw (by simp)

theorem FinalInput.witness_ne_nil (h : FinalInput E psbt inner i txin reg sig utxo) :
    txin.witness ≠ [] := by
  obtain ⟨witness, utxo', hw, -, hcontrols⟩ := verifyInputSignature_eq_ok h.accepted
  obtain rfl : txin.witness = witness := Except.ok.inj (h.witness.symm.trans hw)
  exact hcontrols.ne_nil

/-- The witness of a final input is the one that was submitted. -/
theorem FinalInput.submittedWitness_eq (h : FinalInput E psbt inner i txin reg sig utxo) :
    submittedWitness E inner.partialSigs txin.previousOutput = txin.witness := by
  simp only [submittedWitness, h.submitted, h.witness]

/-- What a final input adds to the weight. -/
theorem FinalInput.inputWeight_eq (h : FinalInput E psbt inner i txin reg sig utxo) :
    Transaction.inputWeight txin = 164 + witnessWeight reg.scriptType
      (submittedWitness E inner.partialSigs txin.previousOutput) := by
  rw [h.submittedWitness_eq, Transaction.inputWeight, witnessWeight, TxIn.baseSize, varBytesSize]
  by_cases hst : reg.scriptType = .p2shP2wpkh
  · obtain ⟨sigElem, keyBytes, key, hpair, -, -, hscript⟩ := h.nested hst
    have hget : txin.witness[1]? = some keyBytes := by rw [hpair]; rfl
    rw [hget, hscript, nestedScriptSig]
    by_cases hlen : keyBytes.length = 33
    -- the push of the redeem script has twenty-three bytes
    · have hpush : (Script.pushSlice (Script.newP2wpkh (E.hash160 keyBytes))).length = 23 := by
        rw [Script.pushSlice, List.length_cons, Script.length_newP2wpkh]
      rw [if_pos hlen, if_pos ⟨hst, congrArg some hlen⟩, hpush, compactSize_of_lt (by omega)]
      omega
    · rw [if_neg hlen, if_neg fun hnested => hlen (Option.some.inj hnested.2), List.length_nil,
        compactSize_of_lt (by omega), Nat.zero_add]
  · rw [h.plain hst, if_neg fun hnested => hst hnested.1, List.length_nil,
      compactSize_of_lt (by omega), Nat.zero_add]

/-- The registered input that an input of the transaction comes from. -/
theorem Resolves.scriptType_eq (hres : Resolves E config inner values network inputs outputs)
    (hkeys : inner.KeysCanonical) (hvalues : values.Perm inner.registeredInputs.values)
    {inp : ParticipantInput} (hinp : inp ∈ inputs)
    (hreg : inner.registeredInputs.lookup inp.outpoint.toText = some reg) :
    inp.scriptType = reg.scriptType := by
  obtain ⟨reg', hreg', hbecomes⟩ := exists_of_mem_forall₂ hres.inputs hinp
  have hmem := hvalues.mem_iff.mp hreg'
  obtain ⟨utxoStr, hlookup⟩ := HashMap.mem_values.mp hmem
  obtain ⟨rfl, -⟩ := hkeys utxoStr reg' hlookup
  rw [hkeys.toText_outpoint hmem hbecomes, hlookup] at hreg
  obtain rfl := Option.some.inj hreg
  exact hbecomes.scriptType

variable {denominationSats feeRate : ℕ} {outputScriptType : ScriptType}

/-- What the inputs of the final transaction add to its weight. -/
theorem FinalTx.map_inputWeight
    (h : FinalTx E (coinjoinPsbt inputs outputs denominationSats feeRate outputScriptType) inner tx)
    (hres : Resolves E config inner values network inputs outputs)
    (hkeys : inner.KeysCanonical) (hvalues : values.Perm inner.registeredInputs.values) :
    tx.input.map Transaction.inputWeight = (orderedInputs inputs).map fun inp =>
      164 + witnessWeight inp.scriptType (submittedWitness E inner.partialSigs inp.outpoint) := by
  have houtpoints : tx.input.map TxIn.previousOutput =
      (orderedInputs inputs).map ParticipantInput.outpoint := by
    rw [h.outpoints, coinjoinPsbt, input_coinjoinTx]
  have hlen : tx.input.length = (orderedInputs inputs).length := by
    have hmap := congrArg List.length houtpoints
    rwa [List.length_map, List.length_map] at hmap
  refine List.ext_getElem (by rw [List.length_map, List.length_map, hlen]) fun i h₁ h₂ => ?_
  rw [List.length_map] at h₁ h₂
  rw [List.getElem_map, List.getElem_map]
  have hprev : tx.input[i].previousOutput = (orderedInputs inputs)[i].outpoint := by
    have hat := congrArg (fun l => l[i]?) houtpoints
    simpa [List.getElem?_eq_getElem h₁, List.getElem?_eq_getElem h₂] using hat
  obtain ⟨reg, sig, utxo, hfinal⟩ := h.inputs i _ (List.getElem?_eq_getElem h₁)
  have hmem : (orderedInputs inputs)[i] ∈ inputs :=
    (sortByKey_permutes _ inputs).mem_iff.mp (List.getElem_mem h₂)
  have hst := hres.scriptType_eq hkeys hvalues hmem (hprev ▸ hfinal.registered)
  rw [hfinal.inputWeight_eq, hprev, hst]

/-- **The weight of the final transaction**, from what was registered and
submitted. -/
theorem FinalTx.weight_eq
    (h : FinalTx E (coinjoinPsbt inputs outputs denominationSats feeRate outputScriptType) inner tx)
    (hres : Resolves E config inner values network inputs outputs)
    (hkeys : inner.KeysCanonical) (hvalues : values.Perm inner.registeredInputs.values)
    (hne : inputs ≠ []) (hlen : outputs.length = inputs.length) (hsmall : inputs.length ≤ 100) :
    tx.weight = signedWeight inputs outputs feeRate outputScriptType
      (submittedWitness E inner.partialSigs) denominationSats := by
  have hordered : (orderedInputs inputs).Perm inputs := sortByKey_permutes _ inputs
  have hinputs := h.map_inputWeight hres hkeys hvalues
  have hin : tx.input.length = inputs.length := by
    have hmap := congrArg List.length hinputs
    rwa [List.length_map, List.length_map, hordered.length_eq] at hmap
  have hsegwit : tx.usesSegwit = true := by
    have hpos : 0 < tx.input.length := hin ▸ List.length_pos_of_ne_nil hne
    obtain ⟨reg, sig, utxo, hfinal⟩ := h.inputs 0 _ (List.getElem?_eq_getElem hpos)
    rw [Transaction.usesSegwit, Bool.or_eq_true, List.any_eq_true]
    exact .inr ⟨_, List.getElem_mem hpos, by simpa using hfinal.witness_ne_nil⟩
  have houtput : tx.output = (outputs.map fun out => ⟨denominationSats, out.scriptPubkey⟩) ++
      (orderedInputs inputs).filterMap
        (changeOutput denominationSats (feeShare inputs feeRate outputScriptType)) := h.output
  have hcount : tx.output.length < 253 := by
    have hchange : ((orderedInputs inputs).filterMap (changeOutput denominationSats
        (feeShare inputs feeRate outputScriptType))).length ≤ inputs.length :=
      (List.length_filterMap_le _ _).trans hordered.length_eq.le
    rw [houtput, List.length_append, List.length_map]
    omega
  have hsizes : 4 * (tx.output.map TxOut.size).sum =
      (outputs.map fun out => paidOutputWeight out.scriptPubkey).sum +
      (inputs.map fun inp => if paidChange inputs denominationSats feeRate outputScriptType inp then
        paidOutputWeight inp.changeAddress else 0).sum := by
    rw [houtput, List.map_append, List.sum_append, Nat.mul_add, ← List.sum_map_mul_left,
      ← List.sum_map_mul_left, sum_map_changeOutput, List.map_map, (hordered.map _).sum_eq]
    rfl
  rw [Transaction.weight_eq hsegwit, hinputs, hin, (hordered.map _).sum_eq, hsizes,
    compactSize_of_lt (by omega), compactSize_of_lt hcount, signedWeight]
  omega

/-- **What the final transaction pays** is the estimate at the configured rate, less what
the division drops, and the change that is dropped as dust. -/
theorem FinalTx.fee_eq
    (h : FinalTx E (coinjoinPsbt inputs outputs denominationSats feeRate outputScriptType) inner tx)
    (hlen : outputs.length = inputs.length)
    (hfunds : ∀ inp ∈ inputs,
      denominationSats + feeShare inputs feeRate outputScriptType ≤ inp.valueSats) :
    (inputs.map ParticipantInput.valueSats).sum - (tx.output.map TxOut.value).sum +
        estimatedVsize inputs outputScriptType * feeRate % inputs.length =
      estimatedVsize inputs outputScriptType * feeRate +
        foldedChange inputs denominationSats feeRate outputScriptType := by
  have hsum := sum_inputs_eq hlen hfunds
  rw [← h.output] at hsum
  have hshare := Nat.div_add_mod (estimatedVsize inputs outputScriptType * feeRate) inputs.length
  rw [← feeShare] at hshare
  omega

/-- **A kept budget pays for the size**: the fee is the estimate, and that covers
everything provided. -/
theorem FinalTx.fee_rate_met
    (h : FinalTx E (coinjoinPsbt inputs outputs denominationSats feeRate outputScriptType) inner tx)
    (hlen : outputs.length = inputs.length)
    (hfunds : ∀ inp ∈ inputs,
      denominationSats + feeShare inputs feeRate outputScriptType ≤ inp.valueSats)
    (hrate : 0 < feeRate)
    (hweight : tx.weight = signedWeight inputs outputs feeRate outputScriptType
      (submittedWitness E inner.partialSigs) denominationSats)
    (hbudget : WithinBudget inputs outputs feeRate outputScriptType
      (submittedWitness E inner.partialSigs)) :
    feeRate * tx.vsize ≤
      (inputs.map ParticipantInput.valueSats).sum - (tx.output.map TxOut.value).sum := by
  have hestimate := (withinBudget_iff hrate).mp hbudget
  have hfee := h.fee_eq hlen hfunds
  obtain ⟨hle, -⟩ := signedWeight_le inputs outputs feeRate outputScriptType
    (submittedWitness E inner.partialSigs) denominationSats
  rw [← hweight] at hle
  have hvsize : feeRate * tx.vsize ≤ feeRate * ((42 + 164 * inputs.length +
      providedWeight inputs outputs (submittedWitness E inner.partialSigs) + 3) / 4) :=
    Nat.mul_le_mul_left _ (Nat.div_le_div_right (Nat.add_le_add_right hle 3))
  omega

/-- **Where everyone is paid change, only a kept budget does**: the fee is no more than the
estimate, and everything provided is in the transaction. -/
theorem FinalTx.withinBudget_of_fee_rate_met
    (h : FinalTx E (coinjoinPsbt inputs outputs denominationSats feeRate outputScriptType) inner tx)
    (hlen : outputs.length = inputs.length)
    (hchange : ∀ inp ∈ inputs, paidChange inputs denominationSats feeRate outputScriptType inp)
    (hfunds : ∀ inp ∈ inputs,
      denominationSats + feeShare inputs feeRate outputScriptType ≤ inp.valueSats)
    (hrate : 0 < feeRate)
    (hweight : tx.weight = signedWeight inputs outputs feeRate outputScriptType
      (submittedWitness E inner.partialSigs) denominationSats)
    (hmet : feeRate * tx.vsize ≤
      (inputs.map ParticipantInput.valueSats).sum - (tx.output.map TxOut.value).sum) :
    WithinBudget inputs outputs feeRate outputScriptType
      (submittedWitness E inner.partialSigs) := by
  have hfee := h.fee_eq hlen hfunds
  rw [foldedChange_eq_zero hchange] at hfee
  obtain ⟨-, heq⟩ := signedWeight_le inputs outputs feeRate outputScriptType
    (submittedWitness E inner.partialSigs) denominationSats
  rw [withinBudget_iff hrate, ← heq hchange, ← hweight]
  rw [Transaction.vsize] at hmet
  omega

end Final

/-! ### Every reachable round -/

section Reachable

variable {E : Externals} {config : CoordinatorConfig} {fresh : Uuid} {banList : BanList}
  {w : World Coordinator Task Event} {inner : RoundStateInner}

/-- **When the fee is enough**: whatever witnesses are accepted in a round, the final
transaction pays the configured rate on its real size if the participants keep the
budget; and if every coin covers the denomination, the estimated share and change that
is not dust, then only if they do. -/
theorem fee_rate_met_iff (hvalid : config.validate = .ok ()) (hextract : E.ExtractsSigned)
    (hr : Reachable (coordinator E config) (startup fresh banList) w)
    (hphase : w.shared.round.phase.holdsSigs = true) (hinner : w.shared.round.inner = some inner)
    {sigs : HashMap String Bytes}
    (hsigs : ({ inner with partialSigs := sigs } : RoundStateInner).SigsAccepted E config)
    {values : List RegisteredInput} (hvalues : values.Perm inner.registeredInputs.values)
    {roundIdStr : String} {tx : Transaction}
    (htx : assembleFinalTx E { inner with partialSigs := sigs } config roundIdStr values = .ok tx) :
    ∃ network inputs outputs, Resolves E config inner values network inputs outputs ∧
      (WithinBudget inputs outputs config.coordinator.feeRateSatPerVbyte
          config.bip.outputScriptType (submittedWitness E sigs) →
        config.coordinator.feeRateSatPerVbyte * tx.vsize ≤
          (values.map RegisteredInput.valueSats).sum - (tx.output.map TxOut.value).sum) ∧
      ((∀ reg ∈ values, ∃ share, (estimateFeeShare config.bip config.coordinator.minParticipants
            config.coordinator.feeRateSatPerVbyte : Res HttpError ℕ) = .ok share ∧
          config.coordinator.denominationSats + share + dustThresholdSats ≤ reg.valueSats) →
        config.coordinator.feeRateSatPerVbyte * tx.vsize ≤
          (values.map RegisteredInput.valueSats).sum - (tx.output.map TxOut.value).sum →
        WithinBudget inputs outputs config.coordinator.feeRateSatPerVbyte
          config.bip.outputScriptType (submittedWitness E sigs)) := by
  have hv := CoordinatorConfig.valid_of_validate hvalid
  have hrun := roundRun_of_reachable hr
  have hinv := (hrun.roundInv hv).inner inner hinner
  have hkeys : RoundStateInner.KeysCanonical { inner with partialSigs := sigs } := hinv.keys
  obtain ⟨psbt, _, hpsbt, -⟩ := input_of_assembleFinalTx hextract htx
  obtain ⟨network, inputs, outputs, hres, hbuild⟩ := hpsbt
  have hround : IsRoundPsbt E config { inner with partialSigs := sigs } values psbt :=
    ⟨network, inputs, outputs, hres, hbuild⟩
  have hfinal := finalTx_of_assembleFinalTx hextract hkeys hsigs hvalues
    (hround.perm hkeys hvalues hvalues) htx
  obtain ⟨hne, hfunds, rfl⟩ := buildCoinjoinPsbt_eq_ok.mp hbuild
  -- every participant has one input and one output
  have hcount : inputs.length = w.shared.round.participantCount := by
    rw [← hres.inputs.length_eq, hvalues.length_eq, HashMap.length_values, hinv.count_eq]
  have hlen : outputs.length = inputs.length := by
    rw [← hres.outputs.length_eq, hcount]
    exact (hrun.outputsInv hv inner hinner).complete hphase
  have hsmall : inputs.length ≤ 100 := by
    rw [hcount]
    exact hinv.le_max.trans (CoordinatorConfig.maxParticipants_le_of_validate hvalid)
  have hrate : 0 < config.coordinator.feeRateSatPerVbyte :=
    CoordinatorConfig.one_le_feeRate_of_validate hvalid
  have hweight := hfinal.weight_eq hres hkeys hvalues hne hlen hsmall
  have hvalue : (values.map RegisteredInput.valueSats).sum =
      (inputs.map ParticipantInput.valueSats).sum := by
    rw [map_eq_of_forall₂ hres.inputs fun reg _ inp h => h.value]
  have hres' : Resolves E config inner values network inputs outputs :=
    ⟨hres.parses, hres.inputs, hres.outputs⟩
  rw [hvalue]
  refine ⟨network, inputs, outputs, hres',
    hfinal.fee_rate_met hlen hfunds hrate hweight, fun hcovers hmet => ?_⟩
  -- nobody's change is dropped, because every coin covers more than the share it is charged
  have hchange : ∀ inp ∈ inputs, paidChange inputs config.coordinator.denominationSats
      config.coordinator.feeRateSatPerVbyte config.bip.outputScriptType inp := by
    intro inp hinp
    have hclosed := Phase.inputsClosed_of_holdsSigs hphase
    have hadm := hrun.allAdmitted inner hinner
    obtain ⟨reg, hreg, hbecomes, -⟩ := hres'.exists_admitted hadm hvalues inp hinp
    obtain ⟨share, hestimate, hcover⟩ := hcovers reg hreg
    have hshare := (hres'.feeShare_le hv hinv hclosed hadm hvalues).2 share hestimate
    have hworth := hbecomes.value
    rw [paidChange, leftover]
    omega
  exact hfinal.withinBudget_of_fee_rate_met hlen hchange hfunds hrate hweight hmet

end Reachable

/-! ### The recorded session -/

/-- The final transaction of the session is assembled in its broadcast state. -/
theorem session_assembled :
    ∃ inner, (worldAfter broadcastMoves).shared.round.inner = some inner ∧
      sessionValues.Perm inner.registeredInputs.values ∧
      assembleFinalTx session.externals inner configOfTwo firstRound.toText sessionValues =
        .ok finalTx := by
  have hbuilt : (worldAfter broadcastMoves).shared.round.buildPasses sessionValues
      (fun inner => assembleFinalTx session.externals inner configOfTwo firstRound.toText
        sessionValues)
      (fun tx => tx = finalTx) = true := by
    decide +kernel
  obtain ⟨inner, tx, hinner, hperm, htx, hfinal⟩ := RoundState.exists_of_buildPasses hbuilt
  obtain rfl := of_decide_eq_true hfinal
  exact ⟨inner, hinner, hperm, htx⟩

/-- **The session underpays**: its fee is 586 sats, and at 2 sats for each virtual
byte it should be 588. -/
theorem session_underpays :
    Reachable (coordinator session.externals configOfTwo) (startup firstRound .new)
        (worldAfter broadcastMoves) ∧
      (∃ inner, (worldAfter broadcastMoves).shared.round.inner = some inner ∧
        assembleFinalTx session.externals inner configOfTwo firstRound.toText sessionValues =
          .ok finalTx) ∧
      (sessionValues.map RegisteredInput.valueSats).sum - (finalTx.output.map TxOut.value).sum =
        586 ∧
      configOfTwo.coordinator.feeRateSatPerVbyte * finalTx.vsize = 588 := by
  obtain ⟨inner, hinner, -, htx⟩ := session_assembled
  exact ⟨worldAfter_reachable _, ⟨inner, hinner, htx⟩, by decide +kernel, by decide +kernel⟩

/-! ### A session with shorter signatures -/

/-- Another signature of the first participant for the joint transaction, of a byte less. -/
def shorterSig : Bytes := beWords [
    0x304402203465f3da6e7ca7573581c6482e8785bbea8fa381e2a9849f35ca2e2c,
    0xe5f22f6802206072004743cee197ba5494e5225631b71004de3ef30aaf4afa9b] ++
  beBytes 6 0xc1c77fe87723

/-- The session, in which the first participant submits it. -/
def shorterSession : Recording :=
  { session with
    base64Texts := encodeWitness [shorterSig ++ [0x01], firstKey] :: session.base64Texts
    witnesses := [[shorterSig ++ [0x01], firstKey], [secondSig ++ [0x01], secondKey]]
    signatures := [
      (beVector 32 0x0ceb489c77ed28059ef94337a7331e1d312889ea391886c3919ae9eb3f9a2dc5,
        shorterSig, firstKey),
      (beVector 32 0x28f26850bdc62ad5d9f48498dd08a40d9a139c91e837ed863766a4845b7dfffd,
        secondSig, secondKey)] }

/-- The submission of the first participant. -/
def shorterSign : SignRequest :=
  { firstSign with partialSignature := base64 (encodeWitness [shorterSig ++ [0x01], firstKey]) }

/-- The session up to broadcast. -/
def shorterRun : List Step × World Coordinator Task Event :=
  recorded shorterSession.externals configOfTwo
    (signingMoves ++ signMoves 5 shorterSign ++ signMoves 6 secondSign)

theorem shorterRun_reachable : Reachable (coordinator shorterSession.externals configOfTwo)
    (startup firstRound .new) shorterRun.2 := (recorded_ran _ _ _).reachable

/-- The final transaction. -/
def shorterTx : Transaction :=
  jointTx [shorterSig ++ [0x01], firstKey] [secondSig ++ [0x01], secondKey] (0x16 :: secondRedeem)

/-- The inputs and outputs of the session, read back. -/
def sessionInputs : List ParticipantInput := [
  ⟨secondCoin, 1030000, secondScript, secondChangeScript, .p2shP2wpkh⟩,
  ⟨firstCoin, 1020000, firstScript, firstChangeScript, .p2wpkh⟩]

def sessionOutputs : List ParticipantOutput := [⟨firstOutputScript⟩, ⟨secondOutputScript⟩]

theorem resolves_sessionInputs {inner : RoundStateInner}
    (h : inner.registeredOutputs =
      [⟨firstOutput.outputAddress, 1000000⟩, ⟨secondOutput.outputAddress, 1000000⟩]) :
    Resolves shorterSession.externals configOfTwo inner sessionValues .signet sessionInputs
      sessionOutputs where
  parses := rfl
  inputs := .cons ⟨by decide +kernel, rfl, rfl, rfl, rfl⟩
    (.cons ⟨by decide +kernel, rfl, rfl, rfl, rfl⟩ .nil)
  outputs := by
    rw [h]
    exact .cons rfl (.cons rfl .nil)

/-- The session with shorter signatures keeps the budget, and pays its rate. -/
theorem fee_rate_met_iff_session :
    ∃ inner, shorterRun.2.shared.round.inner = some inner ∧
      assembleFinalTx shorterSession.externals inner configOfTwo firstRound.toText sessionValues =
        .ok shorterTx ∧
      WithinBudget sessionInputs sessionOutputs 2 .p2wpkh
        (submittedWitness shorterSession.externals inner.partialSigs) ∧
      configOfTwo.coordinator.feeRateSatPerVbyte * shorterTx.vsize ≤
        (sessionValues.map RegisteredInput.valueSats).sum -
          (shorterTx.output.map TxOut.value).sum := by
  have hrun : shorterRun.2.shared.round.phase.holdsSigs = true ∧
      ∃ inner ∈ shorterRun.2.shared.round.inner,
        sessionValues.Perm inner.registeredInputs.values ∧
        inner.registeredOutputs =
          [⟨firstOutput.outputAddress, 1000000⟩, ⟨secondOutput.outputAddress, 1000000⟩] ∧
        (assembleFinalTx shorterSession.externals inner configOfTwo firstRound.toText
          sessionValues).toOption = some shorterTx ∧
        WithinBudget sessionInputs sessionOutputs 2 .p2wpkh
          (submittedWitness shorterSession.externals inner.partialSigs) := by
    decide +kernel
  obtain ⟨hphase, inner, hinner, hvalues, houtputs, htx, hbudget⟩ := hrun
  have hinner' := Option.mem_def.mp hinner
  have htx' := toOption_eq_some.mp htx
  have hsigs := (roundRun_of_reachable shorterRun_reachable).sigsAccepted
    (CoordinatorConfig.valid_of_validate configOfTwo_validate) inner hinner'
  obtain ⟨network, inputs, outputs, hres, hmet, -⟩ := fee_rate_met_iff configOfTwo_validate
    shorterSession.extractsSigned shorterRun_reachable hphase hinner' hsigs hvalues htx'
  obtain ⟨rfl, rfl, rfl⟩ := hres.unique (resolves_sessionInputs houtputs)
  exact ⟨inner, hinner', htx', hbudget, hmet hbudget⟩

end Blindjoin
