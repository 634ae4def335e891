import Mathlib.Algebra.BigOperators.Ring.List
import Mathlib.Algebra.Group.Action.Defs
import Mathlib.Tactic.Ring
import Blindjoin.Coordinator.Tx

/-!
# Who pays what

The fee is split among the participants by floor division, and change that is
dust is folded into it. `Blindjoin.coinjoin_accounting` is the balance of the
transaction that `Blindjoin.buildCoinjoinPsbt` returns: what each participant
pays, what the transaction pays in all, and that its inputs, their previous
outputs and the change outputs follow one order of the participants
(`Blindjoin.Accounting`).
-/

namespace Blindjoin

open Collections

/-! ### Change -/

section Change

variable (inputs : List ParticipantInput) (denominationSats feeRate : ℕ)
  (outputScriptType : ScriptType)

/-- What an input is worth beyond the denomination and its fee share. -/
def leftover (inp : ParticipantInput) : ℕ :=
  inp.valueSats - denominationSats - feeShare inputs feeRate outputScriptType

/-- Whether an input is paid change. -/
def paidChange (inp : ParticipantInput) : Prop :=
  dustThresholdSats ≤ leftover inputs denominationSats feeRate outputScriptType inp

instance (inp : ParticipantInput) :
    Decidable (paidChange inputs denominationSats feeRate outputScriptType inp) :=
  inferInstanceAs (Decidable (_ ≤ _))

/-- The change that is dust, which is folded into the fee. -/
def foldedChange : ℕ :=
  (inputs.map fun inp =>
    if paidChange inputs denominationSats feeRate outputScriptType inp then 0
    else leftover inputs denominationSats feeRate outputScriptType inp).sum

end Change

/-! ### What the transaction pays -/

section Fee

variable {inputs : List ParticipantInput} {outputs : List ParticipantOutput}
  {denominationSats feeRate : ℕ} {outputScriptType : ScriptType}

/-- A sum over the emitted change outputs, by the inputs. -/
theorem sum_map_changeOutput (f : TxOut → ℕ) (l : List ParticipantInput) :
    ((l.filterMap (changeOutput denominationSats (feeShare inputs feeRate outputScriptType))).map
      f).sum =
    (l.map fun inp => if paidChange inputs denominationSats feeRate outputScriptType inp then
      f ⟨leftover inputs denominationSats feeRate outputScriptType inp, inp.changeAddress⟩
      else 0).sum := by
  induction l with
  | nil => rfl
  | cons inp l ih =>
    rw [List.filterMap_cons, List.map_cons, List.sum_cons, ← ih]
    by_cases hpaid : paidChange inputs denominationSats feeRate outputScriptType inp
    · have hchange : changeOutput denominationSats (feeShare inputs feeRate outputScriptType) inp =
          some ⟨leftover inputs denominationSats feeRate outputScriptType inp, inp.changeAddress⟩ :=
        if_pos hpaid
      rw [hchange, if_pos hpaid, List.map_cons, List.sum_cons]
    · have hchange : changeOutput denominationSats (feeShare inputs feeRate outputScriptType) inp =
          none := if_neg hpaid
      rw [hchange, if_neg hpaid, Nat.zero_add]

/-- **What the transaction pays in fees**: every participant its share, and the
change that is dust. -/
theorem sum_inputs_eq (hlen : outputs.length = inputs.length)
    (hfunds : ∀ inp ∈ inputs,
      denominationSats + feeShare inputs feeRate outputScriptType ≤ inp.valueSats) :
    (inputs.map ParticipantInput.valueSats).sum =
      ((coinjoinPsbt inputs outputs denominationSats feeRate outputScriptType).unsignedTx.output.map
        TxOut.value).sum + inputs.length * feeShare inputs feeRate outputScriptType +
        foldedChange inputs denominationSats feeRate outputScriptType := by
  have hpayments : ((outputs.map fun out => (⟨denominationSats, out.scriptPubkey⟩ : TxOut)).map
      TxOut.value).sum = inputs.length * denominationSats := by
    rw [List.map_map, ← hlen, ← smul_eq_mul, ← List.sum_replicate, ← List.map_const']
    rfl
  have hemitted : (((orderedInputs inputs).filterMap (changeOutput denominationSats
      (feeShare inputs feeRate outputScriptType))).map TxOut.value).sum =
      (inputs.map fun inp => if paidChange inputs denominationSats feeRate outputScriptType inp then
        leftover inputs denominationSats feeRate outputScriptType inp else 0).sum := by
    have hordered : (orderedInputs inputs).Perm inputs := sortByKey_permutes _ inputs
    rw [sum_map_changeOutput, (hordered.map _).sum_eq]
  have houtput : ((coinjoinPsbt inputs outputs denominationSats feeRate
      outputScriptType).unsignedTx.output.map TxOut.value).sum =
      inputs.length * denominationSats + (inputs.map fun inp =>
        if paidChange inputs denominationSats feeRate outputScriptType inp then
          leftover inputs denominationSats feeRate outputScriptType inp else 0).sum := by
    rw [← hpayments, ← hemitted, ← List.sum_append, ← List.map_append]
    rfl
  -- each input is worth the denomination, its share, and what is left, paid or folded
  have heach : ∀ inp ∈ inputs, inp.valueSats =
      denominationSats + feeShare inputs feeRate outputScriptType +
        ((if paidChange inputs denominationSats feeRate outputScriptType inp then
          leftover inputs denominationSats feeRate outputScriptType inp else 0) +
        (if paidChange inputs denominationSats feeRate outputScriptType inp then 0
          else leftover inputs denominationSats feeRate outputScriptType inp)) := by
    intro inp hinp
    have hle := hfunds inp hinp
    have hleft : leftover inputs denominationSats feeRate outputScriptType inp =
        inp.valueSats - denominationSats - feeShare inputs feeRate outputScriptType := rfl
    by_cases hpaid : paidChange inputs denominationSats feeRate outputScriptType inp
    · rw [if_pos hpaid, if_pos hpaid]
      omega
    · rw [if_neg hpaid, if_neg hpaid]
      omega
  rw [houtput, List.map_congr_left heach]
  simp only [List.sum_map_add, List.map_const', List.sum_replicate, smul_eq_mul, foldedChange]
  ring

/-! ### The balance of the transaction -/

/-- What a participant pays, given its change output: what it brings, less the
denomination and the change. -/
def paidFee (denominationSats : ℕ) (inp : ParticipantInput) (change : Option TxOut) : ℕ :=
  inp.valueSats - denominationSats - (change.map TxOut.value).getD 0

/-- The account of a participant: it pays the share and is given the rest back,
unless the rest is dust, which it then pays as well. -/
structure Settled (denominationSats share : ℕ) (inp : ParticipantInput)
    (change : Option TxOut) : Prop where
  covers : denominationSats + share ≤ inp.valueSats
  withChange : 294 ≤ inp.valueSats - denominationSats - share →
    change = some ⟨inp.valueSats - denominationSats - share, inp.changeAddress⟩ ∧
      paidFee denominationSats inp change = share
  withoutChange : inp.valueSats - denominationSats - share < 294 →
    change = none ∧ paidFee denominationSats inp change = inp.valueSats - denominationSats ∧
      inp.valueSats - denominationSats < share + 294

/-- The parts of the transaction follow one order of the participants, and each of
them has the account `change` says. -/
structure Aligned (inputs : List ParticipantInput) (outputs : List ParticipantOutput)
    (denominationSats share : ℕ) (psbt : Psbt) (ordered : List ParticipantInput)
    (change : ParticipantInput → Option TxOut) : Prop where
  perm : ordered.Perm inputs
  increasing : (ordered.map ParticipantInput.outpoint).Pairwise (· < ·)
  input : psbt.unsignedTx.input.map TxIn.previousOutput = ordered.map ParticipantInput.outpoint
  witnessUtxo : psbt.inputs.map PsbtInput.witnessUtxo =
    ordered.map fun inp => some ⟨inp.valueSats, inp.scriptPubkey⟩
  denominations : psbt.unsignedTx.output.take inputs.length =
    outputs.map fun out => ⟨denominationSats, out.scriptPubkey⟩
  changeOutputs : psbt.unsignedTx.output.drop inputs.length = ordered.filterMap change
  settled : ∀ inp ∈ inputs, Settled denominationSats share inp (change inp)

/-- The balance of a transaction that was built for a total fee. -/
structure Accounting (inputs : List ParticipantInput) (outputs : List ParticipantOutput)
    (denominationSats totalFee share : ℕ) (psbt : Psbt) : Prop where
  aligned : ∃ ordered change, Aligned inputs outputs denominationSats share psbt ordered change
  le_total : (psbt.unsignedTx.output.map TxOut.value).sum ≤
    (inputs.map ParticipantInput.valueSats).sum
  total : (inputs.map ParticipantInput.valueSats).sum -
      (psbt.unsignedTx.output.map TxOut.value).sum =
    inputs.length * share + (inputs.map fun inp =>
      if 294 ≤ inp.valueSats - denominationSats - share then 0
      else inp.valueSats - denominationSats - share).sum
  share_le : inputs.length * share ≤ totalFee
  lt_share : totalFee < inputs.length * share + inputs.length

/-- **Each participant is settled by its change output.** -/
theorem settled_changeOutput {share : ℕ} {inp : ParticipantInput}
    (h : denominationSats + share ≤ inp.valueSats) :
    Settled denominationSats share inp (changeOutput denominationSats share inp) := by
  have hdust : dustThresholdSats = 294 := rfl
  refine ⟨h, ?_, ?_⟩
  · intro hpaid
    have hchange : changeOutput denominationSats share inp =
        some ⟨inp.valueSats - denominationSats - share, inp.changeAddress⟩ := if_pos hpaid
    rw [hchange]
    refine ⟨rfl, ?_⟩
    have hfee : paidFee denominationSats inp
        (some ⟨inp.valueSats - denominationSats - share, inp.changeAddress⟩) =
        inp.valueSats - denominationSats - (inp.valueSats - denominationSats - share) := rfl
    omega
  · intro hsmall
    have hchange : changeOutput denominationSats share inp = none := by
      refine if_neg ?_
      omega
    rw [hchange]
    have hfee : paidFee denominationSats inp none = inp.valueSats - denominationSats - 0 := rfl
    refine ⟨rfl, ?_, ?_⟩
    · omega
    · omega

/-- The canonical order is strict, as no outpoint occurs twice. -/
theorem pairwise_lt_orderedInputs (hnd : (inputs.map ParticipantInput.outpoint).Nodup) :
    ((orderedInputs inputs).map ParticipantInput.outpoint).Pairwise (· < ·) := by
  have hperm : (orderedInputs inputs).Perm inputs := sortByKey_permutes _ inputs
  have hle : ((orderedInputs inputs).map ParticipantInput.outpoint).Pairwise (· ≤ ·) := by
    rw [List.pairwise_map]
    exact sortByKey_pairwise _ inputs
  have hnd' : ((orderedInputs inputs).map ParticipantInput.outpoint).Nodup :=
    ((hperm.map _).nodup_iff).mpr hnd
  exact (hle.and hnd').imp fun h => lt_of_le_of_ne h.1 h.2

/-- **The transaction that is built is aligned.** -/
theorem aligned_coinjoinPsbt (hnd : (inputs.map ParticipantInput.outpoint).Nodup)
    (hlen : outputs.length = inputs.length)
    (hfunds : ∀ inp ∈ inputs,
      denominationSats + feeShare inputs feeRate outputScriptType ≤ inp.valueSats) :
    Aligned inputs outputs denominationSats (feeShare inputs feeRate outputScriptType)
      (coinjoinPsbt inputs outputs denominationSats feeRate outputScriptType)
      (orderedInputs inputs)
      (changeOutput denominationSats (feeShare inputs feeRate outputScriptType)) where
  perm := sortByKey_permutes _ inputs
  increasing := pairwise_lt_orderedInputs hnd
  input := input_coinjoinTx _ _
  witnessUtxo := by
    rw [coinjoinPsbt, List.map_map]
    rfl
  denominations := by
    rw [coinjoinPsbt, coinjoinTx, ← hlen]
    exact List.take_left' (by rw [List.length_map])
  changeOutputs := by
    rw [coinjoinPsbt, coinjoinTx, ← hlen]
    exact List.drop_left' (by rw [List.length_map])
  settled := by
    intro inp hinp
    exact settled_changeOutput (hfunds inp hinp)

/-- **The balance of the transaction, and when there is none.** -/
theorem coinjoin_accounting (hne : inputs ≠ [])
    (hnd : (inputs.map ParticipantInput.outpoint).Nodup)
    (hlen : outputs.length = inputs.length) :
    (∀ psbt, buildCoinjoinPsbt inputs outputs denominationSats feeRate outputScriptType = .ok psbt →
      Accounting inputs outputs denominationSats (estimatedVsize inputs outputScriptType * feeRate)
        (estimatedVsize inputs outputScriptType * feeRate / inputs.length) psbt) ∧
    ((∃ e, buildCoinjoinPsbt inputs outputs denominationSats feeRate outputScriptType = .error e) ↔
      ∃ inp ∈ inputs, inp.valueSats <
        denominationSats + estimatedVsize inputs outputScriptType * feeRate / inputs.length) := by
  have hpos : 0 < inputs.length := List.length_pos_of_ne_nil hne
  constructor
  · intro psbt hbuild
    obtain ⟨-, hfunds, rfl⟩ := buildCoinjoinPsbt_eq_ok.mp hbuild
    have htotal := sum_inputs_eq hlen hfunds
    refine ⟨⟨_, _, aligned_coinjoinPsbt hnd hlen hfunds⟩, by omega, ?_, ?_, ?_⟩
    · rw [htotal, Nat.add_assoc, Nat.add_sub_cancel_left]
      rfl
    · exact Nat.mul_div_le _ _
    · have hmod := Nat.div_add_mod (estimatedVsize inputs outputScriptType * feeRate)
        inputs.length
      have hlt := Nat.mod_lt (estimatedVsize inputs outputScriptType * feeRate) hpos
      omega
  · constructor
    · rintro ⟨e, herror⟩
      by_contra hnone
      have hfunds : ∀ inp ∈ inputs,
          denominationSats + feeShare inputs feeRate outputScriptType ≤ inp.valueSats := by
        intro inp hinp
        by_contra hsmall
        exact hnone ⟨inp, hinp, Nat.lt_of_not_le hsmall⟩
      have hok : buildCoinjoinPsbt inputs outputs denominationSats feeRate outputScriptType =
          .ok (coinjoinPsbt inputs outputs denominationSats feeRate outputScriptType) :=
        buildCoinjoinPsbt_eq_ok.mpr ⟨hne, hfunds, rfl⟩
      rw [herror] at hok
      exact absurd hok (by simp)
    · rintro ⟨inp, hinp, hsmall⟩
      cases hbuild : buildCoinjoinPsbt inputs outputs denominationSats feeRate outputScriptType with
      | error e => exact ⟨e, rfl⟩
      | ok psbt =>
        have hle := (buildCoinjoinPsbt_eq_ok.mp hbuild).2.1 inp hinp
        exact absurd hsmall (Nat.not_lt.mpr hle)

end Fee

/-- Two inputs in decreasing order, one of which leaves change that is dust. -/
def unsortedInputs : List ParticipantInput := [
  ⟨⟨⟨List.Vector.replicate 32 0x22⟩, 1⟩, 1030000, 0x00 :: 0x14 :: List.replicate 20 0x02,
    0x00 :: 0x14 :: List.replicate 20 0x12, .p2wpkh⟩,
  ⟨⟨⟨List.Vector.replicate 32 0x11⟩, 0⟩, 1000400, 0x00 :: 0x14 :: List.replicate 20 0x01,
    0x00 :: 0x14 :: List.replicate 20 0x11, .p2wpkh⟩]

/-- Two outputs. -/
def pairOfOutputs : List ParticipantOutput := [
  ⟨0x00 :: 0x14 :: List.replicate 20 0x21⟩, ⟨0x00 :: 0x14 :: List.replicate 20 0x22⟩]

theorem coinjoin_accounting_unsortedInputs :
    (∀ psbt, buildCoinjoinPsbt unsortedInputs pairOfOutputs 1000000 2 .p2wpkh = .ok psbt →
      Accounting unsortedInputs pairOfOutputs 1000000 (estimatedVsize unsortedInputs .p2wpkh * 2)
        (estimatedVsize unsortedInputs .p2wpkh * 2 / unsortedInputs.length) psbt) ∧
    ((∃ e, buildCoinjoinPsbt unsortedInputs pairOfOutputs 1000000 2 .p2wpkh = .error e) ↔
      ∃ inp ∈ unsortedInputs, inp.valueSats <
        1000000 + estimatedVsize unsortedInputs .p2wpkh * 2 / unsortedInputs.length) :=
  coinjoin_accounting (by decide) (by decide) (by decide)

end Blindjoin
