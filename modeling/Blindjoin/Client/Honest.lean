import Mathlib.Data.List.Perm.Basic
import Mathlib.Tactic.Ring
import Blindjoin.Client.Safety
import Blindjoin.Coordinator.Tx

/-!
# Honest rounds are signable

The coordinator builds the transaction of a round and the clients check it; the
two sides are written independently. They agree: in the transaction of a round of
participants who share no script, every participant finds its denomination output,
finds at least as many denomination outputs as there are participants, and
computes as its fee what its coin is worth beyond the denomination and the change
it is paid (`Blindjoin.honest_round_signable`). The fee is the fee share, or, when
the change was dust, less than `dustThresholdSats` more.

The amounts of the coordinator are exact here. In `u64` it builds the same
transaction under `Blindjoin.FitsU64` (`Blindjoin.buildCoinjoinPsbtU64_of_fitsU64`).
The sum the client takes of its outputs is already that of `u64`.
-/

namespace Blindjoin

open Collections

/-- A participant of a round: the input and the output it registered. -/
abbrev Participant := ParticipantInput × ParticipantOutput

namespace Participant

/-- Two participants have no script in common. -/
def Disjoint (p q : Participant) : Prop :=
  p.2.scriptPubkey ≠ q.2.scriptPubkey ∧ p.2.scriptPubkey ≠ q.1.changeAddress ∧
    p.1.changeAddress ≠ q.2.scriptPubkey ∧ p.1.changeAddress ≠ q.1.changeAddress

instance (p q : Participant) : Decidable (p.Disjoint q) :=
  inferInstanceAs (Decidable (_ ∧ _ ∧ _ ∧ _))

theorem Disjoint.symm {p q : Participant} (h : p.Disjoint q) : q.Disjoint p :=
  ⟨h.1.symm, h.2.2.1.symm, h.2.1.symm, h.2.2.2.symm⟩

/-- The change a participant is paid. -/
def emittedChange (denominationSats share : ℕ) (p : Participant) : ℕ :=
  ((changeOutput denominationSats share p.1).map TxOut.value).getD 0

/-- Whether an output pays to a script of the participant. -/
def owns (p : Participant) (o : TxOut) : Prop :=
  o.scriptPubkey = p.2.scriptPubkey ∨ o.scriptPubkey = p.1.changeAddress

instance (p : Participant) : DecidablePred p.owns := fun _ => inferInstanceAs (Decidable (_ ∨ _))

/-- What the outputs made for one participant pay to the scripts of another. -/
def paidBy (p : Participant) (denominationSats share : ℕ) (q : Participant) : ℕ :=
  (if p.owns ⟨denominationSats, q.2.scriptPubkey⟩ then denominationSats else 0) +
    (((changeOutput denominationSats share q.1).filter p.owns).map TxOut.value).getD 0

end Participant

section Honest

variable {participants : List Participant} {inputs : List ParticipantInput}
  {outputs : List ParticipantOutput} {denominationSats feeRate share : ℕ}
  {outputScriptType : ScriptType} {p q : Participant}

/-! ### The change -/

theorem changeOutput_eq (inp : ParticipantInput) :
    changeOutput denominationSats share inp =
      if dustThresholdSats ≤ inp.valueSats - denominationSats - share then
        some ⟨inp.valueSats - denominationSats - share, inp.changeAddress⟩ else none := rfl

/-- What a participant does not get back: its fee share, and change that is dust. -/
theorem Participant.fee_le (h : denominationSats + share ≤ p.1.valueSats) :
    denominationSats + p.emittedChange denominationSats share ≤ p.1.valueSats ∧
    p.1.valueSats - (denominationSats + p.emittedChange denominationSats share) ≤ share + 293 := by
  rw [Participant.emittedChange, changeOutput_eq]
  by_cases hdust : dustThresholdSats ≤ p.1.valueSats - denominationSats - share
  · simp only [if_pos hdust, Option.map_some, Option.getD_some]
    omega
  · have hsmall : p.1.valueSats - denominationSats - share < 294 := Nat.lt_of_not_le hdust
    simp only [if_neg hdust, Option.map_none, Option.getD_none]
    omega

/-! ### What a participant receives -/

theorem Participant.paidBy_self :
    p.paidBy denominationSats share p =
      denominationSats + p.emittedChange denominationSats share := by
  have hown : p.owns ⟨denominationSats, p.2.scriptPubkey⟩ := Or.inl rfl
  rw [Participant.paidBy, if_pos hown, Participant.emittedChange, changeOutput_eq]
  by_cases hdust : dustThresholdSats ≤ p.1.valueSats - denominationSats - share
  · have hchange : p.owns ⟨p.1.valueSats - denominationSats - share, p.1.changeAddress⟩ :=
      Or.inr rfl
    rw [if_pos hdust, Option.filter_some_pos (by simpa using hchange)]
  · rw [if_neg hdust]
    rfl

theorem Participant.paidBy_of_disjoint (h : p.Disjoint q) :
    p.paidBy denominationSats share q = 0 := by
  obtain ⟨hout, hchange, hout', hchange'⟩ := h
  have hne : ¬ p.owns ⟨denominationSats, q.2.scriptPubkey⟩ := by
    rintro (heq | heq)
    · exact hout heq.symm
    · exact hout' heq.symm
  have hne' : ∀ v, ¬ p.owns ⟨v, q.1.changeAddress⟩ := by
    rintro v (heq | heq)
    · exact hchange heq.symm
    · exact hchange' heq.symm
  rw [Participant.paidBy, if_neg hne, changeOutput_eq]
  by_cases hdust : dustThresholdSats ≤ q.1.valueSats - denominationSats - share
  · rw [if_pos hdust, Option.filter_some_neg (by simpa using hne' _)]
    rfl
  · rw [if_neg hdust]
    rfl

/-- What the outputs made for some participants pay to one of several participants
who share no script. -/
theorem sum_paidBy (h : participants.Pairwise Participant.Disjoint) (hp : p ∈ participants) :
    (participants.map (p.paidBy denominationSats share)).sum =
      denominationSats + p.emittedChange denominationSats share := by
  induction participants with
  | nil => exact absurd hp List.not_mem_nil
  | cons q participants ih =>
    obtain ⟨hhead, htail⟩ := List.pairwise_cons.mp h
    rw [List.map_cons, List.sum_cons]
    rcases List.mem_cons.mp hp with rfl | hmem
    · -- the other participants pay it nothing
      have hrest : (participants.map (p.paidBy denominationSats share)).sum = 0 := by
        rw [List.sum_eq_zero_iff]
        intro v hv
        obtain ⟨q, hq, rfl⟩ := List.mem_map.mp hv
        exact Participant.paidBy_of_disjoint (hhead q hq)
      rw [hrest, Participant.paidBy_self, Nat.add_zero]
    · rw [Participant.paidBy_of_disjoint (hhead p hmem).symm, ih htail hmem, Nat.zero_add]

/-- The sum of the outputs of a kind among those made for the elements of a list. -/
theorem sum_filter_filterMap {α : Type} (make : α → Option TxOut) (P : TxOut → Prop)
    [DecidablePred P] (l : List α) :
    (((l.filterMap make).filter fun o => P o).map TxOut.value).sum =
      (l.map fun a => (((make a).filter fun o => P o).map TxOut.value).getD 0).sum := by
  induction l with
  | nil => rfl
  | cons a l ih =>
    rw [List.filterMap_cons, List.map_cons, List.sum_cons, ← ih]
    cases make a with
    | none =>
      have hnone : ((Option.filter (fun o => P o) none).map TxOut.value).getD 0 = 0 := rfl
      rw [hnone, Nat.zero_add]
    | some o =>
      by_cases hP : P o
      · rw [Option.filter_some_pos (by simpa using hP), List.filter_cons_of_pos (by simpa using hP),
          List.map_cons, List.sum_cons, Option.map_some, Option.getD_some]
      · rw [Option.filter_some_neg (by simpa using hP), List.filter_cons_of_neg (by simpa using hP),
          Option.map_none, Option.getD_none, Nat.zero_add]

/-- The outputs of the transaction that pay to a participant, in sum. -/
theorem receivedSats_coinjoinPsbt (hin : inputs.Perm (participants.map Prod.fst))
    (hout : outputs.Perm (participants.map Prod.snd)) (p : Participant) :
    receivedSats (coinjoinPsbt inputs outputs denominationSats feeRate outputScriptType)
        p.2.scriptPubkey p.1.changeAddress =
      (participants.map
        (p.paidBy denominationSats (feeShare inputs feeRate outputScriptType))).sum := by
  have hordered : (orderedInputs inputs).Perm (participants.map Prod.fst) :=
    (sortByKey_permutes _ inputs).trans hin
  have hdenomination : (((outputs.map fun out =>
      (⟨denominationSats, out.scriptPubkey⟩ : TxOut)).filter fun o => p.owns o).map
        TxOut.value).sum =
      (participants.map fun q =>
        if p.owns ⟨denominationSats, q.2.scriptPubkey⟩ then denominationSats else 0).sum := by
    have hmake : (outputs.map fun out => (⟨denominationSats, out.scriptPubkey⟩ : TxOut)) =
        outputs.filterMap fun out => some ⟨denominationSats, out.scriptPubkey⟩ :=
      congrFun List.filterMap_eq_map'.symm outputs
    rw [hmake, sum_filter_filterMap, (hout.map _).sum_eq, List.map_map]
    congr 1
    refine List.map_congr_left fun q _ => ?_
    by_cases hown : p.owns ⟨denominationSats, q.2.scriptPubkey⟩
    · simp [Option.filter, hown]
    · simp [Option.filter, hown]
  have hchange : ((((orderedInputs inputs).filterMap
      (changeOutput denominationSats (feeShare inputs feeRate outputScriptType))).filter
        fun o => p.owns o).map TxOut.value).sum =
      (participants.map fun q => (((changeOutput denominationSats
        (feeShare inputs feeRate outputScriptType) q.1).filter fun o => p.owns o).map
          TxOut.value).getD 0).sum := by
    rw [sum_filter_filterMap, (hordered.map _).sum_eq, List.map_map]
    rfl
  have houtputs : (coinjoinPsbt inputs outputs denominationSats feeRate
      outputScriptType).unsignedTx.output =
      (outputs.map fun out => ⟨denominationSats, out.scriptPubkey⟩) ++
        (orderedInputs inputs).filterMap
          (changeOutput denominationSats (feeShare inputs feeRate outputScriptType)) := rfl
  have hsplit : (participants.map
      -- the registered outputs first, then the change, as in the transaction
      (p.paidBy denominationSats (feeShare inputs feeRate outputScriptType))).sum =
      (participants.map fun q =>
        if p.owns ⟨denominationSats, q.2.scriptPubkey⟩ then denominationSats else 0).sum +
      (participants.map fun q => (((changeOutput denominationSats
        (feeShare inputs feeRate outputScriptType) q.1).filter fun o => p.owns o).map
          TxOut.value).getD 0).sum := List.sum_map_add
  rw [hsplit, ← hdenomination, ← hchange, receivedSats, houtputs]
  simp only [List.filter_append, List.map_append, List.sum_append]
  rfl

/-! ### The checks of a participant -/

/-- There are as many denomination outputs as registered outputs at least, and no
more than there are outputs. -/
theorem denominationOutputs_coinjoinPsbt (inputs : List ParticipantInput)
    (outputs : List ParticipantOutput) (denominationSats feeRate : ℕ)
    (outputScriptType : ScriptType) :
    outputs.length ≤ ((coinjoinPsbt inputs outputs denominationSats feeRate
      outputScriptType).unsignedTx.output.filter fun o => o.value = denominationSats).length ∧
    ((coinjoinPsbt inputs outputs denominationSats feeRate
      outputScriptType).unsignedTx.output.filter fun o => o.value = denominationSats).length ≤
        outputs.length + inputs.length := by
  have hall : ((outputs.map fun out => (⟨denominationSats, out.scriptPubkey⟩ : TxOut)).filter
      fun o => o.value = denominationSats).length = outputs.length := by
    rw [List.filter_eq_self.mpr, List.length_map]
    intro o ho
    obtain ⟨out, -, rfl⟩ := List.mem_map.mp ho
    exact decide_eq_true rfl
  have hchange : ((((orderedInputs inputs).filterMap (changeOutput denominationSats
      (feeShare inputs feeRate outputScriptType))).filter
        fun o => o.value = denominationSats).length) ≤ inputs.length := by
    calc _ ≤ ((orderedInputs inputs).filterMap (changeOutput denominationSats
            (feeShare inputs feeRate outputScriptType))).length := List.length_filter_le _ _
      _ ≤ (orderedInputs inputs).length := List.length_filterMap_le _ _
      _ = inputs.length := (sortByKey_permutes _ inputs).length_eq
  have hlen : ((coinjoinPsbt inputs outputs denominationSats feeRate
      outputScriptType).unsignedTx.output.filter fun o => o.value = denominationSats).length =
      outputs.length + (((orderedInputs inputs).filterMap (changeOutput denominationSats
        (feeShare inputs feeRate outputScriptType))).filter
          fun o => o.value = denominationSats).length := by
    rw [← hall, ← List.length_append, ← List.filter_append]
    rfl
  rw [hlen]
  exact ⟨Nat.le_add_right _ _, Nat.add_le_add_left hchange _⟩

/-- The input of a participant in the transaction. -/
theorem exists_ownInput (hnd : (inputs.map ParticipantInput.outpoint).Nodup)
    {inp : ParticipantInput} (hmem : inp ∈ inputs) :
    ∃ idx, OwnInput (coinjoinPsbt inputs outputs denominationSats feeRate outputScriptType)
      inp.outpoint idx inp.witnessUtxo := by
  have hperm : (orderedInputs inputs).Perm inputs := sortByKey_permutes _ inputs
  have hnd' : ((orderedInputs inputs).map ParticipantInput.outpoint).Nodup :=
    ((hperm.map _).nodup_iff).mpr hnd
  obtain ⟨idx, hlt, hidx⟩ := List.mem_iff_getElem.mp (hperm.mem_iff.mpr hmem)
  have hprev : ∀ j : ℕ, ((coinjoinPsbt inputs outputs denominationSats feeRate
      outputScriptType).unsignedTx.input[j]?).map TxIn.previousOutput =
      ((orderedInputs inputs)[j]?).map ParticipantInput.outpoint := by
    intro j
    rw [← List.getElem?_map, ← List.getElem?_map, coinjoinPsbt, input_coinjoinTx]
  have hat : (orderedInputs inputs)[idx]? = some inp := by
    rw [List.getElem?_eq_getElem hlt, hidx]
  refine ⟨idx, by rw [hprev, hat]; rfl, fun j hj heq => ?_, ?_⟩
  · rw [hprev, ← List.getElem?_map] at heq
    have hat' : ((orderedInputs inputs).map ParticipantInput.outpoint)[idx]? =
        some inp.outpoint := by rw [List.getElem?_map, hat]; rfl
    -- no outpoint stands twice, so an earlier place cannot hold it
    have hsame := (List.getElem?_inj (by rw [List.length_map]; omega) hnd').mp (heq.trans hat'.symm)
    omega
  · have hinputs : (coinjoinPsbt inputs outputs denominationSats feeRate
        outputScriptType).inputs[idx]? = some { witnessUtxo := some inp.witnessUtxo } := by
      rw [coinjoinPsbt, List.getElem?_map, hat]
      rfl
    rw [hinputs]
    rfl

/-- **Every participant of an honest round signs**: when no two participants share
a script, every check of every participant passes, for an anonymity floor that is
no more than the number of participants and a cap that covers the fee share and
change that is dust; and the fee the client computes is what its coin is worth
beyond the denomination and the change it is paid. -/
theorem honest_round_signable {psbt : Psbt} (wallet : ClientWallet) (state : InputRegState)
    (minAnonymitySet : ℕ) (maxFeeSats : Option ℕ)
    (hbuild : buildCoinjoinPsbt inputs outputs denominationSats feeRate outputScriptType = .ok psbt)
    (hin : inputs.Perm (participants.map Prod.fst))
    (hout : outputs.Perm (participants.map Prod.snd))
    (hnd : (inputs.map ParticipantInput.outpoint).Nodup)
    (hlen : participants.length < 2 ^ 31)
    (hvalue : ∀ inp ∈ inputs, inp.valueSats < 2 ^ 64)
    (hscripts : participants.Pairwise Participant.Disjoint) (hp : p ∈ participants)
    (hcoin : wallet.utxoOutpoint = p.1.outpoint) (hchange : wallet.changeScript = p.1.changeAddress)
    (hscript : state.outputScript = p.2.scriptPubkey)
    (hdenomination : state.denominationSats = denominationSats)
    (hfloor : minAnonymitySet ≤ participants.length)
    (hcap : feeShare inputs feeRate outputScriptType + 293 ≤ feeCap state maxFeeSats) :
    verifyPsbt wallet state minAnonymitySet maxFeeSats psbt = .ok () ∧
    ∃ value, ownInputValue psbt wallet.utxoOutpoint = .ok value ∧
      ourReceivedValue psbt [state.outputScript, wallet.changeScript] ≤ value ∧
      value - ourReceivedValue psbt [state.outputScript, wallet.changeScript] =
        p.1.valueSats - denominationSats -
          p.emittedChange denominationSats (feeShare inputs feeRate outputScriptType) := by
  obtain ⟨-, hfunds, rfl⟩ := buildCoinjoinPsbt_eq_ok.mp hbuild
  have hinp : p.1 ∈ inputs := hin.mem_iff.mpr (List.mem_map_of_mem hp)
  obtain ⟨hle, hfee⟩ := Participant.fee_le (hfunds p.1 hinp)
  obtain ⟨idx, hinput⟩ : ∃ idx, OwnInput (coinjoinPsbt inputs outputs denominationSats feeRate
      outputScriptType) p.1.outpoint idx p.1.witnessUtxo := exists_ownInput hnd hinp
  have hreceived : ourReceivedValue (coinjoinPsbt inputs outputs denominationSats feeRate
      outputScriptType) [state.outputScript, wallet.changeScript] =
      denominationSats +
        p.emittedChange denominationSats (feeShare inputs feeRate outputScriptType) := by
    rw [ourReceivedValue_pair, hscript, hchange, receivedSats_coinjoinPsbt hin hout,
      sum_paidBy hscripts hp]
    exact Nat.mod_eq_of_lt (lt_of_le_of_lt hle (hvalue p.1 hinp))
  -- the sum does not wrap: it is at most what the coin is worth
  have hutxo : p.1.witnessUtxo.value = p.1.valueSats := rfl
  constructor
  · rw [verifyPsbt_eq_ok, hreceived, hdenomination, hscript, hcoin]
    refine ⟨?_, ?_, idx, p.1.witnessUtxo, hinput, by rwa [hutxo], ?_⟩
    · have hmem : p.2 ∈ outputs := hout.mem_iff.mpr (List.mem_map_of_mem hp)
      exact List.mem_append_left _ (List.mem_map_of_mem hmem)
    · have hcount := denominationOutputs_coinjoinPsbt inputs outputs denominationSats feeRate
        outputScriptType
      have hn : outputs.length = participants.length := by rw [hout.length_eq, List.length_map]
      have hm : inputs.length = participants.length := by rw [hin.length_eq, List.length_map]
      rw [Nat.mod_eq_of_lt (by omega)]
      omega
    · rw [hutxo]
      exact hfee.trans hcap
  · refine ⟨p.1.valueSats, ownInputValue_eq_ok.mpr ⟨idx, p.1.witnessUtxo, ?_, hutxo⟩, ?_, ?_⟩
    · rw [hcoin]
      exact hinput
    · rwa [hreceived]
    · rw [hreceived]
      omega

end Honest

/-- The participants of the session. -/
def sessionParticipants : List Participant :=
  [(⟨firstCoin, 1020000, firstScript, firstChangeScript, .p2wpkh⟩, ⟨firstOutputScript⟩),
    (⟨secondCoin, 1030000, secondScript, secondChangeScript, .p2shP2wpkh⟩, ⟨secondOutputScript⟩)]

/-- The first participant of the session signs, and computes a fee of 293 sats. -/
theorem honest_round_signable_session :
    verifyPsbt firstWallet firstState 2 none sessionPsbt = .ok () ∧
    ∃ value, ownInputValue sessionPsbt firstCoin = .ok value ∧
      value - ourReceivedValue sessionPsbt [firstOutputScript, firstChangeScript] = 293 := by
  have hbuild : buildCoinjoinPsbt (sessionParticipants.map Prod.fst)
      (sessionParticipants.map Prod.snd) 1000000 2 .p2wpkh = .ok sessionPsbt := by decide +kernel
  obtain ⟨hok, value, hvalue, -, hfee⟩ := honest_round_signable firstWallet firstState 2 none hbuild
    (List.Perm.refl _) (List.Perm.refl _) (by decide) (by decide) (by decide) (by decide)
    List.mem_cons_self rfl rfl rfl rfl (by decide) (by decide)
  exact ⟨hok, value, hvalue, hfee⟩

end Blindjoin
