import Blindjoin.Bitcoin.Dust
import Blindjoin.Coordinator.Accounting
import Blindjoin.System.Binding
import Blindjoin.System.Transaction

/-!
# Dust in the transaction of a round

Change below 294 sats, the threshold of P2WPKH, is folded into the fee. The change
address is the participant's choice, and the threshold of its script may be higher:
change between the two is paid out, and no node with the default settings relays the
transaction.

What a coin leaves is not known when it is registered, because the fee share is not.
But the share is at most the estimate for the smallest round, and at least
`Blindjoin.leastFeeShare`. So a registration whose change cannot fall between the two
thresholds is known when it is made (`Blindjoin.RequestsRelayedChange`), and **in every
run of such registrations no transaction has dust** (`Blindjoin.no_dust_of_reachable`).
The denomination outputs are never dust: a denomination is at least 546 sats.

The amounts are exact; the code computes them in `u64`, with the same results under
`Blindjoin.FitsU64`.
-/

namespace Blindjoin

open Interleaving Collections

/-- Every output of a transaction is worth what a node relays. -/
def NoDust (tx : Transaction) : Prop :=
  ∀ out ∈ tx.output, Script.relayDustThreshold out.scriptPubkey ≤ out.value

instance (tx : Transaction) : Decidable (NoDust tx) := inferInstanceAs (Decidable (∀ _ ∈ _, _))

/-- The least share of the fee: every input is of the smallest allowed script type, and
there are as many participants as a round may have. -/
def leastFeeShare (config : CoordinatorConfig) : ℕ :=
  ((config.bip.allowedSet.map scriptInputVbytes).min?.getD 0 +
      2 * scriptOutputVbytes config.bip.outputScriptType) * config.coordinator.feeRateSatPerVbyte +
    10 * config.coordinator.feeRateSatPerVbyte / config.coordinator.maxParticipants

/-- The change of a coin of some value to an address is relayed if it is paid: the
threshold of the script is no higher than the one change is compared with, or the coin
is worth so little that its change is always folded, or so much that its change always
reaches the threshold of the script. -/
def ChangeRelayed (E : Externals) (config : CoordinatorConfig) (changeAddress : String)
    (valueSats : ℕ) : Prop :=
  ∀ script share, ParsesTo E config changeAddress script →
    (estimateFeeShare config.bip config.coordinator.minParticipants
      config.coordinator.feeRateSatPerVbyte : Res HttpError ℕ) = .ok share →
    Script.relayDustThreshold script ≤ dustThresholdSats ∨
    valueSats < config.coordinator.denominationSats + leastFeeShare config + dustThresholdSats ∨
    config.coordinator.denominationSats + share + Script.relayDustThreshold script ≤ valueSats

/-- A validated registration that takes the write lock, and finds a round it can
register in, asks for change that is relayed if it is paid. -/
def RequestsRelayedChange (E : Externals) (config : CoordinatorConfig) (s : Coordinator) (t : Task)
    (_ : Choice) : Prop :=
  match t with
  | .postInput req (.validated utxo blindedToken _ _ details) =>
    Registrable E config s.round utxo blindedToken →
      ChangeRelayed E config req.changeAddress details.valueSats
  | _ => True

/-- The script of an address is one an address stands for. -/
def AddressScripts (E : Externals) : Prop :=
  ∀ text network script, E.addressToScript text network = .ok script → script.IsAddressScript

/-! ### The change and the fee share -/

section Build

variable {inputs : List ParticipantInput} {outputs : List ParticipantOutput}

/-- **Nobody is charged less than the least share**, when the script types are allowed
and the round has no more participants than it may. -/
theorem leastFeeShare_le {config : CoordinatorConfig} (hne : inputs ≠ [])
    (hmax : inputs.length ≤ config.coordinator.maxParticipants)
    (hallowed : ∀ inp ∈ inputs, config.bip.allows inp.scriptType = true) :
    leastFeeShare config ≤
      feeShare inputs config.coordinator.feeRateSatPerVbyte config.bip.outputScriptType := by
  have hpos : 0 < inputs.length := List.length_pos_of_ne_nil hne
  have hleast : ∀ inp ∈ inputs, (config.bip.allowedSet.map scriptInputVbytes).min?.getD 0 ≤
      scriptInputVbytes inp.scriptType := by
    intro inp hinp
    have hmem : scriptInputVbytes inp.scriptType ∈ config.bip.allowedSet.map scriptInputVbytes :=
      List.mem_map_of_mem (BipConfig.mem_allowedSet.mpr (hallowed inp hinp))
    cases hmin : (config.bip.allowedSet.map scriptInputVbytes).min? with
    | none => exact Nat.zero_le _
    | some least => exact (List.min?_eq_some_iff.mp hmin).2 _ hmem
  rw [leastFeeShare]
  generalize (config.bip.allowedSet.map scriptInputVbytes).min?.getD 0 = least at hleast ⊢
  generalize config.coordinator.feeRateSatPerVbyte = feeRate
  have hsum : inputs.length * least ≤
      (inputs.map fun inp => scriptInputVbytes inp.scriptType).sum := by
    have hle := List.card_nsmul_le_sum (inputs.map fun inp => scriptInputVbytes inp.scriptType)
      least (by
        intro v hv
        obtain ⟨inp, hinp, rfl⟩ := List.mem_map.mp hv
        exact hleast inp hinp)
    simpa using hle
  have hsize : 10 + (least + 2 * scriptOutputVbytes config.bip.outputScriptType) * inputs.length ≤
      estimatedVsize inputs config.bip.outputScriptType := by
    have hsplit : (least + 2 * scriptOutputVbytes config.bip.outputScriptType) * inputs.length =
        inputs.length * least +
          (inputs.length + inputs.length) * scriptOutputVbytes config.bip.outputScriptType := by
      ring
    rw [estimatedVsize, txOverheadVbytes, hsplit]
    omega
  have hsplit : (10 + (least + 2 * scriptOutputVbytes config.bip.outputScriptType) *
      inputs.length) * feeRate = 10 * feeRate +
        (least + 2 * scriptOutputVbytes config.bip.outputScriptType) * feeRate * inputs.length := by
    ring
  calc (least + 2 * scriptOutputVbytes config.bip.outputScriptType) * feeRate +
        10 * feeRate / config.coordinator.maxParticipants
      ≤ (least + 2 * scriptOutputVbytes config.bip.outputScriptType) * feeRate +
          10 * feeRate / inputs.length := Nat.add_le_add_left (Nat.div_le_div_left hmax hpos) _
    _ = (10 + (least + 2 * scriptOutputVbytes config.bip.outputScriptType) *
          inputs.length) * feeRate / inputs.length := by
        rw [hsplit, Nat.add_mul_div_right _ _ hpos, Nat.add_comm]
    _ ≤ feeShare inputs feeRate config.bip.outputScriptType :=
        Nat.div_le_div_right (Nat.mul_le_mul_right _ hsize)

variable {denominationSats feeRate : ℕ} {outputScriptType : ScriptType}

/-- **What makes dust**: the denomination outputs pay enough for the script of any
address, so the change decides. -/
theorem noDust_coinjoinPsbt (hdenom : 546 ≤ denominationSats)
    (houtputs : ∀ out ∈ outputs, out.scriptPubkey.IsAddressScript)
    (hchange : ∀ inp ∈ inputs, paidChange inputs denominationSats feeRate outputScriptType inp →
      Script.relayDustThreshold inp.changeAddress ≤
        leftover inputs denominationSats feeRate outputScriptType inp) :
    NoDust (coinjoinPsbt inputs outputs denominationSats feeRate outputScriptType).unsignedTx := by
  have hperm : (orderedInputs inputs).Perm inputs := sortByKey_permutes _ inputs
  intro out hout
  rcases List.mem_append.mp hout with hout | hout
  · obtain ⟨o, ho, rfl⟩ := List.mem_map.mp hout
    exact (Script.relayDustThreshold_le (houtputs o ho)).trans hdenom
  · obtain ⟨inp, hinp, hout⟩ := List.mem_filterMap.mp hout
    rw [changeOutput] at hout
    split at hout
    · next hpaid =>
      obtain rfl := Option.some.inj hout
      exact hchange inp (hperm.mem_iff.mp hinp) hpaid
    · exact absurd hout (by simp)

end Build

/-! ### Signing states -/

section Reachable

variable {E : Externals} {config : CoordinatorConfig} {fresh : Uuid} {banList : BanList}
  {w : World Coordinator Task Event}

/-- In a run that meets the condition, the change of every registration is relayed if it
is paid. -/
theorem changeRelayed_of_reachable
    (hr : ReachableVia (coordinator E config) (RequestsRelayedChange E config)
      (startup fresh banList) w) :
    ∀ r, .inputRegistered r ∈ roundEvents w.log →
      ChangeRelayed E config r.changeAddress r.details.valueSats := by
  refine registrations_of_reachable hr fun s c req snapshot r hok hreg _ haddress _ => ?_
  rw [haddress]
  exact hok hreg

/-- **Change that is paid is relayed**: the fee share is between the least one and the
estimate, so what the coin leaves is on one side of both thresholds. -/
theorem ChangeRelayed.le_leftover {inputs : List ParticipantInput} {reg : RegisteredInput}
    {inp : ParticipantInput} {network : Network} {share : ℕ}
    (h : ChangeRelayed E config reg.changeAddress reg.valueSats)
    (hnetwork : parseBitcoinNetwork config.network.bitcoinNetwork = .ok network)
    (hbecomes : reg.Becomes E network inp)
    (hshare : (estimateFeeShare config.bip config.coordinator.minParticipants
      config.coordinator.feeRateSatPerVbyte : Res HttpError ℕ) = .ok share)
    (hmost : feeShare inputs config.coordinator.feeRateSatPerVbyte config.bip.outputScriptType ≤
      share)
    (hleast : leastFeeShare config ≤
      feeShare inputs config.coordinator.feeRateSatPerVbyte config.bip.outputScriptType)
    (hpaid : paidChange inputs config.coordinator.denominationSats
      config.coordinator.feeRateSatPerVbyte config.bip.outputScriptType inp) :
    Script.relayDustThreshold inp.changeAddress ≤ leftover inputs
      config.coordinator.denominationSats config.coordinator.feeRateSatPerVbyte
      config.bip.outputScriptType inp := by
  have hvalue := hbecomes.value
  have hdust : 0 < dustThresholdSats := by decide
  rw [paidChange, leftover] at hpaid
  rw [leftover]
  rcases h _ share ⟨network, hnetwork, hbecomes.change⟩ hshare with hlow | hfolded | hcovers
  · exact hlow.trans hpaid
  · omega
  · omega

/-- **No transaction of a round has dust**, in every run in which the registrations ask
for change that is relayed if it is paid: the inner state of a signing round determines
its transaction, whatever order the inputs are iterated in, and every output is worth
what a node relays for its script. -/
theorem no_dust_of_reachable (haddresses : AddressScripts E) (hvalid : config.validate = .ok ())
    (hr : ReachableVia (coordinator E config) (RequestsRelayedChange E config)
      (startup fresh banList) w)
    (hphase : w.shared.round.phase = .signing) :
    ∃ inner, w.shared.round.inner = some inner ∧
      ∀ values : List RegisteredInput, values.Perm inner.registeredInputs.values →
        ∃ psbt, (∀ roundIdStr, buildCanonicalPsbt E inner config roundIdStr values = .ok psbt) ∧
          NoDust psbt.unsignedTx := by
  have hv := CoordinatorConfig.valid_of_validate hvalid
  have hrun := roundRun_of_reachable hr
  obtain ⟨inner, hinner, hinv, hround⟩ := hrun.signing hv hphase
  have hadm := hrun.allAdmitted inner hinner
  have hledger := hrun.ledger hv inner hinner
  refine ⟨inner, hinner, fun values hvalues => ?_⟩
  obtain ⟨network, inputs, outputs, hbuildable, -⟩ := hround values hvalues
  have hres := hbuildable.resolves
  refine ⟨_, fun _ => buildCanonicalPsbt_eq_ok.mpr hbuildable.isRoundPsbt, ?_⟩
  refine noDust_coinjoinPsbt (CoordinatorConfig.dust_le_denomination_of_validate hvalid) ?_ ?_
  · intro out hout
    obtain ⟨reg, -, hbecomes⟩ := exists_of_mem_forall₂ hres.outputs hout
    exact haddresses _ _ _ hbecomes
  · intro inp hinp hpaid
    obtain ⟨reg, hreg, hbecomes⟩ := exists_of_mem_forall₂ hres.inputs hinp
    -- the registration of this input met the condition when it was made
    obtain ⟨utxoStr, hlookup⟩ := HashMap.mem_values.mp (hvalues.mem_iff.mp hreg)
    obtain ⟨r, hmem, -, rfl⟩ := hledger.exists_registration hlookup
    have hrelayed : ChangeRelayed E config r.registered.changeAddress r.registered.valueSats :=
      changeRelayed_of_reachable hr r (mem_of_mem_currentEvents hmem)
    obtain ⟨share, hshare⟩ := exists_estimateFeeShare (ε := HttpError) hv.allowed
      config.coordinator.minParticipants config.coordinator.feeRateSatPerVbyte
    have hmost := (hres.feeShare_le hv hinv (by rw [hphase]; rfl) hadm hvalues).2 share hshare
    have hcount : inputs.length = w.shared.round.participantCount := by
      rw [← hres.inputs.length_eq, hvalues.length_eq, HashMap.length_values, hinv.count_eq]
    have hleast := leastFeeShare_le hbuildable.nonempty (hcount ▸ hinv.le_max) hbuildable.allowed
    exact hrelayed.le_leftover hres.parses hbecomes hshare hmost hleast hpaid

end Reachable

/-! ### The recorded session -/

/-- The addresses of a recording stand for what was recorded. -/
theorem Recording.addressScripts {R : Recording} (h : ∀ e ∈ R.addresses, e.2.IsAddressScript) :
    AddressScripts R.externals := by
  intro text network script hscript
  by_cases hnetwork : network = .signet
  · have hanswer : answer (R.addresses.map fun e => (e.1, Except.ok e.2)) (.error "base58 error")
        text = .ok script := (if_pos hnetwork).symm.trans hscript
    have hne : answer (R.addresses.map fun e => (e.1, Except.ok e.2)) (.error "base58 error")
        text ≠ .error "base58 error" := by
      rw [hanswer]
      simp
    have hmem := mem_of_answer_ne hne
    rw [hanswer] at hmem
    obtain ⟨e, he, heq⟩ := List.mem_map.mp hmem
    obtain ⟨-, hok⟩ := Prod.mk.inj heq
    obtain rfl := Except.ok.inj hok
    exact h e he
  · have hanswer : (Except.error "wrong network" : Except String Script) = .ok script :=
      (if_neg hnetwork).symm.trans hscript
    exact absurd hanswer (by simp)

/-! ### Change to a P2PKH address -/

/-- The address the first participant asks its change to be paid to. -/
def legacyChangeAddress : String := "mn1rQvxzH2mCkswwBdhgXZVc8R65pjduqE"

/-- Its script. -/
def legacyChangeScript : Script := beBytes 25 0x76a9144747e8746cddb33b0f7f95a90f89f89fb387cbb688ac

/-- The session, in which the address was recorded as well. -/
def legacySession : Recording :=
  { session with addresses := (legacyChangeAddress, legacyChangeScript) :: session.addresses }

/-- The first participant registers with this address. -/
def legacyInput : InputRegRequest := { firstInput with changeAddress := legacyChangeAddress }

/-- The session up to signing, with a value of the first coin. -/
def legacyMovesOf (value : String) : List Move :=
  startMoves firstKeys ++ inputMoves 1 legacyInput (unspentAnswer value firstScript) ++
    inputMoves 2 secondInput (unspentAnswer "0.01030000" secondScript) ++
    outputMoves 3 firstOutput ++ outputMoves 4 secondOutput

/-- The change of a registration is relayed: the estimate is 316 sats. -/
def requestsRelayed (_ : Coordinator) (t : Task) (_ : Choice) : Bool :=
  match t with
  | .postInput req (.validated _ _ _ _ details) =>
    match legacySession.externals.addressToScript req.changeAddress .signet with
    | .ok script => Script.relayDustThreshold script ≤ 294 ∨
        1000316 + Script.relayDustThreshold script ≤ details.valueSats
    | .error _ => false
  | _ => true

theorem requestsRelayed_sound {s : Coordinator} {t : Task} {c : Choice}
    (h : requestsRelayed s t c = true) :
    RequestsRelayedChange legacySession.externals configOfTwo s t c := by
  cases t with
  | postInput req stage =>
    cases stage with
    | validated utxo blindedToken proof snapshot details =>
      rintro - script share ⟨network, hnetwork, hscript⟩ hshare
      obtain rfl : Network.signet = network := Except.ok.inj hnetwork
      obtain rfl : 316 = share := Except.ok.inj hshare
      simp only [requestsRelayed, hscript] at h
      rcases of_decide_eq_true h with hlow | hcovers
      · exact Or.inl hlow
      · exact Or.inr (Or.inr hcovers)
    | _ => exact trivial
  | _ => exact trivial

/-- A coin that leaves enough for change to this address. -/
def legacyWorld : World Coordinator Task Event :=
  worldBy legacySession.externals configOfTwo (legacyMovesOf "0.01020000") requestsRelayed

theorem no_dust_of_reachable_legacy :
    ∃ inner, legacyWorld.shared.round.inner = some inner ∧
      ∀ values : List RegisteredInput, values.Perm inner.registeredInputs.values →
        ∃ psbt, (∀ roundIdStr, buildCanonicalPsbt legacySession.externals inner configOfTwo
            roundIdStr values = .ok psbt) ∧ NoDust psbt.unsignedTx := by
  have hr := (worldBy_reachableVia legacySession.externals configOfTwo
    (legacyMovesOf "0.01020000") requestsRelayed).mono fun _ _ _ => requestsRelayed_sound
  have haddresses : AddressScripts legacySession.externals :=
    Recording.addressScripts (by decide +kernel)
  have hphase : legacyWorld.shared.round.phase = .signing := by decide +kernel
  exact no_dust_of_reachable haddresses configOfTwo_validate hr hphase

/-- The first coin leaves 300 sats. -/
def legacyMoves : List Move := legacyMovesOf "0.01000593"

/-- The registered inputs, in the order they are iterated. -/
def legacyValues : List RegisteredInput :=
  [⟨secondCoin.toText, secondInput.changeAddress, secondScript, 1030000, .p2shP2wpkh⟩,
    ⟨firstCoin.toText, legacyChangeAddress, firstScript, 1000593, .p2wpkh⟩]

/-- The run these moves make. -/
def legacyRun : List Step × World Coordinator Task Event :=
  recorded legacySession.externals configOfTwo legacyMoves

/-- **A change address makes the transaction dust**: 300 sats are paid to a P2PKH
script, which takes 546. -/
theorem legacy_change_is_dust :
    configOfTwo.validate = .ok () ∧
    Reachable (coordinator legacySession.externals configOfTwo) (startup firstRound .new)
      legacyRun.2 ∧
    legacyRun.2.shared.round.phase = .signing ∧
    (∃ inner psbt, legacyRun.2.shared.round.inner = some inner ∧
      legacyValues.Perm inner.registeredInputs.values ∧
      buildCanonicalPsbt legacySession.externals inner configOfTwo firstRound.toText
        legacyValues = .ok psbt ∧
      (⟨300, legacyChangeScript⟩ : TxOut) ∈ psbt.unsignedTx.output ∧ ¬NoDust psbt.unsignedTx) ∧
    Script.relayDustThreshold legacyChangeScript = 546 := by
  have hrun : legacyRun.2.shared.round.phase = .signing ∧
      legacyRun.2.shared.round.buildPasses legacyValues
        (fun inner => buildCanonicalPsbt legacySession.externals inner configOfTwo
          firstRound.toText legacyValues)
        (fun psbt => ⟨300, legacyChangeScript⟩ ∈ psbt.unsignedTx.output) = true := by
    decide +kernel
  obtain ⟨hphase, hbuilt⟩ := hrun
  obtain ⟨inner, psbt, hinner, hperm, hpsbt, hout⟩ := RoundState.exists_of_buildPasses hbuilt
  have hthreshold : Script.relayDustThreshold legacyChangeScript = 546 := by decide
  have hmem := of_decide_eq_true hout
  refine ⟨configOfTwo_validate, (recorded_ran _ _ _).reachable, hphase,
    ⟨inner, psbt, hinner, hperm, hpsbt, hmem, fun hclean => ?_⟩, hthreshold⟩
  have hle : Script.relayDustThreshold legacyChangeScript ≤ 300 := hclean _ hmem
  rw [hthreshold] at hle
  exact absurd hle (by decide)

end Blindjoin
