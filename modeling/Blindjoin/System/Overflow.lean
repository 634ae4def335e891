import Blindjoin.Coordinator.Fee
import Blindjoin.Coordinator.Utxo
import Blindjoin.Round.Broadcast
import Blindjoin.Shared.MachineInt
import Blindjoin.System.Recorded

/-!
# Amounts and times in sixty-four bits

The rounds of this development compute in natural numbers. Here the same functions
are written over the arithmetic of the machine: the fee estimate, the value check
of a registration, the CoinJoin transaction, the fee shown to a participant, the
bans and the pause. Where nothing overflows they are the functions of the other
modules.

The check of the configuration bounds the number of participants, but neither the
fee rate nor the two durations. `Blindjoin.FitsU64` is what it would have to
check, for a clock that reads `now`: **nothing overflows exactly then**
(`Blindjoin.u64Safe_iff`).
-/

namespace Blindjoin

open Collections

/-! ### Over the arithmetic of the machine -/

section Machine

variable {ε : Type} (b : Build)

/-- `estimate_fee_share`. -/
def estimateFeeShareU64 (bip : BipConfig) (n feeRate : ℕ) : Res ε ℕ :=
  if n = 0 then .ok 0
  else do
    let worstInputVb ← expect "BipConfig::validate ensures at least one allow_* flag is true"
      (bip.allowedSet.map scriptInputVbytes).max?
    let outputVb := scriptOutputVbytes bip.outputScriptType
    let inputsVb ← b.mul worstInputVb n
    let withInputs ← b.add 10 inputsVb
    let twoOutputsVb ← b.mul outputVb 2
    let outputsVb ← b.mul twoOutputsVb n
    let estimatedVsize ← b.add withInputs outputsVb
    let totalFee ← b.mul estimatedVsize feeRate
    pure (totalFee / n)

/-- The value check of `validate_utxo`. -/
def checkValueU64 (denominationSats feeShareSats valueSats : ℕ) : Res UtxoError Unit := do
  let required ← b.add denominationSats feeShareSats
  require (required ≤ valueSats) (.err (.insufficientValue valueSats required))

/-- What a registration charges, and its value check: the share is that of the
smallest round. -/
def registrationGateU64 (config : CoordinatorConfig) (valueSats : ℕ) : Res UtxoError Unit := do
  let feeShare ← estimateFeeShareU64 b config.bip config.coordinator.minParticipants
    config.coordinator.feeRateSatPerVbyte
  checkValueU64 b config.coordinator.denominationSats feeShare valueSats

/-- The check of `build_coinjoin_psbt` on an input. -/
def checkFundsU64 (denominationSats share : ℕ) (inp : ParticipantInput) : Res TxError Unit := do
  let required ← b.add denominationSats share
  require (required ≤ inp.valueSats) (.err (.insufficientFunds inp.valueSats required))

/-- The change output of an input. -/
def changeOutputU64 (denominationSats share : ℕ) (inp : ParticipantInput) :
    Res TxError (Option TxOut) := do
  let rest ← b.sub inp.valueSats denominationSats
  let change ← b.sub rest share
  pure (if dustThresholdSats ≤ change then some ⟨change, inp.changeAddress⟩ else none)

/-- `build_coinjoin_psbt`. -/
def buildCoinjoinPsbtU64 (inputs : List ParticipantInput) (outputs : List ParticipantOutput)
    (denominationSats feeRate : ℕ) (outputScriptType : ScriptType) : Res TxError Psbt :=
  if inputs.isEmpty then fail .noParticipants
  else do
    let ordered := orderedInputs inputs
    let totalInputVb ← b.sum (inputs.map fun inp => scriptInputVbytes inp.scriptType)
    let withInputs ← b.add txOverheadVbytes totalInputVb
    let outputCount ← b.add inputs.length inputs.length
    let outputsVb ← b.mul outputCount (scriptOutputVbytes outputScriptType)
    let vsize ← b.add withInputs outputsVb
    let totalFee ← b.mul vsize feeRate
    let share := totalFee / inputs.length
    forM inputs (checkFundsU64 b denominationSats share)
    let changes ← ordered.mapM (changeOutputU64 b denominationSats share)
    let tx : Transaction := {
      version := 2
      lockTime := 0
      input := ordered.map fun inp => ⟨inp.outpoint, [], sequenceEnableRbfNoLocktime, []⟩
      output := (outputs.map fun out => ⟨denominationSats, out.scriptPubkey⟩) ++
        changes.filterMap id }
    match Psbt.fromUnsignedTx tx with
    | .error e => fail (.psbt e)
    | .ok psbt => .ok { psbt with
        inputs := List.zipWith
          (fun inp input => { input with witnessUtxo := some inp.witnessUtxo })
          ordered psbt.inputs }

/-- The total fee `get_tx` shows. -/
def feeTotalU64 (config : CoordinatorConfig) (n : ℕ) : Res ε ℕ := do
  let feePerParticipant ← estimateFeeShareU64 b config.bip n config.coordinator.feeRateSatPerVbyte
  b.mul feePerParticipant n

/-- One turn of the loop of the two blame paths: a text is banned, and the entry
that goes to the ban file is made, from another sum of the same two numbers. -/
def banAndRecordU64 (E : Externals) (now banDurationSecs : ℕ)
    (acc : BanList × List (String × BanEntry ℕ)) (utxoStr : String) :
    Res ε (BanList × List (String × BanEntry ℕ)) := do
  let banList ← acc.1.banU64 b E utxoStr now banDurationSecs
  let expiresAt ← b.add now banDurationSecs
  pure (banList, acc.2 ++ [(utxoStr, ⟨now, expiresAt⟩)])

/-- The loop of the two blame paths. -/
def banEachU64 (E : Externals) (l : BanList) (utxoStrs : List String) (now banDurationSecs : ℕ) :
    Res ε (BanList × List (String × BanEntry ℕ)) :=
  utxoStrs.foldlM (banAndRecordU64 b E now banDurationSecs) (l, [])

/-- `on_signing_timeout`, with the entries for the ban file. -/
def onSigningTimeoutU64 (E : Externals) (s : RoundState) (banList : BanList)
    (banDurationSecs blameRoundCount now : ℕ) (fresh : Uuid) (keys : List String) :
    Res ε (SigningTimeout × List (String × BanEntry ℕ)) := do
  let nonSigners := s.nonSigners keys
  let (banList, records) ← banEachU64 b E banList nonSigners now banDurationSecs
  pure ({
    round := (s.tryTransitionTo .blame fresh).tryTransitionTo .idle fresh
    banList := banList
    banned := nonSigners
    outcome :=
      if consecutiveBlameCap ≤ blameRoundCount then .fullAbort
      else if nonSigners.isEmpty then .fullAbort
      else .restartWithout nonSigners }, records)

/-- `apply_broadcast_failure_blame`, with the entries for the ban file. -/
def applyBroadcastFailureBlameU64 (E : Externals) (config : CoordinatorConfig) (app : AppState)
    (bannedUtxos : List String) (now : ℕ) (fresh : Uuid) :
    Res ε (AppState × List (String × BanEntry ℕ)) := do
  let (banList, records) ← banEachU64 b E app.banList bannedUtxos now
    config.coordinator.blameBanDurationSecs
  let round := (app.round.tryTransitionTo .blame fresh).tryTransitionTo .idle fresh
  if 0 < bannedUtxos.length then
    pure ({ app with round := round, banList := banList, blameRoundCount := 0 }, records)
  else
    let n := app.blameRoundCount + 1
    let backoff := config.coordinator.blameFullAbortBackoffSecs
    if consecutiveBlameCap ≤ n ∧ 0 < backoff then
      let resumeAt ← b.add now backoff
      pure ({ round := round, banList := banList, blameRoundCount := 0,
              roundPausedUntil := resumeAt }, records)
    else pure ({ app with round := round, banList := banList, blameRoundCount := n }, records)

/-- The pause after a full abort, given the one before. -/
def pausedUntilU64 (fullAbortBackoff now pausedUntil : ℕ) : Res ε ℕ :=
  if 0 < fullAbortBackoff then b.add now fullAbortBackoff else pure pausedUntil

end Machine

/-! ### What fits -/

/-- The virtual bytes of the largest allowed input. -/
def worstInputVbytes (bip : BipConfig) : ℕ :=
  (bip.allowedSet.map scriptInputVbytes).max?.getD 0

/-- The virtual bytes the estimate takes a transaction of `n` participants to have. -/
def worstVsize (bip : BipConfig) (n : ℕ) : ℕ :=
  10 + worstInputVbytes bip * n + scriptOutputVbytes bip.outputScriptType * 2 * n

/-- **The condition**: the fee of the largest round fits, as do the denomination
with the share of the smallest round, and the clock with either duration. -/
structure FitsU64 (config : CoordinatorConfig) (now : ℕ) : Prop where
  fee : worstVsize config.bip config.coordinator.maxParticipants *
    config.coordinator.feeRateSatPerVbyte < 2 ^ 64
  required : config.coordinator.denominationSats +
    worstVsize config.bip config.coordinator.minParticipants *
      config.coordinator.feeRateSatPerVbyte / config.coordinator.minParticipants < 2 ^ 64
  ban : now + config.coordinator.blameBanDurationSecs < 2 ^ 64
  pause : now + config.coordinator.blameFullAbortBackoffSecs < 2 ^ 64

/-- The inputs of a round: as many as a round may have, each of an allowed script
type and of a value that registration lets in. -/
structure AdmittedInputs (config : CoordinatorConfig) (inputs : List ParticipantInput) : Prop where
  min_le : config.coordinator.minParticipants ≤ inputs.length
  le_max : inputs.length ≤ config.coordinator.maxParticipants
  allowed : ∀ inp ∈ inputs, config.bip.allows inp.scriptType = true
  gate : ∀ inp ∈ inputs, registrationGateU64 .release config inp.valueSats = .ok ()

/-- **Nothing overflows** under a configuration, for a clock that reads `now`: the
debug build does not panic in any of the functions, and what the release build
computes is right where it matters most. -/
structure U64Safe (E : Externals) (config : CoordinatorConfig) (now : ℕ) : Prop where
  estimate : ∀ n, config.coordinator.minParticipants ≤ n →
    n ≤ config.coordinator.maxParticipants →
    NoPanic (estimateFeeShareU64 .debug config.bip n config.coordinator.feeRateSatPerVbyte :
      Res Unit ℕ)
  gate : ∀ valueSats, NoPanic (registrationGateU64 .debug config valueSats)
  build : ∀ inputs outputs, AdmittedInputs config inputs →
    NoPanic (buildCoinjoinPsbtU64 .debug inputs outputs config.coordinator.denominationSats
      config.coordinator.feeRateSatPerVbyte config.bip.outputScriptType)
  feeTotal : ∀ n, config.coordinator.minParticipants ≤ n →
    n ≤ config.coordinator.maxParticipants →
    NoPanic (feeTotalU64 .debug config n : Res Unit ℕ)
  ban : ∀ (l : BanList) utxoStr,
    NoPanic (l.banU64 .debug E utxoStr now config.coordinator.blameBanDurationSecs :
      Res Unit BanList)
  signingTimeout : ∀ s banList count fresh keys,
    NoPanic (onSigningTimeoutU64 .debug E s banList config.coordinator.blameBanDurationSecs count
      now fresh keys : Res Unit (SigningTimeout × List (String × BanEntry ℕ)))
  broadcastFailure : ∀ app banned fresh,
    NoPanic (applyBroadcastFailureBlameU64 .debug E config app banned now fresh :
      Res Unit (AppState × List (String × BanEntry ℕ)))
  pause : ∀ pausedUntil,
    NoPanic (pausedUntilU64 .debug config.coordinator.blameFullAbortBackoffSecs now pausedUntil :
      Res Unit ℕ)
  banInForce : 0 < config.coordinator.blameBanDurationSecs → ∀ (l l' : BanList) utxoStr,
    (l.banU64 .release E utxoStr now config.coordinator.blameBanDurationSecs :
      Res Unit BanList) = .ok l' →
    l'.isBanned E utxoStr now = true
  shareNotSmaller : ∀ n share exact, config.coordinator.minParticipants ≤ n →
    n ≤ config.coordinator.maxParticipants →
    (estimateFeeShareU64 .release config.bip n config.coordinator.feeRateSatPerVbyte :
      Res Unit ℕ) = .ok share →
    (estimateFeeShare config.bip n config.coordinator.feeRateSatPerVbyte :
      Res Unit ℕ) = .ok exact → exact ≤ share

/-! ### Where nothing overflows -/

section Proof

variable {ε : Type} {b : Build} {bip : BipConfig} {n feeRate : ℕ}

theorem scriptInputVbytes_le (st : ScriptType) : scriptInputVbytes st ≤ 91 := by
  cases st <;> decide

theorem scriptOutputVbytes_le (st : ScriptType) : scriptOutputVbytes st ≤ 43 := by
  cases st <;> decide

theorem max?_allowedSet (h : ∃ st, bip.allows st = true) :
    (bip.allowedSet.map scriptInputVbytes).max? = some (worstInputVbytes bip) := by
  obtain ⟨st, hst⟩ := h
  have hne : (bip.allowedSet.map scriptInputVbytes).max? ≠ none := by
    rw [Ne, List.max?_eq_none_iff, List.map_eq_nil_iff]
    exact List.ne_nil_of_mem (BipConfig.mem_allowedSet.mpr hst)
  obtain ⟨worst, hworst⟩ := Option.ne_none_iff_exists'.mp hne
  rw [worstInputVbytes, hworst, Option.getD_some]

theorem worstInputVbytes_le (bip : BipConfig) : worstInputVbytes bip ≤ 91 := by
  rw [worstInputVbytes]
  cases hmax : (bip.allowedSet.map scriptInputVbytes).max? with
  | none => exact Nat.zero_le 91
  | some worst =>
    obtain ⟨hmem, -⟩ := List.max?_eq_some_iff.mp hmax
    obtain ⟨st, -, rfl⟩ := List.mem_map.mp hmem
    exact scriptInputVbytes_le st

theorem scriptInputVbytes_le_worst {st : ScriptType} (h : bip.allows st = true) :
    scriptInputVbytes st ≤ worstInputVbytes bip := by
  have hmax := max?_allowedSet ⟨st, h⟩
  exact (List.max?_eq_some_iff.mp hmax).2 _ (List.mem_map_of_mem (BipConfig.mem_allowedSet.mpr h))

/-- **The estimate in natural numbers.** -/
theorem estimateFeeShare_eq (hn : 0 < n) (h : ∃ st, bip.allows st = true) :
    (estimateFeeShare bip n feeRate : Res ε ℕ) = .ok (worstVsize bip n * feeRate / n) := by
  rw [estimateFeeShare, if_neg (by omega), max?_allowedSet h]
  rfl

/-- **The estimate has one operation that can overflow**: the size of a round that
may exist fits, so what is left is the product with the fee rate. -/
theorem estimateFeeShareU64_eq (hn : 0 < n) (hle : n ≤ 100) (h : ∃ st, bip.allows st = true) :
    (estimateFeeShareU64 b bip n feeRate : Res ε ℕ) =
      (b.mul (worstVsize bip n) feeRate >>= fun total => pure (total / n)) := by
  have hworst : worstInputVbytes bip * n ≤ 91 * 100 :=
    Nat.mul_le_mul (worstInputVbytes_le bip) hle
  have hout := scriptOutputVbytes_le bip.outputScriptType
  have houts : scriptOutputVbytes bip.outputScriptType * 2 * n ≤ 43 * 2 * 100 :=
    Nat.mul_le_mul (Nat.mul_le_mul_right 2 hout) hle
  rw [estimateFeeShareU64, if_neg (by omega), max?_allowedSet h]
  simp only [expect, ok_bind, worstVsize]
  rw [b.mul_of_lt (by omega), ok_bind, b.add_of_lt (by omega), ok_bind, b.mul_of_lt (by omega),
    ok_bind, b.mul_of_lt (by omega), ok_bind, b.add_of_lt (by omega), ok_bind]

theorem estimateFeeShareU64_of_lt (hn : 0 < n) (hle : n ≤ 100) (h : ∃ st, bip.allows st = true)
    (hfee : worstVsize bip n * feeRate < 2 ^ 64) :
    (estimateFeeShareU64 b bip n feeRate : Res ε ℕ) = .ok (worstVsize bip n * feeRate / n) := by
  rw [estimateFeeShareU64_eq hn hle h, b.mul_of_lt hfee]
  rfl

theorem worstVsize_mono {m : ℕ} (h : m ≤ n) : worstVsize bip m ≤ worstVsize bip n := by
  have hinputs := Nat.mul_le_mul_left (worstInputVbytes bip) h
  have houtputs := Nat.mul_le_mul_left (scriptOutputVbytes bip.outputScriptType * 2) h
  rw [worstVsize, worstVsize]
  omega

/-! ### The transaction -/

section Build

variable {inputs : List ParticipantInput} {outputs : List ParticipantOutput}
  {denominationSats share : ℕ} {outputScriptType : ScriptType}

theorem checkFundsU64_of_lt (h : denominationSats + share < 2 ^ 64) (inp : ParticipantInput) :
    checkFundsU64 b denominationSats share inp =
      require (denominationSats + share ≤ inp.valueSats)
        (.err (.insufficientFunds inp.valueSats (denominationSats + share))) := by
  rw [checkFundsU64, b.add_of_lt h, ok_bind]

/-- The loop over the inputs stops at the first one that is too small. -/
theorem forM_checkFundsU64 (h : denominationSats + share < 2 ^ 64) :
    forM inputs (checkFundsU64 b denominationSats share) =
      match inputs.find? fun inp => inp.valueSats < denominationSats + share with
      | some inp => fail (.insufficientFunds inp.valueSats (denominationSats + share))
      | none => .ok () := by
  induction inputs with
  | nil => rfl
  | cons inp inputs ih =>
    rw [List.forM_cons, checkFundsU64_of_lt h, List.find?_cons]
    by_cases hvalue : denominationSats + share ≤ inp.valueSats
    · have hsmall : decide (inp.valueSats < denominationSats + share) = false := by
        rw [decide_eq_false_iff_not]
        omega
      rw [require, if_pos hvalue, ok_bind, ih, hsmall]
    · have hsmall : decide (inp.valueSats < denominationSats + share) = true := by
        rw [decide_eq_true_eq]
        omega
      rw [require, if_neg hvalue, hsmall]
      rfl

theorem changeOutputU64_of_le {inp : ParticipantInput}
    (h : denominationSats + share ≤ inp.valueSats) :
    changeOutputU64 b denominationSats share inp =
      .ok (changeOutput denominationSats share inp) := by
  rw [changeOutputU64, b.sub_of_le (by omega), ok_bind, b.sub_of_le (by omega), ok_bind]
  rfl

theorem mapM_changeOutputU64 {ordered : List ParticipantInput}
    (h : ∀ inp ∈ ordered, denominationSats + share ≤ inp.valueSats) :
    ordered.mapM (changeOutputU64 b denominationSats share) =
      .ok (ordered.map (changeOutput denominationSats share)) := by
  rw [mapM_eq_ok, List.map_map]
  exact List.map_congr_left fun inp hinp => changeOutputU64_of_le (h inp hinp)

theorem sum_scriptInputVbytes_le {v : ℕ}
    (h : ∀ inp ∈ inputs, scriptInputVbytes inp.scriptType ≤ v) :
    (inputs.map fun inp => scriptInputVbytes inp.scriptType).sum ≤ v * inputs.length := by
  have hle := List.sum_le_card_nsmul (inputs.map fun inp => scriptInputVbytes inp.scriptType) v (by
    intro u hu
    obtain ⟨inp, hinp, rfl⟩ := List.mem_map.mp hu
    exact h inp hinp)
  simpa [Nat.mul_comm] using hle

/-- **The transaction is the one of natural numbers**, when the fee fits and the
denomination with the share does. -/
theorem buildCoinjoinPsbtU64_of_lt (hlen : inputs.length ≤ 100)
    (hfee : estimatedVsize inputs outputScriptType * feeRate < 2 ^ 64)
    (hrequired : denominationSats + feeShare inputs feeRate outputScriptType < 2 ^ 64) :
    buildCoinjoinPsbtU64 b inputs outputs denominationSats feeRate outputScriptType =
      ofExcept id
        (buildCoinjoinPsbt inputs outputs denominationSats feeRate outputScriptType) := by
  have hsum := sum_scriptInputVbytes_le fun inp (_ : inp ∈ inputs) =>
    scriptInputVbytes_le inp.scriptType
  have hout := scriptOutputVbytes_le outputScriptType
  have houts : (inputs.length + inputs.length) * scriptOutputVbytes outputScriptType ≤
      (100 + 100) * 43 := Nat.mul_le_mul (by omega) hout
  have hoverhead : txOverheadVbytes = 10 := rfl
  by_cases hempty : inputs.isEmpty
  · rw [buildCoinjoinPsbtU64, buildCoinjoinPsbt, if_pos hempty, if_pos hempty]
    rfl
  · rw [buildCoinjoinPsbtU64, buildCoinjoinPsbt, if_neg hempty, if_neg hempty]
    have hvsize : txOverheadVbytes +
        (inputs.map fun inp => scriptInputVbytes inp.scriptType).sum +
        (inputs.length + inputs.length) * scriptOutputVbytes outputScriptType =
        estimatedVsize inputs outputScriptType := rfl
    have hshare : estimatedVsize inputs outputScriptType * feeRate / inputs.length =
        feeShare inputs feeRate outputScriptType := rfl
    simp only []
    rw [b.sum_of_lt (by omega), ok_bind, b.add_of_lt (by omega), ok_bind, b.add_of_lt (by omega),
      ok_bind, b.mul_of_lt (by omega), ok_bind, b.add_of_lt (by omega), ok_bind, hvsize,
      b.mul_of_lt hfee, ok_bind, hshare, forM_checkFundsU64 hrequired]
    cases hfind : inputs.find? fun inp =>
        inp.valueSats < denominationSats + feeShare inputs feeRate outputScriptType with
    | some inp => rfl
    | none =>
      have hfunds : ∀ inp ∈ orderedInputs inputs,
          denominationSats + feeShare inputs feeRate outputScriptType ≤ inp.valueSats := by
        intro inp hinp
        have hmem : inp ∈ inputs := (sortByKey_permutes _ inputs).mem_iff.mp hinp
        have hlarge := List.find?_eq_none.mp hfind inp hmem
        rw [decide_eq_true_eq] at hlarge
        omega
      have htx : (⟨2, 0, (orderedInputs inputs).map fun inp =>
            ⟨inp.outpoint, [], sequenceEnableRbfNoLocktime, []⟩,
          (outputs.map fun out => ⟨denominationSats, out.scriptPubkey⟩) ++
            (orderedInputs inputs).filterMap
              (changeOutput denominationSats (feeShare inputs feeRate outputScriptType))⟩ :
            Transaction) =
          coinjoinTx outputs denominationSats (feeShare inputs feeRate outputScriptType)
            (orderedInputs inputs) := rfl
      simp only [ok_bind, mapM_changeOutputU64 hfunds, List.filterMap_map, Function.id_comp, htx,
        fromUnsignedTx_coinjoinTx, ofExcept]

/-- The transaction of admitted inputs is no larger than the estimate. -/
theorem estimatedVsize_le_worstVsize
    (h : ∀ inp ∈ inputs, bip.allows inp.scriptType = true) :
    estimatedVsize inputs bip.outputScriptType ≤ worstVsize bip inputs.length := by
  have hsum := sum_scriptInputVbytes_le fun inp hinp => scriptInputVbytes_le_worst (h inp hinp)
  have hout : (inputs.length + inputs.length) * scriptOutputVbytes bip.outputScriptType =
      scriptOutputVbytes bip.outputScriptType * 2 * inputs.length := by ring
  rw [estimatedVsize, worstVsize, txOverheadVbytes, hout]
  omega

end Build

/-! ### Bans -/

section Bans

variable {E : Externals} {config : CoordinatorConfig} {now banDurationSecs : ℕ}

theorem banAndRecordU64_of_lt (h : now + banDurationSecs < 2 ^ 64)
    (acc : BanList × List (String × BanEntry ℕ)) (utxoStr : String) :
    (banAndRecordU64 b E now banDurationSecs acc utxoStr :
      Res ε (BanList × List (String × BanEntry ℕ))) =
      .ok (acc.1.ban E utxoStr now banDurationSecs,
        acc.2 ++ [(utxoStr, ⟨now, now + banDurationSecs⟩)]) := by
  rw [banAndRecordU64, BanList.banU64_of_lt h, ok_bind, b.add_of_lt h, ok_bind]
  rfl

/-- **The bans are those of natural numbers**, and each text has its entry. -/
theorem banEachU64_of_lt (h : now + banDurationSecs < 2 ^ 64) (l : BanList)
    (utxoStrs : List String) :
    (banEachU64 b E l utxoStrs now banDurationSecs : Res ε (BanList × List (String × BanEntry ℕ))) =
      .ok (l.banAll E utxoStrs now banDurationSecs,
        utxoStrs.map fun utxoStr => (utxoStr, ⟨now, now + banDurationSecs⟩)) := by
  have hfold : ∀ (utxoStrs : List String) (l : BanList) (records : List (String × BanEntry ℕ)),
      (utxoStrs.foldlM (banAndRecordU64 b E now banDurationSecs) (l, records) :
          Res ε (BanList × List (String × BanEntry ℕ))) =
      .ok (l.banAll E utxoStrs now banDurationSecs,
        records ++ utxoStrs.map fun utxoStr => (utxoStr, ⟨now, now + banDurationSecs⟩)) := by
    intro utxoStrs
    induction utxoStrs with
    | nil =>
      intro l records
      rw [List.map_nil, List.append_nil]
      rfl
    | cons utxoStr utxoStrs ih =>
      intro l records
      have hrest := ih (l.ban E utxoStr now banDurationSecs)
        (records ++ [(utxoStr, ⟨now, now + banDurationSecs⟩)])
      rw [List.append_assoc, List.singleton_append] at hrest
      rw [List.foldlM_cons, banAndRecordU64_of_lt h, ok_bind]
      exact hrest
  exact hfold utxoStrs l []

theorem onSigningTimeoutU64_of_lt (h : now + banDurationSecs < 2 ^ 64) (s : RoundState)
    (l : BanList) (count : ℕ) (fresh : Uuid) (keys : List String) :
    (onSigningTimeoutU64 b E s l banDurationSecs count now fresh keys :
      Res ε (SigningTimeout × List (String × BanEntry ℕ))) =
      .ok (onSigningTimeout E s l banDurationSecs count now fresh keys,
        (s.nonSigners keys).map fun utxoStr => (utxoStr, ⟨now, now + banDurationSecs⟩)) := by
  rw [onSigningTimeoutU64, banEachU64_of_lt h, ok_bind]
  rfl

theorem applyBroadcastFailureBlameU64_of_lt
    (hban : now + config.coordinator.blameBanDurationSecs < 2 ^ 64)
    (hpause : now + config.coordinator.blameFullAbortBackoffSecs < 2 ^ 64) (app : AppState)
    (banned : List String) (fresh : Uuid) :
    (applyBroadcastFailureBlameU64 b E config app banned now fresh :
      Res ε (AppState × List (String × BanEntry ℕ))) =
      .ok (applyBroadcastFailureBlame E config app banned now fresh,
        banned.map fun utxoStr =>
          (utxoStr, ⟨now, now + config.coordinator.blameBanDurationSecs⟩)) := by
  rw [applyBroadcastFailureBlameU64, applyBroadcastFailureBlame, banEachU64_of_lt hban, ok_bind]
  by_cases hsome : 0 < banned.length
  · simp only [if_pos hsome]
    rfl
  · simp only [if_neg hsome]
    by_cases hcap : consecutiveBlameCap ≤ app.blameRoundCount + 1 ∧
        0 < config.coordinator.blameFullAbortBackoffSecs
    · rw [if_pos hcap, if_pos hcap, b.add_of_lt hpause]
      rfl
    · rw [if_neg hcap, if_neg hcap]
      rfl

end Bans

/-! ### The condition is enough -/

section Fits

variable {E : Externals} {config : CoordinatorConfig} {now : ℕ}

theorem fee_lt_of_fitsU64 (h : FitsU64 config now)
    (hn : n ≤ config.coordinator.maxParticipants) :
    worstVsize config.bip n * config.coordinator.feeRateSatPerVbyte < 2 ^ 64 :=
  lt_of_le_of_lt (Nat.mul_le_mul_right _ (worstVsize_mono hn)) h.fee

variable (hv : config.validate = .ok ())

include hv

theorem estimateFeeShareU64_of_fitsU64 (h : FitsU64 config now)
    (hmin : config.coordinator.minParticipants ≤ n)
    (hmax : n ≤ config.coordinator.maxParticipants) :
    (estimateFeeShareU64 b config.bip n config.coordinator.feeRateSatPerVbyte : Res ε ℕ) =
      .ok (worstVsize config.bip n * config.coordinator.feeRateSatPerVbyte / n) := by
  have hvalid := CoordinatorConfig.valid_of_validate hv
  have htwo := hvalid.two_le_min
  have hhundred := CoordinatorConfig.maxParticipants_le_of_validate hv
  exact estimateFeeShareU64_of_lt (by omega) (by omega) hvalid.allowed (fee_lt_of_fitsU64 h hmax)

theorem registrationGateU64_of_fitsU64 (h : FitsU64 config now) (valueSats : ℕ) :
    registrationGateU64 b config valueSats =
      require (config.coordinator.denominationSats +
          worstVsize config.bip config.coordinator.minParticipants *
            config.coordinator.feeRateSatPerVbyte / config.coordinator.minParticipants ≤ valueSats)
        (.err (.insufficientValue valueSats (config.coordinator.denominationSats +
          worstVsize config.bip config.coordinator.minParticipants *
            config.coordinator.feeRateSatPerVbyte / config.coordinator.minParticipants))) := by
  have hvalid := CoordinatorConfig.valid_of_validate hv
  rw [registrationGateU64, estimateFeeShareU64_of_fitsU64 hv h le_rfl hvalid.min_le_max, ok_bind,
    checkValueU64, b.add_of_lt h.required, ok_bind]

/-- **The transaction of admitted inputs is built as it is in natural numbers.** -/
theorem buildCoinjoinPsbtU64_of_fitsU64 (h : FitsU64 config now)
    {inputs : List ParticipantInput} (hin : AdmittedInputs config inputs)
    (outputs : List ParticipantOutput) :
    buildCoinjoinPsbtU64 b inputs outputs config.coordinator.denominationSats
        config.coordinator.feeRateSatPerVbyte config.bip.outputScriptType =
      ofExcept id (buildCoinjoinPsbt inputs outputs config.coordinator.denominationSats
        config.coordinator.feeRateSatPerVbyte config.bip.outputScriptType) := by
  have hvalid := CoordinatorConfig.valid_of_validate hv
  have htwo := hvalid.two_le_min
  have hhundred := CoordinatorConfig.maxParticipants_le_of_validate hv
  have hmin := hin.min_le
  have hmax := hin.le_max
  have hrequired := h.required
  -- the share of a round is at most that of the smallest round
  have hestimate : (estimateFeeShare config.bip config.coordinator.minParticipants
      config.coordinator.feeRateSatPerVbyte : Res Unit ℕ) = .ok _ :=
    estimateFeeShare_eq (by omega) hvalid.allowed
  have hshare := feeShare_le_estimateFeeShare (by omega) hin.min_le hin.allowed hestimate
  refine buildCoinjoinPsbtU64_of_lt (by omega) ?_ (by omega)
  exact lt_of_le_of_lt (Nat.mul_le_mul_right _ (estimatedVsize_le_worstVsize hin.allowed))
    (fee_lt_of_fitsU64 h hmax)

theorem feeTotalU64_of_fitsU64 (h : FitsU64 config now)
    (hmin : config.coordinator.minParticipants ≤ n)
    (hmax : n ≤ config.coordinator.maxParticipants) :
    (feeTotalU64 b config n : Res ε ℕ) =
      .ok (worstVsize config.bip n * config.coordinator.feeRateSatPerVbyte / n * n) := by
  have hfee := fee_lt_of_fitsU64 h hmax
  have hle := Nat.div_mul_le_self
    (worstVsize config.bip n * config.coordinator.feeRateSatPerVbyte) n
  rw [feeTotalU64, estimateFeeShareU64_of_fitsU64 hv h hmin hmax, ok_bind, b.mul_of_lt (by omega)]

theorem u64Safe_of_fitsU64 (h : FitsU64 config now) : U64Safe E config now where
  estimate := by
    intro n hmin hmax
    rw [estimateFeeShareU64_of_fitsU64 hv h hmin hmax]
    exact noPanic_ok
  gate := by
    intro valueSats
    rw [registrationGateU64_of_fitsU64 hv h]
    exact noPanic_require
  build := by
    intro inputs outputs hin
    rw [buildCoinjoinPsbtU64_of_fitsU64 hv h hin]
    exact noPanic_ofExcept
  feeTotal := by
    intro n hmin hmax
    rw [feeTotalU64_of_fitsU64 hv h hmin hmax]
    exact noPanic_ok
  ban := by
    intro l utxoStr
    rw [BanList.banU64_of_lt h.ban]
    exact noPanic_ok
  signingTimeout := by
    intro s banList count fresh keys
    rw [onSigningTimeoutU64_of_lt h.ban]
    exact noPanic_ok
  broadcastFailure := by
    intro app banned fresh
    rw [applyBroadcastFailureBlameU64_of_lt h.ban h.pause]
    exact noPanic_ok
  pause := by
    intro pausedUntil
    rw [pausedUntilU64]
    split
    · rw [Build.add_of_lt _ h.pause]
      exact noPanic_ok
    · exact noPanic_ok
  banInForce := by
    intro hduration l l' utxoStr hban
    rw [BanList.banU64_of_lt h.ban] at hban
    obtain rfl := Except.ok.inj hban
    exact BanList.isBanned_ban_self (by omega)
  shareNotSmaller := by
    intro n share exact hmin hmax hshare hexact
    have hvalid := CoordinatorConfig.valid_of_validate hv
    have htwo := hvalid.two_le_min
    rw [estimateFeeShareU64_of_fitsU64 hv h hmin hmax] at hshare
    rw [estimateFeeShare_eq (by omega) hvalid.allowed] at hexact
    rw [← Except.ok.inj hshare, ← Except.ok.inj hexact]

/-! ### The condition is needed -/

theorem fitsU64_of_u64Safe (h : U64Safe E config now) : FitsU64 config now := by
  have hvalid := CoordinatorConfig.valid_of_validate hv
  have htwo := hvalid.two_le_min
  have hle := hvalid.min_le_max
  have hhundred := CoordinatorConfig.maxParticipants_le_of_validate hv
  have hfee : worstVsize config.bip config.coordinator.maxParticipants *
      config.coordinator.feeRateSatPerVbyte < 2 ^ 64 := by
    have hestimate := h.estimate config.coordinator.maxParticipants hle le_rfl
    rw [estimateFeeShareU64_eq (by omega) hhundred hvalid.allowed] at hestimate
    exact Build.noPanic_mul_iff.mp hestimate.of_bind
  have hban : now + config.coordinator.blameBanDurationSecs < 2 ^ 64 :=
    Build.noPanic_add_iff.mp (h.ban .new "").of_bind
  refine ⟨hfee, ?_, hban, ?_⟩
  · -- the estimate of the smallest round fits, so what the gate panics at is the sum
    have hsmall : worstVsize config.bip config.coordinator.minParticipants *
        config.coordinator.feeRateSatPerVbyte < 2 ^ 64 :=
      lt_of_le_of_lt (Nat.mul_le_mul_right _ (worstVsize_mono hle)) hfee
    have hgate := h.gate 0
    rw [registrationGateU64, estimateFeeShareU64_of_lt (by omega) (by omega) hvalid.allowed hsmall,
      ok_bind] at hgate
    exact Build.noPanic_add_iff.mp hgate.of_bind
  · rcases Nat.eq_zero_or_pos config.coordinator.blameFullAbortBackoffSecs with hzero | hpos
    · rw [hzero]
      omega
    · have hpause := h.pause 0
      rw [pausedUntilU64, if_pos hpos] at hpause
      exact Build.noPanic_add_iff.mp hpause

end Fits

end Proof

/-- **When nothing overflows**, under a configuration that was accepted: exactly
when the fee of the largest round fits in sixty-four bits, and the denomination
with the share of the smallest round, and the clock with the ban duration and with
the backoff. -/
theorem u64Safe_iff {E : Externals} {config : CoordinatorConfig} (hv : config.validate = .ok ())
    (now : ℕ) : U64Safe E config now ↔ FitsU64 config now :=
  ⟨fitsU64_of_u64Safe hv, u64Safe_of_fitsU64 hv⟩

theorem u64Safe_iff_session : U64Safe session.externals configOfTwo 1760000000 := by
  refine (u64Safe_iff configOfTwo_validate 1760000000).mpr ⟨?_, ?_, ?_, ?_⟩
  · decide
  · decide
  · decide
  · decide

/-- The configuration of the tests, with a fee rate nobody would pay. -/
def hugeFeeRate : CoordinatorConfig :=
  { CoordinatorConfig.withDefaults with
    coordinator := { CoordinatorConfig.withDefaults.coordinator with
      feeRateSatPerVbyte := 2 ^ 60 } }

/-- The configuration is accepted, the fee of its smallest round overflows, and the
release build charges a share that is too small. -/
theorem hugeFeeRate_overflows :
    hugeFeeRate.validate = .ok () ∧ hugeFeeRate.coordinator.minParticipants = 3 ∧
    (estimateFeeShareU64 .debug hugeFeeRate.bip 3 hugeFeeRate.coordinator.feeRateSatPerVbyte :
      Res Unit ℕ) = .error (.panic "attempt to multiply with overflow") ∧
    (estimateFeeShareU64 .release hugeFeeRate.bip 3 hugeFeeRate.coordinator.feeRateSatPerVbyte :
      Res Unit ℕ) = .ok (5 * 2 ^ 60 / 3) ∧
    (estimateFeeShare hugeFeeRate.bip 3 hugeFeeRate.coordinator.feeRateSatPerVbyte :
      Res Unit ℕ) = .ok (469 * 2 ^ 60 / 3) ∧
    ¬U64Safe session.externals hugeFeeRate 1760000000 := by
  have hpanic : (estimateFeeShareU64 .debug hugeFeeRate.bip 3
      hugeFeeRate.coordinator.feeRateSatPerVbyte : Res Unit ℕ) =
      .error (.panic "attempt to multiply with overflow") := by decide
  refine ⟨by decide, rfl, hpanic, by decide, by decide, ?_⟩
  intro hsafe
  exact hsafe.estimate 3 (by decide) (by decide) _ hpanic

end Blindjoin
