import Blindjoin.Coordinator.Accounting
import Blindjoin.System.Overflow
import Blindjoin.System.Transaction

/-!
# The fee that is shown and the fee that is charged

The display handler returns a transaction together with the fee it says each
participant pays. The transaction charges a share computed from the script types that
were registered; the number next to it is the estimate of a registration, which takes
every input to be of the largest allowed type.

Both are rounded down, so they agree when the difference gets lost in rounding, and only
then (`Blindjoin.displayed_fee_iff`). At a fee rate of at least the number of
participants nothing gets lost, and they agree exactly when every input is of the largest
allowed type (`Blindjoin.lostInRounding_iff_of_le`).

Both numbers are exact. Under `Blindjoin.FitsU64` the code computes them in `u64`
(`Blindjoin.feeTotalU64_of_fitsU64`).
-/

namespace Blindjoin

open Interleaving Collections

/-! ### Two quotients -/

/-- Adding `d` leaves a quotient as it is when the remainder has room for it. -/
theorem add_div_eq_div_iff {a d n : ℕ} (hn : 0 < n) : (a + d) / n = a / n ↔ a % n + d < n := by
  have hsplit : a + d = n * (a / n) + (a % n + d) := by
    rw [← Nat.add_assoc, Nat.div_add_mod]
  have hquot : (a + d) / n = a / n + (a % n + d) / n := by
    rw [hsplit, Nat.mul_add_div hn]
  rw [hquot]
  constructor
  · intro h
    have hzero : (a % n + d) / n = 0 := by omega
    exact (Nat.div_eq_zero_iff_lt hn).mp hzero
  · intro h
    rw [Nat.div_eq_of_lt h, Nat.add_zero]

section Share

variable {bip : BipConfig} {types : List ScriptType} {feeRate : ℕ}

/-- The virtual bytes the estimate counts that the inputs do not have: each is taken to
be of the largest allowed type. -/
def overcountedVbytes (bip : BipConfig) (types : List ScriptType) : ℕ :=
  (types.map fun st => worstInputVbytes bip - scriptInputVbytes st).sum

/-- What the estimate charges for these bytes is less than what is missing to the next
sat for each participant. The outputs do not matter: every participant has as many. -/
def LostInRounding (bip : BipConfig) (types : List ScriptType) (feeRate : ℕ) : Prop :=
  (txOverheadVbytes + (types.map scriptInputVbytes).sum) * feeRate % types.length +
    overcountedVbytes bip types * feeRate < types.length

instance : Decidable (LostInRounding bip types feeRate) := inferInstanceAs (Decidable (_ < _))

/-- The worst case is the real inputs and what is counted too much. -/
theorem sum_add_overcounted (hallowed : ∀ st ∈ types, bip.allows st = true) :
    (types.map scriptInputVbytes).sum + overcountedVbytes bip types =
      worstInputVbytes bip * types.length := by
  have heach : ∀ st ∈ types,
      scriptInputVbytes st + (worstInputVbytes bip - scriptInputVbytes st) =
        worstInputVbytes bip := by
    intro st hst
    have hle := scriptInputVbytes_le_worst (hallowed st hst)
    omega
  rw [overcountedVbytes, ← List.sum_map_add, List.map_congr_left heach, List.map_const',
    List.sum_replicate, smul_eq_mul, Nat.mul_comm]

/-- Nothing is counted too much exactly when every input is of the largest type. -/
theorem overcountedVbytes_eq_zero_iff (hallowed : ∀ st ∈ types, bip.allows st = true) :
    overcountedVbytes bip types = 0 ↔
      ∀ st ∈ types, scriptInputVbytes st = worstInputVbytes bip := by
  rw [overcountedVbytes, List.sum_eq_zero_iff]
  constructor
  · intro h st hst
    have hzero := h _ (List.mem_map_of_mem hst)
    have hle := scriptInputVbytes_le_worst (hallowed st hst)
    omega
  · intro h v hv
    obtain ⟨st, hst, rfl⟩ := List.mem_map.mp hv
    rw [h st hst, Nat.sub_self]

/-- Inputs of the largest allowed type are charged what is shown, at any fee rate. -/
theorem lostInRounding_of_largest (hne : types ≠ [])
    (hallowed : ∀ st ∈ types, bip.allows st = true)
    (hlargest : ∀ st ∈ types, scriptInputVbytes st = worstInputVbytes bip) :
    LostInRounding bip types feeRate := by
  have hzero := (overcountedVbytes_eq_zero_iff hallowed).mpr hlargest
  rw [LostInRounding, hzero, Nat.zero_mul, Nat.add_zero]
  exact Nat.mod_lt _ (List.length_pos_of_ne_nil hne)

/-- **At a fee rate of at least the number of participants** a single byte is already a
sat for each of them. -/
theorem lostInRounding_iff_of_le (hne : types ≠ [])
    (hallowed : ∀ st ∈ types, bip.allows st = true) (hrate : types.length ≤ feeRate) :
    LostInRounding bip types feeRate ↔
      ∀ st ∈ types, scriptInputVbytes st = worstInputVbytes bip := by
  constructor
  · intro h
    rw [← overcountedVbytes_eq_zero_iff hallowed]
    by_contra hsome
    have hle : feeRate ≤ overcountedVbytes bip types * feeRate :=
      Nat.le_mul_of_pos_left _ (Nat.pos_of_ne_zero hsome)
    rw [LostInRounding] at h
    omega
  · exact lostInRounding_of_largest hne hallowed

/-- **When the estimate is the share**, for inputs of allowed types. -/
theorem estimate_eq_feeShare_iff {inputs : List ParticipantInput} (hne : inputs ≠ [])
    (hallowed : ∀ inp ∈ inputs, bip.allows inp.scriptType = true) :
    worstVsize bip inputs.length * feeRate / inputs.length =
        feeShare inputs feeRate bip.outputScriptType ↔
      LostInRounding bip (inputs.map ParticipantInput.scriptType) feeRate := by
  have hpos : 0 < inputs.length := List.length_pos_of_ne_nil hne
  have hallowed' : ∀ st ∈ inputs.map ParticipantInput.scriptType, bip.allows st = true := by
    intro st hst
    obtain ⟨inp, hinp, rfl⟩ := List.mem_map.mp hst
    exact hallowed inp hinp
  have hsum := sum_add_overcounted hallowed'
  rw [List.length_map] at hsum
  have htypes : inputs.map (fun inp => scriptInputVbytes inp.scriptType) =
      (inputs.map ParticipantInput.scriptType).map scriptInputVbytes := by
    rw [List.map_map]
    rfl
  -- the outputs are charged a whole number of sats for each participant
  have hreal : estimatedVsize inputs bip.outputScriptType * feeRate =
      (txOverheadVbytes + ((inputs.map ParticipantInput.scriptType).map scriptInputVbytes).sum) *
        feeRate + inputs.length * (2 * scriptOutputVbytes bip.outputScriptType * feeRate) := by
    rw [estimatedVsize, htypes]
    ring
  have hworst : worstVsize bip inputs.length * feeRate =
      estimatedVsize inputs bip.outputScriptType * feeRate +
        overcountedVbytes bip (inputs.map ParticipantInput.scriptType) * feeRate := by
    rw [worstVsize, ← hsum, estimatedVsize, htypes, txOverheadVbytes]
    ring
  rw [hworst, feeShare, add_div_eq_div_iff hpos, hreal, Nat.add_mul_mod_self_left, LostInRounding,
    List.length_map]

end Share

/-! ### Signing states -/

/-- An answer shows what its transaction charges. -/
structure ShowsCharge (response : RoundTxResponse) (n share : ℕ) : Prop where
  perParticipant : response.feePerParticipantSats = share
  total : response.feeTotalSats = n * share

section Reachable

variable {E : Externals} {config : CoordinatorConfig} {fresh : Uuid} {banList : BanList}
  {w : World Coordinator Task Event}

/-- **When the fee that is shown is the fee that is charged**: in every reachable signing
state the handler answers with a transaction that settles each participant at the share of
the registered script types, and the answer shows that share, and as many times it as
there are participants, exactly when what the estimate counts too much gets lost in
rounding. -/
theorem displayed_fee_iff (hvalid : config.validate = .ok ())
    (hr : Reachable (coordinator E config) (startup fresh banList) w)
    (hphase : w.shared.round.phase = .signing) :
    ∃ inner, w.shared.round.inner = some inner ∧
      ∀ values : List RegisteredInput, values.Perm inner.registeredInputs.values →
        ∃ network inputs outputs psbt response,
          Resolves E config inner values network inputs outputs ∧
          (∀ roundIdStr, buildDisplayPsbt E config inner roundIdStr values = .ok psbt) ∧
          getTx E config w.shared.round values = .ok response ∧
          response.psbt = E.base64Encode (E.psbtSerialize psbt) ∧
          (∃ ordered change, Aligned inputs outputs config.coordinator.denominationSats
            (feeShare inputs config.coordinator.feeRateSatPerVbyte config.bip.outputScriptType)
            psbt ordered change) ∧
          (ShowsCharge response inputs.length (feeShare inputs
              config.coordinator.feeRateSatPerVbyte config.bip.outputScriptType) ↔
            LostInRounding config.bip (values.map RegisteredInput.scriptType)
              config.coordinator.feeRateSatPerVbyte) := by
  have hv := CoordinatorConfig.valid_of_validate hvalid
  obtain ⟨inner, hinner, hinv, hround⟩ := (roundRun_of_reachable hr).signing hv hphase
  refine ⟨inner, hinner, fun values hvalues => ?_⟩
  obtain ⟨network, inputs, outputs, hbuildable, houtputs⟩ := hround values hvalues
  have hres := hbuildable.resolves
  have hpsbt := hbuildable.isRoundPsbt
  have hlen : values.length = inputs.length := hres.inputs.length_eq
  have hpos : 0 < inputs.length := List.length_pos_of_ne_nil hbuildable.nonempty
  -- the share that is shown is the estimate at the number of registered inputs
  have hget := getTx_eq_of_isRoundPsbt hphase hinner hpsbt
    (estimateFeeShare_eq (by omega) hv.allowed)
  have htypes : inputs.map ParticipantInput.scriptType =
      values.map RegisteredInput.scriptType :=
    map_eq_of_forall₂ hres.inputs fun reg _ inp hbecomes => hbecomes.scriptType
  refine ⟨network, inputs, outputs, _, _, hres, fun _ => buildDisplayPsbt_eq_ok.mpr hpsbt, hget,
    rfl, ?_, ?_⟩
  · exact ⟨_, _, aligned_coinjoinPsbt (hres.nodup_outpoints hinv.keys hvalues) houtputs
      hbuildable.funded⟩
  · rw [← htypes, ← estimate_eq_feeShare_iff hbuildable.nonempty hbuildable.allowed, ← hlen]
    constructor
    · intro hshows
      exact hshows.perParticipant
    · intro heq
      refine ⟨heq, ?_⟩
      rw [← heq]
      exact Nat.mul_comm _ _

theorem displayed_fee_iff_session :
    ∃ inner, (worldAfter signingMoves).shared.round.inner = some inner ∧
      ∀ values : List RegisteredInput, values.Perm inner.registeredInputs.values →
        ∃ network inputs outputs psbt response,
          Resolves session.externals configOfTwo inner values network inputs outputs ∧
          (∀ roundIdStr, buildDisplayPsbt session.externals configOfTwo inner roundIdStr values =
            .ok psbt) ∧
          getTx session.externals configOfTwo (worldAfter signingMoves).shared.round values =
            .ok response ∧
          response.psbt = session.externals.base64Encode (session.externals.psbtSerialize psbt) ∧
          (∃ ordered change, Aligned inputs outputs 1000000 (feeShare inputs 2 .p2wpkh) psbt
            ordered change) ∧
          (ShowsCharge response inputs.length (feeShare inputs 2 .p2wpkh) ↔
            LostInRounding configOfTwo.bip (values.map RegisteredInput.scriptType) 2) :=
  displayed_fee_iff configOfTwo_validate (worldAfter_reachable signingMoves) signing_reached

end Reachable

/-- **The session shows more than it charges**: with one P2WPKH and one P2SH-P2WPKH
input the change outputs are what 293 sats each leave, and the answer says 316. -/
theorem session_shows_more :
    configOfTwo.validate = .ok () ∧
    Reachable (coordinator session.externals configOfTwo) (startup firstRound .new)
      (worldAfter signingMoves) ∧
    (worldAfter signingMoves).shared.round.phase = .signing ∧
    ∃ inner psbt response, (worldAfter signingMoves).shared.round.inner = some inner ∧
      sessionValues.Perm inner.registeredInputs.values ∧
      buildDisplayPsbt session.externals configOfTwo inner firstRound.toText sessionValues =
        .ok psbt ∧
      getTx session.externals configOfTwo (worldAfter signingMoves).shared.round sessionValues =
        .ok response ∧
      response.psbt = session.externals.base64Encode (session.externals.psbtSerialize psbt) ∧
      psbt.unsignedTx.output = [⟨1000000, firstOutputScript⟩, ⟨1000000, secondOutputScript⟩,
        ⟨1020000 - 1000000 - 293, firstChangeScript⟩,
        ⟨1030000 - 1000000 - 293, secondChangeScript⟩] ∧
      response.feePerParticipantSats = 316 ∧ response.feeTotalSats = 632 ∧
      ¬ShowsCharge response 2 293 := by
  have hrun : (worldAfter signingMoves).shared.round.buildPasses sessionValues
      (fun inner => buildDisplayPsbt session.externals configOfTwo inner firstRound.toText
        sessionValues)
      (fun psbt => psbt.unsignedTx = jointTx [] [] []) = true := by
    decide +kernel
  obtain ⟨inner, psbt, hinner, hperm, hpsbt, htx⟩ := RoundState.exists_of_buildPasses hrun
  have hshare : (estimateFeeShare configOfTwo.bip sessionValues.length
      configOfTwo.coordinator.feeRateSatPerVbyte : Res HttpError ℕ) = .ok 316 := by
    decide
  have hget := getTx_eq_of_isRoundPsbt signing_reached hinner (buildDisplayPsbt_eq_ok.mp hpsbt)
    hshare
  refine ⟨configOfTwo_validate, worldAfter_reachable _, signing_reached, inner, psbt, _, hinner,
    hperm, hpsbt, hget, rfl, ?_, rfl, rfl, ?_⟩
  · rw [of_decide_eq_true htx]
    rfl
  · intro hshows
    have hne : 316 ≠ 293 := by decide
    exact hne hshows.perParticipant

end Blindjoin
