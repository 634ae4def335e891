import Mathlib.Algebra.Order.Ring.Nat
import Mathlib.Tactic.Ring
import Blindjoin.Coordinator.Tx

/-!
# The fee estimate of a registration

When an input is registered nobody knows yet which inputs the round will have,
so `Blindjoin.estimateFeeShare` charges the worst allowed script type at a given
number of participants. The estimate at the smallest round bounds the share
every larger round charges, whatever its script types are
(`Blindjoin.feeShare_le_estimateFeeShare`): the inputs are no larger than the
worst one, and the fixed overhead is divided among at least as many
participants.

Amounts are exact here. The code computes in `u64`; it computes the same amounts
for every configuration that satisfies `Blindjoin.FitsU64`
(`Blindjoin.estimateFeeShareU64_of_fitsU64`).
-/

namespace Blindjoin

/-- Worst-case fee share of a participant, before the round's inputs are known. -/
def estimateFeeShare {ε : Type} (bip : BipConfig) (n feeRate : ℕ) : Res ε ℕ :=
  if n = 0 then .ok 0
  else do
    let worstInputVb ← expect "BipConfig::validate ensures at least one allow_* flag is true"
      (bip.allowedSet.map scriptInputVbytes).max?
    let outputVb := scriptOutputVbytes bip.outputScriptType
    let estimatedVsize := 10 + worstInputVb * n + outputVb * 2 * n
    pure (estimatedVsize * feeRate / n)

/-- What the estimate is, when some script type is allowed. -/
theorem estimateFeeShare_eq_ok {ε : Type} {bip : BipConfig} {n feeRate share : ℕ} (hn : 0 < n)
    (h : (estimateFeeShare bip n feeRate : Res ε ℕ) = .ok share) :
    ∃ worst, (∀ st, bip.allows st = true → scriptInputVbytes st ≤ worst) ∧
      share = (10 + worst * n + scriptOutputVbytes bip.outputScriptType * 2 * n) * feeRate / n := by
  rw [estimateFeeShare, if_neg (by omega)] at h
  simp only [bind_eq_ok, expect_eq_ok, List.max?_eq_some_iff] at h
  obtain ⟨worst, ⟨_, hmax⟩, hshare⟩ := h
  refine ⟨worst, fun st hst => ?_, (Except.ok.inj hshare).symm⟩
  exact hmax _ (List.mem_map_of_mem (BipConfig.mem_allowedSet.mpr hst))

/-- **The estimate succeeds** as soon as a script type is allowed. -/
theorem exists_estimateFeeShare {ε : Type} {bip : BipConfig} (h : ∃ st, bip.allows st = true)
    (n feeRate : ℕ) : ∃ share, (estimateFeeShare bip n feeRate : Res ε ℕ) = .ok share := by
  obtain ⟨st, hst⟩ := h
  by_cases hn : n = 0
  · exact ⟨0, by rw [estimateFeeShare, if_pos hn]⟩
  · have hne : (bip.allowedSet.map scriptInputVbytes).max? ≠ none := by
      rw [Ne, List.max?_eq_none_iff, List.map_eq_nil_iff]
      exact List.ne_nil_of_mem (BipConfig.mem_allowedSet.mpr hst)
    obtain ⟨worst, hworst⟩ := Option.ne_none_iff_exists'.mp hne
    refine ⟨(10 + worst * n + scriptOutputVbytes bip.outputScriptType * 2 * n) * feeRate / n, ?_⟩
    rw [estimateFeeShare, if_neg hn, hworst]
    rfl

/-- **The estimate at the smallest round bounds every share**: with at least `m`
inputs of allowed script types, nobody is charged more than the estimate at `m`. -/
theorem feeShare_le_estimateFeeShare {ε : Type} {bip : BipConfig} {m feeRate share : ℕ}
    {inputs : List ParticipantInput} (hm : 0 < m) (hlen : m ≤ inputs.length)
    (hallowed : ∀ inp ∈ inputs, bip.allows inp.scriptType = true)
    (h : (estimateFeeShare bip m feeRate : Res ε ℕ) = .ok share) :
    feeShare inputs feeRate bip.outputScriptType ≤ share := by
  obtain ⟨worst, hworst, rfl⟩ := estimateFeeShare_eq_ok hm h
  have hn : 0 < inputs.length := by omega
  have hsum : (inputs.map fun inp => scriptInputVbytes inp.scriptType).sum ≤
      inputs.length * worst := by
    have hle := List.sum_le_card_nsmul (inputs.map fun inp => scriptInputVbytes inp.scriptType)
      worst (by
        intro v hv
        obtain ⟨inp, hinp, rfl⟩ := List.mem_map.mp hv
        exact hworst _ (hallowed inp hinp))
    simpa using hle
  -- both sides are a fixed part over the number of participants, plus the
  -- virtual bytes each participant adds
  have hsplit : ∀ n, (10 + worst * n + scriptOutputVbytes bip.outputScriptType * 2 * n) * feeRate =
      10 * feeRate + (worst + scriptOutputVbytes bip.outputScriptType * 2) * feeRate * n :=
    fun n => by ring
  calc feeShare inputs feeRate bip.outputScriptType
      ≤ (10 + worst * inputs.length +
          scriptOutputVbytes bip.outputScriptType * 2 * inputs.length) * feeRate /
          inputs.length := by
        refine Nat.div_le_div_right (Nat.mul_le_mul_right _ ?_)
        rw [estimatedVsize, txOverheadVbytes]
        have hout : (inputs.length + inputs.length) * scriptOutputVbytes bip.outputScriptType =
            scriptOutputVbytes bip.outputScriptType * 2 * inputs.length := by ring
        rw [hout, Nat.mul_comm worst]
        omega
    _ = 10 * feeRate / inputs.length +
          (worst + scriptOutputVbytes bip.outputScriptType * 2) * feeRate := by
        rw [hsplit, Nat.add_mul_div_right _ _ hn]
    _ ≤ 10 * feeRate / m +
          (worst + scriptOutputVbytes bip.outputScriptType * 2) * feeRate :=
        Nat.add_le_add_right (Nat.div_le_div_left hlen hm) _
    _ = (10 + worst * m + scriptOutputVbytes bip.outputScriptType * 2 * m) * feeRate / m := by
        rw [hsplit, Nat.add_mul_div_right _ _ hm]

end Blindjoin
