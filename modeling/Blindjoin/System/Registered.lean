import Mathlib.Data.Finset.Lattice.Lemmas
import Blindjoin.Round.Canonical
import Blindjoin.System.NoPanic

/-!
# What is registered in a round

Two more invariants of a round, beside `Blindjoin.RoundInv`.

* Every registered input was admitted: it covers the denomination and the fee
  share of the smallest round, its script type is allowed, and its change address
  parses (`Blindjoin.Admitted`).
* The registered outputs were accepted, one for each redeemed token, each token
  being the message of its output (`Blindjoin.Accepts`), and there are as many as
  the phase says: none during input registration, fewer than inputs during output
  registration, and as many as inputs afterwards (`Blindjoin.OutputsInv`).
-/

namespace Blindjoin

open Interleaving Collections

/-! ### Admitted inputs -/

/-- What is known of a registered input. -/
structure Admitted (E : Externals) (config : CoordinatorConfig) (reg : RegisteredInput) : Prop where
  covers : ∃ share, (estimateFeeShare config.bip config.coordinator.minParticipants
      config.coordinator.feeRateSatPerVbyte : Res HttpError ℕ) = .ok share ∧
    config.coordinator.denominationSats + share ≤ reg.valueSats
  allowed : config.bip.allows reg.scriptType = true
  change : ∃ script, ParsesTo E config reg.changeAddress script

/-- Every registered input was admitted. -/
def RoundStateInner.AllAdmitted (E : Externals) (config : CoordinatorConfig)
    (inner : RoundStateInner) : Prop :=
  ∀ utxoStr reg, inner.registeredInputs.lookup utxoStr = some reg → Admitted E config reg

section Inputs

variable {E : Externals} {config : CoordinatorConfig} {s s' : RoundState}
  {inner : RoundStateInner}

/-- What was validated is admitted. -/
theorem Validated.admitted {r : Registration}
    (h : Validated E config r.utxo r.changeAddress r.ownershipProof r.proofRoundId r.details) :
    Admitted E config r.registered where
  covers := h.covers
  allowed := by
    obtain ⟨_, _, hproof⟩ := h.proven
    exact (dispatchOwnershipProof_eq_ok hproof).2.1
  change := h.change

theorem RoundStateInner.AllAdmitted.withInput {r : Registration} (h : inner.AllAdmitted E config)
    (hr : Registers E config s inner r) : (inner.withInput r).AllAdmitted E config := by
  intro utxoStr reg hreg
  rcases HashMap.lookup_insert_cases hreg with ⟨rfl, rfl⟩ | hreg
  · exact hr.validated.admitted
  · exact h utxoStr reg hreg

/-- **Every step keeps the inputs admitted.** -/
theorem RoundStep.allAdmitted {fresh : Uuid} {es : List RoundEvent}
    (h : RoundStep E config fresh s es s')
    (hinv : ∀ inner, s.inner = some inner → inner.AllAdmitted E config) :
    ∀ inner, s'.inner = some inner → inner.AllAdmitted E config := by
  cases h with
  | unchanged => exact hinv
  | install hphase material =>
    intro inner hinner
    obtain rfl := Option.some.inj hinner
    exact fun _ _ hreg => absurd hreg (by simp [RoundMaterial.inner])
  | registerInput h =>
    intro inner hinner
    obtain rfl := Option.some.inj hinner
    exact (hinv _ h.inner_eq).withInput h
  | inputDeadline => exact hinv
  | registerOutput h =>
    intro inner hinner
    obtain rfl := Option.some.inj hinner
    have hadmitted := hinv _ h.inner_eq
    exact hadmitted
  | outputDeadline => exact hinv
  | recordSig hphase hiter hid hsub hout =>
    intro inner hinner
    obtain rfl := Option.some.inj hinner
    have hadmitted := hinv _ hsub.inner_eq
    exact hadmitted
  | complete hphase hiter hid hsub hout hdone =>
    intro inner hinner
    obtain rfl := Option.some.inj hinner
    have hadmitted := hinv _ hsub.inner_eq
    exact hadmitted
  | finish => exact fun inner hinner => absurd hinner (by simp [RoundState.newIdle])

/-- **The inputs of a round that ran were admitted.** -/
theorem RoundRun.allAdmitted {log : List RoundEvent} (h : RoundRun E config s log) :
    ∀ inner, s.inner = some inner → inner.AllAdmitted E config := by
  induction h with
  | start fresh => exact fun inner hinner => absurd hinner (by simp [RoundState.newIdle])
  | step _ hstep ih => exact hstep.allAdmitted ih

end Inputs

/-! ### Accepted outputs -/

/-- The token message of an output that pays the denomination to a script. -/
def tokenOf (E : Externals) (config : CoordinatorConfig) (script : Script) : Bytes32 :=
  computeBlindTokenMessage E script config.coordinator.denominationSats

/-- A registered output is one of the denomination, to a script. -/
def RegisteredOutput.Pays (E : Externals) (config : CoordinatorConfig) (out : RegisteredOutput)
    (script : Script) : Prop :=
  ParsesTo E config out.address script ∧ out.amountSats = config.coordinator.denominationSats

/-- The outputs of a round, paying these scripts, were accepted for the redeemed
tokens, one each. -/
structure Accepts (E : Externals) (config : CoordinatorConfig) (inner : RoundStateInner)
    (scripts : List Script) : Prop where
  outputs : List.Forall₂ (RegisteredOutput.Pays E config) inner.registeredOutputs scripts
  tokens : inner.redeemedTokens = (scripts.map (tokenOf E config)).toFinset
  nodup : (scripts.map (tokenOf E config)).Nodup

/-- The registered outputs of a round in a phase, with a participant count. -/
structure OutputsInv (E : Externals) (config : CoordinatorConfig) (phase : Phase) (count : ℕ)
    (inner : RoundStateInner) : Prop where
  accepts : ∃ scripts, Accepts E config inner scripts
  none_yet : phase = .inputReg → inner.registeredOutputs = []
  some_missing : phase = .outputReg → inner.registeredOutputs.length < count
  complete : phase.holdsSigs = true → inner.registeredOutputs.length = count

section Outputs

variable {E : Externals} {config : CoordinatorConfig} {s s' : RoundState}
  {inner : RoundStateInner} {scripts : List Script} {phase : Phase} {count : ℕ}

/-- An output accepted for a token that was not redeemed yet pays a new script. -/
theorem Accepts.withOutput {r : Redemption} (h : Accepts E config inner scripts)
    (hr : Redeems E config s inner r) :
    Accepts E config (inner.withOutput r) (scripts ++ [r.outputScript]) := by
  have htoken : tokenOf E config r.outputScript = r.tokenMsg := by
    rw [← hr.binds, hr.amount, tokenOf]
  have hnew : tokenOf E config r.outputScript ∉ scripts.map (tokenOf E config) := by
    have hunredeemed := hr.unredeemed
    rwa [h.tokens, List.mem_toFinset, ← htoken] at hunredeemed
  constructor
  · exact List.rel_append h.outputs (.cons ⟨hr.address, hr.amount⟩ .nil)
  · rw [List.map_append, List.toFinset_append, ← h.tokens, List.map_singleton, htoken]
    simp [RoundStateInner.withOutput]
  · rw [List.map_append, List.map_singleton, ← List.concat_eq_append]
    exact h.nodup.concat hnew

/-- What is accepted depends on the outputs and the redeemed tokens only. -/
theorem Accepts.congr {inner' : RoundStateInner} (h : Accepts E config inner scripts)
    (houtputs : inner'.registeredOutputs = inner.registeredOutputs)
    (htokens : inner'.redeemedTokens = inner.redeemedTokens) :
    Accepts E config inner' scripts :=
  ⟨houtputs ▸ h.outputs, htokens ▸ h.tokens, h.nodup⟩

theorem outputsInv_install (material : RoundMaterial) :
    OutputsInv E config .inputReg 0 material.inner where
  accepts := ⟨[], .nil, rfl, .nil⟩
  none_yet _ := rfl
  some_missing h := absurd h (by simp)
  complete h := absurd h (by decide)

/-- What the invariant says of another phase, of the same outputs. -/
theorem OutputsInv.advance {next : Phase} (h : OutputsInv E config phase count inner)
    (hnone : next = .inputReg → inner.registeredOutputs = [])
    (hmissing : next = .outputReg → inner.registeredOutputs.length < count)
    (hcomplete : next.holdsSigs = true → inner.registeredOutputs.length = count) :
    OutputsInv E config next count inner := ⟨h.accepts, hnone, hmissing, hcomplete⟩

/-- **Every step keeps the outputs in order.** That the last output closes the
registration is what makes their number exact. -/
theorem RoundStep.outputsInv {fresh : Uuid} {es : List RoundEvent} (hv : config.Valid)
    (hround : RoundInv config s) (h : RoundStep E config fresh s es s')
    (hinv : ∀ inner, s.inner = some inner → OutputsInv E config s.phase s.participantCount inner) :
    ∀ inner, s'.inner = some inner → OutputsInv E config s'.phase s'.participantCount inner := by
  have hpos : 0 < config.coordinator.minParticipants := by have := hv.two_le_min; omega
  cases h with
  | unchanged => exact hinv
  | install hphase material =>
    intro inner hinner
    obtain rfl := Option.some.inj hinner
    show OutputsInv E config .inputReg s.participantCount material.inner
    rw [(hround.cleared hphase).2.2]
    exact outputsInv_install material
  | @registerInput inner r h =>
    intro inner' hinner
    obtain rfl := Option.some.inj hinner
    have hnone := (hinv _ h.inner_eq).none_yet h.phase
    obtain ⟨scripts, hscripts⟩ := (hinv _ h.inner_eq).accepts
    refine ⟨⟨scripts, hscripts.congr rfl rfl⟩, fun _ => hnone, fun _ => ?_, fun hsigs => ?_⟩
    · show inner.registeredOutputs.length < s.participantCount + 1
      rw [hnone]
      exact Nat.succ_pos _
    · simp only [RoundState.withInput] at hsigs
      split at hsigs <;> exact absurd hsigs (by decide)
  | inputDeadline hphase hquorum =>
    intro inner hinner
    have hnone := (hinv _ hinner).none_yet hphase
    refine (hinv _ hinner).advance (fun h => absurd h (by simp)) (fun _ => ?_)
      fun h => absurd h (by simp [Phase.holdsSigs])
    show inner.registeredOutputs.length < s.participantCount
    rw [hnone]
    exact lt_of_lt_of_le hpos hquorum
  | @registerOutput inner r h =>
    intro inner' hinner
    obtain rfl := Option.some.inj hinner
    obtain ⟨scripts, hscripts⟩ := (hinv _ h.inner_eq).accepts
    have hmissing := (hinv _ h.inner_eq).some_missing h.phase
    have hmin := (hround.inner _ h.inner_eq).min_le (by rw [h.phase]; rfl)
    have hlen : (inner.withOutput r).registeredOutputs.length =
        inner.registeredOutputs.length + 1 := List.length_append
    refine ⟨⟨_, hscripts.withOutput h⟩, fun hphase => ?_, fun hphase => ?_, fun hsigs => ?_⟩
    · simp only [RoundState.withOutput] at hphase
      split at hphase <;> exact absurd hphase (by simp)
    · simp only [RoundState.withOutput] at hphase ⊢
      split at hphase
      · exact absurd hphase (by simp)
      · omega
    · simp only [RoundState.withOutput] at hsigs ⊢
      split at hsigs
      · omega
      · exact absurd hsigs (by decide)
  | outputDeadline hphase hall =>
    -- an output is missing as long as the registration is open
    intro inner hinner
    have hmissing := (hinv _ hinner).some_missing hphase
    have hcount := (hround.inner _ hinner).count_eq
    have hinner' : s.inner = some inner := hinner
    simp only [RoundState.missesOutputs, hinner', hasMissingOutputs,
      decide_eq_false_iff_not] at hall
    omega
  | @recordSig hphase inner iter hiter sub hid hsub hout =>
    intro inner' hinner
    obtain rfl := Option.some.inj hinner
    have h := hinv _ hsub.inner_eq
    obtain ⟨scripts, hscripts⟩ := h.accepts
    exact ⟨⟨scripts, hscripts.congr rfl rfl⟩, h.none_yet, h.some_missing, h.complete⟩
  | @complete hphase inner iter hiter sub hid hsub prepared hout hdone =>
    intro inner' hinner
    obtain rfl := Option.some.inj hinner
    have h := hinv _ hsub.inner_eq
    have hcomplete := h.complete (by rw [hphase]; rfl)
    obtain ⟨scripts, hscripts⟩ := h.accepts
    exact ⟨⟨scripts, hscripts.congr rfl rfl⟩, fun h => absurd h (by simp),
      fun h => absurd h (by simp), fun _ => hcomplete⟩
  | finish => exact fun inner hinner => absurd hinner (by simp [RoundState.newIdle])

/-- **The outputs of a round that ran are in order.** -/
theorem RoundRun.outputsInv {log : List RoundEvent} (hv : config.Valid)
    (h : RoundRun E config s log) :
    ∀ inner, s.inner = some inner → OutputsInv E config s.phase s.participantCount inner := by
  induction h with
  | start fresh => exact fun inner hinner => absurd hinner (by simp [RoundState.newIdle])
  | step hrun hstep ih => exact hstep.outputsInv hv (hrun.roundInv hv) ih

/-- **There are never more outputs than inputs.** -/
theorem RoundRun.outputs_le_inputs {log : List RoundEvent} (hv : config.Valid)
    (h : RoundRun E config s log) (hinner : s.inner = some inner) :
    inner.registeredOutputs.length ≤ HashMap.len inner.registeredInputs := by
  have hround := h.roundInv hv
  have hout := h.outputsInv hv inner hinner
  rw [← (hround.inner inner hinner).count_eq]
  cases hphase : s.phase with
  | idle => exact absurd (hround.idle_iff.mp hphase) (by simp [hinner])
  | inputReg => simp [hout.none_yet hphase]
  | outputReg => exact (hout.some_missing hphase).le
  | signing => exact (hout.complete (by rw [hphase]; rfl)).le
  | broadcast => exact (hout.complete (by rw [hphase]; rfl)).le
  | blame => exact absurd hphase hround.not_blame

end Outputs

end Blindjoin
