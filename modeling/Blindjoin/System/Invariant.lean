import Blindjoin.System.Sections

/-!
# The invariant of the round

The phase, the participant counter, the maps and the keys are updated by
different handlers and timers, under separate holds of the lock. What they keep
between them is `Blindjoin.RoundInv`: an idle round is empty, a running one has
its keys, counts its inputs, and holds signatures of registered inputs only.

It is an invariant of the steps of a round (`Blindjoin.RoundStep.roundInv`), so
it holds in every reachable world (`Blindjoin.roundInv_of_reachable`). Under it
no handler misses the keys it unwraps, and no task ever panics
(`Blindjoin.roundInv_and_noPanic`).
-/

namespace Blindjoin

open Interleaving Collections

/-! ### Statement -/

/-- The phases after input registration, in which the participants are fixed. -/
def Phase.inputsClosed : Phase → Bool
  | .outputReg => true
  | .signing => true
  | .broadcast => true
  | _ => false

/-- The phases in which signatures are collected or used. -/
def Phase.holdsSigs : Phase → Bool
  | .signing => true
  | .broadcast => true
  | _ => false

/-- Signatures are collected when the participants are fixed. -/
theorem Phase.inputsClosed_of_holdsSigs {phase : Phase} (h : phase.holdsSigs = true) :
    phase.inputsClosed = true := by
  cases phase <;> first | rfl | exact absurd h (by decide)

/-- What holds of the inner state of a round in a phase, with a participant
count. -/
structure InnerInv (config : CoordinatorConfig) (phase : Phase) (count : ℕ)
    (inner : RoundStateInner) : Prop where
  signer : ∃ signer, inner.rsaSigner = some signer
  count_eq : count = HashMap.len inner.registeredInputs
  le_max : count ≤ config.coordinator.maxParticipants
  min_le : phase.inputsClosed = true → config.coordinator.minParticipants ≤ count
  keys : ∀ utxoStr reg, inner.registeredInputs.lookup utxoStr = some reg →
    reg.utxoStr = utxoStr ∧ ∃ utxo : OutPoint, utxo.toText = utxoStr
  signed : ∀ utxoStr ∈ inner.partialSigs, utxoStr ∈ inner.registeredInputs
  unsigned : phase.holdsSigs = false → inner.partialSigs = ∅

/-- **The invariant of the round.** -/
structure RoundInv (config : CoordinatorConfig) (s : RoundState) : Prop where
  idle_iff : s.phase = .idle ↔ s.inner = none
  cleared : s.phase = .idle →
    s.rsaPubkeyHash = none ∧ s.rsaPubkeyDer = none ∧ s.participantCount = 0
  not_blame : s.phase ≠ .blame
  inner : ∀ inner, s.inner = some inner → InnerInv config s.phase s.participantCount inner

section Steps

variable {E : Externals} {config : CoordinatorConfig} {s s' : RoundState}
  {inner : RoundStateInner} {phase : Phase} {count : ℕ}

theorem roundInv_newIdle (config : CoordinatorConfig) (fresh : Uuid) :
    RoundInv config (RoundState.newIdle fresh) where
  idle_iff := by simp [RoundState.newIdle]
  cleared _ := ⟨rfl, rfl, rfl⟩
  not_blame := by simp [RoundState.newIdle]
  inner _ h := absurd h (by simp [RoundState.newIdle])

/-- A running round satisfies the invariant when its inner state does. -/
theorem RoundInv.of_running (hidle : s.phase ≠ .idle) (hblame : s.phase ≠ .blame)
    (hinner : s.inner = some inner) (h : InnerInv config s.phase s.participantCount inner) :
    RoundInv config s where
  idle_iff := by simp [hidle, hinner]
  cleared he := absurd he hidle
  not_blame := hblame
  inner _ he := by
    rw [hinner, Option.some.injEq] at he
    exact he ▸ h

/-- A round that is not idle has its inner state. -/
theorem RoundInv.exists_inner (hinv : RoundInv config s) (h : s.phase ≠ .idle) :
    ∃ inner, s.inner = some inner ∧ InnerInv config s.phase s.participantCount inner := by
  obtain ⟨inner, hinner⟩ := Option.ne_none_iff_exists'.mp (mt hinv.idle_iff.mpr h)
  exact ⟨inner, hinner, hinv.inner inner hinner⟩

/-! ### Steps -/

/-- A round that has just started. -/
theorem innerInv_install (material : RoundMaterial) :
    InnerInv config .inputReg 0 material.inner where
  signer := ⟨material.signer, rfl⟩
  count_eq := rfl
  le_max := Nat.zero_le _
  min_le h := absurd h (by decide)
  keys _ _ h := absurd h (by simp [RoundMaterial.inner])
  signed _ h := absurd h (AList.notMem_empty _)
  unsigned _ := rfl

/-- A round moves on to a phase that asks for no more than is there. -/
theorem InnerInv.advance {next : Phase} (h : InnerInv config phase count inner)
    (hmin : next.inputsClosed = true → config.coordinator.minParticipants ≤ count)
    (hsigs : phase.holdsSigs = false ∨ next.holdsSigs = true) :
    InnerInv config next count inner where
  signer := h.signer
  count_eq := h.count_eq
  le_max := h.le_max
  min_le := hmin
  keys := h.keys
  signed := h.signed
  unsigned hnext := by
    rcases hsigs with hphase | hsigs
    · exact h.unsigned hphase
    · exact absurd hnext (by simp [hsigs])

/-- A registered input is counted. -/
theorem InnerInv.withInput {r : Registration} (h : InnerInv config .inputReg count inner)
    (hroom : count < config.coordinator.maxParticipants)
    (hnew : r.utxo.toText ∉ inner.registeredInputs) :
    InnerInv config .inputReg (count + 1) (inner.withInput r) where
  signer := h.signer
  count_eq := by rw [h.count_eq, RoundStateInner.withInput, HashMap.len_insert _ hnew]
  le_max := hroom
  min_le hclosed := absurd hclosed (by decide)
  keys utxoStr reg hreg := by
    rcases HashMap.lookup_insert_cases hreg with ⟨rfl, rfl⟩ | hreg
    · exact ⟨rfl, r.utxo, rfl⟩
    · exact h.keys utxoStr reg hreg
  signed utxoStr hsig := (AList.mem_insert _).mpr (Or.inr (h.signed utxoStr hsig))
  unsigned hsigs := h.unsigned hsigs

/-- A registered output changes nothing the invariant speaks of. -/
theorem InnerInv.withOutput {r : Redemption} (h : InnerInv config phase count inner) :
    InnerInv config phase count (inner.withOutput r) :=
  ⟨h.signer, h.count_eq, h.le_max, h.min_le, h.keys, h.signed, h.unsigned⟩

/-- A recorded signature is one of a registered input. -/
theorem InnerInv.withSig {utxo : OutPoint} (partialSig : Bytes)
    (h : InnerInv config phase count inner) (hsigs : phase.holdsSigs = true)
    (hreg : utxo.toText ∈ inner.registeredInputs) :
    InnerInv config phase count (inner.withSig utxo partialSig) where
  signer := h.signer
  count_eq := h.count_eq
  le_max := h.le_max
  min_le := h.min_le
  keys := h.keys
  signed utxoStr hsig := by
    rcases (AList.mem_insert _).mp hsig with rfl | hsig
    · exact hreg
    · exact h.signed utxoStr hsig
  unsigned hphase := absurd hphase (by simp [hsigs])

/-- A submission is one for a registered input. -/
theorem Submissible.mem_registeredInputs {utxo : OutPoint} {partialSig : Bytes}
    {sessionToken : Bytes32} {roundIdStr : String} {values : List RegisteredInput}
    (h : Submissible E s config utxo partialSig sessionToken roundIdStr values inner) :
    utxo.toText ∈ inner.registeredInputs := by
  obtain ⟨reg, _, _, hreg, -⟩ := h.verified
  exact HashMap.mem_of_lookup hreg

/-- **Every step keeps the invariant.** -/
theorem RoundStep.roundInv {fresh : Uuid} {es : List RoundEvent} (hv : config.Valid)
    (h : RoundStep E config fresh s es s') (hinv : RoundInv config s) : RoundInv config s' := by
  cases h with
  | unchanged => exact hinv
  | install hphase material =>
    refine .of_running (by simp) (by simp) rfl ?_
    show InnerInv config .inputReg s.participantCount material.inner
    rw [(hinv.cleared hphase).2.2]
    exact innerInv_install material
  | @registerInput inner r h =>
    have hinner := (h.phase ▸ hinv.inner inner h.inner_eq).withInput h.room h.new
    rw [RoundState.withInput]
    split
    · next hfull =>
      refine .of_running (by simp) (by simp) rfl (hinner.advance (fun _ => ?_) (Or.inl rfl))
      exact hv.min_le_max.trans hfull
    · exact .of_running (by simp) (by simp) rfl hinner
  | inputDeadline hphase hquorum =>
    obtain ⟨inner, heq, hinner⟩ := hinv.exists_inner (by simp [hphase])
    rw [hphase] at hinner
    exact .of_running (by simp) (by simp) heq (hinner.advance (fun _ => hquorum) (Or.inl rfl))
  | @registerOutput inner r h =>
    have hinner := (h.phase ▸ hinv.inner inner h.inner_eq).withOutput (r := r)
    rw [RoundState.withOutput]
    split
    · exact .of_running (by simp) (by simp) rfl
        (hinner.advance (fun _ => hinner.min_le rfl) (Or.inl rfl))
    · exact .of_running (by simp) (by simp) rfl hinner
  | outputDeadline hphase hall =>
    obtain ⟨inner, heq, hinner⟩ := hinv.exists_inner (by simp [hphase])
    rw [hphase] at hinner
    exact .of_running (by simp) (by simp) heq
      (hinner.advance (fun _ => hinner.min_le rfl) (Or.inl rfl))
  | recordSig hphase hiter hid hsub hout =>
    have hinner := hinv.inner _ hsub.inner_eq
    rw [hphase] at hinner
    refine .of_running (by simp [hphase]) (by simp [hphase]) rfl ?_
    simp only [hphase]
    exact hinner.withSig _ rfl hsub.mem_registeredInputs
  | @complete hphase inner iter hiter sub hid hsub prepared hout hdone =>
    have hinner := hinv.inner _ hsub.inner_eq
    rw [hphase] at hinner
    have hsigned := hinner.withSig sub.partialSig rfl hsub.mem_registeredInputs
    exact .of_running (by simp) (by simp) rfl
      (hsigned.advance (fun _ => hinner.min_le rfl) (Or.inr rfl))
  | finish h => exact roundInv_newIdle config fresh

/-- **The invariant holds of a round that ran.** -/
theorem RoundRun.roundInv {log : List RoundEvent} (hv : config.Valid)
    (h : RoundRun E config s log) : RoundInv config s := by
  induction h with
  | start fresh => exact roundInv_newIdle config fresh
  | step _ hstep ih => exact hstep.roundInv hv ih

end Steps

end Blindjoin
