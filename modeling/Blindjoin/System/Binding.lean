import Blindjoin.System.Ledger
import Blindjoin.System.Recorded

/-!
# Ownership proofs and rounds

An ownership proof names the round it was made for. A registration checks it
against the round id it remembered before it asked the node, and when it takes
the write lock it checks the phase again, but not the round id. If another round
has reached input registration by then, the input is registered there.

`Blindjoin.SnapshotCurrent` is the condition under which this does not happen:
**in every run that meets it, every registered input was proven for the round it
is registered in** (`Blindjoin.bound_of_reachable`).
-/

namespace Blindjoin

open Interleaving Collections

/-! ### Statement -/

/-- Every registered input of a round was registered with a proof verified for
this round: the round id of the registration's snapshot, which its message was made
of, is that of the round, and the proof is one for the message that names this round
and this coin. -/
def BoundToRound (E : Externals) (config : CoordinatorConfig) (s : RoundState)
    (log : List RoundEvent) : Prop :=
  ∀ inner, s.inner = some inner → ∀ utxoStr reg,
    inner.registeredInputs.lookup utxoStr = some reg →
    ∃ r network, .inputRegistered r ∈ log ∧ r.roundId = s.roundId ∧ r.utxo.toText = utxoStr ∧
      r.registered = reg ∧ r.proofRoundId = s.roundId.toText ∧
      parseBitcoinNetwork config.network.bitcoinNetwork = .ok network ∧
      dispatchOwnershipProof E reg.scriptPubkey r.ownershipProof network config.bip
        (utf8 ("blindjoin:round:" ++ s.roundId.toText ++ ":utxo:" ++ utxoStr)) =
        .ok reg.scriptType

/-- A round in which a coin can be registered. -/
def Registrable (E : Externals) (config : CoordinatorConfig) (s : RoundState) (utxo : OutPoint)
    (blindedToken : Bytes) : Prop :=
  s.phase = .inputReg ∧ s.participantCount < config.coordinator.maxParticipants ∧
  ∃ inner signer sig, s.inner = some inner ∧ utxo.toText ∉ inner.registeredInputs ∧
    inner.rsaSigner = some signer ∧ E.blindSign signer.secretKey blindedToken = .ok sig

/-- A validated registration that takes the write lock, and finds a round it can
register in, finds the round it was validated for. -/
def SnapshotCurrent (E : Externals) (config : CoordinatorConfig) (s : Coordinator) (t : Task)
    (_ : Choice) : Prop :=
  match t with
  | .postInput _ (.validated utxo blindedToken _ snapshot _) =>
    Registrable E config s.round utxo blindedToken → snapshot.roundId = s.round.roundId.toText
  | _ => True

section Proof

variable {E : Externals} {config : CoordinatorConfig} {s : Coordinator} {c : Choice}
  {r : Registration}

/-! ### Where registrations come from -/

theorem Registers.registrable {s : RoundState} {inner : RoundStateInner}
    (h : Registers E config s inner r) : Registrable E config s r.utxo r.blindedToken := by
  obtain ⟨signer, hsigner, hsig⟩ := h.signed
  exact ⟨h.phase, h.room, inner, signer, r.blindSignature, h.inner_eq, h.new, hsigner, hsig⟩

/-- Only a validated registration registers an input: the one it validated, with
the proof it checked, in the round it finds. -/
theorem exec_registration {t : Task} {e : Section} (h : exec E config s t c = some e)
    (hr : .inputRegistered r ∈ roundEvents e.events) :
    ∃ req snapshot round result,
      t = .postInput req (.validated r.utxo r.blindedToken r.ownershipProof snapshot r.details) ∧
      postInputRegister E config s.round req r.utxo r.blindedToken r.details =
        .ok (round, result) ∧
      r.roundId = s.round.roundId ∧ r.changeAddress = req.changeAddress ∧
      r.proofRoundId = snapshot.roundId := by
  rcases exec_emits h hr with hphase | hemits
  · rcases mem_phaseEvents hphase with h | h <;> exact absurd h (by simp)
  · cases hemits with
    | inputRegistered hreg => exact ⟨_, _, _, _, rfl, hreg, rfl, rfl, rfl⟩

/-! ### What the log knows of a registration -/

theorem RoundStep.validated {s s' : RoundState} {fresh : Uuid} {es : List RoundEvent}
    (h : RoundStep E config fresh s es s') (hr : .inputRegistered r ∈ es) :
    Validated E config r.utxo r.changeAddress r.ownershipProof r.proofRoundId r.details := by
  cases h with
  | registerInput h =>
    obtain rfl := RoundEvent.inputRegistered.inj (List.mem_singleton.mp hr)
    exact h.validated
  | finish h => cases h <;> exact absurd hr (by simp)
  | _ => exact absurd hr (by simp)

/-- **Every registration of a round that ran was validated.** -/
theorem RoundRun.validated {s : RoundState} {log : List RoundEvent}
    (h : RoundRun E config s log) : ∀ r, .inputRegistered r ∈ log →
      Validated E config r.utxo r.changeAddress r.ownershipProof r.proofRoundId r.details := by
  induction h with
  | start fresh => exact fun r hr => absurd hr (by simp)
  | step _ hstep ih =>
    intro r hr
    rcases List.mem_append.mp hr with hr | hr
    · rcases List.mem_append.mp hr with hphase | hr
      · rcases mem_phaseEvents hphase with h | h <;> exact absurd h (by simp)
      · exact hstep.validated hr
    · exact ih r hr

variable {fresh : Uuid} {banList : BanList} {w : World Coordinator Task Event}

/-- **What every registration has when it takes the write lock, every registration of
the log has**, in a run whose sections all meet a condition. -/
theorem registrations_of_reachable {ok : Coordinator → Task → Choice → Prop}
    {P : Registration → Prop}
    (hr : ReachableVia (coordinator E config) ok (startup fresh banList) w)
    (hstep : ∀ (s : Coordinator) (c : Choice) (req : InputRegRequest) (snapshot : InputSnapshot)
      (r : Registration),
      ok s (.postInput req (.validated r.utxo r.blindedToken r.ownershipProof snapshot
        r.details)) c →
      Registrable E config s.round r.utxo r.blindedToken → r.roundId = s.round.roundId →
      r.changeAddress = req.changeAddress → r.proofRoundId = snapshot.roundId → P r) :
    ∀ r, .inputRegistered r ∈ roundEvents w.log → P r := by
  refine hr.shared (fun _ log => ∀ r, .inputRegistered r ∈ roundEvents log → P r)
    (fun _ => True) (fun _ _ _ => trivial) (fun r hr => absurd hr (by simp [startup]))
    (fun {w t c e} hw ht hok he _ ih r hr => ?_) trivial
  rw [roundEvents_append] at hr
  rcases List.mem_append.mp hr with hr | hr
  · obtain ⟨req, snapshot, round, result, rfl, hreg, hid, haddress, hproof⟩ :=
      exec_registration he hr
    have hvalid : Validated E config r.utxo req.changeAddress r.ownershipProof snapshot.roundId
        r.details := sound_of_reachable hw _ ht
    obtain ⟨inner, hregisters, -⟩ := postInputRegister_eq_ok hreg hvalid
    exact hstep _ _ _ _ r hok hregisters.registrable hid haddress hproof
  · exact ih r hr

/-- In a run that meets the condition, every proof was checked against the id of
the round it led into. -/
theorem proofRoundId_of_reachable
    (hr : ReachableVia (coordinator E config) (SnapshotCurrent E config)
      (startup fresh banList) w) :
    ∀ r, .inputRegistered r ∈ roundEvents w.log → r.proofRoundId = r.roundId.toText := by
  refine registrations_of_reachable hr fun s c req snapshot r hok hreg hid _ hproof => ?_
  rw [hproof, hid]
  exact hok hreg

/-- **Registered inputs are bound to their round** in every run that meets the
condition: whatever rounds ended and began while a registration was validated,
every registered input has a registration whose proof was verified for the
message naming this round and this coin. -/
theorem bound_of_reachable (hvalid : config.validate = .ok ())
    (hr : ReachableVia (coordinator E config) (SnapshotCurrent E config)
      (startup fresh banList) w) :
    BoundToRound E config w.shared.round (roundEvents w.log) := by
  have hrun := roundRun_of_reachable hr
  have hledger := hrun.ledger (CoordinatorConfig.valid_of_validate hvalid)
  intro inner hinner utxoStr reg hreg
  obtain ⟨r, hmem, rfl, rfl⟩ := (hledger inner hinner).exists_registration hreg
  have hlog := mem_of_mem_currentEvents hmem
  have hid : r.roundId = w.shared.round.roundId := (hledger inner hinner).roundIds _ hmem
  obtain ⟨network, hnet, hproof⟩ := (hrun.validated r hlog).proven
  have hproofId := proofRoundId_of_reachable hr r hlog
  rw [hid] at hproofId
  rw [hproofId] at hproof
  exact ⟨r, network, hlog, hid, rfl, rfl, hproofId, hnet, hproof⟩

end Proof

/-! ### Two registrations -/

/-- The round a registration was validated for is the one it finds. -/
def snapshotCurrent (s : Coordinator) (t : Task) (_ : Choice) : Bool :=
  match t with
  | .postInput _ (.validated _ _ _ snapshot _) => snapshot.roundId = s.round.roundId.toText
  | _ => true

theorem snapshotCurrent_sound {E : Externals} {config : CoordinatorConfig} {s : Coordinator}
    {t : Task} {c : Choice} (h : snapshotCurrent s t c = true) :
    SnapshotCurrent E config s t c := by
  cases t with
  | postInput req stage =>
    cases stage with
    | validated utxo blindedToken proof snapshot details => exact fun _ => of_decide_eq_true h
    | _ => exact trivial
  | _ => exact trivial

/-- The first participant registers. -/
def registeredMoves : List Move :=
  startMoves firstKeys ++ inputMoves 1 firstInput (unspentAnswer "0.01020000" firstScript)

theorem bound_of_reachable_session :
    (worldAfter registeredMoves snapshotCurrent).shared.round.participantCount = 1 ∧
    BoundToRound session.externals configOfTwo
      (worldAfter registeredMoves snapshotCurrent).shared.round
      (roundEvents (worldAfter registeredMoves snapshotCurrent).log) :=
  ⟨by decide +kernel, bound_of_reachable configOfTwo_validate
    ((worldAfter_reachableVia registeredMoves snapshotCurrent).mono fun _ _ _ =>
      snapshotCurrent_sound)⟩

/-- The first participant is validated, the round ends with too few participants,
another one begins, and the registration takes the write lock. -/
def lateMoves : List Move :=
  startMoves firstKeys ++ validateMoves 1 firstInput (unspentAnswer "0.01020000" firstScript) ++
    [.run 0 {}, .run 2 { fresh := secondRound }] ++ startMoves secondKeys ++ [.run 1 {}]

/-- **A proof for an ended round registers in the next one**: the coin is registered
under the second round id, with a proof that does not verify for it. -/
theorem exists_unbound :
    Reachable (coordinator session.externals configOfTwo) (startup firstRound .new)
      (worldAfter lateMoves) ∧
    (worldAfter lateMoves).shared.round.roundId = secondRound ∧
    ((registrations (roundEvents (worldAfter lateMoves).log)).map fun r =>
      (r.roundId, r.proofRoundId)) = [(secondRound, firstRound.toText)] ∧
    ¬BoundToRound session.externals configOfTwo (worldAfter lateMoves).shared.round
      (roundEvents (worldAfter lateMoves).log) := by
  have hrun : (worldAfter lateMoves).shared.round.roundId = secondRound ∧
      ((registrations (roundEvents (worldAfter lateMoves).log)).map fun r =>
        (r.roundId, r.proofRoundId)) = [(secondRound, firstRound.toText)] ∧
      ((worldAfter lateMoves).shared.round.inner.bind fun inner =>
        inner.registeredInputs.lookup firstCoin.toText) =
          some ⟨firstCoin.toText, firstInput.changeAddress, firstScript, 1020000, .p2wpkh⟩ ∧
      ∀ r ∈ registrations (roundEvents (worldAfter lateMoves).log),
        dispatchOwnershipProof session.externals firstScript r.ownershipProof .signet
          configOfTwo.bip (utf8 ("blindjoin:round:" ++ secondRound.toText ++ ":utxo:" ++
            firstCoin.toText)) ≠ .ok .p2wpkh := by
    decide +kernel
  obtain ⟨hid, hproofs, hregistered, hrefused⟩ := hrun
  refine ⟨worldAfter_reachable _, hid, hproofs, fun hbound => ?_⟩
  obtain ⟨inner, hinner, hlookup⟩ := Option.bind_eq_some_iff.mp hregistered
  obtain ⟨r, network, hmem, -, -, -, -, hnet, hproof⟩ := hbound inner hinner _ _ hlookup
  have hsignet : parseBitcoinNetwork configOfTwo.network.bitcoinNetwork = .ok .signet := rfl
  obtain rfl : Network.signet = network := Except.ok.inj (hsignet.symm.trans hnet)
  rw [hid] at hproof
  exact hrefused r (mem_registrations.mpr hmem) hproof

end Blindjoin
