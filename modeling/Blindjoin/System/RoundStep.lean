import Blindjoin.System.Program

/-!
# What a section can do to the round

Whatever task runs, what its section does to the round is one of nine things, the
constructors of `Blindjoin.RoundStep`. Each carries everything the code checked
before it acted, so that the invariants of the round need not look at the code
again. A `Blindjoin.RoundRun` is a round that started idle and took such steps,
with its events, newest first.
-/

namespace Blindjoin

open Collections

/-! ### Registrations and redemptions -/

/-- What is kept of a registration. -/
def Registration.registered (r : Registration) : RegisteredInput where
  utxoStr := r.utxo.toText
  changeAddress := r.changeAddress
  scriptPubkey := r.details.scriptPubkey
  valueSats := r.details.valueSats
  scriptType := r.details.scriptType

/-- The inner state with an input registered. -/
def RoundStateInner.withInput (inner : RoundStateInner) (r : Registration) : RoundStateInner :=
  { inner with registeredInputs := inner.registeredInputs.insert r.utxo.toText r.registered }

/-- The state with an input registered; the last one opens output registration. -/
def RoundState.withInput (config : CoordinatorConfig) (s : RoundState) (inner : RoundStateInner)
    (r : Registration) : RoundState :=
  { s with
    phase := if config.coordinator.maxParticipants ≤ s.participantCount + 1 then .outputReg
      else .inputReg
    participantCount := s.participantCount + 1
    inner := some (inner.withInput r) }

/-- The inner state with an output registered. -/
def RoundStateInner.withOutput (inner : RoundStateInner) (r : Redemption) : RoundStateInner :=
  { inner with
    redeemedTokens := insert r.tokenMsg inner.redeemedTokens
    registeredOutputs := inner.registeredOutputs ++ [r.output] }

/-- The state with an output registered; the last one opens signing. -/
def RoundState.withOutput (s : RoundState) (inner : RoundStateInner) (r : Redemption) :
    RoundState :=
  { s with
    phase := if s.participantCount ≤ inner.registeredOutputs.length + 1 ∧
        0 < s.participantCount then .signing else .outputReg
    inner := some (inner.withOutput r) }

variable (E : Externals) (config : CoordinatorConfig)

/-- What was checked of a registration. -/
structure Registers (s : RoundState) (inner : RoundStateInner) (r : Registration) : Prop where
  phase : s.phase = .inputReg
  inner_eq : s.inner = some inner
  room : s.participantCount < config.coordinator.maxParticipants
  roundId : r.roundId = s.roundId
  new : r.utxo.toText ∉ inner.registeredInputs
  signed : ∃ signer, inner.rsaSigner = some signer ∧
    E.blindSign signer.secretKey r.blindedToken = .ok r.blindSignature
  session : r.sessionToken = generateSessionToken E inner.roundSecret r.utxo
  validated : Validated E config r.utxo r.changeAddress r.ownershipProof r.proofRoundId r.details

/-- What was checked of an output. -/
structure Redeems (s : RoundState) (inner : RoundStateInner) (r : Redemption) : Prop where
  phase : s.phase = .outputReg
  inner_eq : s.inner = some inner
  roundId : r.roundId = s.roundId
  amount : r.output.amountSats = config.coordinator.denominationSats
  signed : ∃ signer, inner.rsaSigner = some signer ∧
    E.rsaVerify signer.publicKey r.sigBytes r.msgRandomizer r.tokenMsg.toList = true
  binds : computeBlindTokenMessage E r.outputScript r.output.amountSats = r.tokenMsg
  unredeemed : r.tokenMsg ∉ inner.redeemedTokens
  address : ParsesTo E config r.output.address r.outputScript

/-- The keys are iterated in some order. -/
def RoundState.IteratesKeys (s : RoundState) (keys : List String) : Prop :=
  ∀ inner ∈ s.inner, keys.Perm inner.registeredInputs.keys

/-! ### The steps of a round -/

/-- Why a round ends, and the event of it. -/
inductive RoundEnds (s : RoundState) : List RoundEvent → Prop
  /-- Too few participants at the end of input registration. -/
  | tooFewInputs (h : s.phase = .inputReg)
      (hfew : s.participantCount < config.coordinator.minParticipants) : RoundEnds s []
  /-- Outputs are missing at the end of output registration. -/
  | missingOutputs (h : s.phase = .outputReg) (hmiss : s.missesOutputs = true) : RoundEnds s []
  /-- The signing deadline. -/
  | signingDeadline (h : s.phase = .signing) {keys : List String} (hkeys : s.IteratesKeys keys) :
      RoundEnds s [.signingTimedOut s.roundId (s.nonSigners keys)]
  /-- The broadcast succeeded. -/
  | broadcastSucceeded (h : s.phase = .broadcast) : RoundEnds s [.broadcastSucceeded s.roundId]
  /-- The broadcast failed. -/
  | broadcastFailed (h : s.phase = .broadcast) (banned : List String) :
      RoundEnds s [.broadcastFailed s.roundId banned]
  /-- The watchdog fired. -/
  | watchdog (h : s.phase = .broadcast) : RoundEnds s []

/-- What a section can do to a round: from the state before it, with the events
of the section, to the state after it. `fresh` is the round id a round that
ends is replaced under. -/
inductive RoundStep (fresh : Uuid) (s : RoundState) : List RoundEvent → RoundState → Prop
  | unchanged : RoundStep fresh s [] s
  | install (h : s.phase = .idle) (material : RoundMaterial) :
      RoundStep fresh s [.installed s.roundId material]
        { s.withMaterial material with phase := .inputReg }
  | registerInput {inner : RoundStateInner} {r : Registration}
      (h : Registers E config s inner r) :
      RoundStep fresh s [.inputRegistered r] (s.withInput config inner r)
  | inputDeadline (h : s.phase = .inputReg)
      (hquorum : config.coordinator.minParticipants ≤ s.participantCount) :
      RoundStep fresh s [] { s with phase := .outputReg }
  | registerOutput {inner : RoundStateInner} {r : Redemption} (h : Redeems E config s inner r) :
      RoundStep fresh s [.outputRegistered r] (s.withOutput inner r)
  | outputDeadline (h : s.phase = .outputReg) (hall : s.missesOutputs = false) :
      RoundStep fresh s [] { s with phase := .signing }
  | recordSig (h : s.phase = .signing) {inner : RoundStateInner} {iter : SignIteration}
      (hiter : iter.Of inner) {sub : Submission} (hid : sub.roundId = s.roundId)
      (hsub : Submissible E s config sub.utxo sub.partialSig sub.sessionToken s.roundId.toText
        iter.verify inner)
      (hout : ∀ prepared, sub.outcome ≠ .ok (.readyToBroadcast prepared)) :
      RoundStep fresh s [.sigRecorded sub]
        { s with inner := some (inner.withSig sub.utxo sub.partialSig) }
  | complete (h : s.phase = .signing) {inner : RoundStateInner} {iter : SignIteration}
      (hiter : iter.Of inner) {sub : Submission} (hid : sub.roundId = s.roundId)
      (hsub : Submissible E s config sub.utxo sub.partialSig sub.sessionToken s.roundId.toText
        iter.verify inner)
      {prepared : PreparedBroadcast} (hout : sub.outcome = .ok (.readyToBroadcast prepared))
      (hdone : Completes E s config s.roundId.toText iter
        (inner.withSig sub.utxo sub.partialSig) prepared) :
      RoundStep fresh s [.sigRecorded sub]
        { s with
          phase := .broadcast
          inner := some (inner.withSig sub.utxo sub.partialSig) }
  | finish {es : List RoundEvent} (h : RoundEnds config s es) :
      RoundStep fresh s es (RoundState.newIdle fresh)

/-- A round that ran: from an idle state, step by step, to the state it is in,
with its events. -/
inductive RoundRun : RoundState → List RoundEvent → Prop
  | start (fresh : Uuid) :
      RoundRun (RoundState.newIdle fresh) [.visible fresh .idle, .minted fresh]
  | step {s s' : RoundState} {log es : List RoundEvent} {fresh : Uuid} : RoundRun s log →
      RoundStep E config fresh s es s' → RoundRun s' (phaseEvents s s' fresh ++ es ++ log)

variable {E config}

/-! ### Requests as steps -/

/-- **A registration that succeeds is a step.** -/
theorem postInputRegister_eq_ok {s s' : RoundState} {req : InputRegRequest} {utxo : OutPoint}
    {blindedToken : Bytes} {details : UtxoDetails} {result : InputRegResult}
    (h : postInputRegister E config s req utxo blindedToken details = .ok (s', result))
    {proof : OwnershipProof} {proofRoundId : String}
    (hv : Validated E config utxo req.changeAddress proof proofRoundId details) :
    ∃ inner, Registers E config s inner ⟨s.roundId, utxo, req.changeAddress, proof, proofRoundId,
        details, blindedToken, result.blindSignature, result.sessionToken⟩ ∧
      s' = s.withInput config inner ⟨s.roundId, utxo, req.changeAddress, proof, proofRoundId,
        details, blindedToken, result.blindSignature, result.sessionToken⟩ := by
  simp only [postInputRegister, registerInput, bind_eq_ok, ofExcept_eq_ok, checkPhase_eq_ok,
    require_eq_ok, mapErr_eq_ok, okOr_eq_ok, expect_eq_ok] at h
  obtain ⟨_, hphase, _, hroom, _, -, ⟨s₁, result₁⟩,
    ⟨inner, hinner, _, hnew, signer, hsigner, sig, hsig, heq₁⟩, heq⟩ := h
  obtain ⟨rfl, rfl⟩ := Prod.mk.inj (Except.ok.inj heq₁)
  obtain ⟨rfl, rfl⟩ := Prod.mk.inj (Except.ok.inj heq)
  refine ⟨inner, ⟨hphase, hinner, hroom, rfl, hnew, ⟨signer, hsigner, hsig⟩, rfl, hv⟩, ?_⟩
  by_cases hfull : config.coordinator.maxParticipants ≤ s.participantCount + 1
  · simp [RoundState.withInput, RoundStateInner.withInput, Registration.registered, hfull,
      RoundState.tryTransitionTo, RoundState.transitionTo, hphase, Phase.canTransitionTo]
  · simp [RoundState.withInput, RoundStateInner.withInput, Registration.registered, hfull, hphase]

/-- **An output that is accepted is a step.** -/
theorem postOutputRegister_eq_ok {s s' : RoundState} {req : OutputRegRequest} {d : DecodedOutput}
    (h : postOutputRegister E config s req d = .ok s')
    (ha : ParsesTo E config req.outputAddress d.outputScript) :
    ∃ inner, Redeems E config s inner ⟨s.roundId, d.tokenMsg, d.sigBytes, d.msgRandomizer,
        d.outputScript, ⟨req.outputAddress, req.amountSats⟩⟩ ∧
      s' = s.withOutput inner ⟨s.roundId, d.tokenMsg, d.sigBytes, d.msgRandomizer,
        d.outputScript, ⟨req.outputAddress, req.amountSats⟩⟩ := by
  simp only [postOutputRegister, bind_eq_ok, ofExcept_eq_ok, checkPhase_eq_ok, okOr_eq_ok,
    expect_eq_ok] at h
  obtain ⟨_, hphase, inner, hinner, signer, hsigner, redeemed, hlogic, heq⟩ := h
  obtain ⟨hamount, hsig, hmsg, hfresh, rfl⟩ := registerOutputLogic_eq_ok hlogic
  obtain rfl := Except.ok.inj heq
  refine ⟨inner, ⟨hphase, hinner, rfl, hamount, ⟨signer, hsigner, hsig⟩, hmsg, hfresh, ha⟩, ?_⟩
  by_cases hall : s.participantCount ≤ inner.registeredOutputs.length + 1 ∧ 0 < s.participantCount
  · simp [RoundState.withOutput, RoundStateInner.withOutput, hall, RoundState.tryTransitionTo,
      RoundState.transitionTo, hphase, Phase.canTransitionTo]
  · simp [RoundState.withOutput, RoundStateInner.withOutput, hall, hphase]

end Blindjoin
