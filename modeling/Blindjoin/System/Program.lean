import Blindjoin.Lib.Interleaving
import Blindjoin.System.Tasks

/-!
# The coordinator as a system of atomic sections

`Blindjoin.coordinator` is the `Interleaving.Program` of a coordinator: its
sections are what a task does while it holds a lock, or between two calls of the
node. Anything may happen between two sections, including that a task never
runs again, which is what becomes of a handler whose client went away.

A section is enabled when the outside answers are possible ones: a hash map is
iterated in some order of its entries. The answers of the node are arbitrary, and it
may act on a call whose answer is lost.
-/

namespace Blindjoin

open Interleaving

/-- What a section of the coordinator leaves behind. -/
abbrev Section := Effect Coordinator Task Event

variable (E : Externals) (config : CoordinatorConfig)

/-- Go on without touching the shared state. -/
def proceed (s : Coordinator) (next : Task) : Section := { shared := s, next := next }

/-- Answer a request with an error, die in a panic, or go on. -/
def attempt {α : Type} (s : Coordinator) (respond : HttpError → Response) (r : Res HttpError α)
    (k : α → Section) : Section :=
  match r with
  | .ok a => k a
  | .error (.err e) => proceed s (.answered (respond e))
  | .error (.panic m) => proceed s (.panicked m)

/-! ### Requests -/

/-- The end of a registration that succeeded. -/
def registeredSection (s : Coordinator) (req : InputRegRequest) (utxo : OutPoint)
    (blindedToken : Bytes) (proof : OwnershipProof) (snapshot : InputSnapshot)
    (details : UtxoDetails) (round : RoundState) (result : InputRegResult) : Section where
  shared := { s with round := round }
  next := .answered (.input (.ok (inputRegResponse E s.round.roundId result)))
  events := [.round (.inputRegistered {
    roundId := s.round.roundId
    utxo := utxo
    changeAddress := req.changeAddress
    ownershipProof := proof
    proofRoundId := snapshot.roundId
    details := details
    blindedToken := blindedToken
    blindSignature := result.blindSignature
    sessionToken := result.sessionToken })]

/-- The sections of `POST /round/input`. -/
def postInputSection (s : Coordinator) (req : InputRegRequest) (c : Choice) : InputStage → Section
  | .received =>
    attempt s (.input ∘ .error)
      (ofExcept id do checkPhase .inputReg s.round; postInputOutpoint req)
      fun utxo => proceed s (.postInput req (.parsed utxo))
  | .parsed utxo =>
    attempt s (.input ∘ .error)
      (ofExcept id do postInputBanCheck E s.banList utxo c.now; postInputDecode E req)
      fun (blindedToken, proof) => proceed s (.postInput req (.decoded utxo blindedToken proof))
  | .decoded utxo blindedToken proof =>
    proceed s (.postInput req (.snapshotted utxo blindedToken proof (postInputSnapshot s.round)))
  | .snapshotted utxo blindedToken proof snapshot =>
    attempt s (.input ∘ .error) (postInputValidate E config req utxo proof snapshot c.answer)
      fun details =>
        proceed s (.postInput req (.validated utxo blindedToken proof snapshot details))
  | .validated utxo blindedToken proof snapshot details =>
    attempt s (.input ∘ .error) (postInputRegister E config s.round req utxo blindedToken details)
      fun (round, result) =>
        registeredSection E s req utxo blindedToken proof snapshot details round result

/-- The end of an output registration that succeeded. -/
def redeemedSection (s : Coordinator) (req : OutputRegRequest) (d : DecodedOutput)
    (round : RoundState) : Section where
  shared := { s with round := round }
  next := .answered (.output (.ok ⟨true, s.round.roundId⟩))
  events := [.round (.outputRegistered {
    roundId := s.round.roundId
    tokenMsg := d.tokenMsg
    sigBytes := d.sigBytes
    msgRandomizer := d.msgRandomizer
    outputScript := d.outputScript
    output := ⟨req.outputAddress, req.amountSats⟩ })]

/-- The sections of `POST /round/output`. -/
def postOutputSection (s : Coordinator) (req : OutputRegRequest) : OutputStage → Section
  | .received =>
    attempt s (.output ∘ .error)
      (do ofExcept id (checkPhase .outputReg s.round); postOutputDecode E config req)
      fun d => proceed s (.postOutput req (.decoded d))
  | .decoded d =>
    attempt s (.output ∘ .error) (postOutputRegister E config s.round req d)
      fun round => redeemedSection s req d round

/-- Whether the signature of an outpoint is recorded. -/
def RoundState.hasSig (s : RoundState) (utxo : OutPoint) : Bool :=
  match s.inner with
  | some inner => utxo.toText ∈ inner.partialSigs
  | none => false

/-- The task that ends the broadcast a submission made ready. -/
def finalizeTask (roundId : Uuid) : Res HttpError SignOutcome → List Task
  | .ok (.readyToBroadcast prepared) => [.finalize roundId prepared .testing]
  | _ => []

/-- The event of a submission whose signature was recorded. -/
def submissionEvents (s s' : RoundState) (d : DecodedSign) (outcome : Res HttpError SignOutcome) :
    List Event :=
  if s.hasSig d.utxo = false ∧ s'.hasSig d.utxo = true then
    [.round (.sigRecorded ⟨s.roundId, d.utxo, d.partialSig, d.sessionToken, outcome⟩)]
  else []

/-- The task after a submission was processed. -/
def submissionNext : Res HttpError SignOutcome → Task
  | .ok .recorded => .answered (.sign (.ok .recorded))
  | .ok (.readyToBroadcast _) => .answered (.sign (.ok .awaitingBroadcast))
  | .error (.err e) => .answered (.sign (.error e))
  | .error (.panic m) => .panicked m

/-- The end of a signature submission. The state may have changed even where an
error is answered. -/
def processedSection (s : Coordinator) (d : DecodedSign) (round : RoundState)
    (outcome : Res HttpError SignOutcome) : Section where
  shared := { s with round := round }
  next := submissionNext outcome
  spawned := finalizeTask s.round.roundId outcome
  events := submissionEvents s.round round d outcome

/-- The sections of `POST /round/sign`. -/
def postSignSection (s : Coordinator) (req : SignRequest) (c : Choice) : SignStage → Section
  | .received =>
    attempt s (.sign ∘ .error) (ofExcept id do checkPhase .signing s.round; postSignDecode E req)
      fun d => proceed s (.postSign req (.decoded d))
  | .decoded d =>
    let (round, outcome) := postSignProcess E config s.round d c.iter
    processedSection s d round outcome

/-- The section of `GET /round/tx`. -/
def getTxSection (s : Coordinator) (c : Choice) : Section :=
  attempt s (.tx ∘ .error) (getTx E config s.round c.values) fun r =>
    proceed s (.answered (.tx (.ok r)))

/-! ### Timers -/

/-- The end of input registration: on with enough participants, back to idle
with too few. -/
def inputRegTimer (s : RoundState) (roundId fresh : Uuid) : RoundState :=
  if s.roundId ≠ roundId ∨ s.phase ≠ .inputReg then s
  else if config.coordinator.minParticipants ≤ s.participantCount then
    s.tryTransitionTo .outputReg fresh
  else s.tryTransitionTo .idle fresh

/-- The end of output registration. -/
def outputRegTimer (s : RoundState) (roundId fresh : Uuid) : RoundState :=
  if s.roundId = roundId ∧ s.phase = .outputReg then (onOutputRegTimeout s fresh).1 else s

/-- The end of signing: what is left, and the outpoint texts that were banned;
nothing when the round is no longer the one in this phase. -/
def signingTimer (app : AppState) (roundId : Uuid) (c : Choice) : Option (AppState × List String) :=
  if app.round.roundId ≠ roundId ∨ app.round.phase ≠ .signing then none
  else
    let timeout := onSigningTimeout E app.round app.banList config.coordinator.blameBanDurationSecs
      app.blameRoundCount c.now c.fresh c.keys
    let backoff := config.coordinator.blameFullAbortBackoffSecs
    let app' := { app with round := timeout.round, banList := timeout.banList }
    some (match timeout.outcome with
      | .fullAbort => { app' with
          blameRoundCount := 0
          roundPausedUntil := if 0 < backoff then c.later + backoff else app.roundPausedUntil }
      | .restartWithout _ => { app' with blameRoundCount := app.blameRoundCount + 1 },
      timeout.banned)

/-- The section of a timer that fires. -/
def timerSection (s : Coordinator) (roundId : Uuid) (c : Choice) : Phase → Section
  | .inputReg =>
    proceed { s with round := inputRegTimer config s.round roundId c.fresh } .finished
  | .outputReg =>
    proceed { s with round := outputRegTimer s.round roundId c.fresh } .finished
  | .signing => match signingTimer E config s.toAppState roundId c with
    | none => proceed s .finished
    | some (app, banned) =>
      { shared := { s with toAppState := app }
        next := .finished
        events := [.round (.signingTimedOut roundId banned), .clock c.later, .clock c.now] }
  | .broadcast =>
    proceed { s with round := broadcastWatchdogForceIdle s.round roundId c.fresh } .finished
  | .idle => proceed s .finished
  | .blame => proceed s .finished

/-! ### The end of a broadcast -/

/-- The sections of `finalize_broadcast`: the two calls, the lookups after a
failure, and the end under the lock. -/
def finalizeSection (s : Coordinator) (roundId : Uuid) (prepared : PreparedBroadcast) (c : Choice) :
    FinalizeStage → Section
  | .testing =>
    proceed s (.finalize roundId prepared (match mempoolVerdict c.answer with
      | .ok () => .sending
      | .error m => .revalidating m (.start prepared.inputOutpoints)))
  | .sending =>
    let node := if c.applied then s.node.take prepared.txHex else s.node
    proceed { s with node := node } (.finalize roundId prepared
      (match sendVerdict E.txidParseError c.answer with
      | .ok txid => .succeeded txid
      | .error m => .revalidating m (.start prepared.inputOutpoints)))
  | .revalidating m loop =>
    proceed s (.finalize roundId prepared (match loop.query with
      | none => .failed m loop.spent
      | some _ => .revalidating m (loop.absorb c.answer)))
  | .succeeded txid =>
    { shared := { s with toAppState := finalizeSuccess s.toAppState roundId c.fresh }
      next := .finalized (.ok txid)
      events := if s.round.roundId = roundId ∧ s.round.phase = .broadcast then
          [.round (.broadcastSucceeded roundId)] else [] }
  | .failed m banned =>
    { shared := { s with
        toAppState := finalizeFailure E config s.toAppState banned roundId c.now c.fresh }
      next := .finalized (.error ⟨.broadcastRejected, m, some roundId.toText⟩)
      events := if s.round.roundId = roundId ∧ s.round.phase = .broadcast then
          [.round (.broadcastFailed roundId banned), .clock c.now] else [] }

/-! ### The phase monitor -/

/-- The sections of the phase monitor. -/
def monitorSection (s : Coordinator) (c : Choice) : Section :=
  let m := s.monitor
  match m.pc with
  | .head =>
    let roundId := s.round.roundId
    let phase := s.round.phase
    if phase = .idle ∧ m.lastIdleStartRound ≠ some roundId then
      { shared := { s with monitor := { m with pc := .pauseCheck roundId } }
        next := .monitor
        events := [.observed roundId phase] }
    else if phase.timed ∧ m.last phase ≠ some roundId then
      { shared := { s with monitor := m.arm roundId phase }
        next := .monitor
        spawned := [.timer roundId phase]
        events := [.armed roundId phase, .observed roundId phase] }
    else { shared := s, next := .monitor, events := [.observed roundId phase] }
  | .pauseCheck roundId =>
    if c.now < s.roundPausedUntil then
      { shared := { s with monitor := { m with pc := .head } }
        next := .monitor
        events := [.clock c.now] }
    else
      { shared := { s with
          monitor := { m with lastIdleStartRound := some roundId, pc := .generating roundId } }
        next := .monitor
        events := [.startAttempted roundId, .clock c.now] }
  | .generating roundId =>
    match c.keygen.map (generateRoundMaterial E) with
    | some (.ok material) =>
      proceed { s with monitor := { m with pc := .installing roundId material } } .monitor
    -- key generation failed or its task panicked: the next tick tries again
    | _ => proceed { s with monitor := { m with lastIdleStartRound := none, pc := .head } } .monitor
  | .installing roundId material =>
    if s.round.phase ≠ .idle ∨ s.round.roundId ≠ roundId then
      proceed { s with monitor := { m with pc := .head } } .monitor
    else match installRound s.round material with
      | (round, .ok ()) =>
        { shared := { s with round := round, monitor := { m with pc := .head } }
          next := .monitor
          events := [.round (.installed roundId material)] }
      | (round, .error _) =>
        proceed { s with
          round := round
          monitor := { m with lastIdleStartRound := none, pc := .head } } .monitor

/-! ### The program -/

/-- The orders a task iterates hash maps in are orders of their entries. -/
def Choice.Iterates (c : Choice) (s : RoundState) (t : Task) : Prop :=
  ∀ inner ∈ s.inner, match t with
    | .getTx => c.values.Perm inner.registeredInputs.values
    | .postSign _ _ => c.iter.Of inner
    | .timer _ _ => c.keys.Perm inner.registeredInputs.keys
    | _ => True

instance (c : Choice) (s : RoundState) (t : Task) : Decidable (c.Iterates s t) := by
  unfold Choice.Iterates
  cases t <;> infer_instance

/-- The section of a task, before the log entries that every section has. -/
def taskSection (s : Coordinator) (c : Choice) : Task → Option Section
  | .postInput req stage => some (postInputSection E config s req c stage)
  | .postOutput req stage => some (postOutputSection E config s req stage)
  | .postSign req stage => some (postSignSection E config s req c stage)
  | .getTx => some (getTxSection E config s c)
  | .monitor => some (monitorSection E s c)
  | .timer roundId phase => some (timerSection E config s roundId c phase)
  | .finalize roundId prepared stage =>
    some (finalizeSection E config s roundId prepared c stage)
  | .relay txHex => some (proceed { s with node := s.node.take txHex } .finished)
  | .evict txHex => some (proceed { s with node := s.node.drop txHex } .finished)
  | .answered _ => none
  | .finalized _ => none
  | .finished => none
  | .panicked _ => none

/-- The log entries that every section has: a round that became idle drew a
fresh id, and the round is visible again. -/
def phaseEvents (s s' : RoundState) (fresh : Uuid) : List RoundEvent :=
  .visible s'.roundId s'.phase :: if s.phase ≠ .idle ∧ s'.phase = .idle then [.minted fresh] else []

/-- One section of a task, if the outside answers are possible ones. -/
def exec (s : Coordinator) (t : Task) (c : Choice) : Option Section :=
  if c.Iterates s.round t then
    (taskSection E config s c t).map fun e =>
      { e with
        events := (phaseEvents s.round e.shared.round c.fresh).map .round ++ e.events }
  else none

/-- The tasks that join from outside: requests, and transactions of others. -/
def Task.arrives : Task → Bool
  | .postInput _ .received => true
  | .postOutput _ .received => true
  | .postSign _ .received => true
  | .getTx => true
  | .relay _ => true
  | .evict _ => true
  | _ => false

/-- A running coordinator. -/
def coordinator : Program Coordinator Task Choice Event where
  exec := exec E config
  arrives := Task.arrives

/-- A coordinator that has just started, under a first round id and with the bans
it loaded: the monitor is its only task. -/
def startup (fresh : Uuid) (banList : BanList) : World Coordinator Task Event where
  shared := {
    round := RoundState.newIdle fresh
    banList := banList
    blameRoundCount := 0
    roundPausedUntil := 0
    monitor := {}
    node := {} }
  threads := [.monitor]
  log := [.round (.visible fresh .idle), .round (.minted fresh)]

end Blindjoin
