import Blindjoin.Api.Handlers
import Blindjoin.Round.Broadcast

/-!
# The tasks of a running coordinator

What runs beside each other in a coordinator, and what they share. A
`Blindjoin.Task` is a request being handled, a timer, the detached end of a
broadcast, or the phase monitor, at the point where it will next take a lock or
call the node. The shared state `Blindjoin.Coordinator` holds the round and the
bans, the variables of the one monitor, and the Bitcoin node, whose transactions
change under the coordinator.

The log of a run holds `Blindjoin.Event`s. Those of a round,
`Blindjoin.RoundEvent`, say what a section did to the round.
-/

namespace Blindjoin

/-! ### Events -/

/-- What is known of a registration: the request, the id of the round the proof
was verified for, what was validated, and what was handed out. -/
structure Registration where
  roundId : Uuid
  utxo : OutPoint
  changeAddress : String
  ownershipProof : OwnershipProof
  proofRoundId : String
  details : UtxoDetails
  blindedToken : Bytes
  blindSignature : Bytes
  sessionToken : Bytes32
deriving DecidableEq

/-- What is known of an accepted output. -/
structure Redemption where
  roundId : Uuid
  tokenMsg : Bytes32
  sigBytes : Bytes
  msgRandomizer : Option Bytes32
  outputScript : Script
  output : RegisteredOutput
deriving DecidableEq

/-- What is known of a recorded signature: who it was presented for, with which
session token, and how the request was answered. -/
structure Submission where
  roundId : Uuid
  utxo : OutPoint
  partialSig : Bytes
  sessionToken : Bytes32
  outcome : Res HttpError SignOutcome
deriving DecidableEq

/-- What happened to a round. -/
inductive RoundEvent
  /-- A fresh round id was drawn. -/
  | minted (roundId : Uuid)
  /-- The round as other tasks see it after a section. -/
  | visible (roundId : Uuid) (phase : Phase)
  /-- A round was started. -/
  | installed (roundId : Uuid) (material : RoundMaterial)
  /-- An input was registered. -/
  | inputRegistered (r : Registration)
  /-- An output was accepted. -/
  | outputRegistered (r : Redemption)
  /-- A signature was recorded. -/
  | sigRecorded (s : Submission)
  /-- The signing deadline ended the round and banned these outpoint texts. -/
  | signingTimedOut (roundId : Uuid) (banned : List String)
  /-- A failed broadcast ended the round and banned these outpoint texts. -/
  | broadcastFailed (roundId : Uuid) (banned : List String)
  /-- A successful broadcast ended the round. -/
  | broadcastSucceeded (roundId : Uuid)
deriving DecidableEq

/-- The entries of the log. -/
inductive Event
  /-- Something happened to a round. -/
  | round (e : RoundEvent)
  /-- The monitor read the round. -/
  | observed (roundId : Uuid) (phase : Phase)
  /-- The monitor spawned the timer of a phase. -/
  | armed (roundId : Uuid) (phase : Phase)
  /-- The monitor set out to start a round. -/
  | startAttempted (roundId : Uuid)
  /-- The clock was read. -/
  | clock (now : ℕ)
deriving DecidableEq

/-- What happened to a round, if an event says so. -/
def Event.round? : Event → Option RoundEvent
  | .round e => some e
  | _ => none

/-- The round events of a log. -/
def roundEvents (log : List Event) : List RoundEvent := log.filterMap Event.round?

@[simp] theorem roundEvents_append (es log : List Event) :
    roundEvents (es ++ log) = roundEvents es ++ roundEvents log := List.filterMap_append

@[simp] theorem roundEvents_nil : roundEvents [] = [] := rfl

/-! ### Requests -/

/-- How far an input registration has come. -/
inductive InputStage
  | received
  | parsed (utxo : OutPoint)
  | decoded (utxo : OutPoint) (blindedToken : Bytes) (proof : OwnershipProof)
  | snapshotted (utxo : OutPoint) (blindedToken : Bytes) (proof : OwnershipProof)
      (snapshot : InputSnapshot)
  | validated (utxo : OutPoint) (blindedToken : Bytes) (proof : OwnershipProof)
      (snapshot : InputSnapshot) (details : UtxoDetails)
deriving DecidableEq

/-- How far an output registration has come. -/
inductive OutputStage
  | received
  | decoded (d : DecodedOutput)
deriving DecidableEq

/-- How far a signature submission has come. -/
inductive SignStage
  | received
  | decoded (d : DecodedSign)
deriving DecidableEq

/-- The answer to a signature submission. The last signer is answered when the
broadcast has ended. -/
inductive SignResponse
  | recorded
  | awaitingBroadcast
deriving DecidableEq

/-- The answer to a request. -/
inductive Response
  | input (r : Except HttpError InputRegResponse)
  | output (r : Except HttpError OutputRegResponse)
  | sign (r : Except HttpError SignResponse)
  | tx (r : Except HttpError RoundTxResponse)
deriving DecidableEq

/-! ### Tasks -/

/-- How far the end of a broadcast has come. -/
inductive FinalizeStage
  | testing
  | sending
  | revalidating (message : String) (loop : Revalidation)
  | succeeded (txid : String)
  | failed (message : String) (banned : List String)
deriving DecidableEq

/-- The tasks of a coordinator, and of the network around its node. -/
inductive Task
  | postInput (req : InputRegRequest) (stage : InputStage)
  | postOutput (req : OutputRegRequest) (stage : OutputStage)
  | postSign (req : SignRequest) (stage : SignStage)
  | getTx
  /-- The phase monitor. -/
  | monitor
  /-- The timer of a phase of a round; of `broadcast`, the watchdog. -/
  | timer (roundId : Uuid) (phase : Phase)
  /-- `finalize_broadcast`. -/
  | finalize (roundId : Uuid) (prepared : PreparedBroadcast) (stage : FinalizeStage)
  /-- A transaction on its way to the node. -/
  | relay (txHex : String)
  /-- A transaction the node is about to drop. -/
  | evict (txHex : String)
  /-- A request that was answered. -/
  | answered (r : Response)
  /-- `finalize_broadcast` with its result. -/
  | finalized (result : Except ApiError String)
  /-- A task that ended without a result. -/
  | finished
  /-- A task that panicked. -/
  | panicked (message : String)
deriving DecidableEq

/-! ### The shared state -/

/-- Where the phase monitor stands. -/
inductive MonitorPc
  | head
  /-- An idle round was seen; the pause is to be checked. -/
  | pauseCheck (roundId : Uuid)
  /-- Key generation is running. -/
  | generating (roundId : Uuid)
  /-- The material is to be installed. -/
  | installing (roundId : Uuid) (material : RoundMaterial)
deriving DecidableEq

/-- The variables of the phase monitor: for each phase, the last round it acted
for. -/
structure Monitor where
  lastIdleStartRound : Option Uuid := none
  lastInputRegRound : Option Uuid := none
  lastOutputRegRound : Option Uuid := none
  lastSigningRound : Option Uuid := none
  lastBroadcastRound : Option Uuid := none
  pc : MonitorPc := .head
deriving DecidableEq

namespace Monitor

/-- The last round the monitor armed the timer of a phase for. -/
def last (m : Monitor) : Phase → Option Uuid
  | .inputReg => m.lastInputRegRound
  | .outputReg => m.lastOutputRegRound
  | .signing => m.lastSigningRound
  | .broadcast => m.lastBroadcastRound
  | .idle => m.lastIdleStartRound
  | .blame => none

/-- The monitor after it armed the timer of a phase for a round. -/
def arm (m : Monitor) (roundId : Uuid) : Phase → Monitor
  | .inputReg => { m with lastInputRegRound := some roundId }
  | .outputReg => { m with lastOutputRegRound := some roundId }
  | .signing => { m with lastSigningRound := some roundId }
  | .broadcast => { m with lastBroadcastRound := some roundId }
  | .idle => m
  | .blame => m

end Monitor

/-- The phases a timer is armed for. -/
def Phase.timed : Phase → Bool
  | .inputReg => true
  | .outputReg => true
  | .signing => true
  | .broadcast => true
  | .idle => false
  | .blame => false

/-- The Bitcoin node: the transactions it holds, and all it ever took. -/
structure Node where
  accepted : List String := []
  seen : List String := []
deriving DecidableEq

namespace Node

/-- The node with a transaction taken. -/
def take (n : Node) (txHex : String) : Node := ⟨txHex :: n.accepted, txHex :: n.seen⟩

/-- The node with a transaction dropped. -/
def drop (n : Node) (txHex : String) : Node := { n with accepted := n.accepted.erase txHex }

/-- Whether a transaction the node holds spends an outpoint. -/
def spends (E : Externals) (n : Node) (o : OutPoint) : Bool :=
  n.accepted.any fun txHex => o ∈ E.spentOutpoints txHex

end Node

/-- The state the tasks share. -/
structure Coordinator extends AppState where
  monitor : Monitor
  node : Node
deriving DecidableEq

/-! ### Outside answers -/

/-- What the outside contributes to one section: the clock, a fresh round id, the
key generator, the answer of the node and whether it acted on the call, and the
orders hash maps are iterated in. -/
structure Choice where
  now : ℕ := 0
  later : ℕ := 0
  fresh : Uuid := List.Vector.replicate 16 0
  keygen : Option KeyGenDraw := none
  answer : HttpAnswer := .timedOut
  applied : Bool := false
  iter : SignIteration := {}
  values : List RegisteredInput := []
  keys : List String := []

end Blindjoin
