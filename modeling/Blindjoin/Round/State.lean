import Mathlib.Data.Finset.Insert
import Blindjoin.Lib.Collections
import Blindjoin.Externals

/-!
# The state of a round

`Blindjoin.RoundState` is what the round lock protects: the phase, the round id,
and everything about the participants and the keys of the round, which exist
only while a round is running. Every change of phase goes through
`Blindjoin.RoundState.transitionTo`, which refuses an edge the phase diagram does
not have (`Blindjoin.Phase.canTransitionTo`), and on the way to `Phase.idle`
drops the participants and the keys and draws a fresh round id.
-/

namespace Blindjoin

open Collections

/-- The phases of a round. -/
inductive Phase
  | idle
  | inputReg
  | outputReg
  | signing
  | broadcast
  | blame
deriving DecidableEq, Repr

namespace Phase

/-- The wire form of a phase. -/
def asStr : Phase → String
  | idle => "idle"
  | inputReg => "input_reg"
  | outputReg => "output_reg"
  | signing => "signing"
  | broadcast => "broadcast"
  | blame => "blame"

/-- The derived `Debug` text of a phase. -/
def debug : Phase → String
  | idle => "Idle"
  | inputReg => "InputReg"
  | outputReg => "OutputReg"
  | signing => "Signing"
  | broadcast => "Broadcast"
  | blame => "Blame"

/-- The edges of the phase diagram. -/
def canTransitionTo : Phase → Phase → Bool
  | idle, inputReg => true
  | inputReg, outputReg => true
  -- too few participants: nobody is blamed, the round is reset
  | inputReg, idle => true
  | outputReg, signing => true
  | outputReg, blame => true
  | signing, broadcast => true
  | signing, blame => true
  | broadcast, idle => true
  | broadcast, blame => true
  | blame, idle => true
  | _, _ => false

end Phase

/-! ### Participants and keys -/

/-- What is kept of a registered input. -/
structure RegisteredInput where
  utxoStr : String
  changeAddress : String
  scriptPubkey : Script
  valueSats : ℕ
  scriptType : ScriptType
deriving DecidableEq

/-- What is kept of a registered output. -/
structure RegisteredOutput where
  address : String
  amountSats : ℕ
deriving DecidableEq

/-- The blind signing keys of a round. -/
structure RsaBlindSigner where
  publicKey : RsaPublicKey
  secretKey : RsaSecretKey
deriving DecidableEq

/-- The sensitive part of a round. -/
structure RoundStateInner where
  rsaSigningKey : Bytes
  rsaSigner : Option RsaBlindSigner
  roundSecret : Bytes32
  registeredInputs : HashMap String RegisteredInput
  redeemedTokens : Finset Bytes32
  registeredOutputs : List RegisteredOutput
  partialSigs : HashMap String Bytes
deriving DecidableEq

/-- The state of a round. -/
structure RoundState where
  phase : Phase
  roundId : Uuid
  rsaPubkeyHash : Option Bytes32
  rsaPubkeyDer : Option Bytes
  participantCount : ℕ
  inner : Option RoundStateInner
deriving DecidableEq

/-- A refused change of phase. -/
structure InvalidTransition where
  source : Phase
  target : Phase
deriving DecidableEq

/-- The `Display` text of a refused change of phase. -/
def InvalidTransition.toText (e : InvalidTransition) : String :=
  s!"Invalid FSM transition from {e.source.debug} to {e.target.debug}"

namespace RoundState

/-- The state at startup, under a fresh round id. -/
def newIdle (fresh : Uuid) : RoundState where
  phase := .idle
  roundId := fresh
  rsaPubkeyHash := none
  rsaPubkeyDer := none
  participantCount := 0
  inner := none

/-- Attempt a change of phase. `fresh` is the id drawn on the way to `idle`. -/
def transitionTo (s : RoundState) (next : Phase) (fresh : Uuid) :
    Except InvalidTransition RoundState :=
  if s.phase.canTransitionTo next then
    if next = .idle then .ok (newIdle fresh)
    else .ok { s with phase := next }
  else .error ⟨s.phase, next⟩

/-- A change of phase whose result is discarded, `let _ = transition_to(..)`. -/
def tryTransitionTo (s : RoundState) (next : Phase) (fresh : Uuid) : RoundState :=
  match s.transitionTo next fresh with
  | .ok s' => s'
  | .error _ => s

variable {s s' : RoundState} {next : Phase} {fresh : Uuid}

/-- Leaving for a phase other than `idle` changes the phase and nothing else. -/
theorem transitionTo_of_edge (h : s.phase.canTransitionTo next = true) (hne : next ≠ .idle) :
    s.transitionTo next fresh = .ok { s with phase := next } := by
  rw [transitionTo, if_pos h, if_neg hne]

/-- Returning to `idle` leaves a fresh state. -/
theorem transitionTo_idle (h : s.phase.canTransitionTo .idle = true) :
    s.transitionTo .idle fresh = .ok (newIdle fresh) := by
  rw [transitionTo, if_pos h, if_pos rfl]

theorem tryTransitionTo_of_edge (h : s.phase.canTransitionTo next = true) (hne : next ≠ .idle) :
    s.tryTransitionTo next fresh = { s with phase := next } := by
  rw [tryTransitionTo, transitionTo_of_edge h hne]

theorem tryTransitionTo_idle (h : s.phase.canTransitionTo .idle = true) :
    s.tryTransitionTo .idle fresh = newIdle fresh := by
  rw [tryTransitionTo, transitionTo_idle h]

/-- The way home through `blame`, from each phase that has an edge to it. -/
theorem tryTransitionTo_blame_idle (h : s.phase.canTransitionTo .blame = true) :
    (s.tryTransitionTo .blame fresh).tryTransitionTo .idle fresh = newIdle fresh := by
  rw [tryTransitionTo_of_edge h (by decide), tryTransitionTo_idle rfl]

end RoundState

end Blindjoin
