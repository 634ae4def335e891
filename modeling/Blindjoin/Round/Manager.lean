import Blindjoin.Round.State
import Blindjoin.Shared.Errors
import Blindjoin.Shared.Token

/-!
# Starting a round, and session tokens

A round starts in two steps: `Blindjoin.generateRoundMaterial` draws a key pair
and a secret without looking at the state, and `Blindjoin.installRound` installs
them if the state is still idle. The secret keys the session tokens of the
round, each of which is bound to one outpoint.
-/

namespace Blindjoin

/-- What a round is started with. -/
structure RoundMaterial where
  signer : RsaBlindSigner
  skDer : Bytes
  pkDer : Bytes
  pkHash : Bytes32
  roundSecret : Bytes32
deriving DecidableEq

/-- Why a round did not start. -/
inductive StartRoundError
  | keyGen (message : String)
  | keySerialize (message : String)
  | wrongPhase (phase : Phase)
  | transition (e : InvalidTransition)
deriving DecidableEq

/-- What the random generator and the key serializer produce. -/
structure KeyGenDraw where
  keypair : Except String RsaBlindSigner
  skDer : Except String Bytes
  pkDer : Except String Bytes
  roundSecret : Bytes32

/-- Generate the material of a round. -/
def generateRoundMaterial (E : Externals) (draw : KeyGenDraw) :
    Except StartRoundError RoundMaterial := do
  let signer ← draw.keypair.mapError .keyGen
  let skDer ← draw.skDer.mapError fun e => .keySerialize s!"secret key: {e}"
  let pkDer ← draw.pkDer.mapError fun e => .keySerialize s!"public key: {e}"
  pure ⟨signer, skDer, pkDer, E.sha256 pkDer, draw.roundSecret⟩

/-- The inner state of a round that has just started. -/
def RoundMaterial.inner (m : RoundMaterial) : RoundStateInner where
  rsaSigningKey := m.skDer
  rsaSigner := some m.signer
  roundSecret := m.roundSecret
  registeredInputs := ∅
  redeemedTokens := ∅
  registeredOutputs := []
  partialSigs := ∅

/-- The state with the material of a round in place, before the change of phase. -/
def RoundState.withMaterial (s : RoundState) (material : RoundMaterial) : RoundState :=
  { s with
    rsaPubkeyDer := some material.pkDer
    rsaPubkeyHash := some material.pkHash
    inner := some material.inner }

/-- Install the material of a round and open input registration. -/
def installRound (s : RoundState) (material : RoundMaterial) :
    RoundState × Except StartRoundError Unit :=
  if s.phase ≠ .idle then (s, .error (.wrongPhase s.phase))
  else match (s.withMaterial material).transitionTo .inputReg s.roundId with
    | .ok s' => (s', .ok ())
    | .error e => (s.withMaterial material, .error (.transition e))

/-- Installing into an idle state opens input registration under the same round
id. -/
theorem installRound_of_idle {s : RoundState} (h : s.phase = .idle) (material : RoundMaterial) :
    installRound s material = ({ s.withMaterial material with phase := .inputReg }, .ok ()) := by
  have hedge : (s.withMaterial material).phase.canTransitionTo .inputReg = true := by
    rw [RoundState.withMaterial, h]
    rfl
  rw [installRound, if_neg (not_not.mpr h), RoundState.transitionTo_of_edge hedge (by decide)]

/-- What a session token authenticates: the transaction id and the index. -/
def sessionMessage (utxo : OutPoint) : Bytes := utxo.txid.bytes.toList ++ leBytes32 utxo.vout

/-- **What a session token authenticates determines the outpoint.** -/
theorem sessionMessage_injective : Function.Injective sessionMessage := by
  intro a b h
  obtain ⟨hbytes, hvout⟩ := List.append_inj h (by simp)
  obtain ⟨⟨abytes⟩, avout⟩ := a
  obtain ⟨⟨bbytes⟩, bvout⟩ := b
  obtain rfl : abytes = bbytes := List.Vector.toList_injective hbytes
  obtain rfl : avout = bvout := leBytes32_injective hvout
  rfl

/-- Generate the session token of an outpoint. -/
def generateSessionToken (E : Externals) (roundSecret : Bytes32) (utxo : OutPoint) : Bytes32 :=
  E.hmacSha256 roundSecret.toList (sessionMessage utxo)

/-- Verify a session token. -/
def verifySessionToken (E : Externals) (roundSecret : Bytes32) (utxo : OutPoint)
    (token : Bytes32) : Bool :=
  generateSessionToken E roundSecret utxo == token

end Blindjoin
