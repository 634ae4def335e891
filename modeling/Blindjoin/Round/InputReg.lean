import Blindjoin.Round.Manager

/-!
# Registering an input

`Blindjoin.registerInput` runs under the write lock, after the coin has been
validated without it. It signs the blinded token, makes the session token, and
records the input under the canonical text of its outpoint.
-/

namespace Blindjoin

/-- The result of a registration. -/
structure InputRegResult where
  blindSignature : Bytes
  sessionToken : Bytes32
deriving DecidableEq

/-- The base64 text of the blind signature. -/
def InputRegResult.blindSignatureB64 (E : Externals) (r : InputRegResult) : String :=
  E.base64Encode r.blindSignature

/-- The base64 text of the session token. -/
def InputRegResult.sessionTokenB64 (E : Externals) (r : InputRegResult) : String :=
  E.base64Encode r.sessionToken.toList

/-- Register an input. -/
def registerInput (E : Externals) (s : RoundState) (utxo : OutPoint) (blindedToken : Bytes)
    (changeAddress : String) (utxoScriptPubkey : Script) (utxoValueSats : ℕ)
    (utxoScriptType : ScriptType) (roundIdStr : String) :
    Res ApiError (RoundState × InputRegResult) := do
  let inner ← okOr (.err ⟨.wrongPhase, "Round not in input registration phase", some roundIdStr⟩)
    s.inner
  let utxoStr := utxo.toText
  -- the check that counts: the one made before taking the lock may be stale
  require (utxoStr ∉ inner.registeredInputs)
    (.err ⟨.utxoAlreadyRegistered, "UTXO already registered in this round", some roundIdStr⟩)
  let signer ← expect "rsa_signer must be Some during InputReg" inner.rsaSigner
  let blindSignature ← ofExcept
    (fun e => ⟨.invalidToken, s!"Blind signing failed: {e}", some roundIdStr⟩)
    (E.blindSign signer.secretKey blindedToken)
  let registered : RegisteredInput :=
    ⟨utxoStr, changeAddress, utxoScriptPubkey, utxoValueSats, utxoScriptType⟩
  let s' := { s with
    participantCount := s.participantCount + 1
    inner := some { inner with
      registeredInputs := inner.registeredInputs.insert utxoStr registered } }
  pure (s', ⟨blindSignature, generateSessionToken E inner.roundSecret utxo⟩)

end Blindjoin
