import Blindjoin.Round.Manager

/-!
# Registering an output

An output is accepted for a token: the message of the token carries a signature
of the round key, it is the message of exactly this output, and it has not been
redeemed. When the deadline passes, a round with missing outputs is abandoned;
outputs are anonymous, so nobody is banned for it.
-/

namespace Blindjoin

/-- What became of a round at its output deadline. -/
inductive OutputRegOutcome
  | advanceToSigning
  | blameRestart
deriving DecidableEq, Repr

/-- Fewer outputs than inputs. -/
def hasMissingOutputs (inputCount outputCount : ℕ) : Bool := outputCount < inputCount

/-- Whether the round lacks outputs; without an inner state both counts are zero. -/
def RoundState.missesOutputs (s : RoundState) : Bool :=
  match s.inner with
  | some inner => hasMissingOutputs inner.registeredInputs.len inner.registeredOutputs.length
  | none => hasMissingOutputs 0 0

/-- The output deadline. -/
def onOutputRegTimeout (s : RoundState) (fresh : Uuid) : RoundState × OutputRegOutcome :=
  if s.missesOutputs then
    ((s.tryTransitionTo .blame fresh).tryTransitionTo .idle fresh, .blameRestart)
  else (s.tryTransitionTo .signing fresh, .advanceToSigning)

/-- Accept an output for a token, which is added to the redeemed ones. -/
def registerOutputLogic (E : Externals) (pk : RsaPublicKey) (redeemed : Finset Bytes32)
    (tokenMsg : Bytes32) (sigBytes : Bytes) (msgRandomizer : Option Bytes32)
    (denomination amountSats : ℕ) (outputScript : Script) :
    Except ApiError (Finset Bytes32) := do
  require (amountSats = denomination)
    ⟨.wrongDenomination, s!"Expected {denomination} sats, got {amountSats}", none⟩
  -- the signature comes before the replay check, so that only the holder of a
  -- signed token learns whether it was redeemed
  require (E.rsaVerify pk sigBytes msgRandomizer tokenMsg.toList)
    ⟨.invalidToken, "Token signature verification failed", none⟩
  require (computeBlindTokenMessage E outputScript amountSats = tokenMsg)
    ⟨.invalidToken, "Token does not bind to the requested output address and amount", none⟩
  require (tokenMsg ∉ redeemed) ⟨.tokenAlreadyUsed, "Token already redeemed", none⟩
  pure (insert tokenMsg redeemed)

/-- **An accepted token**: signed, unredeemed, and the message of the output it
is redeemed for. -/
theorem registerOutputLogic_eq_ok {E : Externals} {pk : RsaPublicKey}
    {redeemed redeemed' : Finset Bytes32} {tokenMsg : Bytes32} {sigBytes : Bytes}
    {msgRandomizer : Option Bytes32} {denomination amountSats : ℕ} {outputScript : Script}
    (h : registerOutputLogic E pk redeemed tokenMsg sigBytes msgRandomizer denomination amountSats
      outputScript = .ok redeemed') :
    amountSats = denomination ∧ E.rsaVerify pk sigBytes msgRandomizer tokenMsg.toList = true ∧
    computeBlindTokenMessage E outputScript amountSats = tokenMsg ∧ tokenMsg ∉ redeemed ∧
    redeemed' = insert tokenMsg redeemed := by
  simp only [registerOutputLogic, bind_eq_ok, require_eq_ok] at h
  obtain ⟨_, hamount, _, hsig, _, hmsg, _, hfresh, hredeemed⟩ := h
  exact ⟨hamount, hsig, hmsg, hfresh, (Except.ok.inj hredeemed).symm⟩

end Blindjoin
