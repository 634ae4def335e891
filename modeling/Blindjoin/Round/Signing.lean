import Blindjoin.Coordinator.Fee
import Blindjoin.Coordinator.SigVerify
import Blindjoin.Round.Manager

/-!
# Collecting signatures

`Blindjoin.processSign` verifies a submitted signature against the transaction
of the round, records it, and when it was the last one assembles the final
transaction and moves the round to `Phase.broadcast`. It does no network access.

The transaction is built anew each time, from a hash map whose iteration order is
not specified. Every build therefore takes the list the iteration yields as an
argument: a `Blindjoin.SignIteration` for the three iterations of one call. The
builds of this file and the one of the display handler differ in the errors they
report and in nothing else; they are one definition, `Blindjoin.buildRoundPsbt`.
-/

namespace Blindjoin

open Collections

/-- Parse an address for the expected network. -/
def parseAddressToScript (E : Externals) (addrStr : String) (expectedNetwork : Network) :
    Except String Script :=
  (E.addressToScript addrStr expectedNetwork).mapError fun e => s!"Invalid address '{addrStr}': {e}"

/-! ### Building the transaction of a round -/

/-- How a failed build of the round's transaction is reported. -/
structure BuildErrors (ε : Type) where
  invalidOutpoint : String → ε
  invalidChangeAddress : String → ε
  invalidOutputAddress : String → ε
  psbtConstruction : TxError → ε

section Build

variable {ε : Type} (E : Externals) (errors : BuildErrors ε) (network : Network)

/-- A registered input, as the builder takes it. -/
def participantInput (reg : RegisteredInput) : Except ε ParticipantInput := do
  let outpoint ← okOr (errors.invalidOutpoint reg.utxoStr) (parseOutpoint reg.utxoStr)
  let changeScript ← (parseAddressToScript E reg.changeAddress network).mapError
    errors.invalidChangeAddress
  pure ⟨outpoint, reg.valueSats, reg.scriptPubkey, changeScript, reg.scriptType⟩

/-- A registered output, as the builder takes it. -/
def participantOutput (out : RegisteredOutput) : Except ε ParticipantOutput := do
  let script ← (parseAddressToScript E out.address network).mapError errors.invalidOutputAddress
  pure ⟨script⟩

/-- Build the transaction of a round, the registered inputs being iterated in
the order `values`. -/
def buildRoundPsbt (inner : RoundStateInner) (config : CoordinatorConfig)
    (values : List RegisteredInput) : Res ε Psbt := do
  let network ← expect "bitcoin_network validated in CoordinatorConfig::validate"
    (parseBitcoinNetwork config.network.bitcoinNetwork).toOption
  let inputs ← ofExcept id (values.mapM (participantInput E errors network))
  let outputs ← ofExcept id (inner.registeredOutputs.mapM (participantOutput E errors network))
  ofExcept errors.psbtConstruction
    (buildCoinjoinPsbt inputs outputs config.coordinator.denominationSats
      config.coordinator.feeRateSatPerVbyte config.bip.outputScriptType)

end Build

/-- The transaction a signature is verified against, and that is broadcast. -/
def buildCanonicalPsbt (E : Externals) (inner : RoundStateInner) (config : CoordinatorConfig)
    (roundIdStr : String) (values : List RegisteredInput) : Res ApiError Psbt :=
  buildRoundPsbt E
    { invalidOutpoint := fun utxoStr =>
        ⟨.broadcastRejected, s!"Invalid outpoint string: {utxoStr}", some roundIdStr⟩
      invalidChangeAddress := fun e =>
        ⟨.broadcastRejected, s!"Invalid change address: {e}", some roundIdStr⟩
      invalidOutputAddress := fun e =>
        ⟨.broadcastRejected, s!"Invalid output address: {e}", some roundIdStr⟩
      psbtConstruction := fun e =>
        ⟨.broadcastRejected, s!"PSBT construction failed: {e.toText}", some roundIdStr⟩ }
    inner config values

/-! ### Assembling the final transaction -/

/-- The `scriptSig` of an input whose witness is known: a P2SH input with a
signature and a compressed key gets the push of the redeem script of the key,
any other input keeps what it has. -/
def finalScriptSig (E : Externals) (input : PsbtInput) (witness : Witness) : Option Script :=
  match input.witnessUtxo, witness[1]? with
  | some utxo, some pkBytes =>
    if utxo.scriptPubkey.isP2sh ∧ witness.length = 2 ∧ pkBytes.length = 33 then
      let redeem := [0x00, 0x14] ++ (E.hash160 pkBytes).toList
      some ([0x16] ++ redeem)
    else input.finalScriptSig
  | _, _ => input.finalScriptSig

/-- Attach the collected signature to the input at place `i`. -/
def applySignature (E : Externals) (partialSigs : HashMap String Bytes) (roundIdStr : String)
    (i : ℕ) (txin : TxIn) (input : PsbtInput) : Except ApiError PsbtInput :=
  match partialSigs.lookup txin.previousOutput.toText with
  | none => .error ⟨.broadcastRejected, s!"Missing signature for input {i}", some roundIdStr⟩
  | some sigBytes => match E.deserializeWitness sigBytes with
    | .ok witness => .ok { input with
        finalScriptWitness := some witness
        finalScriptSig := finalScriptSig E input witness }
    | .error e =>
      let preview := String.ofList (TextCodec.hexEncode (sigBytes.take 16))
      .error ⟨.broadcastRejected,
        s!"Invalid witness data for input {i} (len={sigBytes.length}, prefix={preview}, err={e})",
        some roundIdStr⟩

/-- The final transaction, from the transaction of the round and the collected
signatures. -/
def assembleFinalTx (E : Externals) (inner : RoundStateInner) (config : CoordinatorConfig)
    (roundIdStr : String) (values : List RegisteredInput) : Res ApiError Transaction := do
  let psbt ← buildCanonicalPsbt E inner config roundIdStr values
  let inputs ← ofExcept id <|
    (psbt.unsignedTx.input.zip psbt.inputs).zipIdx.mapM fun ((txin, input), i) =>
      applySignature E inner.partialSigs roundIdStr i txin input
  ofExcept (fun e => ⟨.broadcastRejected, s!"PSBT extraction failed: {e}", some roundIdStr⟩)
    (E.extractTx { psbt with inputs := inputs })

/-- The final transaction in hexadecimal. -/
def assembleFinalTxHex (E : Externals) (inner : RoundStateInner) (config : CoordinatorConfig)
    (roundIdStr : String) (values : List RegisteredInput) : Res ApiError String := do
  let finalTx ← assembleFinalTx E inner config roundIdStr values
  pure (E.serializeHex finalTx)

/-! ### One submission -/

/-- What the broadcast needs: the final transaction, and the registered
outpoints to look at if it fails. -/
structure PreparedBroadcast where
  txHex : String
  inputOutpoints : List String
deriving DecidableEq

/-- The outcome of a submission. -/
inductive SignOutcome
  | recorded
  | readyToBroadcast (prepared : PreparedBroadcast)
deriving DecidableEq

/-- What the three iterations over the registered inputs in one submission
yield: for the transaction verified against, for the one assembled, and for the
list of outpoints. -/
structure SignIteration where
  verify : List RegisteredInput := []
  assemble : List RegisteredInput := []
  outpoints : List String := []

/-- The iterations are iterations of the registered inputs. -/
def SignIteration.Of (iter : SignIteration) (inner : RoundStateInner) : Prop :=
  iter.verify.Perm inner.registeredInputs.values ∧
  iter.assemble.Perm inner.registeredInputs.values ∧
  iter.outpoints.Perm inner.registeredInputs.keys

instance (iter : SignIteration) (inner : RoundStateInner) : Decidable (iter.Of inner) :=
  inferInstanceAs (Decidable (_ ∧ _ ∧ _))

/-- The checks before a signature is recorded. They give the inner state the
signature is to be recorded in. -/
def checkSubmission (E : Externals) (s : RoundState) (config : CoordinatorConfig) (utxo : OutPoint)
    (partialSignature : Bytes) (sessionToken : Bytes32) (roundIdStr : String)
    (values : List RegisteredInput) : Res ApiError RoundStateInner := do
  let inner ← okOr (.err ⟨.wrongPhase, "Round not in signing phase", some roundIdStr⟩) s.inner
  require (verifySessionToken E inner.roundSecret utxo sessionToken)
    (.err ⟨.sessionInvalid, "Invalid session token", some roundIdStr⟩)
  let utxoStr := utxo.toText
  let reg ← okOr (.err ⟨.sessionInvalid, "UTXO not registered in this round", some roundIdStr⟩)
    (inner.registeredInputs.lookup utxoStr)
  require (utxoStr ∉ inner.partialSigs)
    (.err ⟨.sessionInvalid, "Partial signature already submitted for this input", some roundIdStr⟩)
  let canonical ← buildCanonicalPsbt E inner config roundIdStr values
  let inputIndex ← okOr
    (.err ⟨.broadcastRejected, "Registered input absent from canonical transaction",
      some roundIdStr⟩)
    (canonical.unsignedTx.input.findIdx? fun i => i.previousOutput = utxo)
  (verifyInputSignature E canonical inputIndex reg.scriptType partialSignature).mapErr fun e =>
    ⟨.invalidSignature, s!"Partial signature rejected: {e}", some roundIdStr⟩
  pure inner

/-- The inner state with a signature recorded. -/
def RoundStateInner.withSig (inner : RoundStateInner) (utxo : OutPoint) (partialSignature : Bytes) :
    RoundStateInner :=
  { inner with partialSigs := inner.partialSigs.insert utxo.toText partialSignature }

/-- All signatures are there: assemble the final transaction, and only then
leave the signing phase. -/
def completeSigning (E : Externals) (s : RoundState) (config : CoordinatorConfig)
    (roundIdStr : String) (iter : SignIteration) : RoundState × Res ApiError SignOutcome :=
  match s.inner with
  | none => (s, fail ⟨.wrongPhase, "No round state", some roundIdStr⟩)
  | some inner =>
    match assembleFinalTxHex E inner config roundIdStr iter.assemble with
    | .error e => (s, .error e)
    | .ok txHex => match s.transitionTo .broadcast s.roundId with
      | .error e => (s, fail ⟨.broadcastRejected,
          s!"Signing→Broadcast transition failed: {e.toText}", some roundIdStr⟩)
      | .ok s' => (s', .ok (.readyToBroadcast ⟨txHex, iter.outpoints⟩))

/-- Process a submitted signature. The signature stays recorded when the
assembly that follows it fails. -/
def processSign (E : Externals) (s : RoundState) (config : CoordinatorConfig) (utxo : OutPoint)
    (partialSignature : Bytes) (sessionToken : Bytes32) (roundIdStr : String)
    (iter : SignIteration) : RoundState × Res ApiError SignOutcome :=
  match checkSubmission E s config utxo partialSignature sessionToken roundIdStr iter.verify with
  | .error e => (s, .error e)
  | .ok inner =>
    let recorded := inner.withSig utxo partialSignature
    let s' := { s with inner := some recorded }
    if s'.participantCount ≤ recorded.partialSigs.len then
      completeSigning E s' config roundIdStr iter
    else (s', .ok .recorded)

/-! ### What a submission does -/

section Cases

variable {E : Externals} {s : RoundState} {config : CoordinatorConfig} {utxo : OutPoint}
  {partialSignature : Bytes} {sessionToken : Bytes32} {roundIdStr : String}

/-- What was checked of a submission whose signature may be recorded. -/
structure Submissible (E : Externals) (s : RoundState) (config : CoordinatorConfig)
    (utxo : OutPoint) (partialSignature : Bytes) (sessionToken : Bytes32) (roundIdStr : String)
    (values : List RegisteredInput) (inner : RoundStateInner) : Prop where
  inner_eq : s.inner = some inner
  session : generateSessionToken E inner.roundSecret utxo = sessionToken
  fresh : utxo.toText ∉ inner.partialSigs
  verified : ∃ reg psbt i, inner.registeredInputs.lookup utxo.toText = some reg ∧
    buildCanonicalPsbt E inner config roundIdStr values = .ok psbt ∧
    psbt.unsignedTx.input.findIdx? (fun txin => txin.previousOutput = utxo) = some i ∧
    verifyInputSignature E psbt i reg.scriptType partialSignature = .ok ()

theorem checkSubmission_eq_ok {values : List RegisteredInput} {inner : RoundStateInner}
    (h : checkSubmission E s config utxo partialSignature sessionToken roundIdStr values =
      .ok inner) :
    Submissible E s config utxo partialSignature sessionToken roundIdStr values inner := by
  simp only [checkSubmission, bind_eq_ok, okOr_eq_ok, require_eq_ok, mapErr_eq_ok] at h
  obtain ⟨inner', hinner, _, htoken, reg, hreg, _, hfresh, psbt, hpsbt, i, hi, _, hverify, heq⟩ := h
  obtain rfl : inner' = inner := Except.ok.inj heq
  exact ⟨hinner, by simpa [verifySessionToken] using htoken, hfresh,
    ⟨reg, psbt, i, hreg, hpsbt, hi, hverify⟩⟩

/-- What a completed submission leaves: the final transaction was assembled, and
its hexadecimal and the registered outpoints are handed to the broadcast. -/
structure Completes (E : Externals) (s : RoundState) (config : CoordinatorConfig)
    (roundIdStr : String) (iter : SignIteration) (recorded : RoundStateInner)
    (prepared : PreparedBroadcast) : Prop where
  collected : s.participantCount ≤ HashMap.len recorded.partialSigs
  assembled : ∃ tx, assembleFinalTx E recorded config roundIdStr iter.assemble = .ok tx ∧
    prepared.txHex = E.serializeHex tx
  outpoints : prepared.inputOutpoints = iter.outpoints

/-- **What a submission does in the signing phase**: nothing, when a check fails;
it records the signature and stays in the phase; or it records the last
signature and moves on to the broadcast. -/
theorem processSign_cases (E : Externals) (config : CoordinatorConfig) (utxo : OutPoint)
    (partialSignature : Bytes) (sessionToken : Bytes32) (roundIdStr : String)
    (iter : SignIteration) (hphase : s.phase = .signing) :
    (∃ e, processSign E s config utxo partialSignature sessionToken roundIdStr iter =
      (s, .error e)) ∨
    (∃ inner, Submissible E s config utxo partialSignature sessionToken roundIdStr iter.verify
        inner ∧
      ∃ outcome, (∀ prepared, outcome ≠ .ok (.readyToBroadcast prepared)) ∧
        processSign E s config utxo partialSignature sessionToken roundIdStr iter =
          ({ s with inner := some (inner.withSig utxo partialSignature) }, outcome)) ∨
    (∃ inner, Submissible E s config utxo partialSignature sessionToken roundIdStr iter.verify
        inner ∧
      ∃ prepared, Completes E s config roundIdStr iter (inner.withSig utxo partialSignature)
          prepared ∧
        processSign E s config utxo partialSignature sessionToken roundIdStr iter =
          ({ s with
              phase := .broadcast
              inner := some (inner.withSig utxo partialSignature) },
            .ok (.readyToBroadcast prepared))) := by
  cases hcheck : checkSubmission E s config utxo partialSignature sessionToken roundIdStr
      iter.verify with
  | error e => exact Or.inl ⟨e, by rw [processSign, hcheck]⟩
  | ok inner =>
    refine Or.inr ?_
    have hsub := checkSubmission_eq_ok hcheck
    by_cases hcount : s.participantCount ≤
        HashMap.len (inner.withSig utxo partialSignature).partialSigs
    · cases htx : assembleFinalTxHex E (inner.withSig utxo partialSignature) config roundIdStr
          iter.assemble with
      | error e =>
        refine Or.inl ⟨inner, hsub, .error e, by simp, ?_⟩
        simp only [processSign, hcheck, if_pos hcount, completeSigning, htx]
      | ok txHex =>
        refine Or.inr ⟨inner, hsub, ⟨txHex, iter.outpoints⟩, ?_, ?_⟩
        · obtain ⟨tx, htx', hhex⟩ := bind_eq_ok.mp htx
          exact ⟨hcount, ⟨tx, htx', (Except.ok.inj hhex).symm⟩, rfl⟩
        · have hedge : Phase.canTransitionTo s.phase .broadcast = true := by
            rw [hphase]
            rfl
          simp only [processSign, hcheck, if_pos hcount, completeSigning, htx,
            RoundState.transitionTo, hedge, if_true]
          rfl
    · refine Or.inl ⟨inner, hsub, .ok .recorded, by simp, ?_⟩
      simp only [processSign, hcheck, if_neg hcount]

end Cases

end Blindjoin
