import Mathlib.Algebra.Ring.Nat
import Blindjoin.Shared.Errors
import Blindjoin.Shared.Protocol

/-!
# What the client signs

The client does not trust the coordinator. Before it signs the transaction it is
sent it checks, on the transaction alone, that an output pays the denomination to
its script, that there are as many denomination outputs as its anonymity floor
asks for, and that what the transaction takes from it is within its fee cap
(`Blindjoin.verifyAndSign`). What the checks accept is `Blindjoin.verifyPsbt_eq_ok`, and
nothing else is signed (`Blindjoin.verifyAndSign_eq_ok`).

Two of the checks count in machine integers: the denomination outputs modulo
`2 ^ 32`, and the sum of our outputs modulo `2 ^ 64`.
-/

namespace Blindjoin

/-! ### The client -/

/-- What the client carries from its registration to its signature. -/
structure InputRegState where
  roundId : Uuid
  sessionToken : Bytes
  outputScript : Script
  denominationSats : ℕ
deriving DecidableEq

/-- A client wallet: the coin it spends, the script of its change address, and its
signer, which returns the serialized witness of that coin's input. -/
structure ClientWallet where
  utxoOutpoint : OutPoint
  changeScript : Script
  signPsbtInput : Psbt → Except String Bytes

section Checks

variable (psbt : Psbt)

/-- Our output must be there, and pay exactly the denomination. -/
def verifyOwnDenominationOutput (ourScript : Script) (denominationSats : ℕ) : Except String Unit :=
  require (psbt.unsignedTx.output.any fun o =>
      o.scriptPubkey = ourScript ∧ o.value = denominationSats)
    (s!"No output to our address pays the {denominationSats}-sat denomination — " ++
     "refusing to sign (coordinator dropped or shorted our output)")

/-- There must be enough denomination outputs. The count is cast to a `u32`. -/
def verifyAnonymityFloor (denominationSats minAnonymitySet : ℕ) : Except String Unit :=
  let denomOutputCount :=
    (psbt.unsignedTx.output.filter fun o => o.value = denominationSats).length % 2 ^ 32
  require (minAnonymitySet ≤ denomOutputCount)
    (s!"PSBT has {denomOutputCount} denomination outputs but our anonymity floor is " ++
     s!"{minAnonymitySet} — refusing to sign")

/-- Our fee must not exceed the cap. -/
def verifyFeeWithinCap (ourInputValue ourReceived maxFeeSats : ℕ) : Except String Unit := do
  require (ourReceived ≤ ourInputValue)
    (s!"Our outputs ({ourReceived} sats) exceed our input ({ourInputValue} sats) — " ++
     "refusing to sign")
  require (ourInputValue - ourReceived ≤ maxFeeSats)
    (s!"Our fee share is {ourInputValue - ourReceived} sats but the cap is {maxFeeSats} — " ++
     "refusing to sign (possible change theft or fee shifting)")

/-- The value of our input, from the first input that spends our outpoint. -/
def ownInputValue (ourOutpoint : OutPoint) : Except String ℕ := do
  let idx ← okOr "Our input not found in PSBT — refusing to sign"
    (psbt.unsignedTx.input.findIdx? fun i => i.previousOutput = ourOutpoint)
  let witnessUtxo ← okOr "Our input has no witness_utxo in PSBT — refusing to sign"
    (psbt.inputs[idx]?.bind PsbtInput.witnessUtxo)
  pure witnessUtxo.value

/-- The sum of the outputs that pay to one of our scripts, each counted once, in
`u64` arithmetic. -/
def ourReceivedValue (ourScripts : List Script) : ℕ :=
  ((psbt.unsignedTx.output.filter fun o => o.scriptPubkey ∈ ourScripts).map TxOut.value).sum %
    2 ^ 64

end Checks

section Verify

variable (wallet : ClientWallet) (state : InputRegState) (minAnonymitySet : ℕ)
  (maxFeeSats : Option ℕ)

/-- The cap on our fee: a tenth of the denomination, unless one is configured. -/
def feeCap : ℕ := maxFeeSats.getD (state.denominationSats / 10)

/-- The checks of a transaction. -/
def verifyPsbt (psbt : Psbt) : Except String Unit := do
  verifyOwnDenominationOutput psbt state.outputScript state.denominationSats
  verifyAnonymityFloor psbt state.denominationSats minAnonymitySet
  let ourInputValue ← ownInputValue psbt wallet.utxoOutpoint
  let ourReceived := ourReceivedValue psbt [state.outputScript, wallet.changeScript]
  verifyFeeWithinCap ourInputValue ourReceived (feeCap state maxFeeSats)

/-- Decode the transaction the coordinator sent, and check it. -/
def verifyResponse (E : Externals) (txResp : RoundTxResponse) : Except String Psbt := do
  let psbtBytes ← E.base64Decode txResp.psbt
  let psbt ← (E.psbtDeserialize psbtBytes).mapError fun e => s!"PSBT parse error: {e}"
  verifyPsbt wallet state minAnonymitySet maxFeeSats psbt
  pure psbt

/-- Check the transaction the coordinator sent, sign our input of it, and make the
request that submits the signature. -/
def verifyAndSign (E : Externals) (txResp : RoundTxResponse) : Except String SignRequest := do
  let psbt ← verifyResponse wallet state minAnonymitySet maxFeeSats E txResp
  let partialSig ← wallet.signPsbtInput psbt
  pure {
    roundId := state.roundId
    utxoOutpoint := wallet.utxoOutpoint.toText
    partialSignature := E.base64Encode partialSig
    sessionToken := E.base64Encode state.sessionToken }

end Verify

/-! ### What the checks accept -/

section Accepts

variable {psbt : Psbt} {wallet : ClientWallet} {state : InputRegState} {minAnonymitySet : ℕ}
  {maxFeeSats : Option ℕ} {ourScript : Script} {ourOutpoint : OutPoint}

theorem verifyOwnDenominationOutput_eq_ok {denominationSats : ℕ} {u : Unit} :
    verifyOwnDenominationOutput psbt ourScript denominationSats = .ok u ↔
      ⟨denominationSats, ourScript⟩ ∈ psbt.unsignedTx.output := by
  rw [verifyOwnDenominationOutput, require_eq_ok, List.any_eq_true]
  constructor
  · rintro ⟨o, hmem, ho⟩
    obtain ⟨rfl, rfl⟩ := of_decide_eq_true ho
    exact hmem
  · intro hmem
    exact ⟨_, hmem, decide_eq_true ⟨rfl, rfl⟩⟩

theorem verifyAnonymityFloor_eq_ok {denominationSats : ℕ} {u : Unit} :
    verifyAnonymityFloor psbt denominationSats minAnonymitySet = .ok u ↔
      minAnonymitySet ≤
        (psbt.unsignedTx.output.filter fun o => o.value = denominationSats).length % 2 ^ 32 := by
  rw [verifyAnonymityFloor, require_eq_ok]

theorem verifyFeeWithinCap_eq_ok {ourInputValue ourReceived cap : ℕ} {u : Unit} :
    verifyFeeWithinCap ourInputValue ourReceived cap = .ok u ↔
      ourReceived ≤ ourInputValue ∧ ourInputValue - ourReceived ≤ cap := by
  simp only [verifyFeeWithinCap, bind_eq_ok, require_eq_ok, exists_and_left, exists_const]

/-- Our input, in the first place that spends our outpoint, with the output it says
it spends. -/
structure OwnInput (psbt : Psbt) (ourOutpoint : OutPoint) (idx : ℕ) (utxo : TxOut) : Prop where
  spends : (psbt.unsignedTx.input[idx]?).map TxIn.previousOutput = some ourOutpoint
  first : ∀ j < idx, (psbt.unsignedTx.input[j]?).map TxIn.previousOutput ≠ some ourOutpoint
  witnessUtxo : psbt.inputs[idx]?.bind PsbtInput.witnessUtxo = some utxo

theorem ownInputValue_eq_ok {value : ℕ} :
    ownInputValue psbt ourOutpoint = .ok value ↔
      ∃ idx utxo, OwnInput psbt ourOutpoint idx utxo ∧ utxo.value = value := by
  -- the search stops at the first input that spends our outpoint
  have hfind : ∀ idx, psbt.unsignedTx.input.findIdx? (fun i => i.previousOutput = ourOutpoint) =
      some idx ↔ (psbt.unsignedTx.input[idx]?).map TxIn.previousOutput = some ourOutpoint ∧
        ∀ j < idx, (psbt.unsignedTx.input[j]?).map TxIn.previousOutput ≠ some ourOutpoint :=
    fun idx => by
      rw [List.findIdx?_eq_some_iff_getElem]
      constructor
      · rintro ⟨hlt, hspends, hfirst⟩
        refine ⟨by simpa [List.getElem?_eq_getElem hlt] using hspends, fun j hj => ?_⟩
        have hne := hfirst j hj
        rw [List.getElem?_eq_getElem (by omega)]
        simpa using hne
      · rintro ⟨hspends, hfirst⟩
        obtain ⟨i, hi, hprev⟩ := Option.map_eq_some_iff.mp hspends
        obtain ⟨hlt, rfl⟩ := List.getElem?_eq_some_iff.mp hi
        refine ⟨hlt, decide_eq_true hprev, fun j hj => ?_⟩
        have hne := hfirst j hj
        rw [List.getElem?_eq_getElem (by omega)] at hne
        simpa using hne
  simp only [ownInputValue, bind_eq_ok, okOr_eq_ok, hfind]
  constructor
  · rintro ⟨idx, ⟨hspends, hfirst⟩, utxo, hutxo, hvalue⟩
    exact ⟨idx, utxo, ⟨hspends, hfirst, hutxo⟩, Except.ok.inj hvalue⟩
  · rintro ⟨idx, utxo, ⟨hspends, hfirst, hutxo⟩, rfl⟩
    exact ⟨idx, ⟨hspends, hfirst⟩, utxo, hutxo, rfl⟩

theorem verifyPsbt_eq_ok :
    verifyPsbt wallet state minAnonymitySet maxFeeSats psbt = .ok () ↔
      ⟨state.denominationSats, state.outputScript⟩ ∈ psbt.unsignedTx.output ∧
      minAnonymitySet ≤ (psbt.unsignedTx.output.filter fun o =>
        o.value = state.denominationSats).length % 2 ^ 32 ∧
      ∃ idx utxo, OwnInput psbt wallet.utxoOutpoint idx utxo ∧
        ourReceivedValue psbt [state.outputScript, wallet.changeScript] ≤ utxo.value ∧
        utxo.value - ourReceivedValue psbt [state.outputScript, wallet.changeScript] ≤
          feeCap state maxFeeSats := by
  simp only [verifyPsbt, bind_eq_ok, verifyOwnDenominationOutput_eq_ok,
    verifyAnonymityFloor_eq_ok, ownInputValue_eq_ok, verifyFeeWithinCap_eq_ok]
  constructor
  · rintro ⟨_, hown, _, hfloor, value, ⟨idx, utxo, hinput, rfl⟩, hfee⟩
    exact ⟨hown, hfloor, idx, utxo, hinput, hfee⟩
  · rintro ⟨hown, hfloor, idx, utxo, hinput, hfee⟩
    exact ⟨(), hown, (), hfloor, utxo.value, ⟨idx, utxo, hinput, rfl⟩, hfee⟩

theorem verifyResponse_eq_ok {E : Externals} {txResp : RoundTxResponse} :
    verifyResponse wallet state minAnonymitySet maxFeeSats E txResp = .ok psbt ↔
      (∃ psbtBytes, E.base64Decode txResp.psbt = .ok psbtBytes ∧
        E.psbtDeserialize psbtBytes = .ok psbt) ∧
      verifyPsbt wallet state minAnonymitySet maxFeeSats psbt = .ok () := by
  simp only [verifyResponse, bind_eq_ok, mapError_eq_ok]
  constructor
  · rintro ⟨psbtBytes, hdecode, psbt', hpsbt, _, hverify, heq⟩
    obtain rfl := Except.ok.inj heq
    exact ⟨⟨psbtBytes, hdecode, hpsbt⟩, hverify⟩
  · rintro ⟨⟨psbtBytes, hdecode, hpsbt⟩, hverify⟩
    exact ⟨psbtBytes, hdecode, psbt, hpsbt, (), hverify, rfl⟩

/-- **What the client signs passed the checks**: a request to submit a signature is made
exactly if the transaction in the response passes them and the wallet signs it, and it
carries this signature. -/
theorem verifyAndSign_eq_ok {E : Externals} {txResp : RoundTxResponse} {req : SignRequest} :
    verifyAndSign wallet state minAnonymitySet maxFeeSats E txResp = .ok req ↔
      ∃ psbt partialSig,
        verifyResponse wallet state minAnonymitySet maxFeeSats E txResp = .ok psbt ∧
        wallet.signPsbtInput psbt = .ok partialSig ∧
        req = ⟨state.roundId, wallet.utxoOutpoint.toText, E.base64Encode partialSig,
          E.base64Encode state.sessionToken⟩ := by
  simp only [verifyAndSign, bind_eq_ok]
  constructor
  · rintro ⟨psbt, hverify, partialSig, hsign, heq⟩
    exact ⟨psbt, partialSig, hverify, hsign, (Except.ok.inj heq).symm⟩
  · rintro ⟨psbt, partialSig, hverify, hsign, rfl⟩
    exact ⟨psbt, hverify, partialSig, hsign, rfl⟩

end Accepts

end Blindjoin
