import Mathlib.Algebra.Order.BigOperators.Group.List
import Mathlib.Algebra.Order.Ring.Nat
import Blindjoin.Client.Sign
import Blindjoin.System.Recorded

/-!
# What a malicious coordinator can take

The coordinator may send a client any transaction: any inputs and outputs, the
client's coin in several places, outputs to its scripts that are too small or too
many. The three checks of `Blindjoin.verifyPsbt` are independent filters on that
transaction; together they bound the client's loss by its fee cap
(`Blindjoin.client_loss_bounded`), provided the output amounts add up without
overflow. The two scripts of the client may be one script; every output to it then
still counts once.
-/

namespace Blindjoin

/-! ### What the transaction pays us -/

/-- What the transaction pays to one of our two scripts. -/
def receivedSats (psbt : Psbt) (outputScript changeScript : Script) : ℕ :=
  ((psbt.unsignedTx.output.filter fun o =>
    o.scriptPubkey = outputScript ∨ o.scriptPubkey = changeScript).map TxOut.value).sum

theorem ourReceivedValue_pair (psbt : Psbt) (outputScript changeScript : Script) :
    ourReceivedValue psbt [outputScript, changeScript] =
      receivedSats psbt outputScript changeScript % 2 ^ 64 := by
  simp only [ourReceivedValue, receivedSats, List.mem_pair]

/-- Our outputs add up to no more than all outputs do. -/
theorem receivedSats_le (psbt : Psbt) (outputScript changeScript : Script) :
    receivedSats psbt outputScript changeScript ≤
      (psbt.unsignedTx.output.map TxOut.value).sum := by
  refine List.Sublist.sum_le_sum (List.Sublist.map _ List.filter_sublist) fun v hv => ?_
  exact Nat.zero_le v

/-! ### The bound -/

/-- **What a client can lose**: if the checks of a response pass, the transaction
spends our coin, pays the denomination to our script, and takes from our coin's
stated value no more than the cap, counting every output to one of our scripts
once. The other fields of the response do not matter. -/
theorem client_loss_bounded {E : Externals} {wallet : ClientWallet} {state : InputRegState}
    {minAnonymitySet : ℕ} {maxFeeSats : Option ℕ} {txResp : RoundTxResponse} {psbt : Psbt}
    (hok : verifyResponse wallet state minAnonymitySet maxFeeSats E txResp = .ok psbt)
    (hsum : (psbt.unsignedTx.output.map TxOut.value).sum < 2 ^ 64) :
    (⟨state.denominationSats, state.outputScript⟩ ∈ psbt.unsignedTx.output ∧
      ∃ idx utxo, OwnInput psbt wallet.utxoOutpoint idx utxo ∧
        receivedSats psbt state.outputScript wallet.changeScript ≤ utxo.value ∧
        utxo.value - receivedSats psbt state.outputScript wallet.changeScript ≤
          feeCap state maxFeeSats) ∧
    ∀ txResp' : RoundTxResponse, txResp'.psbt = txResp.psbt →
      verifyResponse wallet state minAnonymitySet maxFeeSats E txResp' =
        verifyResponse wallet state minAnonymitySet maxFeeSats E txResp := by
  obtain ⟨-, hverify⟩ := verifyResponse_eq_ok.mp hok
  obtain ⟨hown, -, idx, utxo, hinput, hle, hcap⟩ := verifyPsbt_eq_ok.mp hverify
  have hexact : ourReceivedValue psbt [state.outputScript, wallet.changeScript] =
      receivedSats psbt state.outputScript wallet.changeScript := by
    rw [ourReceivedValue_pair]
    exact Nat.mod_eq_of_lt (lt_of_le_of_lt (receivedSats_le psbt _ _) hsum)
  rw [hexact] at hle hcap
  refine ⟨⟨hown, idx, utxo, hinput, hle, hcap⟩, fun txResp' heq => ?_⟩
  rw [verifyResponse, verifyResponse, heq]

/-! ### The session, as a client sees it -/

/-- The encoding of a transaction without signatures, where every length is a
single byte. -/
def encodeUnsignedTx (tx : Transaction) : Bytes :=
  leBytes32 (UInt32.ofNat tx.version.toNat) ++
    UInt8.ofNat tx.input.length :: tx.input.flatMap encodeTxIn ++
    UInt8.ofNat tx.output.length :: tx.output.flatMap encodeTxOut ++ leBytes32 tx.lockTime

/-- The encoding of what the coordinator serves: the transaction, and the output
each input spends. -/
def encodePsbt (psbt : Psbt) : Bytes :=
  [0x70, 0x73, 0x62, 0x74, 0xff, 0x01, 0x00] ++
    Script.pushSlice (encodeUnsignedTx psbt.unsignedTx) ++ 0x00 ::
    psbt.inputs.flatMap (fun input => (match input.witnessUtxo with
      | some utxo => [0x01, 0x01] ++ Script.pushSlice (encodeTxOut utxo)
      | none => []) ++ [0x00]) ++
    psbt.unsignedTx.output.map fun _ => 0x00

/-- The transaction of the session, as it is served. -/
def sessionPsbt : Psbt where
  unsignedTx := jointTx [] [] []
  inputs := [{ witnessUtxo := some ⟨1020000, firstScript⟩ },
    { witnessUtxo := some ⟨1030000, secondScript⟩ }]

/-- The third-party functions of a client that is served the transaction of the
session. -/
def clientExternals : Externals :=
  { session.externals with
    base64Decode := fun text =>
      if text = base64 (encodePsbt sessionPsbt) then .ok (encodePsbt sessionPsbt)
      else .error "Invalid symbol"
    psbtDeserialize := fun bs =>
      if bs = encodePsbt sessionPsbt then .ok sessionPsbt else .error "invalid magic"
    psbtSerialize := encodePsbt }

/-- The wallet of the first participant. -/
def firstWallet : ClientWallet where
  utxoOutpoint := firstCoin
  changeScript := firstChangeScript
  signPsbtInput _ := .ok (encodeWitness [firstSig ++ [0x01], firstKey])

/-- What the first participant carries. -/
def firstState : InputRegState where
  roundId := firstRound
  sessionToken := firstSession.toList
  outputScript := firstOutputScript
  denominationSats := 1000000

/-- The answer the first participant is served. -/
def sessionTxResponse : RoundTxResponse where
  roundId := firstRound
  psbt := base64 (encodePsbt sessionPsbt)
  feeTotalSats := 632
  feePerParticipantSats := 316

/-- The first participant of the session loses no more than a tenth of the
denomination. -/
theorem client_loss_bounded_session :
    ∃ idx utxo, OwnInput sessionPsbt firstCoin idx utxo ∧
      utxo.value - receivedSats sessionPsbt firstOutputScript firstChangeScript ≤ 100000 := by
  have hok : verifyResponse firstWallet firstState 2 none clientExternals sessionTxResponse =
      .ok sessionPsbt := by
    have hdecode : clientExternals.base64Decode sessionTxResponse.psbt =
        .ok (encodePsbt sessionPsbt) := by simp only [clientExternals, sessionTxResponse, if_true]
    have hpsbt : clientExternals.psbtDeserialize (encodePsbt sessionPsbt) = .ok sessionPsbt := by
      simp only [clientExternals, if_true]
    exact verifyResponse_eq_ok.mpr ⟨⟨encodePsbt sessionPsbt, hdecode, hpsbt⟩, by decide +kernel⟩
  obtain ⟨⟨-, idx, utxo, hinput, -, hcap⟩, -⟩ := client_loss_bounded hok (by decide)
  exact ⟨idx, utxo, hinput, hcap⟩

end Blindjoin
