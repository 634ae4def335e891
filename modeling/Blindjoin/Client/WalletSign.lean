import Blindjoin.Client.Safety
import Blindjoin.Lib.Marking

/-!
# How the wallet signs

The signer of `bdk_wallet` goes over all inputs of the transaction it is handed, and
fails on inputs of other participants that it cannot make sense of. The client therefore
gives every input it does not own an empty final witness, so that the signer takes it to
be done and skips it, and takes these witnesses away again whether or not signing
succeeds (`Blindjoin.BdkClientWallet.signPsbtInput`).

What is left behind differs from what was handed over only in our input, which is the
first that spends our coin, and in what the signer notes in the output maps and in the
global map (`Blindjoin.BdkClientWallet.signPsbtInput_oursOnly`). The output maps do change:
the signer notes the derivation of our own scripts there.
-/

namespace Blindjoin

open Marking

/-! ### What the signer is handed -/

/-- The key-value pairs of a map of a partially signed transaction. -/
abbrev PsbtMap := List (Bytes × Bytes)

/-- A `bitcoin::psbt::Input`, as the wallet uses it: partial signatures are kept in the
order of their keys, and `others` are the fields it neither reads nor writes. -/
structure SignerInput where
  witnessUtxo : Option TxOut := none
  finalScriptSig : Option Script := none
  finalScriptWitness : Option Witness := none
  partialSigs : List (Bytes × Bytes) := []
  others : PsbtMap := []
deriving DecidableEq

/-- A `bitcoin::Psbt`, as the wallet uses it. There is one map for each input and each
output of the transaction. -/
structure SignerPsbt where
  unsignedTx : Transaction
  globals : PsbtMap := []
  inputs : List SignerInput
  outputs : List PsbtMap
  length_inputs : inputs.length = unsignedTx.input.length
  length_outputs : outputs.length = unsignedTx.output.length

/-- An input that is done. -/
def SignerInput.isFinal (input : SignerInput) : Bool :=
  input.finalScriptSig.isSome || input.finalScriptWitness.isSome

/-- The marker of an input that is to be skipped: an empty witness. -/
def SignerInput.mark (input : SignerInput) : SignerInput :=
  { input with finalScriptWitness := some [] }

/-- Take the marker away. -/
def SignerInput.unmark (input : SignerInput) : SignerInput :=
  { input with finalScriptWitness := none }

namespace SignerPsbt

variable (psbt : SignerPsbt)

/-- What the checks of the client read. -/
def toPsbt : Psbt where
  unsignedTx := psbt.unsignedTx
  inputs := psbt.inputs.map fun input =>
    ⟨input.witnessUtxo, input.finalScriptSig, input.finalScriptWitness⟩

/-- The first input that spends our coin. -/
def inputIdx (utxoOutpoint : OutPoint) : Option ℕ :=
  psbt.unsignedTx.input.findIdx? fun inp => inp.previousOutput = utxoOutpoint

/-- The inputs to mark: not ours, and not done. -/
def guardIndices (inputIdx : ℕ) : List ℕ :=
  (List.range psbt.inputs.length).filter fun i =>
    i != inputIdx && psbt.inputs[i]?.any fun input => !input.isFinal

/-- Change the input maps at the given places, which are all there. -/
def modifyInputs (places : List ℕ) (f : SignerInput → SignerInput) : SignerPsbt :=
  { psbt with
    inputs := modifyEach f places psbt.inputs
    length_inputs := length_modifyEach.trans psbt.length_inputs }

/-- What the signer is handed. -/
def guarded (inputIdx : ℕ) : SignerPsbt :=
  psbt.modifyInputs (psbt.guardIndices inputIdx) SignerInput.mark

end SignerPsbt

/-! ### Signing -/

/-- The wallet of a client: its coin, the signer of `bdk_wallet`, and the consensus
encoding of a witness. -/
structure BdkClientWallet where
  utxoOutpoint : OutPoint
  sign : SignerPsbt → SignerPsbt × Except String Bool
  serialize : Witness → Bytes

namespace BdkClientWallet

variable (wallet : BdkClientWallet)

/-- The witness of a signed input. The signer finalizes what it signs; otherwise the
witness is made of the first partial signature. -/
def ownWitness (input : SignerInput) : Res String Bytes :=
  match input.finalScriptWitness with
  | some witness => .ok (wallet.serialize witness)
  | none =>
    match input.partialSigs.head? with
    | some (pk, sig) => .ok (wallet.serialize [sig, pk])
    | none => fail "bdk_wallet did not produce a witness for our input"

/-- Sign our input, and return its witness. -/
def signPsbtInput (psbt : SignerPsbt) : SignerPsbt × Res String Bytes :=
  match psbt.inputIdx wallet.utxoOutpoint with
  | none => (psbt, fail "Our UTXO not found in PSBT")
  | some inputIdx =>
    let (signed, signResult) := wallet.sign (psbt.guarded inputIdx)
    let unmarked := signed.modifyInputs (psbt.guardIndices inputIdx) SignerInput.unmark
    (unmarked, do
      let _ ← ofExcept (fun e => s!"bdk_wallet signing failed: {e}") signResult
      let input ← expect "index out of bounds" unmarked.inputs[inputIdx]?
      wallet.ownWitness input)

/-- What is assumed of the signer: it changes neither the transaction nor an input that
is done. -/
structure Lawful : Prop where
  unsignedTx : ∀ psbt, (wallet.sign psbt).1.unsignedTx = psbt.unsignedTx
  done : ∀ (psbt : SignerPsbt) (i : ℕ) (input : SignerInput),
    psbt.inputs[i]? = some input → input.isFinal = true →
      (wallet.sign psbt).1.inputs[i]? = some input

end BdkClientWallet

/-! ### What signing leaves alone -/

/-- A partially signed transaction changed at most in the first input that spends our
coin, in its output maps and in its global map. -/
structure OursOnly (utxoOutpoint : OutPoint) (before after : SignerPsbt) : Prop where
  unsignedTx : after.unsignedTx = before.unsignedTx
  others : ∀ i, before.inputIdx utxoOutpoint ≠ some i → after.inputs[i]? = before.inputs[i]?
  /-- What was done stays as it is, our input included. -/
  done : ∀ (i : ℕ) (input : SignerInput), before.inputs[i]? = some input → input.isFinal = true →
    after.inputs[i]? = some input
  /-- No marker stays behind. -/
  unmarked : ∀ (i : ℕ) (input : SignerInput), after.inputs[i]? = some input →
    input.finalScriptWitness = some [] →
    before.inputIdx utxoOutpoint = some i ∨ before.inputs[i]? = some input

theorem OursOnly.refl (utxoOutpoint : OutPoint) (psbt : SignerPsbt) :
    OursOnly utxoOutpoint psbt psbt where
  unsignedTx := rfl
  others := fun _ _ => rfl
  done := fun _ _ h _ => h
  unmarked := fun _ _ h _ => .inr h

section Guard

variable {psbt : SignerPsbt} {i idx : ℕ}

theorem SignerInput.unmark_mark {input : SignerInput} (h : input.isFinal = false) :
    input.mark.unmark = input := by
  have hnone : input.finalScriptWitness = none := by
    have hboth := Bool.or_eq_false_iff.mp h
    simpa using hboth.2
  cases input
  subst hnone
  rfl

theorem SignerPsbt.nodup_guardIndices : (psbt.guardIndices idx).Nodup :=
  List.Nodup.filter _ List.nodup_range

/-- **Which inputs are marked.** -/
theorem SignerPsbt.mem_guardIndices :
    i ∈ psbt.guardIndices idx ↔
      i ≠ idx ∧ ∃ input, psbt.inputs[i]? = some input ∧ input.isFinal = false := by
  rw [guardIndices, List.mem_filter, List.mem_range, Bool.and_eq_true, bne_iff_ne,
    Option.any_eq_true]
  constructor
  · rintro ⟨-, hne, input, hinput, hfinal⟩
    exact ⟨hne, input, hinput, by simpa using hfinal⟩
  · rintro ⟨hne, input, hinput, hfinal⟩
    obtain ⟨hlt, -⟩ := List.getElem?_eq_some_iff.mp hinput
    exact ⟨hlt, hne, input, hinput, by simpa using hfinal⟩

/-- An input that is marked is done. -/
theorem SignerPsbt.isFinal_guarded (h : i ∈ psbt.guardIndices idx) :
    ∃ input, (psbt.guarded idx).inputs[i]? = some input ∧ input.isFinal = true := by
  obtain ⟨-, input, hinput, -⟩ := mem_guardIndices.mp h
  refine ⟨input.mark, ?_, ?_⟩
  · rw [guarded, modifyInputs, getElem?_modifyEach_of_mem nodup_guardIndices h, hinput]
    rfl
  · rw [SignerInput.isFinal, SignerInput.mark, Option.isSome_some, Bool.or_true]

theorem SignerPsbt.getElem?_guarded_of_notMem (h : i ∉ psbt.guardIndices idx) :
    (psbt.guarded idx).inputs[i]? = psbt.inputs[i]? :=
  getElem?_modifyEach_of_notMem h

end Guard

namespace BdkClientWallet

variable {wallet : BdkClientWallet} {psbt : SignerPsbt} {i idx : ℕ}

/-- What is left behind when our coin is spent: what the signer made of the marked
transaction, with the markers taken away. -/
theorem signPsbtInput_fst (hidx : psbt.inputIdx wallet.utxoOutpoint = some idx) :
    (wallet.signPsbtInput psbt).1 = (wallet.sign (psbt.guarded idx)).1.modifyInputs
      (psbt.guardIndices idx) SignerInput.unmark := by
  rw [signPsbtInput, hidx]

/-- **A marked input is restored.** -/
theorem getElem?_of_mem_guardIndices (hsign : wallet.Lawful)
    (hidx : psbt.inputIdx wallet.utxoOutpoint = some idx) (h : i ∈ psbt.guardIndices idx) :
    (wallet.signPsbtInput psbt).1.inputs[i]? = psbt.inputs[i]? := by
  obtain ⟨marked, hmarked, hfinal⟩ := SignerPsbt.isFinal_guarded h
  rw [signPsbtInput_fst hidx]
  refine getElem?_unmark_of_mem SignerPsbt.nodup_guardIndices h
    ((hsign.done _ i marked hmarked hfinal).trans hmarked.symm) ?_
  intro input hinput
  obtain ⟨-, input', hinput', hopen⟩ := SignerPsbt.mem_guardIndices.mp h
  obtain rfl := Option.some.inj (hinput.symm.trans hinput')
  exact SignerInput.unmark_mark hopen

/-- **An input that is not marked is what the signer made of it.** -/
theorem getElem?_of_notMem_guardIndices
    (hidx : psbt.inputIdx wallet.utxoOutpoint = some idx) (h : i ∉ psbt.guardIndices idx) :
    (wallet.signPsbtInput psbt).1.inputs[i]? =
      (wallet.sign (psbt.guarded idx)).1.inputs[i]? := by
  rw [signPsbtInput_fst hidx]
  exact getElem?_modifyEach_of_notMem h

/-- An input that was done is not touched. -/
theorem getElem?_of_isFinal (hsign : wallet.Lawful)
    (hidx : psbt.inputIdx wallet.utxoOutpoint = some idx) {input : SignerInput}
    (hinput : psbt.inputs[i]? = some input) (hfinal : input.isFinal = true) :
    (wallet.signPsbtInput psbt).1.inputs[i]? = some input := by
  have hnot : i ∉ psbt.guardIndices idx := by
    intro hmem
    obtain ⟨-, input', hinput', hopen⟩ := SignerPsbt.mem_guardIndices.mp hmem
    obtain rfl := Option.some.inj (hinput.symm.trans hinput')
    exact absurd hfinal (by simp [hopen])
  rw [getElem?_of_notMem_guardIndices hidx hnot]
  refine hsign.done _ i input ?_ hfinal
  rw [SignerPsbt.getElem?_guarded_of_notMem hnot, hinput]

/-- **An input other than ours is as it was**: it was done, or it was marked. -/
theorem getElem?_of_ne (hsign : wallet.Lawful)
    (hidx : psbt.inputIdx wallet.utxoOutpoint = some idx) (hne : i ≠ idx) :
    (wallet.signPsbtInput psbt).1.inputs[i]? = psbt.inputs[i]? := by
  by_cases hmem : i ∈ psbt.guardIndices idx
  · exact getElem?_of_mem_guardIndices hsign hidx hmem
  · cases hinput : psbt.inputs[i]? with
    | some input =>
      refine getElem?_of_isFinal hsign hidx hinput ?_
      by_contra hopen
      exact hmem (SignerPsbt.mem_guardIndices.mpr ⟨hne, input, hinput, by simpa using hopen⟩)
    | none =>
      -- the signer keeps the transaction, and so the number of inputs
      have hlength : (wallet.signPsbtInput psbt).1.inputs.length = psbt.inputs.length := by
        rw [SignerPsbt.length_inputs, SignerPsbt.length_inputs, signPsbtInput_fst hidx]
        exact congrArg _ (congrArg _ (hsign.unsignedTx _))
      rw [List.getElem?_eq_none_iff, hlength]
      exact List.getElem?_eq_none_iff.mp hinput

theorem ownWitness_noPanic {input : SignerInput} : NoPanic (wallet.ownWitness input) := by
  rw [ownWitness]
  cases input.finalScriptWitness with
  | some witness => exact noPanic_ok
  | none =>
    cases input.partialSigs.head? with
    | some entry => exact noPanic_ok
    | none => exact noPanic_fail

/-- Signing does not panic: our input is there to be read. -/
theorem signPsbtInput_noPanic (hsign : wallet.Lawful) (psbt : SignerPsbt) :
    NoPanic (wallet.signPsbtInput psbt).2 := by
  cases hidx : psbt.inputIdx wallet.utxoOutpoint with
  | none =>
    rw [signPsbtInput, hidx]
    exact noPanic_fail
  | some idx =>
    have hkeeps := congrArg Transaction.input (hsign.unsignedTx (psbt.guarded idx))
    have hlength : ((wallet.sign (psbt.guarded idx)).1.modifyInputs (psbt.guardIndices idx)
        SignerInput.unmark).inputs.length = psbt.unsignedTx.input.length := by
      rw [SignerPsbt.length_inputs]
      exact congrArg _ hkeeps
    obtain ⟨hlt, -⟩ := List.findIdx?_eq_some_iff_getElem.mp hidx
    rw [signPsbtInput, hidx]
    refine noPanic_ofExcept.bind fun _ _ => ?_
    refine (noPanic_expect ?_).bind fun input _ => ownWitness_noPanic
    exact ⟨_, List.getElem?_eq_getElem (by rw [hlength]; exact hlt)⟩

/-- **Signing touches only our input**, whether the signer succeeds or fails: the
transaction with its outputs, and every input map other than that of the first input that
spends our coin, are as before; no marker stays behind, and no input that was done
changes. Where our coin is not spent nothing changes at all; where it is, our input, the
output maps and the global map are what the signer left. -/
theorem signPsbtInput_oursOnly (hsign : wallet.Lawful) (psbt : SignerPsbt) :
    OursOnly wallet.utxoOutpoint psbt (wallet.signPsbtInput psbt).1 ∧
    (psbt.inputIdx wallet.utxoOutpoint = none → (wallet.signPsbtInput psbt).1 = psbt) ∧
    (∀ idx, psbt.inputIdx wallet.utxoOutpoint = some idx →
      (wallet.signPsbtInput psbt).1.inputs[idx]? =
        (wallet.sign (psbt.guarded idx)).1.inputs[idx]? ∧
      (wallet.signPsbtInput psbt).1.outputs = (wallet.sign (psbt.guarded idx)).1.outputs ∧
      (wallet.signPsbtInput psbt).1.globals = (wallet.sign (psbt.guarded idx)).1.globals) ∧
    NoPanic (wallet.signPsbtInput psbt).2 := by
  cases hidx : psbt.inputIdx wallet.utxoOutpoint with
  | none =>
    have hsame : (wallet.signPsbtInput psbt).1 = psbt := by rw [signPsbtInput, hidx]
    refine ⟨?_, fun _ => hsame, fun idx h => absurd h (by simp), signPsbtInput_noPanic hsign psbt⟩
    rw [hsame]
    exact OursOnly.refl _ _
  | some idx =>
    have hothers : ∀ i, psbt.inputIdx wallet.utxoOutpoint ≠ some i →
        (wallet.signPsbtInput psbt).1.inputs[i]? = psbt.inputs[i]? := by
      intro i hi
      refine getElem?_of_ne hsign hidx ?_
      rintro rfl
      exact hi hidx
    refine ⟨⟨?_, hothers, ?_, ?_⟩, fun h => absurd h (by simp), ?_,
      signPsbtInput_noPanic hsign psbt⟩
    · rw [signPsbtInput_fst hidx]
      exact hsign.unsignedTx _
    · intro i input hinput hfinal
      exact getElem?_of_isFinal hsign hidx hinput hfinal
    · intro i input hinput _
      by_cases hours : psbt.inputIdx wallet.utxoOutpoint = some i
      · exact .inl hours
      · exact .inr ((hothers i hours).symm.trans hinput)
    · rintro _ ⟨rfl⟩
      have hnot : idx ∉ psbt.guardIndices idx := by
        intro hmem
        exact (SignerPsbt.mem_guardIndices.mp hmem).1 rfl
      refine ⟨getElem?_of_notMem_guardIndices hidx hnot, ?_, ?_⟩
      · rw [signPsbtInput_fst hidx]
        rfl
      · rw [signPsbtInput_fst hidx]
        rfl

end BdkClientWallet

/-! ### The input that was checked -/

/-- **The input that signing may change is the one whose value was checked**: the fee
check reads the same input that is signed. -/
theorem SignerPsbt.inputIdx_of_ownInput {psbt : SignerPsbt} {ourOutpoint : OutPoint} {idx : ℕ}
    {utxo : TxOut} (h : OwnInput psbt.toPsbt ourOutpoint idx utxo) :
    psbt.inputIdx ourOutpoint = some idx := by
  obtain ⟨inp, hinp, hspends⟩ := Option.map_eq_some_iff.mp h.spends
  obtain ⟨hlt, hget⟩ := List.getElem?_eq_some_iff.mp hinp
  refine List.findIdx?_eq_some_iff_getElem.mpr ⟨hlt, ?_, fun j hj => ?_⟩
  · exact decide_eq_true ((congrArg TxIn.previousOutput hget).trans hspends)
  · intro hours
    refine h.first j hj (Option.map_eq_some_iff.mpr ⟨_, ?_, of_decide_eq_true hours⟩)
    exact List.getElem?_eq_getElem _

theorem BdkClientWallet.signs_checked_input {wallet : BdkClientWallet} (hsign : wallet.Lawful)
    {client : ClientWallet} (hcoin : client.utxoOutpoint = wallet.utxoOutpoint)
    {state : InputRegState} {minAnonymitySet : ℕ} {maxFeeSats : Option ℕ} {psbt : SignerPsbt}
    (hok : verifyPsbt client state minAnonymitySet maxFeeSats psbt.toPsbt = .ok ()) :
    ∃ idx utxo, OwnInput psbt.toPsbt wallet.utxoOutpoint idx utxo ∧
      ∀ i, i ≠ idx → (wallet.signPsbtInput psbt).1.inputs[i]? = psbt.inputs[i]? := by
  obtain ⟨-, -, idx, utxo, hown, -, -⟩ := verifyPsbt_eq_ok.mp hok
  rw [hcoin] at hown
  refine ⟨idx, utxo, hown, fun i hne => ?_⟩
  exact getElem?_of_ne hsign (SignerPsbt.inputIdx_of_ownInput hown) hne

/-! ### A wallet made of one key -/

/-- What the signer notes of the first participant's key in the map of an output that pays
it: the fingerprint of the key, with no derivation path. -/
def keyNote : Bytes × Bytes := (0x02 :: firstKey, beBytes 4 0x751e76e8)

/-- The input asks for another signature hash type than `SIGHASH_ALL`. -/
def SignerInput.unusualSighash (input : SignerInput) : Bool :=
  input.others.any fun pair => pair.1 == [0x03] && pair.2 != [0x01, 0x00, 0x00, 0x00]

/-- An input that spends a coin of the first key is finalized, with the signature of the
session. -/
def finalizeFirst (input : SignerInput) : SignerInput :=
  if input.isFinal then input
  else if (input.witnessUtxo.map TxOut.scriptPubkey) = some firstScript then
    { witnessUtxo := input.witnessUtxo
      finalScriptWitness := some [firstSig ++ [0x01], firstKey] }
  else input

/-- The signer of a wallet made of the first key: it notes the key in the outputs, refuses
an unusual signature hash type, and otherwise finalizes what it can; once all inputs are
done the notes are cleared. -/
def firstSigner (psbt : SignerPsbt) : SignerPsbt × Except String Bool :=
  let noted : SignerPsbt := { psbt with
    outputs := List.zipWith
      (fun out map => if out.scriptPubkey = firstScript then keyNote :: map else map)
      psbt.unsignedTx.output psbt.outputs
    length_outputs := by rw [List.length_zipWith, psbt.length_outputs, Nat.min_self] }
  if psbt.inputs.any SignerInput.unusualSighash then
    (noted, .error "The psbt contains a non standard sighash")
  else
    let signed : SignerPsbt := { noted with
      inputs := psbt.inputs.map finalizeFirst
      length_inputs := by rw [List.length_map, psbt.length_inputs] }
    if signed.inputs.all SignerInput.isFinal then
      ({ signed with
        outputs := noted.outputs.map fun map => map.filter fun pair => pair.1.head? != some 0x02
        length_outputs := by rw [List.length_map, noted.length_outputs] }, .ok true)
    else (signed, .ok false)

/-- The wallet of the first participant, with its signer. -/
def firstBdkWallet : BdkClientWallet where
  utxoOutpoint := firstCoin
  sign := firstSigner
  serialize := encodeWitness

theorem firstBdkWallet_lawful : firstBdkWallet.Lawful where
  unsignedTx psbt := by
    simp only [firstBdkWallet, firstSigner]
    split
    · rfl
    · split
      · rfl
      · rfl
  done psbt i input hinput hfinal := by
    have hmap : (psbt.inputs.map finalizeFirst)[i]? = some input := by
      rw [List.getElem?_map, hinput, Option.map_some, finalizeFirst, if_pos hfinal]
    simp only [firstBdkWallet, firstSigner]
    split
    · exact hinput
    · split
      · exact hmap
      · exact hmap

/-- The transaction of the session, as the first participant's wallet signs it. -/
def sessionSignerPsbt : SignerPsbt where
  unsignedTx := jointTx [] [] []
  inputs := [{ witnessUtxo := some ⟨1020000, firstScript⟩ },
    { witnessUtxo := some ⟨1030000, secondScript⟩ }]
  outputs := [[], [], [], []]
  length_inputs := rfl
  length_outputs := rfl

example : sessionSignerPsbt.toPsbt = sessionPsbt := rfl

theorem signPsbtInput_oursOnly_session :
    OursOnly firstCoin sessionSignerPsbt (firstBdkWallet.signPsbtInput sessionSignerPsbt).1 ∧
    (firstBdkWallet.signPsbtInput sessionSignerPsbt).2 =
      .ok (encodeWitness [firstSig ++ [0x01], firstKey]) := by
  have hours := (firstBdkWallet.signPsbtInput_oursOnly firstBdkWallet_lawful sessionSignerPsbt).1
  exact ⟨hours, by decide +kernel⟩

/-- The session with the first participant's change paid to the script of its coin, and an
input that asks for `SIGHASH_SINGLE`. -/
def unusualPsbt : SignerPsbt where
  unsignedTx := { jointTx [] [] [] with
    output := [⟨1000000, firstOutputScript⟩, ⟨1000000, secondOutputScript⟩,
      ⟨19707, firstScript⟩, ⟨29707, secondChangeScript⟩] }
  inputs := [{ witnessUtxo := some ⟨1020000, firstScript⟩ },
    { witnessUtxo := some ⟨1030000, secondScript⟩
      others := [([0x03], [0x03, 0x00, 0x00, 0x00])] }]
  outputs := [[], [], [], []]
  length_inputs := rfl
  length_outputs := rfl

/-- **An output map is changed**: the signer notes the first key in the map of the change
output before it refuses to sign, and the note stays. -/
theorem signing_notes_our_key :
    firstBdkWallet.Lawful ∧
    (firstBdkWallet.signPsbtInput unusualPsbt).1.outputs = [[], [], [keyNote], []] ∧
    (firstBdkWallet.signPsbtInput unusualPsbt).1.outputs ≠ unusualPsbt.outputs ∧
    (firstBdkWallet.signPsbtInput unusualPsbt).2 =
      fail "bdk_wallet signing failed: The psbt contains a non standard sighash" := by
  refine ⟨firstBdkWallet_lawful, ?_, ?_, ?_⟩
  · decide +kernel
  · decide +kernel
  · decide +kernel

end Blindjoin
