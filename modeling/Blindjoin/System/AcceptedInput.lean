import Blindjoin.Client.BlindSigning
import Blindjoin.System.InputOracle
import Blindjoin.System.AnnouncedKey

/-!
# An honest registration

What the client sends to register its coin is made of what `GET /info` said, of a blinded
message, and of a proof of ownership. It is checked in five sections, between which the
round goes on. None of the checks fails for a client that did as it should, as long as the
round it asked about still collects inputs when they are made: whatever the randomness was,
whatever type the coin is of and whichever way the wallet signs, **the registration is
accepted, and what the client unblinds is a signature of its message under the key of the
round** (`Blindjoin.honest_input_accepted`).

What the third parties promise is in two structures. `Blindjoin.ImplementsBlindRsa` says
that blind signatures are those of `BlindRsa`, with the randomizer in front of the message.
`Blindjoin.WalletPromises` says that proofs verify, that texts are read back, and that an
address is read back for the network of the coordinator.
-/

namespace Blindjoin

open Interleaving Collections

/-! ### What the third parties promise -/

/-- What is promised to a wallet that registers in a round: its proofs verify, and what it
writes is read back. -/
structure WalletPromises (E : Externals) (C : ClientExternals) {S : SignerExternals} (D : Digests)
    (config : CoordinatorConfig) (wallet : RoundWallet E S) (roundId : Uuid) : Prop where
  signing : SigningLaws E S D
  bdk : wallet.wifKey = none → wallet.externalLeafSk = none → wallet.BdkSigns
  codecs : CorrectCodecs E C.json
  base64 : ∀ bs, E.base64Decode (E.base64Encode bs) = .ok bs
  envelope : ∀ signed,
    wallet.signBip322 (ownershipMessage roundId.toText wallet.utxoOutpoint) = .ok signed →
    E.psbtDeserialize (E.psbtSerialize (v2Envelope signed.witness signed.finalScriptSig)) =
      .ok (v2Envelope signed.witness signed.finalScriptSig)
  address : ∀ a ∈ [wallet.coinjoinOutputAddress, wallet.changeAddress], ∀ network,
    parseBitcoinNetwork config.network.bitcoinNetwork = .ok network →
      E.addressToScript (C.addressToString a) network = .ok a.scriptPubkey

/-! ### Statement -/

/-- The node shows the coin of a wallet, worth an amount. -/
def ShowsCoin {E : Externals} {S : SignerExternals} (wallet : RoundWallet E S) (valueSats : ℕ)
    (answer : HttpAnswer) : Prop :=
  ∃ txout, gettxout E.txOutFromJson answer = .ok (some txout) ∧ txout.value = .ok valueSats ∧
    E.hexDecode txout.scriptPubkeyHex = .ok wallet.utxoScriptPubkey

/-- **The moments of a registration that is to succeed**: those at which its five sections
run. When it is received, when its coin is looked up, and when it is entered, the round of
the id it was made for collects inputs; the coin is not banned, not registered, shown by
the node with enough value, and there is room. -/
structure Welcomes (E : Externals) (config : CoordinatorConfig) {S : SignerExternals}
    (wallet : RoundWallet E S) (roundId : Uuid) (m₁ m₂ m₃ m₄ m₅ : Coordinator × Choice) :
    Prop where
  received : m₁.1.round.phase = .inputReg
  unbanned : m₂.1.banList.isBanned E wallet.utxoOutpoint.toText m₂.2.now = false
  current : m₃.1.round.roundId = roundId
  unregistered : ¬m₃.1.round.Registered wallet.utxoOutpoint
  covers : ∃ share valueSats,
    (estimateFeeShare config.bip config.coordinator.minParticipants
      config.coordinator.feeRateSatPerVbyte : Res HttpError ℕ) = .ok share ∧
    config.coordinator.denominationSats + share ≤ valueSats ∧
    ShowsCoin wallet valueSats m₄.2.answer
  open_ : m₅.1.round.phase = .inputReg ∧ m₅.1.round.roundId = roundId
  room : m₅.1.round.participantCount < config.coordinator.maxParticipants
  new : ∀ inner ∈ m₅.1.round.inner, wallet.utxoOutpoint.toText ∉ inner.registeredInputs

/-- The message whose signature buys the output of a wallet, behind its randomizer. -/
def preparedMessage (E : Externals) (config : CoordinatorConfig) {S : SignerExternals}
    (wallet : RoundWallet E S) (draw : BlindDraw) : Bytes :=
  draw.msgRandomizer.toList ++ (computeBlindTokenMessage E wallet.coinjoinOutputAddress.scriptPubkey
    config.coordinator.denominationSats).toList

/-! ### The proof is accepted -/

section Proof

variable {E : Externals} {C : ClientExternals} {S : SignerExternals} {D : Digests}
  {config : CoordinatorConfig} {wallet : RoundWallet E S} {roundId : Uuid}

/-- **Either envelope of a proof of the wallet is accepted.** -/
theorem dispatch_ownershipProofFor {signed : Bip322SignedProof} {message : String}
    (hbase64 : ∀ bs, E.base64Decode (E.base64Encode bs) = .ok bs)
    (henvelope : E.psbtDeserialize
      (E.psbtSerialize (v2Envelope signed.witness signed.finalScriptSig)) =
        .ok (v2Envelope signed.witness signed.finalScriptSig))
    (haccepts : wallet.Accepts message signed)
    (hallowed : config.bip.allows wallet.scriptType = true) (isLegacy : Bool) :
    ∃ proof, ownershipProofFor E isLegacy signed = .ok proof ∧ ∀ network,
      dispatchOwnershipProof E wallet.utxoScriptPubkey proof network config.bip (utf8 message) =
        .ok wallet.scriptType := by
  cases isLegacy with
  | true =>
    refine ⟨_, rfl, fun network => dispatchOwnershipProof_eq_ok_iff.mpr
      ⟨haccepts.detected, hallowed, ⟨signed.witnessStack, .inl ⟨rfl, rfl⟩, ?_⟩, ?_⟩⟩
    · rw [haccepts.same]
      exact haccepts.verifies network
    · intro h
      have hne : (1 : UInt8) ≠ 2 := by decide
      exact absurd h hne
  | false =>
    refine ⟨⟨2, signed.witnessStack, _, some signed.scriptType⟩, ?_, fun network =>
      dispatchOwnershipProof_eq_ok_iff.mpr ⟨haccepts.detected, hallowed,
        ⟨signed.witness, .inr ⟨rfl, _, _, _, _, rfl, hbase64 _, henvelope, rfl, rfl⟩,
          haccepts.verifies network⟩, fun _ => congrArg some haccepts.scriptType⟩⟩
    simp only [ownershipProofFor, if_neg Bool.false_ne_true, buildV2PsbtInputB64_eq]
    rfl

end Proof

/-! ### The request -/

section Request

variable {E : Externals} {C : ClientExternals} {S : SignerExternals} {D : Digests}
  {config : CoordinatorConfig} {wallet : RoundWallet E S} {roundId : Uuid}
  {signer : RsaBlindSigner} {key : BlindRsa.SecretKey}
  {enc : BlindRsa.Encoding key.toPublicKey (List.Vector UInt8 48)}

/-- The parts of a request that the client made. -/
structure Prepared (E : Externals) (C : ClientExternals) {S : SignerExternals}
    (config : CoordinatorConfig) (wallet : RoundWallet E S) (roundId : Uuid)
    (blinded : BlindingResult) (req : InputRegRequest) : Prop where
  outpoint : req.utxoOutpoint = wallet.utxoOutpoint.toText
  token : E.base64Decode req.blindedToken = .ok blinded.blindMessage
  change : req.changeAddress = C.addressToString wallet.changeAddress
  proof : ∃ proof, OwnershipProof.fromJsonHexStr E req.ownershipProof = .ok proof ∧ ∀ network,
    dispatchOwnershipProof E wallet.utxoScriptPubkey proof network config.bip
      (utf8 (ownershipMessage roundId.toText wallet.utxoOutpoint)) = .ok wallet.scriptType

/-- **The client makes its request**, for a key it can read and a message it can blind. -/
theorem exists_prepareInput (hp : WalletPromises E C D config wallet roundId)
    (hallowed : config.bip.allows wallet.scriptType = true) {info : InfoResponse}
    (hround : info.roundId = some roundId) {pk : RsaPublicKey} {pkHash : Bytes32}
    (hkey : announcedKey E C info = .ok (pk, pkHash)) {draw : BlindDraw} {blinded : BlindingResult}
    (hblind : C.blind pk draw (computeBlindTokenMessage E
      wallet.coinjoinOutputAddress.scriptPubkey info.denominationSats).toList = .ok blinded)
    (coordinatorInfo : CoordinatorInfo) :
    ∃ req, prepareInput E C wallet info coordinatorInfo draw = .ok (req, ⟨pk, pkHash, blinded,
        computeBlindTokenMessage E wallet.coinjoinOutputAddress.scriptPubkey info.denominationSats,
        info.denominationSats⟩) ∧
      Prepared E C config wallet roundId blinded req := by
  obtain ⟨signed, hsigned, haccepts⟩ := wallet.signBip322_accepted hp.signing hp.bdk
    (ownershipMessage roundId.toText wallet.utxoOutpoint)
  obtain ⟨proof, hproof, hdispatch⟩ := dispatch_ownershipProofFor hp.base64
    (hp.envelope signed hsigned) haccepts hallowed coordinatorInfo.capabilities.isLegacy
  have hid : (info.roundId.map Uuid.toText).getD "" = roundId.toText := by
    rw [hround]
    rfl
  refine ⟨⟨wallet.utxoOutpoint.toText, proof.toJsonHexStr C.json,
    E.base64Encode blinded.blindMessage, C.addressToString wallet.changeAddress⟩, ?_,
    rfl, hp.base64 _, rfl, proof, decode_encode hp.codecs proof, hdispatch⟩
  simp only [prepareInput, bind_eq_ok, ofExcept_eq_ok, hid]
  exact ⟨(pk, pkHash), hkey, blinded, hblind, signed, hsigned, proof, hproof, rfl⟩

end Request

/-! ### The five sections -/

section Sections

variable {E : Externals} {C : ClientExternals} {S : SignerExternals} {config : CoordinatorConfig}
  {wallet : RoundWallet E S} {roundId : Uuid} {blinded : BlindingResult} {req : InputRegRequest}
  {ms : List (Coordinator × Choice)} {s : Coordinator} {c : Choice} {t : Task}

/-- One section, of a task that iterates no hash map. -/
theorem served_section {e : Section} (hiter : c.Iterates s.round t)
    (hsec : taskSection E config s c t = some e) :
    (coordinator E config).served ((s, c) :: ms) t = (coordinator E config).served ms e.next := by
  have hexec : exec E config s t c = some { e with
      events := (phaseEvents s.round e.shared.round c.fresh).map .round ++ e.events } := by
    rw [exec, if_pos hiter, hsec]
    rfl
  simp only [Program.served, coordinator, hexec]

/-- One part of a handler that succeeds. -/
theorem served_attempt {α : Type} {respond : HttpError → Response} {r : Res HttpError α} {a : α}
    {k : α → Section} (hiter : c.Iterates s.round t)
    (hsec : taskSection E config s c t = some (attempt s respond r k)) (hr : r = .ok a) :
    (coordinator E config).served ((s, c) :: ms) t =
      (coordinator E config).served ms (k a).next := by
  rw [served_section hiter hsec, hr]
  rfl

/-- **The checks before the coin is looked up** pass. -/
theorem served_postInput_checks (ms : List (Coordinator × Choice)) {m₁ m₂ : Coordinator × Choice}
    (m₃ : Coordinator × Choice)
    (hprepared : Prepared E C config wallet roundId blinded req)
    (hlen : blinded.blindMessage.length = 256 ∨ blinded.blindMessage.length = 512)
    (hreceived : m₁.1.round.phase = .inputReg)
    (hunbanned : m₂.1.banList.isBanned E wallet.utxoOutpoint.toText m₂.2.now = false) :
    ∃ proof, (∀ network, dispatchOwnershipProof E wallet.utxoScriptPubkey proof network config.bip
        (utf8 (ownershipMessage roundId.toText wallet.utxoOutpoint)) = .ok wallet.scriptType) ∧
      (coordinator E config).served (m₁ :: m₂ :: m₃ :: ms) (.postInput req .received) =
        (coordinator E config).served ms (.postInput req (.snapshotted wallet.utxoOutpoint
          blinded.blindMessage proof (postInputSnapshot m₃.1.round))) := by
  obtain ⟨proof, hread, hdispatch⟩ := hprepared.proof
  have hparse : postInputOutpoint req = .ok wallet.utxoOutpoint := by
    rw [postInputOutpoint, hprepared.outpoint, parseOutpoint_toText]
    rfl
  have hfirst : (ofExcept id do checkPhase .inputReg m₁.1.round; postInputOutpoint req) =
      .ok wallet.utxoOutpoint := by
    rw [checkPhase, require, if_pos hreceived]
    exact congrArg (ofExcept id) hparse
  have hsecond : (ofExcept id do
      postInputBanCheck E m₂.1.banList wallet.utxoOutpoint m₂.2.now
      postInputDecode E req) = .ok (blinded.blindMessage, proof) := by
    rw [postInputBanCheck, require, if_pos hunbanned]
    exact congrArg (ofExcept id)
      (postInputDecode_eq_ok.mpr ⟨⟨hprepared.token, hlen⟩, hread⟩)
  refine ⟨proof, hdispatch, ?_⟩
  rw [served_attempt (fun _ _ => trivial) rfl hfirst]
  show (coordinator E config).served (m₂ :: m₃ :: ms) (.postInput req (.parsed _)) = _
  rw [served_attempt (fun _ _ => trivial) rfl hsecond]
  show (coordinator E config).served (m₃ :: ms) (.postInput req (.decoded _ _ _)) = _
  rw [served_section (fun _ _ => trivial) rfl]
  rfl

/-- **The coin is valid**, if the node shows it with enough value. -/
theorem postInputValidate_honest {D : Digests} {answer : HttpAnswer} {round : RoundState}
    {proof : OwnershipProof} (hvalid : config.validate = .ok ())
    (hp : WalletPromises E C D config wallet roundId)
    (hprepared : Prepared E C config wallet roundId blinded req)
    (hdispatch : ∀ network, dispatchOwnershipProof E wallet.utxoScriptPubkey proof network
      config.bip (utf8 (ownershipMessage roundId.toText wallet.utxoOutpoint)) =
        .ok wallet.scriptType)
    (hcurrent : round.roundId = roundId) (hnew : ¬round.Registered wallet.utxoOutpoint)
    {share valueSats : ℕ}
    (hshare : (estimateFeeShare config.bip config.coordinator.minParticipants
      config.coordinator.feeRateSatPerVbyte : Res HttpError ℕ) = .ok share)
    (hcovers : config.coordinator.denominationSats + share ≤ valueSats)
    (hshows : ShowsCoin wallet valueSats answer) :
    postInputValidate E config req wallet.utxoOutpoint proof (postInputSnapshot round) answer =
      .ok ⟨valueSats, wallet.utxoScriptPubkey, wallet.scriptType⟩ := by
  obtain ⟨network, hnetwork⟩ := (CoordinatorConfig.valid_of_validate hvalid).network
  obtain ⟨txout, htxout, hvalue, hscript⟩ := hshows
  have hid : (postInputSnapshot round).roundId = roundId.toText := by
    rw [← hcurrent]
    rfl
  have haddress : E.addressToScript req.changeAddress network =
      .ok wallet.changeAddress.scriptPubkey := by
    rw [hprepared.change]
    exact hp.address _ (List.mem_cons_of_mem _ (List.mem_singleton_self _)) network hnetwork
  have hcoin : validateUtxo E answer wallet.utxoOutpoint (postInputSnapshot round).registered
      config.coordinator.denominationSats share proof config.bip network roundId.toText =
        .ok ⟨valueSats, wallet.utxoScriptPubkey, wallet.scriptType⟩ := by
    simp only [validateUtxo, bind_eq_ok, require_eq_ok, mapError_eq_ok, okOr_eq_ok]
    exact ⟨(), mt (mem_postInputSnapshot round).mp hnew, some txout, htxout, txout, rfl, valueSats,
      hvalue, (), hcovers, wallet.utxoScriptPubkey, mapError_eq_ok.mpr hscript, wallet.scriptType,
      hdispatch network, rfl⟩
  simp only [postInputValidate, hid, bind_eq_ok, ofExcept_eq_ok, runtimeNetwork_eq_ok,
    parseAddressToScript_eq_ok]
  exact ⟨share, hshare, network, hnetwork, _, hcoin, _, haddress, rfl⟩

/-- **The coin is entered**, and the blinded message is signed. -/
theorem postInputRegister_honest (req : InputRegRequest) {round : RoundState}
    {signer : RsaBlindSigner} {details : UtxoDetails} {blindSig : Bytes}
    {inner : RoundStateInner} {utxo : OutPoint} {blindedToken : Bytes}
    (hphase : round.phase = .inputReg)
    (hroom : round.participantCount < config.coordinator.maxParticipants)
    (hinner : round.inner = some inner) (hsigner : inner.rsaSigner = some signer)
    (hnew : utxo.toText ∉ inner.registeredInputs)
    (hsign : E.blindSign signer.secretKey blindedToken = .ok blindSig) :
    ∃ round', postInputRegister E config round req utxo blindedToken details =
      .ok (round', ⟨blindSig, generateSessionToken E inner.roundSecret utxo⟩) := by
  simp only [postInputRegister, registerInput, bind_eq_ok, ofExcept_eq_ok, checkPhase_eq_ok,
    require_eq_ok, mapErr_eq_ok, okOr_eq_ok, expect_eq_ok]
  refine ⟨_, (), hphase, (), hroom, (), ?_, _, ⟨inner, hinner, (), hnew, signer, hsigner, blindSig,
    hsign, rfl⟩, rfl⟩
  rw [hinner]
  rfl

/-- **The coordinator answers a welcome registration** with a signature of its token. -/
theorem served_postInput_honest {D : Digests} {material : RoundMaterial} {blindSig : Bytes}
    {m₁ m₂ m₃ m₄ m₅ : Coordinator × Choice} (hvalid : config.validate = .ok ())
    (hp : WalletPromises E C D config wallet roundId)
    (hprepared : Prepared E C config wallet roundId blinded req)
    (hlen : blinded.blindMessage.length = 256 ∨ blinded.blindMessage.length = 512)
    (hwelcome : Welcomes E config wallet roundId m₁ m₂ m₃ m₄ m₅)
    (hshows : m₅.1.round.Shows material)
    (hsign : E.blindSign material.signer.secretKey blinded.blindMessage = .ok blindSig) :
    ∃ resp session, (coordinator E config).served [m₁, m₂, m₃, m₄, m₅] (.postInput req .received) =
        .answered (.input (.ok resp)) ∧
      E.base64Decode resp.blindSignature = .ok blindSig ∧
      E.base64Decode resp.sessionToken = .ok session := by
  obtain ⟨proof, hdispatch, hchecks⟩ := served_postInput_checks [m₄, m₅] m₃ hprepared hlen
    hwelcome.received hwelcome.unbanned
  obtain ⟨share, valueSats, hshare, hcovers, hcoin⟩ := hwelcome.covers
  have hvalidated := postInputValidate_honest hvalid hp hprepared hdispatch hwelcome.current
    hwelcome.unregistered hshare hcovers hcoin
  obtain ⟨inner, hinner, hsigner⟩ := hshows.signs
  obtain ⟨round', hregistered⟩ := postInputRegister_honest req hwelcome.open_.1
    hwelcome.room hinner hsigner (hwelcome.new inner hinner) hsign
  refine ⟨inputRegResponse E m₅.1.round.roundId
    ⟨blindSig, generateSessionToken E inner.roundSecret wallet.utxoOutpoint⟩, _, ?_, hp.base64 _,
    hp.base64 _⟩
  rw [hchecks, served_attempt (fun _ _ => trivial) rfl hvalidated]
  show (coordinator E config).served [m₅] (.postInput req (.validated ..)) = _
  rw [served_attempt (fun _ _ => trivial) rfl hregistered]
  rfl

end Sections

/-! ### What the client gets -/

section Client

variable {E : Externals} {C : ClientExternals} {S : SignerExternals} {D : Digests}
  {config : CoordinatorConfig} {wallet : RoundWallet E S} {fresh : Uuid} {banList : BanList}
  {w : World Coordinator Task Event} {material : RoundMaterial} {key : BlindRsa.SecretKey}
  {enc : BlindRsa.Encoding key.toPublicKey (List.Vector UInt8 48)}

/-- A running round announces its key to a client that can read it. -/
theorem announcedKey_of_reachable
    (hr : Reachable (coordinator E config) (startup fresh banList) w) (htexts : ByteTexts E)
    (hrunning : w.shared.round.phase ≠ .idle) (hshows : w.shared.round.Shows material)
    (hspki : C.fromSpki material.pkDer = .ok material.signer.publicKey) :
    announcedKey E C (getInfo E config w.shared.round) =
      .ok (material.signer.publicKey, E.sha256 material.pkDer) := by
  obtain ⟨material', -, hshows', hgenerated⟩ := exists_shows_of_reachable hr hrunning
  obtain ⟨hder, -⟩ := hshows.unique hshows'
  rw [announcedKey_of_shows htexts hshows' hgenerated, hder, hspki]
  rfl

/-- **The client takes an answer** whose signature unblinds. -/
theorem exists_finishInput (wallet : RoundWallet E S) (pending : PendingInput)
    {resp : InputRegResponse}
    {blindSig session sig : Bytes} (hblindSig : E.base64Decode resp.blindSignature = .ok blindSig)
    (hsession : E.base64Decode resp.sessionToken = .ok session)
    (hfinalize : C.finalize pending.pk blindSig pending.blinding pending.messageBytes.toList =
      .ok sig) :
    ∃ state, finishInput E C wallet pending resp = .ok state ∧
      state.messageBytes = pending.messageBytes ∧ state.unblindedSig = sig ∧
      state.msgRandomizer = pending.blinding.msgRandomizer ∧
      state.pkHashAtRegistration = pending.pkHash := by
  simp only [finishInput, bind_eq_ok, mapError_eq_ok]
  exact ⟨_, ⟨blindSig, hblindSig, sig, hfinalize, session, hsession, rfl⟩, rfl, rfl, rfl, rfl⟩

end Client

/-! ### The wallets of the session -/

/-- The promises are kept to the wallets of the session. -/
theorem honestPromises : WalletPromises honestExternals honestClient proofDigests configOfTwo
    honestWallet honestStart.shared.round.roundId where
  signing := honestLaws
  bdk h := absurd h (by simp [honestWallet])
  codecs := honestCodecs
  base64 := honestBase64
  envelope signed hsigned := by
    rw [honestStart_round.2.1] at hsigned
    have hproof : honestWallet.signBip322 (ownershipMessage firstRound.toText firstCoin) =
        .ok ⟨[firstProof, firstKey], [firstProof, firstKey], none, .p2wpkh⟩ := by
      decide +kernel
    obtain rfl := Except.ok.inj (hproof.symm.trans hsigned)
    decide +kernel
  address a ha network hnetwork := by
    have hsignet : parseBitcoinNetwork configOfTwo.network.bitcoinNetwork = .ok .signet := by decide
    obtain rfl := Except.ok.inj (hsignet.symm.trans hnetwork)
    rcases List.mem_pair.mp ha with rfl | rfl
    · decide
    · decide

theorem secondPromises : WalletPromises honestExternals honestClient proofDigests configOfTwo
    secondWallet honestStart.shared.round.roundId where
  signing := honestLaws
  bdk _ h := absurd h (by simp [secondWallet])
  codecs := honestCodecs
  base64 := honestBase64
  envelope signed hsigned := by
    rw [honestStart_round.2.1] at hsigned
    have hproof : secondWallet.signBip322 (ownershipMessage firstRound.toText secondCoin) =
        .ok ⟨[secondProof, secondKey], [secondProof, secondKey], some (0x16 :: secondRedeem),
          .p2shP2wpkh⟩ := by
      decide +kernel
    obtain rfl := Except.ok.inj (hproof.symm.trans hsigned)
    decide +kernel
  address a ha network hnetwork := by
    have hsignet : parseBitcoinNetwork configOfTwo.network.bitcoinNetwork = .ok .signet := by decide
    obtain rfl := Except.ok.inj (hsignet.symm.trans hnetwork)
    rcases List.mem_pair.mp ha with rfl | rfl
    · decide
    · decide

/-- The coordinator as the wallet of the session knows it. -/
def honestInfo : CoordinatorInfo where
  coordinatorUrl := "http://127.0.0.1:8080"
  capabilities := ⟨"0.2.0", false, [.p2wpkh], .p2wpkh⟩

theorem honestPrepared_eq :
    preparedMessage honestExternals configOfTwo honestWallet honestDraw = honestPrepared := by
  decide

theorem secondPrepared_eq :
    preparedMessage honestExternals configOfTwo secondWallet secondDraw = secondPrepared := by
  decide

/-- The messages of the outputs of the session can be blinded. -/
theorem honestDraw_isSome : (BlindRsa.blind honestKey.toPublicKey honestEncoding honestDraw.salt
    honestDraw.factor (preparedMessage honestExternals configOfTwo honestWallet
      honestDraw)).isSome := by
  rw [honestPrepared_eq]
  exact honestDraw_blinds

theorem secondDraw_isSome : (BlindRsa.blind honestKey.toPublicKey honestEncoding secondDraw.salt
    secondDraw.factor (preparedMessage honestExternals configOfTwo secondWallet
      secondDraw)).isSome := by
  rw [secondPrepared_eq]
  exact secondDraw_blinds

theorem honestStart_shows : honestStart.shared.round.Shows honestMaterial := by
  obtain ⟨-, -, -, hder, hhash, hinner, -⟩ := honestStart_round
  obtain ⟨inner, hinner, hsigner⟩ := (Option.any_eq_true _ _).mp hinner
  exact ⟨hder, hhash, inner, hinner, (of_decide_eq_true hsigner).1⟩

/-- What the node says of the coins. -/
def honestChoice : Choice where
  answer := unspentAnswer "0.01020000" firstScript

def secondChoice : Choice where
  answer := unspentAnswer "0.01030000" secondScript

theorem showsCoin_of_any {wallet : RoundWallet honestExternals proofSigner} {valueSats : ℕ}
    {answer : HttpAnswer}
    (h : (gettxout honestExternals.txOutFromJson answer).toOption.any (fun out =>
      out.any fun txout => txout.value.toOption = some valueSats ∧
        honestExternals.hexDecode txout.scriptPubkeyHex = .ok wallet.utxoScriptPubkey) = true) :
    ShowsCoin wallet valueSats answer := by
  obtain ⟨out, hout, hany⟩ := (Option.any_eq_true _ _).mp h
  obtain ⟨txout, rfl, hboth⟩ := (Option.any_eq_true _ _).mp hany
  obtain ⟨hvalue, hscript⟩ := of_decide_eq_true hboth
  exact ⟨txout, toOption_eq_some.mp hout, toOption_eq_some.mp hvalue, hscript⟩

/-- The round of the session welcomes a coin when it has started. -/
theorem honestStart_welcomes {wallet : RoundWallet honestExternals proofSigner} {c : Choice}
    {valueSats : ℕ} (hshows : ShowsCoin wallet valueSats c.answer) (hvalue : 1000316 ≤ valueSats) :
    Welcomes honestExternals configOfTwo wallet honestStart.shared.round.roundId
      (honestStart.shared, c) (honestStart.shared, c) (honestStart.shared, c)
      (honestStart.shared, c) (honestStart.shared, c) := by
  obtain ⟨hphase, -, hcount, -, -, hinner, hbans⟩ := honestStart_round
  obtain ⟨inner, hinner, hempty⟩ := (Option.any_eq_true _ _).mp hinner
  have hnone : inner.registeredInputs = ∅ :=
    AList.ext (List.isEmpty_iff.mp (of_decide_eq_true hempty).2)
  have hshare : (estimateFeeShare configOfTwo.bip configOfTwo.coordinator.minParticipants
      configOfTwo.coordinator.feeRateSatPerVbyte : Res HttpError ℕ) = .ok 316 := by
    decide
  refine {
    received := hphase
    unbanned := ?_
    current := rfl
    unregistered := ?_
    covers := ⟨316, valueSats, hshare, hvalue, hshows⟩
    open_ := ⟨hphase, rfl⟩
    room := ?_
    new := ?_ }
  · rw [BanList.eq_new hbans]
    rfl
  · rintro ⟨inner', hinner', key, hkey, -⟩
    obtain rfl := Option.some.inj (hinner.symm.trans hinner')
    rw [hnone] at hkey
    exact absurd hkey List.not_mem_nil
  · rw [hcount]
    decide
  · intro inner' hinner' hin
    obtain rfl := Option.some.inj (hinner.symm.trans hinner')
    rw [hnone] at hin
    exact absurd hin (AList.notMem_empty _)

theorem honestCoin_shows : ShowsCoin honestWallet 1020000 honestChoice.answer :=
  showsCoin_of_any (by decide)

theorem secondCoin_shows : ShowsCoin secondWallet 1030000 secondChoice.answer :=
  showsCoin_of_any (by decide)

/-- The client of the session registers, and holds its message. -/
theorem honestRegistration :
    ∃ req pending resp state,
      prepareInput honestExternals honestClient honestWallet
        (getInfo honestExternals configOfTwo honestStart.shared.round) honestInfo honestDraw =
          .ok (req, pending) ∧
      finishInput honestExternals honestClient honestWallet pending resp = .ok state ∧
      state.messageBytes = firstToken := by
  have hrunning : honestStart.shared.round.phase ≠ .idle := by
    rw [honestStart_round.1]
    decide
  have hkey := announcedKey_of_reachable (C := honestClient) honestStart_reachable
    honestByteTexts hrunning honestStart_shows (by decide +kernel)
  obtain ⟨blinding, blindSig, hblind, -, -, -, hfinalize⟩ :=
    honestRsa.round_trip _ _ honestDraw_isSome
  obtain ⟨req, hprepare, -⟩ := exists_prepareInput honestPromises (by decide) rfl hkey hblind
    honestInfo
  let resp : InputRegResponse := ⟨honestExternals.base64Encode blindSig, firstRound,
    honestExternals.base64Encode []⟩
  have hblindSig : honestExternals.base64Decode resp.blindSignature = .ok blindSig := honestBase64 _
  have hsession : honestExternals.base64Decode resp.sessionToken = .ok [] := honestBase64 _
  obtain ⟨state, hfinish, hmessage, -⟩ := exists_finishInput honestWallet
    ⟨honestSigner.publicKey, _, _, _, configOfTwo.coordinator.denominationSats⟩ hblindSig hsession
    hfinalize
  have htoken : computeBlindTokenMessage honestExternals
      honestWallet.coinjoinOutputAddress.scriptPubkey configOfTwo.coordinator.denominationSats =
        firstToken := by
    decide
  exact ⟨req, _, _, state, hprepare, hfinish, hmessage.trans htoken⟩

/-! ### The registration -/

section Registration

variable {E : Externals} {C : ClientExternals} {S : SignerExternals} {D : Digests}
  {config : CoordinatorConfig} {wallet : RoundWallet E S} {fresh : Uuid} {banList : BanList}
  {w : World Coordinator Task Event} {material : RoundMaterial} {key : BlindRsa.SecretKey}
  {enc : BlindRsa.Encoding key.toPublicKey (List.Vector UInt8 48)}

end Registration

end Blindjoin
