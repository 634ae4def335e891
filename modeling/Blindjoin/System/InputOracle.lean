import Blindjoin.System.Recorded
import Blindjoin.System.Requests

/-!
# Who is registered, and who may ask

An input request names a coin and proves control of it. The coordinator asks whether
the coin is registered *before* it checks the proof, so a caller without a proof is told
(`Blindjoin.registration_hidden_iff`): on two rounds that differ in which coins are
registered, the answers to such a request agree exactly when the requested coin is
registered in both or in neither, or the request is refused before the question is
asked. For outputs the order is the other one, and the question has no such answer
(`Blindjoin.registerOutputLogic`).
-/

namespace Blindjoin

open Interleaving

/-! ### Statement -/

/-- A coin is registered in a round. -/
def RoundState.Registered (s : RoundState) (utxo : OutPoint) : Prop :=
  ∃ inner ∈ s.inner, ∃ key ∈ inner.registeredInputs.keys, parseOutpoint key = some utxo

/-- The ownership proof of a request verifies for the requested coin, in the round of this
id and under what the node says of the coin. -/
def ProofVerifies (E : Externals) (config : CoordinatorConfig) (roundId : Uuid)
    (answer : HttpAnswer) (req : InputRegRequest) : Prop :=
  ∃ utxo proof txout spk network scriptType, parseOutpoint req.utxoOutpoint = some utxo ∧
    OwnershipProof.fromJsonHexStr E req.ownershipProof = .ok proof ∧
    gettxout E.txOutFromJson answer = .ok (some txout) ∧
    parseScriptPubkeyFromTxout E txout = .ok spk ∧
    parseBitcoinNetwork config.network.bitcoinNetwork = .ok network ∧
    dispatchOwnershipProof E spk proof network config.bip
      (utf8 (ownershipMessage roundId.toText utxo)) = .ok scriptType

/-- A request with a blinded token of the size of an RSA modulus, and an ownership proof
that can be read. -/
def WellFormed (E : Externals) (req : InputRegRequest) : Prop :=
  (∃ token, E.base64Decode req.blindedToken = .ok token ∧
    (token.length = 256 ∨ token.length = 512)) ∧
  ∃ proof, OwnershipProof.fromJsonHexStr E req.ownershipProof = .ok proof

/-- Two rounds that collect inputs and differ in nothing a caller may know: not in their
id, nor in who is banned. Which coins are registered may differ. -/
structure SameInputReg (s s' : Coordinator) : Prop where
  phase : s.round.phase = .inputReg
  phase' : s'.round.phase = .inputReg
  roundId : s.round.roundId = s'.round.roundId
  banList : s.banList = s'.banList

/-- The answer to an input request that meets the same coordinator in all its sections. -/
def inputAnswer (E : Externals) (config : CoordinatorConfig) (s : Coordinator) (c : Choice)
    (req : InputRegRequest) : Task :=
  (coordinator E config).served (List.replicate 5 (s, c)) (.postInput req .received)

/-! ### Which check refused -/

section NotThisError

variable {ε ε' α β : Type} {r : Except ε α} {e e' : ε}

theorem bind_ne_error {f : α → Except ε β} (hr : r ≠ .error e) (hf : ∀ a, f a ≠ .error e) :
    (r >>= f) ≠ .error e := by
  cases r with
  | error e' => exact fun h => hr (congrArg Except.error (Except.error.inj h))
  | ok a => exact hf a

theorem mapError_ne_error {r : Except ε' α} {f : ε' → ε} (h : ∀ e', f e' ≠ e) :
    r.mapError f ≠ .error e := by
  cases r with
  | error e' => exact fun heq => h e' (Except.error.inj heq)
  | ok a => exact fun heq => absurd heq (by simp [Except.mapError])

theorem okOr_ne_error {o : Option α} (h : e' ≠ e) : okOr e' o ≠ .error e := by
  cases o with
  | none => exact fun heq => h (Except.error.inj heq)
  | some a => exact fun heq => absurd heq (by simp [okOr])

theorem require_ne_error {c : Prop} [Decidable c] (h : e' ≠ e) : require c e' ≠ .error e := by
  rw [require]
  split
  · exact fun heq => absurd heq (by simp)
  · exact fun heq => h (Except.error.inj heq)

end NotThisError

/-! ### The coin -/

section Coin

variable {E : Externals} {answer : HttpAnswer} {utxo : OutPoint} {registered : List OutPoint}
  {denominationSats feeShareSats : ℕ} {proof : OwnershipProof} {bip : BipConfig}
  {network : Network} {roundId : String}

/-- **The registered coins are asked first**, and for nothing else. -/
theorem validateUtxo_eq_ite :
    validateUtxo E answer utxo registered denominationSats feeShareSats proof bip network roundId =
      if utxo ∈ registered then .error .alreadyRegistered
      else validateUtxo E answer utxo [] denominationSats feeShareSats proof bip network
        roundId := by
  by_cases hmem : utxo ∈ registered
  · rw [validateUtxo, require, if_neg (not_not_intro hmem), if_pos hmem]
    rfl
  · rw [if_neg hmem, validateUtxo, validateUtxo, require, if_pos hmem, require,
      if_pos List.not_mem_nil]

/-- Nothing but the registered coins makes a coin registered. -/
theorem validateUtxo_nil_ne :
    validateUtxo E answer utxo [] denominationSats feeShareSats proof bip network roundId ≠
      .error .alreadyRegistered := by
  rw [validateUtxo, require, if_pos List.not_mem_nil]
  refine bind_ne_error (by simp) fun _ => ?_
  refine bind_ne_error (mapError_ne_error fun _ => by simp) fun _ => ?_
  refine bind_ne_error (okOr_ne_error (by simp)) fun _ => ?_
  refine bind_ne_error (mapError_ne_error fun _ => by simp) fun _ => ?_
  refine bind_ne_error (require_ne_error (by simp)) fun _ => ?_
  refine bind_ne_error (mapError_ne_error fun _ => by simp) fun _ => ?_
  exact bind_ne_error (mapError_ne_error fun _ => by simp) fun _ => by simp [pure, Except.pure]

/-- A coin is accepted on a proof that verifies under what the node says of it. -/
theorem exists_proven_of_validateUtxo {details : UtxoDetails}
    (h : validateUtxo E answer utxo registered denominationSats feeShareSats proof bip network
      roundId = .ok details) :
    ∃ txout spk scriptType, gettxout E.txOutFromJson answer = .ok (some txout) ∧
      parseScriptPubkeyFromTxout E txout = .ok spk ∧
      dispatchOwnershipProof E spk proof network bip
        (utf8 (ownershipMessage roundId utxo)) = .ok scriptType := by
  simp only [validateUtxo, bind_eq_ok, require_eq_ok, mapError_eq_ok, okOr_eq_ok] at h
  obtain ⟨_, _, unspent, hunspent, txout, rfl, _, _, _, _, spk, hspk, st, hst, _⟩ := h
  exact ⟨txout, spk, st, hunspent, hspk, hst⟩

/-- A refusal tells which check refused. -/
theorem utxoHttpError_ne {e : UtxoError} (h : e ≠ .alreadyRegistered) :
    utxoHttpError e ≠ utxoHttpError .alreadyRegistered := by
  cases e with
  | alreadyRegistered => exact absurd rfl h
  | _ =>
    intro heq
    have hcode := congrArg HttpError.code heq
    exact absurd hcode (by simp [utxoHttpError, apiError])

end Coin

/-! ### The answer -/

section Answer

variable {E : Externals} {config : CoordinatorConfig} {s s' : Coordinator} {c : Choice}
  {req : InputRegRequest} {utxo : OutPoint} {token : Bytes} {proof : OwnershipProof}

theorem mem_postInputSnapshot (round : RoundState) :
    utxo ∈ (postInputSnapshot round).registered ↔ round.Registered utxo := by
  rw [postInputSnapshot, RoundState.Registered]
  cases round.inner with
  | none => simp
  | some inner => simp [List.mem_filterMap]

/-- **The refusal of a coin whose ownership is not proven**: one error for a registered
coin, and another, the same for all rounds with this id, for a coin that is not. -/
theorem postInputValidate_of_unproven (hvalid : config.Valid) {answer : HttpAnswer}
    {roundId : Uuid} (hparse : parseOutpoint req.utxoOutpoint = some utxo)
    (hread : OwnershipProof.fromJsonHexStr E req.ownershipProof = .ok proof)
    (hproof : ¬ProofVerifies E config roundId answer req) :
    ∃ e, e ≠ .alreadyRegistered ∧ ∀ round : RoundState, round.roundId = roundId →
      postInputValidate E config req utxo proof (postInputSnapshot round) answer =
        fail (utxoHttpError (if utxo ∈ (postInputSnapshot round).registered then .alreadyRegistered
          else e)) := by
  obtain ⟨share, hshare⟩ := exists_estimateFeeShare (ε := HttpError) hvalid.allowed
    config.coordinator.minParticipants config.coordinator.feeRateSatPerVbyte
  obtain ⟨network, hnetwork⟩ := hvalid.network
  have hruntime : (runtimeNetwork config : Res HttpError Network) = .ok network :=
    runtimeNetwork_eq_ok.mpr hnetwork
  cases hfresh : validateUtxo E answer utxo [] config.coordinator.denominationSats share proof
      config.bip network roundId.toText with
  | ok details =>
    -- a coin is accepted only on a proof
    obtain ⟨txout, spk, st, htxout, hspk, hst⟩ := exists_proven_of_validateUtxo hfresh
    exact absurd ⟨utxo, proof, txout, spk, network, st, hparse, hread, htxout, hspk, hnetwork, hst⟩
      hproof
  | error e =>
    refine ⟨e, fun he => validateUtxo_nil_ne (he ▸ hfresh), fun round hround => ?_⟩
    have hid : (postInputSnapshot round).roundId = roundId.toText := by rw [← hround]; rfl
    rw [postInputValidate, hshare, hruntime, hid]
    simp only [bind, Except.bind]
    rw [validateUtxo_eq_ite, hfresh]
    by_cases hmem : utxo ∈ (postInputSnapshot round).registered
    · rw [if_pos hmem, if_pos hmem]
      rfl
    · rw [if_neg hmem, if_neg hmem]
      rfl

/-- What is checked of a request before the registered coins are asked. -/
def inputChecks (E : Externals) (banList : BanList) (now : ℕ) (req : InputRegRequest) :
    Except HttpError (OutPoint × Bytes × OwnershipProof) := do
  let utxo ← postInputOutpoint req
  postInputBanCheck E banList utxo now
  let (blindedToken, ownershipProof) ← postInputDecode E req
  pure (utxo, blindedToken, ownershipProof)

theorem postInputDecode_eq_ok :
    postInputDecode E req = .ok (token, proof) ↔
      (E.base64Decode req.blindedToken = .ok token ∧ (token.length = 256 ∨ token.length = 512)) ∧
        OwnershipProof.fromJsonHexStr E req.ownershipProof = .ok proof := by
  simp only [postInputDecode, decodeField, bind_eq_ok, mapError_eq_ok, require_eq_ok]
  constructor
  · rintro ⟨token', htoken, _, hlen, proof', hread, heq⟩
    obtain ⟨rfl, rfl⟩ := Prod.mk.inj (Except.ok.inj heq)
    exact ⟨⟨htoken, hlen⟩, hread⟩
  · rintro ⟨⟨htoken, hlen⟩, hread⟩
    exact ⟨token, htoken, (), hlen, proof, hread, rfl⟩

theorem inputChecks_eq_ok {banList : BanList} {now : ℕ} :
    inputChecks E banList now req = .ok (utxo, token, proof) ↔
      parseOutpoint req.utxoOutpoint = some utxo ∧
      banList.isBanned E utxo.toText now = false ∧
      postInputDecode E req = .ok (token, proof) := by
  simp only [inputChecks, postInputOutpoint, postInputBanCheck, bind_eq_ok, okOr_eq_ok,
    require_eq_ok]
  constructor
  · rintro ⟨utxo', hparse, _, hban, ⟨token', proof'⟩, hdecode, heq⟩
    obtain ⟨rfl, hrest⟩ := Prod.mk.inj (Except.ok.inj heq)
    obtain ⟨rfl, rfl⟩ := Prod.mk.inj hrest
    exact ⟨hparse, hban, hdecode⟩
  · rintro ⟨hparse, hban, hdecode⟩
    exact ⟨utxo, hparse, (), hban, (token, proof), hdecode, rfl⟩

/-- One section that only goes on. -/
theorem served_proceed {t next : Task} {ms : List (Coordinator × Choice)}
    (hiter : c.Iterates s.round t)
    (hsec : taskSection E config s c t = some (proceed s next)) :
    (coordinator E config).served ((s, c) :: ms) t = (coordinator E config).served ms next := by
  obtain ⟨e, he, rfl, -⟩ := exec_proceed hiter hsec
  simp only [Program.served, coordinator, he]

/-- An answer is final. -/
theorem served_answered (r : Response) (ms : List (Coordinator × Choice)) :
    (coordinator E config).served ms (.answered r) = .answered r := by
  cases ms with
  | nil => rfl
  | cons m ms =>
    have hnone : exec E config m.1 (.answered r) m.2 = none := exec_none rfl
    simp only [Program.served, coordinator, hnone]

/-- **The first sections of a request** come to what the checks say: an answer, or the
question for the registered coins. -/
theorem inputAnswer_eq (hphase : s.round.phase = .inputReg) :
    inputAnswer E config s c req = match inputChecks E s.banList c.now req with
      | .error e => .answered (.input (.error e))
      | .ok (utxo, token, proof) => (coordinator E config).served (List.replicate 3 (s, c))
          (.postInput req (.decoded utxo token proof)) := by
  have hfirst : taskSection E config s c (.postInput req .received) =
      some (proceed s (Task.settle (.input ∘ .error)
        (fun utxo => .postInput req (.parsed utxo)) (ofExcept id (postInputOutpoint req)))) := by
    rw [taskSection, postInputSection, attempt_proceed, checkPhase, require, if_pos hphase]
    rfl
  rw [inputAnswer, List.replicate_succ, served_proceed (fun _ _ => trivial) hfirst, inputChecks]
  cases hparse : postInputOutpoint req with
  | error e => exact served_answered _ _
  | ok utxo =>
    have hsecond : taskSection E config s c (.postInput req (.parsed utxo)) =
        some (proceed s (Task.settle (.input ∘ .error)
          (fun p => .postInput req (.decoded utxo p.1 p.2))
          (ofExcept id do postInputBanCheck E s.banList utxo c.now; postInputDecode E req))) := by
      rw [taskSection, postInputSection, ← attempt_proceed]
    show (coordinator E config).served (List.replicate 4 (s, c)) (.postInput req (.parsed utxo)) = _
    rw [List.replicate_succ, served_proceed (fun _ _ => trivial) hsecond]
    simp only [bind, Except.bind]
    cases hban : postInputBanCheck E s.banList utxo c.now with
    | error e => exact served_answered _ _
    | ok _ =>
      cases hdecode : postInputDecode E req with
      | error e => exact served_answered _ _
      | ok p => rfl

/-- **The question for the registered coins**, and an answer that depends on it. -/
theorem served_decoded {fault : HttpError}
    (hvalidate : postInputValidate E config req utxo proof (postInputSnapshot s.round) c.answer =
      fail fault) :
    (coordinator E config).served (List.replicate 3 (s, c))
      (.postInput req (.decoded utxo token proof)) = .answered (.input (.error fault)) := by
  have hthird : taskSection E config s c (.postInput req (.decoded utxo token proof)) =
      some (proceed s (.postInput req
        (.snapshotted utxo token proof (postInputSnapshot s.round)))) := rfl
  have hfourth : taskSection E config s c (.postInput req
      (.snapshotted utxo token proof (postInputSnapshot s.round))) =
      some (proceed s (.answered (.input (.error fault)))) := by
    rw [taskSection, postInputSection, hvalidate]
    rfl
  rw [List.replicate_succ, served_proceed (fun _ _ => trivial) hthird, List.replicate_succ,
    served_proceed (fun _ _ => trivial) hfourth]
  exact served_answered _ _

/-- **What an unproven request learns**: two rounds that differ in which coins are
registered answer it alike exactly when the requested coin is registered in both or in
neither, or the request is refused before the registered coins are asked: its outpoint
cannot be read, the coin is banned, or its token or proof is malformed. -/
theorem registration_hidden_iff (hvalid : config.validate = .ok ()) (hsame : SameInputReg s s')
    (hproof : ¬ProofVerifies E config s.round.roundId c.answer req) :
    inputAnswer E config s c req = inputAnswer E config s' c req ↔
      ∀ utxo, parseOutpoint req.utxoOutpoint = some utxo →
        s.banList.isBanned E utxo.toText c.now = false → WellFormed E req →
        (s.round.Registered utxo ↔ s'.round.Registered utxo) := by
  rw [inputAnswer_eq hsame.phase, inputAnswer_eq hsame.phase', ← hsame.banList]
  cases hchecks : inputChecks E s.banList c.now req with
  | error e =>
    -- refused before the registered coins are asked
    refine ⟨fun _ utxo hparse hban hwell => ?_, fun _ => rfl⟩
    obtain ⟨⟨token, htoken⟩, proof, hread⟩ := hwell
    have hok := inputChecks_eq_ok.mpr ⟨hparse, hban, postInputDecode_eq_ok.mpr ⟨htoken, hread⟩⟩
    exact absurd (hchecks.symm.trans hok) (by simp)
  | ok checked =>
    obtain ⟨utxo, token, proof⟩ := checked
    obtain ⟨hparse, hban, hdecode⟩ := inputChecks_eq_ok.mp hchecks
    obtain ⟨htoken, hread⟩ := postInputDecode_eq_ok.mp hdecode
    obtain ⟨e, hne, hrefused⟩ := postInputValidate_of_unproven
      (CoordinatorConfig.valid_of_validate hvalid) hparse hread hproof
    simp only []
    rw [served_decoded (hrefused s.round rfl),
      served_decoded (hrefused s'.round hsame.roundId.symm)]
    have hask : (∀ utxo', parseOutpoint req.utxoOutpoint = some utxo' →
        s.banList.isBanned E utxo'.toText c.now = false → WellFormed E req →
        (s.round.Registered utxo' ↔ s'.round.Registered utxo')) ↔
        (utxo ∈ (postInputSnapshot s.round).registered ↔
          utxo ∈ (postInputSnapshot s'.round).registered) := by
      rw [mem_postInputSnapshot, mem_postInputSnapshot]
      constructor
      · exact fun h => h utxo hparse hban ⟨⟨token, htoken⟩, proof, hread⟩
      · intro h utxo' hparse' _ _
        obtain rfl := Option.some.inj (hparse.symm.trans hparse')
        exact h
    rw [hask]
    -- a registered coin and an unregistered one are refused with different errors
    have hdiffer : Task.answered (.input (.error (utxoHttpError .alreadyRegistered))) ≠
        .answered (.input (.error (utxoHttpError e))) := by
      intro h
      injection h with h
      injection h with h
      exact utxoHttpError_ne hne (Except.error.inj h).symm
    by_cases hin : utxo ∈ (postInputSnapshot s.round).registered
    · by_cases hin' : utxo ∈ (postInputSnapshot s'.round).registered
      · rw [if_pos hin, if_pos hin']
        exact iff_of_true rfl (iff_of_true hin hin')
      · rw [if_pos hin, if_neg hin']
        exact iff_of_false hdiffer fun h => hin' (h.mp hin)
    · by_cases hin' : utxo ∈ (postInputSnapshot s'.round).registered
      · rw [if_neg hin, if_pos hin']
        exact iff_of_false hdiffer.symm fun h => hin (h.mpr hin')
      · rw [if_neg hin, if_neg hin']
        exact iff_of_true rfl (iff_of_false hin hin')

end Answer

/-! ### The session, asked about the first coin -/

/-- The session when only the first coin is registered. -/
def firstRegistered : Coordinator :=
  (worldAfter (startMoves firstKeys ++
    inputMoves 1 firstInput (unspentAnswer "0.01020000" firstScript))).shared

/-- The session when only the second coin is registered. -/
def secondRegistered : Coordinator :=
  (worldAfter (startMoves firstKeys ++
    inputMoves 1 secondInput (unspentAnswer "0.01030000" secondScript))).shared

/-- A request for the first coin with the ownership proof of another. -/
def unprovenInput : InputRegRequest :=
  { firstInput with ownershipProof := secondInput.ownershipProof }

/-- What the node says of the first coin, and the time of the request. -/
def askedAt : Choice where
  now := 1760000002
  answer := unspentAnswer "0.01020000" firstScript

/-- The proof of the second coin does not verify for the first. -/
theorem unproven :
    ¬ProofVerifies session.externals configOfTwo firstRound askedAt.answer unprovenInput := by
  rintro ⟨utxo, proof, txout, spk, network, st, hparse, hread, htxout, hspk, hnetwork, hst⟩
  have hutxo : parseOutpoint unprovenInput.utxoOutpoint = some firstCoin := by decide +kernel
  obtain rfl := Option.some.inj (hutxo.symm.trans hparse)
  have hproof : OwnershipProof.fromJsonHexStr session.externals unprovenInput.ownershipProof =
      .ok ⟨1, [secondProof, secondKey], none, none⟩ := by decide +kernel
  obtain rfl := Except.ok.inj (hproof.symm.trans hread)
  have hhex : ((gettxout session.externals.txOutFromJson askedAt.answer).toOption.bind id).map
      GetTxOut.scriptPubkeyHex = some (hexText firstScript) := by decide +kernel
  rw [htxout] at hhex
  have hscript : parseScriptPubkeyFromTxout session.externals txout = .ok firstScript := by
    rw [parseScriptPubkeyFromTxout, Option.some.inj hhex]
    decide +kernel
  obtain rfl := Except.ok.inj (hscript.symm.trans hspk)
  have hsignet : parseBitcoinNetwork configOfTwo.network.bitcoinNetwork = .ok .signet := by decide
  obtain rfl := Except.ok.inj (hsignet.symm.trans hnetwork)
  have hrefused : (dispatchOwnershipProof session.externals firstScript
      ⟨1, [secondProof, secondKey], none, none⟩ .signet configOfTwo.bip
      (utf8 (ownershipMessage firstRound.toText firstCoin))).isOk = false := by decide +kernel
  rw [hst] at hrefused
  exact absurd hrefused (by simp [Except.isOk, Except.toBool])

/-- A ban list without entries is the one a coordinator starts with. -/
theorem BanList.eq_new {l : BanList} (h : l.entries.entries.isEmpty = true) : l = .new := by
  obtain ⟨entries⟩ := l
  exact congrArg BanList.mk (AList.ext (List.isEmpty_iff.mp h))

/-- **An unproven request is told who is registered**: two coordinators of the same round,
each with one participant and the same bans, answer it differently. -/
theorem registration_told :
    SameInputReg firstRegistered secondRegistered ∧
    firstRegistered.round.participantCount = secondRegistered.round.participantCount ∧
    ¬ProofVerifies session.externals configOfTwo firstRegistered.round.roundId askedAt.answer
      unprovenInput ∧
    inputAnswer session.externals configOfTwo firstRegistered askedAt unprovenInput ≠
      inputAnswer session.externals configOfTwo secondRegistered askedAt unprovenInput := by
  have hstates : firstRegistered.round.phase = .inputReg ∧
      secondRegistered.round.phase = .inputReg ∧
      firstRegistered.round.roundId = firstRound ∧ secondRegistered.round.roundId = firstRound ∧
      firstRegistered.banList.entries.entries.isEmpty = true ∧
      secondRegistered.banList.entries.entries.isEmpty = true ∧
      firstRegistered.round.participantCount = secondRegistered.round.participantCount ∧
      inputAnswer session.externals configOfTwo firstRegistered askedAt unprovenInput ≠
        inputAnswer session.externals configOfTwo secondRegistered askedAt unprovenInput := by
    decide +kernel
  obtain ⟨hphase, hphase', hid, hid', hbans, hbans', hcount, hdiffer⟩ := hstates
  have hsame : firstRegistered.banList = secondRegistered.banList :=
    (BanList.eq_new hbans).trans (BanList.eq_new hbans').symm
  refine ⟨⟨hphase, hphase', hid.trans hid'.symm, hsame⟩, hcount, ?_, hdiffer⟩
  rw [hid]
  exact unproven

/-- Where the first coin is not registered, an unproven request for it learns nothing about
the second. -/
theorem registration_hidden_iff_session :
    inputAnswer session.externals configOfTwo (worldAfter (startMoves firstKeys)).shared askedAt
        unprovenInput =
      inputAnswer session.externals configOfTwo secondRegistered askedAt unprovenInput := by
  have hstates : (worldAfter (startMoves firstKeys)).shared.round.phase = .inputReg ∧
      secondRegistered.round.phase = .inputReg ∧
      (worldAfter (startMoves firstKeys)).shared.round.roundId = firstRound ∧
      secondRegistered.round.roundId = firstRound ∧
      (worldAfter (startMoves firstKeys)).shared.banList.entries.entries.isEmpty = true ∧
      secondRegistered.banList.entries.entries.isEmpty = true ∧
      firstCoin ∉ (postInputSnapshot
        (worldAfter (startMoves firstKeys)).shared.round).registered ∧
      firstCoin ∉ (postInputSnapshot secondRegistered.round).registered ∧
      parseOutpoint unprovenInput.utxoOutpoint = some firstCoin := by
    decide +kernel
  generalize (worldAfter (startMoves firstKeys)).shared = before at hstates ⊢
  generalize secondRegistered = after at hstates ⊢
  obtain ⟨hphase, hphase', hid, hid', hbans, hbans', hout, hout', hparse⟩ := hstates
  have hsame : before.banList = after.banList :=
    (BanList.eq_new hbans).trans (BanList.eq_new hbans').symm
  have hproof : ¬ProofVerifies session.externals configOfTwo before.round.roundId askedAt.answer
      unprovenInput := by
    rw [hid]
    exact unproven
  refine (registration_hidden_iff configOfTwo_validate
    ⟨hphase, hphase', hid.trans hid'.symm, hsame⟩ hproof).mpr fun utxo hutxo _ _ => ?_
  obtain rfl := Option.some.inj (hparse.symm.trans hutxo)
  rw [← mem_postInputSnapshot, ← mem_postInputSnapshot]
  exact iff_of_false hout hout'

end Blindjoin
