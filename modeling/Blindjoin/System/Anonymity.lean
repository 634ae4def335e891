import Mathlib.Logic.Equiv.Bool
import Blindjoin.System.AcceptedOutput

/-!
# Outputs are not linked to inputs

A participant sends two requests. With the first it registers its coin, and has a token
blindly signed; with the second it registers its output, and shows a message with the
signature of it. The coordinator sees both, and everything in them but the token and the
message is independent of the assignment of outputs to coins.

A participant is a `Blindjoin.Participation`: what it sent and what it was answered, with
proofs that the client and the coordinator made it so. Take any number of participants of
one round, and **assign their outputs to their coins in any other way: there is exactly one
choice of blinding factors under which every participant would have sent the same requests
and received the same answers** (`Blindjoin.outputs_unlinkable`). The coordinator that keeps
all it sees cannot tell the assignments from each other, as each of them is explained by as
many draws.

That the signatures are made by the coordinator is used: a signer that answers with
something else can mark the messages it signs, or at least those of clients that do not
notice.
-/

namespace Blindjoin

open Interleaving Collections

/-! ### Statement -/

/-- The wallet, if its output went to another address. -/
def RoundWallet.payingTo {E : Externals} {S : SignerExternals} (wallet : RoundWallet E S)
    (address : Address) : RoundWallet E S :=
  { wallet with coinjoinOutputAddress := address }

/-- A state of the coordinator in the round of a world, then or later in the same run. -/
def InRound (E : Externals) (config : CoordinatorConfig) (w : World Coordinator Task Event)
    (s : Coordinator) : Prop :=
  ∃ w', Reachable (coordinator E config) w w' ∧ (mints (roundEvents w'.log)).Nodup ∧
    w'.shared.round.roundId = w.shared.round.roundId ∧ w'.shared = s

/-- **A participant of the round of a world**: it asked for the key, sent a request to
register its coin, which was served at some moments, asked again, and sent a request to
register its output. -/
structure Participation (E : Externals) (C : ClientExternals) (S : SignerExternals)
    (config : CoordinatorConfig) (w : World Coordinator Task Event) where
  wallet : RoundWallet E S
  coordinatorInfo : CoordinatorInfo
  draw : BlindDraw
  asked : Coordinator
  req : InputRegRequest
  pending : PendingInput
  moments : List (Coordinator × Choice)
  resp : InputRegResponse
  state : RegisteredInputState
  askedAgain : Coordinator
  oreq : OutputRegRequest
  asked_inRound : InRound E config w asked
  moments_inRound : ∀ m ∈ moments, InRound E config w m.1
  prepared : prepareInput E C wallet (getInfo E config asked.round) coordinatorInfo draw =
    .ok (req, pending)
  answered : (coordinator E config).served moments (.postInput req .received) =
    .answered (.input (.ok resp))
  finished : finishInput E C wallet pending resp = .ok state
  requested : outputRequest E C wallet state (getInfo E config askedAgain.round) = .ok oreq

/-- A participant that registers a coin as `a` did and an output as `b` did, with the
randomness of `b` and some factor. -/
structure Participation.Explains {E : Externals} {C : ClientExternals} {S : SignerExternals}
    {config : CoordinatorConfig} {w : World Coordinator Task Event}
    (p a b : Participation E C S config w) (factor : ℕ) : Prop where
  wallet : p.wallet = a.wallet.payingTo b.wallet.coinjoinOutputAddress
  draw : p.draw = { b.draw with factor := factor }
  coordinatorInfo : p.coordinatorInfo = a.coordinatorInfo
  asked : p.asked = a.asked
  req : p.req = a.req
  moments : p.moments = a.moments
  resp : p.resp = a.resp
  askedAgain : p.askedAgain = b.askedAgain
  oreq : p.oreq = b.oreq

/-! ### The signature in an answer -/

section Signed

variable {E : Externals} {config : CoordinatorConfig} {ms : List (Coordinator × Choice)}
  {req : InputRegRequest} {resp : InputRegResponse}

/-- An answer to a registration holds a signature of its token by the signer of a round. -/
def SignedIn (E : Externals) (ms : List (Coordinator × Choice)) (req : InputRegRequest)
    (resp : InputRegResponse) : Prop :=
  ∃ m ∈ ms, ∃ inner signer token blindSig, m.1.round.inner = some inner ∧
    inner.rsaSigner = some signer ∧ E.base64Decode req.blindedToken = .ok token ∧
    E.blindSign signer.secretKey token = .ok blindSig ∧
    resp.blindSignature = E.base64Encode blindSig

/-- What is known of the task of a registration: it goes on with the token of the request,
and a good answer is signed. -/
def Task.Signs (E : Externals) (ms : List (Coordinator × Choice)) (req : InputRegRequest) :
    Task → Prop
  | .postInput req' .received => req' = req
  | .postInput req' (.parsed _) => req' = req
  | .postInput req' (.decoded _ token _) => req' = req ∧ E.base64Decode req.blindedToken = .ok token
  | .postInput req' (.snapshotted _ token _ _) =>
    req' = req ∧ E.base64Decode req.blindedToken = .ok token
  | .postInput req' (.validated _ token _ _ _) =>
    req' = req ∧ E.base64Decode req.blindedToken = .ok token
  | .answered (.input (.ok resp)) => SignedIn E ms req resp
  | .answered (.input (.error _)) => True
  | .panicked _ => True
  | _ => False

/-- An attempt of a registration keeps what its continuation keeps. -/
theorem attempt_signs {α : Type} {s : Coordinator} {r : Res HttpError α} {k : α → Section}
    (hk : ∀ a, r = .ok a → (k a).next.Signs E ms req) :
    (attempt s (.input ∘ .error) r k).next.Signs E ms req := by
  rcases r with (e | m) | a
  · exact trivial
  · exact trivial
  · exact hk a rfl

/-- **A section of a registration** keeps to its token, and signs it at the end. -/
theorem postInputSection_signs {s : Coordinator} {c : Choice} {req' : InputRegRequest}
    {stage : InputStage} (hm : (s, c) ∈ ms)
    (ht : Task.Signs E ms req (.postInput req' stage)) :
    (postInputSection E config s req' c stage).next.Signs E ms req := by
  cases stage with
  | received => exact attempt_signs fun _ _ => ht
  | parsed utxo =>
    obtain rfl : req' = req := ht
    refine attempt_signs fun p hp => ?_
    obtain ⟨token, proof⟩ := p
    obtain ⟨_, -, hdecode⟩ := bind_eq_ok.mp (ofExcept_eq_ok.mp hp)
    exact ⟨rfl, (postInputDecode_eq_ok.mp hdecode).1.1⟩
  | decoded utxo token proof => exact ht
  | snapshotted utxo token proof snapshot => exact attempt_signs fun _ _ => ht
  | validated utxo token proof snapshot details =>
    obtain ⟨rfl, htoken⟩ := ht
    refine attempt_signs fun p hp => ?_
    obtain ⟨round, result⟩ := p
    simp only [postInputRegister, registerInput, bind_eq_ok, ofExcept_eq_ok, checkPhase_eq_ok,
      require_eq_ok, mapErr_eq_ok, okOr_eq_ok, expect_eq_ok] at hp
    obtain ⟨_, -, _, -, _, -, ⟨s₁, result₁⟩, ⟨inner, hinner, _, -, signer, hsigner, sig, hsig,
      heq₁⟩, heq⟩ := hp
    obtain ⟨-, rfl⟩ := Prod.mk.inj (Except.ok.inj heq₁)
    obtain ⟨-, rfl⟩ := Prod.mk.inj (Except.ok.inj heq)
    exact ⟨(s, c), hm, inner, signer, token, sig, hinner, hsigner, htoken, hsig, rfl⟩

/-- **A registration that is answered well is answered with a signature of its token.** -/
theorem signedIn_of_served (h : (coordinator E config).served ms (.postInput req .received) =
    .answered (.input (.ok resp))) : SignedIn E ms req resp := by
  have hserved : ((coordinator E config).served ms (.postInput req .received)).Signs E ms req := by
    refine Program.served_keeps (J := Task.Signs E ms req) (fun m hm t e ht he => ?_) rfl
    obtain ⟨-, e', he', rfl⟩ := exec_eq_some he
    cases t with
    | postInput req' stage =>
      obtain rfl := Option.some.inj he'
      exact postInputSection_signs hm ht
    | answered r => exact absurd he' (by simp [taskSection])
    | panicked m => exact absurd he' (by simp [taskSection])
    | _ => exact ht.elim
  rw [h] at hserved
  exact hserved

end Signed

/-! ### What a participation is made of -/

section Client

variable {E : Externals} {C : ClientExternals} {S : SignerExternals} {wallet : RoundWallet E S}
  {info : InfoResponse} {coordinatorInfo : CoordinatorInfo} {draw draw' : BlindDraw}
  {req : InputRegRequest} {pending : PendingInput} {state state' : RegisteredInputState}

/-- **The first request does not show where the output goes**, beyond the token. -/
theorem prepareInput_payingTo {address : Address} {blinding' : BlindingResult}
    (h : prepareInput E C wallet info coordinatorInfo draw = .ok (req, pending))
    (hblind : C.blind pending.pk draw' (computeBlindTokenMessage E address.scriptPubkey
      info.denominationSats).toList = .ok blinding')
    (hsame : blinding'.blindMessage = pending.blinding.blindMessage) :
    prepareInput E C (wallet.payingTo address) info coordinatorInfo draw' = .ok (req,
      { pending with
        blinding := blinding'
        messageBytes := computeBlindTokenMessage E address.scriptPubkey
          info.denominationSats }) := by
  simp only [prepareInput, bind_eq_ok, ofExcept_eq_ok] at h ⊢
  obtain ⟨⟨pk, pkHash⟩, hkey, blinding, -, signed, hsigned, proof, hproof, heq⟩ := h
  obtain ⟨rfl, rfl⟩ := Prod.mk.inj (Except.ok.inj heq)
  refine ⟨(pk, pkHash), hkey, blinding', hblind, signed, hsigned, proof, hproof, ?_⟩
  rw [hsame]
  rfl

/-- What the client keeps of its registration. -/
theorem finishInput_eq_ok {resp : InputRegResponse}
    (h : finishInput E C wallet pending resp = .ok state) :
    state.messageBytes = pending.messageBytes ∧
      state.msgRandomizer = pending.blinding.msgRandomizer ∧
      state.pkHashAtRegistration = pending.pkHash := by
  simp only [finishInput, bind_eq_ok] at h
  obtain ⟨_, _, _, _, _, _, heq⟩ := h
  rw [← Except.ok.inj heq]
  exact ⟨rfl, rfl, rfl⟩

/-- **The second request shows the message and its signature**, and nothing else of the
participant. -/
theorem outputRequest_congr {wallet' : RoundWallet E S}
    (haddress : wallet'.coinjoinOutputAddress = wallet.coinjoinOutputAddress)
    (hmessage : state'.messageBytes = state.messageBytes)
    (hsig : state'.unblindedSig = state.unblindedSig)
    (hrandomizer : state'.msgRandomizer = state.msgRandomizer)
    (hkey : state'.pkHashAtRegistration = state.pkHashAtRegistration) :
    outputRequest E C wallet' state' info = outputRequest E C wallet state info := by
  simp only [outputRequest, haddress, hmessage, hsig, hrandomizer, hkey]

end Client

section Round

variable {E : Externals} {C : ClientExternals} {S : SignerExternals} {config : CoordinatorConfig}
  {fresh : Uuid} {banList : BanList} {w : World Coordinator Task Event} {material : RoundMaterial}
  {key : BlindRsa.SecretKey} {enc : BlindRsa.Encoding key.toPublicKey (List.Vector UInt8 48)}

/-- **A round that signs**: it runs in a reachable world, clients can read its key, and the
blind signatures under the key are RSA signatures. -/
structure SigningRound (E : Externals) (C : ClientExternals) (config : CoordinatorConfig)
    (fresh : Uuid) (banList : BanList) (w : World Coordinator Task Event)
    (material : RoundMaterial) (key : BlindRsa.SecretKey)
    (enc : BlindRsa.Encoding key.toPublicKey (List.Vector UInt8 48)) : Prop where
  reachable : Reachable (coordinator E config) (startup fresh banList) w
  running : w.shared.round.phase ≠ .idle
  shows : w.shared.round.Shows material
  texts : ByteTexts E
  spki : C.fromSpki material.pkDer = .ok material.signer.publicKey
  rsa : ImplementsBlindRsa E C material.signer key enc

/-- The round shows its key as long as it is there. -/
theorem SigningRound.shows_of_inRound (h : SigningRound E C config fresh banList w material key enc)
    {s : Coordinator} (hs : InRound E config w s) :
    s.round.Shows material ∧ announcedKey E C (getInfo E config s.round) =
      .ok (material.signer.publicKey, E.sha256 material.pkDer) := by
  obtain ⟨w', hreach, hfresh, hsame, rfl⟩ := hs
  obtain ⟨hrunning, hshows⟩ := keepsKey_of_reachable h.reachable hreach hfresh h.running h.shows
    hsame
  have hkey := announcedKey_of_reachable (h.reachable.trans hreach) h.texts hrunning hshows h.spki
  exact ⟨hshows, hkey⟩

/-- **What a participant blinded is what the round signed**, and what it unblinded is the
signature of its message. -/
theorem Participation.signed (h : SigningRound E C config fresh banList w material key enc)
    (p : Participation E C S config w) :
    ∃ token inverse blindSig session,
      BlindRsa.blind key.toPublicKey enc p.draw.salt p.draw.factor
        (preparedMessage E config p.wallet p.draw) = some (token, inverse) ∧
      p.req.blindedToken = E.base64Encode token ∧
      p.pending = ⟨material.signer.publicKey, E.sha256 material.pkDer,
        ⟨token, BlindRsa.i2osp key.size inverse, some p.draw.msgRandomizer⟩,
        computeBlindTokenMessage E p.wallet.coinjoinOutputAddress.scriptPubkey
          config.coordinator.denominationSats, config.coordinator.denominationSats⟩ ∧
      E.blindSign material.signer.secretKey token = .ok blindSig ∧
      E.base64Decode p.resp.blindSignature = .ok blindSig ∧
      E.base64Decode p.resp.sessionToken = .ok session ∧
      p.state.unblindedSig = BlindRsa.signature key enc p.draw.salt
        (preparedMessage E config p.wallet p.draw) := by
  have hkey := (h.shows_of_inRound p.asked_inRound).2
  have hprepared := p.prepared
  simp only [prepareInput, bind_eq_ok, ofExcept_eq_ok] at hprepared
  obtain ⟨⟨pk, pkHash⟩, hannounced, blinding, hblind, _, _, _, _, heq⟩ := hprepared
  obtain ⟨rfl, rfl⟩ := Prod.mk.inj (Except.ok.inj (hkey.symm.trans hannounced))
  obtain ⟨hreq, hpending⟩ := Prod.mk.inj (Except.ok.inj heq)
  -- the token is that of the scheme
  obtain ⟨⟨token, inverse⟩, hblinded, rfl⟩ := Option.map_eq_some_iff.mp
    ((h.rsa.blind p.draw _).symm.trans (toOption_eq_some.mpr hblind))
  have htoken : p.req.blindedToken = E.base64Encode token := by rw [← hreq]
  -- the round signed it
  obtain ⟨m, hm, inner, signer, token', blindSig, hinner, hsigner, hdecode, hsign, hresp⟩ :=
    signedIn_of_served p.answered
  obtain ⟨inner', hinner', hsigner'⟩ := (h.shows_of_inRound (p.moments_inRound m hm)).1.signs
  obtain rfl := Option.some.inj (hinner.symm.trans hinner')
  obtain rfl := Option.some.inj (hsigner'.symm.trans hsigner)
  rw [htoken, h.texts.base64] at hdecode
  obtain rfl := Except.ok.inj hdecode
  have hblindSig : E.base64Decode p.resp.blindSignature = .ok blindSig := by
    rw [hresp, h.texts.base64]
  -- and the client unblinded it
  obtain ⟨blinding, blindSig', hblind', -, -, hsign', hfinalize⟩ :=
    h.rsa.round_trip _ _ (Option.isSome_iff_exists.mpr ⟨_, hblinded⟩)
  obtain rfl := Except.ok.inj (hblind.symm.trans hblind')
  obtain rfl := Except.ok.inj (hsign.symm.trans hsign')
  have hfinished := p.finished
  simp only [finishInput, bind_eq_ok, mapError_eq_ok] at hfinished
  obtain ⟨blindSig', hblindSig', sig, hsig, session, hsession, heq⟩ := hfinished
  obtain rfl := Except.ok.inj (hblindSig.symm.trans hblindSig')
  rw [← hpending] at hsig
  obtain rfl := Except.ok.inj (hfinalize.symm.trans hsig)
  refine ⟨token, inverse, blindSig, session, hblinded, htoken, hpending.symm, hsign, hblindSig,
    hsession, ?_⟩
  rw [← Except.ok.inj heq]
  rfl

/-- **Every coin goes with every output.** -/
theorem SigningRound.exists_explains
    (h : SigningRound E C config fresh banList w material key enc)
    (a b : Participation E C S config w) :
    ∃ factor < key.modulus, ∃ p : Participation E C S config w, p.Explains a b factor := by
  obtain ⟨tokenA, inverseA, blindSig, session, hblindA, -, hpendingA, hsign, hblindSig,
    hsession, -⟩ := a.signed h
  obtain ⟨tokenB, inverseB, _, _, hblindB, -, hpendingB, -, -, -, hsigB⟩ := b.signed h
  -- the message of `b` hides behind the token of `a`
  obtain ⟨factor, inverse, hlt, hblind⟩ :=
    BlindRsa.exists_reblind hblindA (BlindRsa.blind_eq_some.mp hblindB).1
  obtain ⟨blinding, blindSig', hclient, hrandomizer, -, hsign', hfinalize⟩ :=
    h.rsa.round_trip { b.draw with factor := factor }
      (computeBlindTokenMessage E b.wallet.coinjoinOutputAddress.scriptPubkey
        config.coordinator.denominationSats).toList (Option.isSome_iff_exists.mpr ⟨_, hblind⟩)
  have htoken : blinding.blindMessage = tokenA := by
    obtain ⟨r, hr, hblinding⟩ := Option.map_eq_some_iff.mp
      ((h.rsa.blind { b.draw with factor := factor } _).symm.trans (toOption_eq_some.mpr hclient))
    obtain rfl := Option.some.inj (hblind.symm.trans hr)
    rw [← hblinding]
  rw [htoken] at hsign'
  obtain rfl := Except.ok.inj (hsign.symm.trans hsign')
  have hpk : a.pending.pk = material.signer.publicKey := by rw [hpendingA]
  have hsame : blinding.blindMessage = a.pending.blinding.blindMessage := by
    rw [htoken, hpendingA]
  rw [← hpk] at hclient hfinalize
  have hprepared := prepareInput_payingTo a.prepared hclient hsame
  obtain ⟨state, hfinish, hmessage, hsig, hstate, hkey⟩ := exists_finishInput
    (a.wallet.payingTo b.wallet.coinjoinOutputAddress)
    { a.pending with
      blinding := blinding
      messageBytes := computeBlindTokenMessage E b.wallet.coinjoinOutputAddress.scriptPubkey
        config.coordinator.denominationSats }
    hblindSig hsession hfinalize
  -- what `b` unblinded is the same
  obtain ⟨hmessageB, hrandomizerB, hkeyB⟩ := finishInput_eq_ok b.finished
  rw [hpendingB] at hmessageB hrandomizerB hkeyB
  refine ⟨factor, hlt, {
    wallet := a.wallet.payingTo b.wallet.coinjoinOutputAddress
    coordinatorInfo := a.coordinatorInfo
    draw := { b.draw with factor := factor }
    asked := a.asked
    req := a.req
    pending := _
    moments := a.moments
    resp := a.resp
    state := state
    askedAgain := b.askedAgain
    oreq := b.oreq
    asked_inRound := a.asked_inRound
    moments_inRound := a.moments_inRound
    prepared := hprepared
    answered := a.answered
    finished := hfinish
    requested := ?_ }, rfl, rfl, rfl, rfl, rfl, rfl, rfl, rfl, rfl⟩
  rw [← b.requested]
  refine outputRequest_congr rfl (hmessage.trans hmessageB.symm) (hsig.trans hsigB.symm) ?_ ?_
  · rw [hstate, hrandomizer, hrandomizerB]
  · rw [hkey, hkeyB, hpendingA]

/-- **One factor explains a request.** -/
theorem Participation.Explains.factor_eq
    (h : SigningRound E C config fresh banList w material key enc)
    {a b p p' : Participation E C S config w} {factor factor' : ℕ} (hlt : factor < key.modulus)
    (hlt' : factor' < key.modulus) (hp : p.Explains a b factor) (hp' : p'.Explains a b factor') :
    factor = factor' := by
  obtain ⟨token, inverse, _, _, hblind, htoken, -⟩ := p.signed h
  obtain ⟨token', inverse', _, _, hblind', htoken', -⟩ := p'.signed h
  have hsame : token = token' := by
    have hencoded : E.base64Encode token = E.base64Encode token' := by
      rw [← htoken, ← htoken', hp.req, hp'.req]
    have hdecoded := congrArg E.base64Decode hencoded
    rw [h.texts.base64, h.texts.base64] at hdecoded
    exact Except.ok.inj hdecoded
  rw [hp.draw, hp.wallet] at hblind
  rw [hp'.draw, hp'.wallet, ← hsame] at hblind'
  exact BlindRsa.factor_inj hlt hlt' hblind hblind'

/-- **An honest client participates**, where the round welcomes its coin. -/
theorem SigningRound.exists_participation
    (h : SigningRound E C config fresh banList w material key enc) {D : Digests}
    {wallet : RoundWallet E S} (hvalid : config.validate = .ok ())
    (hp : WalletPromises E C D config wallet w.shared.round.roundId)
    (hallowed : config.bip.allows wallet.scriptType = true) {draw : BlindDraw}
    (hdraw : (BlindRsa.blind key.toPublicKey enc draw.salt draw.factor
      (preparedMessage E config wallet draw)).isSome) (coordinatorInfo : CoordinatorInfo)
    {asked askedAgain : Coordinator} (hasked : InRound E config w asked)
    (hagain : InRound E config w askedAgain) {m₁ m₂ m₃ m₄ m₅ : Coordinator × Choice}
    (hms : ∀ m ∈ [m₁, m₂, m₃, m₄, m₅], InRound E config w m.1)
    (hwelcome : Welcomes E config wallet w.shared.round.roundId m₁ m₂ m₃ m₄ m₅) :
    ∃ p : Participation E C S config w, p.wallet = wallet ∧ p.draw = draw := by
  obtain ⟨blinding, blindSig, hblind, -, hlen, hsign, hfinalize⟩ := h.rsa.round_trip _ _ hdraw
  obtain ⟨-, hkey⟩ := h.shows_of_inRound hasked
  have hid : asked.round.roundId = w.shared.round.roundId := by
    obtain ⟨w', -, -, hsame, rfl⟩ := hasked
    exact hsame
  obtain ⟨req, hprepare, hprepared⟩ := exists_prepareInput hp hallowed (congrArg some hid) hkey
    hblind coordinatorInfo
  obtain ⟨hshows, -⟩ := h.shows_of_inRound (hms m₅ (by simp))
  obtain ⟨resp, session, hanswer, hblindSig, hsession⟩ :=
    served_postInput_honest hvalid hp hprepared hlen hwelcome hshows hsign
  obtain ⟨state, hfinish, -, -, -, hstate⟩ := exists_finishInput wallet
    ⟨material.signer.publicKey, E.sha256 material.pkDer, blinding,
      computeBlindTokenMessage E wallet.coinjoinOutputAddress.scriptPubkey
        config.coordinator.denominationSats, config.coordinator.denominationSats⟩
    hblindSig hsession hfinalize
  obtain ⟨hagain, -⟩ := outputRequest_of_shows C config wallet state h.texts
    (h.shows_of_inRound hagain).1
  obtain ⟨oreq, hrequest⟩ := hagain hstate.symm
  exact ⟨⟨wallet, coordinatorInfo, draw, asked, req, _, _, resp, state, askedAgain, oreq, hasked,
    hms, hprepare, hanswer, hfinish, hrequest⟩, rfl, rfl⟩

/-- **Outputs are not linked to inputs.** Whatever participants of a round sent and
received, and however their outputs are assigned to their coins, there is exactly one choice
of factors under which each of them sends the request for its coin, is answered and sends the
request for the output assigned to it, all as it was. -/
theorem outputs_unlinkable (h : SigningRound E C config fresh banList w material key enc)
    {ι : Type} (party : ι → Participation E C S config w) (σ : Equiv.Perm ι) :
    ∃! factor : ι → ℕ, ∀ i, factor i < key.modulus ∧
      ∃ p : Participation E C S config w, p.Explains (party i) (party (σ i)) (factor i) := by
  choose factor hlt hexplains using fun i => h.exists_explains (party i) (party (σ i))
  refine ⟨factor, fun i => ⟨hlt i, hexplains i⟩, fun factor' hfactor' => ?_⟩
  funext i
  obtain ⟨hlt', p', hp'⟩ := hfactor' i
  obtain ⟨p, hp⟩ := hexplains i
  exact hp'.factor_eq h hlt' (hlt i) hp

/-- The two participants of the session can have each other's output. -/
theorem outputs_unlinkable_session :
    ∃ party : Bool → Participation honestExternals honestClient proofSigner configOfTwo honestStart,
      (party false).wallet = honestWallet ∧ (party true).wallet = secondWallet ∧
      ∃! factor : Bool → ℕ, ∀ i, factor i < honestKey.modulus ∧
        ∃ p : Participation honestExternals honestClient proofSigner configOfTwo honestStart,
          p.Explains (party i) (party (!i)) (factor i) := by
  have hrunning : honestStart.shared.round.phase ≠ .idle := by
    rw [honestStart_round.1]
    decide
  have hround : SigningRound honestExternals honestClient configOfTwo firstRound .new honestStart
      honestMaterial honestKey honestEncoding :=
    ⟨honestStart_reachable, hrunning, honestStart_shows, honestByteTexts, by decide +kernel,
      honestRsa⟩
  have hin : InRound honestExternals configOfTwo honestStart honestStart.shared :=
    ⟨honestStart, .refl, honestStart_nodup, rfl, rfl⟩
  have hms : ∀ c : Choice, ∀ m ∈ List.replicate 5 (honestStart.shared, c),
      InRound honestExternals configOfTwo honestStart m.1 := by
    intro c m hm
    rw [List.eq_of_mem_replicate hm]
    exact hin
  obtain ⟨first, hfirst, -⟩ := hround.exists_participation configOfTwo_validate honestPromises
    (by decide) honestDraw_isSome honestInfo hin hin (hms honestChoice)
    (honestStart_welcomes honestCoin_shows (by decide))
  obtain ⟨second, hsecond, -⟩ := hround.exists_participation configOfTwo_validate secondPromises
    (by decide) secondDraw_isSome honestInfo hin hin (hms secondChoice)
    (honestStart_welcomes secondCoin_shows (by decide))
  exact ⟨fun i => if i then second else first, hfirst, hsecond,
    outputs_unlinkable hround _ Equiv.boolNot⟩

end Round

end Blindjoin
