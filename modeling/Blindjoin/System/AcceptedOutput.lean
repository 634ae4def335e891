import Blindjoin.System.AcceptedInput

/-!
# An honest output

A client that registered its input holds a message that commits to its output, and a
signature of it. Before it redeems them it asks for the key once more, and learns exactly
whether the round is still the one it registered in (`Blindjoin.rotation_detected_iff`). If
it is, **its output is accepted unless its message was redeemed before**, in which case it is
told so (`Blindjoin.honest_output_accepted`).

It does not matter how the answer to the registration came about. All that is used of it is
that the client could unblind it, which checks the signature.
-/

namespace Blindjoin

open Interleaving Collections

/-! ### The round a world is in -/

section Rounds

variable {E : Externals} {config : CoordinatorConfig} {fresh : Uuid} {banList : BanList}
  {w w' w'' : World Coordinator Task Event}

/-- **Rounds do not come back**: a later world is in the same round, or in one whose id was
not drawn yet. -/
theorem roundId_of_reachable (hr : Reachable (coordinator E config) (startup fresh banList) w)
    (hr' : Reachable (coordinator E config) w w')
    (hfresh : (mints (roundEvents w'.log)).Nodup) :
    w'.shared.round.roundId = w.shared.round.roundId ∨
      w'.shared.round.roundId ∉ mints (roundEvents w.log) := by
  refine (hr'.shared
    (fun s log => mints (roundEvents w.log) ⊆ mints (roundEvents log) ∧
      (s.round.roundId = w.shared.round.roundId ∨
        s.round.roundId ∉ mints (roundEvents w.log)))
    (fun log => (mints (roundEvents log)).Nodup) (fun es l h => ?_)
    ⟨List.Subset.refl _, .inl rfl⟩ (fun {w₁ t c e} hw ht _ he hnodup hinv => ?_) hfresh).2
  · rw [roundEvents_append] at h
    exact nodup_mints_of_append h
  · obtain ⟨hknown, hid⟩ := hinv
    obtain ⟨es, hstep, hes⟩ := exec_roundStep he (sound_of_reachable (hr.trans hw) t ht)
    refine ⟨fun id h => mem_mints_append (hknown h), ?_⟩
    rcases hstep.phase with ⟨hsame, -⟩ | ⟨hne, hnew⟩
    · rwa [hsame]
    · -- the id of the next round is not among those that were drawn
      rw [roundEvents_append, hes, hnew, phaseEvents_newIdle hne] at hnodup
      have hcons : (c.fresh :: mints (es ++ roundEvents w₁.log)).Nodup := hnodup
      rw [(hstep.quiet _).1] at hcons
      rw [hnew]
      exact .inr fun hin => (List.nodup_cons.mp hcons).1 (hknown hin)

/-- A round that is still there was there all the time. -/
theorem roundId_between (hr : Reachable (coordinator E config) (startup fresh banList) w)
    (hr' : Reachable (coordinator E config) w w') (hr'' : Reachable (coordinator E config) w' w'')
    (hfresh : (mints (roundEvents w''.log)).Nodup)
    (hsame : w''.shared.round.roundId = w.shared.round.roundId) :
    w'.shared.round.roundId = w.shared.round.roundId := by
  obtain ⟨es, hes⟩ := roundEvents_suffix hr'
  have hminted : w.shared.round.roundId ∈ mints (roundEvents w'.log) := by
    rw [hes, mints, List.filterMap_append]
    exact List.mem_append_right _ (roundRun_of_reachable hr).minted
  rcases roundId_of_reachable (hr.trans hr') hr'' hfresh with h | h
  · exact h.symm.trans hsame
  · exact absurd (hsame ▸ hminted) h

end Rounds

/-! ### Whether the round is still there -/

section Rotation

variable {E : Externals} {C : ClientExternals} {config : CoordinatorConfig} {S : SignerExternals}
  {wallet : RoundWallet E S} {fresh : Uuid} {banList : BanList}
  {w w' : World Coordinator Task Event}

/-- **A client that compares the keys learns whether its round is still there.** It
registered its input on what `GET /info` said in one world of a run, and asks again in a
later one. If the round has ended and no other is running, the client is told so; if another
round is running, it aborts; and only in the round it registered in does it go on. -/
theorem rotation_detected_iff (hvalid : config.validate = .ok ()) (htexts : ByteTexts E)
    (hr : Reachable (coordinator E config) (startup fresh banList) w)
    (hr' : Reachable (coordinator E config) w w')
    (hfresh : (mints (roundEvents w'.log)).Nodup)
    (hkeys : ((installs (roundEvents w'.log)).map fun m => E.sha256 m.2.pkDer).Nodup)
    {coordinatorInfo : CoordinatorInfo} {draw : BlindDraw} {req : InputRegRequest}
    {pending : PendingInput} {resp : InputRegResponse} {state : RegisteredInputState}
    (hprepare : prepareInput E C wallet (getInfo E config w.shared.round) coordinatorInfo draw =
      .ok (req, pending))
    (hfinish : finishInput E C wallet pending resp = .ok state)
    {result : Except String OutputRegRequest}
    (hresult : outputRequest E C wallet state (getInfo E config w'.shared.round) = result) :
    (result = .error missingKey ↔ w'.shared.round.phase = .idle) ∧
    (result = .error rotatedKey ↔
      w'.shared.round.phase ≠ .idle ∧ w'.shared.round.roundId ≠ w.shared.round.roundId) ∧
    ((∃ outputReq, result = .ok outputReq) ↔
      w'.shared.round.roundId = w.shared.round.roundId) := by
  subst hresult
  obtain ⟨pk, hannounced⟩ := pkHash_of_registration hprepare hfinish
  have hv := CoordinatorConfig.valid_of_validate hvalid
  -- the client registered in a running round, under its key
  have hrunning : w.shared.round.phase ≠ .idle := by
    intro hidle
    have hder := (((roundRun_of_reachable hr).roundInv hv).cleared hidle).2.1
    rw [announcedKey_of_idle hder] at hannounced
    exact absurd hannounced (by simp)
  obtain ⟨material, hinstalled, hshows, hgenerated⟩ := exists_shows_of_reachable hr hrunning
  have hhash : state.pkHashAtRegistration = E.sha256 material.pkDer := by
    rw [announcedKey_of_shows htexts hshows hgenerated] at hannounced
    cases hspki : C.fromSpki material.pkDer with
    | error e =>
      rw [hspki] at hannounced
      exact absurd hannounced (by simp [Except.mapError, Except.map])
    | ok pk' =>
      rw [hspki] at hannounced
      exact (Prod.mk.inj (Except.ok.inj hannounced)).2.symm
  have hkept := keepsKey_of_reachable hr hr' hfresh hrunning hshows
  have hne : missingKey ≠ rotatedKey := by decide
  by_cases hidle : w'.shared.round.phase = .idle
  · have hder := (((roundRun_of_reachable (hr.trans hr')).roundInv hv).cleared hidle).2.1
    have hid : w'.shared.round.roundId ≠ w.shared.round.roundId := fun h => (hkept h).1 hidle
    rw [outputRequest_of_idle hder]
    refine ⟨iff_of_true rfl hidle, iff_of_false ?_ fun h => h.1 hidle, iff_of_false ?_ hid⟩
    · exact fun h => hne (Except.error.inj h)
    · rintro ⟨_, h⟩
      exact absurd h (by simp)
  · obtain ⟨material', hinstalled', hshows', -⟩ :=
      exists_shows_of_reachable (hr.trans hr') hidle
    obtain ⟨hgoes, haborts⟩ :=
      outputRequest_of_shows C config wallet state htexts hshows'
    by_cases hid : w'.shared.round.roundId = w.shared.round.roundId
    · obtain ⟨hder, -⟩ := (hkept hid).2.unique hshows'
      obtain ⟨outputReq, hok⟩ := hgoes (by rw [hhash, hder])
      rw [hok]
      refine ⟨iff_of_false (by simp) hidle, iff_of_false (by simp) fun h => h.2 hid,
        iff_of_true ⟨outputReq, rfl⟩ hid⟩
    · -- two rounds have different keys
      have hother : E.sha256 material'.pkDer ≠ state.pkHashAtRegistration := by
        rw [hhash]
        intro heq
        obtain ⟨es, hes⟩ := roundEvents_suffix hr'
        have hearlier : (w.shared.round.roundId, material) ∈ installs (roundEvents w'.log) := by
          rw [hes, installs_append]
          exact List.mem_append_right _ hinstalled
        exact hid (congrArg Prod.fst (List.inj_on_of_nodup_map hkeys hinstalled' hearlier heq))
      rw [haborts hother]
      refine ⟨iff_of_false (fun h => hne (Except.error.inj h).symm) hidle,
        iff_of_true rfl ⟨hidle, hid⟩, iff_of_false ?_ hid⟩
      rintro ⟨_, h⟩
      exact absurd h (by simp)

/-- The client of the session notices that its round has made place for another. -/
theorem rotation_detected_session :
    ∃ state, state.messageBytes = firstToken ∧
      outputRequest honestExternals honestClient honestWallet state
        (getInfo honestExternals configOfTwo honestRestart.shared.round) = .error rotatedKey := by
  obtain ⟨req, pending, resp, state, hprepare, hfinish, hmessage⟩ := honestRegistration
  obtain ⟨hphase, hid, hfresh, hkeys⟩ := honestRestart_round
  obtain ⟨-, hrotated, -⟩ := rotation_detected_iff configOfTwo_validate honestByteTexts
    honestStart_reachable honestRestart_reachable hfresh hkeys hprepare hfinish rfl
  refine ⟨state, hmessage, hrotated.mpr ⟨?_, ?_⟩⟩
  · rw [hphase]
    decide
  · rw [hid, honestStart_round.2.1]
    decide

end Rotation

/-! ### What the client holds -/

section Holds

variable {E : Externals} {C : ClientExternals} {S : SignerExternals} {config : CoordinatorConfig}
  {wallet : RoundWallet E S} {fresh : Uuid} {banList : BanList}
  {w : World Coordinator Task Event} {material : RoundMaterial} {state : RegisteredInputState}

/-- A registered client holds the message of its output with a signature under the key of
the round, and remembers the key. -/
structure RegisteredInputState.Holds (E : Externals) (config : CoordinatorConfig)
    {S : SignerExternals} (wallet : RoundWallet E S) (material : RoundMaterial)
    (state : RegisteredInputState) : Prop where
  message : state.messageBytes = computeBlindTokenMessage E
    wallet.coinjoinOutputAddress.scriptPubkey config.coordinator.denominationSats
  signed : E.rsaVerify material.signer.publicKey state.unblindedSig state.msgRandomizer
    state.messageBytes.toList = true
  key : state.pkHashAtRegistration = E.sha256 material.pkDer

/-- **What a registration leaves the client with**, whatever it was answered. The signature
was checked when it was unblinded. -/
theorem holds_of_registration
    (hr : Reachable (coordinator E config) (startup fresh banList) w) (htexts : ByteTexts E)
    (hrunning : w.shared.round.phase ≠ .idle) (hshows : w.shared.round.Shows material)
    (hspki : C.fromSpki material.pkDer = .ok material.signer.publicKey)
    (hfinalizes : ∀ blindSig result msg sig,
      C.finalize material.signer.publicKey blindSig result msg = .ok sig →
        E.rsaVerify material.signer.publicKey sig result.msgRandomizer msg = true)
    {coordinatorInfo : CoordinatorInfo} {draw : BlindDraw} {req : InputRegRequest}
    {pending : PendingInput} {resp : InputRegResponse}
    (hprepare : prepareInput E C wallet (getInfo E config w.shared.round) coordinatorInfo draw =
      .ok (req, pending))
    (hfinish : finishInput E C wallet pending resp = .ok state) :
    state.Holds E config wallet material := by
  have hkey := announcedKey_of_reachable (C := C) hr htexts hrunning hshows hspki
  simp only [prepareInput, bind_eq_ok, ofExcept_eq_ok] at hprepare
  obtain ⟨⟨pk, pkHash⟩, hannounced, blinding, _, _, _, _, _, heq⟩ := hprepare
  obtain ⟨rfl, rfl⟩ := Prod.mk.inj (Except.ok.inj (hkey.symm.trans hannounced))
  obtain ⟨-, rfl⟩ := Prod.mk.inj (Except.ok.inj heq)
  simp only [finishInput, bind_eq_ok, mapError_eq_ok] at hfinish
  obtain ⟨blindSig, _, sig, hsig, _, _, heq⟩ := hfinish
  obtain rfl := Except.ok.inj heq
  exact ⟨rfl, hfinalizes _ _ _ _ hsig, rfl⟩

end Holds

/-! ### The request -/

section Request

variable {E : Externals} {C : ClientExternals} {S : SignerExternals} {config : CoordinatorConfig}
  {wallet : RoundWallet E S} {material : RoundMaterial} {state : RegisteredInputState}
  {round : RoundState} {oreq : OutputRegRequest}

theorem toBytes32_toList (bs : Bytes32) : toBytes32 bs.toList = some bs := by
  rw [toBytes32, dif_pos bs.toList_length]
  rfl

/-- **What the client sends** is what it holds, for the denomination. -/
theorem exists_outputRequest (htexts : ByteTexts E) (hshows : round.Shows material)
    (hholds : state.Holds E config wallet material) (hvalid : config.validate = .ok ())
    (haddress : ∀ network, parseBitcoinNetwork config.network.bitcoinNetwork = .ok network →
      E.addressToScript (C.addressToString wallet.coinjoinOutputAddress) network =
        .ok wallet.coinjoinOutputAddress.scriptPubkey) :
    ∃ oreq, outputRequest E C wallet state (getInfo E config round) = .ok oreq ∧
      oreq.amountSats = config.coordinator.denominationSats ∧
      postOutputDecode E config oreq = .ok ⟨state.messageBytes, state.unblindedSig,
        state.msgRandomizer, wallet.coinjoinOutputAddress.scriptPubkey⟩ := by
  obtain ⟨network, hnetwork⟩ := (CoordinatorConfig.valid_of_validate hvalid).network
  refine ⟨⟨E.base64Encode state.messageBytes.toList, E.base64Encode state.unblindedSig,
    C.addressToString wallet.coinjoinOutputAddress, config.coordinator.denominationSats,
    state.msgRandomizer.map fun mr => E.base64Encode mr.toList⟩, ?_, rfl, ?_⟩
  · simp only [outputRequest, getInfo, hshows.der, Option.map_some, bind_eq_ok, okOr_eq_ok,
      require_eq_ok]
    exact ⟨_, rfl, material.pkDer, htexts.base64 _, (), hholds.key.symm, rfl⟩
  · have hfield : ∀ code field (bs : Bytes32),
        decodeField32 E code field (E.base64Encode bs.toList) = .ok bs := by
      intro code field bs
      simp only [decodeField32, decodeField, bind_eq_ok, mapError_eq_ok, okOr_eq_ok]
      exact ⟨_, htexts.base64 _, toBytes32_toList bs⟩
    simp only [postOutputDecode, bind_eq_ok, ofExcept_eq_ok, runtimeNetwork_eq_ok,
      parseAddressToScript_eq_ok]
    refine ⟨_, hfield _ _ _, state.unblindedSig, ?_, state.msgRandomizer, ?_, network, hnetwork, _,
      haddress network hnetwork, rfl⟩
    · exact mapError_eq_ok.mpr (htexts.base64 _)
    · cases state.msgRandomizer with
      | none => rfl
      | some mr =>
        simp only [Option.map_some, hfield]
        rfl

/-- **The entry of an output**: only a message that was redeemed before is in the way. -/
theorem postOutputRegister_honest (config : CoordinatorConfig) (oreq : OutputRegRequest)
    (d : DecodedOutput) {inner : RoundStateInner} {signer : RsaBlindSigner}
    (hphase : round.phase = .outputReg) (hinner : round.inner = some inner)
    (hsigner : inner.rsaSigner = some signer)
    (hamount : oreq.amountSats = config.coordinator.denominationSats)
    (hsigned : E.rsaVerify signer.publicKey d.sigBytes d.msgRandomizer d.tokenMsg.toList = true)
    (hbinds : computeBlindTokenMessage E d.outputScript config.coordinator.denominationSats =
      d.tokenMsg) :
    (d.tokenMsg ∉ inner.redeemedTokens →
      ∃ round', postOutputRegister E config round oreq d = .ok round') ∧
    (d.tokenMsg ∈ inner.redeemedTokens → postOutputRegister E config round oreq d =
      fail (roundHttpError outputStatus round.roundId.toText
        ⟨.tokenAlreadyUsed, "Token already redeemed", none⟩)) := by
  have hlogic : registerOutputLogic E signer.publicKey inner.redeemedTokens d.tokenMsg d.sigBytes
      d.msgRandomizer config.coordinator.denominationSats oreq.amountSats d.outputScript =
      if d.tokenMsg ∈ inner.redeemedTokens then
        .error ⟨.tokenAlreadyUsed, "Token already redeemed", none⟩
      else .ok (insert d.tokenMsg inner.redeemedTokens) := by
    by_cases hused : d.tokenMsg ∈ inner.redeemedTokens
    · simp only [registerOutputLogic, require, hamount, hsigned, hbinds, hused, not_true_eq_false,
        if_true, if_false, bind, Except.bind]
    · simp only [registerOutputLogic, require, hamount, hsigned, hbinds, hused, not_false_eq_true,
        if_true, if_false, bind, Except.bind]
      rfl
  constructor
  · intro hfresh
    rw [if_neg hfresh] at hlogic
    simp only [postOutputRegister, bind_eq_ok, ofExcept_eq_ok, checkPhase_eq_ok, okOr_eq_ok,
      expect_eq_ok]
    exact ⟨_, (), hphase, inner, hinner, signer, hsigner, _, hlogic, rfl⟩
  · intro hused
    rw [if_pos hused] at hlogic
    simp only [postOutputRegister, checkPhase, require, hphase, if_true, hinner, okOr, hsigner,
      expect, hlogic, bind, Except.bind, ofExcept]
    rfl

end Request

/-! ### The output -/

section Output

variable {E : Externals} {C : ClientExternals} {S : SignerExternals} {config : CoordinatorConfig}
  {wallet : RoundWallet E S} {fresh : Uuid} {banList : BanList}
  {w w' w'' : World Coordinator Task Event} {material : RoundMaterial}

/-- **An honest output is accepted, once.** A client registered in a running round, and was
answered in whatever way it could unblind. It asks for the key again in a later world of the
run, and its request is entered in a still later one, when the round it registered in
collects outputs. Then it did not abort, and its output is accepted if and only if the
message was not redeemed before; if it was, the client is told that. -/
theorem honest_output_accepted (hvalid : config.validate = .ok ())
    (hr : Reachable (coordinator E config) (startup fresh banList) w)
    (hr' : Reachable (coordinator E config) w w') (hr'' : Reachable (coordinator E config) w' w'')
    (hfresh : (mints (roundEvents w''.log)).Nodup)
    (hsame : w''.shared.round.roundId = w.shared.round.roundId)
    (hrunning : w.shared.round.phase ≠ .idle) (hshows : w.shared.round.Shows material)
    (hspki : C.fromSpki material.pkDer = .ok material.signer.publicKey)
    (hfinalizes : ∀ blindSig result msg sig,
      C.finalize material.signer.publicKey blindSig result msg = .ok sig →
        E.rsaVerify material.signer.publicKey sig result.msgRandomizer msg = true)
    (htexts : ByteTexts E)
    (haddress : ∀ network, parseBitcoinNetwork config.network.bitcoinNetwork = .ok network →
      E.addressToScript (C.addressToString wallet.coinjoinOutputAddress) network =
        .ok wallet.coinjoinOutputAddress.scriptPubkey)
    {coordinatorInfo : CoordinatorInfo} {draw : BlindDraw} {req : InputRegRequest}
    {pending : PendingInput} {resp : InputRegResponse} {state : RegisteredInputState}
    (hprepare : prepareInput E C wallet (getInfo E config w.shared.round) coordinatorInfo draw =
      .ok (req, pending))
    (hfinish : finishInput E C wallet pending resp = .ok state) :
    ∃ oreq, outputRequest E C wallet state (getInfo E config w'.shared.round) = .ok oreq ∧
      ∀ m c inner, m.1.round.phase = .outputReg → w''.shared.round.phase = .outputReg →
        w''.shared.round.inner = some inner →
        (coordinator E config).served [m, (w''.shared, c)] (.postOutput oreq .received) =
          .answered (.output (if state.messageBytes ∈ inner.redeemedTokens then
              .error (roundHttpError outputStatus w.shared.round.roundId.toText
                ⟨.tokenAlreadyUsed, "Token already redeemed", none⟩)
            else .ok ⟨true, w.shared.round.roundId⟩)) := by
  have hholds := holds_of_registration hr htexts hrunning hshows hspki hfinalizes hprepare hfinish
  have hsame' := roundId_between hr hr' hr'' hfresh hsame
  -- the key is the same in all three worlds
  obtain ⟨-, hshows'⟩ := keepsKey_of_reachable hr hr' (nodup_mints_of_reachable hr'' hfresh)
    hrunning hshows hsame'
  obtain ⟨-, hshows''⟩ := keepsKey_of_reachable hr (hr'.trans hr'') hfresh hrunning hshows hsame
  obtain ⟨oreq, hrequest, hamount, hdecode⟩ :=
    exists_outputRequest (C := C) htexts hshows' hholds hvalid haddress
  refine ⟨oreq, hrequest, fun m c inner hreceived hphase hinner => ?_⟩
  obtain ⟨inner', hinner', hsigner⟩ := hshows''.signs
  obtain rfl := Option.some.inj (hinner.symm.trans hinner')
  obtain ⟨haccepted, hrefused⟩ := postOutputRegister_honest (E := E) config oreq
    ⟨state.messageBytes, state.unblindedSig, state.msgRandomizer,
      wallet.coinjoinOutputAddress.scriptPubkey⟩ hphase hinner hsigner hamount hholds.signed
    hholds.message.symm
  have hfirst : (do
      ofExcept id (checkPhase .outputReg m.1.round)
      postOutputDecode E config oreq : Res HttpError DecodedOutput) =
        .ok ⟨state.messageBytes, state.unblindedSig, state.msgRandomizer,
          wallet.coinjoinOutputAddress.scriptPubkey⟩ := by
    rw [checkPhase, require, if_pos hreceived]
    exact hdecode
  rw [served_attempt (fun _ _ => trivial) rfl hfirst]
  show (coordinator E config).served [(w''.shared, c)] (.postOutput oreq (.decoded _)) = _
  by_cases hused : state.messageBytes ∈ inner.redeemedTokens
  · rw [if_pos hused, ← hsame]
    have hsec : taskSection E config w''.shared c (.postOutput oreq (.decoded ⟨state.messageBytes,
        state.unblindedSig, state.msgRandomizer, wallet.coinjoinOutputAddress.scriptPubkey⟩)) =
        some (proceed w''.shared (.answered (.output (.error (roundHttpError outputStatus
          w''.shared.round.roundId.toText
            ⟨.tokenAlreadyUsed, "Token already redeemed", none⟩))))) := by
      rw [taskSection, postOutputSection, hrefused hused]
      rfl
    rw [served_section (fun _ _ => trivial) hsec]
    rfl
  · obtain ⟨round', hround'⟩ := haccepted hused
    rw [if_neg hused, served_attempt (fun _ _ => trivial) rfl hround', ← hsame]
    rfl

/-- The client of the session registers its output when both coins are registered. -/
theorem honest_output_accepted_session :
    ∃ (w : World Coordinator Task Event) (state : RegisteredInputState) (oreq : OutputRegRequest),
      Reachable (coordinator honestExternals configOfTwo) honestStart w ∧
      state.messageBytes = firstToken ∧
      outputRequest honestExternals honestClient honestWallet state
        (getInfo honestExternals configOfTwo w.shared.round) = .ok oreq ∧
      (coordinator honestExternals configOfTwo).served [(w.shared, {}), (w.shared, {})]
        (.postOutput oreq .received) = .answered (.output (.ok ⟨true, firstRound⟩)) := by
  obtain ⟨req, pending, resp, state, hprepare, hfinish, hmessage⟩ := honestRegistration
  obtain ⟨w, hreach, hphase, hid, hempty, hfresh⟩ := exists_outputs
  obtain ⟨inner, hinner, hempty⟩ := (Option.any_eq_true _ _).mp hempty
  have hrunning : honestStart.shared.round.phase ≠ .idle := by
    rw [honestStart_round.1]
    decide
  obtain ⟨oreq, hrequest, hserved⟩ := honest_output_accepted configOfTwo_validate
    honestStart_reachable hreach .refl hfresh (hid.trans honestStart_round.2.1.symm) hrunning
    honestStart_shows (by decide +kernel)
    (fun _ _ _ _ => rsaVerify_of_finalize honestSigner honestKey honestEncoding _)
    honestByteTexts (honestPromises.address _ (List.mem_cons_self ..)) hprepare hfinish
  have hnew : state.messageBytes ∉ inner.redeemedTokens := by
    rw [of_decide_eq_true hempty]
    exact Finset.notMem_empty _
  have hanswer := hserved (w.shared, {}) {} inner hphase hphase hinner
  rw [if_neg hnew, honestStart_round.2.1] at hanswer
  exact ⟨w, state, oreq, hreach, hmessage, hrequest, hanswer⟩

end Output

end Blindjoin
