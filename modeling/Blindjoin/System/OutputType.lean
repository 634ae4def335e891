import Blindjoin.System.Ledger
import Blindjoin.System.Recorded

/-!
# The script type of the outputs

A round advertises one output script type; the fee estimate and the discovery
record use it. An output registration parses its address for the network and binds
it to the token, but no step looks at the type of the script. So an output of
another type is accepted like any other.

`Blindjoin.RequestsOutputType` is the condition under which this does not happen:
**in every run that meets it, every registered output pays to a script of the
configured type** (`Blindjoin.uniform_of_reachable`).
-/

namespace Blindjoin

open Interleaving Collections

/-! ### Statement -/

/-- A script of the output type of the round. -/
def HasOutputType (config : CoordinatorConfig) (script : Script) : Prop :=
  detectScriptType script = .ok config.bip.outputScriptType

/-- Every registered output pays to a script of the output type of the round. -/
def UniformOutputs (E : Externals) (config : CoordinatorConfig) (s : RoundState) : Prop :=
  ∀ inner, s.inner = some inner → ∀ out ∈ inner.registeredOutputs,
    ∃ script, ParsesTo E config out.address script ∧ HasOutputType config script

/-- A round in which an output can be registered: the amount is the denomination, the
token is signed for it and was not redeemed. -/
def Redeemable (E : Externals) (config : CoordinatorConfig) (s : RoundState)
    (req : OutputRegRequest) (d : DecodedOutput) : Prop :=
  s.phase = .outputReg ∧ req.amountSats = config.coordinator.denominationSats ∧
  computeBlindTokenMessage E d.outputScript req.amountSats = d.tokenMsg ∧
  ∃ inner signer, s.inner = some inner ∧ inner.rsaSigner = some signer ∧
    E.rsaVerify signer.publicKey d.sigBytes d.msgRandomizer d.tokenMsg.toList = true ∧
    d.tokenMsg ∉ inner.redeemedTokens

/-- An output request that takes the write lock, and finds a round it can register
in, asks for an output of the type of the round. -/
def RequestsOutputType (E : Externals) (config : CoordinatorConfig) (s : Coordinator) (t : Task)
    (_ : Choice) : Prop :=
  match t with
  | .postOutput req (.decoded d) =>
    Redeemable E config s.round req d → HasOutputType config d.outputScript
  | _ => True

section Proof

variable {E : Externals} {config : CoordinatorConfig} {s s' : RoundState} {fresh : Uuid}

/-! ### Steps -/

theorem Redeems.redeemable {inner : RoundStateInner} {req : OutputRegRequest} {d : DecodedOutput}
    {roundId : Uuid}
    (h : Redeems E config s inner ⟨roundId, d.tokenMsg, d.sigBytes, d.msgRandomizer,
      d.outputScript, ⟨req.outputAddress, req.amountSats⟩⟩) : Redeemable E config s req d := by
  obtain ⟨signer, hsigner, hsig⟩ := h.signed
  exact ⟨h.phase, h.amount, h.binds, inner, signer, h.inner_eq, hsigner, hsig, h.unredeemed⟩

/-- **A step keeps the outputs uniform** when the output it registers, if it
registers one, has the type of the round. -/
theorem RoundStep.uniformOutputs {es : List RoundEvent} (h : RoundStep E config fresh s es s')
    (htype : ∀ r, .outputRegistered r ∈ es → HasOutputType config r.outputScript)
    (hinv : UniformOutputs E config s) : UniformOutputs E config s' := by
  cases h with
  | unchanged => exact hinv
  | install hphase material =>
    intro inner hinner out hout
    obtain rfl := Option.some.inj hinner
    exact absurd hout List.not_mem_nil
  | registerInput h =>
    intro inner hinner
    obtain rfl := Option.some.inj hinner
    have hkept := hinv _ h.inner_eq
    exact hkept
  | inputDeadline => exact hinv
  | @registerOutput inner r h =>
    intro inner' hinner out hout
    obtain rfl := Option.some.inj hinner
    rcases List.mem_append.mp hout with hout | hout
    -- an output from before, or the one just accepted
    · exact hinv _ h.inner_eq out hout
    · obtain rfl := List.mem_singleton.mp hout
      exact ⟨r.outputScript, h.address, htype r (List.mem_singleton.mpr rfl)⟩
  | outputDeadline => exact hinv
  | recordSig hphase hiter hid hsub hout =>
    intro inner hinner
    obtain rfl := Option.some.inj hinner
    have hkept := hinv _ hsub.inner_eq
    exact hkept
  | complete hphase hiter hid hsub hout hdone =>
    intro inner hinner
    obtain rfl := Option.some.inj hinner
    have hkept := hinv _ hsub.inner_eq
    exact hkept
  | finish => exact fun inner hinner => absurd hinner (by simp [RoundState.newIdle])

/-- The output a section registers has the type of the round, when the section meets
the condition. -/
theorem exec_outputType {s : Coordinator} {t : Task} {c : Choice} {e : Section} {r : Redemption}
    (h : exec E config s t c = some e) (hsound : t.Sound E config)
    (hok : RequestsOutputType E config s t c) (hr : .outputRegistered r ∈ roundEvents e.events) :
    HasOutputType config r.outputScript := by
  rcases exec_emits h hr with hphase | hemits
  · rcases mem_phaseEvents hphase with h | h <;> exact absurd h (by simp)
  · cases hemits with
    | outputRegistered hreg =>
      obtain ⟨inner, hredeems, -⟩ := postOutputRegister_eq_ok hreg hsound
      exact hok hredeems.redeemable

variable {banList : BanList} {w : World Coordinator Task Event}

/-- **The outputs are uniform** in every run that meets the condition, whatever
outputs were registered, in this round and in others. -/
theorem uniform_of_reachable
    (hr : ReachableVia (coordinator E config) (RequestsOutputType E config)
      (startup fresh banList) w) :
    UniformOutputs E config w.shared.round := by
  refine hr.shared (fun s _ => UniformOutputs E config s.round) (fun _ => True)
    (fun _ _ _ => trivial) (fun inner hinner => absurd hinner (by simp [startup,
      RoundState.newIdle])) (fun {w t c e} hw ht hok he _ ih => ?_) trivial
  have hsound := sound_of_reachable hw _ ht
  obtain ⟨es, hstep, hevents⟩ := exec_roundStep he hsound
  refine hstep.uniformOutputs (fun r hmem => ?_) ih
  refine exec_outputType he hsound hok ?_
  rw [hevents]
  exact List.mem_append_right _ hmem

end Proof

/-! ### The recorded session -/

/-- The request asks for a P2WPKH output. -/
def requestsP2wpkh (_ : Coordinator) (t : Task) (_ : Choice) : Bool :=
  match t with
  | .postOutput _ (.decoded d) => d.outputScript.isP2wpkh
  | _ => true

theorem requestsP2wpkh_sound {E : Externals} {s : Coordinator} {t : Task} {c : Choice}
    (h : requestsP2wpkh s t c = true) : RequestsOutputType E configOfTwo s t c := by
  cases t with
  | postOutput req stage =>
    cases stage with
    | decoded d => exact fun _ => if_pos h
    | received => exact trivial
  | _ => exact trivial

theorem uniform_of_reachable_session :
    (worldAfter signingMoves requestsP2wpkh).shared.round.phase = .signing ∧
    UniformOutputs session.externals configOfTwo
      (worldAfter signingMoves requestsP2wpkh).shared.round :=
  ⟨by decide +kernel, uniform_of_reachable
    ((worldAfter_reachableVia signingMoves requestsP2wpkh).mono fun _ _ _ =>
      requestsP2wpkh_sound)⟩

/-- A coordinator that advertises taproot outputs. -/
def configOfTaproot : CoordinatorConfig :=
  { configOfTwo with bip := { configOfTwo.bip with outputScriptType := .p2tr } }

/-- **Outputs of another type are accepted**: the round advertises P2TR outputs, and
reaches signing with two P2WPKH ones. -/
theorem exists_not_uniform :
    configOfTaproot.validate = .ok () ∧
    Reachable (coordinator session.externals configOfTaproot) (startup firstRound .new)
      (worldWith configOfTaproot signingMoves) ∧
    (worldWith configOfTaproot signingMoves).shared.round.phase = .signing ∧
    ((worldWith configOfTaproot signingMoves).shared.round.inner.map fun inner =>
      inner.registeredOutputs.map RegisteredOutput.address) =
        some [firstOutput.outputAddress, secondOutput.outputAddress] ∧
    ¬UniformOutputs session.externals configOfTaproot
      (worldWith configOfTaproot signingMoves).shared.round := by
  have hrun : (worldWith configOfTaproot signingMoves).shared.round.phase = .signing ∧
      ((worldWith configOfTaproot signingMoves).shared.round.inner.map fun inner =>
        inner.registeredOutputs.map RegisteredOutput.address) =
          some [firstOutput.outputAddress, secondOutput.outputAddress] := by
    decide +kernel
  obtain ⟨hphase, haddresses⟩ := hrun
  refine ⟨by decide +kernel, worldWith_reachable _ _, hphase, haddresses, fun huniform => ?_⟩
  obtain ⟨inner, hinner, houtputs⟩ := Option.map_eq_some_iff.mp haddresses
  obtain ⟨out, hout, haddress⟩ : ∃ out ∈ inner.registeredOutputs,
      out.address = firstOutput.outputAddress := by
    have hmem : firstOutput.outputAddress ∈ inner.registeredOutputs.map RegisteredOutput.address :=
      houtputs ▸ List.mem_cons_self
    exact List.mem_map.mp hmem
  obtain ⟨script, ⟨network, hnet, hscript⟩, htype⟩ := huniform inner hinner out hout
  have hsignet : parseBitcoinNetwork configOfTaproot.network.bitcoinNetwork = .ok .signet := rfl
  obtain rfl : Network.signet = network := Except.ok.inj (hsignet.symm.trans hnet)
  have hfirst : session.externals.addressToScript firstOutput.outputAddress .signet =
      .ok firstOutputScript := by rfl
  rw [haddress, hfirst] at hscript
  obtain rfl := Except.ok.inj hscript
  have hp2wpkh : detectScriptType firstOutputScript = .ok .p2wpkh := by rfl
  exact absurd (hp2wpkh.symm.trans htype) (by decide)

end Blindjoin
