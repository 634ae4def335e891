import Mathlib.Data.List.Forall2
import Blindjoin.System.Recorded
import Blindjoin.System.Requests

/-!
# No redemption oracle

Which outputs of a round are registered is a secret until the transaction is
published. An output request that does not carry a valid token is refused before the
redeemed tokens are looked at, so its answer says nothing about them: whatever happens
between its sections, **the request goes the same way on any two coordinators that
look alike to its caller**, and changes neither (`Blindjoin.no_redemption_oracle`).
-/

namespace Blindjoin

open Interleaving

/-! ### What a caller may know -/

/-- Two rounds look alike to a caller: the same phase, id, number of participants and
round key. The redeemed tokens and the registered outputs may differ, and everything
else as well. -/
structure LooksAlike (s s' : RoundState) : Prop where
  phase : s.phase = s'.phase
  roundId : s.roundId = s'.roundId
  participantCount : s.participantCount = s'.participantCount
  rsaSigner : s.inner.map RoundStateInner.rsaSigner = s'.inner.map RoundStateInner.rsaSigner

/-- A decoded output request carries a valid token: the signature verifies under the
round key, and the token is the message of the requested output. -/
def CarriesToken (E : Externals) (s : RoundState) (req : OutputRegRequest) (d : DecodedOutput) :
    Prop :=
  ∃ inner ∈ s.inner, ∃ signer ∈ inner.rsaSigner,
    E.rsaVerify signer.publicKey d.sigBytes d.msgRandomizer d.tokenMsg.toList = true ∧
    computeBlindTokenMessage E d.outputScript req.amountSats = d.tokenMsg

/-- No reading of the request carries a valid token for the round. -/
def Tokenless (E : Externals) (config : CoordinatorConfig) (s : RoundState)
    (req : OutputRegRequest) : Prop :=
  ∀ d, postOutputDecode E config req = .ok d → ¬CarriesToken E s req d

variable {E : Externals} {config : CoordinatorConfig} {req : OutputRegRequest} {d : DecodedOutput}
  {s s' : RoundState}

theorem LooksAlike.refl (s : RoundState) : LooksAlike s s := ⟨rfl, rfl, rfl, rfl⟩

/-- Whether a request carries a valid token depends on the round key alone. -/
theorem Tokenless.congr (halike : LooksAlike s s') (h : Tokenless E config s req) :
    Tokenless E config s' req := by
  rintro d hd ⟨inner', hinner', signer, hsigner, hvalid⟩
  have hkey := halike.rsaSigner
  rw [Option.mem_def.mp hinner', Option.map_some] at hkey
  obtain ⟨inner, hinner, heq⟩ := Option.map_eq_some_iff.mp hkey
  exact h d hd ⟨inner, hinner, signer, heq ▸ hsigner, hvalid⟩

/-- **Without a valid token the redeemed tokens are not looked at.** -/
theorem registerOutputLogic_of_invalid (denomination : ℕ) {pk : RsaPublicKey} {amountSats : ℕ}
    {tokenMsg : Bytes32} {sigBytes : Bytes} {msgRandomizer : Option Bytes32}
    {outputScript : Script}
    (h : ¬(E.rsaVerify pk sigBytes msgRandomizer tokenMsg.toList = true ∧
      computeBlindTokenMessage E outputScript amountSats = tokenMsg)) :
    ∃ e, ∀ redeemed, registerOutputLogic E pk redeemed tokenMsg sigBytes msgRandomizer denomination
      amountSats outputScript = .error e := by
  -- what is returned without any token redeemed is returned for any set of tokens
  have hany : ∀ redeemed, registerOutputLogic E pk redeemed tokenMsg sigBytes msgRandomizer
      denomination amountSats outputScript = registerOutputLogic E pk ∅ tokenMsg sigBytes
        msgRandomizer denomination amountSats outputScript := by
    intro redeemed
    rw [registerOutputLogic, registerOutputLogic]
    by_cases hsig : E.rsaVerify pk sigBytes msgRandomizer tokenMsg.toList = true
    · have hmsg : computeBlindTokenMessage E outputScript amountSats ≠ tokenMsg :=
        fun hmsg => h ⟨hsig, hmsg⟩
      simp only [require, if_neg hmsg]
      rfl
    · simp only [require, if_neg hsig]
      rfl
  cases hlogic : registerOutputLogic E pk ∅ tokenMsg sigBytes msgRandomizer denomination
      amountSats outputScript with
  | error e => exact ⟨e, fun redeemed => (hany redeemed).trans hlogic⟩
  | ok redeemed =>
    obtain ⟨-, hsig, hmsg, -⟩ := registerOutputLogic_eq_ok hlogic
    exact absurd ⟨hsig, hmsg⟩ h

theorem checkPhase_congr (halike : LooksAlike s s') (expected : Phase) :
    checkPhase expected s = checkPhase expected s' := by
  rw [checkPhase, checkPhase, wrongPhase, wrongPhase, halike.phase, halike.roundId]

/-- **The answer under the write lock** is the same on two rounds that look alike. -/
theorem postOutputRegister_of_tokenless (config : CoordinatorConfig) (halike : LooksAlike s s')
    (h : ¬CarriesToken E s req d) :
    ∃ fault, postOutputRegister E config s req d = .error fault ∧
      postOutputRegister E config s' req d = .error fault := by
  rw [postOutputRegister, postOutputRegister, ← checkPhase_congr halike, ← halike.roundId]
  cases hphase : checkPhase .outputReg s with
  | error e => exact ⟨_, rfl, rfl⟩
  | ok _ =>
    have hsigner := halike.rsaSigner
    cases hinner : s.inner with
    | none =>
      rw [hinner, Option.map_none] at hsigner
      rw [Option.map_eq_none_iff.mp hsigner.symm]
      exact ⟨_, rfl, rfl⟩
    | some inner =>
      rw [hinner, Option.map_some] at hsigner
      obtain ⟨inner', hinner', heq⟩ := Option.map_eq_some_iff.mp hsigner.symm
      rw [hinner']
      cases hkey : inner.rsaSigner with
      | none =>
        -- the handler expects a signer in this phase
        have hkey' : inner'.rsaSigner = none := by rw [heq, hkey]
        simp only [okOr, ofExcept, expect, bind, Except.bind, hkey, hkey']
        exact ⟨_, rfl, rfl⟩
      | some signer =>
        have hkey' : inner'.rsaSigner = some signer := by rw [heq, hkey]
        obtain ⟨e, he⟩ := registerOutputLogic_of_invalid config.coordinator.denominationSats
          fun hvalid => h ⟨inner, hinner, signer, hkey, hvalid⟩
        simp only [okOr, ofExcept, expect, bind, Except.bind, hkey, hkey', he]
        exact ⟨_, rfl, rfl⟩

/-! ### A request without a token -/

/-- What may become of an output request without a valid token. -/
def Task.OfTokenless (E : Externals) (config : CoordinatorConfig) (req : OutputRegRequest) :
    Task → Prop
  | .postOutput req' .received => req' = req
  | .postOutput req' (.decoded d) => req' = req ∧ postOutputDecode E config req = .ok d
  | .answered (.output (.error _)) => True
  | .panicked _ => True
  | _ => False

/-- Such a task iterates no hash map. -/
theorem Task.OfTokenless.iterates {t : Task} (ht : t.OfTokenless E config req) (c : Choice) :
    c.Iterates s t := by
  intro inner _
  cases t with
  | postSign req' stage => exact ht.elim
  | timer roundId phase => exact ht.elim
  | getTx => exact ht.elim
  | _ => exact trivial

/-- A request that fails is a request without a token still. -/
theorem Task.ofTokenless_settle {α : Type} {k : α → Task} {r : Res HttpError α}
    (hk : ∀ a, r = .ok a → (k a).OfTokenless E config req) :
    (Task.settle (.output ∘ .error) k r).OfTokenless E config req := by
  rcases r with (e | m) | a
  · exact trivial
  · exact trivial
  · exact hk a rfl

section Sections

variable {cs cs' : Coordinator} {t : Task}

/-- **One section** of a request without a token: it only goes on, and in the same way
on two coordinators that look alike. -/
theorem section_of_tokenless (c c' : Choice) (ht : t.OfTokenless E config req)
    (halike : LooksAlike cs.round cs'.round) (h : Tokenless E config cs.round req) :
    (∃ next, next.OfTokenless E config req ∧
      taskSection E config cs c t = some (proceed cs next) ∧
      taskSection E config cs' c' t = some (proceed cs' next)) ∨
    (taskSection E config cs c t = none ∧ taskSection E config cs' c' t = none) := by
  cases t with
  | postOutput req' stage =>
    left
    cases stage with
    | received =>
      obtain rfl : req' = req := ht
      refine ⟨Task.settle (.output ∘ .error) (fun d => .postOutput req' (.decoded d))
        (do ofExcept id (checkPhase .outputReg cs.round); postOutputDecode E config req'),
        Task.ofTokenless_settle fun d hd => ⟨rfl, ?_⟩, ?_, ?_⟩
      · obtain ⟨_, -, hdecode⟩ := bind_eq_ok.mp hd
        exact hdecode
      · rw [taskSection, postOutputSection, attempt_proceed]
      · rw [taskSection, postOutputSection, attempt_proceed, ← checkPhase_congr halike]
    | decoded d =>
      obtain ⟨rfl, hdecode⟩ := ht
      obtain ⟨fault, hfault, hfault'⟩ :=
        postOutputRegister_of_tokenless config halike (h d hdecode)
      -- the continuation of a success plays no part
      refine ⟨Task.settle (.output ∘ .error) (fun _ : RoundState => Task.finished) (.error fault),
        Task.ofTokenless_settle fun _ hok => absurd hok (by simp), ?_, ?_⟩
      · rw [taskSection, postOutputSection, hfault, attempt_fault]
      · rw [taskSection, postOutputSection, hfault', attempt_fault]
  | answered r => exact Or.inr ⟨rfl, rfl⟩
  | panicked m => exact Or.inr ⟨rfl, rfl⟩
  | _ => exact ht.elim

theorem exec_of_tokenless (c c' : Choice) (ht : t.OfTokenless E config req)
    (halike : LooksAlike cs.round cs'.round) (h : Tokenless E config cs.round req) :
    (∃ e e', exec E config cs t c = some e ∧ exec E config cs' t c' = some e' ∧
      e.next = e'.next ∧ e.next.OfTokenless E config req ∧ e.shared = cs ∧ e'.shared = cs') ∨
    (exec E config cs t c = none ∧ exec E config cs' t c' = none) := by
  rcases section_of_tokenless c c' ht halike h with
    ⟨next, hnext, hsec, hsec'⟩ | ⟨hsec, hsec'⟩
  · obtain ⟨e, he, rfl, hshared⟩ := exec_proceed (ht.iterates c) hsec
    obtain ⟨e', he', heq, hshared'⟩ := exec_proceed (ht.iterates c') hsec'
    exact Or.inl ⟨e, e', he, he', heq.symm, hnext, hshared, hshared'⟩
  · exact Or.inr ⟨exec_none hsec, exec_none hsec'⟩

end Sections

/-- The request leaves every coordinator it meets as it is. -/
theorem shared_prefix_of_tokenless {ms : List (Coordinator × Choice)}
    (htokenless : ∀ m ∈ ms, Tokenless E config m.1.round req) :
    ((coordinator E config).sections ms (.postOutput req .received)).map Effect.shared <+:
      ms.map Prod.fst := by
  refine Program.shared_prefix_of_reads (M := fun m => Tokenless E config m.1.round req)
    (I := Task.OfTokenless E config req) ?_ htokenless rfl
  intro m t e ht hm he
  have he' : exec E config m.1 t m.2 = some e := he
  rcases exec_of_tokenless m.2 m.2 ht (LooksAlike.refl m.1.round) hm with
    ⟨e₁, _, h₁, -, -, hnext, hshared, -⟩ | ⟨hnone, -⟩
  · obtain rfl : e₁ = e := Option.some.inj (h₁.symm.trans he')
    exact ⟨hshared, hnext⟩
  · exact absurd (hnone.symm.trans he') (by simp)

/-- **No redemption oracle**: an output request that carries no valid token for the
rounds it meets goes the same way through any moments that look alike to its caller,
to the same answer, and leaves every coordinator it meets as it is. -/
theorem no_redemption_oracle {ms ms' : List (Coordinator × Choice)}
    (halike : List.Forall₂ (fun m m' => LooksAlike m.1.round m'.1.round) ms ms')
    (htokenless : ∀ m ∈ ms, Tokenless E config m.1.round req) :
    let request := Task.postOutput req .received
    (coordinator E config).served ms request = (coordinator E config).served ms' request ∧
    ((coordinator E config).sections ms request).map Effect.next =
      ((coordinator E config).sections ms' request).map Effect.next ∧
    ((coordinator E config).sections ms request).map Effect.shared <+: ms.map Prod.fst ∧
    ((coordinator E config).sections ms' request).map Effect.shared <+: ms'.map Prod.fst := by
  have hboth := (List.forall₂_and_left (p := fun m => Tokenless E config m.1.round req) _ _).mpr
    ⟨htokenless, halike⟩
  have hnext : ((coordinator E config).sections ms (.postOutput req .received)).map Effect.next =
      ((coordinator E config).sections ms' (.postOutput req .received)).map Effect.next := by
    refine Program.sections_unwind (I := Task.OfTokenless E config req) ?_ ?_ hboth rfl
    · rintro m m' t ht ⟨hm, hm'⟩
      rcases exec_of_tokenless m.2 m'.2 ht hm' hm with
        ⟨e, e', he, he', heq, -⟩ | ⟨hnone, hnone'⟩
      · simp only [coordinator, he, he', Option.map_some, heq]
      · simp only [coordinator, hnone, hnone']
    · rintro m m' t e ht ⟨hm, hm'⟩ he
      have he' : exec E config m.1 t m.2 = some e := he
      rcases exec_of_tokenless m.2 m'.2 ht hm' hm with
        ⟨e₁, _, h₁, -, -, hnext, -⟩ | ⟨hnone, -⟩
      · obtain rfl : e₁ = e := Option.some.inj (h₁.symm.trans he')
        exact hnext
      · exact absurd (hnone.symm.trans he') (by simp)
  -- the other life meets rounds with the same key
  have hright : List.Forall₂ (fun m' (_ : Coordinator × Choice) =>
      Tokenless E config m'.1.round req ∧ True) ms' ms :=
    List.Forall₂.flip (hboth.imp fun m m' h => ⟨h.1.congr h.2, trivial⟩)
  have htokenless' : ∀ m' ∈ ms', Tokenless E config m'.1.round req :=
    ((List.forall₂_and_left _ _).mp hright).1
  refine ⟨?_, hnext, shared_prefix_of_tokenless htokenless,
    shared_prefix_of_tokenless htokenless'⟩
  rw [Program.served_eq_getLastD, Program.served_eq_getLastD, hnext]

/-! ### The session before and after its first output -/

/-- The session when both inputs are registered. -/
def inputsDone : Coordinator :=
  (worldAfter (startMoves firstKeys ++
    inputMoves 1 firstInput (unspentAnswer "0.01020000" firstScript) ++
    inputMoves 2 secondInput (unspentAnswer "0.01030000" secondScript))).shared

/-- The session when the first output is registered as well. -/
def outputDone : Coordinator :=
  (worldAfter (startMoves firstKeys ++
    inputMoves 1 firstInput (unspentAnswer "0.01020000" firstScript) ++
    inputMoves 2 secondInput (unspentAnswer "0.01030000" secondScript) ++
    outputMoves 3 firstOutput)).shared

/-- A request for the first output with the signature of another token. -/
def forgedOutput : OutputRegRequest := { firstOutput with signature := secondOutput.signature }

theorem forgedOutput_decoded : postOutputDecode session.externals configOfTwo forgedOutput =
    .ok ⟨firstToken, secondTokenSig, some (List.Vector.replicate 32 0xb1), firstOutputScript⟩ := by
  decide +kernel

/-- A caller without a token cannot tell whether the first output of the session is
registered. -/
theorem no_redemption_oracle_session :
    (coordinator session.externals configOfTwo).served [(inputsDone, {}), (inputsDone, {})]
        (.postOutput forgedOutput .received) =
      (coordinator session.externals configOfTwo).served [(outputDone, {}), (outputDone, {})]
        (.postOutput forgedOutput .received) := by
  have hsame : inputsDone.round.phase = outputDone.round.phase ∧
      inputsDone.round.roundId = outputDone.round.roundId ∧
      inputsDone.round.participantCount = outputDone.round.participantCount ∧
      inputsDone.round.inner.map RoundStateInner.rsaSigner =
        outputDone.round.inner.map RoundStateInner.rsaSigner ∧
      inputsDone.round.inner.bind RoundStateInner.rsaSigner =
        some ⟨⟨firstPublicKey⟩, ⟨firstSecretKey⟩⟩ := by
    decide +kernel
  obtain ⟨hphase, hid, hcount, hkeys, hkey⟩ := hsame
  have halike : LooksAlike inputsDone.round outputDone.round := ⟨hphase, hid, hcount, hkeys⟩
  have htokenless : Tokenless session.externals configOfTwo inputsDone.round forgedOutput := by
    rintro d hd ⟨inner, hinner, signer, hsigner, hsig, -⟩
    obtain rfl := Except.ok.inj (forgedOutput_decoded.symm.trans hd)
    rw [Option.mem_def.mp hinner, Option.bind_some, Option.mem_def.mp hsigner] at hkey
    obtain rfl := Option.some.inj hkey
    exact absurd hsig (by decide +kernel)
  -- from here on the two states matter only for looking alike
  generalize inputsDone = before at halike htokenless ⊢
  generalize outputDone = after at halike ⊢
  refine (no_redemption_oracle (.cons halike (.cons halike .nil)) fun m hm => ?_).1
  rcases List.mem_pair.mp hm with rfl | rfl
  · exact htokenless
  · exact htokenless

end Blindjoin
