import Blindjoin.System.Invariant
import Blindjoin.System.Recorded

/-!
# No task panics

The handlers unwrap values they believe to be there: the network name and an
allowed script type of a validated configuration, the keys of a running round,
the elements of a witness whose length was just checked. Each of these beliefs
is true in every reachable world, so **no task ever panics**
(`Blindjoin.roundInv_and_noPanic`).
-/

namespace Blindjoin

open Interleaving Collections

variable {E : Externals} {config : CoordinatorConfig}

/-! ### Signature verification -/

theorem exists_getElem? {α : Type} {l : List α} {i : ℕ} (h : i < l.length) : ∃ a, l[i]? = some a :=
  ⟨l[i], List.getElem?_eq_getElem h⟩

theorem parseEcdsaSig_noPanic (sigElem : Bytes) : NoPanic (parseEcdsaSig E sigElem) :=
  noPanic_okOr.bind fun _ _ => noPanic_require.bind fun _ _ => noPanic_require.bind fun _ _ =>
    noPanic_ok

theorem verifyP2wpkh_noPanic (psbt : Psbt) (i : ℕ) (witness : Witness) (spk : Script)
    (value : ℕ) : NoPanic (verifyP2wpkh E psbt i witness spk value) := by
  refine noPanic_require.bind fun _ hlen => ?_
  rw [require_eq_ok] at hlen
  refine (noPanic_unwrap (exists_getElem? (by omega))).bind fun sigElem _ => ?_
  refine (parseEcdsaSig_noPanic sigElem).bind fun _ _ => ?_
  refine (noPanic_unwrap (exists_getElem? (by omega))).bind fun _ _ => ?_
  exact noPanic_okOr.bind fun _ _ => noPanic_require.bind fun _ _ => noPanic_okOr.bind fun _ _ =>
    noPanic_require

theorem verifyP2shP2wpkh_noPanic (psbt : Psbt) (i : ℕ) (witness : Witness) (spk : Script)
    (value : ℕ) : NoPanic (verifyP2shP2wpkh E psbt i witness spk value) := by
  refine noPanic_require.bind fun _ hlen => ?_
  rw [require_eq_ok] at hlen
  refine (noPanic_unwrap (exists_getElem? (by omega))).bind fun sigElem _ => ?_
  refine (parseEcdsaSig_noPanic sigElem).bind fun _ _ => ?_
  refine (noPanic_unwrap (exists_getElem? (by omega))).bind fun _ _ => ?_
  exact noPanic_okOr.bind fun _ _ => noPanic_require.bind fun _ _ => noPanic_okOr.bind fun _ _ =>
    noPanic_require

theorem splitTaprootSig_noPanic (sigElem : Bytes) : NoPanic (splitTaprootSig sigElem) := by
  rw [splitTaprootSig]
  split
  · exact noPanic_ok
  · split
    · next hlen =>
      refine (noPanic_unwrap (exists_getElem? (by omega))).bind fun _ _ => ?_
      exact noPanic_require.bind fun _ _ => noPanic_ok
    · exact noPanic_fail

/-- The list of all previous outputs is indexed where the input itself has one. -/
theorem verifyP2tr_noPanic (psbt : Psbt) (i : ℕ) (witness : Witness) {utxo : TxOut}
    (hutxo : psbt.inputs[i]?.bind PsbtInput.witnessUtxo = some utxo) :
    NoPanic (verifyP2tr E psbt i witness) := by
  refine noPanic_require.bind fun _ hlen => ?_
  rw [require_eq_ok] at hlen
  refine (noPanic_unwrap (exists_getElem? (by omega))).bind fun sigElem _ => ?_
  refine (splitTaprootSig_noPanic sigElem).bind fun _ _ => ?_
  refine noPanic_okOr.bind fun prevouts hprevouts => ?_
  rw [okOr_eq_ok] at hprevouts
  -- every input has a previous output, and this one is the input's own
  refine (noPanic_unwrap ⟨utxo, ?_⟩).bind fun _ _ => ?_
  · rw [getElem?_of_mapM_eq_some hprevouts, hutxo]
  · exact noPanic_require.bind fun _ _ => noPanic_require.bind fun _ _ =>
      noPanic_okOr.bind fun _ _ => noPanic_require

theorem verifyInputSignature_noPanic (psbt : Psbt) (i : ℕ) (st : ScriptType) (bytes : Bytes) :
    NoPanic (verifyInputSignature E psbt i st bytes) := by
  refine noPanic_ofExcept.bind fun witness _ => noPanic_okOr.bind fun utxo hutxo => ?_
  rw [okOr_eq_ok] at hutxo
  cases st with
  | p2wpkh => exact verifyP2wpkh_noPanic psbt i witness _ _
  | p2shP2wpkh => exact verifyP2shP2wpkh_noPanic psbt i witness _ _
  | p2tr => exact verifyP2tr_noPanic psbt i witness hutxo

/-! ### Handlers -/

section Handlers

variable {ε : Type}

theorem runtimeNetwork_noPanic (hv : config.Valid) :
    NoPanic (runtimeNetwork config : Res ε Network) := by
  obtain ⟨net, hnet⟩ := hv.network
  exact noPanic_expect ⟨net, by rw [hnet]; rfl⟩

theorem estimateFeeShare_noPanic (hv : config.Valid) (n feeRate : ℕ) :
    NoPanic (estimateFeeShare config.bip n feeRate : Res ε ℕ) := by
  obtain ⟨share, hshare⟩ := exists_estimateFeeShare (ε := ε) hv.allowed n feeRate
  rw [hshare]
  exact noPanic_ok

theorem buildRoundPsbt_noPanic (hv : config.Valid) (errors : BuildErrors ε)
    (inner : RoundStateInner) (values : List RegisteredInput) :
    NoPanic (buildRoundPsbt E errors inner config values) :=
  (runtimeNetwork_noPanic hv).bind fun _ _ => noPanic_ofExcept.bind fun _ _ =>
    noPanic_ofExcept.bind fun _ _ => noPanic_ofExcept

theorem postInputValidate_noPanic (hv : config.Valid) (req : InputRegRequest) (utxo : OutPoint)
    (proof : OwnershipProof) (snapshot : InputSnapshot) (answer : HttpAnswer) :
    NoPanic (postInputValidate E config req utxo proof snapshot answer) :=
  (estimateFeeShare_noPanic hv _ _).bind fun _ _ => (runtimeNetwork_noPanic hv).bind fun _ _ =>
    noPanic_ofExcept.bind fun _ _ => noPanic_ofExcept.bind fun _ _ => noPanic_ok

theorem registerInput_noPanic {s : RoundState} (hinv : RoundInv config s) (utxo : OutPoint)
    (blindedToken : Bytes) (changeAddress : String) (spk : Script) (value : ℕ) (st : ScriptType)
    (roundIdStr : String) :
    NoPanic (registerInput E s utxo blindedToken changeAddress spk value st roundIdStr) := by
  refine noPanic_okOr.bind fun inner hinner => noPanic_require.bind fun _ _ => ?_
  rw [okOr_eq_ok] at hinner
  refine (noPanic_expect (hinv.inner inner hinner).signer).bind fun _ _ => ?_
  exact noPanic_ofExcept.bind fun _ _ => noPanic_ok

theorem postInputRegister_noPanic {s : RoundState} (hinv : RoundInv config s)
    (req : InputRegRequest) (utxo : OutPoint) (blindedToken : Bytes) (details : UtxoDetails) :
    NoPanic (postInputRegister E config s req utxo blindedToken details) :=
  noPanic_ofExcept.bind fun _ _ => noPanic_require.bind fun _ _ => noPanic_require.bind fun _ _ =>
    (registerInput_noPanic hinv _ _ _ _ _ _ _).mapErr.bind fun _ _ => noPanic_ok

theorem postOutputDecode_noPanic (hv : config.Valid) (req : OutputRegRequest) :
    NoPanic (postOutputDecode E config req) :=
  noPanic_ofExcept.bind fun _ _ => noPanic_ofExcept.bind fun _ _ => noPanic_ofExcept.bind fun _ _ =>
    (runtimeNetwork_noPanic hv).bind fun _ _ => noPanic_ofExcept.bind fun _ _ => noPanic_ok

theorem postOutputRegister_noPanic {s : RoundState} (hinv : RoundInv config s)
    (req : OutputRegRequest) (d : DecodedOutput) :
    NoPanic (postOutputRegister E config s req d) := by
  refine noPanic_ofExcept.bind fun _ _ => noPanic_okOr.bind fun inner hinner => ?_
  rw [okOr_eq_ok] at hinner
  refine (noPanic_expect (hinv.inner inner hinner).signer).bind fun _ _ => ?_
  exact noPanic_ofExcept.bind fun _ _ => noPanic_ok

theorem checkSubmission_noPanic (hv : config.Valid) (s : RoundState) (utxo : OutPoint)
    (partialSig : Bytes) (sessionToken : Bytes32) (roundIdStr : String)
    (values : List RegisteredInput) :
    NoPanic (checkSubmission E s config utxo partialSig sessionToken roundIdStr values) :=
  noPanic_okOr.bind fun _ _ => noPanic_require.bind fun _ _ => noPanic_okOr.bind fun _ _ =>
    noPanic_require.bind fun _ _ => (buildRoundPsbt_noPanic hv _ _ _).bind fun psbt _ =>
      noPanic_okOr.bind fun i _ => (verifyInputSignature_noPanic psbt i _ _).mapErr.bind
        fun _ _ => noPanic_ok

theorem assembleFinalTxHex_noPanic (hv : config.Valid) (inner : RoundStateInner)
    (roundIdStr : String) (values : List RegisteredInput) :
    NoPanic (assembleFinalTxHex E inner config roundIdStr values) :=
  ((buildRoundPsbt_noPanic hv _ _ _).bind fun _ _ => noPanic_ofExcept.bind fun _ _ =>
    noPanic_ofExcept).bind fun _ _ => noPanic_ok

theorem processSign_noPanic (hv : config.Valid) (s : RoundState) (utxo : OutPoint)
    (partialSig : Bytes) (sessionToken : Bytes32) (roundIdStr : String) (iter : SignIteration) :
    NoPanic (processSign E s config utxo partialSig sessionToken roundIdStr iter).2 := by
  have hcheck := checkSubmission_noPanic (E := E) hv s utxo partialSig sessionToken roundIdStr
    iter.verify
  rw [processSign]
  split
  · next e he =>
    rw [he] at hcheck
    exact hcheck.error
  · next inner _ =>
    simp only []
    split
    · have hassemble := assembleFinalTxHex_noPanic (E := E) hv (inner.withSig utxo partialSig)
        roundIdStr iter.assemble
      simp only [completeSigning]
      split
      · next e he =>
        rw [he] at hassemble
        exact hassemble.error
      · split
        · exact noPanic_fail
        · exact noPanic_ok
    · exact noPanic_ok

theorem postSignProcess_noPanic (hv : config.Valid) (s : RoundState) (d : DecodedSign)
    (iter : SignIteration) : NoPanic (postSignProcess E config s d iter).2 := by
  rw [postSignProcess]
  split
  · exact noPanic_fail
  · exact (processSign_noPanic hv s d.utxo d.partialSig d.sessionToken _ iter).mapErr

theorem getTx_noPanic (hv : config.Valid) (s : RoundState) (values : List RegisteredInput) :
    NoPanic (getTx E config s values) :=
  noPanic_ofExcept.bind fun _ _ => noPanic_okOr.bind fun _ _ =>
    (buildRoundPsbt_noPanic hv _ _ _).bind fun _ _ =>
      (estimateFeeShare_noPanic hv _ _).bind fun _ _ => noPanic_ok

end Handlers

/-! ### Tasks -/

/-- A task that did not panic. -/
def Task.Alive (t : Task) : Prop := ∀ m, t ≠ .panicked m

section Tasks

variable {s : Coordinator} {c : Choice}

/-- An attempt that does not panic, and whose continuation lives, leaves a task
that lives. -/
theorem attempt_alive {α : Type} {respond : HttpError → Response} {r : Res HttpError α}
    {k : α → Section} (hr : NoPanic r) (hk : ∀ a, r = .ok a → (k a).next.Alive) :
    (attempt s respond r k).next.Alive := by
  rcases r with (e | m) | a
  · exact fun _ h => absurd h (by simp [attempt, proceed])
  · exact absurd rfl (hr m)
  · exact hk a rfl

theorem postInputSection_alive (hv : config.Valid) (hinv : RoundInv config s.round)
    (req : InputRegRequest) (stage : InputStage) :
    (postInputSection E config s req c stage).next.Alive := by
  cases stage with
  | received => exact attempt_alive noPanic_ofExcept fun _ _ => by simp [Task.Alive, proceed]
  | parsed utxo => exact attempt_alive noPanic_ofExcept fun _ _ => by simp [Task.Alive, proceed]
  | decoded utxo blinded proof => simp [Task.Alive, postInputSection, proceed]
  | snapshotted utxo blinded proof snapshot =>
    exact attempt_alive (postInputValidate_noPanic hv _ _ _ _ _) fun _ _ => by
      simp [Task.Alive, proceed]
  | validated utxo blinded proof snapshot details =>
    exact attempt_alive (postInputRegister_noPanic hinv _ _ _ _) fun _ _ => by
      simp [Task.Alive, registeredSection]

theorem postOutputSection_alive (hv : config.Valid) (hinv : RoundInv config s.round)
    (req : OutputRegRequest) (stage : OutputStage) :
    (postOutputSection E config s req stage).next.Alive := by
  cases stage with
  | received =>
    refine attempt_alive (noPanic_ofExcept.bind fun _ _ => postOutputDecode_noPanic hv req)
      fun _ _ => by simp [Task.Alive, proceed]
  | decoded d =>
    exact attempt_alive (postOutputRegister_noPanic hinv _ _) fun _ _ => by
      simp [Task.Alive, redeemedSection]

theorem postSignSection_alive (hv : config.Valid) (req : SignRequest) (stage : SignStage) :
    (postSignSection E config s req c stage).next.Alive := by
  cases stage with
  | received => exact attempt_alive noPanic_ofExcept fun _ _ => by simp [Task.Alive, proceed]
  | decoded d =>
    have hr := postSignProcess_noPanic (E := E) hv s.round d c.iter
    show (submissionNext (postSignProcess E config s.round d c.iter).2).Alive
    rcases hout : (postSignProcess E config s.round d c.iter).2 with (e | m) | (_ | prepared)
    · simp [Task.Alive, submissionNext]
    · exact absurd hout (hr m)
    · simp [Task.Alive, submissionNext]
    · simp [Task.Alive, submissionNext]

/-- **No section panics**, under the invariant. -/
theorem taskSection_alive (hv : config.Valid) (hinv : RoundInv config s.round) {t : Task}
    {e : Section} (h : taskSection E config s c t = some e) : e.next.Alive := by
  cases t with
  | postInput req stage =>
    obtain rfl := Option.some.inj h
    exact postInputSection_alive hv hinv req stage
  | postOutput req stage =>
    obtain rfl := Option.some.inj h
    exact postOutputSection_alive hv hinv req stage
  | postSign req stage =>
    obtain rfl := Option.some.inj h
    exact postSignSection_alive hv req stage
  | getTx =>
    obtain rfl := Option.some.inj h
    exact attempt_alive (getTx_noPanic hv _ _) fun _ _ => by simp [Task.Alive, proceed]
  | monitor =>
    obtain rfl := Option.some.inj h
    simp [Task.Alive, monitorSection_acts.next]
  | timer roundId phase =>
    obtain rfl := Option.some.inj h
    simp [Task.Alive, timerSection_next]
  | finalize roundId prepared stage =>
    obtain rfl := Option.some.inj h
    rcases finalizeSection_next roundId prepared stage with ⟨stage', hnext⟩ | ⟨r, hnext⟩
    · rw [hnext]
      simp [Task.Alive]
    · rw [hnext]
      simp [Task.Alive]
  | relay txHex =>
    obtain rfl := Option.some.inj h
    simp [Task.Alive, proceed]
  | evict txHex =>
    obtain rfl := Option.some.inj h
    simp [Task.Alive, proceed]
  | answered r => exact absurd h (by simp [taskSection])
  | finalized r => exact absurd h (by simp [taskSection])
  | finished => exact absurd h (by simp [taskSection])
  | panicked m => exact absurd h (by simp [taskSection])

end Tasks

/-! ### Every reachable world -/

variable {fresh : Uuid} {banList : BanList} {ok : Coordinator → Task → Choice → Prop}
  {w : World Coordinator Task Event}

/-- **The invariant holds in every reachable world.** -/
theorem roundInv_of_reachable (hv : config.Valid)
    (hr : ReachableVia (coordinator E config) ok (startup fresh banList) w) :
    RoundInv config w.shared.round :=
  (roundRun_of_reachable hr).roundInv hv

/-- **No task of a reachable world has panicked.** -/
theorem alive_of_reachable (hv : config.Valid)
    (hr : ReachableVia (coordinator E config) ok (startup fresh banList) w) :
    ∀ t ∈ w.threads, t.Alive := by
  refine hr.threads (fun _ t => t.Alive) (fun t ht => ?_) (fun {_ t} ha m hm => ?_)
    (fun _ _ _ hu => hu) (fun {w t c e} hw _ _ _ he => ⟨?_, fun u hu => ?_⟩)
  · obtain rfl := List.mem_singleton.mp ht
    simp [Task.Alive]
  · subst hm
    exact absurd ha (by simp [coordinator, Task.arrives])
  · obtain ⟨_, e', he', rfl⟩ := exec_eq_some he
    have hnext : e'.next.Alive := taskSection_alive hv (roundInv_of_reachable hv hw) he'
    exact hnext
  · rcases exec_spawned he hu with ⟨roundId, phase, rfl⟩ | ⟨roundId, prepared, rfl⟩
    · simp [Task.Alive]
    · simp [Task.Alive]

/-- **What holds between any two sections**, whatever ran before: the round
satisfies its invariant, and no task has panicked. -/
theorem roundInv_and_noPanic (hvalid : config.validate = .ok ())
    (hr : Reachable (coordinator E config) (startup fresh banList) w) :
    RoundInv config w.shared.round ∧ ∀ m, Task.panicked m ∉ w.threads := by
  have hv := CoordinatorConfig.valid_of_validate hvalid
  exact ⟨roundInv_of_reachable hv hr, fun m hm => alive_of_reachable hv hr _ hm m rfl⟩

theorem roundInv_and_noPanic_session :
    (worldAfter signingMoves).shared.round.phase = .signing ∧
    RoundInv configOfTwo (worldAfter signingMoves).shared.round ∧
    ∀ m, Task.panicked m ∉ (worldAfter signingMoves).threads :=
  ⟨signing_reached, roundInv_and_noPanic configOfTwo_validate (worldAfter_reachable signingMoves)⟩

end Blindjoin
