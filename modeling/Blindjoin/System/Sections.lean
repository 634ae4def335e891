import Blindjoin.System.RoundStep

/-!
# What the sections of the tasks do

Most sections only go on; those that touch the shared state or the log are
listed in `Blindjoin.Acts`. **Every section is a step of the round**
(`Blindjoin.exec_roundStep`), so the round of a reachable world ran from step to
step (`Blindjoin.roundRun_of_reachable`), and what is proved of every
`Blindjoin.RoundRun` holds under every interleaving.

A registration and an output are validated before the lock is taken. That the
validation was made is a property of the task that carries its result
(`Blindjoin.Task.Sound`), kept by every section
(`Blindjoin.sound_of_reachable`).
-/

namespace Blindjoin

open Interleaving Collections

/-! ### The sections that do something -/

/-- The sections that touch the shared state or the log, task by task. -/
inductive Acts (E : Externals) (config : CoordinatorConfig) (s : Coordinator) (c : Choice) :
    Task → Section → Prop
  | register {req : InputRegRequest} {utxo : OutPoint} {blindedToken : Bytes}
      {proof : OwnershipProof} {snapshot : InputSnapshot} {details : UtxoDetails}
      {round : RoundState} {result : InputRegResult}
      (h : postInputRegister E config s.round req utxo blindedToken details =
        .ok (round, result)) :
      Acts E config s c (.postInput req (.validated utxo blindedToken proof snapshot details))
        (registeredSection E s req utxo blindedToken proof snapshot details round result)
  | redeem {req : OutputRegRequest} {d : DecodedOutput} {round : RoundState}
      (h : postOutputRegister E config s.round req d = .ok round) :
      Acts E config s c (.postOutput req (.decoded d)) (redeemedSection s req d round)
  | sign {req : SignRequest} {d : DecodedSign} {round : RoundState}
      {outcome : Res HttpError SignOutcome}
      (h : postSignProcess E config s.round d c.iter = (round, outcome)) :
      Acts E config s c (.postSign req (.decoded d)) (processedSection s d round outcome)
  | monitor : Acts E config s c .monitor (monitorSection E s c)
  | timer {roundId : Uuid} {phase : Phase} :
      Acts E config s c (.timer roundId phase) (timerSection E config s roundId c phase)
  | send {roundId : Uuid} {prepared : PreparedBroadcast} {node : Node} {stage : FinalizeStage}
      (h : node = s.node ∨ node = s.node.take prepared.txHex) :
      Acts E config s c (.finalize roundId prepared .sending)
        (proceed { s with node := node } (.finalize roundId prepared stage))
  | succeeded {roundId : Uuid} {prepared : PreparedBroadcast} {txid : String} :
      Acts E config s c (.finalize roundId prepared (.succeeded txid))
        (finalizeSection E config s roundId prepared c (.succeeded txid))
  | failed {roundId : Uuid} {prepared : PreparedBroadcast} {m : String} {banned : List String} :
      Acts E config s c (.finalize roundId prepared (.failed m banned))
        (finalizeSection E config s roundId prepared c (.failed m banned))
  | relay {txHex : String} :
      Acts E config s c (.relay txHex) (proceed { s with node := s.node.take txHex } .finished)
  | evict {txHex : String} :
      Acts E config s c (.evict txHex) (proceed { s with node := s.node.drop txHex } .finished)

section Sections

variable {s : Coordinator} {c : Choice}

/-- An attempt that only goes on does nothing. -/
theorem exists_attempt_eq_proceed {α : Type} {respond : HttpError → Response}
    {r : Res HttpError α} {k : α → Task} :
    ∃ next, attempt s respond r (fun a => proceed s (k a)) = proceed s next := by
  rcases r with (e | m) | a
  · exact ⟨_, rfl⟩
  · exact ⟨_, rfl⟩
  · exact ⟨_, rfl⟩

/-- An attempt does nothing but go on, or is its continuation. -/
theorem attempt_acts {α : Type} {respond : HttpError → Response} {r : Res HttpError α}
    {k : α → Section} {t : Task} (hk : ∀ a, r = .ok a → Acts E config s c t (k a)) :
    (∃ next, attempt s respond r k = proceed s next) ∨
      Acts E config s c t (attempt s respond r k) := by
  rcases r with (e | m) | a
  · exact Or.inl ⟨_, rfl⟩
  · exact Or.inl ⟨_, rfl⟩
  · exact Or.inr (hk a rfl)

/-- A timer fires once. -/
theorem timerSection_next (roundId : Uuid) (phase : Phase) :
    (timerSection E config s roundId c phase).next = .finished := by
  cases phase with
  | signing =>
    rw [timerSection]
    split
    · rfl
    · rfl
  | _ => rfl

/-- The end of a broadcast goes on as itself, or has ended. -/
theorem finalizeSection_next (roundId : Uuid) (prepared : PreparedBroadcast)
    (stage : FinalizeStage) :
    (∃ stage', (finalizeSection E config s roundId prepared c stage).next =
      .finalize roundId prepared stage') ∨
    ∃ r, (finalizeSection E config s roundId prepared c stage).next = .finalized r := by
  cases stage with
  | testing => exact Or.inl ⟨_, rfl⟩
  | sending => exact Or.inl ⟨_, rfl⟩
  | revalidating m loop => exact Or.inl ⟨_, rfl⟩
  | succeeded txid => exact Or.inr ⟨_, rfl⟩
  | failed m banned => exact Or.inr ⟨_, rfl⟩

/-- **A section does nothing but go on, or is one of those that act.** -/
theorem taskSection_cases {t : Task} {e : Section} (hsec : taskSection E config s c t = some e) :
    (∃ next, e = proceed s next) ∨ Acts E config s c t e := by
  cases t with
  | postInput req stage =>
    obtain rfl := Option.some.inj hsec
    cases stage with
    | received => exact Or.inl exists_attempt_eq_proceed
    | parsed utxo => exact Or.inl exists_attempt_eq_proceed
    | decoded utxo blinded proof => exact Or.inl ⟨_, rfl⟩
    | snapshotted utxo blinded proof snapshot => exact Or.inl exists_attempt_eq_proceed
    | validated utxo blinded proof snapshot details =>
      -- every stage before this one works without the write lock
      exact attempt_acts fun _ hr => .register hr
  | postOutput req stage =>
    obtain rfl := Option.some.inj hsec
    cases stage with
    | received => exact Or.inl exists_attempt_eq_proceed
    | decoded d =>
      exact attempt_acts fun _ hr => .redeem hr
  | postSign req stage =>
    obtain rfl := Option.some.inj hsec
    cases stage with
    | received => exact Or.inl exists_attempt_eq_proceed
    | decoded d => exact Or.inr (.sign rfl)
  | getTx =>
    obtain rfl := Option.some.inj hsec
    exact Or.inl exists_attempt_eq_proceed
  | monitor =>
    obtain rfl := Option.some.inj hsec
    exact Or.inr .monitor
  | timer roundId phase =>
    obtain rfl := Option.some.inj hsec
    exact Or.inr .timer
  | finalize roundId prepared stage =>
    obtain rfl := Option.some.inj hsec
    cases stage with
    | testing => exact Or.inl ⟨_, rfl⟩
    | sending =>
      refine Or.inr (.send ?_)
      split
      · exact Or.inr rfl
      · exact Or.inl rfl
    | revalidating m loop => exact Or.inl ⟨_, rfl⟩
    | succeeded txid => exact Or.inr .succeeded
    | failed m banned => exact Or.inr .failed
  | relay txHex =>
    obtain rfl := Option.some.inj hsec
    exact Or.inr .relay
  | evict txHex =>
    obtain rfl := Option.some.inj hsec
    exact Or.inr .evict
  | answered r => exact absurd hsec (by simp [taskSection])
  | finalized r => exact absurd hsec (by simp [taskSection])
  | finished => exact absurd hsec (by simp [taskSection])
  | panicked m => exact absurd hsec (by simp [taskSection])

/-! ### The monitor -/

/-- The entries the monitor writes about itself, but for a timer it armed. -/
def Event.note : Event → Bool
  | .observed _ _ => true
  | .startAttempted _ => true
  | .clock _ => true
  | .round _ => false
  | .armed _ _ => false

theorem roundEvents_of_note {es : List Event} (hes : ∀ ev ∈ es, ev.note = true) :
    roundEvents es = [] := by
  refine List.filterMap_eq_nil_iff.mpr fun ev hev => ?_
  have hnote := hes ev hev
  cases ev with
  | round e => exact absurd hnote (by simp [Event.note])
  | _ => rfl

/-- What one section of the monitor does, as the others see it: it only moves on
itself, it arms the timer of the phase it reads, or it starts the idle round. -/
inductive MonitorActs (s : Coordinator) : Section → Prop
  | moves (monitor : Monitor) (events : List Event) (hes : ∀ ev ∈ events, ev.note = true) :
      MonitorActs s
        { shared := { s with monitor := monitor }, next := .monitor, events := events }
  | arms :
      MonitorActs s {
        shared := { s with monitor := s.monitor.arm s.round.roundId s.round.phase }
        next := .monitor
        spawned := [.timer s.round.roundId s.round.phase]
        events := [.armed s.round.roundId s.round.phase,
          .observed s.round.roundId s.round.phase] }
  | installs (hidle : s.round.phase = .idle) (material : RoundMaterial) (monitor : Monitor) :
      MonitorActs s {
        shared := { s with
          round := { s.round.withMaterial material with phase := .inputReg }
          monitor := monitor }
        next := .monitor
        events := [.round (.installed s.round.roundId material)] }

/-- **A section of the monitor is one of these three.** -/
theorem monitorSection_acts : MonitorActs s (monitorSection E s c) := by
  simp only [monitorSection]
  split
  · split
    · exact .moves _ _ (by simp [Event.note])
    · split
      · exact .arms
      · exact .moves s.monitor _ (by simp [Event.note])
  · split
    · exact .moves _ _ (by simp [Event.note])
    · exact .moves _ _ (by simp [Event.note])
  · split
    · exact .moves _ _ (by simp)
    · exact .moves _ _ (by simp)
  · next roundId material _ =>
    split
    · exact .moves _ _ (by simp)
    · next hguard =>
      -- the guard was read again under the lock, so that `installRound` succeeds
      rw [not_or, not_not, not_not] at hguard
      obtain ⟨hidle, rfl⟩ := hguard
      simp only [installRound_of_idle hidle]
      exact .installs hidle material _

/-- The monitor goes on for ever. -/
theorem MonitorActs.next {e : Section} (h : MonitorActs s e) : e.next = .monitor := by
  cases h with
  | moves monitor events hes => rfl
  | arms => rfl
  | installs hidle material monitor => rfl

/-! ### What a task carries -/

/-- What is known of a task in progress: what it validated before it takes the
write lock. -/
def Task.Sound (E : Externals) (config : CoordinatorConfig) : Task → Prop
  | .postInput req (.validated utxo _ proof snapshot details) =>
    Validated E config utxo req.changeAddress proof snapshot.roundId details
  | .postOutput req (.decoded d) => ParsesTo E config req.outputAddress d.outputScript
  | _ => True

/-- An attempt whose continuation is sound is sound. -/
theorem attempt_sound {α : Type} {respond : HttpError → Response} {r : Res HttpError α}
    {k : α → Section} (hk : ∀ a, r = .ok a → (k a).next.Sound E config) :
    (attempt s respond r k).next.Sound E config := by
  rcases r with (e | m) | a
  · exact trivial
  · exact trivial
  · exact hk a rfl

/-- A request section hands on what it validated. -/
theorem postInputSection_sound {req : InputRegRequest} (stage : InputStage) :
    (postInputSection E config s req c stage).next.Sound E config := by
  cases stage with
  | received => exact attempt_sound fun _ _ => trivial
  | parsed utxo => exact attempt_sound fun _ _ => trivial
  | decoded utxo blinded proof => exact trivial
  | snapshotted utxo blinded proof snapshot =>
    exact attempt_sound fun details hd => postInputValidate_eq_ok hd
  | validated utxo blinded proof snapshot details => exact attempt_sound fun _ _ => trivial

theorem postOutputSection_sound {req : OutputRegRequest} (stage : OutputStage) :
    (postOutputSection E config s req stage).next.Sound E config := by
  cases stage with
  | received =>
    refine attempt_sound fun d hd => ?_
    obtain ⟨_, -, hd⟩ := bind_eq_ok.mp hd
    exact postOutputDecode_eq_ok hd
  | decoded d => exact attempt_sound fun _ _ => trivial

/-! ### Every section is a step -/

@[simp] theorem roundEvents_cons_round (e : RoundEvent) (es : List Event) :
    roundEvents (.round e :: es) = e :: roundEvents es := rfl

theorem mem_roundEvents {e : RoundEvent} {es : List Event} :
    e ∈ roundEvents es ↔ .round e ∈ es :=
  mem_filterMap_iff fun ev e => by cases ev <;> simp [Event.round?]

theorem RoundState.hasSig_withSig (round : RoundState) (inner : RoundStateInner) (utxo : OutPoint)
    (partialSig : Bytes) (phase : Phase) :
    RoundState.hasSig
      { round with phase := phase, inner := some (inner.withSig utxo partialSig) } utxo = true := by
  simp [RoundState.hasSig, RoundStateInner.withSig]

/-- **What a submission does**: nothing, and it is refused; it records the
signature; or it records the last one and moves on to the broadcast. -/
theorem postSignProcess_cases {d : DecodedSign} {round : RoundState}
    {outcome : Res HttpError SignOutcome}
    (h : postSignProcess E config s.round d c.iter = (round, outcome)) :
    (round = s.round ∧ ∃ e, outcome = .error e) ∨
    (s.round.phase = .signing ∧ ∃ inner,
      Submissible E s.round config d.utxo d.partialSig d.sessionToken s.round.roundId.toText
        c.iter.verify inner ∧
      round = { s.round with inner := some (inner.withSig d.utxo d.partialSig) } ∧
      ∀ prepared, outcome ≠ .ok (.readyToBroadcast prepared)) ∨
    (s.round.phase = .signing ∧ ∃ inner prepared,
      Submissible E s.round config d.utxo d.partialSig d.sessionToken s.round.roundId.toText
        c.iter.verify inner ∧
      Completes E s.round config s.round.roundId.toText c.iter
        (inner.withSig d.utxo d.partialSig) prepared ∧
      round = { s.round with
        phase := .broadcast
        inner := some (inner.withSig d.utxo d.partialSig) } ∧
      outcome = .ok (.readyToBroadcast prepared)) := by
  rw [postSignProcess] at h
  split at h
  · obtain ⟨rfl, rfl⟩ := Prod.mk.inj h
    exact Or.inl ⟨rfl, _, rfl⟩
  · next hcheck =>
    have hphase := checkPhase_eq_ok.mp hcheck
    rcases processSign_cases E config d.utxo d.partialSig d.sessionToken s.round.roundId.toText
        c.iter hphase with
      ⟨e, hsign⟩ | ⟨inner, hsub, out, hout, hsign⟩ | ⟨inner, hsub, prepared, hdone, hsign⟩
    · simp only [hsign] at h
      obtain ⟨rfl, rfl⟩ := Prod.mk.inj h
      -- an error or a panic leaves the round as it was
      rcases e with e | m
      · exact Or.inl ⟨rfl, _, rfl⟩
      · exact Or.inl ⟨rfl, _, rfl⟩
    · simp only [hsign] at h
      obtain ⟨rfl, rfl⟩ := Prod.mk.inj h
      exact Or.inr (Or.inl ⟨hphase, inner, hsub, rfl, fun prepared hready =>
        hout prepared (mapErr_eq_ok.mp hready)⟩)
    · simp only [hsign] at h
      obtain ⟨rfl, rfl⟩ := Prod.mk.inj h
      exact Or.inr (Or.inr ⟨hphase, inner, prepared, hsub, hdone, rfl, rfl⟩)

/-- The event of a submission that records its signature. -/
theorem submissionEvents_of_submissible {d : DecodedSign} {phase : Phase}
    {inner : RoundStateInner} (outcome : Res HttpError SignOutcome)
    (hsub : Submissible E s.round config d.utxo d.partialSig d.sessionToken s.round.roundId.toText
      c.iter.verify inner) :
    submissionEvents s.round
        { s.round with phase := phase, inner := some (inner.withSig d.utxo d.partialSig) } d
        outcome =
      [.round (.sigRecorded ⟨s.round.roundId, d.utxo, d.partialSig, d.sessionToken, outcome⟩)] := by
  have hbefore : s.round.hasSig d.utxo = false := by
    simp [RoundState.hasSig, hsub.inner_eq, hsub.fresh]
  exact if_pos ⟨hbefore, s.round.hasSig_withSig inner d.utxo d.partialSig phase⟩

/-- **A submission is a step.** -/
theorem postSignProcess_roundStep {d : DecodedSign} {round : RoundState}
    {outcome : Res HttpError SignOutcome} (fresh : Uuid)
    (hiter : ∀ inner ∈ s.round.inner, c.iter.Of inner)
    (h : postSignProcess E config s.round d c.iter = (round, outcome)) :
    RoundStep E config fresh s.round (roundEvents (submissionEvents s.round round d outcome))
      round := by
  rcases postSignProcess_cases h with ⟨rfl, -⟩ | ⟨hphase, inner, hsub, rfl, hout⟩ |
    ⟨hphase, inner, prepared, hsub, hdone, rfl, rfl⟩
  · simpa [submissionEvents] using .unchanged
  · rw [submissionEvents_of_submissible outcome hsub]
    exact .recordSig hphase (hiter inner hsub.inner_eq) rfl hsub hout
  · rw [submissionEvents_of_submissible _ hsub]
    exact .complete hphase (hiter inner hsub.inner_eq) rfl hsub rfl hdone

/-- **What the signing timer does**, when the round is the one in this phase. -/
theorem signingTimer_eq_some {app app' : AppState} {roundId : Uuid} {banned : List String}
    (h : signingTimer E config app roundId c = some (app', banned)) :
    app.round.roundId = roundId ∧ app.round.phase = .signing ∧
    banned = app.round.nonSigners c.keys ∧ app'.round = RoundState.newIdle c.fresh ∧
    app'.banList = app.banList.banAll E banned c.now config.coordinator.blameBanDurationSecs := by
  rw [signingTimer] at h
  split at h
  · exact absurd h (by simp)
  · next hguard =>
    rw [not_or, not_not, not_not] at hguard
    obtain ⟨happ, rfl⟩ := Prod.mk.inj (Option.some.inj h)
    have hidle : (app.round.tryTransitionTo .blame c.fresh).tryTransitionTo .idle c.fresh =
        .newIdle c.fresh := RoundState.tryTransitionTo_blame_idle (by rw [hguard.2]; rfl)
    refine ⟨hguard.1, hguard.2, rfl, ?_⟩
    rw [onSigningTimeout] at happ
    split at happ
    · subst happ
      exact ⟨hidle, rfl⟩
    · subst happ
      exact ⟨hidle, rfl⟩

/-- A submission that succeeds recorded its signature. -/
theorem submissionEvents_of_ok {d : DecodedSign} {round : RoundState} {outcome : SignOutcome}
    (h : postSignProcess E config s.round d c.iter = (round, .ok outcome)) :
    submissionEvents s.round round d (.ok outcome) =
      [.round (.sigRecorded ⟨s.round.roundId, d.utxo, d.partialSig, d.sessionToken,
        .ok outcome⟩)] := by
  rcases postSignProcess_cases h with ⟨-, e, he⟩ | ⟨-, inner, hsub, rfl, -⟩ |
    ⟨-, inner, prepared, hsub, -, rfl, -⟩
  · exact absurd he (by simp)
  · exact submissionEvents_of_submissible _ hsub
  · exact submissionEvents_of_submissible _ hsub

/-- **A timer is a step.** -/
theorem timerSection_roundStep (roundId : Uuid) (phase : Phase)
    (hiter : s.round.IteratesKeys c.keys) :
    RoundStep E config c.fresh s.round
      (roundEvents (timerSection E config s roundId c phase).events)
      (timerSection E config s roundId c phase).shared.round := by
  cases phase with
  | inputReg =>
    show RoundStep E config c.fresh s.round [] (inputRegTimer config s.round roundId c.fresh)
    rw [inputRegTimer]
    split
    · exact .unchanged
    · next hguard =>
      rw [not_or, not_not, not_not] at hguard
      have hedge : ∀ next, Phase.inputReg.canTransitionTo next = true →
          s.round.phase.canTransitionTo next = true := fun next h => by rw [hguard.2]; exact h
      split
      · next hquorum =>
        -- with enough inputs the round goes on, with too few it ends
        rw [RoundState.tryTransitionTo_of_edge (hedge _ rfl) (by decide)]
        exact .inputDeadline hguard.2 hquorum
      · next hfew =>
        rw [RoundState.tryTransitionTo_idle (hedge _ rfl)]
        exact .finish (.tooFewInputs hguard.2 (by omega))
  | outputReg =>
    show RoundStep E config c.fresh s.round [] (outputRegTimer s.round roundId c.fresh)
    rw [outputRegTimer]
    split
    · next hguard =>
      have hedge : ∀ next, Phase.outputReg.canTransitionTo next = true →
          s.round.phase.canTransitionTo next = true := fun next h => by rw [hguard.2]; exact h
      rw [onOutputRegTimeout]
      split
      · next hmiss =>
        -- blame and idle in one section: no other task sees the phase between
        rw [RoundState.tryTransitionTo_blame_idle (hedge _ rfl)]
        exact .finish (.missingOutputs hguard.2 hmiss)
      · next hall =>
        rw [RoundState.tryTransitionTo_of_edge (hedge _ rfl) (by decide)]
        exact .outputDeadline hguard.2 (by simpa using hall)
    · exact .unchanged
  | signing =>
    rw [timerSection]
    split
    · exact .unchanged
    · next app banned htimer =>
      obtain ⟨hid, hphase, rfl, hround, -⟩ := signingTimer_eq_some htimer
      simp only [hround, ← hid]
      exact .finish (.signingDeadline hphase hiter)
  | broadcast =>
    show RoundStep E config c.fresh s.round [] (broadcastWatchdogForceIdle s.round roundId c.fresh)
    rw [broadcastWatchdogForceIdle]
    split
    · next hguard =>
      rw [RoundState.tryTransitionTo_idle (by rw [hguard.2]; rfl)]
      exact .finish (.watchdog hguard.2)
    · exact .unchanged
  | idle => exact .unchanged
  | blame => exact .unchanged

/-- **The end of a broadcast is a step.** -/
theorem finalizeSection_roundStep (roundId : Uuid) (prepared : PreparedBroadcast)
    (stage : FinalizeStage) :
    RoundStep E config c.fresh s.round
      (roundEvents (finalizeSection E config s roundId prepared c stage).events)
      (finalizeSection E config s roundId prepared c stage).shared.round := by
  cases stage with
  | testing => exact .unchanged
  | sending => exact .unchanged
  | revalidating m loop => exact .unchanged
  | succeeded txid =>
    simp only [finalizeSection]
    by_cases hguard : s.round.roundId = roundId ∧ s.round.phase = .broadcast
    · simp only [round_finalizeSuccess hguard, if_pos hguard]
      obtain ⟨rfl, hphase⟩ := hguard
      exact .finish (.broadcastSucceeded hphase)
    -- a broadcast of an earlier round leaves this one alone
    · simp only [finalizeSuccess_stale hguard, if_neg hguard]
      exact .unchanged
  | failed m banned =>
    simp only [finalizeSection]
    by_cases hguard : s.round.roundId = roundId ∧ s.round.phase = .broadcast
    · simp only [round_finalizeFailure hguard, if_pos hguard]
      obtain ⟨rfl, hphase⟩ := hguard
      exact .finish (.broadcastFailed hphase banned)
    · simp only [finalizeFailure_stale hguard, if_neg hguard]
      exact .unchanged

/-- **The monitor is a step.** -/
theorem MonitorActs.roundStep {e : Section} (h : MonitorActs s e) (fresh : Uuid) :
    RoundStep E config fresh s.round (roundEvents e.events) e.shared.round := by
  cases h with
  | moves monitor events hes =>
    rw [roundEvents_of_note hes]
    exact .unchanged
  | arms => exact .unchanged
  | installs hidle material monitor => exact .install hidle material

/-- **A section that acts is a step.** -/
theorem Acts.roundStep {t : Task} {e : Section} (h : Acts E config s c t e)
    (hiter : c.Iterates s.round t) (ht : t.Sound E config) :
    RoundStep E config c.fresh s.round (roundEvents e.events) e.shared.round := by
  cases h with
  | register h =>
    obtain ⟨inner, hreg, rfl⟩ := postInputRegister_eq_ok h ht
    exact .registerInput hreg
  | redeem h =>
    obtain ⟨inner, hred, rfl⟩ := postOutputRegister_eq_ok h ht
    exact .registerOutput hred
  | sign h => exact postSignProcess_roundStep c.fresh hiter h
  | monitor => exact monitorSection_acts.roundStep c.fresh
  | timer => exact timerSection_roundStep _ _ hiter
  | send h => exact .unchanged
  | succeeded => exact finalizeSection_roundStep _ _ _
  | failed => exact finalizeSection_roundStep _ _ _
  | relay => exact .unchanged
  | evict => exact .unchanged

/-- A section without the log entries that every section has. -/
theorem exec_eq_some {t : Task} {e : Section} (h : exec E config s t c = some e) :
    c.Iterates s.round t ∧ ∃ e', taskSection E config s c t = some e' ∧
      e = { e' with
        events := (phaseEvents s.round e'.shared.round c.fresh).map .round ++ e'.events } := by
  rw [exec] at h
  split at h
  · next hiter =>
    obtain ⟨e', he', rfl⟩ := Option.map_eq_some_iff.mp h
    exact ⟨hiter, e', he', rfl⟩
  · exact absurd h (by simp)

theorem roundEvents_map_round (es : List RoundEvent) : roundEvents (es.map .round) = es := by
  induction es with
  | nil => rfl
  | cons e es ih => rw [List.map_cons, roundEvents_cons_round, ih]

/-- **Every section is a step of the round.** -/
theorem exec_roundStep {t : Task} {e : Section} (h : exec E config s t c = some e)
    (ht : t.Sound E config) :
    ∃ es, RoundStep E config c.fresh s.round es e.shared.round ∧
      roundEvents e.events = phaseEvents s.round e.shared.round c.fresh ++ es := by
  obtain ⟨hiter, e', he', rfl⟩ := exec_eq_some h
  refine ⟨roundEvents e'.events, ?_, by rw [roundEvents_append, roundEvents_map_round]⟩
  rcases taskSection_cases he' with ⟨next, rfl⟩ | hacts
  · exact .unchanged
  · exact hacts.roundStep hiter ht

/-! ### The events of a section -/

/-- What a task tells about the round, and what it did when it does. -/
inductive Emits (E : Externals) (config : CoordinatorConfig) (s : Coordinator) (c : Choice) :
    Task → RoundEvent → Prop
  | inputRegistered {req : InputRegRequest} {utxo : OutPoint} {blindedToken : Bytes}
      {proof : OwnershipProof} {snapshot : InputSnapshot} {details : UtxoDetails}
      {round : RoundState} {result : InputRegResult}
      (h : postInputRegister E config s.round req utxo blindedToken details =
        .ok (round, result)) :
      Emits E config s c (.postInput req (.validated utxo blindedToken proof snapshot details))
        (.inputRegistered ⟨s.round.roundId, utxo, req.changeAddress, proof, snapshot.roundId,
          details, blindedToken, result.blindSignature, result.sessionToken⟩)
  | outputRegistered {req : OutputRegRequest} {d : DecodedOutput} {round : RoundState}
      (h : postOutputRegister E config s.round req d = .ok round) :
      Emits E config s c (.postOutput req (.decoded d))
        (.outputRegistered ⟨s.round.roundId, d.tokenMsg, d.sigBytes, d.msgRandomizer,
          d.outputScript, ⟨req.outputAddress, req.amountSats⟩⟩)
  | sigRecorded {req : SignRequest} {d : DecodedSign} {round : RoundState}
      {outcome : Res HttpError SignOutcome}
      (h : postSignProcess E config s.round d c.iter = (round, outcome)) :
      Emits E config s c (.postSign req (.decoded d))
        (.sigRecorded ⟨s.round.roundId, d.utxo, d.partialSig, d.sessionToken, outcome⟩)
  | installed {material : RoundMaterial} (hidle : s.round.phase = .idle) :
      Emits E config s c .monitor (.installed s.round.roundId material)
  | signingTimedOut {roundId : Uuid} {app : AppState} {banned : List String}
      (h : signingTimer E config s.toAppState roundId c = some (app, banned)) :
      Emits E config s c (.timer roundId .signing) (.signingTimedOut roundId banned)
  | broadcastSucceeded {roundId : Uuid} {prepared : PreparedBroadcast} {txid : String} :
      Emits E config s c (.finalize roundId prepared (.succeeded txid))
        (.broadcastSucceeded roundId)
  | broadcastFailed {roundId : Uuid} {prepared : PreparedBroadcast} {m : String}
      {banned : List String} :
      Emits E config s c (.finalize roundId prepared (.failed m banned))
        (.broadcastFailed roundId banned)

/-- What a submission logs: that its signature was recorded. -/
theorem mem_submissionEvents {d : DecodedSign} {round : RoundState}
    {outcome : Res HttpError SignOutcome} {ev : Event}
    (hev : ev ∈ submissionEvents s.round round d outcome) :
    ev = .round
      (.sigRecorded ⟨s.round.roundId, d.utxo, d.partialSig, d.sessionToken, outcome⟩) := by
  rw [submissionEvents] at hev
  split at hev
  · exact List.mem_singleton.mp hev
  · exact absurd hev List.not_mem_nil

/-- **What other tasks than the monitor log**: what happened to the round, and the
times they read. -/
theorem Acts.mem_events {t : Task} {e : Section} {ev : Event} (h : Acts E config s c t e)
    (ht : t ≠ .monitor) (hev : ev ∈ e.events) :
    (∃ r, ev = .round r) ∨ ∃ now, ev = .clock now := by
  cases h with
  | register h => exact Or.inl ⟨_, List.mem_singleton.mp hev⟩
  | redeem h => exact Or.inl ⟨_, List.mem_singleton.mp hev⟩
  | sign h => exact Or.inl ⟨_, mem_submissionEvents hev⟩
  | monitor => exact absurd rfl ht
  | @timer roundId phase =>
    cases phase with
    | signing =>
      simp only [timerSection] at hev
      split at hev
      · exact absurd hev List.not_mem_nil
      · simp only [List.mem_cons, List.not_mem_nil, or_false] at hev
        rcases hev with rfl | rfl | rfl
        · exact Or.inl ⟨_, rfl⟩
        · exact Or.inr ⟨_, rfl⟩
        · exact Or.inr ⟨_, rfl⟩
    | _ => exact absurd hev List.not_mem_nil
  | send h => exact absurd hev List.not_mem_nil
  | succeeded =>
    simp only [finalizeSection] at hev
    split at hev
    · exact Or.inl ⟨_, List.mem_singleton.mp hev⟩
    · exact absurd hev List.not_mem_nil
  | failed =>
    simp only [finalizeSection] at hev
    split at hev
    · rcases List.mem_pair.mp hev with rfl | rfl
      · exact Or.inl ⟨_, rfl⟩
      · exact Or.inr ⟨_, rfl⟩
    · exact absurd hev List.not_mem_nil
  | relay => exact absurd hev List.not_mem_nil
  | evict => exact absurd hev List.not_mem_nil

variable {ev : RoundEvent}

theorem MonitorActs.emits {e : Section} (h : MonitorActs s e) (hev : ev ∈ roundEvents e.events) :
    Emits E config s c .monitor ev := by
  cases h with
  | moves monitor events hes =>
    rw [roundEvents_of_note hes] at hev
    exact absurd hev List.not_mem_nil
  | arms => exact absurd hev List.not_mem_nil
  | installs hidle material monitor =>
    obtain rfl := List.mem_singleton.mp hev
    exact .installed hidle

/-- **A section that acts tells what it did.** -/
theorem Acts.emits {t : Task} {e : Section} (h : Acts E config s c t e)
    (hev : ev ∈ roundEvents e.events) : Emits E config s c t ev := by
  cases h with
  | register h =>
    obtain rfl := List.mem_singleton.mp hev
    exact .inputRegistered h
  | redeem h =>
    obtain rfl := List.mem_singleton.mp hev
    exact .outputRegistered h
  | sign h =>
    obtain rfl := Event.round.inj (mem_submissionEvents (mem_roundEvents.mp hev))
    exact .sigRecorded h
  | monitor => exact monitorSection_acts.emits hev
  | @timer roundId phase =>
    cases phase with
    | signing =>
      simp only [timerSection] at hev
      split at hev
      · exact absurd hev (by simp [proceed])
      · next app banned htimer =>
        obtain rfl := List.mem_singleton.mp hev
        exact .signingTimedOut htimer
    | _ => exact absurd hev (by simp [timerSection, proceed])
  | send h => exact absurd hev (by simp [proceed])
  | succeeded =>
    simp only [finalizeSection] at hev
    split at hev
    · obtain rfl := List.mem_singleton.mp hev
      exact .broadcastSucceeded
    · exact absurd hev (by simp)
  | failed =>
    simp only [finalizeSection] at hev
    split at hev
    · obtain rfl := List.mem_singleton.mp hev
      exact .broadcastFailed
    · exact absurd hev (by simp)
  | relay => exact absurd hev (by simp [proceed])
  | evict => exact absurd hev (by simp [proceed])

/-! ### What a section spawns and hands on -/

/-- The monitor spawns the timer of the phase it reads. -/
theorem MonitorActs.spawned {u : Task} {e : Section} (h : MonitorActs s e) (hu : u ∈ e.spawned) :
    u = .timer s.round.roundId s.round.phase := by
  cases h with
  | moves monitor events hes => exact absurd hu List.not_mem_nil
  | arms => exact List.mem_singleton.mp hu
  | installs hidle material monitor => exact absurd hu List.not_mem_nil

/-- **A section spawns** the timer of a phase, or the end of a broadcast. -/
theorem Acts.spawned {t u : Task} {e : Section} (h : Acts E config s c t e) (hu : u ∈ e.spawned) :
    (∃ roundId phase, u = .timer roundId phase) ∨
      ∃ roundId prepared, u = .finalize roundId prepared .testing := by
  cases h with
  | register h => exact absurd hu (by simp [registeredSection])
  | redeem h => exact absurd hu (by simp [redeemedSection])
  | @sign req d round outcome h =>
    simp only [processedSection, finalizeTask] at hu
    split at hu
    · exact Or.inr ⟨_, _, List.mem_singleton.mp hu⟩
    · exact absurd hu (by simp)
  | monitor =>
    exact Or.inl ⟨_, _, monitorSection_acts.spawned hu⟩
  | @timer roundId phase =>
    cases phase <;> simp only [timerSection] at hu
    case signing => split at hu <;> exact absurd hu (by simp [proceed])
    all_goals exact absurd hu (by simp [proceed])
  | send h => exact absurd hu (by simp [proceed])
  | succeeded => exact absurd hu (by simp [finalizeSection])
  | failed => exact absurd hu (by simp [finalizeSection])
  | relay => exact absurd hu (by simp [proceed])
  | evict => exact absurd hu (by simp [proceed])

/-- **What a section tells**: which round is visible now, and what its task did. -/
theorem exec_emits {t : Task} {e : Section} (h : exec E config s t c = some e)
    (hev : ev ∈ roundEvents e.events) :
    ev ∈ phaseEvents s.round e.shared.round c.fresh ∨ Emits E config s c t ev := by
  obtain ⟨_, e', he', rfl⟩ := exec_eq_some h
  rw [roundEvents_append, roundEvents_map_round] at hev
  rcases List.mem_append.mp hev with hev | hev
  · exact Or.inl hev
  · rcases taskSection_cases he' with ⟨next, rfl⟩ | hacts
    · exact absurd hev (by simp [proceed])
    · exact Or.inr (hacts.emits hev)

/-- The events every section has are those of the phase. -/
theorem mem_phaseEvents {s s' : RoundState} {fresh : Uuid} (h : ev ∈ phaseEvents s s' fresh) :
    ev = .visible s'.roundId s'.phase ∨ ev = .minted fresh := by
  rw [phaseEvents] at h
  rcases List.mem_cons.mp h with rfl | h
  · exact Or.inl rfl
  · split at h
    · exact Or.inr (List.mem_singleton.mp h)
    · exact absurd h (by simp)

/-- **A section hands on what it validated.** -/
theorem taskSection_sound {t : Task} {e : Section} (h : taskSection E config s c t = some e) :
    e.next.Sound E config := by
  cases t with
  | postInput req stage =>
    obtain rfl := Option.some.inj h
    exact postInputSection_sound stage
  | postOutput req stage =>
    obtain rfl := Option.some.inj h
    exact postOutputSection_sound stage
  | postSign req stage =>
    obtain rfl := Option.some.inj h
    cases stage with
    | received => exact attempt_sound fun _ _ => trivial
    | decoded d =>
      show (submissionNext (postSignProcess E config s.round d c.iter).2).Sound E config
      rcases (postSignProcess E config s.round d c.iter).2 with (e | m) | (_ | prepared) <;>
        exact trivial
  | getTx =>
    obtain rfl := Option.some.inj h
    exact attempt_sound fun _ _ => trivial
  | monitor =>
    obtain rfl := Option.some.inj h
    rw [monitorSection_acts.next]
    exact trivial
  | timer roundId phase =>
    obtain rfl := Option.some.inj h
    rw [timerSection_next]
    exact trivial
  | finalize roundId prepared stage =>
    obtain rfl := Option.some.inj h
    rcases finalizeSection_next roundId prepared stage with ⟨stage', hnext⟩ | ⟨r, hnext⟩
    · rw [hnext]
      exact trivial
    · rw [hnext]
      exact trivial
  | relay txHex =>
    obtain rfl := Option.some.inj h
    exact trivial
  | evict txHex =>
    obtain rfl := Option.some.inj h
    exact trivial
  | answered r => exact absurd h (by simp [taskSection])
  | finalized r => exact absurd h (by simp [taskSection])
  | finished => exact absurd h (by simp [taskSection])
  | panicked m => exact absurd h (by simp [taskSection])

/-- A task that has ended. -/
def Task.Ended : Task → Prop
  | .answered _ => True
  | .finalized _ => True
  | .finished => True
  | .panicked _ => True
  | _ => False

/-- What becomes of a task: it goes on as what it is, for the same request or
broadcast, or it has ended. -/
inductive Task.GoesOn : Task → Task → Prop
  | postInput (req : InputRegRequest) (stage stage' : InputStage) :
    GoesOn (.postInput req stage) (.postInput req stage')
  | postOutput (req : OutputRegRequest) (stage stage' : OutputStage) :
    GoesOn (.postOutput req stage) (.postOutput req stage')
  | postSign (req : SignRequest) (stage stage' : SignStage) :
    GoesOn (.postSign req stage) (.postSign req stage')
  | monitor : GoesOn .monitor .monitor
  | finalize (roundId : Uuid) (prepared : PreparedBroadcast) (stage stage' : FinalizeStage) :
    GoesOn (.finalize roundId prepared stage) (.finalize roundId prepared stage')
  | ended {t u : Task} (h : u.Ended) : GoesOn t u

theorem attempt_goesOn {t : Task} {α : Type} {respond : HttpError → Response}
    {r : Res HttpError α} {k : α → Section} (hk : ∀ a, t.GoesOn (k a).next) :
    t.GoesOn (attempt s respond r k).next := by
  rcases r with (e | m) | a
  · exact .ended trivial
  · exact .ended trivial
  · exact hk a

/-- **What becomes of a task**: it goes on as what it is, or it ends. -/
theorem taskSection_goesOn {t : Task} {e : Section} (h : taskSection E config s c t = some e) :
    t.GoesOn e.next := by
  cases t with
  | postInput req stage =>
    obtain rfl := Option.some.inj h
    cases stage with
    | received => exact attempt_goesOn fun _ => .postInput ..
    | parsed => exact attempt_goesOn fun _ => .postInput ..
    | decoded => exact .postInput ..
    | snapshotted => exact attempt_goesOn fun _ => .postInput ..
    | validated => exact attempt_goesOn fun _ => .ended trivial
  | postOutput req stage =>
    obtain rfl := Option.some.inj h
    cases stage with
    | received => exact attempt_goesOn fun _ => .postOutput ..
    | decoded => exact attempt_goesOn fun _ => .ended trivial
  | postSign req stage =>
    obtain rfl := Option.some.inj h
    cases stage with
    | received => exact attempt_goesOn fun _ => .postSign ..
    | decoded d =>
      -- whatever came of the submission, it was answered or it panicked
      show (Task.postSign req (.decoded d)).GoesOn
        (submissionNext (postSignProcess E config s.round d c.iter).2)
      rcases (postSignProcess E config s.round d c.iter).2 with (e | m) | (_ | prepared) <;>
        exact .ended trivial
  | getTx =>
    obtain rfl := Option.some.inj h
    exact attempt_goesOn fun _ => .ended trivial
  | monitor =>
    obtain rfl := Option.some.inj h
    rw [monitorSection_acts.next]
    exact .monitor
  | timer roundId phase =>
    obtain rfl := Option.some.inj h
    rw [timerSection_next]
    exact .ended trivial
  | finalize roundId prepared stage =>
    obtain rfl := Option.some.inj h
    rcases finalizeSection_next roundId prepared stage with ⟨stage', hnext⟩ | ⟨r, hnext⟩
    · rw [hnext]
      exact .finalize ..
    · rw [hnext]
      exact .ended trivial
  | relay txHex =>
    obtain rfl := Option.some.inj h
    exact .ended trivial
  | evict txHex =>
    obtain rfl := Option.some.inj h
    exact .ended trivial
  | answered r => exact absurd h (by simp [taskSection])
  | finalized r => exact absurd h (by simp [taskSection])
  | finished => exact absurd h (by simp [taskSection])
  | panicked m => exact absurd h (by simp [taskSection])

theorem exec_goesOn {t : Task} {e : Section} (h : exec E config s t c = some e) :
    t.GoesOn e.next := by
  obtain ⟨_, e', he', rfl⟩ := exec_eq_some h
  have hgoes : t.GoesOn e'.next := taskSection_goesOn he'
  exact hgoes

/-- **Only the end of a broadcast becomes the end of a broadcast**, of the same
round and transaction. -/
theorem exec_finalize {t : Task} {e : Section} {roundId : Uuid} {prepared : PreparedBroadcast}
    {stage : FinalizeStage} (h : exec E config s t c = some e)
    (hnext : e.next = .finalize roundId prepared stage) :
    ∃ stage', t = .finalize roundId prepared stage' := by
  have hgoes := exec_goesOn h
  rw [hnext] at hgoes
  cases hgoes with
  | finalize _ _ stage' _ => exact ⟨stage', rfl⟩
  | ended hended => exact hended.elim

/-- Only a registration becomes a registration, for the same request. -/
theorem exec_postInput {t : Task} {e : Section} {req : InputRegRequest} {stage : InputStage}
    (h : exec E config s t c = some e) (hnext : e.next = .postInput req stage) :
    ∃ stage', t = .postInput req stage' := by
  have hgoes := exec_goesOn h
  rw [hnext] at hgoes
  cases hgoes with
  | postInput _ stage' _ => exact ⟨stage', rfl⟩
  | ended hended => exact hended.elim

/-- What a section spawns is the timer of a phase, or the end of a broadcast. -/
theorem exec_spawned {t u : Task} {e : Section} (h : exec E config s t c = some e)
    (hu : u ∈ e.spawned) :
    (∃ roundId phase, u = .timer roundId phase) ∨
      ∃ roundId prepared, u = .finalize roundId prepared .testing := by
  obtain ⟨_, e', he', rfl⟩ := exec_eq_some h
  rcases taskSection_cases he' with ⟨next, rfl⟩ | hacts
  · exact absurd hu (by simp [proceed])
  · exact hacts.spawned hu

end Sections

/-- **What every task of a reachable world carries was validated.** -/
theorem sound_of_reachable {fresh : Uuid} {banList : BanList}
    {ok : Coordinator → Task → Choice → Prop} {w : World Coordinator Task Event}
    (hr : ReachableVia (coordinator E config) ok (startup fresh banList) w) :
    ∀ t ∈ w.threads, t.Sound E config := by
  refine hr.threads (fun _ t => t.Sound E config) (fun t ht => ?_) (fun {_ t} ha => ?_)
    (fun _ _ _ hu => hu) (fun _ _ _ _ he => ⟨?_, fun u hu => ?_⟩)
  · obtain rfl := List.mem_singleton.mp ht
    exact trivial
  · cases t with
    | postInput req stage =>
      cases stage with
      | received => exact trivial
      | _ => exact absurd ha (by simp [coordinator, Task.arrives])
    | postOutput req stage =>
      cases stage with
      | received => exact trivial
      | _ => exact absurd ha (by simp [coordinator, Task.arrives])
    | _ => exact trivial
  · obtain ⟨_, e', he', rfl⟩ := exec_eq_some he
    have hnext : e'.next.Sound E config := taskSection_sound he'
    exact hnext
  · rcases exec_spawned he hu with ⟨roundId, phase, rfl⟩ | ⟨roundId, prepared, rfl⟩
    · exact trivial
    · exact trivial

/-- **A reachable world has a round that ran**: whatever the tasks did and in
whatever order, the round went from step to step, and the log tells them. -/
theorem roundRun_of_reachable {fresh : Uuid} {banList : BanList}
    {ok : Coordinator → Task → Choice → Prop} {w : World Coordinator Task Event}
    (hr : ReachableVia (coordinator E config) ok (startup fresh banList) w) :
    RoundRun E config w.shared.round (roundEvents w.log) := by
  refine hr.shared (fun s log => RoundRun E config s.round (roundEvents log)) (fun _ => True)
    (fun _ _ _ => trivial) (.start fresh) (fun {w t c e} hw ht _ he _ hrun => ?_) trivial
  -- the task is one of this world's, so what it carries was validated
  obtain ⟨es, hstep, hes⟩ := exec_roundStep he (sound_of_reachable hw t ht)
  rw [roundEvents_append, hes]
  exact hrun.step hstep

end Blindjoin
