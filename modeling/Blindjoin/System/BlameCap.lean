import Blindjoin.System.Recorded

/-!
# The cap on unproductive rounds

Two paths end a round that led to nothing: the signing deadline, when somebody
did not sign, and a broadcast that failed without anybody to blame. Both count
the round and pause the start of the next one when the count says so, and the
constant `Blindjoin.consecutiveBlameCap` is there for both to say so at the same
round. They do not: the deadline compares the count it found, the failed
broadcast the count it leaves.

The constant is a parameter here. `Blindjoin.signingTimerAt` and
`Blindjoin.finalizeFailureAt` are the two paths under another cap; at the cap of
the code they are the paths of the code, by definition. A
`Blindjoin.RoundEnding` is one unproductive round, and **the pause comes with the
round of the cap exactly when this round ends by a failed broadcast**
(`Blindjoin.caps_agree_iff`).
-/

namespace Blindjoin

open Collections

/-! ### The two paths under any cap -/

/-- `on_signing_timeout` under a cap. -/
def onSigningTimeoutAt (cap : ℕ) (E : Externals) (s : RoundState) (banList : BanList)
    (banDurationSecs blameRoundCount now : ℕ) (fresh : Uuid) (keys : List String) :
    SigningTimeout :=
  let nonSigners := s.nonSigners keys
  { round := (s.tryTransitionTo .blame fresh).tryTransitionTo .idle fresh
    banList := banList.banAll E nonSigners now banDurationSecs
    banned := nonSigners
    outcome :=
      if cap ≤ blameRoundCount then .fullAbort
      else if nonSigners.isEmpty then .fullAbort
      else .restartWithout nonSigners }

/-- The signing timer under a cap. -/
def signingTimerAt (cap : ℕ) (E : Externals) (config : CoordinatorConfig) (app : AppState)
    (roundId : Uuid) (c : Choice) : Option (AppState × List String) :=
  if app.round.roundId ≠ roundId ∨ app.round.phase ≠ .signing then none
  else
    let timeout := onSigningTimeoutAt cap E app.round app.banList
      config.coordinator.blameBanDurationSecs app.blameRoundCount c.now c.fresh c.keys
    let backoff := config.coordinator.blameFullAbortBackoffSecs
    let app' := { app with round := timeout.round, banList := timeout.banList }
    some (match timeout.outcome with
      | .fullAbort => { app' with
          blameRoundCount := 0
          roundPausedUntil := if 0 < backoff then c.later + backoff else app.roundPausedUntil }
      | .restartWithout _ => { app' with blameRoundCount := app.blameRoundCount + 1 },
      timeout.banned)

/-- `apply_broadcast_failure_blame` under a cap. -/
def applyBroadcastFailureBlameAt (cap : ℕ) (E : Externals) (config : CoordinatorConfig)
    (app : AppState) (bannedUtxos : List String) (now : ℕ) (fresh : Uuid) : AppState :=
  let banList := app.banList.banAll E bannedUtxos now config.coordinator.blameBanDurationSecs
  let round := (app.round.tryTransitionTo .blame fresh).tryTransitionTo .idle fresh
  if 0 < bannedUtxos.length then
    { app with round := round, banList := banList, blameRoundCount := 0 }
  else
    let n := app.blameRoundCount + 1
    let backoff := config.coordinator.blameFullAbortBackoffSecs
    if cap ≤ n ∧ 0 < backoff then
      { round := round, banList := banList, blameRoundCount := 0,
        roundPausedUntil := now + backoff }
    else { app with round := round, banList := banList, blameRoundCount := n }

/-- The end of a failed broadcast under a cap. -/
def finalizeFailureAt (cap : ℕ) (E : Externals) (config : CoordinatorConfig) (app : AppState)
    (bannedUtxos : List String) (roundId : Uuid) (now : ℕ) (fresh : Uuid) : AppState :=
  if app.round.roundId = roundId ∧ app.round.phase = .broadcast then
    applyBroadcastFailureBlameAt cap E config app bannedUtxos now fresh
  else app

/-- At the cap of the code, the paths are those of the code. -/
theorem signingTimerAt_cap : signingTimerAt consecutiveBlameCap = signingTimer := rfl

theorem finalizeFailureAt_cap : finalizeFailureAt consecutiveBlameCap = finalizeFailure := rfl

section Paths

variable {cap : ℕ} {E : Externals} {config : CoordinatorConfig} {app app' : AppState}
  {roundId fresh : Uuid} {now : ℕ} {c : Choice} {banned : List String}

/-- **The signing deadline** pauses when it finds the cap reached, or nobody to
blame; else it counts the round. -/
theorem signingTimerAt_backoff (hbackoff : 0 < config.coordinator.blameFullAbortBackoffSecs)
    (h : signingTimerAt cap E config app roundId c = some (app', banned)) :
    ((cap ≤ app.blameRoundCount ∨ banned = []) ∧ app'.blameRoundCount = 0 ∧
      app'.roundPausedUntil = c.later + config.coordinator.blameFullAbortBackoffSecs) ∨
    (app.blameRoundCount < cap ∧ banned ≠ [] ∧
      app'.blameRoundCount = app.blameRoundCount + 1 ∧
      app'.roundPausedUntil = app.roundPausedUntil) := by
  rw [signingTimerAt] at h
  split at h
  · exact absurd h (by simp)
  · obtain ⟨happ, rfl⟩ := Prod.mk.inj (Option.some.inj h)
    by_cases hcap : cap ≤ app.blameRoundCount
    · subst happ
      simp [onSigningTimeoutAt, hcap, hbackoff]
    · by_cases hall : app.round.nonSigners c.keys = []
      · subst happ
        simp [onSigningTimeoutAt, hcap, hall, hbackoff]
      · subst happ
        simp [onSigningTimeoutAt, hcap, hall, Nat.lt_of_not_le hcap]

/-- **A failed broadcast** with somebody to blame clears the count. Without, it
pauses when its own round reaches the cap; else it counts the round. -/
theorem finalizeFailureAt_backoff (cap : ℕ) (E : Externals) (banned : List String) (now : ℕ)
    (fresh : Uuid) (hbackoff : 0 < config.coordinator.blameFullAbortBackoffSecs)
    (hlive : app.round.roundId = roundId ∧ app.round.phase = .broadcast) :
    (banned ≠ [] ∧
      (finalizeFailureAt cap E config app banned roundId now fresh).blameRoundCount = 0 ∧
      (finalizeFailureAt cap E config app banned roundId now fresh).roundPausedUntil =
        app.roundPausedUntil) ∨
    (banned = [] ∧ cap ≤ app.blameRoundCount + 1 ∧
      (finalizeFailureAt cap E config app banned roundId now fresh).blameRoundCount = 0 ∧
      (finalizeFailureAt cap E config app banned roundId now fresh).roundPausedUntil =
        now + config.coordinator.blameFullAbortBackoffSecs) ∨
    (banned = [] ∧ app.blameRoundCount + 1 < cap ∧
      (finalizeFailureAt cap E config app banned roundId now fresh).blameRoundCount =
        app.blameRoundCount + 1 ∧
      (finalizeFailureAt cap E config app banned roundId now fresh).roundPausedUntil =
        app.roundPausedUntil) := by
  rw [finalizeFailureAt, if_pos hlive, applyBroadcastFailureBlameAt]
  cases banned with
  | cons utxoStr banned => exact Or.inl ⟨by simp, by simp, by simp⟩
  | nil =>
    by_cases hcap : cap ≤ app.blameRoundCount + 1
    · refine Or.inr (Or.inl ⟨rfl, hcap, ?_⟩)
      simp [hcap, hbackoff]
    · refine Or.inr (Or.inr ⟨rfl, Nat.lt_of_not_le hcap, ?_⟩)
      simp [hcap]

end Paths

/-! ### Unproductive rounds -/

/-- One unproductive round, by the path that ended it: the signing deadline with
somebody missing, or a failed broadcast with nobody to blame. -/
inductive RoundEnding
  | signingTimeout (round : RoundState) (c : Choice) (hphase : round.phase = .signing)
      (hkeys : c.Iterates round (.timer round.roundId .signing))
      (hmissing : round.nonSigners c.keys ≠ [])
  | broadcastFailure (round : RoundState) (now : ℕ) (fresh : Uuid)
      (hphase : round.phase = .broadcast)

namespace RoundEnding

variable (cap : ℕ) (E : Externals) (config : CoordinatorConfig)

/-- Whether the round ended by a failed broadcast. -/
def failedBroadcast : RoundEnding → Bool
  | .signingTimeout .. => false
  | .broadcastFailure .. => true

/-- The end of the round, when it is the round of the coordinator. -/
def apply (app : AppState) : RoundEnding → AppState
  | .signingTimeout round c _ _ _ =>
    match signingTimerAt cap E config { app with round := round } round.roundId c with
    | some (app', _) => app'
    | none => app
  | .broadcastFailure round now fresh _ =>
    finalizeFailureAt cap E config { app with round := round } [] round.roundId now fresh

/-- The ends of several rounds, in order. -/
def applyAll (app : AppState) (endings : List RoundEnding) : AppState :=
  endings.foldl (fun app ending => ending.apply cap E config app) app

/-- The end of a round arms the pause: it stores a time, whatever was stored
before. -/
def Arms (app : AppState) (ending : RoundEnding) : Prop :=
  ∃ resumeAt, ∀ paused,
    (ending.apply cap E config { app with roundPausedUntil := paused }).roundPausedUntil = resumeAt

/-- The end of the `i`-th of several rounds arms the pause, counting from zero. -/
def ArmsAt (app : AppState) (endings : List RoundEnding) (i : ℕ) : Prop :=
  ∃ ending, endings[i]? = some ending ∧
    ending.Arms cap E config (applyAll cap E config app (endings.take i))

/-- It is the first that does. -/
def FirstArmsAt (app : AppState) (endings : List RoundEnding) (i : ℕ) : Prop :=
  ArmsAt cap E config app endings i ∧ ∀ j < i, ¬ArmsAt cap E config app endings j

/-- The count at which the end of a round pauses: the deadline compares what it
finds, the failed broadcast what it leaves. -/
def Reaches (count : ℕ) : RoundEnding → Prop
  | .signingTimeout .. => cap ≤ count
  | .broadcastFailure .. => cap ≤ count + 1

/-- The time an end of a round would store. -/
def resumeAt : RoundEnding → ℕ
  | .signingTimeout _ c _ _ _ => c.later + config.coordinator.blameFullAbortBackoffSecs
  | .broadcastFailure _ now _ _ => now + config.coordinator.blameFullAbortBackoffSecs

variable {cap E config} {app : AppState} {ending : RoundEnding} {endings : List RoundEnding}

/-- **What the end of an unproductive round does**: it pauses and clears the
count, or it counts the round. -/
theorem apply_cases (cap : ℕ) (E : Externals)
    (hbackoff : 0 < config.coordinator.blameFullAbortBackoffSecs) (app : AppState)
    (ending : RoundEnding) :
    (ending.Reaches cap app.blameRoundCount ∧
      (ending.apply cap E config app).blameRoundCount = 0 ∧
      (ending.apply cap E config app).roundPausedUntil = ending.resumeAt config) ∨
    (¬ending.Reaches cap app.blameRoundCount ∧
      (ending.apply cap E config app).blameRoundCount = app.blameRoundCount + 1 ∧
      (ending.apply cap E config app).roundPausedUntil = app.roundPausedUntil) := by
  cases ending with
  | signingTimeout round c hphase hkeys hmissing =>
    simp only [apply, Reaches, resumeAt]
    split
    · next app' banned htimer =>
      -- somebody is missing, so only the count can make the deadline pause
      have hbanned : banned = round.nonSigners c.keys := by
        rw [signingTimerAt, if_neg (by simp [hphase])] at htimer
        exact (Prod.mk.inj (Option.some.inj htimer)).2.symm
      rcases signingTimerAt_backoff hbackoff htimer with
        ⟨hcap | hnone, hcount, hpaused⟩ | ⟨hlt, -, hcount, hpaused⟩
      · exact Or.inl ⟨hcap, hcount, hpaused⟩
      · exact absurd (hbanned.symm.trans hnone) hmissing
      · exact Or.inr ⟨Nat.not_le.mpr hlt, hcount, hpaused⟩
    · next hnone => exact absurd hnone (by simp [signingTimerAt, hphase])
  | broadcastFailure round now fresh hphase =>
    have hlive : ({ app with round := round } : AppState).round.roundId = round.roundId ∧
        ({ app with round := round } : AppState).round.phase = .broadcast := ⟨rfl, hphase⟩
    rcases finalizeFailureAt_backoff cap E [] now fresh hbackoff hlive with
      -- nobody is blamed, so the count is never cleared without a pause
      ⟨hnil, -⟩ | ⟨-, hcap, hcount, hpaused⟩ | ⟨-, hlt, hcount, hpaused⟩
    · exact absurd rfl hnil
    · exact Or.inl ⟨hcap, hcount, hpaused⟩
    · exact Or.inr ⟨Nat.not_le.mpr hlt, hcount, hpaused⟩

/-- **The pause is armed exactly at the count that reaches it.** -/
theorem arms_iff (hbackoff : 0 < config.coordinator.blameFullAbortBackoffSecs) :
    ending.Arms cap E config app ↔ ending.Reaches cap app.blameRoundCount := by
  constructor
  · rintro ⟨resumeAt, hstored⟩
    by_contra hcap
    -- what is kept tells two stored times apart
    have hkept : ∀ paused,
        (ending.apply cap E config { app with roundPausedUntil := paused }).roundPausedUntil =
          paused := by
      intro paused
      rcases apply_cases cap E hbackoff { app with roundPausedUntil := paused }
          ending with ⟨hreach, -⟩ | ⟨-, -, hpaused⟩
      · exact absurd hreach hcap
      · exact hpaused
    have hzero := (hstored 0).symm.trans (hkept 0)
    have hone := (hstored 1).symm.trans (hkept 1)
    omega
  · intro hcap
    refine ⟨ending.resumeAt config, fun paused => ?_⟩
    rcases apply_cases cap E hbackoff { app with roundPausedUntil := paused }
        ending with ⟨-, -, hpaused⟩ | ⟨hnot, -⟩
    · exact hpaused
    · exact absurd hcap hnot

/-- While no round arms the pause, every round is counted. -/
theorem count_applyAll (hbackoff : 0 < config.coordinator.blameFullAbortBackoffSecs)
    (hzero : app.blameRoundCount = 0) {n : ℕ} (hn : n ≤ endings.length)
    (hnone : ∀ i < n, ¬ArmsAt cap E config app endings i) :
    (applyAll cap E config app (endings.take n)).blameRoundCount = n := by
  induction n with
  | zero => simpa [applyAll] using hzero
  | succ n ih =>
    have hlt : n < endings.length := by omega
    have hcount := ih (by omega) fun i hi => hnone i (by omega)
    have htake : applyAll cap E config app (endings.take (n + 1)) =
        endings[n].apply cap E config (applyAll cap E config app (endings.take n)) := by
      rw [List.take_add_one, List.getElem?_eq_getElem hlt, applyAll, List.foldl_append]
      rfl
    rcases apply_cases cap E hbackoff
        (applyAll cap E config app (endings.take n)) endings[n] with
      ⟨hreach, -⟩ | ⟨-, hsucc, -⟩
    · exact absurd ⟨_, List.getElem?_eq_getElem hlt, (arms_iff hbackoff).mpr hreach⟩
        (hnone n (by omega))
    · rw [htake, hsucc, hcount]

/-- No round before the one of the cap arms the pause. -/
theorem not_armsAt_of_lt (hbackoff : 0 < config.coordinator.blameFullAbortBackoffSecs)
    (hzero : app.blameRoundCount = 0) {i : ℕ} (hi : i + 1 < cap) :
    ¬ArmsAt cap E config app endings i := by
  induction i using Nat.strong_induction_on with
  | _ i ih =>
    rintro ⟨ending, hending, harms⟩
    have hlt : i < endings.length := (List.getElem?_eq_some_iff.mp hending).1
    -- no earlier round paused, so the count is the number of rounds before
    have hcount := count_applyAll hbackoff hzero hlt.le fun j hj => ih j hj (by omega)
    have hreach := (arms_iff hbackoff).mp harms
    rw [hcount] at hreach
    cases ending <;> simp only [Reaches] at hreach <;> omega

/-- **The round of the cap arms the pause exactly when its broadcast failed.** -/
theorem armsAt_cap_iff (hcap : 1 ≤ cap)
    (hbackoff : 0 < config.coordinator.blameFullAbortBackoffSecs)
    (hzero : app.blameRoundCount = 0) :
    ArmsAt cap E config app endings (cap - 1) ↔
      ∃ ending, endings[cap - 1]? = some ending ∧ ending.failedBroadcast = true := by
  refine exists_congr fun ending => and_congr_right fun hending => ?_
  have hlt : cap - 1 < endings.length := (List.getElem?_eq_some_iff.mp hending).1
  have hcount : (applyAll cap E config app (endings.take (cap - 1))).blameRoundCount = cap - 1 :=
    count_applyAll hbackoff hzero hlt.le fun j hj => not_armsAt_of_lt hbackoff hzero (by omega)
  rw [arms_iff hbackoff, hcount]
  cases ending with
  | signingTimeout round c hphase hkeys hmissing =>
    simp only [Reaches, failedBroadcast, Bool.false_eq_true, iff_false]
    omega
  | broadcastFailure round now fresh hphase =>
    simp only [Reaches, failedBroadcast, iff_true]
    omega

end RoundEnding

open RoundEnding

/-- **When the two paths agree on the cap.** Whatever the cap, and whatever
unproductive rounds follow each other from a cleared count: the first pause comes
with exactly the round of the cap if and only if this round, when it is reached,
ends by a failed broadcast. -/
theorem caps_agree_iff {cap : ℕ} (E : Externals) {config : CoordinatorConfig} (hcap : 1 ≤ cap)
    (hbackoff : 0 < config.coordinator.blameFullAbortBackoffSecs) {app : AppState}
    (hzero : app.blameRoundCount = 0) (endings : List RoundEnding) :
    (∀ i < endings.length, FirstArmsAt cap E config app endings i ↔ i + 1 = cap) ↔
      ∀ ending, endings[cap - 1]? = some ending → ending.failedBroadcast = true := by
  have hbefore : ∀ j < cap - 1, ¬ArmsAt cap E config app endings j := fun j hj =>
    not_armsAt_of_lt hbackoff hzero (by omega)
  constructor
  · intro hagree ending hending
    have hlt : cap - 1 < endings.length := (List.getElem?_eq_some_iff.mp hending).1
    -- the round of the cap has to pause, which a deadline does not do there
    have hfirst := (hagree (cap - 1) hlt).mpr (by omega)
    obtain ⟨ending', hending', hfailed⟩ := (armsAt_cap_iff hcap hbackoff hzero).mp hfirst.1
    obtain rfl := Option.some.inj (hending.symm.trans hending')
    exact hfailed
  · intro hfailed i hi
    constructor
    · rintro ⟨harms, hfirst⟩
      by_contra hne
      rcases Nat.lt_or_gt_of_ne hne with hlt | hgt
      · exact not_armsAt_of_lt hbackoff hzero hlt harms
      · -- the round of the cap came before, and it did arm
        have hlt : cap - 1 < endings.length := by omega
        have hending := List.getElem?_eq_getElem hlt
        exact hfirst (cap - 1) (by omega)
          ((armsAt_cap_iff hcap hbackoff hzero).mpr ⟨_, hending, hfailed _ hending⟩)
    · intro hi'
      obtain rfl : i = cap - 1 := by omega
      have hending := List.getElem?_eq_getElem hi
      exact ⟨(armsAt_cap_iff hcap hbackoff hzero).mpr ⟨_, hending, hfailed _ hending⟩, hbefore⟩

/-! ### Two rounds of the session -/

/-- A round nobody signed in. -/
def missedRound : RoundEnding :=
  .signingTimeout (worldAfter signingMoves).shared.round
    { now := 1760000100
      later := 1760000100
      fresh := secondRound
      keys := [firstCoin.toText, secondCoin.toText] }
    signing_reached (by decide +kernel) (by decide +kernel)

/-- A round whose broadcast failed. -/
def failedRound : RoundEnding :=
  .broadcastFailure { RoundState.newIdle firstRound with phase := .broadcast } 1760000200
    secondRound rfl

/-- A coordinator whose count is cleared. -/
def clearedApp : AppState := (startup firstRound .new).shared.toAppState

theorem caps_agree_iff_session :
    ¬FirstArmsAt 2 session.externals configOfTwo clearedApp [missedRound, failedRound] 0 ∧
      FirstArmsAt 2 session.externals configOfTwo clearedApp [missedRound, failedRound] 1 := by
  have hfailed : ∀ ending, [missedRound, failedRound][2 - 1]? = some ending →
      ending.failedBroadcast = true := by
    intro ending hending
    obtain rfl : failedRound = ending := Option.some.inj hending
    rfl
  have hagree : ∀ i < 2, FirstArmsAt 2 session.externals configOfTwo clearedApp
      [missedRound, failedRound] i ↔ i + 1 = 2 :=
    (caps_agree_iff session.externals (by decide) (by decide) rfl
      [missedRound, failedRound]).mpr hfailed
  exact ⟨fun hfirst => absurd ((hagree 0 (by decide)).mp hfirst) (by decide),
    (hagree 1 (by decide)).mpr rfl⟩

/-- **Two missed deadlines do not pause**: at the cap of the code, which is two,
the second of two rounds that ended at the signing deadline only counts. -/
theorem deadlines_exceed_cap :
    consecutiveBlameCap = 2 ∧ 0 < configOfTwo.coordinator.blameFullAbortBackoffSecs ∧
    clearedApp.blameRoundCount = 0 ∧
    ¬∀ i < 2, FirstArmsAt consecutiveBlameCap session.externals configOfTwo clearedApp
      [missedRound, missedRound] i ↔ i + 1 = consecutiveBlameCap := by
  refine ⟨rfl, by decide, rfl, fun hagree => ?_⟩
  have hfirst := (hagree 1 (by decide)).mpr rfl
  obtain ⟨ending, hending, hfailed⟩ :=
    (armsAt_cap_iff (by decide) (by decide) rfl).mp hfirst.1
  obtain rfl : missedRound = ending := Option.some.inj hending
  exact absurd hfailed (by decide)

end Blindjoin
