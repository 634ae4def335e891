import Blindjoin.System.BlameCap
import Blindjoin.System.HighFee
import Blindjoin.System.Monitor

/-!
# The pause between rounds

Rounds that led to nothing are counted, and when there were too many of them the
next one waits. The count and the time until which to wait are two variables the
signing timer, the end of a broadcast and the monitor share.

What a section does to them is one of four things (`Blindjoin.BackoffStep`): it
leaves them alone, it clears the count, it counts a round, or it arms the pause
and clears the count. The last three happen only where a round ends, so that the
monitor is not starting one. A round that runs was started by a tick that read a
time past the pause (`Blindjoin.Passed`), which is why a pause is never shortened
by a later one. `Blindjoin.pause_respected` is what follows for a run: **three
unproductive rounds in a row pause, and no round starts before the pause ends.**
-/

namespace Blindjoin

open Interleaving Collections

/-! ### Statement -/

/-- The time a reading of the clock gave. -/
def Event.clock? : Event → Option ℕ
  | .clock now => some now
  | _ => none

/-- The readings of the clock in a log, newest first. -/
def readings (log : List Event) : List ℕ := log.filterMap Event.clock?

/-- The clock never goes back. -/
def ClockForward (log : List Event) : Prop := (readings log).Pairwise (· ≥ ·)

/-- A round that led to nothing: the signing deadline, or a failed broadcast with
nobody to blame. -/
def RoundEvent.blames : RoundEvent → Bool
  | .signingTimedOut _ _ => true
  | .broadcastFailed _ banned => banned.isEmpty
  | _ => false

/-- A round that clears the count: a successful broadcast, or a failed one with
somebody to blame. -/
def RoundEvent.clears : RoundEvent → Bool
  | .broadcastSucceeded _ => true
  | .broadcastFailed _ banned => !banned.isEmpty
  | _ => false

/-- A section that ends a round that led to nothing. -/
def Blames (e : Section) : Prop := ∃ ev ∈ roundEvents e.events, ev.blames = true

/-- A section that ends a round that clears the count. -/
def Clears (e : Section) : Prop := ∃ ev ∈ roundEvents e.events, ev.clears = true

/-- A section that arms a pause. -/
def ArmsPause (x : Step) (resumeAt : ℕ) : Prop :=
  x.effect.shared.roundPausedUntil = resumeAt ∧ x.world.shared.roundPausedUntil ≠ resumeAt

/-- Three unproductive rounds in a row: between them, no round led to nothing and
none cleared the count. -/
def ThreeInARow (h : List Step) (x₁ x₂ x₃ : Step) : Prop :=
  ∃ h₄ h₃ h₂ h₁, h = h₄ ++ x₃ :: (h₃ ++ x₂ :: (h₂ ++ x₁ :: h₁)) ∧
    Blames x₁.effect ∧ Blames x₂.effect ∧ Blames x₃.effect ∧
    ∀ y ∈ h₃ ++ h₂, ¬Blames y.effect ∧ ¬Clears y.effect

/-! ### The readings -/

section Readings

variable {log es : List Event} {t : ℕ}

@[simp] theorem readings_append (es log : List Event) :
    readings (es ++ log) = readings es ++ readings log := List.filterMap_append

theorem mem_readings : t ∈ readings log ↔ .clock t ∈ log :=
  mem_filterMap_iff fun ev t => by cases ev <;> simp [Event.clock?]

theorem ClockForward.of_append (h : ClockForward (es ++ log)) : ClockForward log := by
  rw [ClockForward, readings_append] at h
  exact (List.pairwise_append.mp h).2.1

/-- What is read now is no earlier than what was read before. -/
theorem ClockForward.le (h : ClockForward (es ++ log)) (ht : .clock t ∈ es) :
    ∀ t' ∈ readings log, t' ≤ t := by
  rw [ClockForward, readings_append] at h
  exact fun t' ht' => (List.pairwise_append.mp h).2.2 t (mem_readings.mpr ht) t' ht'

end Readings

/-! ### What a section does to the count and the pause -/

section Steps

variable {E : Externals} {config : CoordinatorConfig} {s : Coordinator} {t : Task} {c : Choice}
  {e : Section}

/-- What a section does to the count and the pause. A section that ends a round
finds one that is not idle. -/
inductive BackoffStep (backoff : ℕ) (s : Coordinator) (e : Section) : Prop
  | keeps (hcount : e.shared.blameRoundCount = s.blameRoundCount)
      (hpaused : e.shared.roundPausedUntil = s.roundPausedUntil) (hblames : ¬Blames e)
      (hclears : ¬Clears e)
  | clears (hcount : e.shared.blameRoundCount = 0)
      (hpaused : e.shared.roundPausedUntil = s.roundPausedUntil) (hblames : ¬Blames e)
      (hclears : Clears e)
  | counts (hlt : s.blameRoundCount < consecutiveBlameCap)
      (hcount : e.shared.blameRoundCount = s.blameRoundCount + 1)
      (hpaused : e.shared.roundPausedUntil = s.roundPausedUntil) (hblames : Blames e)
  | arms (hbusy : s.round.phase ≠ .idle) (hidle : e.shared.round.phase = .idle)
      (hmonitor : e.shared.monitor = s.monitor) (hcount : e.shared.blameRoundCount = 0)
      {now : ℕ} (hread : .clock now ∈ e.events)
      (hpaused : e.shared.roundPausedUntil = now + backoff) (hblames : Blames e)

/-- A section that tells of no round that ended. -/
theorem BackoffStep.quiet {backoff : ℕ} (hcount : e.shared.blameRoundCount = s.blameRoundCount)
    (hpaused : e.shared.roundPausedUntil = s.roundPausedUntil)
    (hquiet : ∀ ev ∈ roundEvents e.events, ev.blames = false ∧ ev.clears = false) :
    BackoffStep backoff s e := by
  refine .keeps hcount hpaused ?_ ?_
  · rintro ⟨ev, hev, hblames⟩
    exact absurd hblames (by simp [(hquiet ev hev).1])
  · rintro ⟨ev, hev, hclears⟩
    exact absurd hclears (by simp [(hquiet ev hev).2])

/-- A signing timer that fires. -/
theorem timerSection_backoff (hbackoff : 0 < config.coordinator.blameFullAbortBackoffSecs)
    (roundId : Uuid) (phase : Phase) :
    BackoffStep config.coordinator.blameFullAbortBackoffSecs s
      (timerSection E config s roundId c phase) := by
  cases phase with
  | signing =>
    simp only [timerSection]
    split
    · exact .quiet rfl rfl (by simp [proceed])
    · next app banned htimer =>
      obtain ⟨-, hphase, -, hround, -⟩ := signingTimer_eq_some htimer
      -- the path of the code is the one under its own cap
      rw [← signingTimerAt_cap] at htimer
      rcases signingTimerAt_backoff hbackoff htimer with
        ⟨-, hcount, hpaused⟩ | ⟨hlt, -, hcount, hpaused⟩
      · exact .arms (by simp [hphase]) (by simp [hround, RoundState.newIdle]) rfl hcount
          (List.mem_cons_of_mem _ List.mem_cons_self) hpaused ⟨_, List.mem_cons_self, rfl⟩
      · exact .counts hlt hcount hpaused ⟨_, List.mem_cons_self, rfl⟩
  | _ => exact .quiet rfl rfl (by simp [timerSection, proceed])

/-- The end of a broadcast that succeeded. -/
theorem succeeded_backoff {backoff : ℕ} (roundId : Uuid) (prepared : PreparedBroadcast)
    (txid : String) :
    BackoffStep backoff s (finalizeSection E config s roundId prepared c (.succeeded txid)) := by
  by_cases hlive : s.round.roundId = roundId ∧ s.round.phase = .broadcast
  · simp only [finalizeSection, if_pos hlive]
    refine .clears ?_ ?_ ?_ ⟨_, List.mem_cons_self, rfl⟩
    · simp [finalizeSuccess, hlive]
    · simp [finalizeSuccess, hlive]
    · rintro ⟨ev, hev, hblames⟩
      obtain rfl := List.mem_singleton.mp hev
      exact absurd hblames (by simp [RoundEvent.blames])
  · simp only [finalizeSection, if_neg hlive]
    exact .quiet (by rw [finalizeSuccess_stale hlive]) (by rw [finalizeSuccess_stale hlive])
      (by simp)

/-- The end of a broadcast that failed. -/
theorem failed_backoff (hbackoff : 0 < config.coordinator.blameFullAbortBackoffSecs)
    (roundId : Uuid) (prepared : PreparedBroadcast) (m : String) (banned : List String) :
    BackoffStep config.coordinator.blameFullAbortBackoffSecs s
      (finalizeSection E config s roundId prepared c (.failed m banned)) := by
  by_cases hlive : s.round.roundId = roundId ∧ s.round.phase = .broadcast
  · simp only [finalizeSection, if_pos hlive]
    rcases finalizeFailureAt_backoff consecutiveBlameCap E banned c.now c.fresh hbackoff hlive with
      ⟨hsome, hcount, hpaused⟩ | ⟨rfl, -, hcount, hpaused⟩ | ⟨rfl, hlt, hcount, hpaused⟩
    · refine .clears hcount hpaused ?_ ⟨_, List.mem_cons_self, by simp [RoundEvent.clears, hsome]⟩
      rintro ⟨ev, hev, hblames⟩
      obtain rfl := List.mem_singleton.mp hev
      exact hsome (by simpa [RoundEvent.blames] using hblames)
    · refine .arms (by simp [hlive.2]) ?_ rfl hcount
        (List.mem_cons_of_mem _ List.mem_cons_self) hpaused ⟨_, List.mem_cons_self, rfl⟩
      rw [round_finalizeFailure hlive]
      rfl
    -- the count it leaves is below the cap, so the count it found is
    · refine .counts (by omega) hcount hpaused ⟨_, List.mem_cons_self, rfl⟩
  · simp only [finalizeSection, if_neg hlive]
    exact .quiet (by rw [finalizeFailure_stale hlive]) (by rw [finalizeFailure_stale hlive])
      (by simp)

/-- The monitor leaves the count and the pause alone. -/
theorem MonitorActs.backoff {backoff : ℕ} (h : MonitorActs s e) : BackoffStep backoff s e := by
  cases h with
  | moves monitor events hes => exact .quiet rfl rfl (by rw [roundEvents_of_note hes]; simp)
  | arms => exact .quiet rfl rfl (by simp [roundEvents, Event.round?])
  | installs hidle material monitor =>
    exact .quiet rfl rfl (by simp [RoundEvent.blames, RoundEvent.clears])

/-- **What a section that acts does to the count and the pause.** -/
theorem Acts.backoff (h : Acts E config s c t e)
    (hbackoff : 0 < config.coordinator.blameFullAbortBackoffSecs) :
    BackoffStep config.coordinator.blameFullAbortBackoffSecs s e := by
  cases h with
  | register h =>
    exact .quiet rfl rfl (by simp [registeredSection, RoundEvent.blames, RoundEvent.clears])
  | redeem h =>
    exact .quiet rfl rfl (by simp [redeemedSection, RoundEvent.blames, RoundEvent.clears])
  | sign h =>
    refine .quiet rfl rfl fun ev hev => ?_
    obtain rfl := Event.round.inj (mem_submissionEvents (mem_roundEvents.mp hev))
    exact ⟨rfl, rfl⟩
  | monitor => exact monitorSection_acts.backoff
  | timer => exact timerSection_backoff hbackoff _ _
  | send h => exact .quiet rfl rfl (by simp [proceed])
  | succeeded => exact succeeded_backoff _ _ _
  | failed => exact failed_backoff hbackoff _ _ _ _
  | relay => exact .quiet rfl rfl (by simp [proceed])
  | evict => exact .quiet rfl rfl (by simp [proceed])

/-- **What a section does to the count and the pause.** -/
theorem exec_backoff (h : exec E config s t c = some e)
    (hbackoff : 0 < config.coordinator.blameFullAbortBackoffSecs) :
    BackoffStep config.coordinator.blameFullAbortBackoffSecs s e := by
  obtain ⟨-, e', he', rfl⟩ := exec_eq_some h
  -- the events every section has tell of no round that ended
  have hphase : ∀ ev ∈ phaseEvents s.round e'.shared.round c.fresh,
      ev.blames = false ∧ ev.clears = false := by
    intro ev hev
    rcases mem_phaseEvents hev with rfl | rfl <;> exact ⟨rfl, rfl⟩
  have hevents : ∀ f : RoundEvent → Bool,
      (∀ ev ∈ phaseEvents s.round e'.shared.round c.fresh, f ev = false) →
      ((∃ ev ∈ roundEvents ((phaseEvents s.round e'.shared.round c.fresh).map .round ++
          e'.events), f ev = true) ↔ ∃ ev ∈ roundEvents e'.events, f ev = true) := by
    intro f hf
    rw [roundEvents_append, roundEvents_map_round]
    constructor
    · rintro ⟨ev, hev, htrue⟩
      rcases List.mem_append.mp hev with hev | hev
      · exact absurd htrue (by simp [hf ev hev])
      · exact ⟨ev, hev, htrue⟩
    · rintro ⟨ev, hev, htrue⟩
      exact ⟨ev, List.mem_append_right _ hev, htrue⟩
  have hblames := hevents RoundEvent.blames fun ev hev => (hphase ev hev).1
  have hclears := hevents RoundEvent.clears fun ev hev => (hphase ev hev).2
  have hstep : BackoffStep config.coordinator.blameFullAbortBackoffSecs s e' := by
    rcases taskSection_cases he' with ⟨next, rfl⟩ | hacts
    · exact .quiet rfl rfl (by simp [proceed])
    · exact hacts.backoff hbackoff
  cases hstep with
  | keeps hcount hpaused hb hc =>
    exact .keeps hcount hpaused (fun h => hb (hblames.mp h)) fun h => hc (hclears.mp h)
  | clears hcount hpaused hb hc =>
    exact .clears hcount hpaused (fun h => hb (hblames.mp h)) (hclears.mpr hc)
  | counts hlt hcount hpaused hb => exact .counts hlt hcount hpaused (hblames.mpr hb)
  | arms hbusy hidle hmonitor hcount hread hpaused hb =>
    exact .arms hbusy hidle hmonitor hcount (List.mem_append_right _ hread) hpaused
      (hblames.mpr hb)

/-- The events every section has are about the round. -/
theorem mem_withPhaseEvents {es : List RoundEvent} {events : List Event} {ev : Event}
    (hround : ev.round? = none) : ev ∈ es.map Event.round ++ events ↔ ev ∈ events := by
  constructor
  · intro hev
    rcases List.mem_append.mp hev with hev | hev
    · obtain ⟨r, -, rfl⟩ := List.mem_map.mp hev
      exact absurd hround (by simp [Event.round?])
    · exact hev
  · exact List.mem_append_right _

/-! ### The ticks of the monitor -/

/-- **What a section of the monitor does in starting a round**: it is at the head
of its loop again, or it goes one step further. It sets out to start a round only
when it read a time past the pause. -/
theorem monitorSection_starting :
    ((monitorSection E s c).shared.monitor.pc = .head ∧
      ∀ r, .startAttempted r ∉ (monitorSection E s c).events) ∨
    (s.round.phase = .idle ∧
      (monitorSection E s c).shared.monitor.pc = .pauseCheck s.round.roundId ∧
      (monitorSection E s c).shared.round = s.round ∧
      ∀ r, .startAttempted r ∉ (monitorSection E s c).events) ∨
    (∃ r, s.monitor.pc = .pauseCheck r ∧ s.roundPausedUntil ≤ c.now ∧
      (monitorSection E s c).shared.monitor.pc = .generating r ∧
      (monitorSection E s c).shared.round = s.round ∧
      (monitorSection E s c).events = [.startAttempted r, .clock c.now]) ∨
    (∃ r material, s.monitor.pc = .generating r ∧
      (monitorSection E s c).shared.monitor.pc = .installing r material ∧
      (monitorSection E s c).shared.round = s.round ∧ (monitorSection E s c).events = []) := by
  cases hpc : s.monitor.pc with
  | head =>
    by_cases hidle : s.round.phase = .idle ∧ s.monitor.lastIdleStartRound ≠ some s.round.roundId
    · refine Or.inr (Or.inl ⟨hidle.1, ?_⟩)
      simp [monitorSection, hpc, hidle]
    · refine Or.inl ?_
      simp only [monitorSection, hpc, if_neg hidle]
      split
      · exact ⟨by simp [hpc], by simp⟩
      · exact ⟨hpc, by simp⟩
  | pauseCheck r =>
    by_cases hnow : c.now < s.roundPausedUntil
    · exact Or.inl (by simp [monitorSection, hpc, hnow])
    · refine Or.inr (Or.inr (Or.inl ⟨r, rfl, Nat.le_of_not_lt hnow, ?_⟩))
      simp [monitorSection, hpc, hnow]
  | generating r =>
    simp only [monitorSection, hpc]
    split
    · next material _ => exact Or.inr (Or.inr (Or.inr ⟨r, material, rfl, rfl, rfl, rfl⟩))
    · exact Or.inl ⟨rfl, by simp [proceed]⟩
  | installing r material =>
    refine Or.inl ?_
    simp only [monitorSection, hpc]
    split
    · exact ⟨rfl, by simp [proceed]⟩
    · split
      · exact ⟨rfl, by simp⟩
      · exact ⟨rfl, by simp [proceed]⟩

/-- A round is started by a monitor that is starting it. -/
theorem monitorSection_installed {r : Uuid} {material : RoundMaterial}
    (h : .installed r material ∈ roundEvents (monitorSection E s c).events) :
    s.monitor.pc.starts r := by
  cases hpc : s.monitor.pc with
  | head =>
    simp only [monitorSection, hpc] at h
    split at h
    · exact absurd h (by simp [roundEvents, Event.round?])
    · split at h
      · exact absurd h (by simp [roundEvents, Event.round?])
      · exact absurd h (by simp [roundEvents, Event.round?])
  | pauseCheck id =>
    simp only [monitorSection, hpc] at h
    split at h
    · exact absurd h (by simp [roundEvents, Event.round?])
    · exact absurd h (by simp [roundEvents, Event.round?])
  | generating id =>
    simp only [monitorSection, hpc] at h
    split at h
    · exact absurd h (by simp [proceed])
    · exact absurd h (by simp [proceed])
  | installing id material' =>
    simp only [monitorSection, hpc] at h
    split at h
    · exact absurd h (by simp [proceed])
    · split at h
      · obtain ⟨rfl, -⟩ := RoundEvent.installed.inj (List.mem_singleton.mp h)
        rfl
      · exact absurd h (by simp [proceed])

/-- Other tasks do not set out to start a round. -/
theorem Acts.startAttempted {r : Uuid} (h : Acts E config s c t e) (ht : t ≠ .monitor) :
    .startAttempted r ∉ e.events := by
  intro hev
  rcases h.mem_events ht hev with ⟨_, heq⟩ | ⟨_, heq⟩
  · exact absurd heq (by simp)
  · exact absurd heq (by simp)

/-- **Who sets out to start a round** is the monitor, at a tick that read a time
past the pause. -/
theorem exec_startAttempted {r : Uuid} (h : exec E config s t c = some e)
    (hev : .startAttempted r ∈ e.events) :
    s.roundPausedUntil ≤ c.now ∧ .clock c.now ∈ e.events ∧
      e.shared.monitor.pc = .generating r := by
  obtain ⟨-, e', he', rfl⟩ := exec_eq_some h
  rw [mem_withPhaseEvents rfl] at hev ⊢
  by_cases ht : t = .monitor
  · subst ht
    obtain rfl := Option.some.inj he'
    rcases monitorSection_starting (E := E) (s := s) (c := c) with
      ⟨-, hnone⟩ | ⟨-, -, -, hnone⟩ | ⟨r', -, hnow, hpc, -, hevents⟩ | ⟨_, _, -, -, -, hevents⟩
    · exact absurd hev (hnone r)
    · exact absurd hev (hnone r)
    · rw [hevents] at hev ⊢
      obtain rfl : r = r' := by simpa using hev
      exact ⟨hnow, by simp, hpc⟩
    · exact absurd hev (by simp [hevents])
  · rcases taskSection_cases he' with ⟨next, rfl⟩ | hacts
    · exact absurd hev (by simp [proceed])
    · exact absurd hev (hacts.startAttempted ht)

/-- **Who starts a round** is the monitor, when it set out to. -/
theorem exec_installed {r : Uuid} {material : RoundMaterial} (h : exec E config s t c = some e)
    (hev : .installed r material ∈ roundEvents e.events) : s.monitor.pc.starts r := by
  rcases exec_emits h hev with hphase | hemits
  · rcases mem_phaseEvents hphase with heq | heq <;> exact absurd heq (by simp)
  · cases hemits with
    | installed =>
      obtain ⟨-, e', he', rfl⟩ := exec_eq_some h
      obtain rfl := Option.some.inj he'
      rw [roundEvents_append, roundEvents_map_round] at hev
      rcases List.mem_append.mp hev with hev | hev
      · rcases mem_phaseEvents hev with heq | heq <;> exact absurd heq (by simp)
      · exact monitorSection_installed hev

/-- **A monitor that is starting a round** was starting it before, or just set
out to. -/
theorem exec_starts {r : Uuid} (h : exec E config s t c = some e)
    (hstarts : e.shared.monitor.pc.starts r) :
    (s.monitor.pc.starts r ∧ ∀ r', .startAttempted r' ∉ e.events) ∨
      .startAttempted r ∈ e.events := by
  obtain ⟨-, e', he', rfl⟩ := exec_eq_some h
  have hmem : ∀ r', .startAttempted r' ∈ (phaseEvents s.round e'.shared.round c.fresh).map
      Event.round ++ e'.events ↔ .startAttempted r' ∈ e'.events := fun r' =>
    mem_withPhaseEvents rfl
  simp only [hmem]
  by_cases ht : t = .monitor
  · subst ht
    obtain rfl := Option.some.inj he'
    rcases monitorSection_starting (E := E) (s := s) (c := c) with
      ⟨hpc, -⟩ | ⟨-, hpc, -⟩ | ⟨r', -, -, hpc, -, hevents⟩ | ⟨r', m, hpc, hpc', -, hevents⟩
    · exact absurd hstarts (by simp [hpc, MonitorPc.starts])
    · exact absurd hstarts (by simp [hpc, MonitorPc.starts])
    · rw [hpc] at hstarts
      obtain rfl : r' = r := hstarts
      exact Or.inr (by simp [hevents])
    · rw [hpc'] at hstarts
      obtain rfl : r' = r := hstarts
      exact Or.inl ⟨by rw [hpc]; rfl, by simp [hevents]⟩
  · refine Or.inl ?_
    rcases taskSection_cases he' with ⟨next, rfl⟩ | hacts
    · exact ⟨hstarts, by simp [proceed]⟩
    · rw [(hacts.monitor_eq ht).1] at hstarts
      exact ⟨hstarts, fun r' => hacts.startAttempted ht⟩

/-- **A monitor about to start a round** has seen it idle. -/
theorem exec_concerns (h : exec E config s t c = some e) (hsound : t.Sound E config)
    (hidle : ∀ r, s.monitor.pc.concerns r → s.round.phase = .idle ∧ s.round.roundId = r) :
    ∀ r, e.shared.monitor.pc.concerns r →
      e.shared.round.phase = .idle ∧ e.shared.round.roundId = r := by
  intro r hconcerns
  by_cases ht : t = .monitor
  · subst ht
    obtain ⟨-, e', he', rfl⟩ := exec_eq_some h
    obtain rfl := Option.some.inj he'
    rcases monitorSection_starting (E := E) (s := s) (c := c) with
      ⟨hpc, -⟩ | ⟨hphase, hpc, hround, -⟩ | ⟨r', hpc, -, hpc', hround, -⟩ |
      ⟨r', m, hpc, hpc', hround, -⟩
    · exact absurd hconcerns (by simp [hpc, MonitorPc.concerns])
    · rw [hpc] at hconcerns
      exact ⟨by rw [hround, hphase], by rw [hround]; exact hconcerns⟩
    · rw [hpc'] at hconcerns
      rw [hround]
      exact hidle r (by rw [hpc]; exact hconcerns)
    · rw [hpc'] at hconcerns
      rw [hround]
      exact hidle r (by rw [hpc]; exact hconcerns)
  · have hmonitor : e.shared.monitor = s.monitor := by
      obtain ⟨-, e', he', rfl⟩ := exec_eq_some h
      rcases taskSection_cases he' with ⟨next, rfl⟩ | hacts
      · rfl
      · exact (hacts.monitor_eq ht).1
    rw [hmonitor] at hconcerns
    obtain ⟨hphase, hid⟩ := hidle r hconcerns
    rw [exec_of_idle h hsound ht hphase]
    exact ⟨hphase, hid⟩

theorem MonitorPc.concerns_of_starts {pc : MonitorPc} {r : Uuid} (h : pc.starts r) :
    pc.concerns r := by
  cases pc with
  | generating id => exact h
  | installing id material => exact h
  | head => exact h
  | pauseCheck id => exact False.elim h

/-! ### Past the pause -/

/-- A round that runs, or is being started, was started by a tick that read a
time past the pause: whatever is no earlier than all readings is past it. -/
def Passed (s : Coordinator) (log : List Event) : Prop :=
  (s.round.phase ≠ .idle ∨ ∃ r, s.monitor.pc.starts r) →
    ∀ now, (∀ t ∈ readings log, t ≤ now) → s.roundPausedUntil ≤ now

/-- **Every section keeps it.** -/
theorem Passed.exec {log : List Event} (hpassed : Passed s log)
    (h : Blindjoin.exec E config s t c = some e) (hsound : t.Sound E config)
    (hbackoff : 0 < config.coordinator.blameFullAbortBackoffSecs)
    (hidle : ∀ r, s.monitor.pc.concerns r → s.round.phase = .idle ∧ s.round.roundId = r) :
    Passed e.shared (e.events ++ log) := by
  intro hbusy now hnow
  have hold : ∀ t ∈ readings log, t ≤ now := fun t ht =>
    hnow t (by rw [readings_append]; exact List.mem_append_right _ ht)
  -- a section that does not arm the pause found it passed, or read that it is
  have hkept : e.shared.roundPausedUntil = s.roundPausedUntil → e.shared.roundPausedUntil ≤ now :=
    fun hpaused => by
      rw [hpaused]
      by_cases hbefore : s.round.phase ≠ .idle ∨ ∃ r, s.monitor.pc.starts r
      · exact hpassed hbefore now hold
      · rw [not_or, not_not] at hbefore
        obtain ⟨hphase, hnone⟩ := hbefore
        have hattempt : ∃ r, .startAttempted r ∈ e.events := by
          rcases hbusy with hphase' | ⟨r, hstarts⟩
          · obtain ⟨es, hstep, hevents⟩ := exec_roundStep h hsound
            rcases hstep.of_idle hphase with hround | ⟨material, hin⟩
            · exact absurd (hround ▸ hphase) hphase'
            · have hinstalled : .installed s.round.roundId material ∈ roundEvents e.events :=
                hevents ▸ List.mem_append_right _ hin
              exact absurd ⟨_, exec_installed h hinstalled⟩ hnone
          · rcases exec_starts h hstarts with ⟨hstarts, -⟩ | hattempt
            · exact absurd ⟨r, hstarts⟩ hnone
            · exact ⟨r, hattempt⟩
        obtain ⟨r, hattempt⟩ := hattempt
        obtain ⟨hle, hread, -⟩ := exec_startAttempted h hattempt
        exact hle.trans (hnow _ (mem_readings.mpr (List.mem_append_left _ hread)))
  cases exec_backoff h hbackoff with
  | keeps _ hpaused => exact hkept hpaused
  | clears _ hpaused => exact hkept hpaused
  | counts _ _ hpaused => exact hkept hpaused
  | arms hphase hidle' hmonitor =>
    -- the round ended, and the monitor was not starting one
    rcases hbusy with hphase' | ⟨r, hstarts⟩
    · exact absurd hidle' hphase'
    · rw [hmonitor] at hstarts
      exact absurd (hidle r (MonitorPc.concerns_of_starts hstarts)).1 hphase

end Steps

/-! ### Runs -/

section Runs

variable {E : Externals} {config : CoordinatorConfig} {fresh : Uuid} {banList : BanList}
  {w : World Coordinator Task Event} {h h₁ h₂ : List Step} {x : Step}

/-- A monitor about to start a round has seen it idle, in every reachable world. -/
theorem concerns_of_reachable (hr : Reachable (coordinator E config) (startup fresh banList) w) :
    ∀ r, w.shared.monitor.pc.concerns r →
      w.shared.round.phase = .idle ∧ w.shared.round.roundId = r := by
  refine hr.shared (fun s _ => ∀ r, s.monitor.pc.concerns r →
      s.round.phase = .idle ∧ s.round.roundId = r) (fun _ => True) (fun _ _ _ => trivial)
    (fun r hr => absurd hr id) (fun {w t c e} hw ht _ he _ ih => ?_) trivial
  exact exec_concerns he (sound_of_reachable hw t ht) ih

/-- **A round that runs is past the pause**, in every reachable world. -/
theorem passed_of_reachable (hbackoff : 0 < config.coordinator.blameFullAbortBackoffSecs)
    (hr : Reachable (coordinator E config) (startup fresh banList) w) :
    Passed w.shared w.log := by
  refine hr.shared Passed (fun _ => True) (fun _ _ _ => trivial) (fun _ now _ => Nat.zero_le now)
    (fun {w t c e} hw ht _ he _ ih => ?_) trivial
  exact ih.exec he (sound_of_reachable hw t ht) hbackoff (concerns_of_reachable hw)

/-- **The count never exceeds the cap.** -/
theorem blameRoundCount_le (hbackoff : 0 < config.coordinator.blameFullAbortBackoffSecs)
    (hr : Reachable (coordinator E config) (startup fresh banList) w) :
    w.shared.blameRoundCount ≤ consecutiveBlameCap := by
  refine hr.shared (fun s _ => s.blameRoundCount ≤ consecutiveBlameCap) (fun _ => True)
    (fun _ _ _ => trivial) (Nat.zero_le _) (fun {w t c e} _ _ _ he _ ih => ?_) trivial
  cases exec_backoff he hbackoff with
  | keeps hcount => exact hcount ▸ ih
  | clears hcount => rw [hcount]; exact Nat.zero_le _
  | counts hlt hcount => rw [hcount]; exact hlt
  | arms _ _ _ hcount => rw [hcount]; exact Nat.zero_le _

/-- **A pause is never shortened**: the round that arms it was started past the
pause before. -/
theorem paused_lt_of_arms (hbackoff : 0 < config.coordinator.blameFullAbortBackoffSecs)
    (hr : Ran (coordinator E config) (startup fresh banList) h w) (hclock : ClockForward w.log)
    (hx : x ∈ h) {now : ℕ} (hbusy : x.world.shared.round.phase ≠ .idle)
    (hread : .clock now ∈ x.effect.events) :
    x.world.shared.roundPausedUntil < now + config.coordinator.blameFullAbortBackoffSecs := by
  obtain ⟨hreach, -, -⟩ := hr.of_mem hx
  obtain ⟨es, hlog⟩ := hr.exists_log_eq hx
  have hforward : ClockForward (x.effect.events ++ x.world.log) := (hlog ▸ hclock).of_append
  -- a round that runs was started past the pause, and time went on since
  have hle := passed_of_reachable hbackoff hreach (Or.inl hbusy) now (hforward.le hread)
  omega

/-- From then on, the pause ends no sooner. -/
theorem paused_le_of_mem (hbackoff : 0 < config.coordinator.blameFullAbortBackoffSecs)
    (hr : Ran (coordinator E config) (startup fresh banList) (h₂ ++ x :: h₁) w)
    (hclock : ClockForward w.log) {resumeAt : ℕ}
    (hx : resumeAt ≤ x.effect.shared.roundPausedUntil) :
    resumeAt ≤ w.shared.roundPausedUntil := by
  refine hr.split.2.2.2.keeps (fun s => resumeAt ≤ s.roundPausedUntil) (fun y hy he ih => ?_) hx
  cases exec_backoff he hbackoff with
  | keeps _ hpaused => rw [hpaused]; exact ih
  | clears _ hpaused => rw [hpaused]; exact ih
  | counts _ _ hpaused => rw [hpaused]; exact ih
  | arms hbusy _ _ _ hread hpaused =>
    rw [hpaused]
    -- a later pause ends later
    exact ih.trans (paused_lt_of_arms hbackoff hr hclock (List.mem_append_left _ hy) hbusy hread).le

/-- An unproductive round arms the pause, or is counted. -/
theorem arms_or_counts (hbackoff : 0 < config.coordinator.blameFullAbortBackoffSecs)
    (hr : Ran (coordinator E config) (startup fresh banList) h w) (hclock : ClockForward w.log)
    (hx : x ∈ h) (hblames : Blames x.effect) :
    (∃ resumeAt, ArmsPause x resumeAt) ∨
      (x.world.shared.blameRoundCount < consecutiveBlameCap ∧
        x.effect.shared.blameRoundCount = x.world.shared.blameRoundCount + 1) := by
  cases exec_backoff (hr.of_mem hx).2.2 hbackoff with
  | keeps _ _ hb => exact absurd hblames hb
  | clears _ _ hb => exact absurd hblames hb
  | counts hlt hcount => exact Or.inr ⟨hlt, hcount⟩
  | arms hbusy _ _ _ hread hpaused =>
    have hlt := paused_lt_of_arms hbackoff hr hclock hx hbusy hread
    exact Or.inl ⟨_, hpaused, hlt.ne⟩

/-- Where no round leads to nothing and none clears the count, it stays. -/
theorem blameRoundCount_eq_of_quiet (hbackoff : 0 < config.coordinator.blameFullAbortBackoffSecs)
    {w₀ : World Coordinator Task Event} (hr : Ran (coordinator E config) w₀ h w)
    (hquiet : ∀ y ∈ h, ¬Blames y.effect ∧ ¬Clears y.effect) :
    w.shared.blameRoundCount = w₀.shared.blameRoundCount := by
  refine hr.keeps (fun s => s.blameRoundCount = w₀.shared.blameRoundCount) (fun y hy he ih => ?_)
    rfl
  cases exec_backoff he hbackoff with
  | keeps hcount => exact hcount.trans ih
  | clears _ _ _ hc => exact absurd hc (hquiet y hy).2
  | counts _ _ _ hb => exact absurd hb (hquiet y hy).1
  | arms _ _ _ _ _ _ hb => exact absurd hb (hquiet y hy).1

/-- **Three unproductive rounds in a row arm a pause.** -/
theorem exists_arms_of_three (hbackoff : 0 < config.coordinator.blameFullAbortBackoffSecs)
    (hr : Ran (coordinator E config) (startup fresh banList) h w) (hclock : ClockForward w.log)
    {x₁ x₂ x₃ : Step} (hthree : ThreeInARow h x₁ x₂ x₃) :
    ∃ x ∈ [x₁, x₂, x₃], ∃ resumeAt, ArmsPause x resumeAt := by
  obtain ⟨h₄, h₃, h₂, h₁, rfl, hb₁, hb₂, hb₃, hquiet⟩ := hthree
  obtain ⟨hr₃, -⟩ := hr.split
  obtain ⟨hr₂, -, -, hafter₂⟩ := hr₃.split
  obtain ⟨-, -, -, hafter₁⟩ := hr₂.split
  have hcount₃ : x₃.world.shared.blameRoundCount = x₂.effect.shared.blameRoundCount :=
    blameRoundCount_eq_of_quiet hbackoff hafter₂ fun y hy => hquiet y (List.mem_append_left _ hy)
  have hcount₂ : x₂.world.shared.blameRoundCount = x₁.effect.shared.blameRoundCount :=
    blameRoundCount_eq_of_quiet hbackoff hafter₁ fun y hy => hquiet y (List.mem_append_right _ hy)
  have hcap : consecutiveBlameCap = 2 := rfl
  -- three rounds that count would take the count past the cap
  rcases arms_or_counts hbackoff hr hclock (by simp) hb₁ with harms | ⟨-, hone⟩
  · exact ⟨x₁, by simp, harms⟩
  · rcases arms_or_counts hbackoff hr hclock (by simp) hb₂ with harms | ⟨-, htwo⟩
    · exact ⟨x₂, by simp, harms⟩
    · rcases arms_or_counts hbackoff hr hclock (by simp) hb₃ with harms | ⟨hlt, -⟩
      · exact ⟨x₃, by simp, harms⟩
      · omega

/-- What arms a pause ends a round, while the monitor is not starting one. -/
theorem ArmsPause.ends (hbackoff : 0 < config.coordinator.blameFullAbortBackoffSecs)
    (hr : Ran (coordinator E config) (startup fresh banList) h w) (hx : x ∈ h) {resumeAt : ℕ}
    (harms : ArmsPause x resumeAt) :
    x.world.shared.round.phase ≠ .idle ∧ x.effect.shared.round.phase = .idle ∧
      ∀ r, ¬x.effect.shared.monitor.pc.starts r := by
  obtain ⟨hreach, -, he⟩ := hr.of_mem hx
  obtain ⟨hstored, hne⟩ := harms
  cases exec_backoff he hbackoff with
  | keeps _ hpaused => exact absurd (hpaused.symm.trans hstored) hne
  | clears _ hpaused => exact absurd (hpaused.symm.trans hstored) hne
  | counts _ _ hpaused => exact absurd (hpaused.symm.trans hstored) hne
  | arms hbusy hidle hmonitor =>
    refine ⟨hbusy, hidle, fun r hstarts => ?_⟩
    rw [hmonitor] at hstarts
    exact hbusy (concerns_of_reachable hreach r (MonitorPc.concerns_of_starts hstarts)).1

/-- A monitor that is starting a round set out to after the pause was armed. -/
theorem exists_attempt_of_starts {w₀ : World Coordinator Task Event}
    (hr : Ran (coordinator E config) w₀ h w) (hnone : ∀ r, ¬w₀.shared.monitor.pc.starts r) :
    ∀ r, w.shared.monitor.pc.starts r → ∃ h₂ z h₁, h = h₂ ++ z :: h₁ ∧
      .startAttempted r ∈ z.effect.events ∧
      ∀ u ∈ h₂, ∀ r', .startAttempted r' ∉ u.effect.events := by
  refine hr.shared (fun h s => ∀ r, s.monitor.pc.starts r → ∃ h₂ z h₁, h = h₂ ++ z :: h₁ ∧
      .startAttempted r ∈ z.effect.events ∧
      ∀ u ∈ h₂, ∀ r', .startAttempted r' ∉ u.effect.events)
    (fun r hstarts => absurd hstarts (hnone r)) (fun {h x} _ _ he ih r hstarts => ?_)
  rcases exec_starts he hstarts with ⟨hstarts, hquiet⟩ | hattempt
  · obtain ⟨h₂, z, h₁, rfl, hz, hlater⟩ := ih r hstarts
    refine ⟨x :: h₂, z, h₁, rfl, hz, fun u hu => ?_⟩
    rcases List.mem_cons.mp hu with rfl | hu
    · exact hquiet
    · exact hlater u hu
  · exact ⟨[], x, h, rfl, hattempt, by simp⟩

end Runs

variable {E : Externals} {config : CoordinatorConfig} {fresh : Uuid} {banList : BanList}
  {w : World Coordinator Task Event} {h : List Step}

/-- **The count and the pause**, in every run, with a backoff configured and a
clock that never goes back. The count never exceeds the cap, and three
unproductive rounds in a row arm a pause. What arms a pause ends a round: the
round ran before it, and the world it leaves, in which the round is idle, has the
pause armed already. From then on the pause ends no sooner, no tick that reads an
earlier time sets out to start a round, and the last tick before a round is
started, which set out to start it, read no earlier time. -/
theorem pause_respected (hbackoff : 0 < config.coordinator.blameFullAbortBackoffSecs)
    (hr : Ran (coordinator E config) (startup fresh banList) h w) (hclock : ClockForward w.log) :
    w.shared.blameRoundCount ≤ consecutiveBlameCap ∧
    (∀ x₁ x₂ x₃, ThreeInARow h x₁ x₂ x₃ → ∃ x ∈ [x₁, x₂, x₃], ∃ resumeAt, ArmsPause x resumeAt) ∧
    ∀ h₂ x h₁ resumeAt, h = h₂ ++ x :: h₁ → ArmsPause x resumeAt →
      (x.world.shared.round.phase ≠ .idle ∧ x.after.shared.round.phase = .idle ∧
        x.after.shared.roundPausedUntil = resumeAt) ∧
      resumeAt ≤ w.shared.roundPausedUntil ∧
      (∀ y ∈ h₂, ∀ r, .startAttempted r ∈ y.effect.events →
        .clock y.choice.now ∈ y.effect.events ∧ resumeAt ≤ y.choice.now) ∧
      ∀ h₄ y h₃ r material, h₂ = h₄ ++ y :: h₃ →
        .installed r material ∈ roundEvents y.effect.events →
        ∃ h₆ z h₅, h₃ = h₆ ++ z :: h₅ ∧ .startAttempted r ∈ z.effect.events ∧
          .clock z.choice.now ∈ z.effect.events ∧ resumeAt ≤ z.choice.now ∧
          ∀ u ∈ h₆, ∀ r', .startAttempted r' ∉ u.effect.events := by
  refine ⟨blameRoundCount_le hbackoff hr.reachable,
    fun x₁ x₂ x₃ hthree => exists_arms_of_three hbackoff hr hclock hthree, ?_⟩
  rintro h₂ x h₁ resumeAt rfl harms
  obtain ⟨hbusy, hidle, hnone⟩ := harms.ends hbackoff hr (by simp)
  have hattempts : ∀ y ∈ h₂, ∀ r, .startAttempted r ∈ y.effect.events →
      .clock y.choice.now ∈ y.effect.events ∧ resumeAt ≤ y.choice.now := by
    intro y hy r hattempt
    -- the pause was no shorter when `y` read the clock
    obtain ⟨h₄, h₃, rfl⟩ := List.append_of_mem hy
    rw [List.append_assoc, List.cons_append] at hr
    obtain ⟨hry, -, he, -⟩ := hr.split
    obtain ⟨es, hlog⟩ := hr.exists_log_eq (x := y) (by simp)
    have hforward : ClockForward y.world.log := ((hlog ▸ hclock).of_append).of_append
    have hpaused := paused_le_of_mem hbackoff hry hforward harms.1.ge
    obtain ⟨hle, hread, -⟩ := exec_startAttempted he hattempt
    exact ⟨hread, hpaused.trans hle⟩
  refine ⟨⟨hbusy, hidle, harms.1⟩, paused_le_of_mem hbackoff hr hclock harms.1.ge, hattempts, ?_⟩
  rintro h₄ y h₃ r material rfl hinstalled
  obtain ⟨-, -, -, hafter⟩ := hr.split
  -- the monitor was not starting a round when the pause was armed, so the tick that
  -- set out for this one came later
  obtain ⟨hbefore, -, he, -⟩ := hafter.split
  obtain ⟨h₆, z, h₅, rfl, hz, hlater⟩ :=
    exists_attempt_of_starts hbefore hnone r (exec_installed he hinstalled)
  obtain ⟨hread, hle⟩ := hattempts z (by simp) r hz
  exact ⟨h₆, z, h₅, rfl, hz, hread, hle, hlater⟩

/-! ### The recorded session -/

/-- The signing deadline of the session at an absurd fee rate passes. -/
def missedDeadline : Choice where
  now := 1760000200
  later := 1760000200
  fresh := secondRound
  keys := [firstCoin.toText, secondCoin.toText]

/-- The session at an absurd fee rate, whose signing deadline nobody missed; then a
tick before the pause ends, and a round that is started when it has ended. -/
def pausedMoves : List Move :=
  highFeeSignedMoves ++ [.run 0 {}, .run 7 missedDeadline] ++
    [.run 0 {}, .run 0 { now := 1760000300 }] ++
    [.run 0 {}, .run 0 { now := 1760000500 }, .run 0 { keygen := some secondKeys }, .run 0 {}]

/-- The run of the session. -/
def pausedRun : List Step × World Coordinator Task Event :=
  recorded highFee.externalsWithLimit highFeeConfig pausedMoves

theorem pausedRun_ran : Ran (coordinator highFee.externalsWithLimit highFeeConfig)
    (startup firstRound .new) pausedRun.1 pausedRun.2 :=
  recorded_ran highFee.externalsWithLimit highFeeConfig pausedMoves

/-- The clock of the session never goes back, its signing deadline arms a pause, and
after that a round is set out for. -/
theorem pausedRun_arms :
    ClockForward pausedRun.2.log ∧ ∃ h₂ x h₁, pausedRun.1 = h₂ ++ x :: h₁ ∧
      ArmsPause x 1760000500 ∧ ∃ y ∈ h₂, .startAttempted secondRound ∈ y.effect.events := by
  have hrun : (readings pausedRun.2.log).Pairwise (· ≥ ·) ∧
      ((pausedRun.1.drop 6).head?.any fun x => x.effect.shared.roundPausedUntil = 1760000500 ∧
        x.world.shared.roundPausedUntil ≠ 1760000500) = true ∧
      ∃ y ∈ pausedRun.1.take 6, .startAttempted secondRound ∈ y.effect.events := by
    decide +kernel
  generalize pausedRun = run at hrun ⊢
  obtain ⟨hclock, harms, hattempt⟩ := hrun
  obtain ⟨x, hhead, harms⟩ := (Option.any_eq_true _ _).mp harms
  obtain ⟨h₁, hdrop⟩ := List.head?_eq_some_iff.mp hhead
  obtain ⟨hstored, hbefore⟩ := of_decide_eq_true harms
  refine ⟨hclock, run.1.take 6, x, h₁, ?_, ⟨hstored, hbefore⟩, hattempt⟩
  rw [← hdrop, List.take_append_drop]

theorem pause_respected_session :
    pausedRun.2.shared.blameRoundCount ≤ consecutiveBlameCap ∧
    ∃ h₂ x h₁, pausedRun.1 = h₂ ++ x :: h₁ ∧ ArmsPause x 1760000500 ∧
      x.after.shared.round.phase = .idle ∧ x.after.shared.roundPausedUntil = 1760000500 ∧
      ∃ y ∈ h₂, .startAttempted secondRound ∈ y.effect.events ∧ 1760000500 ≤ y.choice.now := by
  obtain ⟨hclock, h₂, x, h₁, hsplit, harms, y, hy, hattempt⟩ := pausedRun_arms
  obtain ⟨hcount, -, hpause⟩ := pause_respected (by decide) pausedRun_ran hclock
  obtain ⟨⟨-, hidle, hpaused⟩, -, hattempts, -⟩ := hpause h₂ x h₁ _ hsplit harms
  exact ⟨hcount, h₂, x, h₁, hsplit, harms, hidle, hpaused, y, hy, hattempt,
    (hattempts y hy _ hattempt).2⟩

end Blindjoin
