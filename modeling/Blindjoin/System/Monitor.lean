import Mathlib.Logic.Relation
import Blindjoin.System.History

/-!
# The phase monitor

The monitor polls the round. For each round and each phase with a deadline it
spawns one timer, and it starts a round whenever it finds an idle one, unless it
is paused. It remembers what it did in five variables, the rounds it last acted
for.

`Blindjoin.MonitorInv` relates these variables to the round and the log. It
follows that the coordinator cannot get stuck (`Blindjoin.monitor_never_stuck`):
**whatever was observed has its one timer**, a timer that finds its round in its
phase makes it leave this phase, and an idle round is started at the next tick,
whatever became of the attempts before.
-/

namespace Blindjoin

open Interleaving Collections

/-! ### Statement -/

/-- The phases a timer may leave a phase for. -/
def Phase.afterDeadline : Phase → List Phase
  | .inputReg => [.outputReg, .idle]
  | .outputReg => [.signing, .idle]
  | .signing => [.idle]
  | .broadcast => [.idle]
  | .idle => []
  | .blame => []

/-- One successful change of phase. -/
def RoundState.Transits (fresh : Uuid) (s s' : RoundState) : Prop :=
  ∃ next, s.transitionTo next fresh = .ok s'

/-- Whether a task is the timer of a phase of a round. -/
def Task.timesOut (roundId : Uuid) (phase : Phase) : Task → Bool
  | .timer id p => id = roundId ∧ p = phase
  | _ => false

/-- The round the monitor has set out to start, before it is paused or not. -/
def MonitorPc.concerns : MonitorPc → Uuid → Prop
  | .head, _ => False
  | .pauseCheck id, roundId => id = roundId
  | .generating id, roundId => id = roundId
  | .installing id _, roundId => id = roundId

/-- The round the monitor is starting. -/
def MonitorPc.starts : MonitorPc → Uuid → Prop
  | .generating id, roundId => id = roundId
  | .installing id _, roundId => id = roundId
  | _, _ => False

/-- Whether an event tells of a tick of the monitor: what it read, or armed. -/
def Event.ofTick : Event → Bool
  | .observed _ _ => true
  | .armed _ _ => true
  | _ => false

/-- **The invariant of the monitor.** -/
structure MonitorInv (m : Monitor) (round : RoundState) (log : List Event) : Prop where
  current : round.roundId ∈ mints (roundEvents log)
  last_armed : ∀ p r, p.timed = true → m.last p = some r → .armed r p ∈ log
  armed_last : ∀ r p, .armed r p ∈ log → p.timed = true ∧ r ∈ mints (roundEvents log) ∧
    (r = round.roundId → m.last p = some r)
  observed_armed : ∀ r p, p.timed = true → .observed r p ∈ log → .armed r p ∈ log
  once : ∀ r p, log.count (.armed r p) ≤ 1
  started : ∀ r, m.lastIdleStartRound = some r →
    r ∈ mints (roundEvents log) ∧ (r = round.roundId → round.phase = .idle → m.pc.starts r)
  starting : ∀ r, m.pc.concerns r → round.phase = .idle ∧ round.roundId = r

/-! ### The moves of the monitor -/

section Moves

variable {m : Monitor} {round round' : RoundState} {log es : List Event} {r : Uuid}

theorem mem_mints_append (h : r ∈ mints (roundEvents log)) :
    r ∈ mints (roundEvents (es ++ log)) := by
  rw [roundEvents_append, mints, List.filterMap_append]
  exact List.mem_append_right _ h

theorem Monitor.last_arm_self {p : Phase} (h : p.timed = true) :
    (m.arm r p).last p = some r := by
  cases p <;> first | rfl | exact absurd h (by decide)

theorem Monitor.last_arm_of_ne {p q : Phase} (h : q ≠ p) : (m.arm r p).last q = m.last q := by
  cases p <;> cases q <;> first | rfl | exact absurd rfl h

theorem Monitor.lastIdleStartRound_arm (p : Phase) :
    (m.arm r p).lastIdleStartRound = m.lastIdleStartRound := by
  cases p <;> rfl

@[simp] theorem Monitor.pc_arm (p : Phase) : (m.arm r p).pc = m.pc := by
  cases p <;> rfl

/-- The monitor moves on in starting a round. -/
def Monitor.goto (m : Monitor) (last : Option Uuid) (pc : MonitorPc) : Monitor :=
  { m with lastIdleStartRound := last, pc := pc }

theorem Monitor.last_goto {p : Phase} {last : Option Uuid} {pc : MonitorPc} (h : p.timed = true) :
    (m.goto last pc).last p = m.last p := by
  cases p <;> first | rfl | exact absurd h (by decide)

/-- What is no move of the monitor does not disturb it: a round it is about to
start is left alone, and a round that replaces another has an id the monitor
never saw. -/
theorem MonitorInv.quiet (h : MonitorInv m round log) (hes : ∀ ev ∈ es, ev.ofTick = false)
    (hidle : round.phase = .idle → round' = round)
    (hround : (round'.roundId = round.roundId ∧ (round'.phase = .idle → round.phase = .idle)) ∨
      round'.roundId ∉ mints (roundEvents log))
    (hcurrent : round'.roundId ∈ mints (roundEvents (es ++ log))) :
    MonitorInv m round' (es ++ log) := by
  have hmem : ∀ ev : Event, ev.ofTick = true → ev ∈ es ++ log → ev ∈ log := by
    intro ev hev hin
    rcases List.mem_append.mp hin with hin | hin
    · exact absurd (hes ev hin) (by simp [hev])
    · exact hin
  refine ⟨hcurrent, fun p r hp hlast => List.mem_append_right _ (h.last_armed p r hp hlast),
    fun r p harmed => ?_, fun r p hp hobs => ?_, fun r p => ?_, fun r hr => ?_, fun r hr => ?_⟩
  · obtain ⟨hp, hminted, hlast⟩ := h.armed_last r p (hmem _ rfl harmed)
    refine ⟨hp, mem_mints_append hminted, fun heq => ?_⟩
    rcases hround with ⟨hid, -⟩ | hnew
    · exact hlast (heq.trans hid)
    · exact absurd (heq ▸ hminted) hnew
  · exact List.mem_append_right _ (h.observed_armed r p hp (hmem _ rfl hobs))
  · have hzero : es.count (.armed r p) = 0 :=
      List.count_eq_zero.mpr fun hin => absurd (hes _ hin) (by simp [Event.ofTick])
    rw [List.count_append, hzero, Nat.zero_add]
    exact h.once r p
  · obtain ⟨hminted, hstarts⟩ := h.started r hr
    refine ⟨mem_mints_append hminted, fun heq hphase => ?_⟩
    rcases hround with ⟨hid, hback⟩ | hnew
    · exact hstarts (heq.trans hid) (hback hphase)
    · exact absurd (heq ▸ hminted) hnew
  · obtain ⟨hphase, hid⟩ := h.starting r hr
    rw [hidle hphase]
    exact ⟨hphase, hid⟩

/-- What the log says beside the moves of the monitor is of no concern to it. -/
theorem MonitorInv.append (h : MonitorInv m round log) (hes : ∀ ev ∈ es, ev.ofTick = false) :
    MonitorInv m round (es ++ log) :=
  h.quiet hes (fun _ => rfl) (Or.inl ⟨rfl, id⟩) (mem_mints_append h.current)

/-- The monitor moves on in starting a round, and remembers which. -/
theorem MonitorInv.goto (h : MonitorInv m round log) {last : Option Uuid} {pc : MonitorPc}
    (hstarted : ∀ r, last = some r →
      r ∈ mints (roundEvents log) ∧ (r = round.roundId → round.phase = .idle → pc.starts r))
    (hstarting : ∀ r, pc.concerns r → round.phase = .idle ∧ round.roundId = r) :
    MonitorInv (m.goto last pc) round log where
  current := h.current
  last_armed p r hp hlast := h.last_armed p r hp (Monitor.last_goto hp ▸ hlast)
  armed_last r p harmed := by
    obtain ⟨hp, hminted, hlast⟩ := h.armed_last r p harmed
    exact ⟨hp, hminted, fun heq => (Monitor.last_goto hp).trans (hlast heq)⟩
  observed_armed := h.observed_armed
  once := h.once
  started := hstarted
  starting := hstarting

/-- The monitor reads a round whose phase has no timer, or has it already. -/
theorem MonitorInv.observe (h : MonitorInv m round log)
    (hlast : round.phase.timed = true → m.last round.phase = some round.roundId) :
    MonitorInv m round (.observed round.roundId round.phase :: log) where
  current := h.current
  last_armed p r hp hl := List.mem_cons_of_mem _ (h.last_armed p r hp hl)
  armed_last r p harmed := by
    rcases List.mem_cons.mp harmed with heq | harmed
    · exact absurd heq (by simp)
    · exact h.armed_last r p harmed
  observed_armed r p hp hobs := by
    rcases List.mem_cons.mp hobs with heq | hobs
    · obtain ⟨rfl, rfl⟩ := Event.observed.inj heq
      -- the monitor remembers this round, so its timer was armed earlier
      exact List.mem_cons_of_mem _ (h.last_armed _ _ hp (hlast hp))
    · exact List.mem_cons_of_mem _ (h.observed_armed r p hp hobs)
  once r p := by
    rw [List.count_cons_of_ne (by simp)]
    exact h.once r p
  started := h.started
  starting := h.starting

/-- The monitor arms the timer of the round it reads, which has none. -/
theorem MonitorInv.arm (h : MonitorInv m round log) (hp : round.phase.timed = true)
    (hlast : m.last round.phase ≠ some round.roundId) :
    MonitorInv (m.arm round.roundId round.phase) round
      (.armed round.roundId round.phase :: .observed round.roundId round.phase :: log) where
  current := h.current
  last_armed p r hp' hl := by
    by_cases heq : p = round.phase
    · rw [heq, Monitor.last_arm_self hp, Option.some.injEq] at hl
      rw [heq, hl]
      exact List.mem_cons_self
    · rw [Monitor.last_arm_of_ne heq] at hl
      exact List.mem_cons_of_mem _ (List.mem_cons_of_mem _ (h.last_armed p r hp' hl))
  armed_last r p harmed := by
    rcases List.mem_cons.mp harmed with heq | harmed
    · obtain ⟨rfl, rfl⟩ := Event.armed.inj heq
      exact ⟨hp, h.current, fun _ => Monitor.last_arm_self hp⟩
    · rcases List.mem_cons.mp harmed with heq | harmed
      · exact absurd heq (by simp)
      · obtain ⟨hp', hminted, hl⟩ := h.armed_last r p harmed
        refine ⟨hp', hminted, fun hr => ?_⟩
        -- a timer of this round and phase was not armed before, or the monitor would
        -- remember it
        by_cases heq : p = round.phase
        · exact absurd (heq ▸ hr ▸ hl hr) hlast
        · rw [Monitor.last_arm_of_ne heq]
          exact hl hr
  observed_armed r p hp' hobs := by
    rcases List.mem_cons.mp hobs with heq | hobs
    · exact absurd heq (by simp)
    · rcases List.mem_cons.mp hobs with heq | hobs
      · obtain ⟨rfl, rfl⟩ := Event.observed.inj heq
        exact List.mem_cons_self
      · exact List.mem_cons_of_mem _ (List.mem_cons_of_mem _ (h.observed_armed r p hp' hobs))
  once r p := by
    by_cases heq : r = round.roundId ∧ p = round.phase
    · obtain ⟨rfl, rfl⟩ := heq
      have hzero : log.count (.armed round.roundId round.phase) = 0 :=
        List.count_eq_zero.mpr fun harmed => hlast ((h.armed_last _ _ harmed).2.2 rfl)
      rw [List.count_cons_self, List.count_cons_of_ne (by simp), hzero]
    · rw [List.count_cons_of_ne (fun he => heq (by simpa [eq_comm] using he)),
        List.count_cons_of_ne (by simp)]
      exact h.once r p
  started r hr := by
    rw [Monitor.lastIdleStartRound_arm] at hr
    rw [Monitor.pc_arm]
    exact h.started r hr
  starting r hr := h.starting r (by simpa using hr)

/-- The monitor starts a round: it is no longer idle. -/
theorem MonitorInv.install (h : MonitorInv m round log) (hid : round'.roundId = round.roundId)
    (hphase : round'.phase ≠ .idle) (ev : RoundEvent) :
    MonitorInv (m.goto m.lastIdleStartRound .head) round' (.round ev :: log) := by
  have hround : ∀ e ∈ [Event.round ev], e.ofTick = false := by
    intro e he
    obtain rfl := List.mem_singleton.mp he
    rfl
  have hlog : MonitorInv m round (.round ev :: log) := h.append hround
  -- starting a round arms nothing, and what was armed keeps the same id
  refine ⟨hid ▸ hlog.current, fun p r hp hlast => hlog.last_armed p r hp
    (Monitor.last_goto hp ▸ hlast), fun r p harmed => ?_, hlog.observed_armed, hlog.once,
    fun r hr => ⟨(hlog.started r hr).1, fun _ hidle => absurd hidle hphase⟩,
    fun _ hr => absurd hr id⟩
  obtain ⟨hp, hminted, hlast⟩ := hlog.armed_last r p harmed
  exact ⟨hp, hminted, fun heq => (Monitor.last_goto hp).trans (hlast (heq.trans hid))⟩

end Moves

/-! ### Sections -/

section Sections

variable {E : Externals} {config : CoordinatorConfig} {s : Coordinator} {c : Choice}
  {t : Task} {e : Section} {log : List Event} {roundId : Uuid}

/-- A tick: the monitor reads the round, and arms its timer or sets out to start
it. -/
theorem MonitorInv.tick (h : MonitorInv s.monitor s.round log) (hpc : s.monitor.pc = .head) :
    MonitorInv (monitorSection E s c).shared.monitor (monitorSection E s c).shared.round
      ((monitorSection E s c).events ++ log) := by
  simp only [monitorSection, hpc]
  split
  · next hidle =>
    have hobs : MonitorInv s.monitor s.round (.observed s.round.roundId s.round.phase :: log) :=
      h.observe (by simp [hidle.1, Phase.timed])
    refine hobs.goto (fun r hr => ?_) (fun r hr => ⟨hidle.1, hr⟩)
    exact ⟨(h.started r hr).1, fun heq _ => absurd (heq ▸ hr) hidle.2⟩
  · split
    · next harm => exact h.arm harm.1 harm.2
    · next hnot =>
      refine h.observe fun hp => ?_
      by_contra hne
      exact hnot ⟨hp, hne⟩

/-- The monitor waits out a pause, or goes on to generate the keys. -/
theorem MonitorInv.checkPause (h : MonitorInv s.monitor s.round log)
    (hpc : s.monitor.pc = .pauseCheck roundId) :
    MonitorInv (monitorSection E s c).shared.monitor (monitorSection E s c).shared.round
      ((monitorSection E s c).events ++ log) := by
  have hstarting := h.starting
  have hstarted := h.started
  simp only [hpc, MonitorPc.concerns, MonitorPc.starts] at hstarting hstarted
  simp only [monitorSection, hpc]
  split
  · refine (h.goto (fun r hr => ?_) fun _ hr => absurd hr id).append (by simp [Event.ofTick])
    exact hstarted r hr
  · have hgoto : MonitorInv (s.monitor.goto (some roundId) (.generating roundId)) s.round log :=
      h.goto (fun r hr => ⟨(hstarting r (Option.some.inj hr)).2 ▸ h.current, fun _ _ =>
        Option.some.inj hr⟩) hstarting
    exact hgoto.append (by simp [Event.ofTick])

/-- Key generation ends: on to install the keys, or back to try again. -/
theorem MonitorInv.generate (h : MonitorInv s.monitor s.round log)
    (hpc : s.monitor.pc = .generating roundId) :
    MonitorInv (monitorSection E s c).shared.monitor (monitorSection E s c).shared.round
      ((monitorSection E s c).events ++ log) := by
  have hstarting := h.starting
  have hstarted := h.started
  simp only [hpc, MonitorPc.concerns, MonitorPc.starts] at hstarting hstarted
  simp only [monitorSection, hpc]
  split
  · exact h.goto hstarted hstarting
  · exact h.goto (fun _ hr => absurd hr (by simp)) fun _ hr => absurd hr id

/-- The keys are installed: nothing but the monitor starts a round, so the round
is still idle. -/
theorem MonitorInv.start (h : MonitorInv s.monitor s.round log) {material : RoundMaterial}
    (hpc : s.monitor.pc = .installing roundId material) :
    MonitorInv (monitorSection E s c).shared.monitor (monitorSection E s c).shared.round
      ((monitorSection E s c).events ++ log) := by
  have hstarting := h.starting
  simp only [hpc, MonitorPc.concerns] at hstarting
  obtain ⟨hidle, hid⟩ := hstarting roundId rfl
  simp only [monitorSection, hpc, hidle, hid, ne_eq, not_true_eq_false, or_self, if_false,
    installRound_of_idle hidle]
  have hround : ({ s.round.withMaterial material with phase := .inputReg } : RoundState).roundId =
      s.round.roundId := rfl
  exact h.install hround (by simp) _

/-- **Every section of the monitor keeps the invariant.** -/
theorem MonitorInv.monitorSection (h : MonitorInv s.monitor s.round log) :
    MonitorInv (monitorSection E s c).shared.monitor (monitorSection E s c).shared.round
      ((monitorSection E s c).events ++ log) := by
  cases hpc : s.monitor.pc with
  | head => exact h.tick hpc
  | pauseCheck roundId => exact h.checkPause hpc
  | generating roundId => exact h.generate hpc
  | installing roundId material => exact h.start hpc

/-- **Other tasks do not touch the monitor**, and tell of no tick. -/
theorem Acts.monitor_eq (h : Acts E config s c t e) (ht : t ≠ .monitor) :
    e.shared.monitor = s.monitor ∧ ∀ ev ∈ e.events, ev.ofTick = false := by
  constructor
  · cases h with
    | monitor => exact absurd rfl ht
    | @timer roundId phase =>
      cases phase with
      | signing =>
        simp only [timerSection]
        split
        · rfl
        · rfl
      | _ => rfl
    | _ => rfl
  · intro ev hev
    rcases h.mem_events ht hev with ⟨_, rfl⟩ | ⟨_, rfl⟩
    · rfl
    · rfl

/-- A step from an idle round is the start of the round, or none. -/
theorem RoundStep.of_idle {round round' : RoundState} {es : List RoundEvent} {fresh : Uuid}
    (h : RoundStep E config fresh round es round') (hidle : round.phase = .idle) :
    round' = round ∨ ∃ material, .installed round.roundId material ∈ es := by
  cases h with
  | unchanged => exact Or.inl rfl
  | install _ material => exact Or.inr ⟨material, List.mem_singleton_self _⟩
  | registerInput h => exact absurd hidle (by simp [h.phase])
  | registerOutput h => exact absurd hidle (by simp [h.phase])
  | finish h => cases h <;> simp_all
  | _ => simp_all

/-- Other tasks leave an idle round alone. -/
theorem exec_of_idle (h : exec E config s t c = some e) (hsound : t.Sound E config)
    (ht : t ≠ .monitor) (hidle : s.round.phase = .idle) : e.shared.round = s.round := by
  obtain ⟨es, hstep, hes⟩ := exec_roundStep h hsound
  rcases hstep.of_idle hidle with heq | ⟨material, hin⟩
  · exact heq
  · have hev : .installed s.round.roundId material ∈ roundEvents e.events :=
      hes ▸ List.mem_append_right _ hin
    rcases exec_emits h hev with hphase | hemits
    · rcases mem_phaseEvents hphase with heq | heq <;> exact absurd heq (by simp)
    · cases hemits with
      | installed => exact absurd rfl ht

theorem ofTick_map_round (es : List RoundEvent) :
    ∀ ev ∈ es.map Event.round, ev.ofTick = false := by
  intro ev hev
  obtain ⟨_, -, rfl⟩ := List.mem_map.mp hev
  rfl

/-- **Every section keeps the invariant**, when the ids it draws are new. -/
theorem MonitorInv.exec (h : MonitorInv s.monitor s.round log)
    (hexec : exec E config s t c = some e) (hsound : t.Sound E config)
    (hfresh : (mints (roundEvents (e.events ++ log))).Nodup) :
    MonitorInv e.shared.monitor e.shared.round (e.events ++ log) := by
  obtain ⟨hiter, e', he', heq⟩ := exec_eq_some hexec
  by_cases ht : t = .monitor
  · subst ht heq
    obtain rfl := Option.some.inj he'
    rw [List.append_assoc]
    exact h.monitorSection.append (ofTick_map_round _)
  · obtain ⟨hmonitor, htick⟩ :
        e.shared.monitor = s.monitor ∧ ∀ ev ∈ e.events, ev.ofTick = false := by
      subst heq
      rcases taskSection_cases he' with ⟨next, rfl⟩ | hacts
      · exact ⟨rfl, by simpa [proceed] using ofTick_map_round _⟩
      · obtain ⟨hmonitor, htick⟩ := hacts.monitor_eq ht
        exact ⟨hmonitor, fun ev hev => (List.mem_append.mp hev).elim (ofTick_map_round _ ev)
          (htick ev)⟩
    rw [hmonitor]
    obtain ⟨es, hstep, hes⟩ := exec_roundStep hexec hsound
    refine h.quiet htick (exec_of_idle hexec hsound ht) ?_ ?_
    · rcases hstep.phase with ⟨hid, hphase⟩ | ⟨hne, hnew⟩
      · refine Or.inl ⟨hid, fun hidle => ?_⟩
        rcases hphase with hp | hf
        · exact hp ▸ hidle
        · exact absurd hidle hf.target.1
      · refine Or.inr fun hin => ?_
        -- the next round has an id that the log does not know yet
        rw [roundEvents_append, hes, hnew, phaseEvents_newIdle hne] at hfresh
        have hnodup : (c.fresh :: mints (es ++ roundEvents log)).Nodup := hfresh
        refine (List.nodup_cons.mp hnodup).1 ?_
        rw [mints, List.filterMap_append]
        rw [hnew] at hin
        exact List.mem_append_right _ hin
    · rcases hstep.phase with ⟨hid, -⟩ | ⟨hne, hnew⟩
      · exact mem_mints_append (hid ▸ h.current)
      · rw [roundEvents_append, hes, hnew, phaseEvents_newIdle hne]
        exact List.mem_cons_self

/-! ### The timers -/

/-- Other tasks spawn no timer. -/
theorem Acts.timers_eq_zero (h : Acts E config s c t e) (ht : t ≠ .monitor) (phase : Phase) :
    e.spawned.countP (Task.timesOut roundId phase) = 0 := by
  cases h with
  | @sign req d round outcome h =>
    simp only [processedSection, finalizeTask]
    split
    · simp [Task.timesOut]
    · rfl
  | monitor => exact absurd rfl ht
  | @timer id p =>
    cases p with
    | signing =>
      simp only [timerSection]
      split <;> rfl
    | _ => rfl
  | _ => rfl

/-- The monitor spawns a timer when it tells that it armed one. -/
theorem MonitorActs.timers (h : MonitorActs s e) (phase : Phase) :
    e.spawned.countP (Task.timesOut roundId phase) = e.events.count (.armed roundId phase) := by
  cases h with
  | moves monitor events hes =>
    have hnone : events.count (.armed roundId phase) = 0 :=
      List.count_eq_zero.mpr fun hin => absurd (hes _ hin) (by simp [Event.note])
    rw [hnone]
    rfl
  | arms =>
    rw [List.countP_singleton, List.count_cons, List.count_singleton]
    simp [Task.timesOut]
  | installs hidle material monitor => simp

theorem count_armed_eq_zero {es : List Event} (h : ∀ ev ∈ es, ev.ofTick = false) (phase : Phase) :
    es.count (.armed roundId phase) = 0 :=
  List.count_eq_zero.mpr fun hin => absurd (h _ hin) (by simp [Event.ofTick])

/-- **A section spawns the timer of a phase when the log says so**, and then
only. -/
theorem exec_timers (h : exec E config s t c = some e) (phase : Phase) :
    e.spawned.countP (Task.timesOut roundId phase) = e.events.count (.armed roundId phase) := by
  obtain ⟨_, e', he', rfl⟩ := exec_eq_some h
  rw [List.count_append, count_armed_eq_zero (ofTick_map_round _), Nat.zero_add]
  rcases taskSection_cases he' with ⟨next, rfl⟩ | hacts
  · rfl
  · by_cases ht : t = .monitor
    · subst ht
      obtain rfl := Option.some.inj he'
      -- every timer comes from the monitor
      exact monitorSection_acts.timers phase
    · rw [hacts.timers_eq_zero ht, count_armed_eq_zero (hacts.monitor_eq ht).2]

/-- Leaving for a phase other than `idle`. -/
theorem RoundState.transits_of_edge {round : RoundState} {next : Phase} (fresh : Uuid)
    (h : round.phase.canTransitionTo next = true) (hne : next ≠ .idle) :
    round.Transits fresh { round with phase := next } :=
  ⟨next, transitionTo_of_edge h hne⟩

/-- Returning to `idle`. -/
theorem RoundState.transits_idle {round : RoundState} (fresh : Uuid)
    (h : round.phase.canTransitionTo .idle = true) : round.Transits fresh (newIdle fresh) :=
  ⟨.idle, transitionTo_idle h⟩

/-- The way home through `blame`. -/
theorem RoundState.transits_blame_idle {round : RoundState} (fresh : Uuid)
    (h : round.phase.canTransitionTo .blame = true) :
    Relation.TransGen (RoundState.Transits fresh) round (newIdle fresh) :=
  .tail (.single (transits_of_edge fresh h (by decide))) (transits_idle fresh rfl)

/-- **A timer that finds its round in its phase makes it leave the phase**, by
changes of phase that succeed. -/
theorem timerSection_leaves {phase : Phase} (hphase : s.round.phase = phase)
    (hp : phase.timed = true) :
    (timerSection E config s s.round.roundId c phase).shared.round.phase ∈ phase.afterDeadline ∧
      Relation.TransGen (RoundState.Transits c.fresh) s.round
        (timerSection E config s s.round.roundId c phase).shared.round := by
  have hedge : ∀ next, phase.canTransitionTo next = true →
      s.round.phase.canTransitionTo next = true := fun next h => by rw [hphase]; exact h
  cases phase with
  | inputReg =>
    simp only [timerSection, proceed, inputRegTimer, hphase, ne_eq, not_true_eq_false, or_self,
      if_false]
    split
    · rw [RoundState.tryTransitionTo_of_edge (hedge _ rfl) (by decide)]
      exact ⟨List.mem_cons_self, .single (RoundState.transits_of_edge _ (hedge _ rfl) (by decide))⟩
    · rw [RoundState.tryTransitionTo_idle (hedge _ rfl)]
      exact ⟨by simp [RoundState.newIdle, Phase.afterDeadline],
        .single (RoundState.transits_idle _ (hedge _ rfl))⟩
  | outputReg =>
    simp only [timerSection, proceed, outputRegTimer, hphase, and_self, if_true, onOutputRegTimeout]
    split
    · rw [RoundState.tryTransitionTo_blame_idle (hedge _ rfl)]
      exact ⟨by simp [RoundState.newIdle, Phase.afterDeadline],
        RoundState.transits_blame_idle _ (hedge _ rfl)⟩
    · rw [RoundState.tryTransitionTo_of_edge (hedge _ rfl) (by decide)]
      exact ⟨List.mem_cons_self, .single (RoundState.transits_of_edge _ (hedge _ rfl) (by decide))⟩
  | signing =>
    simp only [timerSection]
    split
    · next hnone => exact absurd hnone (by simp [signingTimer, hphase])
    · next app banned htimer =>
      obtain ⟨-, -, -, hround, -⟩ := signingTimer_eq_some htimer
      simp only [hround]
      exact ⟨by simp [RoundState.newIdle, Phase.afterDeadline],
        RoundState.transits_blame_idle _ (hedge _ rfl)⟩
  | broadcast =>
    simp only [timerSection, proceed, broadcastWatchdogForceIdle, hphase, and_self, if_true]
    rw [RoundState.tryTransitionTo_idle (hedge _ rfl)]
    exact ⟨by simp [RoundState.newIdle, Phase.afterDeadline],
      .single (RoundState.transits_idle _ (hedge _ rfl))⟩
  | idle => exact absurd hp (by decide)
  | blame => exact absurd hp (by decide)

/-- A timer can always run. -/
theorem exists_exec_timer (s : Coordinator) (roundId : Uuid) (phase : Phase) :
    ∃ c e, exec E config s (.timer roundId phase) c = some e := by
  cases hinner : s.round.inner with
  | none =>
    exact ⟨{}, _, if_pos fun inner h => absurd (hinner.symm.trans h) (by simp)⟩
  | some inner =>
    refine ⟨{ keys := inner.registeredInputs.keys }, _, if_pos fun inner' h => ?_⟩
    obtain rfl := Option.some.inj (hinner.symm.trans h)
    exact List.Perm.refl _

/-- The monitor can always run. -/
theorem exec_monitor (s : Coordinator) (c : Choice) :
    ∃ e, exec E config s .monitor c = some e ∧ e.shared = (monitorSection E s c).shared ∧
      ∀ ev ∈ (monitorSection E s c).events, ev ∈ e.events :=
  ⟨_, if_pos fun _ _ => trivial, rfl, fun _ hev => List.mem_append_right _ hev⟩

end Sections

/-! ### Every reachable world -/

section Reachable

variable {E : Externals} {config : CoordinatorConfig} {fresh : Uuid} {banList : BanList}
  {ok : Coordinator → Task → Choice → Prop} {w : World Coordinator Task Event}

/-- The monitor never ends. -/
theorem monitor_mem_threads
    (hr : ReachableVia (coordinator E config) ok (startup fresh banList) w) :
    .monitor ∈ w.threads := by
  induction hr with
  | refl => exact List.mem_singleton_self _
  | arrive _ _ ih => exact List.mem_append_left _ ih
  | @advance w i t c e _ ht _ he ih =>
    refine List.mem_append_left _ ?_
    obtain ⟨j, hj⟩ := List.mem_iff_getElem?.mp ih
    rw [List.mem_iff_getElem?]
    refine ⟨j, ?_⟩
    by_cases hij : i = j
    · subst hij
      obtain rfl : t = .monitor := Option.some.inj (ht.symm.trans hj)
      obtain ⟨_, e', he', rfl⟩ := exec_eq_some he
      obtain rfl := Option.some.inj he'
      rw [List.getElem?_set_self (List.getElem?_eq_some_iff.mp hj).1]
      exact congrArg some monitorSection_acts.next
    · rw [List.getElem?_set_ne hij]
      exact hj

/-- **The invariant of the monitor holds in every reachable world**, provided
that no round id was drawn twice. -/
theorem monitorInv_of_reachable
    (hr : ReachableVia (coordinator E config) ok (startup fresh banList) w)
    (hfresh : (mints (roundEvents w.log)).Nodup) :
    MonitorInv w.shared.monitor w.shared.round w.log := by
  refine hr.shared (fun s log => MonitorInv s.monitor s.round log)
    (fun log => (mints (roundEvents log)).Nodup) (fun es l h => ?_) ?_
    (fun {w t c e} hw ht _ he hnodup hinv => ?_) hfresh
  · rw [roundEvents_append] at h
    exact nodup_mints_of_append h
  · refine ⟨List.mem_singleton_self _, fun p r hp hl => ?_, fun r p h => ?_, fun r p _ h => ?_,
      fun r p => ?_, fun r h => absurd h (by simp [startup]), fun r h => absurd h id⟩
    · cases p <;> exact absurd hl (by simp [startup, Monitor.last])
    · exact absurd h (by simp [startup])
    · exact absurd h (by simp [startup])
    · simp [startup]
  · exact hinv.exec he (sound_of_reachable hw t ht) hnodup

/-- **The coordinator cannot get stuck**, provided that no round id was drawn
twice. A phase with a deadline that the monitor observed has exactly one timer,
and a timer is spawned only when the log says so. A timer can always run, and
when it finds its round in its phase it makes it leave the phase, by changes of
phase that succeed. At the head of its loop the monitor has not yet acted for a
round that is idle, so it sets out to start it, unless it is paused, and the
monitor itself can always run. -/
theorem monitor_never_stuck (hr : Reachable (coordinator E config) (startup fresh banList) w)
    (hfresh : (mints (roundEvents w.log)).Nodup) :
    (∀ roundId phase, phase.timed = true → .observed roundId phase ∈ w.log →
      w.log.count (.armed roundId phase) = 1) ∧
    (∀ t c e roundId phase, exec E config w.shared t c = some e →
      e.spawned.countP (Task.timesOut roundId phase) = e.events.count (.armed roundId phase)) ∧
    (∀ s : Coordinator, s.round.phase.timed = true →
      (∃ c e, exec E config s (.timer s.round.roundId s.round.phase) c = some e) ∧
      ∀ c e, exec E config s (.timer s.round.roundId s.round.phase) c = some e →
        e.shared.round.phase ∈ s.round.phase.afterDeadline ∧
        Relation.TransGen (RoundState.Transits c.fresh) s.round e.shared.round) ∧
    (w.shared.monitor.pc = .head → w.shared.round.phase = .idle →
      w.shared.monitor.lastIdleStartRound ≠ some w.shared.round.roundId ∧
      ∀ c, ∃ e, exec E config w.shared .monitor c = some e ∧
        e.shared.monitor.pc = .pauseCheck w.shared.round.roundId) ∧
    (∀ roundId, w.shared.monitor.pc = .pauseCheck roundId →
      w.shared.round.phase = .idle ∧ w.shared.round.roundId = roundId ∧
      ∀ c, ∃ e, exec E config w.shared .monitor c = some e ∧
        (w.shared.roundPausedUntil ≤ c.now → .startAttempted roundId ∈ e.events)) ∧
    .monitor ∈ w.threads ∧ ∀ c, ∃ e, exec E config w.shared .monitor c = some e := by
  have hinv := monitorInv_of_reachable hr hfresh
  refine ⟨fun r p hp hobs => ?_, fun _ _ _ _ p he => exec_timers he p, fun s hp => ?_,
    fun hpc hidle => ?_, fun r hpc => ?_, monitor_mem_threads hr, fun c => ?_⟩
  -- at least one since it was observed, and at most one by the invariant
  · have hpos : 0 < w.log.count (.armed r p) :=
      List.count_pos_iff.mpr (hinv.observed_armed r p hp hobs)
    have hle := hinv.once r p
    omega
  · refine ⟨exists_exec_timer s _ _, fun c e he => ?_⟩
    obtain ⟨_, e', he', rfl⟩ := exec_eq_some he
    obtain rfl := Option.some.inj he'
    exact timerSection_leaves rfl hp
  -- had the monitor set out for this round before, it would not be at the head
  · have hlast : w.shared.monitor.lastIdleStartRound ≠ some w.shared.round.roundId := by
      intro hl
      have hstarts := (hinv.started _ hl).2 rfl hidle
      rw [hpc] at hstarts
      exact hstarts
    refine ⟨hlast, fun c => ?_⟩
    obtain ⟨e, he, hshared, -⟩ := exec_monitor w.shared c
    refine ⟨e, he, ?_⟩
    simp only [hshared, monitorSection, hpc, hidle, hlast, ne_eq, not_false_eq_true, and_self,
      if_true]
  · obtain ⟨hidle, hid⟩ := hinv.starting r (by rw [hpc]; rfl)
    refine ⟨hidle, hid, fun c => ?_⟩
    obtain ⟨e, he, -, hevents⟩ := exec_monitor w.shared c
    refine ⟨e, he, fun hnow => hevents _ ?_⟩
    simp [monitorSection, hpc, Nat.not_lt.mpr hnow]
  · obtain ⟨e, he, -⟩ := exec_monitor w.shared c
    exact ⟨e, he⟩

theorem monitor_never_stuck_session :
    .observed firstRound .inputReg ∈ (worldAfter restartMoves).log ∧
    (∀ roundId phase, phase.timed = true →
      .observed roundId phase ∈ (worldAfter restartMoves).log →
      (worldAfter restartMoves).log.count (.armed roundId phase) = 1) ∧
    .monitor ∈ (worldAfter restartMoves).threads ∧
    ∀ c, ∃ e, exec session.externals configOfTwo (worldAfter restartMoves).shared .monitor c =
      some e := by
  obtain ⟨harmed, -, -, -, -, hmonitor, hruns⟩ :=
    monitor_never_stuck (worldAfter_reachable restartMoves) (by decide +kernel)
  exact ⟨by decide +kernel, harmed, hmonitor, hruns⟩

end Reachable

end Blindjoin
