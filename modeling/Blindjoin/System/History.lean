import Blindjoin.System.Ledger
import Blindjoin.System.Recorded

/-!
# The history of a round

Timers are never cancelled, and the end of a broadcast runs detached from the
request that set it off. What keeps them from disturbing a later round is that
each compares the round id and the phase it was made for with those it finds
(`Blindjoin.stale_noop`).

Provided that no round id is drawn twice, **the phases of a round are entered in
order and at most once**, and at most one submission of a round makes its
broadcast ready (`Blindjoin.round_history`).
-/

namespace Blindjoin

open Interleaving Collections

/-! ### Reading the log -/

/-- The id that was drawn, if an event says so. -/
def RoundEvent.minted? : RoundEvent → Option Uuid
  | .minted roundId => some roundId
  | _ => none

/-- The round ids that were drawn, newest first. -/
def mints (log : List RoundEvent) : List Uuid := log.filterMap RoundEvent.minted?

/-- The phases of a round, in order. -/
def Phase.path : List Phase := [.idle, .inputReg, .outputReg, .signing, .broadcast]

/-- The phases up to a phase, newest first. -/
def Phase.upTo : Phase → List Phase
  | .idle => [.idle]
  | .inputReg => [.inputReg, .idle]
  | .outputReg => [.outputReg, .inputReg, .idle]
  | .signing => [.signing, .outputReg, .inputReg, .idle]
  | .broadcast => [.broadcast, .signing, .outputReg, .inputReg, .idle]
  | .blame => []

/-- The phases a round was seen in, newest first: an entry for each time the
phase was another one than before. -/
def phasesEntered (roundId : Uuid) : List RoundEvent → List Phase
  | [] => []
  | .visible id phase :: log =>
    if id = roundId ∧ (phasesEntered roundId log).head? ≠ some phase then
      phase :: phasesEntered roundId log
    else phasesEntered roundId log
  | _ :: log => phasesEntered roundId log

/-- Whether an event is a submission that made the broadcast of a round ready. -/
def RoundEvent.readies (roundId : Uuid) : RoundEvent → Bool
  | .sigRecorded ⟨id, _, _, _, .ok (.readyToBroadcast _)⟩ => id = roundId
  | _ => false

/-- How often the broadcast of a round was made ready. -/
def readyCount (roundId : Uuid) (log : List RoundEvent) : ℕ :=
  log.countP (RoundEvent.readies roundId)

/-- The round and the phase a task was made for. -/
def Task.target : Task → Option (Uuid × Phase)
  | .timer roundId phase => some (roundId, phase)
  | .finalize roundId _ _ => some (roundId, .broadcast)
  | _ => none

/-- Whether a task is the end of a broadcast of a round. -/
def Task.finalizes (roundId : Uuid) : Task → Bool
  | .finalize id _ _ => id = roundId
  | _ => false

/-! ### Steps -/

/-- One phase follows another on the path of a round. -/
inductive Phase.Follows : Phase → Phase → Prop
  | inputReg : Follows .idle .inputReg
  | outputReg : Follows .inputReg .outputReg
  | signing : Follows .outputReg .signing
  | broadcast : Follows .signing .broadcast

theorem Phase.Follows.upTo {p q : Phase} (h : Follows p q) : q.upTo = q :: p.upTo := by
  cases h <;> rfl

theorem Phase.Follows.head?_upTo {p q : Phase} (h : Follows p q) : p.upTo.head? ≠ some q := by
  cases h <;> decide

theorem Phase.Follows.target {p q : Phase} (h : Follows p q) : q ≠ .idle ∧ q ≠ .blame := by
  cases h <;> decide

theorem Phase.Follows.source {p q : Phase} (h : Follows p q) : p ≠ .broadcast := by
  cases h <;> decide

theorem Phase.reverse_upTo_prefix (p : Phase) : p.upTo.reverse <+: path := by
  cases p <;> decide

theorem Phase.head?_upTo {p : Phase} (h : p ≠ .blame) : p.upTo.head? = some p := by
  cases p <;> first | rfl | exact absurd rfl h

section Steps

variable {E : Externals} {config : CoordinatorConfig} {s s' : RoundState} {fresh : Uuid}
  {es log : List RoundEvent}

/-- **What a step does to the phase**: it stays, it moves one on, or the round
ends. -/
theorem RoundStep.phase (h : RoundStep E config fresh s es s') :
    s'.roundId = s.roundId ∧ (s'.phase = s.phase ∨ s.phase.Follows s'.phase) ∨
      s.phase ≠ .idle ∧ s' = RoundState.newIdle fresh := by
  cases h with
  | unchanged => exact Or.inl ⟨rfl, Or.inl rfl⟩
  | install hphase material => exact Or.inl ⟨rfl, Or.inr (hphase ▸ .inputReg)⟩
  | @registerInput inner r h =>
    refine Or.inl ⟨rfl, ?_⟩
    simp only [RoundState.withInput]
    split
    · exact Or.inr (h.phase ▸ .outputReg)
    · exact Or.inl h.phase.symm
  | inputDeadline hphase hquorum => exact Or.inl ⟨rfl, Or.inr (hphase ▸ .outputReg)⟩
  | @registerOutput inner r h =>
    refine Or.inl ⟨rfl, ?_⟩
    simp only [RoundState.withOutput]
    split
    · exact Or.inr (h.phase ▸ .signing)
    · exact Or.inl h.phase.symm
  | outputDeadline hphase hall => exact Or.inl ⟨rfl, Or.inr (hphase ▸ .signing)⟩
  | recordSig => exact Or.inl ⟨rfl, Or.inl rfl⟩
  | complete hphase => exact Or.inl ⟨rfl, Or.inr (hphase ▸ .broadcast)⟩
  | finish h => cases h <;> exact Or.inr ⟨by simp [*], rfl⟩

/-- The events of a step draw no id and show no phase. -/
theorem RoundStep.quiet (h : RoundStep E config fresh s es s') (log : List RoundEvent) :
    mints (es ++ log) = mints log ∧
      ∀ roundId, phasesEntered roundId (es ++ log) = phasesEntered roundId log := by
  cases h with
  | finish h => cases h <;> exact ⟨rfl, fun _ => rfl⟩
  | _ => exact ⟨rfl, fun _ => rfl⟩

/-- A step makes the broadcast ready when it enters it, and then only. -/
theorem RoundStep.readyCount (h : RoundStep E config fresh s es s') (roundId : Uuid) :
    readyCount roundId es = 0 ∨
      roundId = s.roundId ∧ readyCount roundId es = 1 ∧ s.phase = .signing ∧
        s'.phase = .broadcast := by
  cases h with
  | @recordSig hphase inner iter hiter sub hid hsub hout =>
    refine Or.inl ?_
    obtain ⟨id, utxo, sig, token, (e | ⟨_ | prepared⟩)⟩ := sub
    · rfl
    · rfl
    · exact absurd rfl (hout prepared)
  | @complete hphase inner iter hiter sub hid hsub prepared hout hdone =>
    obtain ⟨id, utxo, sig, token, outcome⟩ := sub
    simp only at hid hout
    subst hid hout
    by_cases heq : s.roundId = roundId
    · exact Or.inr ⟨heq.symm, by simp [Blindjoin.readyCount, RoundEvent.readies, heq], hphase, rfl⟩
    · exact Or.inl (by simp [Blindjoin.readyCount, RoundEvent.readies, heq])
  | finish h => cases h <;> exact Or.inl rfl
  | _ => exact Or.inl rfl

/-! ### The history of a round that ran -/

/-- What a log with distinct round ids says of the phases and the broadcasts. -/
structure History (s : RoundState) (log : List RoundEvent) : Prop where
  not_blame : s.phase ≠ .blame
  minted : s.roundId ∈ mints log
  unseen : ∀ roundId, roundId ∉ mints log →
    phasesEntered roundId log = [] ∧ readyCount roundId log = 0
  here : phasesEntered s.roundId log = s.phase.upTo
  in_order : ∀ roundId, (phasesEntered roundId log).reverse <+: Phase.path
  pending : s.phase ≠ .broadcast → readyCount s.roundId log = 0
  once : ∀ roundId, readyCount roundId log ≤ 1

theorem phasesEntered_visible_of_ne {roundId id : Uuid} (h : id ≠ roundId) (phase : Phase) :
    phasesEntered roundId (.visible id phase :: log) = phasesEntered roundId log := by
  rw [phasesEntered, if_neg (fun h' => h h'.1)]

theorem phasesEntered_visible {roundId : Uuid} {phase : Phase}
    (h : (phasesEntered roundId log).head? ≠ some phase) :
    phasesEntered roundId (.visible roundId phase :: log) = phase :: phasesEntered roundId log := by
  rw [phasesEntered, if_pos ⟨rfl, h⟩]

theorem phasesEntered_visible_again {roundId : Uuid} {phase : Phase}
    (h : (phasesEntered roundId log).head? = some phase) :
    phasesEntered roundId (.visible roundId phase :: log) = phasesEntered roundId log := by
  rw [phasesEntered, if_neg (fun h' => h'.2 h)]

theorem readyCount_append (roundId : Uuid) :
    readyCount roundId (es ++ log) = readyCount roundId es + readyCount roundId log :=
  List.countP_append

theorem readyCount_visible (roundId id : Uuid) (phase : Phase) :
    readyCount roundId (.visible id phase :: log) = readyCount roundId log := by
  rw [readyCount, List.countP_cons_of_neg (by simp [RoundEvent.readies]), readyCount]

theorem readyCount_minted (roundId id : Uuid) :
    readyCount roundId (.minted id :: log) = readyCount roundId log := by
  rw [readyCount, List.countP_cons_of_neg (by simp [RoundEvent.readies]), readyCount]

/-- The history of a round that stays, or moves one phase on. -/
theorem History.advance (hinv : History s log) (h : RoundStep E config fresh s es s')
    (hid : s'.roundId = s.roundId) (hphase : s'.phase = s.phase ∨ s.phase.Follows s'.phase) :
    History s' (.visible s'.roundId s'.phase :: (es ++ log)) := by
  obtain ⟨hmints, hentered⟩ := h.quiet log
  have hblame : s'.phase ≠ .blame := by
    rcases hphase with he | hf
    · exact he ▸ hinv.not_blame
    · exact hf.target.2
  have hhere : phasesEntered s'.roundId (.visible s'.roundId s'.phase :: (es ++ log)) =
      s'.phase.upTo := by
    have hbefore : phasesEntered s'.roundId (es ++ log) = s.phase.upTo := by
      rw [hentered, hid, hinv.here]
    rcases hphase with he | hf
    -- the same phase again is no new entry; the next phase is one
    · rw [phasesEntered_visible_again, hbefore, he]
      rw [hbefore, he, Phase.head?_upTo hinv.not_blame]
    · rw [phasesEntered_visible, hbefore, hf.upTo]
      rw [hbefore]
      exact hf.head?_upTo
  refine ⟨hblame, ?_, fun roundId hnew => ?_, hhere, fun roundId => ?_, fun hne => ?_,
    fun roundId => ?_⟩
  · show s'.roundId ∈ mints (es ++ log)
    rw [hmints, hid]
    exact hinv.minted
  · have hnew' : roundId ∉ mints (es ++ log) := hnew
    rw [hmints] at hnew'
    have hne : s'.roundId ≠ roundId := fun heq => hnew' (heq ▸ hid ▸ hinv.minted)
    rw [phasesEntered_visible_of_ne hne, hentered, readyCount_visible, readyCount_append]
    obtain ⟨hentered', hcount⟩ := hinv.unseen roundId hnew'
    refine ⟨hentered', ?_⟩
    rcases h.readyCount roundId with h0 | ⟨heq, -⟩
    · omega
    · exact absurd (hid.trans heq.symm) hne
  · by_cases heq : s'.roundId = roundId
    · rw [← heq, hhere]
      exact Phase.reverse_upTo_prefix _
    · rw [phasesEntered_visible_of_ne heq, hentered]
      exact hinv.in_order roundId
  · rw [readyCount_visible, readyCount_append, hid]
    rcases h.readyCount s.roundId with h0 | ⟨-, -, -, hbroadcast⟩
    · rw [h0, Nat.zero_add]
      -- outside the broadcast phase nothing was ready, and this step left that so
      refine hinv.pending fun hb => ?_
      rcases hphase with he | hf
      · exact hne (he.trans hb)
      · exact hf.source hb
    · exact absurd hbroadcast hne
  · rw [readyCount_visible, readyCount_append]
    -- a broadcast made ready now is the first: the round was still signing
    rcases h.readyCount roundId with h0 | ⟨rfl, h1, hsigning, -⟩
    · rw [h0, Nat.zero_add]
      exact hinv.once roundId
    · rw [h1, hinv.pending (by simp [hsigning])]

/-- The history of a round that ends: the next one has a fresh id. -/
theorem History.finish (hinv : History s log)
    (h : RoundStep E config fresh s es (RoundState.newIdle fresh))
    (hfresh : fresh ∉ mints log) :
    History (RoundState.newIdle fresh) (.visible fresh .idle :: .minted fresh :: (es ++ log)) := by
  obtain ⟨hmints, hentered⟩ := h.quiet log
  have hcount : ∀ roundId, readyCount roundId
      (.visible fresh .idle :: .minted fresh :: (es ++ log)) = readyCount roundId log :=
    fun roundId => by
      rw [readyCount_visible, readyCount_minted, readyCount_append]
      rcases h.readyCount roundId with h0 | ⟨-, -, -, hbroadcast⟩
      · rw [h0, Nat.zero_add]
      · exact absurd hbroadcast (by simp [RoundState.newIdle])
  -- the new id was not drawn before, so the log says nothing of it
  obtain ⟨hunseen, hzero⟩ := hinv.unseen fresh hfresh
  have hbefore : ∀ roundId, phasesEntered roundId (.minted fresh :: (es ++ log)) =
      phasesEntered roundId log := hentered
  have hhere : phasesEntered fresh (.visible fresh .idle :: .minted fresh :: (es ++ log)) =
      [.idle] := by
    rw [phasesEntered_visible, hbefore, hunseen]
    rw [hbefore, hunseen]
    simp
  refine ⟨by simp [RoundState.newIdle], ?_, fun roundId hnew => ?_, hhere, fun roundId => ?_,
    fun _ => ?_, fun roundId => ?_⟩
  · simp [mints, RoundEvent.minted?, RoundState.newIdle]
  · have hnew' : roundId ∉ fresh :: mints (es ++ log) := hnew
    rw [hmints, List.mem_cons, not_or] at hnew'
    rw [phasesEntered_visible_of_ne (Ne.symm hnew'.1), hbefore, hcount]
    exact hinv.unseen roundId hnew'.2
  · by_cases heq : fresh = roundId
    · rw [← heq, hhere]
      exact Phase.reverse_upTo_prefix .idle
    · rw [phasesEntered_visible_of_ne heq, hbefore]
      exact hinv.in_order roundId
  · rw [hcount]
    exact hzero
  · rw [hcount]
    exact hinv.once roundId

/-- **Every step extends the history**, when the ids it draws are new. -/
theorem RoundStep.history (h : RoundStep E config fresh s es s') (hinv : History s log)
    (hfresh : (mints (phaseEvents s s' fresh ++ es ++ log)).Nodup) :
    History s' (phaseEvents s s' fresh ++ es ++ log) := by
  rcases h.phase with ⟨hid, hphase⟩ | ⟨hne, rfl⟩
  · have hgoes : ¬(s.phase ≠ .idle ∧ s'.phase = .idle) := by
      rintro ⟨hne, hidle⟩
      rcases hphase with he | hf
      · exact hne (he ▸ hidle)
      · exact hf.target.1 hidle
    have hevents : phaseEvents s s' fresh = [.visible s'.roundId s'.phase] := by
      rw [phaseEvents, if_neg hgoes]
    rw [hevents]
    exact hinv.advance h hid hphase
  · rw [phaseEvents_newIdle hne] at hfresh ⊢
    refine hinv.finish h ?_
    have hnodup : (fresh :: mints (es ++ log)).Nodup := hfresh
    rw [(h.quiet log).1] at hnodup
    exact (List.nodup_cons.mp hnodup).1

/-- The ids drawn in the newer part of a log do not count. -/
theorem nodup_mints_of_append (h : (mints (es ++ log)).Nodup) : (mints log).Nodup := by
  rw [mints, List.filterMap_append] at h
  exact (List.nodup_append.mp h).2.1

/-- **The history of a round that ran.** -/
theorem RoundRun.history (h : RoundRun E config s log) (hfresh : (mints log).Nodup) :
    History s log := by
  induction h with
  | start fresh =>
    refine ⟨by simp [RoundState.newIdle], by simp [mints, RoundEvent.minted?, RoundState.newIdle],
      fun roundId hnew => ?_, by simp [phasesEntered, Phase.upTo, RoundState.newIdle],
      fun roundId => ?_, fun _ => rfl, fun _ => Nat.zero_le _⟩
    · have hne : fresh ≠ roundId := fun heq => hnew (by simp [mints, RoundEvent.minted?, heq])
      exact ⟨by simp [phasesEntered, hne], rfl⟩
    · by_cases heq : fresh = roundId
      · simpa [phasesEntered, heq, Phase.upTo] using Phase.reverse_upTo_prefix .idle
      · simp [phasesEntered, heq]
  | step _ hstep ih => exact hstep.history (ih (nodup_mints_of_append hfresh)) hfresh

end Steps

/-! ### Tasks that come too late -/

section Sections

variable {E : Externals} {config : CoordinatorConfig} {s : Coordinator} {c : Choice}
  {t : Task} {e : Section} {roundId : Uuid} {phase : Phase}

theorem inputRegTimer_stale {round : RoundState} {fresh : Uuid}
    (h : ¬(round.roundId = roundId ∧ round.phase = .inputReg)) :
    inputRegTimer config round roundId fresh = round :=
  if_pos (by simpa only [Classical.not_and_iff_not_or_not] using h)

theorem outputRegTimer_stale {round : RoundState} {fresh : Uuid}
    (h : ¬(round.roundId = roundId ∧ round.phase = .outputReg)) :
    outputRegTimer round roundId fresh = round := if_neg h

theorem signingTimer_stale {app : AppState}
    (h : ¬(app.round.roundId = roundId ∧ app.round.phase = .signing)) :
    signingTimer E config app roundId c = none :=
  if_pos (by simpa only [Classical.not_and_iff_not_or_not] using h)

theorem broadcastWatchdog_stale {round : RoundState} {fresh : Uuid}
    (h : ¬(round.roundId = roundId ∧ round.phase = .broadcast)) :
    broadcastWatchdogForceIdle round roundId fresh = round := if_neg h

/-- **A task that comes too late changes nothing**: a timer, a watchdog or the
end of a broadcast acts on the round, the bans, the blame counter and the pause
only in the round and the phase it was made for. -/
theorem stale_noop (h : exec E config s t c = some e) (ht : t.target = some (roundId, phase))
    (hstale : ¬(s.round.roundId = roundId ∧ s.round.phase = phase)) :
    e.shared.toAppState = s.toAppState := by
  obtain ⟨_, e', he', rfl⟩ := exec_eq_some h
  cases t with
  | timer id p =>
    obtain ⟨rfl, rfl⟩ := Prod.mk.inj (Option.some.inj ht)
    obtain rfl := Option.some.inj he'
    cases p with
    | inputReg => simp only [timerSection, proceed, inputRegTimer_stale hstale]
    | outputReg => simp only [timerSection, proceed, outputRegTimer_stale hstale]
    | signing => simp only [timerSection, proceed, signingTimer_stale hstale]
    | broadcast => simp only [timerSection, proceed, broadcastWatchdog_stale hstale]
    | _ => rfl
  | finalize id prepared stage =>
    obtain ⟨rfl, rfl⟩ := Prod.mk.inj (Option.some.inj ht)
    obtain rfl := Option.some.inj he'
    cases stage with
    | succeeded txid => exact finalizeSuccess_stale hstale
    | failed m banned => exact finalizeFailure_stale hstale
    | _ => rfl
  | _ => exact absurd ht (by simp [Task.target])

/-! ### The ends of broadcasts -/

theorem readyCount_phaseEvents (round round' : RoundState) (fresh : Uuid) :
    readyCount roundId (phaseEvents round round' fresh) = 0 := by
  rw [phaseEvents]
  split <;> rfl

/-- The monitor makes no broadcast ready, and ends none. -/
theorem MonitorActs.finalizes (h : MonitorActs s e) :
    e.spawned.countP (Task.finalizes roundId) = readyCount roundId (roundEvents e.events) := by
  cases h with
  | moves monitor events hes =>
    rw [roundEvents_of_note hes]
    rfl
  | arms => rfl
  | installs hidle material monitor => rfl

/-- A submission spawns the end of a broadcast when it made it ready. -/
theorem processedSection_spawned {d : DecodedSign} {round : RoundState}
    {outcome : Res HttpError SignOutcome}
    (h : postSignProcess E config s.round d c.iter = (round, outcome)) :
    (processedSection s d round outcome).spawned.countP (Task.finalizes roundId) =
      readyCount roundId (roundEvents (processedSection s d round outcome).events) := by
  have hnot : ∀ events, events = submissionEvents s.round round d outcome →
      (∀ prepared, outcome ≠ .ok (.readyToBroadcast prepared)) →
      readyCount roundId (roundEvents events) = 0 := by
    rintro _ rfl hout
    rw [submissionEvents]
    split
    · rcases outcome with e | (_ | prepared)
      · rfl
      · rfl
      · exact absurd rfl (hout prepared)
    · rfl
  rcases outcome with e | (_ | prepared)
  · exact (hnot _ rfl (by simp)).symm
  · exact (hnot _ rfl (by simp)).symm
  · simp only [processedSection, finalizeTask, submissionEvents_of_ok h]
    rw [roundEvents_cons_round, roundEvents_nil, readyCount, List.countP_singleton,
      List.countP_singleton]
    rfl

/-- **A section spawns the end of a broadcast when it made one ready**, and then
only. -/
theorem exec_spawned_count (h : exec E config s t c = some e) :
    e.spawned.countP (Task.finalizes roundId) = readyCount roundId (roundEvents e.events) := by
  obtain ⟨_, e', he', rfl⟩ := exec_eq_some h
  rw [roundEvents_append, roundEvents_map_round, readyCount_append, readyCount_phaseEvents,
    Nat.zero_add]
  rcases taskSection_cases he' with ⟨next, rfl⟩ | hacts
  · rfl
  · cases hacts with
    | register => rfl
    | redeem => rfl
    | sign hsign => exact processedSection_spawned hsign
    | monitor => exact monitorSection_acts.finalizes
    | @timer id phase =>
      cases phase with
      | signing =>
        simp only [timerSection]
        split <;> rfl
      | _ => rfl
    | send h => rfl
    | @succeeded id =>
      by_cases hguard : s.round.roundId = id ∧ s.round.phase = .broadcast
      · simp only [finalizeSection, if_pos hguard]
        rfl
      · simp only [finalizeSection, if_neg hguard]
        rfl
    | @failed id =>
      by_cases hguard : s.round.roundId = id ∧ s.round.phase = .broadcast
      · simp only [finalizeSection, if_pos hguard]
        rfl
      · simp only [finalizeSection, if_neg hguard]
        rfl
    | relay => rfl
    | evict => rfl

end Sections

/-! ### Every reachable world -/

section Reachable

variable {E : Externals} {config : CoordinatorConfig} {fresh : Uuid} {banList : BanList}
  {ok : Coordinator → Task → Choice → Prop} {w : World Coordinator Task Event}

/-- There are no more ends of broadcasts than broadcasts were made ready. -/
theorem finalizers_le_readyCount (roundId : Uuid)
    (hr : ReachableVia (coordinator E config) ok (startup fresh banList) w) :
    w.threads.countP (Task.finalizes roundId) ≤ readyCount roundId (roundEvents w.log) := by
  induction hr with
  | refl => exact Nat.zero_le _
  | @arrive w t _ ha ih =>
    have hno : Task.finalizes roundId t = false := by
      cases t <;> first | rfl | exact absurd ha (by simp [coordinator, Task.arrives])
    rw [List.countP_append, List.countP_singleton, hno]
    exact ih
  | @advance w i t c e _ ht _ he ih =>
    obtain ⟨hlt, rfl⟩ := List.getElem?_eq_some_iff.mp ht
    have hkeep : Task.finalizes roundId e.next = true →
        Task.finalizes roundId w.threads[i] = true := by
      intro hnext
      cases hcase : e.next with
      | finalize id prepared stage =>
        obtain ⟨stage', hstage⟩ := exec_finalize he hcase
        rw [hcase] at hnext
        rw [hstage]
        exact hnext
      | _ => exact absurd hnext (by simp [hcase, Task.finalizes])
    -- what replaces the task ends a broadcast only if the task did, so that only
    -- what is spawned adds to the count
    have hset : (w.threads.set i e.next).countP (Task.finalizes roundId) ≤
        w.threads.countP (Task.finalizes roundId) := by
      rw [List.countP_set hlt]
      by_cases hnext : Task.finalizes roundId e.next = true
      · have hpos : 0 < w.threads.countP (Task.finalizes roundId) :=
          List.countP_pos_iff.mpr ⟨w.threads[i], List.getElem_mem hlt, hkeep hnext⟩
        rw [if_pos (hkeep hnext), if_pos hnext]
        omega
      · rw [if_neg hnext]
        omega
    show ((w.threads.set i e.next) ++ e.spawned).countP (Task.finalizes roundId) ≤
      readyCount roundId (roundEvents (e.events ++ w.log))
    rw [List.countP_append, roundEvents_append, readyCount_append, exec_spawned_count he]
    omega

/-- **The history of every round**, provided that no round id was drawn twice.
The phases of a round are entered in order, each at most once; its broadcast is
made ready at most once, so that the end of its broadcast is spawned at most
once; and a timer, a watchdog or the end of a broadcast that comes too late
changes neither the round nor the bans, the blame counter or the pause. -/
theorem round_history (hr : Reachable (coordinator E config) (startup fresh banList) w)
    (hfresh : (mints (roundEvents w.log)).Nodup) :
    (∀ roundId, (phasesEntered roundId (roundEvents w.log)).reverse <+: Phase.path) ∧
    (∀ roundId, readyCount roundId (roundEvents w.log) ≤ 1) ∧
    (∀ t c e roundId, exec E config w.shared t c = some e →
      e.spawned.countP (Task.finalizes roundId) = readyCount roundId (roundEvents e.events)) ∧
    (∀ roundId, w.threads.countP (Task.finalizes roundId) ≤ 1) ∧
    ∀ t c e roundId phase, exec E config w.shared t c = some e →
      t.target = some (roundId, phase) →
      ¬(w.shared.round.roundId = roundId ∧ w.shared.round.phase = phase) →
      e.shared.toAppState = w.shared.toAppState := by
  have hhistory := (roundRun_of_reachable hr).history hfresh
  exact ⟨hhistory.in_order, hhistory.once, fun _ _ _ _ he => exec_spawned_count he,
    fun roundId => (finalizers_le_readyCount roundId hr).trans (hhistory.once roundId),
    fun _ _ _ _ _ he ht hstale => stale_noop he ht hstale⟩

theorem round_history_session :
    phasesEntered firstRound (roundEvents (worldAfter restartMoves).log) = [.inputReg, .idle] ∧
    (∀ roundId, (phasesEntered roundId (roundEvents (worldAfter restartMoves).log)).reverse <+:
      Phase.path) ∧
    (∀ roundId, readyCount roundId (roundEvents (worldAfter restartMoves).log) ≤ 1) ∧
    ∀ t c e roundId phase,
      exec session.externals configOfTwo (worldAfter restartMoves).shared t c = some e →
      t.target = some (roundId, phase) →
      ¬((worldAfter restartMoves).shared.round.roundId = roundId ∧
        (worldAfter restartMoves).shared.round.phase = phase) →
      e.shared.toAppState = (worldAfter restartMoves).shared.toAppState := by
  obtain ⟨horder, honce, -, -, hstale⟩ :=
    round_history (worldAfter_reachable restartMoves) (by decide +kernel)
  exact ⟨by decide +kernel, horder, honce, hstale⟩

end Reachable

end Blindjoin
