import Blindjoin.System.Attribution
import Blindjoin.System.Backoff
import Blindjoin.System.Binding

/-!
# Bans and registrations in progress

A registration asks the ban list once, before its coin is validated. When it
takes the write lock, the phase, the room and the registered coins are checked
again, but not the bans. Between the two, the signing deadline or a failed
broadcast may ban the very coin, and another round may have reached input
registration.

The window of a registration is the part of the history between its ban check
and its insertion. **A registration inserts a banned coin exactly when a section
of its window banned the coin**, for longer than until the insertion
(`Blindjoin.admitsNoBanned_iff`): what was banned before the check was found by
it, or had expired. The two follow from one another because bans last one
configured duration and the clock does not go back, so that a ban is never
replaced by one that expires sooner.
-/

namespace Blindjoin

open Interleaving Collections

/-! ### Statement -/

/-- The times of a section, newest first: what it read from the clock, and the
moment a registration takes the write lock, which reads no clock. -/
def times (x : Step) : List ℕ :=
  match x.task with
  | .postInput _ (.parsed _) => [x.choice.now]
  | .postInput _ (.validated _ _ _ _ _) => [x.choice.now]
  | _ => readings x.effect.events

/-- Time never goes back. -/
def TimeForward (h : List Step) : Prop := (h.flatMap times).Pairwise (· ≥ ·)

/-- The outpoint texts a round that ended had banned. -/
def RoundEvent.banned : RoundEvent → List String
  | .signingTimedOut _ banned => banned
  | .broadcastFailed _ banned => banned
  | _ => []

/-- The outpoint texts a section banned. -/
def bannedBy (e : Section) : List String := (roundEvents e.events).flatMap RoundEvent.banned

/-- A section that bans an outpoint text: under the key of the text. -/
def Bans (E : Externals) (x : Step) (utxoStr : String) : Prop :=
  ∃ other ∈ bannedBy x.effect, hashUtxoStr E other = hashUtxoStr E utxoStr

/-- The section at a place of the pool in which a registration asks for the ban of
its coin. -/
def ChecksBan (x : Step) (place : ℕ) (utxo : OutPoint) : Prop :=
  x.place = place ∧ ∃ req, x.task = .postInput req (.parsed utxo)

/-- A section in which a validated registration takes the write lock, and finds a
round it can register in. -/
def FindsRound (E : Externals) (config : CoordinatorConfig) (x : Step) (utxo : OutPoint) : Prop :=
  ∃ req blindedToken proof snapshot details,
    x.task = .postInput req (.validated utxo blindedToken proof snapshot details) ∧
    Registrable E config x.world.shared.round utxo blindedToken

/-- No outpoint is registered at a moment when it is banned. -/
def AdmitsNoBanned (E : Externals) (h : List Step) : Prop :=
  ∀ x ∈ h, ∀ r, .inputRegistered r ∈ roundEvents x.effect.events →
    x.world.shared.banList.isBanned E r.utxo.toText x.choice.now = false

/-- No registration finds a round after a section of its window banned its coin
for longer than until now. -/
def NoBanInWindow (E : Externals) (config : CoordinatorConfig) (h : List Step) : Prop :=
  ∀ h₃ x h₂ y h₁ utxo, h = h₃ ++ x :: (h₂ ++ y :: h₁) → FindsRound E config x utxo →
    ChecksBan y x.place utxo → ∀ z ∈ h₂, Bans E z utxo.toText →
    z.choice.now + config.coordinator.blameBanDurationSecs ≤ x.choice.now

/-! ### Bans -/

section Bans

variable {E : Externals} {l : BanList} {utxoStr utxoStr' : String} {utxoStrs : List String}
  {nowSecs banDuration t t' : ℕ}

/-- Only the key of an outpoint text matters. -/
theorem BanList.isBanned_congr (h : hashUtxoStr E utxoStr = hashUtxoStr E utxoStr') :
    l.isBanned E utxoStr t = l.isBanned E utxoStr' t := by
  rw [isBanned, isBanned, h]

/-- A ban that has expired does not come back. -/
theorem BanList.isBanned_eq_false_of_le (h : l.isBanned E utxoStr t = false) (ht : t ≤ t') :
    l.isBanned E utxoStr t' = false := by
  rw [isBanned] at h ⊢
  split at h
  · next entry hentry =>
    simp only [decide_eq_false_iff_not, not_lt] at h ⊢
    omega
  · rfl

/-- Bans that have expired at a time ban nobody at that time. -/
theorem BanList.isBanned_banAll_eq_false (h : l.isBanned E utxoStr t = false)
    (ht : nowSecs + banDuration ≤ t) :
    (l.banAll E utxoStrs nowSecs banDuration).isBanned E utxoStr t = false := by
  induction utxoStrs generalizing l with
  | nil => exact h
  | cons other utxoStrs ih =>
    refine ih ?_
    by_cases hkey : hashUtxoStr E utxoStr = hashUtxoStr E other
    · simp only [ban, isBanned]
      rw [hkey, AList.lookup_insert]
      simpa using ht
    · simpa only [ban, isBanned, AList.lookup_insert_ne hkey] using h

end Bans

/-! ### What a section does to the bans -/

section Sections

variable {E : Externals} {config : CoordinatorConfig} {s : Coordinator} {t : Task} {c : Choice}
  {e : Section}

/-- What a section records in the ban list: the texts it tells, at the time it
read. -/
def RecordsBans (E : Externals) (banDuration : ℕ) (s : Coordinator) (c : Choice) (e : Section) :
    Prop :=
  e.shared.banList = s.banList.banAll E (bannedBy e) c.now banDuration ∧
    (bannedBy e = [] ∨ .clock c.now ∈ e.events)

/-- A section that bans nobody. -/
theorem recordsBans_of_quiet {banDuration : ℕ} (hbans : e.shared.banList = s.banList)
    (hquiet : ∀ ev ∈ roundEvents e.events, ev.banned = []) : RecordsBans E banDuration s c e := by
  have hnone : bannedBy e = [] := List.flatMap_eq_nil_iff.mpr hquiet
  exact ⟨by rw [hbans, hnone]; rfl, Or.inl hnone⟩

/-- A section that tells how one round ended. -/
theorem bannedBy_eq {ev : RoundEvent} {es : List Event} (h : e.events = .round ev :: es)
    (hes : roundEvents es = []) : bannedBy e = ev.banned := by
  rw [bannedBy, h, roundEvents_cons_round, hes]
  exact List.append_nil _

theorem MonitorActs.recordsBans {banDuration : ℕ} (h : MonitorActs s e) :
    RecordsBans E banDuration s c e := by
  cases h with
  | moves monitor events hes =>
    exact recordsBans_of_quiet rfl (by rw [roundEvents_of_note hes]; simp)
  | arms => exact recordsBans_of_quiet rfl (by simp [roundEvents, Event.round?])
  | installs hidle material monitor => exact recordsBans_of_quiet rfl (by simp [RoundEvent.banned])

/-- **What a section that acts records in the ban list.** -/
theorem Acts.recordsBans (h : Acts E config s c t e) :
    RecordsBans E config.coordinator.blameBanDurationSecs s c e := by
  cases h with
  | register h => exact recordsBans_of_quiet rfl (by simp [registeredSection, RoundEvent.banned])
  | redeem h => exact recordsBans_of_quiet rfl (by simp [redeemedSection, RoundEvent.banned])
  | sign h =>
    refine recordsBans_of_quiet rfl fun ev hev => ?_
    obtain rfl := Event.round.inj (mem_submissionEvents (mem_roundEvents.mp hev))
    rfl
  | monitor => exact monitorSection_acts.recordsBans
  | @timer roundId phase =>
    cases phase with
    | signing =>
      simp only [timerSection]
      split
      · exact recordsBans_of_quiet rfl (by simp [proceed])
      · next app banned htimer =>
        -- the deadline bans those who did not sign, and tells their names
        obtain ⟨-, -, -, -, hbans⟩ := signingTimer_eq_some htimer
        refine ⟨?_, Or.inr (by simp)⟩
        rw [bannedBy_eq rfl rfl]
        exact hbans
    | _ => exact recordsBans_of_quiet rfl (by simp [timerSection, proceed])
  | send h => exact recordsBans_of_quiet rfl (by simp [proceed])
  | succeeded =>
    refine recordsBans_of_quiet ?_ fun ev hev => ?_
    · simp only [finalizeSection, finalizeSuccess]
      split <;> rfl
    · simp only [finalizeSection] at hev
      split at hev
      · obtain rfl := List.mem_singleton.mp hev
        rfl
      · exact absurd hev (by simp)
  | @failed roundId prepared m banned =>
    by_cases hlive : s.round.roundId = roundId ∧ s.round.phase = .broadcast
    · simp only [finalizeSection, if_pos hlive]
      -- a broadcast of another round bans nobody
      refine ⟨?_, Or.inr (by simp)⟩
      rw [bannedBy_eq rfl rfl]
      simp only [finalizeFailure, if_pos hlive, applyBroadcastFailureBlame]
      split
      · rfl
      · split <;> rfl
    · simp only [finalizeSection, if_neg hlive]
      exact recordsBans_of_quiet (by rw [finalizeFailure_stale hlive]) (by simp)
  | relay => exact recordsBans_of_quiet rfl (by simp [proceed])
  | evict => exact recordsBans_of_quiet rfl (by simp [proceed])

/-- **What a section records in the ban list.** -/
theorem exec_recordsBans (h : exec E config s t c = some e) :
    RecordsBans E config.coordinator.blameBanDurationSecs s c e := by
  obtain ⟨-, e', he', rfl⟩ := exec_eq_some h
  have hstep : RecordsBans E config.coordinator.blameBanDurationSecs s c e' := by
    rcases taskSection_cases he' with ⟨next, rfl⟩ | hacts
    · exact recordsBans_of_quiet rfl (by simp [proceed])
    · exact hacts.recordsBans
  have hphase : (phaseEvents s.round e'.shared.round c.fresh).flatMap RoundEvent.banned = [] :=
    List.flatMap_eq_nil_iff.mpr fun ev hev => by
      rcases mem_phaseEvents hev with rfl | rfl <;> rfl
  have hbanned : bannedBy { e' with
      events := (phaseEvents s.round e'.shared.round c.fresh).map .round ++ e'.events } =
      bannedBy e' := by
    rw [bannedBy, roundEvents_append, roundEvents_map_round, List.flatMap_append, hphase,
      List.nil_append, bannedBy]
  rw [RecordsBans, hbanned]
  exact ⟨hstep.1, hstep.2.imp id (List.mem_append_right _)⟩

/-! ### How a registration comes to be validated -/

/-- The outpoint of a registration that passed its ban check. -/
def InputStage.checked : InputStage → Option OutPoint
  | .received => none
  | .parsed _ => none
  | .decoded utxo _ _ => some utxo
  | .snapshotted utxo _ _ _ => some utxo
  | .validated utxo _ _ _ _ => some utxo

/-- An attempt that goes on is its continuation. -/
theorem exists_eq_ok_of_checked {α : Type} {respond : HttpError → Response} {r : Res HttpError α}
    {k : α → Section} {req : InputRegRequest} {stage : InputStage}
    (h : (attempt s respond r k).next = .postInput req stage) :
    ∃ a, r = .ok a ∧ (k a).next = .postInput req stage := by
  rcases r with (e | m) | a
  · exact absurd h (by simp [attempt, proceed])
  · exact absurd h (by simp [attempt, proceed])
  · exact ⟨a, rfl, h⟩

/-- **A registration past its ban check** was past it before, or just passed it:
its coin is not banned. -/
theorem postInputSection_checked {req req' : InputRegRequest} {stage stage' : InputStage}
    {utxo : OutPoint} (hnext : (postInputSection E config s req c stage).next =
      .postInput req' stage') (hchecked : stage'.checked = some utxo) :
    req' = req ∧ (stage.checked = some utxo ∨
      (stage = .parsed utxo ∧ s.banList.isBanned E utxo.toText c.now = false)) := by
  cases stage with
  | received =>
    obtain ⟨a, -, hk⟩ := exists_eq_ok_of_checked hnext
    obtain ⟨rfl, rfl⟩ := Task.postInput.inj hk
    exact absurd hchecked (by simp [InputStage.checked])
  | parsed u =>
    obtain ⟨⟨blindedToken, proof⟩, hr, hk⟩ := exists_eq_ok_of_checked hnext
    obtain ⟨rfl, rfl⟩ := Task.postInput.inj hk
    obtain rfl := Option.some.inj hchecked
    simp only [ofExcept_eq_ok, bind_eq_ok, postInputBanCheck, require_eq_ok] at hr
    obtain ⟨_, hban, -⟩ := hr
    exact ⟨rfl, Or.inr ⟨rfl, hban⟩⟩
  | decoded u blindedToken proof =>
    obtain ⟨rfl, rfl⟩ := Task.postInput.inj hnext
    exact ⟨rfl, Or.inl hchecked⟩
  | snapshotted u blindedToken proof snapshot =>
    obtain ⟨details, -, hk⟩ := exists_eq_ok_of_checked hnext
    obtain ⟨rfl, rfl⟩ := Task.postInput.inj hk
    exact ⟨rfl, Or.inl hchecked⟩
  | validated u blindedToken proof snapshot details =>
    obtain ⟨a, -, hk⟩ := exists_eq_ok_of_checked hnext
    exact absurd hk (by simp [registeredSection])

/-- Only a registration becomes one past its ban check. -/
theorem exec_checked {req : InputRegRequest} {stage : InputStage} {utxo : OutPoint}
    (h : exec E config s t c = some e) (hnext : e.next = .postInput req stage)
    (hchecked : stage.checked = some utxo) :
    ∃ stage', t = .postInput req stage' ∧ (stage'.checked = some utxo ∨
      (stage' = .parsed utxo ∧ s.banList.isBanned E utxo.toText c.now = false)) := by
  obtain ⟨stage', rfl⟩ := exec_postInput h hnext
  obtain ⟨-, e', he', rfl⟩ := exec_eq_some h
  obtain rfl := Option.some.inj he'
  exact ⟨stage', rfl, (postInputSection_checked hnext hchecked).2⟩

end Sections

/-! ### The window of a registration -/

section Runs

variable {E : Externals} {config : CoordinatorConfig} {fresh : Uuid} {banList : BanList}
  {w w₀ : World Coordinator Task Event} {h h₁ h₂ : List Step} {x y : Step} {utxo : OutPoint}
  {utxoStr : String}

/-- **A registration past its ban check has passed it**: its place of the pool has
the section in which the coin was not banned. -/
theorem exists_checksBan (hr : Ran (coordinator E config) (startup fresh banList) h w) :
    ∀ i t, w.threads[i]? = some t → ∀ req stage utxo, t = .postInput req stage →
      stage.checked = some utxo → ∃ h₂ y h₁, h = h₂ ++ y :: h₁ ∧ ChecksBan y i utxo ∧
        y.world.shared.banList.isBanned E utxo.toText y.choice.now = false := by
  refine hr.places (fun h i t => ∀ req stage utxo, t = .postInput req stage →
      stage.checked = some utxo → ∃ h₂ y h₁, h = h₂ ++ y :: h₁ ∧ ChecksBan y i utxo ∧
        y.world.shared.banList.isBanned E utxo.toText y.choice.now = false)
    (fun i t ht req stage utxo heq _ => ?_) (fun {h i t} ha req stage utxo heq hc => ?_)
    (fun {h i t x} ih req stage utxo heq hc => ?_)
    (fun {h x} hw ht he ih => ⟨fun req stage utxo hnext hc => ?_, fun i u hu => ?_⟩)
  · obtain rfl := List.mem_singleton.mp (List.mem_of_getElem? ht)
    exact absurd heq (by simp)
  · subst heq
    cases stage with
    -- a request arrives before its check
    | received => exact absurd hc (by simp [InputStage.checked])
    | _ => exact absurd ha (by simp [coordinator, Task.arrives])
  · obtain ⟨h₂, y, h₁, rfl, hy⟩ := ih req stage utxo heq hc
    exact ⟨x :: h₂, y, h₁, rfl, hy⟩
  · obtain ⟨stage', htask, hbefore | ⟨rfl, hban⟩⟩ := exec_checked he hnext hc
    · obtain ⟨h₂, y, h₁, rfl, hy⟩ := ih req stage' utxo htask hbefore
      exact ⟨x :: h₂, y, h₁, rfl, hy⟩
    -- this is the section of the check
    · exact ⟨[], x, h, rfl, ⟨rfl, req, htask⟩, hban⟩
  · intro req stage utxo heq _
    rcases exec_spawned he hu with ⟨_, _, rfl⟩ | ⟨_, _, rfl⟩ <;> exact absurd heq (by simp)

/-- A coin that is not banned is not banned later, when whatever banned it since
has expired. -/
theorem isBanned_eq_false_of_window (hr : Ran (coordinator E config) w₀ h w) {now : ℕ}
    (hfree : w₀.shared.banList.isBanned E utxoStr now = false)
    (hwindow : ∀ z ∈ h, Bans E z utxoStr →
      z.choice.now + config.coordinator.blameBanDurationSecs ≤ now) :
    w.shared.banList.isBanned E utxoStr now = false := by
  refine hr.keeps (fun s => s.banList.isBanned E utxoStr now = false) (fun z hz he ih => ?_) hfree
  rw [(exec_recordsBans he).1]
  by_cases hbans : Bans E z utxoStr
  · exact BanList.isBanned_banAll_eq_false ih (hwindow z hz hbans)
  · rw [BanList.isBanned_banAll_of_ne fun other hother hkey => hbans ⟨other, hother, hkey.symm⟩]
    exact ih

/-- A coin that is banned for longer than until some time stays so, when time has
not gone back since. -/
theorem isBanned_of_later (hr : Ran (coordinator E config) w₀ h w) {now : ℕ}
    (hbanned : w₀.shared.banList.isBanned E utxoStr now = true)
    (hlater : ∀ z ∈ h, bannedBy z.effect ≠ [] →
      now < z.choice.now + config.coordinator.blameBanDurationSecs) :
    w.shared.banList.isBanned E utxoStr now = true := by
  refine hr.keeps (fun s => s.banList.isBanned E utxoStr now = true) (fun z hz he ih => ?_) hbanned
  rw [(exec_recordsBans he).1]
  by_cases hnone : bannedBy z.effect = []
  · rw [hnone]
    exact ih
  · exact BanList.isBanned_banAll_of_isBanned _ (hlater z hz hnone) ih

/-- What a section bans, it bans until the ban expires. -/
theorem isBanned_of_bans (he : exec E config x.world.shared x.task x.choice = some x.effect)
    (hbans : Bans E x utxoStr) {now : ℕ}
    (hnow : now < x.choice.now + config.coordinator.blameBanDurationSecs) :
    x.effect.shared.banList.isBanned E utxoStr now = true := by
  obtain ⟨other, hother, hkey⟩ := hbans
  rw [(exec_recordsBans he).1, ← BanList.isBanned_congr hkey]
  exact BanList.isBanned_banAll hother hnow

/-! ### Time -/

/-- A section that bans reads the clock. -/
theorem mem_times_of_bans (he : exec E config x.world.shared x.task x.choice = some x.effect)
    (hbans : bannedBy x.effect ≠ []) : x.choice.now ∈ times x := by
  have hread : x.choice.now ∈ readings x.effect.events :=
    mem_readings.mpr ((exec_recordsBans he).2.resolve_left hbans)
  rw [times]
  split
  · exact List.mem_singleton_self _
  · exact List.mem_singleton_self _
  · exact hread

/-- Earlier sections have earlier times. -/
theorem TimeForward.le (htime : TimeForward (h₂ ++ x :: h₁)) {t t' : ℕ} (ht : t ∈ times x)
    (hy : y ∈ h₂) (ht' : t' ∈ times y) : t ≤ t' := by
  rw [TimeForward, List.flatMap_append, List.pairwise_append] at htime
  exact htime.2.2 t' (List.mem_flatMap.mpr ⟨y, hy, ht'⟩) t
    (List.mem_flatMap.mpr ⟨x, List.mem_cons_self, ht⟩)

theorem TimeForward.of_append (htime : TimeForward (h₂ ++ h₁)) : TimeForward h₁ := by
  rw [TimeForward, List.flatMap_append, List.pairwise_append] at htime
  exact htime.2.1

/-! ### The round a registration finds -/

/-- **A round a coin can be registered in registers it.** -/
theorem Registrable.registers {s : RoundState} {blindedToken : Bytes}
    (hreg : Registrable E config s utxo blindedToken) (req : InputRegRequest)
    (details : UtxoDetails) :
    ∃ result, postInputRegister E config s req utxo blindedToken details = .ok result := by
  obtain ⟨hphase, hroom, inner, signer, sig, hinner, hnew, hsigner, hsig⟩ := hreg
  simp only [postInputRegister, registerInput, bind_eq_ok, ofExcept_eq_ok, checkPhase_eq_ok,
    require_eq_ok, mapErr_eq_ok, okOr_eq_ok, expect_eq_ok]
  exact ⟨_, (), hphase, (), hroom, (), by simp [hinner], _,
    ⟨inner, hinner, (), hnew, signer, hsigner, sig, hsig, rfl⟩, rfl⟩

/-- A registration that finds a round registers its coin. -/
theorem FindsRound.registered (he : exec E config x.world.shared x.task x.choice = some x.effect)
    (hfinds : FindsRound E config x utxo) :
    ∃ r, r.utxo = utxo ∧ .inputRegistered r ∈ roundEvents x.effect.events := by
  obtain ⟨req, blindedToken, proof, snapshot, details, htask, hreg⟩ := hfinds
  obtain ⟨⟨round, result⟩, hok⟩ := hreg.registers req details
  obtain ⟨-, e', he', heq⟩ := exec_eq_some he
  rw [htask] at he'
  obtain rfl := Option.some.inj he'
  rw [heq, roundEvents_append]
  simp only [postInputSection, hok, attempt, registeredSection]
  exact ⟨_, rfl, List.mem_append_right _ List.mem_cons_self⟩

/-- What registers a coin found a round, after a ban check that it passed. -/
theorem exists_window (hr : Ran (coordinator E config) (startup fresh banList) h w) (hx : x ∈ h)
    {r : Registration} (hreg : .inputRegistered r ∈ roundEvents x.effect.events) :
    FindsRound E config x r.utxo ∧ x.choice.now ∈ times x ∧
      ∃ h₃ h₂ y h₁, h = h₃ ++ x :: (h₂ ++ y :: h₁) ∧ ChecksBan y x.place r.utxo ∧
        y.world.shared.banList.isBanned E r.utxo.toText y.choice.now = false := by
  obtain ⟨h₃, h₁, rfl⟩ := List.append_of_mem hx
  obtain ⟨hbefore, ht, he, -⟩ := hr.split
  obtain ⟨req, snapshot, round, result, htask, hok, -⟩ := exec_registration he hreg
  have hvalid : Validated E config r.utxo req.changeAddress r.ownershipProof snapshot.roundId
      r.details := by
    have hsound := sound_of_reachable hbefore.reachable x.task (List.mem_of_getElem? ht)
    rw [htask] at hsound
    exact hsound
  obtain ⟨inner, hregisters, -⟩ := postInputRegister_eq_ok hok hvalid
  obtain ⟨h₂, y, h₁', rfl, hchecks, hfree⟩ :=
    exists_checksBan hbefore x.place x.task ht req _ r.utxo htask rfl
  refine ⟨⟨req, _, _, _, _, htask, hregisters.registrable⟩, ?_, h₃, h₂, y, h₁', rfl, hchecks, hfree⟩
  rw [times, htask]
  exact List.mem_singleton_self _

/-- A ban check leaves the ban list alone. -/
theorem ChecksBan.shared_eq {place : ℕ}
    (he : exec E config x.world.shared x.task x.choice = some x.effect)
    (hchecks : ChecksBan x place utxo) : x.effect.shared = x.world.shared := by
  obtain ⟨-, req, htask⟩ := hchecks
  obtain ⟨-, e', he', heq⟩ := exec_eq_some he
  rw [htask] at he'
  obtain rfl := Option.some.inj he'
  rw [heq]
  simp only [postInputSection]
  obtain ⟨next, hnext⟩ := exists_attempt_eq_proceed (s := x.world.shared)
    (r := ofExcept id do
      postInputBanCheck E x.world.shared.banList utxo x.choice.now; postInputDecode E req)
  rw [hnext]
  rfl

end Runs

variable {E : Externals} {config : CoordinatorConfig} {fresh : Uuid} {banList : BanList}
  {w : World Coordinator Task Event} {h : List Step}

/-- **When bans are enforced against registrations in progress.** In every run in
which time does not go back, whatever requests, deadlines, failed broadcasts and
rounds are interleaved in it: no outpoint is registered while it is banned, if
and only if no registration finds a round after a section since its ban check
banned its coin for longer than until then. -/
theorem admitsNoBanned_iff (hr : Ran (coordinator E config) (startup fresh banList) h w)
    (htime : TimeForward h) : AdmitsNoBanned E h ↔ NoBanInWindow E config h := by
  constructor
  · rintro hadmits h₃ x h₂ y h₁ utxo rfl hfinds - z hz hbans
    by_contra hnow
    rw [not_le] at hnow
    obtain ⟨hx, -, hex, -⟩ := hr.split
    -- the registration found a round, so it registers the coin, which must be free
    obtain ⟨r, rfl, hreg⟩ := hfinds.registered hex
    have hfree := hadmits x (by simp) r hreg
    obtain ⟨h₄, h₅, rfl⟩ := List.append_of_mem hz
    rw [List.append_assoc, List.cons_append] at hx
    obtain ⟨-, -, hez, hafter⟩ := hx.split
    -- the ban is in force when the section ends, and stays so until the insertion
    have hbanned := isBanned_of_later hafter (isBanned_of_bans hez hbans hnow)
      fun u hu hsome => by
        have hzne : bannedBy z.effect ≠ [] := by
          obtain ⟨other, hother, -⟩ := hbans
          exact List.ne_nil_of_mem hother
        have heu := hafter.exec_of_mem hu
        have htail : TimeForward ((h₃ ++ [x]) ++ (h₄ ++ z :: (h₅ ++ y :: h₁))) := by
          simpa using htime
        have hle := htail.of_append.le (mem_times_of_bans hez hzne) hu
          (mem_times_of_bans heu hsome)
        omega
    rw [hfree] at hbanned
    exact Bool.noConfusion hbanned
  · intro hwindow x hx r hreg
    obtain ⟨hfinds, hxtime, h₃, h₂, y, h₁, rfl, hchecks, hfree⟩ := exists_window hr hx hreg
    obtain ⟨hbefore, -, -, -⟩ := hr.split
    obtain ⟨-, -, hey, hafter⟩ := hbefore.split
    have hytime : y.choice.now ∈ times y := by
      obtain ⟨-, req, htask⟩ := hchecks
      rw [times, htask]
      exact List.mem_singleton_self _
    -- the coin was free at its check, hence free of every older ban at its insertion
    have hle : y.choice.now ≤ x.choice.now := by
      have htime' : TimeForward ((h₃ ++ x :: h₂) ++ y :: h₁) := by
        rw [List.append_assoc, List.cons_append]
        exact htime
      exact htime'.le hytime (by simp) hxtime
    refine isBanned_eq_false_of_window hafter ?_ fun z hz hbans =>
      hwindow h₃ x h₂ y h₁ r.utxo rfl hfinds hchecks z hz hbans
    show y.effect.shared.banList.isBanned E r.utxo.toText x.choice.now = false
    rw [hchecks.shared_eq hey]
    exact BanList.isBanned_eq_false_of_le hfree hle

/-! ### A coin that is banned while it is registered -/

instance (h : List Step) : Decidable (TimeForward h) :=
  inferInstanceAs (Decidable ((h.flatMap times).Pairwise (· ≥ ·)))

/-- A registration, with the time of its insertion. -/
def inputMovesAt (i : ℕ) (req : InputRegRequest) (a : HttpAnswer) (now : ℕ) : List Move :=
  validateMoves i req a ++ [.run i { now := now }]

/-- The first participant registers. -/
def timedMoves : List Move :=
  startMoves firstKeys ++
    inputMovesAt 1 firstInput (unspentAnswer "0.01020000" firstScript) 1760000001

theorem admitsNoBanned_iff_session :
    (recorded session.externals configOfTwo timedMoves).2.shared.round.participantCount = 1 ∧
    (AdmitsNoBanned session.externals (recorded session.externals configOfTwo timedMoves).1 ↔
      NoBanInWindow session.externals configOfTwo
        (recorded session.externals configOfTwo timedMoves).1) :=
  ⟨by decide +kernel, admitsNoBanned_iff (recorded_ran _ _ _) (by decide +kernel)⟩

/-- The coin of the first participant is validated twice, and registered once. Nobody
signs, the deadline bans both coins, the next round begins, and the request that
was validated takes the write lock. -/
def bannedMoves : List Move :=
  startMoves firstKeys ++
    validateMoves 1 firstInput (unspentAnswer "0.01020000" firstScript) ++
    inputMovesAt 2 firstInput (unspentAnswer "0.01020000" firstScript) 1760000001 ++
    inputMovesAt 3 secondInput (unspentAnswer "0.01030000" secondScript) 1760000001 ++
    outputMoves 4 firstOutput ++ outputMoves 5 secondOutput ++
    [.run 0 {}, .run 6 deadline,
      .run 0 {}, .run 0 { now := 1760000201 }, .run 0 { keygen := some secondKeys }, .run 0 {},
      .run 1 { now := 1760000202 }]

/-- **A banned coin is registered** in the round after the one that banned it. -/
theorem exists_banned_registered :
    Ran (coordinator session.externals configOfTwo) (startup firstRound .new)
      (recorded session.externals configOfTwo bannedMoves).1
      (recorded session.externals configOfTwo bannedMoves).2 ∧
    TimeForward (recorded session.externals configOfTwo bannedMoves).1 ∧
    ¬AdmitsNoBanned session.externals (recorded session.externals configOfTwo bannedMoves).1 := by
  have hrun : TimeForward (recorded session.externals configOfTwo bannedMoves).1 ∧
      ((recorded session.externals configOfTwo bannedMoves).1.any fun x =>
        (registrations (roundEvents x.effect.events)).any fun r =>
          r.utxo = firstCoin ∧ r.roundId = secondRound ∧
          x.world.shared.banList.isBanned session.externals r.utxo.toText x.choice.now) = true := by
    decide +kernel
  obtain ⟨htime, hany⟩ := hrun
  refine ⟨recorded_ran _ _ _, htime, fun hadmits => ?_⟩
  obtain ⟨x, hx, hregistered⟩ := List.any_eq_true.mp hany
  obtain ⟨r, hr, hbanned⟩ := List.any_eq_true.mp hregistered
  have hfree := hadmits x hx r (mem_registrations.mp hr)
  simp only [decide_eq_true_eq] at hbanned
  rw [hfree] at hbanned
  exact Bool.noConfusion hbanned.2.2

end Blindjoin
