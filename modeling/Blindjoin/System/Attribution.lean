import Blindjoin.System.Ledger
import Blindjoin.System.Recorded

/-!
# Who is banned at the signing deadline

At the signing deadline the coordinator bans the outpoints it finds registered
and without a signature. Both are keyed by the canonical text of an outpoint,
whatever spelling the requests used, so **the banned outpoints are exactly those
of the round whose owner did not sign** (`Blindjoin.attribution`), and a ban is
found again by every later registration of the coin.
-/

namespace Blindjoin

open Interleaving Collections

/-- What the log of a round says of the outpoint texts it should ban: registered
in this round, and no signature recorded. -/
def NotSigned (log : List RoundEvent) (utxoStr : String) : Prop :=
  (∃ r, .inputRegistered r ∈ currentEvents log ∧ r.utxo.toText = utxoStr) ∧
  ¬∃ sub, .sigRecorded sub ∈ currentEvents log ∧ sub.utxo.toText = utxoStr

section Proof

variable {E : Externals} {config : CoordinatorConfig} {s : Coordinator} {c : Choice}
  {roundId : Uuid} {log : List RoundEvent} {inner : RoundStateInner} {keys banned : List String}

/-- **Non-signers are read off the log.** -/
theorem Ledger.mem_detectNonSigners (h : Ledger roundId log inner)
    (hkeys : keys.Perm inner.registeredInputs.keys) {utxoStr : String} :
    utxoStr ∈ detectNonSigners keys inner.partialSigs ↔ NotSigned log utxoStr := by
  rw [detectNonSigners, List.mem_filter, decide_eq_true_eq, hkeys.mem_iff, ← AList.mem_keys,
    h.mem_registeredInputs, h.mem_partialSigs, NotSigned]

/-- What the section of a signing timer does when it bans. -/
theorem exec_signingTimedOut {t : Task} {e : Section} (h : exec E config s t c = some e)
    (hev : .signingTimedOut roundId banned ∈ roundEvents e.events) :
    t = .timer roundId .signing ∧ s.round.roundId = roundId ∧ s.round.phase = .signing ∧
    s.round.IteratesKeys c.keys ∧ banned = s.round.nonSigners c.keys ∧
    e.shared.round = RoundState.newIdle c.fresh ∧
    e.shared.banList =
      s.banList.banAll E banned c.now config.coordinator.blameBanDurationSecs := by
  rcases exec_emits h hev with hphase | hemits
  · rcases mem_phaseEvents hphase with h | h <;> exact absurd h (by simp)
  · cases hemits with
    | @signingTimedOut _ app _ htimer =>
      obtain ⟨hiter, e', he', rfl⟩ := exec_eq_some h
      obtain ⟨hid, hphase, hbanned, hround, hbans⟩ := signingTimer_eq_some htimer
      obtain rfl := Option.some.inj he'
      refine ⟨rfl, hid, hphase, hiter, hbanned, ?_, ?_⟩
      · simpa only [timerSection, htimer] using hround
      · simpa only [timerSection, htimer] using hbans

/-- **A signer who is told that the signature was recorded** has it in the log. -/
theorem exec_answered_recorded {req : SignRequest} {d : DecodedSign} {e : Section}
    (h : exec E config s (.postSign req (.decoded d)) c = some e)
    (hnext : e.next = .answered (.sign (.ok .recorded))) :
    roundEvents e.events = phaseEvents s.round e.shared.round c.fresh ++
      [.sigRecorded ⟨s.round.roundId, d.utxo, d.partialSig, d.sessionToken, .ok .recorded⟩] := by
  obtain ⟨_, e', he', rfl⟩ := exec_eq_some h
  obtain rfl := Option.some.inj he'
  have hout : (postSignProcess E config s.round d c.iter).2 = .ok .recorded := by
    have hnext' : submissionNext (postSignProcess E config s.round d c.iter).2 =
        .answered (.sign (.ok .recorded)) := hnext
    rcases hcase : (postSignProcess E config s.round d c.iter).2 with (err | m) | (_ | prepared)
    · exact absurd hnext' (by simp [hcase, submissionNext])
    · exact absurd hnext' (by simp [hcase, submissionNext])
    · rfl
    · exact absurd hnext' (by simp [hcase, submissionNext])
  have hprocess : postSignProcess E config s.round d c.iter =
      ((postSignProcess E config s.round d c.iter).1, .ok .recorded) := Prod.ext rfl hout
  rw [roundEvents_append, roundEvents_map_round]
  simp only [postSignSection, processedSection, hout, submissionEvents_of_ok hprocess]
  rfl

/-- After the round entered its broadcast the signing timer does nothing. -/
theorem exec_signingTimer_broadcast {e : Section} (hphase : s.round.phase = .broadcast)
    (h : exec E config s (.timer roundId .signing) c = some e) : e.shared = s := by
  obtain ⟨_, e', he', rfl⟩ := exec_eq_some h
  obtain rfl := Option.some.inj he'
  have hnone : signingTimer E config s.toAppState roundId c = none :=
    if_pos (Or.inr (by rw [hphase]; decide))
  simp only [timerSection, hnone, proceed]

end Proof

/-! ### Every reachable world -/

variable {E : Externals} {config : CoordinatorConfig} {fresh : Uuid} {banList : BanList}
  {w : World Coordinator Task Event}

/-- **Blame for a missing signature is exact.** When a signing timer ends a
round, it bans the outpoints registered in this round without a recorded
signature and no others, and leaves every other ban as it was; every recorded
signature was one that was accepted against the transaction of the round, and a
participant who was told "recorded" has one. A banned text is the one the ban
check asks for, whatever spelling of the outpoint a later request uses. After the
round entered its broadcast the timer bans nobody. -/
theorem attribution (hvalid : config.validate = .ok ())
    (hr : Reachable (coordinator E config) (startup fresh banList) w) :
    (∀ t c e roundId banned, exec E config w.shared t c = some e →
      .signingTimedOut roundId banned ∈ roundEvents e.events →
      w.shared.round.roundId = roundId ∧ w.shared.round.phase = .signing ∧
      e.shared.banList =
        w.shared.banList.banAll E banned c.now config.coordinator.blameBanDurationSecs ∧
      (∀ utxoStr, utxoStr ∈ banned ↔ NotSigned (roundEvents w.log) utxoStr) ∧
      (∀ utxoStr ∈ banned, ∃ utxo : OutPoint, utxo.toText = utxoStr ∧
        ∀ req : InputRegRequest, parseOutpoint req.utxoOutpoint = some utxo →
          postInputOutpoint req = .ok utxo ∧
          ∀ now, now < c.now + config.coordinator.blameBanDurationSecs →
            postInputBanCheck E e.shared.banList utxo now =
              .error (apiError .forbidden "UTXO_BANNED" "UTXO is temporarily banned" none)) ∧
      ∀ utxoStr now, (∀ u ∈ banned, hashUtxoStr E utxoStr ≠ hashUtxoStr E u) →
        e.shared.banList.isBanned E utxoStr now = w.shared.banList.isBanned E utxoStr now) ∧
    (∀ inner sub, w.shared.round.inner = some inner →
      .sigRecorded sub ∈ currentEvents (roundEvents w.log) →
      ∃ reg psbt i, AcceptedSig E config inner sub.utxo sub.partialSig reg psbt i) ∧
    (∀ req d c e, exec E config w.shared (.postSign req (.decoded d)) c = some e →
      e.next = .answered (.sign (.ok .recorded)) →
      ∃ sub, .sigRecorded sub ∈ currentEvents (roundEvents (e.events ++ w.log)) ∧
        sub.utxo = d.utxo ∧ ¬NotSigned (roundEvents (e.events ++ w.log)) d.utxo.toText) ∧
    ∀ roundId c e, w.shared.round.phase = .broadcast →
      exec E config w.shared (.timer roundId .signing) c = some e → e.shared = w.shared := by
  have hv := CoordinatorConfig.valid_of_validate hvalid
  have hrun := roundRun_of_reachable hr
  refine ⟨fun t c e roundId banned he hev => ?_, fun inner sub hinner hsub => ?_,
    fun req d c e he hnext => ?_,
    fun roundId c e hphase he => exec_signingTimer_broadcast hphase he⟩
  · obtain ⟨-, hid, hphase, hiter, hbanned, -, hbans⟩ := exec_signingTimedOut he hev
    obtain ⟨inner, hinner, hinv⟩ := (hrun.roundInv hv).exists_inner (by simp [hphase])
    have hledger := hrun.ledger hv inner hinner
    have hmem : ∀ utxoStr, utxoStr ∈ banned ↔ NotSigned (roundEvents w.log) utxoStr := by
      intro _
      rw [hbanned, RoundState.nonSigners, hinner]
      exact hledger.mem_detectNonSigners (hiter inner hinner)
    refine ⟨hid, hphase, hbans, hmem, fun utxoStr hbanned' => ?_, fun utxoStr now hne => ?_⟩
    · obtain ⟨⟨r, -, rfl⟩, -⟩ := (hmem utxoStr).mp hbanned'
      refine ⟨r.utxo, rfl, fun req hreq => ⟨?_, fun now hnow => ?_⟩⟩
      · rw [postInputOutpoint, hreq]
        rfl
      · rw [hbans, postInputBanCheck, BanList.isBanned_banAll hbanned' hnow]
        rfl
    · rw [hbans, BanList.isBanned_banAll_of_ne hne]
  · have hlookup := (hrun.ledger hv inner hinner).lookup_partialSigs hsub
    obtain ⟨utxo, reg, psbt, i, htext, haccepted⟩ := hrun.sigsAccepted hv inner hinner _ _ hlookup
    obtain rfl := OutPoint.toText_injective htext
    exact ⟨reg, psbt, i, haccepted⟩
  · have hevents := exec_answered_recorded he hnext
    have hcurrent : currentEvents (roundEvents (e.events ++ w.log)) =
        roundEvents e.events ++ currentEvents (roundEvents w.log) := by
      rw [roundEvents_append]
      refine currentEvents_append (fun ev hev => ?_) _
      rw [hevents] at hev
      rcases List.mem_append.mp hev with hev | hev
      · rcases mem_phaseEvents hev with rfl | rfl <;> rfl
      · obtain rfl := List.mem_singleton.mp hev
        rfl
    have hmem : .sigRecorded ⟨w.shared.round.roundId, d.utxo, d.partialSig, d.sessionToken,
        .ok .recorded⟩ ∈ currentEvents (roundEvents (e.events ++ w.log)) := by
      rw [hcurrent, hevents]
      simp
    exact ⟨_, hmem, rfl, fun hnot => hnot.2 ⟨_, hmem, rfl⟩⟩

/-- The signing deadline passes. -/
def deadline : Choice where
  now := 1760000200
  later := 1760000200
  fresh := secondRound
  keys := [firstCoin.toText, secondCoin.toText]

theorem attribution_session :
    ∃ e, exec session.externals configOfTwo (worldAfter oneSignedMoves).shared
        (.timer firstRound .signing) deadline = some e ∧
      .signingTimedOut firstRound [secondCoin.toText] ∈ roundEvents e.events ∧
      e.shared.banList = (worldAfter oneSignedMoves).shared.banList.banAll session.externals
        [secondCoin.toText] deadline.now configOfTwo.coordinator.blameBanDurationSecs ∧
      ∀ utxoStr, utxoStr ∈ [secondCoin.toText] ↔
        NotSigned (roundEvents (worldAfter oneSignedMoves).log) utxoStr := by
  have hrun : (exec session.externals configOfTwo (worldAfter oneSignedMoves).shared
      (.timer firstRound .signing) deadline).any (fun e =>
        .signingTimedOut firstRound [secondCoin.toText] ∈ roundEvents e.events) = true := by
    decide +kernel
  obtain ⟨e, he, hev⟩ := (Option.any_eq_true _ _).mp hrun
  have hevent := of_decide_eq_true hev
  obtain ⟨-, -, hbans, hbanned, -⟩ :=
    (attribution configOfTwo_validate (worldAfter_reachable oneSignedMoves)).1 _ _ e _ _ he hevent
  exact ⟨e, he, hevent, hbans, hbanned⟩

end Blindjoin
