import Blindjoin.System.Recorded
import Blindjoin.System.Sections

/-!
# Who is banned after a failed broadcast

When a broadcast fails, `finalize_broadcast` asks the node for each input of the
round whether it is still unspent, the mempool included, and bans the inputs for
which the node answers null. The question is whether *another* transaction spent
them, but a null says less than that. The node counts the transaction of the round
itself: when it took that transaction and the answer was lost, every participant
looks like a double spender. It also answers null for an output it does not know,
because the block that made it was reorganised away, and nobody spent that one.

**Only inputs that another transaction spent are banned**
(`Blindjoin.banned_spent_by_other`) as long as two things hold of each lookup:

* a null is about an output that some transaction the node holds spends
  (`Blindjoin.SpentWhenNull`);
* the node does not hold the transaction of the round, or another transaction
  spends the input as well (`Blindjoin.OwnNotHeld`).

The code checks neither: a null bans the input whatever the reason
(`Blindjoin.Revalidation.exists_mem_spent_absorb`).
-/

namespace Blindjoin

open Interleaving

/-! ### Statement -/

/-- A transaction other than the given one, which the node took at some time,
spends an outpoint. -/
def Node.SpentByOther (E : Externals) (n : Node) (ownHex : String) (o : OutPoint) : Prop :=
  ∃ txHex ∈ n.seen, txHex ≠ ownHex ∧ o ∈ E.spentOutpoints txHex

/-- All these texts are outpoints that another transaction spends. -/
def Node.AllSpentByOther (E : Externals) (n : Node) (ownHex : String) (utxoStrs : List String) :
    Prop :=
  ∀ utxoStr ∈ utxoStrs, ∃ o, parseOutpoint utxoStr = some o ∧ n.SpentByOther E ownHex o

/-- When the node answers null to the lookup of an input after a failed broadcast,
a transaction it holds spends this input, so the output does exist. -/
def SpentWhenNull (E : Externals) (s : Coordinator) : Task → Choice → Prop
  | .finalize _ _ (.revalidating _ loop), c =>
    ∀ o, loop.query = some o → isOutputUnspentIncludingMempool c.answer = .ok false →
      s.node.spends E o = true
  | _, _ => True

/-- When the node answers the lookup of an input after a failed broadcast, it
does not hold the transaction of the round, unless another transaction spends
this input. -/
def OwnNotHeld (E : Externals) (s : Coordinator) : Task → Choice → Prop
  | .finalize _ prepared (.revalidating _ loop), c =>
    ∀ o unspent, loop.query = some o → isOutputUnspentIncludingMempool c.answer = .ok unspent →
      prepared.txHex ∈ s.node.accepted → s.node.SpentByOther E prepared.txHex o
  | _, _ => True

/-- What is known of the end of a broadcast: the inputs it found spent. -/
def Task.BlamesOthers (E : Externals) (s : Coordinator) : Task → Prop
  | .finalize _ prepared (.revalidating _ loop) =>
    s.node.AllSpentByOther E prepared.txHex loop.spent
  | .finalize _ prepared (.failed _ banned) => s.node.AllSpentByOther E prepared.txHex banned
  | _ => True

/-! ### The lookups -/

namespace Revalidation

/-- The outpoint that is looked up is the one the text says. -/
theorem parseOutpoint_of_nextOutpoint {utxoStrs rest : List String} {utxoStr : String}
    {o : OutPoint} (h : nextOutpoint utxoStrs = some (utxoStr, o, rest)) :
    parseOutpoint utxoStr = some o := by
  induction utxoStrs with
  | nil => exact absurd h (by simp [nextOutpoint])
  | cons text utxoStrs ih =>
    rw [nextOutpoint] at h
    split at h
    · next outpoint hparse =>
      obtain ⟨rfl, rfl, rfl⟩ : text = utxoStr ∧ outpoint = o ∧ utxoStrs = rest := by simpa using h
      exact hparse
    · exact ih h

/-- **One lookup** finds its outpoint spent when the node says so, and otherwise
finds nothing. -/
theorem spent_absorb {loop : Revalidation} {answer : HttpAnswer} {o : OutPoint}
    (h : loop.query = some o) :
    (loop.absorb answer).spent = loop.spent ∨
      isOutputUnspentIncludingMempool answer = .ok false ∧
        ∃ utxoStr, parseOutpoint utxoStr = some o ∧
          (loop.absorb answer).spent = loop.spent ++ [utxoStr] := by
  obtain ⟨⟨utxoStr, o', rest⟩, hnext, rfl⟩ := Option.map_eq_some_iff.mp h
  rw [absorb, hnext]
  simp only []
  split
  · exact Or.inl rfl
  · next hspent =>
    exact Or.inr ⟨hspent, utxoStr, parseOutpoint_of_nextOutpoint hnext, rfl⟩
  · split
    · exact Or.inl rfl
    · exact Or.inl rfl

/-- **An answer of null counts against the input**, whatever made the node answer
so. -/
theorem exists_mem_spent_absorb {loop : Revalidation} {answer : HttpAnswer} {o : OutPoint}
    (h : loop.query = some o) (hspent : isOutputUnspentIncludingMempool answer = .ok false) :
    ∃ utxoStr ∈ (loop.absorb answer).spent, parseOutpoint utxoStr = some o := by
  obtain ⟨⟨utxoStr, o', rest⟩, hnext, rfl⟩ := Option.map_eq_some_iff.mp h
  refine ⟨utxoStr, ?_, parseOutpoint_of_nextOutpoint hnext⟩
  simp only [absorb, hnext, hspent]
  exact List.mem_append_right _ (List.mem_singleton_self _)

end Revalidation

/-! ### The node -/

section Sections

variable {E : Externals} {config : CoordinatorConfig} {s : Coordinator} {c : Choice}
  {t : Task} {e : Section}

/-- The monitor leaves the node alone. -/
theorem MonitorActs.node (h : MonitorActs s e) : e.shared.node = s.node := by
  cases h with
  | moves monitor events hes => rfl
  | arms => rfl
  | installs hidle material monitor => rfl

/-- **What a section does to the node**: nothing, or a transaction is taken or
dropped. -/
theorem Acts.node (h : Acts E config s c t e) :
    e.shared.node = s.node ∨
      ∃ txHex, e.shared.node = s.node.take txHex ∨ e.shared.node = s.node.drop txHex := by
  cases h with
  | monitor => exact Or.inl monitorSection_acts.node
  | @timer roundId phase =>
    cases phase with
    | signing =>
      simp only [timerSection]
      split <;> exact Or.inl rfl
    | _ => exact Or.inl rfl
  | send h =>
    rcases h with rfl | rfl
    · exact Or.inl rfl
    · exact Or.inr ⟨_, Or.inl rfl⟩
  | relay => exact Or.inr ⟨_, Or.inl rfl⟩
  | evict => exact Or.inr ⟨_, Or.inr rfl⟩
  | _ => exact Or.inl rfl

theorem exec_node (h : exec E config s t c = some e) :
    e.shared.node = s.node ∨
      ∃ txHex, e.shared.node = s.node.take txHex ∨ e.shared.node = s.node.drop txHex := by
  obtain ⟨_, e', he', rfl⟩ := exec_eq_some h
  rcases taskSection_cases he' with ⟨next, rfl⟩ | hacts
  · exact Or.inl rfl
  · exact hacts.node

/-- What the node took once it took for good. -/
theorem exec_seen (h : exec E config s t c = some e) {txHex : String}
    (hseen : txHex ∈ s.node.seen) :
    txHex ∈ e.shared.node.seen := by
  rcases exec_node h with heq | ⟨_, heq | heq⟩
  · rwa [heq]
  · rw [heq]
    exact List.mem_cons_of_mem _ hseen
  · rw [heq]
    exact hseen

/-- A transaction that spends an outpoint will always have spent it. -/
theorem Node.AllSpentByOther.exec {ownHex : String} {utxoStrs : List String}
    (h : exec E config s t c = some e) (hall : s.node.AllSpentByOther E ownHex utxoStrs) :
    e.shared.node.AllSpentByOther E ownHex utxoStrs := by
  intro utxoStr hmem
  obtain ⟨o, hparse, txHex, hseen, hne, hspends⟩ := hall utxoStr hmem
  exact ⟨o, hparse, txHex, exec_seen h hseen, hne, hspends⟩

/-- What the end of a broadcast knows is not disturbed. -/
theorem Task.BlamesOthers.exec {u : Task} (h : exec E config s t c = some e)
    (hu : u.BlamesOthers E s) : u.BlamesOthers E e.shared := by
  cases u with
  | finalize roundId prepared stage =>
    cases stage with
    | revalidating m loop => exact Node.AllSpentByOther.exec h hu
    | failed m banned => exact Node.AllSpentByOther.exec h hu
    | _ => exact trivial
  | _ => exact trivial

/-- **A lookup blames others only**, when the node does not hold the transaction
of the round: what the node holds and spends the outpoint is another one. -/
theorem allSpentByOther_absorb {prepared : PreparedBroadcast} {loop : Revalidation} {o : OutPoint}
    (hseen : ∀ txHex ∈ s.node.accepted, txHex ∈ s.node.seen) (hquery : loop.query = some o)
    (hnull : isOutputUnspentIncludingMempool c.answer = .ok false → s.node.spends E o = true)
    (hown : isOutputUnspentIncludingMempool c.answer = .ok false →
      prepared.txHex ∈ s.node.accepted → s.node.SpentByOther E prepared.txHex o)
    (hall : s.node.AllSpentByOther E prepared.txHex loop.spent) :
    s.node.AllSpentByOther E prepared.txHex (loop.absorb c.answer).spent := by
  rcases loop.spent_absorb hquery with heq | ⟨hspent, utxoStr, hparse, heq⟩
  · rwa [heq]
  · rw [heq]
    intro text hmem
    rcases List.mem_append.mp hmem with hmem | hmem
    · exact hall text hmem
    · obtain rfl := List.mem_singleton.mp hmem
      refine ⟨o, hparse, ?_⟩
      -- the node said "spent", so something it holds spends the outpoint
      obtain ⟨txHex, haccepted, ho⟩ := List.any_eq_true.mp (hnull hspent)
      by_cases howns : txHex = prepared.txHex
      · exact hown hspent (howns ▸ haccepted)
      · exact ⟨txHex, hseen txHex haccepted, howns, by simpa using ho⟩

/-- **The end of a broadcast goes on blaming others only.** -/
theorem finalizeSection_blamesOthers {roundId : Uuid} {prepared : PreparedBroadcast}
    {stage : FinalizeStage} (hseen : ∀ txHex ∈ s.node.accepted, txHex ∈ s.node.seen)
    (hnull : SpentWhenNull E s (.finalize roundId prepared stage) c)
    (hown : OwnNotHeld E s (.finalize roundId prepared stage) c)
    (hblames : (Task.finalize roundId prepared stage).BlamesOthers E s) :
    (finalizeSection E config s roundId prepared c stage).next.BlamesOthers E s := by
  -- a failed broadcast starts its lookups with nobody blamed
  have hstart : ∀ m, (Task.finalize roundId prepared
      (.revalidating m (.start prepared.inputOutpoints))).BlamesOthers E s :=
    fun _ _ hmem => absurd hmem List.not_mem_nil
  cases stage with
  | testing =>
    simp only [finalizeSection, proceed]
    split
    · exact trivial
    · exact hstart _
  | sending =>
    simp only [finalizeSection, proceed]
    split
    · exact trivial
    · exact hstart _
  | revalidating m loop =>
    simp only [finalizeSection, proceed]
    split
    · exact hblames
    · next o hquery =>
      exact allSpentByOther_absorb hseen hquery (hnull o hquery) (hown o false hquery) hblames
  | succeeded txid => exact trivial
  | failed m banned => exact trivial

/-- What the end of a broadcast does to the ban list. -/
theorem finalizeSection_banList (roundId : Uuid) (prepared : PreparedBroadcast)
    (stage : FinalizeStage) :
    (finalizeSection E config s roundId prepared c stage).shared.banList = s.banList ∨
    ∃ m banned, stage = .failed m banned ∧
      (finalizeSection E config s roundId prepared c stage).shared.banList =
        s.banList.banAll E banned c.now config.coordinator.blameBanDurationSecs := by
  cases stage with
  | testing => exact Or.inl rfl
  | sending => exact Or.inl rfl
  | revalidating m loop => exact Or.inl rfl
  | succeeded txid =>
    simp only [finalizeSection, finalizeSuccess]
    split
    · exact Or.inl rfl
    · exact Or.inl rfl
  | failed m banned =>
    simp only [finalizeSection, finalizeFailure]
    split
    · refine Or.inr ⟨m, banned, rfl, ?_⟩
      simp only [applyBroadcastFailureBlame]
      split
      · rfl
      · split <;> rfl
    · exact Or.inl rfl

end Sections

/-! ### Every reachable world -/

section Reachable

variable {E : Externals} {config : CoordinatorConfig} {fresh : Uuid} {banList : BanList}
  {w : World Coordinator Task Event}

/-- What the node holds it took at some time. -/
theorem seen_of_accepted {ok : Coordinator → Task → Choice → Prop}
    (hr : ReachableVia (coordinator E config) ok (startup fresh banList) w) :
    ∀ txHex ∈ w.shared.node.accepted, txHex ∈ w.shared.node.seen := by
  refine hr.shared (fun s _ => ∀ txHex ∈ s.node.accepted, txHex ∈ s.node.seen) (fun _ => True)
    (fun _ _ _ => trivial) (fun _ h => absurd h List.not_mem_nil)
    (fun {w t c e} _ _ _ he _ hinv txHex hmem => ?_) trivial
  rcases exec_node he with heq | ⟨txHex', heq | heq⟩
  · rw [heq] at hmem ⊢
    exact hinv txHex hmem
  · rw [heq] at hmem ⊢
    rcases List.mem_cons.mp hmem with rfl | hmem
    · exact List.mem_cons_self
    · exact List.mem_cons_of_mem _ (hinv txHex hmem)
  · rw [heq] at hmem ⊢
    exact hinv txHex (List.mem_of_mem_erase hmem)

/-- **Every end of a broadcast blames others only**, in a run in which a null is
about a spent output and the node never holds the transaction of the round when it
is asked. -/
theorem blamesOthers_of_reachable
    (hr : ReachableVia (coordinator E config)
      (fun s t c => SpentWhenNull E s t c ∧ OwnNotHeld E s t c) (startup fresh banList) w) :
    ∀ t ∈ w.threads, t.BlamesOthers E w.shared := by
  refine hr.threads (fun s t => t.BlamesOthers E s) (fun t ht => ?_) (fun {s t} ha => ?_)
    (fun _ _ he hu => hu.exec he) (fun {w t c e} hw ht hok hblames he => ⟨?_, fun u hu => ?_⟩)
  · obtain rfl := List.mem_singleton.mp ht
    exact trivial
  · cases t <;> first | exact trivial | exact absurd ha (by simp [coordinator, Task.arrives])
  · refine Task.BlamesOthers.exec he ?_
    cases hnext : e.next with
    | finalize roundId prepared stage =>
      -- the task was the end of this very broadcast before
      obtain ⟨stage', rfl⟩ := exec_finalize he hnext
      obtain ⟨_, e', he', rfl⟩ := exec_eq_some he
      obtain rfl := Option.some.inj he'
      have hkept : (finalizeSection E config w.shared roundId prepared c stage').next.BlamesOthers
          E w.shared :=
        finalizeSection_blamesOthers (seen_of_accepted hw) hok.1 hok.2 hblames
      rwa [show (finalizeSection E config w.shared roundId prepared c stage').next = _ from
        hnext] at hkept
    | _ => exact trivial
  · rcases exec_spawned he hu with ⟨roundId, phase, rfl⟩ | ⟨roundId, prepared, rfl⟩
    · exact trivial
    · exact trivial

/-- **A failed broadcast bans others' double spends only.** In a run in which the
node, whenever it answers a lookup after a failed broadcast, answers null only for
an output that a transaction it holds spends, and does not hold the transaction of
the round unless another transaction spends the input, the end of a broadcast bans
an input only if a transaction other than the one of the round spent it. -/
theorem banned_spent_by_other
    (hr : ReachableVia (coordinator E config)
      (fun s t c => SpentWhenNull E s t c ∧ OwnNotHeld E s t c) (startup fresh banList) w)
    {roundId : Uuid} {prepared : PreparedBroadcast} {stage : FinalizeStage}
    (ht : .finalize roundId prepared stage ∈ w.threads) {c : Choice} {e : Section}
    (he : exec E config w.shared (.finalize roundId prepared stage) c = some e) :
    ∃ banned, e.shared.banList =
        w.shared.banList.banAll E banned c.now config.coordinator.blameBanDurationSecs ∧
      ∀ utxoStr ∈ banned, ∃ o, parseOutpoint utxoStr = some o ∧
        w.shared.node.SpentByOther E prepared.txHex o := by
  obtain ⟨_, e', he', rfl⟩ := exec_eq_some he
  obtain rfl := Option.some.inj he'
  rcases finalizeSection_banList roundId prepared stage with heq | ⟨m, banned, rfl, heq⟩
  · exact ⟨[], heq, fun _ hmem => absurd hmem List.not_mem_nil⟩
  · exact ⟨banned, heq, blamesOthers_of_reachable hr _ ht⟩

end Reachable

/-! ### Two broadcasts that failed -/

/-- Each null is about an output that a transaction the node holds spends. -/
def nullsAreSpends (s : Coordinator) (t : Task) (c : Choice) : Bool :=
  match t with
  | .finalize _ _ (.revalidating _ loop) =>
    match loop.query, isOutputUnspentIncludingMempool c.answer with
    | some o, .ok false => s.node.spends session.externals o
    | _, _ => true
  | _ => true

/-- Moreover the node does not hold the transaction of the round when it answers a
lookup. -/
def ownAbsent (s : Coordinator) (t : Task) (c : Choice) : Bool :=
  nullsAreSpends s t c && match t with
  | .finalize _ prepared (.revalidating _ _) => prepared.txHex ∉ s.node.accepted
  | _ => true

theorem spentWhenNull_of_nullsAreSpends {s : Coordinator} {t : Task} {c : Choice}
    (h : nullsAreSpends s t c = true) : SpentWhenNull session.externals s t c := by
  cases t with
  | finalize roundId prepared stage =>
    cases stage with
    | revalidating m loop =>
      intro o hquery hnull
      simpa only [nullsAreSpends, hquery, hnull] using h
    | _ => exact trivial
  | _ => exact trivial

theorem ownNotHeld_of_ownAbsent {E : Externals} {s : Coordinator} {t : Task} {c : Choice}
    (h : ownAbsent s t c = true) : OwnNotHeld E s t c := by
  obtain ⟨-, habsent⟩ := (Bool.and_eq_true_iff ..).mp h
  cases t with
  | finalize roundId prepared stage =>
    cases stage with
    | revalidating m loop => exact fun _ _ _ _ hheld => absurd hheld (by simpa using habsent)
    | _ => exact trivial
  | _ => exact trivial

/-- The end of a failed broadcast is always possible. -/
theorem exists_exec_failed (E : Externals) (config : CoordinatorConfig) (s : Coordinator)
    (roundId : Uuid) (prepared : PreparedBroadcast) (m : String) (banned : List String)
    (c : Choice) :
    ∃ e, exec E config s (.finalize roundId prepared (.failed m banned)) c = some e := by
  have hiter : c.Iterates s.round (.finalize roundId prepared (.failed m banned)) :=
    fun _ _ => trivial
  rw [exec, if_pos hiter]
  exact ⟨_, rfl⟩

/-- The first participant spends its coin before the broadcast. -/
def doubleSpentMoves : List Move :=
  broadcastMoves ++ [.arrive (.relay (transactionHex otherTx)), .run 8 {},
    .run 7 { answer := rejectedAnswer "txn-mempool-conflict" }, .run 7 { answer := spentAnswer },
    .run 7 { answer := unspentAnswer "0.01030000" secondScript }, .run 7 {}]

/-- The end of the broadcast, when the first participant spent its coin. -/
def doubleSpentStage : FinalizeStage :=
  .failed "TX rejected by mempool: txn-mempool-conflict" [firstCoin.toText]

theorem doubleSpent_failed : (worldAfter doubleSpentMoves ownAbsent).threads[7]? =
    some (.finalize firstRound sessionBroadcast doubleSpentStage) := by
  decide +kernel

theorem banned_spent_by_other_session :
    ∃ e banned, exec session.externals configOfTwo (worldAfter doubleSpentMoves ownAbsent).shared
        (.finalize firstRound sessionBroadcast doubleSpentStage) { now := 1760000300 } = some e ∧
      e.shared.banList = (worldAfter doubleSpentMoves ownAbsent).shared.banList.banAll
        session.externals banned 1760000300 configOfTwo.coordinator.blameBanDurationSecs ∧
      ∀ utxoStr ∈ banned, ∃ o, parseOutpoint utxoStr = some o ∧
        (worldAfter doubleSpentMoves ownAbsent).shared.node.SpentByOther session.externals
          sessionBroadcast.txHex o := by
  have hr := (worldAfter_reachableVia doubleSpentMoves ownAbsent).mono
    fun _ _ _ hok => And.intro
      (spentWhenNull_of_nullsAreSpends ((Bool.and_eq_true_iff ..).mp hok).1)
      (ownNotHeld_of_ownAbsent (E := session.externals) hok)
  obtain ⟨e, he⟩ := exists_exec_failed session.externals configOfTwo
    (worldAfter doubleSpentMoves ownAbsent).shared firstRound sessionBroadcast
    "TX rejected by mempool: txn-mempool-conflict" [firstCoin.toText] { now := 1760000300 }
  obtain ⟨banned, hban, hspent⟩ :=
    banned_spent_by_other hr (List.mem_of_getElem? doubleSpent_failed) he
  exact ⟨e, banned, he, hban, hspent⟩

/-- The node takes the transaction of the round, and its answer is lost. -/
def lostAnswerMoves : List Move :=
  broadcastMoves ++ [.run 7 { answer := allowedAnswer },
    .run 7 { applied := true, answer := .timedOut }, .run 7 { answer := spentAnswer },
    .run 7 { answer := spentAnswer }, .run 7 {}]

/-- The end of the broadcast, when the answer of the node was lost. -/
def lostAnswerStage : FinalizeStage :=
  .failed ("Broadcast failed: Bitcoin Core unreachable: Bitcoin Core RPC timed out after 10s " ++
    "(sendrawtransaction)") [firstCoin.toText, secondCoin.toText]

/-- The world in which the answer of the node was lost; each null of the lookups is
about a spent output. -/
def lostAnswerWorld : World Coordinator Task Event := worldAfter lostAnswerMoves nullsAreSpends

/-- **Both participants are banned for the transaction they signed**: the node took
the transaction of the round and no other one, and its answer was lost. The lookups
were answered as the node stands. -/
theorem own_spend_banned :
    ReachableVia (coordinator session.externals configOfTwo) (SpentWhenNull session.externals)
      (startup firstRound .new) lostAnswerWorld ∧
    .finalize firstRound sessionBroadcast lostAnswerStage ∈ lostAnswerWorld.threads ∧
    (exec session.externals configOfTwo lostAnswerWorld.shared
      (.finalize firstRound sessionBroadcast lostAnswerStage) { now := 1760000300 }).map
        (fun e => (e.shared.banList.isBanned session.externals firstCoin.toText 1760000301,
          e.shared.banList.isBanned session.externals secondCoin.toText 1760000301)) =
      some (true, true) ∧
    (∀ utxoStr, lostAnswerWorld.shared.banList.isBanned session.externals utxoStr
      1760000301 = false) ∧
    ∀ o, ¬lostAnswerWorld.shared.node.SpentByOther session.externals
      sessionBroadcast.txHex o := by
  have hrun : lostAnswerWorld.threads[7]? =
        some (.finalize firstRound sessionBroadcast lostAnswerStage) ∧
      (exec session.externals configOfTwo lostAnswerWorld.shared
        (.finalize firstRound sessionBroadcast lostAnswerStage) { now := 1760000300 }).map
          (fun e => (e.shared.banList.isBanned session.externals firstCoin.toText 1760000301,
            e.shared.banList.isBanned session.externals secondCoin.toText 1760000301)) =
        some (true, true) ∧
      lostAnswerWorld.shared.banList.entries.entries = [] ∧
      lostAnswerWorld.shared.node.seen = [sessionBroadcast.txHex] := by
    decide +kernel
  obtain ⟨htask, hbans, hnew, hseen⟩ := hrun
  have hr := (worldAfter_reachableVia lostAnswerMoves nullsAreSpends).mono
    fun _ _ _ => spentWhenNull_of_nullsAreSpends
  refine ⟨hr, List.mem_of_getElem? htask, hbans, fun utxoStr => ?_, fun o => ?_⟩
  · exact BanList.isBanned_of_entries_eq_nil hnew
  · rintro ⟨text, hmem, hne, -⟩
    rw [hseen] at hmem
    exact hne (List.mem_singleton.mp hmem)

end Blindjoin
