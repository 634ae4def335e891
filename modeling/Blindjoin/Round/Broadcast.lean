import Blindjoin.Coordinator.Config
import Blindjoin.Round.Blame
import Blindjoin.Shared.Errors

/-!
# Broadcasting

The broadcast runs without the lock: the node is asked whether it would accept
the transaction, then to take it. If either call fails, each registered input is
looked up again, and the ones the node no longer has are banned when the lock
has been taken again.

The loop over the inputs is cut at its calls of the node. A
`Blindjoin.Revalidation` is where the loop stands between two calls;
`Blindjoin.Revalidation.query` is the next call it makes, and
`Blindjoin.Revalidation.absorb` what it does with the answer.
-/

namespace Blindjoin

/-! ### The broadcast calls -/

/-- What the answer to `testmempoolaccept` says: whether to go on, and the
message of the failure if not. -/
def mempoolVerdict (answer : HttpAnswer) : Except String Unit :=
  match testmempoolaccept answer with
  | .error e => .error s!"testmempoolaccept failed: {e.toText}"
  | .ok acceptResult =>
    let entry := acceptResult.asArray.bind List.head?
    if ((entry.bind (Value.get "allowed")).bind Value.asBool).getD false then .ok ()
    else
      let rejectReason := ((entry.bind (Value.get "reject-reason")).bind Value.asStr).getD "unknown"
      .error s!"TX rejected by mempool: {rejectReason}"

/-- What the answer to `sendrawtransaction` says: the id of the transaction, or
the message of the failure. -/
def sendVerdict (parseError : String → String) (answer : HttpAnswer) : Except String String :=
  match sendrawtransaction parseError answer with
  | .ok txid => .ok (String.ofList txid.toChars)
  | .error e => .error s!"Broadcast failed: {e.toText}"

/-! ### Looking up the inputs again -/

/-- The number of consecutive failed calls that ends the loop. -/
def maxConsecutiveRpcErrors : ℕ := 2

/-- Where the loop over the registered outpoints stands: the outpoints to go,
the ones found spent, and the failed calls since the last answer. -/
structure Revalidation where
  remaining : List String
  spent : List String
  consecutiveErrors : ℕ
deriving DecidableEq

namespace Revalidation

/-- The loop before its first call. -/
def start (outpoints : List String) : Revalidation := ⟨outpoints, [], 0⟩

/-- The next text that is an outpoint, and the texts after it. A text that is
none is skipped without a call. -/
def nextOutpoint : List String → Option (String × OutPoint × List String)
  | [] => none
  | utxoStr :: rest => match parseOutpoint utxoStr with
    | some outpoint => some (utxoStr, outpoint, rest)
    | none => nextOutpoint rest

/-- The call the loop makes next; none when the loop has ended. -/
def query (r : Revalidation) : Option OutPoint :=
  (nextOutpoint r.remaining).map fun (_, outpoint, _) => outpoint

/-- What the loop does with the answer to its call. Uncertainty is no ground for
a ban. -/
def absorb (r : Revalidation) (answer : HttpAnswer) : Revalidation :=
  match nextOutpoint r.remaining with
  | none => r
  | some (utxoStr, _, rest) => match isOutputUnspentIncludingMempool answer with
    | .ok true => ⟨rest, r.spent, 0⟩
    | .ok false => ⟨rest, r.spent ++ [utxoStr], 0⟩
    | .error _ =>
      if maxConsecutiveRpcErrors ≤ r.consecutiveErrors + 1 then
        ⟨[], r.spent, r.consecutiveErrors + 1⟩
      else ⟨rest, r.spent, r.consecutiveErrors + 1⟩

end Revalidation

/-- `revalidate_spent_inputs` under a sequence of answers. -/
def revalidateSpentInputs (answers : List HttpAnswer) (outpoints : List String) : List String :=
  (answers.foldl Revalidation.absorb (Revalidation.start outpoints)).spent

/-! ### Ending the round -/

/-- What the tasks of the coordinator share: the round, the ban list, the count
of consecutive unproductive rounds, and the time before which no round starts. -/
structure AppState where
  round : RoundState
  banList : BanList
  blameRoundCount : ℕ
  roundPausedUntil : ℕ
deriving DecidableEq

/-- Apply a failed broadcast: ban the inputs found spent, count the failure if
there are none, and end the round. -/
def applyBroadcastFailureBlame (E : Externals) (config : CoordinatorConfig) (app : AppState)
    (bannedUtxos : List String) (now : ℕ) (fresh : Uuid) : AppState :=
  let banList := app.banList.banAll E bannedUtxos now config.coordinator.blameBanDurationSecs
  let round := (app.round.tryTransitionTo .blame fresh).tryTransitionTo .idle fresh
  if 0 < bannedUtxos.length then
    { app with round := round, banList := banList, blameRoundCount := 0 }
  else
    let n := app.blameRoundCount + 1
    let backoff := config.coordinator.blameFullAbortBackoffSecs
    if consecutiveBlameCap ≤ n ∧ 0 < backoff then
      { round := round, banList := banList, blameRoundCount := 0,
        roundPausedUntil := now + backoff }
    else { app with round := round, banList := banList, blameRoundCount := n }

/-- The last step of `finalize_broadcast` after a successful broadcast: end the
round, if it is still the one that was broadcast. -/
def finalizeSuccess (app : AppState) (roundId fresh : Uuid) : AppState :=
  if app.round.roundId = roundId ∧ app.round.phase = .broadcast then
    { app with blameRoundCount := 0, round := app.round.tryTransitionTo .idle fresh }
  else app

/-- The last step of `finalize_broadcast` after a failed one: attribute blame and
end the round, if it is still the one that was broadcast. -/
def finalizeFailure (E : Externals) (config : CoordinatorConfig) (app : AppState)
    (bannedUtxos : List String) (roundId : Uuid) (now : ℕ) (fresh : Uuid) : AppState :=
  if app.round.roundId = roundId ∧ app.round.phase = .broadcast then
    applyBroadcastFailureBlame E config app bannedUtxos now fresh
  else app

/-- The watchdog of a broadcast: end a round whose broadcast never came back. -/
def broadcastWatchdogForceIdle (s : RoundState) (roundId fresh : Uuid) : RoundState :=
  if s.roundId = roundId ∧ s.phase = .broadcast then s.tryTransitionTo .idle fresh else s

variable {E : Externals} {config : CoordinatorConfig} {app : AppState} {banned : List String}
  {roundId fresh : Uuid} {now : ℕ}

/-- **A failed broadcast ends the round.** -/
theorem round_applyBroadcastFailureBlame (h : app.round.phase = .broadcast) :
    (applyBroadcastFailureBlame E config app banned now fresh).round = .newIdle fresh := by
  have hidle : (app.round.tryTransitionTo .blame fresh).tryTransitionTo .idle fresh =
      .newIdle fresh := RoundState.tryTransitionTo_blame_idle (by rw [h]; rfl)
  rw [applyBroadcastFailureBlame]
  split
  · exact hidle
  · simp only []
    split
    · exact hidle
    · exact hidle

theorem round_finalizeSuccess (h : app.round.roundId = roundId ∧ app.round.phase = .broadcast) :
    (finalizeSuccess app roundId fresh).round = .newIdle fresh := by
  rw [finalizeSuccess, if_pos h]
  exact RoundState.tryTransitionTo_idle (by rw [h.2]; rfl)

theorem round_finalizeFailure (h : app.round.roundId = roundId ∧ app.round.phase = .broadcast) :
    (finalizeFailure E config app banned roundId now fresh).round = .newIdle fresh := by
  rw [finalizeFailure, if_pos h]
  exact round_applyBroadcastFailureBlame h.2

/-- **The end of a broadcast is harmless when it comes too late.** -/
theorem finalizeSuccess_stale (h : ¬(app.round.roundId = roundId ∧ app.round.phase = .broadcast)) :
    finalizeSuccess app roundId fresh = app := by
  rw [finalizeSuccess, if_neg h]

theorem finalizeFailure_stale (h : ¬(app.round.roundId = roundId ∧ app.round.phase = .broadcast)) :
    finalizeFailure E config app banned roundId now fresh = app := by
  rw [finalizeFailure, if_neg h]

end Blindjoin
