import Blindjoin.Lib.AdjacentPair
import Blindjoin.Round.Broadcast

/-!
# What a re-validation asks and finds

After a failed broadcast the coordinator goes down the list of registered outpoints
and asks the node for each; two errors in immediate succession end the loop. The
calls it makes, with their answers (`Blindjoin.Revalidation.calls`), are the list
paired with the answers, cut at the first such pair, and what it returns are the
outpoints of the calls answered "spent" (`Blindjoin.revalidation_bounded`), which are
those with a result that is null (`Blindjoin.Lookup.foundSpent_iff`). Bans are issued
from this list, so the answer of one call must never count against the outpoint of
another.
-/

namespace Blindjoin

/-! ### Calls and answers -/

/-- A call of the node, with its answer. -/
abbrev Lookup := OutPoint × HttpAnswer

/-- The call failed. -/
def Lookup.failed (call : Lookup) : Bool :=
  match isOutputUnspentIncludingMempool call.2 with
  | .ok _ => false
  | .error _ => true

/-- The node found the outpoint spent. -/
def Lookup.foundSpent (call : Lookup) : Bool :=
  match isOutputUnspentIncludingMempool call.2 with
  | .ok unspent => !unspent
  | .error _ => false

/-- **The node finds an outpoint spent** exactly when its response has no error, and a
result that is null. -/
theorem Lookup.foundSpent_iff {call : Lookup} :
    call.foundSpent = true ↔ call.2 = .response .null none := by
  rw [← isOutputUnspentIncludingMempool_eq_false, foundSpent]
  cases isOutputUnspentIncludingMempool call.2 with
  | ok unspent => simp
  | error e => simp

/-- **A call fails** exactly when no response comes back, or one with an error. -/
theorem Lookup.failed_iff {call : Lookup} :
    call.failed = true ↔ ∀ result, call.2 ≠ .response result none := by
  rw [← exists_isOutputUnspentIncludingMempool_eq_error, failed]
  cases isOutputUnspentIncludingMempool call.2 with
  | ok unspent => simp
  | error e => simp

/-- A call that failed found nothing. -/
theorem Lookup.foundSpent_of_failed {call : Lookup} (h : call.failed = true) :
    call.foundSpent = false := by
  rw [failed] at h
  rw [foundSpent]
  split at h
  · exact absurd h (by simp)
  · rfl

namespace Revalidation

/-- The calls the loop makes under a sequence of answers, each with its answer. -/
def calls : Revalidation → List HttpAnswer → List Lookup
  | _, [] => []
  | r, answer :: answers => match r.query with
    | none => []
    | some outpoint => (outpoint, answer) :: (r.absorb answer).calls answers

variable {o : OutPoint} {os : List OutPoint} {spent : List String} {n : ℕ} {answer : HttpAnswer}

/-- The texts of outpoints are read one by one. -/
theorem nextOutpoint_toText :
    nextOutpoint ((o :: os).map OutPoint.toText) = some (o.toText, o, os.map OutPoint.toText) := by
  rw [List.map_cons, nextOutpoint, parseOutpoint_toText]

theorem query_toText :
    (⟨(o :: os).map OutPoint.toText, spent, n⟩ : Revalidation).query = some o := by
  rw [query, nextOutpoint_toText, Option.map_some]

/-- **One answer**: the outpoint is recorded if the node found it spent, and the loop
goes on with the next, unless this is the second failure in a row. -/
theorem absorb_toText (hn : n < maxConsecutiveRpcErrors) :
    absorb ⟨(o :: os).map OutPoint.toText, spent, n⟩ answer =
      if Lookup.failed (o, answer) then
        if n = 1 then ⟨[], spent, 2⟩ else ⟨os.map OutPoint.toText, spent, 1⟩
      else ⟨os.map OutPoint.toText,
        spent ++ if Lookup.foundSpent (o, answer) then [o.toText] else [], 0⟩ := by
  rw [absorb, nextOutpoint_toText, Lookup.failed, Lookup.foundSpent]
  simp only []
  cases isOutputUnspentIncludingMempool answer with
  | ok unspent =>
    cases unspent with
    | true => simp
    | false => simp
  | error e =>
    rw [maxConsecutiveRpcErrors] at hn ⊢
    have hcount : n = 0 ∨ n = 1 := by omega
    rcases hcount with rfl | rfl
    · simp
    · simp

/-- A loop that has ended asks nothing and finds nothing more. -/
theorem query_ended : (⟨[], spent, n⟩ : Revalidation).query = none := rfl

theorem absorb_ended : absorb ⟨[], spent, n⟩ answer = ⟨[], spent, n⟩ := rfl

theorem foldl_absorb_ended (answers : List HttpAnswer) :
    answers.foldl absorb ⟨[], spent, n⟩ = ⟨[], spent, n⟩ := by
  induction answers with
  | nil => rfl
  | cons answer answers ih => rw [List.foldl_cons, absorb_ended, ih]

theorem calls_ended (answers : List HttpAnswer) :
    calls ⟨[], spent, n⟩ answers = [] := by
  cases answers with
  | nil => rfl
  | cons answer answers => rfl

/-- **The calls of a run**, from any point the loop can stand at: the remaining
outpoints with their answers, cut at two failures in a row. -/
theorem calls_toText (answers : List HttpAnswer) (hn : n < maxConsecutiveRpcErrors) :
    calls ⟨os.map OutPoint.toText, spent, n⟩ answers =
      AdjacentPair.cut Lookup.failed (n = 1) (os.zip answers) := by
  induction answers generalizing os spent n with
  | nil => rw [List.zip_nil_right, AdjacentPair.cut, calls]
  | cons answer answers ih =>
    cases os with
    | nil => rfl
    | cons o os =>
      rw [calls, query_toText, absorb_toText hn, List.zip_cons_cons, AdjacentPair.cut]
      simp only []
      by_cases hfailed : Lookup.failed (o, answer) = true
      · by_cases hsecond : n = 1
        · -- the second failure in a row
          rw [if_pos hfailed, if_pos hsecond, calls_ended, if_pos (by simp [hsecond, hfailed])]
        · rw [if_pos hfailed, if_neg hsecond, ih (by decide), if_neg (by simp [hsecond]), hfailed]
          rfl
      · rw [if_neg hfailed, ih (by decide), if_neg (by simp [hfailed]),
          Bool.eq_false_iff.mpr hfailed]
        rfl

/-- **What a run finds** is what its calls found, in their order. -/
theorem spent_foldl_absorb (answers : List HttpAnswer) (hn : n < maxConsecutiveRpcErrors) :
    (answers.foldl absorb ⟨os.map OutPoint.toText, spent, n⟩).spent =
      spent ++ ((calls ⟨os.map OutPoint.toText, spent, n⟩ answers).filter
        Lookup.foundSpent).map (OutPoint.toText ∘ Prod.fst) := by
  induction answers generalizing os spent n with
  | nil => simp [calls]
  | cons answer answers ih =>
    cases os with
    | nil =>
      rw [List.map_nil, foldl_absorb_ended, calls_ended]
      simp
    | cons o os =>
      rw [List.foldl_cons, calls, query_toText, absorb_toText hn]
      simp only []
      by_cases hfailed : Lookup.failed (o, answer) = true
      · rw [List.filter_cons_of_neg (by simp [Lookup.foundSpent_of_failed hfailed])]
        by_cases hsecond : n = 1
        · rw [if_pos hfailed, if_pos hsecond, foldl_absorb_ended, calls_ended]
          simp
        · rw [if_pos hfailed, if_neg hsecond, ih (by decide)]
      · rw [if_neg hfailed, ih (by decide)]
        by_cases hspent : Lookup.foundSpent (o, answer) = true
        · rw [if_pos hspent, List.filter_cons_of_pos hspent]
          simp
        · rw [if_neg hspent, List.filter_cons_of_neg hspent, List.append_nil]

/-- **A run ends**, with an answer for each outpoint. -/
theorem query_foldl_absorb {answers : List HttpAnswer} (hn : n < maxConsecutiveRpcErrors)
    (hlen : os.length ≤ answers.length) :
    (answers.foldl absorb ⟨os.map OutPoint.toText, spent, n⟩).query = none := by
  induction answers generalizing os spent n with
  | nil =>
    obtain rfl := List.length_eq_zero_iff.mp (Nat.le_zero.mp hlen)
    rfl
  | cons answer answers ih =>
    cases os with
    | nil => rw [List.map_nil, foldl_absorb_ended, query_ended]
    | cons o os =>
      have hrest : os.length ≤ answers.length := Nat.le_of_succ_le_succ hlen
      rw [List.foldl_cons, absorb_toText hn]
      by_cases hfailed : Lookup.failed (o, answer) = true
      · by_cases hsecond : n = 1
        · rw [if_pos hfailed, if_pos hsecond, foldl_absorb_ended, query_ended]
        · rw [if_pos hfailed, if_neg hsecond]
          exact ih (by decide) hrest
      · rw [if_neg hfailed]
        exact ih (by decide) hrest

end Revalidation

/-! ### The re-validation -/

/-- The calls of a re-validation. -/
def revalidationCalls (answers : List HttpAnswer) (outpoints : List String) : List Lookup :=
  (Revalidation.start outpoints).calls answers

/-- What a re-validation of a list of outpoints may do: the calls it makes, and what it
returns. -/
structure BoundedRevalidation (os : List OutPoint) (answers : List HttpAnswer)
    (calls : List Lookup) (spent : List String) : Prop where
  /-- The calls go down the list, one for each outpoint, and each gets the next answer. -/
  inOrder : calls <+: os.zip answers
  /-- No call follows two consecutive errors. -/
  stops : ∀ pre a b post, calls = pre ++ a :: b :: post → a.failed = true → b.failed = true →
    post = []
  /-- Nothing but two consecutive errors ends the calls early. -/
  goesOn : calls = os.zip answers ∨
    ∃ pre a b, calls = pre ++ [a, b] ∧ a.failed = true ∧ b.failed = true
  /-- What is returned are the outpoints of the calls answered "spent", in their order. -/
  returns : spent = (calls.filter Lookup.foundSpent).map (OutPoint.toText ∘ Prod.fst)

variable {os : List OutPoint} {answers : List HttpAnswer} {calls : List Lookup}
  {spent : List String}

/-- Pairing entries with answers keeps their order, and pairs each at most once. -/
theorem isPrefix_map_fst_zip {α β : Type} (l : List α) (m : List β) :
    (l.zip m).map Prod.fst <+: l := by
  induction l generalizing m with
  | nil => exact List.prefix_rfl
  | cons a l ih =>
    cases m with
    | nil => exact List.nil_prefix
    | cons b m =>
      rw [List.zip_cons_cons, List.map_cons, List.cons_prefix_cons]
      exact ⟨rfl, ih m⟩

namespace BoundedRevalidation

/-- The calls are at most one for each entry of the list. -/
theorem asked (h : BoundedRevalidation os answers calls spent) : calls.map Prod.fst <+: os :=
  (h.inOrder.map Prod.fst).trans (isPrefix_map_fst_zip os answers)

/-- What is returned is in the order of the list. -/
theorem sublist (h : BoundedRevalidation os answers calls spent) :
    spent.Sublist (os.map OutPoint.toText) := by
  rw [h.returns, ← List.map_map]
  exact ((List.filter_sublist.map Prod.fst).trans h.asked.sublist).map OutPoint.toText

theorem nodup (h : BoundedRevalidation os answers calls spent) (hos : os.Nodup) : spent.Nodup :=
  h.sublist.nodup (hos.map OutPoint.toText_injective)

/-- Whatever is returned was asked for, and the answer was "spent". -/
theorem exists_call (h : BoundedRevalidation os answers calls spent) {text : String}
    (hmem : text ∈ spent) :
    ∃ call ∈ calls, text = call.1.toText ∧ call.foundSpent = true := by
  rw [h.returns] at hmem
  obtain ⟨call, hcall, rfl⟩ := List.mem_map.mp hmem
  obtain ⟨hmade, hspent⟩ := List.mem_filter.mp hcall
  exact ⟨call, hmade, rfl, hspent⟩

/-- Where the list has no outpoint twice, an outpoint whose call failed is not
returned. -/
theorem notMem_of_failed (h : BoundedRevalidation os answers calls spent) (hos : os.Nodup)
    {call : Lookup} (hcall : call ∈ calls) (hfailed : call.failed = true) :
    call.1.toText ∉ spent := by
  intro hmem
  obtain ⟨other, hother, htext, hspent⟩ := h.exists_call hmem
  have heq : call = other :=
    List.inj_on_of_nodup_map (h.asked.sublist.nodup hos) hcall hother
      (OutPoint.toText_injective htext)
  rw [← heq, Lookup.foundSpent_of_failed hfailed] at hspent
  exact absurd hspent (by simp)

end BoundedRevalidation

theorem boundedRevalidation (os : List OutPoint) (answers : List HttpAnswer) :
    BoundedRevalidation os answers (revalidationCalls answers (os.map OutPoint.toText))
      (revalidateSpentInputs answers (os.map OutPoint.toText)) := by
  have hcalls : revalidationCalls answers (os.map OutPoint.toText) =
      AdjacentPair.cut Lookup.failed false (os.zip answers) :=
    Revalidation.calls_toText answers (by decide)
  constructor
  · rw [hcalls]
    exact AdjacentPair.cut_prefix false _
  · intro pre a b post h ha hb
    rw [hcalls] at h
    exact AdjacentPair.eq_nil_of_cut h ha hb
  · rw [hcalls]
    rcases AdjacentPair.cut_eq_or (p := Lookup.failed) false (os.zip answers) with
      heq | ⟨b, hbefore, -⟩ | hpair
    · exact Or.inl heq
    · exact absurd hbefore (by simp)
    · exact Or.inr hpair
  · have hspent := @Revalidation.spent_foldl_absorb os [] 0 answers (by decide)
    rwa [List.nil_append] at hspent

/-- **A re-validation is bounded, and finds what the node says**: it asks for the
outpoints in the order of the list, each at most once, until two errors in a row; it
returns exactly those found spent, in order, and without repetition when the list has
none; an outpoint whose call failed or was never made is not among them; and it ends. -/
theorem revalidation_bounded (os : List OutPoint) (answers : List HttpAnswer) :
    let outpoints := os.map OutPoint.toText
    let calls := revalidationCalls answers outpoints
    let spent := revalidateSpentInputs answers outpoints
    BoundedRevalidation os answers calls spent ∧
    calls.map Prod.fst <+: os ∧
    (spent.Sublist outpoints ∧ (outpoints.Nodup → spent.Nodup)) ∧
    (∀ text ∈ spent, ∃ call ∈ calls, text = call.1.toText ∧ call.foundSpent = true) ∧
    (outpoints.Nodup → ∀ call ∈ calls, call.failed = true → call.1.toText ∉ spent) ∧
    (os.length ≤ answers.length →
      (answers.foldl Revalidation.absorb (.start outpoints)).query = none) := by
  have h := boundedRevalidation os answers
  refine ⟨h, h.asked, ⟨h.sublist, fun hnodup => h.nodup hnodup.of_map⟩,
    fun text hmem => h.exists_call hmem, fun hnodup call hcall hfailed => ?_, fun hlen => ?_⟩
  · exact h.notMem_of_failed hnodup.of_map hcall hfailed
  · exact Revalidation.query_foldl_absorb (by decide) hlen

end Blindjoin
