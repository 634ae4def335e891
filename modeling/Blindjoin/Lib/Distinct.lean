import Mathlib.Data.Finset.Card

/-!
# Counting without repetition

How many different entries of a list satisfy a condition, against how many entries
the list has. The difference is `Distinct.idle`: the entries that fail the
condition or come again later.
-/

namespace Distinct

variable {α : Type} [DecidableEq α] {p : α → Prop} [DecidablePred p] {l : List α}

/-- The number of entries that add nothing to the set of entries satisfying `p`:
they do not satisfy it, or a later entry repeats them. -/
def idle (p : α → Prop) [DecidablePred p] : List α → ℕ
  | [] => 0
  | a :: l => (if ¬p a ∨ a ∈ l then 1 else 0) + idle p l

/-- **Every entry either is idle or is counted once.** -/
theorem card_add_idle (l : List α) : (l.filter p).toFinset.card + idle p l = l.length := by
  induction l with
  | nil => rfl
  | cons a l ih =>
    rw [idle, List.length_cons]
    by_cases hidle : ¬p a ∨ a ∈ l
    · -- the set of entries does not grow
      have hset : ((a :: l).filter p).toFinset = (l.filter p).toFinset := by
        ext b
        simp only [List.mem_toFinset, List.mem_filter, List.mem_cons, decide_eq_true_eq]
        constructor
        · rintro ⟨rfl | hb, hpb⟩
          · exact ⟨hidle.resolve_left (not_not_intro hpb), hpb⟩
          · exact ⟨hb, hpb⟩
        · rintro ⟨hb, hpb⟩
          exact ⟨Or.inr hb, hpb⟩
      rw [hset, if_pos hidle]
      omega
    · obtain ⟨hpa, hnew⟩ := not_or.mp hidle
      have hnotin : a ∉ (l.filter p).toFinset := by
        rw [List.mem_toFinset, List.mem_filter]
        exact fun h => hnew h.1
      have hkept : (a :: l).filter p = a :: l.filter p :=
        List.filter_cons_of_pos (decide_eq_true (not_not.mp hpa))
      rw [hkept, List.toFinset_cons, Finset.card_insert_of_notMem hnotin, if_neg hidle]
      omega

/-- **A set of `k` different entries** that satisfy `p`, one of them given, exists
when enough entries are not idle. -/
theorem exists_finset_iff {k : ℕ} {a : α} (ha : a ∈ l) (hpa : p a) :
    (∃ T : Finset α, k ≤ T.card ∧ a ∈ T ∧ ∀ b ∈ T, b ∈ l ∧ p b) ↔ k + idle p l ≤ l.length := by
  have hcount := card_add_idle (p := p) l
  have hmem : ∀ b, b ∈ (l.filter p).toFinset ↔ b ∈ l ∧ p b := fun b => by
    rw [List.mem_toFinset, List.mem_filter, decide_eq_true_eq]
  constructor
  · rintro ⟨T, hk, -, hT⟩
    have hle : T.card ≤ (l.filter p).toFinset.card :=
      Finset.card_le_card fun b hb => (hmem b).mpr (hT b hb)
    omega
  · intro hle
    exact ⟨(l.filter p).toFinset, by omega, (hmem a).mpr ⟨ha, hpa⟩, fun b hb => (hmem b).mp hb⟩

/-- No entry is idle when the entries differ and all satisfy `p`. -/
theorem idle_eq_zero (hnodup : l.Nodup) (hp : ∀ a ∈ l, p a) : idle p l = 0 := by
  induction l with
  | nil => rfl
  | cons a l ih =>
    obtain ⟨hnew, hrest⟩ := List.nodup_cons.mp hnodup
    have hkeep : ¬(¬p a ∨ a ∈ l) :=
      not_or.mpr ⟨not_not_intro (hp a List.mem_cons_self), hnew⟩
    rw [idle, if_neg hkeep, ih hrest fun b hb => hp b (List.mem_cons_of_mem a hb)]

end Distinct
