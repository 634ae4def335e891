import Mathlib.Data.List.Infix

/-!
# Stopping at two in a row

A loop that gives up when two entries in immediate succession satisfy a condition
goes through the list up to and including the first such pair: `AdjacentPair.cut`.
The loop remembers one bit, whether the entry before satisfied the condition.
-/

namespace AdjacentPair

variable {α : Type} (p : α → Bool)

/-- The entries up to and including the first two in a row that satisfy `p`; `before`
says whether the entry before the list did. -/
def cut : Bool → List α → List α
  | _, [] => []
  | before, a :: l => if before && p a then [a] else a :: cut (p a) l

variable {p} {before : Bool} {l : List α}

/-- **The cut is a prefix.** -/
theorem cut_prefix (before : Bool) (l : List α) : cut p before l <+: l := by
  induction l generalizing before with
  | nil => exact List.prefix_rfl
  | cons a l ih =>
    rw [cut]
    by_cases hstop : (before && p a) = true
    · rw [if_pos hstop]
      exact ⟨l, rfl⟩
    · rw [if_neg hstop, List.cons_prefix_cons]
      exact ⟨rfl, ih (p a)⟩

/-- After an entry that satisfies `p`, another one ends the cut. -/
theorem cut_true_cons {a : α} {rest : List α} (h : cut p true l = a :: rest) (ha : p a = true) :
    rest = [] := by
  cases l with
  | nil => exact absurd h (by simp [cut])
  | cons b l =>
    rw [cut] at h
    by_cases hb : (true && p b) = true
    · rw [if_pos hb] at h
      exact (List.cons.inj h).2.symm
    · rw [if_neg hb] at h
      obtain ⟨rfl, -⟩ := List.cons.inj h
      exact absurd ha hb

/-- **Nothing follows two in a row.** -/
theorem eq_nil_of_cut {pre post : List α} {a b : α} (h : cut p before l = pre ++ a :: b :: post)
    (ha : p a = true) (hb : p b = true) : post = [] := by
  induction l generalizing before pre with
  | nil => exact absurd h (by simp [cut])
  | cons x l ih =>
    rw [cut] at h
    by_cases hstop : (before && p x) = true
    · rw [if_pos hstop] at h
      have hlen := congrArg List.length h
      simp only [List.length_append, List.length_cons, List.length_nil] at hlen
      omega
    · rw [if_neg hstop] at h
      cases pre with
      | nil =>
        obtain ⟨rfl, hrest⟩ := List.cons.inj h
        exact cut_true_cons (ha ▸ hrest) hb
      | cons y pre =>
        obtain ⟨-, hrest⟩ := List.cons.inj h
        exact ih hrest

/-- **The cut ends before the list only at a pair**; the first of the two may be the
entry before the list. -/
theorem cut_eq_or (before : Bool) (l : List α) :
    cut p before l = l ∨ (∃ b, before = true ∧ cut p before l = [b] ∧ p b = true) ∨
      ∃ pre a b, cut p before l = pre ++ [a, b] ∧ p a = true ∧ p b = true := by
  induction l generalizing before with
  | nil => exact Or.inl rfl
  | cons x l ih =>
    rw [cut]
    by_cases hstop : (before && p x) = true
    · rw [if_pos hstop]
      obtain ⟨hbefore, hx⟩ := Bool.and_eq_true_iff.mp hstop
      exact Or.inr (Or.inl ⟨x, hbefore, rfl, hx⟩)
    · rw [if_neg hstop]
      rcases ih (p x) with heq | ⟨b, hx, heq, hb⟩ | ⟨pre, a, b, heq, ha, hb⟩
      · exact Or.inl (by rw [heq])
      · exact Or.inr (Or.inr ⟨[], x, b, by rw [heq, List.nil_append], hx, hb⟩)
      · exact Or.inr (Or.inr ⟨x :: pre, a, b, by rw [heq, List.cons_append], ha, hb⟩)

end AdjacentPair
