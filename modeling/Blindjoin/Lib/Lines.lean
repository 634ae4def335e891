import Mathlib.Data.List.Basic

/-!
# Terminated pieces

A file of records, one on each line, is a list in which every record is followed
by a separator. `Lines.cut` cuts such a list at its separators and tells the
pieces that were terminated from what follows the last separator, which is empty
when the last record was written completely. Cutting what was joined gives the
pieces back (`Lines.cut_join`), and what was written behind them as the rest
(`Lines.cut_join_append`), provided no piece contains the separator.
-/

namespace Lines

variable {α : Type} [DecidableEq α] (sep : α)

/-- Cut a list at each separator, which is dropped: the terminated pieces, and
what follows the last separator. -/
def cut : List α → List (List α) × List α
  | [] => ([], [])
  | a :: as =>
    if a = sep then ([] :: (cut as).1, (cut as).2)
    else match cut as with
      | ([], rest) => ([], a :: rest)
      | (l :: ls, rest) => ((a :: l) :: ls, rest)

/-- All the pieces: an unterminated one counts if it is not empty. -/
def pieces (as : List α) : List (List α) :=
  (cut sep as).1 ++ if (cut sep as).2 = [] then [] else [(cut sep as).2]

/-- Every piece, followed by the separator. -/
def join (ls : List (List α)) : List α := ls.flatMap fun l => l ++ [sep]

variable {sep}

omit [DecidableEq α] in
@[simp] theorem join_append (ls ls' : List (List α)) :
    join sep (ls ++ ls') = join sep ls ++ join sep ls' := List.flatMap_append

/-- The first piece ends at the first separator. -/
theorem cut_append {l as : List α} (h : sep ∉ l) :
    cut sep (l ++ sep :: as) = (l :: (cut sep as).1, (cut sep as).2) := by
  induction l with
  | nil => rw [List.nil_append, cut, if_pos rfl]
  | cons a l ih =>
    have hne : a ≠ sep := fun he => h (he ▸ List.mem_cons_self)
    have hrest : sep ∉ l := fun hmem => h (List.mem_cons_of_mem a hmem)
    rw [List.cons_append, cut, if_neg hne, ih hrest]

/-- A list without a separator is one unterminated piece. -/
theorem cut_of_notMem {rest : List α} (h : sep ∉ rest) : cut sep rest = ([], rest) := by
  induction rest with
  | nil => rfl
  | cons a rest ih =>
    have hne : a ≠ sep := fun he => h (he ▸ List.mem_cons_self)
    have hrest : sep ∉ rest := fun hmem => h (List.mem_cons_of_mem a hmem)
    rw [cut, if_neg hne, ih hrest]

/-- **Cutting tells the terminated pieces from the rest.** -/
theorem cut_join_append {ls : List (List α)} {rest : List α} (h : ∀ l ∈ ls, sep ∉ l)
    (hrest : sep ∉ rest) : cut sep (join sep ls ++ rest) = (ls, rest) := by
  induction ls with
  | nil =>
    rw [join, List.flatMap_nil, List.nil_append]
    exact cut_of_notMem hrest
  | cons l ls ih =>
    have htail := ih fun l' hl' => h l' (List.mem_cons_of_mem l hl')
    have hjoin : join sep (l :: ls) ++ rest = l ++ sep :: (join sep ls ++ rest) := by simp [join]
    rw [hjoin, cut_append (h l List.mem_cons_self), htail]

/-- **Cutting inverts joining.** -/
theorem cut_join {ls : List (List α)} (h : ∀ l ∈ ls, sep ∉ l) :
    cut sep (join sep ls) = (ls, []) := by
  have hcut := cut_join_append h (List.not_mem_nil (a := sep))
  rwa [List.append_nil] at hcut

end Lines
