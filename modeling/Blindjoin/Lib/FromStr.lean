import Mathlib.Order.Basic
import Blindjoin.Lib.Text

/-!
# Reading a text step by step

`TextCodec.parseUnsigned` says which texts are unsigned numbers below a bound. A
fixed-width parser reads them digit by digit and stops at the first sign of trouble,
which it names: `TextCodec.fromStrRadix`. The two accept the same texts with the same
values (`TextCodec.toOption_fromStrRadix`), since the digits read so far never exceed
the number.

A text may be cut at its *first* separator (`TextCodec.splitOnce`) or at its last
(`TextCodec.rsplitOnce`); where the two differ, both pieces of each cut are told apart
by the separator they contain (`TextCodec.rsplitOnce_of_splitOnce`).
-/

namespace TextCodec

/-! ### Numbers -/

/-- Why a text is no number. -/
inductive ParseIntError
  | empty
  | invalidDigit
  | posOverflow
deriving DecidableEq, Repr

/-- The text of the error. -/
def ParseIntError.toText : ParseIntError → String
  | .empty => "cannot parse integer from empty string"
  | .invalidDigit => "invalid digit found in string"
  | .posOverflow => "number too large to fit in target type"

/-- Read digits after a number, as long as it stays below the bound. -/
def readDigits (bound : ℕ) : ℕ → List Char → Except ParseIntError ℕ
  | n, [] => .ok n
  | n, c :: cs =>
    if c.isDigit then
      let next := 10 * n + (c.toNat - '0'.toNat)
      if next < bound then readDigits bound next cs else .error .posOverflow
    else .error .invalidDigit

/-- Read an unsigned number: an optional leading `+`, then digits. -/
def fromStrRadix (bound : ℕ) (cs : List Char) : Except ParseIntError ℕ :=
  if cs = [] then .error .empty
  else if stripPlus cs = [] then .error .invalidDigit
  else readDigits bound 0 (stripPlus cs)

/-- Further digits only make a number larger. -/
theorem le_ofDigitChars (n : ℕ) (cs : List Char) : n ≤ Nat.ofDigitChars 10 cs n := by
  induction cs generalizing n with
  | nil => rw [Nat.ofDigitChars_nil]
  | cons c cs ih =>
    rw [Nat.ofDigitChars_cons]
    have hstep := ih (10 * n + (c.toNat - '0'.toNat))
    omega

/-- **Checking the bound at every digit is checking it at the end.** -/
theorem toOption_readDigits {bound n : ℕ} (hn : n < bound) (cs : List Char) :
    (readDigits bound n cs).toOption =
      if cs.all Char.isDigit ∧ Nat.ofDigitChars 10 cs n < bound then
        some (Nat.ofDigitChars 10 cs n)
      else none := by
  induction cs generalizing n with
  | nil =>
    rw [readDigits, Nat.ofDigitChars_nil, if_pos ⟨rfl, hn⟩]
    rfl
  | cons c cs ih =>
    rw [readDigits, Nat.ofDigitChars_cons]
    by_cases hdigit : c.isDigit = true
    · rw [if_pos hdigit, List.all_cons, hdigit, Bool.true_and]
      simp only []
      by_cases hnext : 10 * n + (c.toNat - '0'.toNat) < bound
      · rw [if_pos hnext, ih hnext]
      · -- too large already, and the rest does not make it smaller
        have hle := le_ofDigitChars (10 * n + (c.toNat - '0'.toNat)) cs
        rw [if_neg hnext, if_neg fun h => hnext (lt_of_le_of_lt hle h.2)]
        rfl
    · rw [if_neg hdigit, if_neg fun h => hdigit (List.all_eq_true.mp h.1 c List.mem_cons_self)]
      rfl

/-- **The step-by-step reader accepts what is a number.** -/
theorem toOption_fromStrRadix {bound : ℕ} (hbound : 0 < bound) (cs : List Char) :
    (fromStrRadix bound cs).toOption = parseUnsigned bound cs := by
  rw [fromStrRadix, parseUnsigned]
  by_cases hempty : cs = []
  · rw [if_pos hempty, hempty, if_neg fun h => h.1 rfl]
    rfl
  · rw [if_neg hempty]
    by_cases hplus : stripPlus cs = []
    · rw [if_pos hplus, if_neg fun h => h.1 hplus]
      rfl
    · rw [if_neg hplus, toOption_readDigits hbound]
      simp only [ne_eq, hplus, not_false_eq_true, true_and]

/-- A number has no separator in it. -/
theorem parseUnsigned_eq_none {bound : ℕ} {sep : Char} {cs : List Char} (hsep : sep ∈ cs)
    (hdigit : sep.isDigit = false) (hplus : sep ≠ '+') : parseUnsigned bound cs = none := by
  have hmem : sep ∈ stripPlus cs := by
    rw [stripPlus.eq_def]
    split
    · exact (List.mem_cons.mp hsep).resolve_left hplus
    · exact hsep
  rw [parseUnsigned, if_neg]
  rintro ⟨-, hall, -⟩
  exact absurd (List.all_eq_true.mp hall sep hmem) (by simp [hdigit])

/-! ### Hexadecimal -/

/-- Hexadecimal has no separator in it. -/
theorem hexDecode_eq_none {sep : Char} (hval : hexVal sep = none) :
    ∀ {cs : List Char}, sep ∈ cs → hexDecode cs = none
  | [], h => absurd h List.not_mem_nil
  | [_], _ => rfl
  | a :: b :: rest, h => by
    rw [hexDecode]
    rcases List.mem_cons.mp h with rfl | h
    · rw [hval]
    · rcases List.mem_cons.mp h with rfl | h
      · rw [hval]
        cases hexVal a with
        | none => rfl
        | some v => rfl
      · rw [hexDecode_eq_none hval h]
        split
        · next heq => exact absurd heq (by simp)
        · rfl

/-! ### Splitting at the first separator -/

/-- Cut a text at the first occurrence of `sep`, which is dropped. -/
def splitOnce (sep : Char) : List Char → Option (List Char × List Char)
  | [] => none
  | c :: cs => if c = sep then some ([], cs) else match splitOnce sep cs with
      | some (a, b) => some (c :: a, b)
      | none => none

theorem splitOnce_eq_none {sep : Char} {cs : List Char} (h : splitOnce sep cs = none) :
    sep ∉ cs := by
  induction cs with
  | nil => exact List.not_mem_nil
  | cons c cs ih =>
    rw [splitOnce] at h
    split at h
    · exact absurd h (by simp)
    · next hne =>
      split at h
      · exact absurd h (by simp)
      · next hrest =>
        rw [List.mem_cons, not_or]
        exact ⟨fun heq => hne heq.symm, ih hrest⟩

/-- **The cut is at a separator before which there is none.** -/
theorem splitOnce_eq_some {sep : Char} {cs a b : List Char} (h : splitOnce sep cs = some (a, b)) :
    cs = a ++ sep :: b ∧ sep ∉ a := by
  induction cs generalizing a with
  | nil => exact absurd h (by simp [splitOnce])
  | cons c cs ih =>
    rw [splitOnce] at h
    split at h
    · next heq =>
      obtain ⟨rfl, rfl⟩ := Prod.mk.inj (Option.some.inj h)
      exact ⟨by rw [heq, List.nil_append], List.not_mem_nil⟩
    · next hne =>
      split at h
      · next a' b' hrest =>
        obtain ⟨rfl, rfl⟩ := Prod.mk.inj (Option.some.inj h)
        obtain ⟨rfl, hnot⟩ := ih hrest
        refine ⟨rfl, ?_⟩
        rw [List.mem_cons, not_or]
        exact ⟨fun heq => hne heq.symm, hnot⟩
      · exact absurd h (by simp)

/-- **The first cut and the last**: they are one cut, or the separator is in the second
piece of the first cut and in the first piece of the last. -/
theorem rsplitOnce_of_splitOnce {sep : Char} {cs a b : List Char}
    (h : splitOnce sep cs = some (a, b)) :
    rsplitOnce sep cs = some (a, b) ∧ sep ∉ b ∨
      sep ∈ b ∧ ∃ a' b', rsplitOnce sep cs = some (a', b') ∧ sep ∈ a' := by
  obtain ⟨rfl, -⟩ := splitOnce_eq_some h
  by_cases hb : sep ∈ b
  · obtain ⟨b₁, b₂, rfl, hlast⟩ : ∃ b₁ b₂, b = b₁ ++ sep :: b₂ ∧ sep ∉ b₂ := by
      obtain ⟨pre, post, hrev, hnot⟩ := List.eq_append_cons_of_mem (List.mem_reverse.mpr hb)
      refine ⟨post.reverse, pre.reverse, ?_, by rwa [List.mem_reverse]⟩
      rw [← List.reverse_reverse b, hrev]
      simp
    refine Or.inr ⟨hb, a ++ sep :: b₁, b₂, ?_, by simp⟩
    have hcut := rsplitOnce_append (a ++ sep :: b₁) hlast
    rwa [List.append_assoc, List.cons_append] at hcut
  · exact Or.inl ⟨rsplitOnce_append a hb, hb⟩

end TextCodec
