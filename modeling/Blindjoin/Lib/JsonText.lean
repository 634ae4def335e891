import Blindjoin.Lib.Text

/-!
# Strings and numbers in compact JSON

The two kinds of value a flat JSON record is made of, on lists of characters, as
a compact writer prints them: no space, the short escapes where JSON has one,
and `\u00xx` for the other control characters. What the writer prints is read
back, with whatever follows it left over:

* `JsonText.readQuoted_quoted` for a string;
* `JsonText.readNat_toDigits` for a natural number, and
  `JsonText.readU64_toDigits` for one of sixty-four bits.

Nothing printed contains a control character, so a printed record is one line
(`JsonText.le_toNat_of_mem_escape`).
-/

namespace JsonText

open TextCodec

/-! ### Strings -/

/-- The character a short escape stands for, by the letter after the backslash. -/
def shortEscape (c : Char) : Option Char :=
  if c = '"' then some '"'
  else if c = '\\' then some '\\'
  else if c = '/' then some '/'
  else if c = 'b' then some (Char.ofNat 8)
  else if c = 't' then some (Char.ofNat 9)
  else if c = 'n' then some (Char.ofNat 10)
  else if c = 'f' then some (Char.ofNat 12)
  else if c = 'r' then some (Char.ofNat 13)
  else none

/-- What a string prints for a character. -/
def escape (c : Char) : List Char :=
  if c = '"' then ['\\', '"']
  else if c = '\\' then ['\\', '\\']
  else if c.toNat = 8 then ['\\', 'b']
  else if c.toNat = 9 then ['\\', 't']
  else if c.toNat = 10 then ['\\', 'n']
  else if c.toNat = 12 then ['\\', 'f']
  else if c.toNat = 13 then ['\\', 'r']
  else if c.toNat < 32 then
    ['\\', 'u', '0', '0', hexDigit (c.toNat / 16), hexDigit (c.toNat % 16)]
  else [c]

/-- A string as it is printed, with its quotes. -/
def quoted (cs : List Char) : List Char := '"' :: (cs.flatMap escape ++ ['"'])

/-- Read the four digits of a `\u` escape. -/
def readUnicode : List Char → Option (Char × List Char)
  | a :: b :: c :: d :: rest =>
    match hexVal a, hexVal b, hexVal c, hexVal d with
    | some a, some b, some c, some d =>
      some (Char.ofNat (4096 * a + 256 * b + 16 * c + d), rest)
    | _, _, _, _ => none
  | _ => none

/-- Read what follows a backslash. -/
def readEscape : List Char → Option (Char × List Char)
  | [] => none
  | c :: rest =>
    if c = 'u' then readUnicode rest
    else (shortEscape c).map fun d => (d, rest)

/-- Read a string up to its closing quote, and return what follows it. Every step
reads a character at least, so the length of the text is fuel enough. -/
def readChars : ℕ → List Char → Option (List Char × List Char)
  | 0, _ => none
  | _ + 1, [] => none
  | n + 1, c :: rest =>
    if c = '"' then some ([], rest)
    else if c = '\\' then
      match readEscape rest with
      | some (d, rest') => (readChars n rest').map fun p => (d :: p.1, p.2)
      | none => none
    else if c.toNat < 32 then none
    else (readChars n rest).map fun p => (c :: p.1, p.2)

/-- Read a string with its quotes. -/
def readQuoted : List Char → Option (List Char × List Char)
  | '"' :: rest => readChars (rest.length + 1) rest
  | _ => none

/-- **One escaped character is read back.** -/
theorem readChars_escape (c : Char) (n : ℕ) (rest : List Char) :
    readChars (n + 1) (escape c ++ rest) = (readChars n rest).map fun p => (c :: p.1, p.2) := by
  have hofNat : Char.ofNat c.toNat = c := Char.ofNat_toNat c
  rw [escape]
  -- the cases are the lines of the escape table
  by_cases hquote : c = '"'
  · obtain rfl := hquote
    rfl
  by_cases hback : c = '\\'
  · obtain rfl := hback
    rfl
  rw [if_neg hquote, if_neg hback]
  by_cases h8 : c.toNat = 8
  · rw [if_pos h8, ← hofNat, h8]
    rfl
  by_cases h9 : c.toNat = 9
  · rw [if_neg h8, if_pos h9, ← hofNat, h9]
    rfl
  by_cases h10 : c.toNat = 10
  · rw [if_neg h8, if_neg h9, if_pos h10, ← hofNat, h10]
    rfl
  by_cases h12 : c.toNat = 12
  · rw [if_neg h8, if_neg h9, if_neg h10, if_pos h12, ← hofNat, h12]
    rfl
  by_cases h13 : c.toNat = 13
  · rw [if_neg h8, if_neg h9, if_neg h10, if_neg h12, if_pos h13, ← hofNat, h13]
    rfl
  rw [if_neg h8, if_neg h9, if_neg h10, if_neg h12, if_neg h13]
  by_cases hctl : c.toNat < 32
  · have hhigh : hexVal (hexDigit (c.toNat / 16)) = some (c.toNat / 16) :=
      hexVal_hexDigit (by omega)
    have hlow : hexVal (hexDigit (c.toNat % 16)) = some (c.toNat % 16) :=
      hexVal_hexDigit (by omega)
    have hzero : hexVal '0' = some 0 := by decide
    have hval : 4096 * 0 + 256 * 0 + 16 * (c.toNat / 16) + c.toNat % 16 = c.toNat := by omega
    have hunicode : readUnicode ('0' :: '0' :: hexDigit (c.toNat / 16) ::
        hexDigit (c.toNat % 16) :: rest) = some (c, rest) := by
      simp only [readUnicode, hzero, hhigh, hlow, hval, hofNat]
    have hescape : readEscape ('u' :: '0' :: '0' :: hexDigit (c.toNat / 16) ::
        hexDigit (c.toNat % 16) :: rest) = some (c, rest) := by
      rw [readEscape, if_pos rfl, hunicode]
    rw [if_pos hctl]
    simp only [List.cons_append, List.nil_append]
    rw [readChars, if_neg (by decide), if_pos rfl, hescape]
  · rw [if_neg hctl, List.singleton_append, readChars, if_neg hquote, if_neg hback, if_neg hctl]

theorem readChars_flatMap (cs rest : List Char) {n : ℕ} (h : cs.length < n) :
    readChars n (cs.flatMap escape ++ '"' :: rest) = some (cs, rest) := by
  induction cs generalizing n with
  | nil =>
    obtain ⟨m, rfl⟩ : ∃ m, n = m + 1 := ⟨n - 1, by simp only [List.length_nil] at h; omega⟩
    rw [List.flatMap_nil, List.nil_append, readChars, if_pos rfl]
  | cons c cs ih =>
    rw [List.length_cons] at h
    obtain ⟨m, rfl⟩ : ∃ m, n = m + 1 := ⟨n - 1, by omega⟩
    rw [List.flatMap_cons, List.append_assoc, readChars_escape, ih (by omega)]
    rfl

theorem escape_ne_nil (c : Char) : escape c ≠ [] := by
  rw [escape]
  split_ifs <;> exact List.cons_ne_nil _ _

theorem length_le_length_flatMap (cs : List Char) : cs.length ≤ (cs.flatMap escape).length := by
  induction cs with
  | nil => exact Nat.le_refl 0
  | cons c cs ih =>
    have hpos : 0 < (escape c).length := List.length_pos_of_ne_nil (escape_ne_nil c)
    rw [List.flatMap_cons, List.length_append, List.length_cons]
    omega

/-- **A printed string is read back**, with what follows it left over. -/
theorem readQuoted_quoted (cs rest : List Char) :
    readQuoted (quoted cs ++ rest) = some (cs, rest) := by
  have hlen := length_le_length_flatMap cs
  rw [quoted, List.cons_append, List.append_assoc, List.singleton_append, readQuoted]
  refine readChars_flatMap cs rest ?_
  rw [List.length_append]
  omega

/-- **Nothing printed for a character is a control character.** -/
theorem le_toNat_of_mem_escape {c d : Char} (h : d ∈ escape c) : 32 ≤ d.toNat := by
  have hdigit : ∀ n, n < 16 → 32 ≤ (hexDigit n).toNat := by decide
  have hshort : ∀ e : Char, 32 ≤ e.toNat → d ∈ ['\\', e] → 32 ≤ d.toNat := by
    intro e he hmem
    rcases List.mem_pair.mp hmem with rfl | rfl
    · decide
    · exact he
  rw [escape] at h
  split_ifs at h with h1 h2 h3 h4 h5 h6 h7 hctl
  · exact hshort _ (by decide) h
  · exact hshort _ (by decide) h
  · exact hshort _ (by decide) h
  · exact hshort _ (by decide) h
  · exact hshort _ (by decide) h
  · exact hshort _ (by decide) h
  · exact hshort _ (by decide) h
  · have hhigh := hdigit (c.toNat / 16) (by omega)
    have hlow := hdigit (c.toNat % 16) (by omega)
    simp only [List.mem_cons, List.not_mem_nil, or_false] at h
    rcases h with rfl | rfl | rfl | rfl | rfl | rfl
    · decide
    · decide
    · decide
    · decide
    · exact hhigh
    · exact hlow
  · obtain rfl := List.mem_singleton.mp h
    omega

/-- What is printed for an ASCII character is ASCII. -/
theorem toNat_lt_of_mem_escape {c d : Char} (hc : c.toNat < 128) (h : d ∈ escape c) :
    d.toNat < 128 := by
  have hdigit : ∀ n, n < 16 → (hexDigit n).toNat < 128 := by decide
  have hshort : ∀ e : Char, e.toNat < 128 → d ∈ ['\\', e] → d.toNat < 128 := by
    intro e he hmem
    rcases List.mem_pair.mp hmem with rfl | rfl
    · decide
    · exact he
  rw [escape] at h
  split_ifs at h with h1 h2 h3 h4 h5 h6 h7 hctl
  · exact hshort _ (by decide) h
  · exact hshort _ (by decide) h
  · exact hshort _ (by decide) h
  · exact hshort _ (by decide) h
  · exact hshort _ (by decide) h
  · exact hshort _ (by decide) h
  · exact hshort _ (by decide) h
  · have hhigh := hdigit (c.toNat / 16) (by omega)
    have hlow := hdigit (c.toNat % 16) (by omega)
    simp only [List.mem_cons, List.not_mem_nil, or_false] at h
    rcases h with rfl | rfl | rfl | rfl | rfl | rfl
    · decide
    · decide
    · decide
    · decide
    · exact hhigh
    · exact hlow
  · obtain rfl := List.mem_singleton.mp h
    exact hc

/-! ### Numbers -/

/-- Read the digits at the front, and return what follows them. A number has no
leading zero and at least one digit, so the digits are those it is printed with. -/
def readNat (cs : List Char) : Option (ℕ × List Char) :=
  let digits := cs.takeWhile Char.isDigit
  let n := Nat.ofDigitChars 10 digits 0
  if digits = Nat.toDigits 10 n then some (n, cs.dropWhile Char.isDigit) else none

/-- Read a number of sixty-four bits. -/
def readU64 (cs : List Char) : Option (UInt64 × List Char) :=
  match readNat cs with
  | some (n, rest) => if n < 2 ^ 64 then some (UInt64.ofNat n, rest) else none
  | none => none

/-- **A printed number is read back**, when no digit follows it. -/
theorem readNat_toDigits (n : ℕ) {c : Char} (hc : c.isDigit = false) (rest : List Char) :
    readNat (Nat.toDigits 10 n ++ c :: rest) = some (n, c :: rest) := by
  have hall : ∀ d ∈ Nat.toDigits 10 n, d.isDigit = true := fun d hd =>
    Nat.isDigit_of_mem_toDigits (by decide) (by decide) hd
  have htake : (Nat.toDigits 10 n ++ c :: rest).takeWhile Char.isDigit = Nat.toDigits 10 n := by
    rw [List.takeWhile_append_of_pos hall, List.takeWhile_cons_of_neg (by simp [hc]),
      List.append_nil]
  have hdrop : (Nat.toDigits 10 n ++ c :: rest).dropWhile Char.isDigit = c :: rest := by
    rw [List.dropWhile_append_of_pos hall, List.dropWhile_cons_of_neg (by simp [hc])]
  have hval : Nat.ofDigitChars 10 (Nat.toDigits 10 n) 0 = n :=
    Nat.ofDigitChars_toDigits (by decide) (by decide)
  simp only [readNat, htake, hdrop, hval, if_pos]

/-- **A printed machine integer is read back**, when no digit follows it. -/
theorem readU64_toDigits (n : UInt64) {c : Char} (hc : c.isDigit = false) (rest : List Char) :
    readU64 (Nat.toDigits 10 n.toNat ++ c :: rest) = some (n, c :: rest) := by
  have hlt : n.toNat < 2 ^ 64 := n.toNat_lt
  simp only [readU64, readNat_toDigits n.toNat hc rest, if_pos hlt, UInt64.ofNat_toNat]

/-! ### Fixed text -/

/-- Read a fixed text at the front, and return what follows it. -/
def expect : List Char → List Char → Option (List Char)
  | [], cs => some cs
  | _ :: _, [] => none
  | p :: ps, c :: cs => if p = c then expect ps cs else none

@[simp] theorem expect_append (ps cs : List Char) : expect ps (ps ++ cs) = some cs := by
  induction ps with
  | nil => rfl
  | cons p ps ih => rw [List.cons_append, expect, if_pos rfl, ih]

end JsonText
