import Mathlib.Data.List.Basic
import Mathlib.Data.Vector.Basic

/-!
# Text codecs: hexadecimal, decimal, and splitting at a separator

The three codecs a textual identifier is made of, on lists of characters.

* `TextCodec.hexEncode` writes bytes in lower-case hexadecimal,
  `TextCodec.hexDecode` reads either case back
  (`TextCodec.hexDecode_hexEncode`).
* `TextCodec.parseUnsigned` reads an unsigned decimal number the way a
  fixed-width integer parser does: an optional `+`, then at least one digit,
  nothing else, and a value below the given bound. It reads leading zeros,
  which is why two different texts may denote one number; the rendering
  `Nat.toDigits 10` is the one it is compared with
  (`TextCodec.parseUnsigned_toDigits`).
* `TextCodec.rsplitOnce` cuts a text at the *last* occurrence of a separator
  (`TextCodec.rsplitOnce_append`).
-/

namespace TextCodec

/-! ### Hexadecimal -/

/-- The lower-case hexadecimal digit of a number below sixteen. -/
def hexDigit (n : ℕ) : Char := Nat.digitChar n

/-- The value of a hexadecimal digit of either case. -/
def hexVal (c : Char) : Option ℕ :=
  if '0' ≤ c ∧ c ≤ '9' then some (c.toNat - '0'.toNat)
  else if 'a' ≤ c ∧ c ≤ 'f' then some (c.toNat - 'a'.toNat + 10)
  else if 'A' ≤ c ∧ c ≤ 'F' then some (c.toNat - 'A'.toNat + 10)
  else none

/-- The two digits of a byte. -/
def hexByte (b : UInt8) : List Char := [hexDigit (b.toNat / 16), hexDigit (b.toNat % 16)]

/-- Bytes in lower-case hexadecimal. -/
def hexEncode (bs : List UInt8) : List Char := bs.flatMap hexByte

/-- Reading hexadecimal of either case, two digits a byte. -/
def hexDecode : List Char → Option (List UInt8)
  | [] => some []
  | [_] => none
  | a :: b :: rest =>
    match hexVal a, hexVal b, hexDecode rest with
    | some h, some l, some bs => some (UInt8.ofNat (16 * h + l) :: bs)
    | _, _, _ => none

@[simp] theorem hexEncode_cons (b : UInt8) (bs : List UInt8) :
    hexEncode (b :: bs) = hexDigit (b.toNat / 16) :: hexDigit (b.toNat % 16) :: hexEncode bs := rfl

theorem hexVal_hexDigit {n : ℕ} (h : n < 16) : hexVal (hexDigit n) = some n := by
  revert n
  decide

/-- **Decoding inverts encoding.** -/
theorem hexDecode_hexEncode (bs : List UInt8) : hexDecode (hexEncode bs) = some bs := by
  induction bs with
  | nil => rfl
  | cons b bs ih =>
    have hb : b.toNat < 256 := b.toNat_lt
    rw [hexEncode_cons, hexDecode, hexVal_hexDigit (by omega), hexVal_hexDigit (by omega), ih]
    have hval : 16 * (b.toNat / 16) + b.toNat % 16 = b.toNat := Nat.div_add_mod _ _
    simp only [hval, UInt8.ofNat_toNat]

/-- What is decoded has half the length of its text. -/
theorem length_of_hexDecode : ∀ {cs : List Char} {bs : List UInt8},
    hexDecode cs = some bs → cs.length = 2 * bs.length
  | [], bs, h => by
    obtain rfl : [] = bs := Option.some.inj h
    rfl
  | [_], bs, h => by simp [hexDecode] at h
  | a :: b :: rest, bs, h => by
    rw [hexDecode] at h
    split at h
    · next v l tl _ _ hrest =>
      obtain rfl := Option.some.inj h
      have := length_of_hexDecode hrest
      simp only [List.length_cons]
      omega
    · exact absurd h (by simp)

/-! ### Decimal -/

/-- The digits of a number written with an optional leading `+`. -/
def stripPlus : List Char → List Char
  | '+' :: rest => rest
  | cs => cs

/-- Reading an unsigned decimal number below `bound`: an optional leading `+`,
then one digit or more. -/
def parseUnsigned (bound : ℕ) (cs : List Char) : Option ℕ :=
  if stripPlus cs ≠ [] ∧ (stripPlus cs).all Char.isDigit ∧
      Nat.ofDigitChars 10 (stripPlus cs) 0 < bound then
    some (Nat.ofDigitChars 10 (stripPlus cs) 0)
  else none

theorem stripPlus_of_isDigit {cs : List Char} (h : ∀ c ∈ cs, c.isDigit = true) :
    stripPlus cs = cs := by
  rw [stripPlus.eq_def]
  split
  · exact absurd (h '+' List.mem_cons_self) (by decide)
  · rfl

/-- **The rendering of a number is read back**, whatever bound it is below. -/
theorem parseUnsigned_toDigits {bound n : ℕ} (h : n < bound) :
    parseUnsigned bound (Nat.toDigits 10 n) = some n := by
  have hall : ∀ c ∈ Nat.toDigits 10 n, c.isDigit = true := fun c hc =>
    Nat.isDigit_of_mem_toDigits (by decide) (by decide) hc
  have hval : Nat.ofDigitChars 10 (Nat.toDigits 10 n) 0 = n :=
    Nat.ofDigitChars_toDigits (by decide) (by decide)
  rw [parseUnsigned, stripPlus_of_isDigit hall, hval,
    if_pos ⟨Nat.toDigits_ne_nil, List.all_eq_true.mpr hall, h⟩]

/-! ### Splitting at the last separator -/

/-- Cut a text at the last occurrence of `sep`, which is dropped. -/
def rsplitOnce (sep : Char) : List Char → Option (List Char × List Char)
  | [] => none
  | c :: cs => match rsplitOnce sep cs with
      | some (a, b) => some (c :: a, b)
      | none => if c = sep then some ([], cs) else none

theorem rsplitOnce_eq_none {sep : Char} {cs : List Char} (h : sep ∉ cs) :
    rsplitOnce sep cs = none := by
  induction cs with
  | nil => rfl
  | cons c cs ih =>
    rw [List.mem_cons, not_or] at h
    rw [rsplitOnce, ih h.2, if_neg (Ne.symm h.1)]

/-- **The cut is at the separator that no other one follows.** -/
theorem rsplitOnce_append {sep : Char} (a : List Char) {b : List Char} (h : sep ∉ b) :
    rsplitOnce sep (a ++ sep :: b) = some (a, b) := by
  induction a with
  | nil => rw [List.nil_append, rsplitOnce, rsplitOnce_eq_none h, if_pos rfl]
  | cons c a ih => rw [List.cons_append, rsplitOnce, ih]

end TextCodec
