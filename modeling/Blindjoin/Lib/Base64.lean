import Mathlib.Tactic.Common

/-!
# Base64

The texts of byte strings over the standard alphabet, with padding: four digits for three
bytes. The reader is the strict one, which takes no text but the one that is written:
padding is required, and the bits that are left over are zero.

What is written is read back (`Base64.decode_encode`).
-/

namespace Base64

/-- The digit of a number below sixty-four. -/
def digit (n : ℕ) : Char :=
  if n < 26 then Char.ofNat ('A'.toNat + n)
  else if n < 52 then Char.ofNat ('a'.toNat + (n - 26))
  else if n < 62 then Char.ofNat ('0'.toNat + (n - 52))
  else if n = 62 then '+' else '/'

/-- The number of a digit. -/
def value (c : Char) : Option ℕ :=
  if 'A' ≤ c ∧ c ≤ 'Z' then some (c.toNat - 'A'.toNat)
  else if 'a' ≤ c ∧ c ≤ 'z' then some (c.toNat - 'a'.toNat + 26)
  else if '0' ≤ c ∧ c ≤ '9' then some (c.toNat - '0'.toNat + 52)
  else if c = '+' then some 62
  else if c = '/' then some 63
  else none

/-- The text of a byte string. -/
def encode : List UInt8 → List Char
  | a :: b :: c :: rest =>
    let n := a.toNat * 65536 + b.toNat * 256 + c.toNat
    digit (n / 262144) :: digit (n / 4096 % 64) :: digit (n / 64 % 64) :: digit (n % 64) ::
      encode rest
  | [a, b] =>
    let n := a.toNat * 65536 + b.toNat * 256
    [digit (n / 262144), digit (n / 4096 % 64), digit (n / 64 % 64), '=']
  | [a] =>
    let n := a.toNat * 65536
    [digit (n / 262144), digit (n / 4096 % 64), '=', '=']
  | [] => []

/-- The last bytes of a text, of its last digits but the padding at the end. -/
def decodeLast (w x y : Char) : Option (List UInt8) :=
  if y = '=' then do
    let n := (← value w) * 64 + (← value x)
    if n % 16 = 0 then some [UInt8.ofNat (n / 16)] else none
  else do
    let n := (← value w) * 4096 + (← value x) * 64 + (← value y)
    if n % 4 = 0 then some [UInt8.ofNat (n / 1024), UInt8.ofNat (n / 4)] else none

/-- The byte string of a text. -/
def decode : List Char → Option (List UInt8)
  | [] => some []
  | w :: x :: y :: z :: rest =>
    if z = '=' then if rest = [] then decodeLast w x y else none
    else do
      let n := (← value w) * 262144 + (← value x) * 4096 + (← value y) * 64 + (← value z)
      let bs ← decode rest
      some (UInt8.ofNat (n / 65536) :: UInt8.ofNat (n / 256) :: UInt8.ofNat n :: bs)
  | _ => none

/-! ### What is written is read back -/

theorem value_digit : ∀ n < 64, value (digit n) = some n := by decide

/-- A digit is no padding. -/
theorem digit_ne : ∀ n < 64, digit n ≠ '=' := by decide

/-- A byte is read off a number that has it as its last digits. -/
theorem ofNat_eq {n : ℕ} {b : UInt8} (h : n % 256 = b.toNat) : UInt8.ofNat n = b :=
  UInt8.toNat_inj.mp (UInt8.toNat_ofNat'.trans h)

/-- Two bytes are read back from their three digits. -/
theorem decode_two {a b : UInt8} {n : ℕ} (hn : n = a.toNat * 65536 + b.toNat * 256) :
    decode [digit (n / 262144), digit (n / 4096 % 64), digit (n / 64 % 64), '='] =
      some [a, b] := by
  have ha := a.toNat_lt
  have hb := b.toNat_lt
  have hw : n / 262144 < 64 := by omega
  have hx : n / 4096 % 64 < 64 := Nat.mod_lt _ (by decide)
  have hy : n / 64 % 64 < 64 := Nat.mod_lt _ (by decide)
  have hsum : n / 262144 * 4096 + n / 4096 % 64 * 64 + n / 64 % 64 = n / 64 := by omega
  have hlast : n / 64 % 4 = 0 := by omega
  rw [decode, if_pos rfl, if_pos rfl, decodeLast, if_neg (digit_ne _ hy), value_digit _ hw,
    value_digit _ hx, value_digit _ hy]
  simp only [bind, Option.bind, hsum]
  rw [if_pos hlast, ofNat_eq (show n / 64 / 1024 % 256 = a.toNat by omega),
    ofNat_eq (show n / 64 / 4 % 256 = b.toNat by omega)]

/-- One byte is read back from its two digits. -/
theorem decode_one {a : UInt8} {n : ℕ} (hn : n = a.toNat * 65536) :
    decode [digit (n / 262144), digit (n / 4096 % 64), '=', '='] = some [a] := by
  have ha := a.toNat_lt
  have hw : n / 262144 < 64 := by omega
  have hx : n / 4096 % 64 < 64 := Nat.mod_lt _ (by decide)
  have hsum : n / 262144 * 64 + n / 4096 % 64 = n / 4096 := by omega
  have hlast : n / 4096 % 16 = 0 := by omega
  rw [decode, if_pos rfl, if_pos rfl, decodeLast, if_pos rfl, value_digit _ hw, value_digit _ hx]
  simp only [bind, Option.bind, hsum]
  rw [if_pos hlast, ofNat_eq (show n / 4096 / 16 % 256 = a.toNat by omega)]

/-- Three bytes are read back from their four digits, with what follows. -/
theorem decode_three {a b c : UInt8} {n : ℕ} {rest : List Char} {bs : List UInt8}
    (hn : n = a.toNat * 65536 + b.toNat * 256 + c.toNat) (hrest : decode rest = some bs) :
    decode (digit (n / 262144) :: digit (n / 4096 % 64) :: digit (n / 64 % 64) :: digit (n % 64) ::
      rest) = some (a :: b :: c :: bs) := by
  have ha := a.toNat_lt
  have hb := b.toNat_lt
  have hc := c.toNat_lt
  have hw : n / 262144 < 64 := by omega
  have hx : n / 4096 % 64 < 64 := Nat.mod_lt _ (by decide)
  have hy : n / 64 % 64 < 64 := Nat.mod_lt _ (by decide)
  have hz : n % 64 < 64 := Nat.mod_lt _ (by decide)
  have hsum : n / 262144 * 262144 + n / 4096 % 64 * 4096 + n / 64 % 64 * 64 + n % 64 = n := by
    omega
  rw [decode, if_neg (digit_ne _ hz), value_digit _ hw, value_digit _ hx, value_digit _ hy,
    value_digit _ hz, hrest]
  simp only [bind, Option.bind, hsum]
  rw [ofNat_eq (show n / 65536 % 256 = a.toNat by omega),
    ofNat_eq (show n / 256 % 256 = b.toNat by omega),
    ofNat_eq (show n % 256 = c.toNat by omega)]

/-- **What is written is read back.** -/
theorem decode_encode (bs : List UInt8) : decode (encode bs) = some bs := by
  fun_induction encode bs with
  | case1 a b c rest n ih => exact decode_three rfl ih
  | case2 a b n => exact decode_two rfl
  | case3 a n => exact decode_one rfl
  | case4 => rfl

end Base64
