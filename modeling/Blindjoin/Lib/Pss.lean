import Blindjoin.Lib.BlindRsa

/-!
# The PSS encoding

The encoding of messages for RSA signatures that hides the hash of a salted message under
a mask made from it, over an arbitrary hash function. Whoever knows the message takes the
mask off again, finds the salt, and hashes once more.

A string is accepted for a message exactly when it is the encoding of the message under
some salt (`Pss.check_iff`), and its number is small enough for a modulus of the given
number of bits (`Pss.os2ip_encode_lt`). So PSS is an encoding of the signature scheme
(`Pss.encoding`).
-/

namespace Pss

open BlindRsa (Octets os2ip i2osp)

/-- The hash function and the lengths of an encoding. The highest `zeroBits` bits of the
encoded string are zero. -/
structure Params where
  hash : Octets → Octets
  hLen : ℕ
  sLen : ℕ
  emLen : ℕ
  zeroBits : ℕ
  hLen_pos : 0 < hLen
  length_hash : ∀ bs, (hash bs).length = hLen
  fits : hLen + sLen + 2 ≤ emLen
  zeroBits_lt : zeroBits < 8

/-- The octets of two strings, added without carry. -/
def xor (as bs : Octets) : Octets := List.zipWith (· ^^^ ·) as bs

/-- The octet whose highest `k` bits are zero and whose others are one. -/
def lowMask (k : ℕ) : UInt8 := UInt8.ofNat (2 ^ (8 - k) - 1)

/-- A string with its highest `k` bits cleared. -/
def clearTop (k : ℕ) (bs : Octets) : Octets := bs.modifyHead (· &&& lowMask k)

namespace Params

variable (P : Params)

/-- The mask of a seed. -/
def mgf1 (seed : Octets) (len : ℕ) : Octets :=
  ((List.range ((len + P.hLen - 1) / P.hLen)).flatMap fun counter =>
    P.hash (seed ++ i2osp 4 counter)).take len

/-- The octets that are masked. -/
def dbLen : ℕ := P.emLen - P.hLen - 1

/-- The zeros in front of the salt. -/
def padLen : ℕ := P.emLen - P.sLen - P.hLen - 2

/-- The hash of a salted message. -/
def saltedHash (salt msg : Octets) : Octets :=
  P.hash (List.replicate 8 0 ++ P.hash msg ++ salt)

/-- The string that is masked: zeros, a one, the salt. -/
def dataBlock (salt : Octets) : Octets := List.replicate P.padLen 0 ++ 1 :: salt

/-- The encoding of a message under a salt. -/
def encode (salt : List.Vector UInt8 P.sLen) (msg : Octets) : Octets :=
  let h := P.saltedHash salt.toList msg
  clearTop P.zeroBits (xor (P.dataBlock salt.toList) (P.mgf1 h P.dbLen)) ++ h ++ [0xbc]

/-- Whether a string encodes a message. -/
def check (msg em : Octets) : Bool :=
  let maskedDb := em.take P.dbLen
  let h := (em.drop P.dbLen).take P.hLen
  let db := clearTop P.zeroBits (xor maskedDb (P.mgf1 h P.dbLen))
  let salt := db.drop (P.padLen + 1)
  em.length = P.emLen ∧ em.drop (P.dbLen + P.hLen) = [0xbc] ∧
    clearTop P.zeroBits maskedDb = maskedDb ∧
    db.take (P.padLen + 1) = List.replicate P.padLen 0 ++ [1] ∧
    P.saltedHash salt msg = h

end Params

/-! ### Masks -/

section Mask

variable {as bs : Octets} {k : ℕ}

@[simp] theorem length_clearTop : (clearTop k as).length = as.length := List.length_modifyHead

@[simp] theorem length_xor : (xor as bs).length = min as.length bs.length := List.length_zipWith

@[simp] theorem xor_cons (a b : UInt8) (as bs : Octets) :
    xor (a :: as) (b :: bs) = (a ^^^ b) :: xor as bs := rfl

@[simp] theorem clearTop_cons (a : UInt8) (as : Octets) :
    clearTop k (a :: as) = (a &&& lowMask k) :: as := rfl

/-- The value of an octet with its highest bits cleared. -/
theorem toNat_and_lowMask (a : UInt8) : (a &&& lowMask k).toNat = a.toNat % 2 ^ (8 - k) := by
  have hle : 2 ^ (8 - k) ≤ 256 := Nat.pow_le_pow_right Nat.two_pos (Nat.sub_le 8 k)
  have hpos : 0 < 2 ^ (8 - k) := Nat.two_pow_pos _
  have hlt : 2 ^ (8 - k) - 1 < UInt8.size := by
    show 2 ^ (8 - k) - 1 < 256
    omega
  rw [lowMask, UInt8.toNat_and, UInt8.toNat_ofNat_of_lt' hlt, Nat.and_two_pow_sub_one_eq_mod]

/-- Clearing gets in the way of no mask. -/
theorem and_xor_and (a b m : UInt8) : (((a ^^^ b) &&& m) ^^^ b) &&& m = a &&& m := by
  refine UInt8.toBitVec_inj.mp (BitVec.eq_of_getLsbD_eq fun i _ => ?_)
  simp only [UInt8.toBitVec_and, UInt8.toBitVec_xor, BitVec.getLsbD_and, BitVec.getLsbD_xor]
  cases a.toBitVec.getLsbD i <;> cases b.toBitVec.getLsbD i <;> cases m.toBitVec.getLsbD i <;> rfl

/-- A mask is taken off by adding it again. -/
theorem xor_xor (h : as.length ≤ bs.length) : xor (xor as bs) bs = as := by
  induction as generalizing bs with
  | nil => rfl
  | cons a as ih =>
    cases bs with
    | nil => exact absurd h (by simp)
    | cons b bs =>
      rw [xor_cons, xor_cons, ih (by simpa using h), UInt8.xor_assoc, UInt8.xor_self,
        UInt8.xor_zero]

theorem clearTop_clearTop : clearTop k (clearTop k as) = clearTop k as := by
  cases as with
  | nil => rfl
  | cons a as => rw [clearTop_cons, clearTop_cons, UInt8.and_assoc, UInt8.and_self]

/-- **A mask is taken off a string whose highest bits were cleared.** -/
theorem clearTop_xor_clearTop (h : as.length ≤ bs.length) :
    clearTop k (xor (clearTop k (xor as bs)) bs) = clearTop k as := by
  cases as with
  | nil => rfl
  | cons a as =>
    cases bs with
    | nil => exact absurd h (by simp)
    | cons b bs =>
      rw [xor_cons, clearTop_cons, xor_cons, clearTop_cons, clearTop_cons, and_xor_and,
        xor_xor (by simpa using h)]

/-- A string whose highest bits are cleared is small. -/
theorem os2ip_clearTop_lt (h : as ≠ []) (hk : k ≤ 8) :
    os2ip (clearTop k as) < 2 ^ (8 * as.length - k) := by
  cases as with
  | nil => exact absurd rfl h
  | cons a as =>
    have hhead : (a &&& lowMask k).toNat < 2 ^ (8 - k) := by
      rw [toNat_and_lowMask]
      exact Nat.mod_lt _ (Nat.two_pow_pos _)
    have htail : os2ip as < 256 ^ as.length := BlindRsa.os2ip_lt as
    have hsplit : 2 ^ (8 * (a :: as).length - k) = 2 ^ (8 - k) * 256 ^ as.length := by
      have hexp : 8 * (a :: as).length - k = (8 - k) + 8 * as.length := by
        rw [List.length_cons]
        omega
      rw [hexp, pow_add, pow_mul]
      rfl
    rw [clearTop_cons, BlindRsa.os2ip_cons, hsplit]
    calc (a &&& lowMask k).toNat * 256 ^ as.length + os2ip as
        < (a &&& lowMask k).toNat * 256 ^ as.length + 256 ^ as.length := by omega
      _ = ((a &&& lowMask k).toNat + 1) * 256 ^ as.length := by ring
      _ ≤ 2 ^ (8 - k) * 256 ^ as.length := Nat.mul_le_mul_right _ hhead

end Mask

/-! ### The encoding and the check -/

namespace Params

variable {P : Params} {salt : List.Vector UInt8 P.sLen} {msg em : Octets}

theorem length_mgf1 (seed : Octets) (len : ℕ) : (P.mgf1 seed len).length = len := by
  have hblocks : ∀ n, ((List.range n).flatMap fun counter =>
      P.hash (seed ++ i2osp 4 counter)).length = n * P.hLen := by
    intro n
    induction n with
    | zero => exact (Nat.zero_mul _).symm
    | succ n ih =>
      rw [List.range_succ, List.flatMap_append, List.length_append, ih, List.flatMap_singleton,
        P.length_hash, Nat.succ_mul]
  have henough : len ≤ (len + P.hLen - 1) / P.hLen * P.hLen := by
    have hlt := Nat.lt_mul_div_succ (len + P.hLen - 1) P.hLen_pos
    have hpos := P.hLen_pos
    rw [Nat.mul_comm, Nat.succ_mul] at hlt
    omega
  rw [mgf1, List.length_take, hblocks, Nat.min_eq_left henough]

theorem length_saltedHash (salt : Octets) : (P.saltedHash salt msg).length = P.hLen :=
  P.length_hash _

/-- The data block is as long as its mask. -/
theorem length_dataBlock : (P.dataBlock salt.toList).length = P.dbLen := by
  have hfits := P.fits
  rw [dataBlock, List.length_append, List.length_replicate, List.length_cons,
    List.Vector.toList_length, padLen, dbLen]
  omega

/-- The data block starts with a zero octet or with a one, and either is kept when the highest
bits are cleared. -/
theorem clearTop_dataBlock (h : P.zeroBits ≤ 7) :
    clearTop P.zeroBits (P.dataBlock salt.toList) = P.dataBlock salt.toList := by
  have hone : ∀ k ≤ 7, (1 : UInt8) &&& lowMask k = 1 := by decide
  cases hpad : P.padLen with
  | zero => rw [dataBlock, hpad, List.replicate_zero, List.nil_append, clearTop_cons, hone _ h]
  | succ n =>
    rw [dataBlock, hpad, List.replicate_succ, List.cons_append, clearTop_cons, UInt8.zero_and]

/-- What is in front of the hash and the trailer in an encoding. -/
theorem encode_eq (salt : List.Vector UInt8 P.sLen) (msg : Octets) :
    ∃ masked h, P.encode salt msg = masked ++ (h ++ [0xbc]) ∧ masked.length = P.dbLen ∧
      h.length = P.hLen ∧ h = P.saltedHash salt.toList msg ∧
      masked = clearTop P.zeroBits (xor (P.dataBlock salt.toList) (P.mgf1 h P.dbLen)) := by
  refine ⟨_, P.saltedHash salt.toList msg, List.append_assoc _ _ _, ?_, length_saltedHash _, rfl,
    rfl⟩
  rw [length_clearTop, length_xor, length_dataBlock, length_mgf1, Nat.min_self]

@[simp] theorem length_encode : (P.encode salt msg).length = P.emLen := by
  obtain ⟨masked, h, heq, hmasked, hh, -, -⟩ := P.encode_eq salt msg
  have hfits := P.fits
  rw [heq, List.length_append, List.length_append, hmasked, hh, dbLen]
  show P.emLen - P.hLen - 1 + (P.hLen + 1) = P.emLen
  omega

/-- **A string is accepted for a message exactly when it is the message's encoding under some
salt.** -/
theorem check_iff :
    P.check msg em = true ↔ ∃ salt : List.Vector UInt8 P.sLen, em = P.encode salt msg := by
  have hfits := P.fits
  have hzero := P.zeroBits_lt
  have hdb : P.padLen + 1 + P.sLen = P.dbLen := by
    rw [padLen, dbLen]
    omega
  rw [check, decide_eq_true_iff]
  constructor
  · rintro ⟨hlen, htrailer, hclear, hpad, hhash⟩
    set masked := em.take P.dbLen with hmasked
    set h := (em.drop P.dbLen).take P.hLen with hh
    set db := clearTop P.zeroBits (xor masked (P.mgf1 h P.dbLen)) with hdbdef
    have hmaskedLen : masked.length = P.dbLen := by
      rw [hmasked, List.length_take, hlen, dbLen]
      omega
    have hdbLen : db.length = P.dbLen := by
      rw [hdbdef, length_clearTop, length_xor, hmaskedLen, length_mgf1, Nat.min_self]
    obtain ⟨salt, hsalt⟩ : ∃ salt : List.Vector UInt8 P.sLen,
        salt.toList = db.drop (P.padLen + 1) := by
      refine ⟨⟨db.drop (P.padLen + 1), ?_⟩, rfl⟩
      rw [List.length_drop, hdbLen]
      omega
    -- the block that was found is the block of the salt that was read off it
    have hblock : P.dataBlock (db.drop (P.padLen + 1)) = db := by
      rw [dataBlock, ← List.singleton_append, ← List.append_assoc, ← hpad, List.take_append_drop]
    have hsplit : em = masked ++ (h ++ [0xbc]) := by
      rw [← htrailer, hmasked, hh, ← List.drop_drop, List.take_append_drop,
        List.take_append_drop]
    refine ⟨salt, ?_⟩
    rw [hsplit, encode, hsalt, hhash, hblock, List.append_assoc, hdbdef,
      clearTop_xor_clearTop (by rw [hmaskedLen, length_mgf1]), hclear]
  · rintro ⟨salt, rfl⟩
    obtain ⟨masked, h, heq, hmasked, hh, hhash, hmask⟩ := P.encode_eq salt msg
    have htake : (P.encode salt msg).take P.dbLen = masked := by
      rw [heq, ← hmasked, List.take_left]
    have hdrop : (P.encode salt msg).drop P.dbLen = h ++ [0xbc] := by
      rw [heq, ← hmasked, List.drop_left]
    have hbody : ((P.encode salt msg).drop P.dbLen).take P.hLen = h := by
      rw [hdrop, ← hh, List.take_left]
    have hunmask : clearTop P.zeroBits (xor masked (P.mgf1 h P.dbLen))
        = P.dataBlock salt.toList := by
      rw [hmask, clearTop_xor_clearTop (by rw [length_dataBlock, length_mgf1]),
        clearTop_dataBlock (by omega)]
    have hfront : (List.replicate P.padLen (0 : UInt8) ++ [1]).length = P.padLen + 1 := by
      rw [List.length_append, List.length_replicate]
      rfl
    have hshape : P.dataBlock salt.toList
        = (List.replicate P.padLen 0 ++ [1]) ++ salt.toList := by
      rw [List.append_assoc]
      rfl
    rw [htake, hbody, hunmask]
    refine ⟨length_encode, ?_, ?_, ?_, ?_⟩
    · rw [← List.drop_drop, hdrop, ← hh, List.drop_left]
    · rw [hmask, clearTop_clearTop]
    · rw [hshape, ← hfront, List.take_left]
    · rw [hshape, ← hfront, List.drop_left, ← hhash]

/-- The number of an encoding is below the modulus it is for. -/
theorem os2ip_encode_lt : os2ip (P.encode salt msg) < 2 ^ (8 * P.emLen - P.zeroBits) := by
  obtain ⟨masked, h, heq, hmasked, hh, hhash, hmask⟩ := P.encode_eq salt msg
  have hfits := P.fits
  have hzero := P.zeroBits_lt
  have hpos : 0 < P.dbLen := by
    rw [dbLen]
    omega
  have hfront : os2ip masked < 2 ^ (8 * P.dbLen - P.zeroBits) := by
    have hlen : (xor (P.dataBlock salt.toList) (P.mgf1 h P.dbLen)).length = P.dbLen := by
      rw [length_xor, length_dataBlock, length_mgf1, Nat.min_self]
    have hne : xor (P.dataBlock salt.toList) (P.mgf1 h P.dbLen) ≠ [] := by
      rw [← List.length_pos_iff, hlen]
      exact hpos
    have hlt := os2ip_clearTop_lt hne hzero.le
    rwa [← hmask, hlen] at hlt
  have hback : os2ip (h ++ [0xbc]) < 2 ^ (8 * (P.hLen + 1)) := by
    have hlt := BlindRsa.os2ip_lt (h ++ [0xbc])
    rwa [List.length_append, hh, List.length_singleton,
      show (256 : ℕ) = 2 ^ 8 from rfl, ← pow_mul] at hlt
  have hlen : (h ++ [0xbc]).length = P.hLen + 1 := by
    rw [List.length_append, hh, List.length_singleton]
  have hexp : 8 * P.emLen - P.zeroBits = (8 * P.dbLen - P.zeroBits) + 8 * (P.hLen + 1) := by
    rw [dbLen] at hpos ⊢
    omega
  have hbase : (256 : ℕ) ^ (P.hLen + 1) = 2 ^ (8 * (P.hLen + 1)) := (pow_mul 2 8 _).symm
  rw [heq, BlindRsa.os2ip_append, hlen, hexp, pow_add 2 (8 * P.dbLen - P.zeroBits), hbase]
  calc os2ip masked * 2 ^ (8 * (P.hLen + 1)) + os2ip (h ++ [0xbc])
      < os2ip masked * 2 ^ (8 * (P.hLen + 1)) + 2 ^ (8 * (P.hLen + 1)) := by omega
    _ = (os2ip masked + 1) * 2 ^ (8 * (P.hLen + 1)) := by ring
    _ ≤ 2 ^ (8 * P.dbLen - P.zeroBits) * 2 ^ (8 * (P.hLen + 1)) :=
        Nat.mul_le_mul_right _ hfront

/-- PSS as the encoding of a signature scheme whose modulus has room for it. -/
def encoding (P : Params) (pk : BlindRsa.PublicKey)
    (h : 2 ^ (8 * P.emLen - P.zeroBits) ≤ pk.modulus) :
    BlindRsa.Encoding pk (List.Vector UInt8 P.sLen) where
  encode salt msg := os2ip (P.encode salt msg)
  verify msg m := m < 256 ^ P.emLen ∧ P.check msg (i2osp P.emLen m)
  encode_lt _ _ := os2ip_encode_lt.trans_le h
  verify_iff msg m := by
    rw [decide_eq_true_iff]
    constructor
    · rintro ⟨hm, hcheck⟩
      obtain ⟨salt, hsalt⟩ := check_iff.mp hcheck
      exact ⟨salt, by rw [← hsalt, BlindRsa.os2ip_i2osp hm]⟩
    · rintro ⟨salt, rfl⟩
      have hlt := BlindRsa.os2ip_lt (P.encode salt msg)
      have hback := BlindRsa.i2osp_os2ip (P.encode salt msg)
      rw [length_encode] at hlt hback
      exact ⟨hlt, check_iff.mpr ⟨salt, hback⟩⟩

end Params

end Pss
