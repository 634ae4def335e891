import Mathlib.FieldTheory.Finite.Basic
import Mathlib.Data.Nat.Digits.Defs
import Mathlib.Data.Nat.Digits.Lemmas
import Mathlib.Data.Nat.ChineseRemainder
import Mathlib.NumberTheory.LucasPrimality

/-!
# Blind RSA signatures

The RSA blind signature scheme over an arbitrary message encoding. A signer holds
the factors of a modulus. A requester hides the encoding of a message behind a
random factor, the signer raises what it gets to its secret exponent, and the
requester divides the factor out again.

The scheme is correct: what a requester unblinds from the answer of the signer is
the signature of its message, and it does not depend on the factor
(`BlindRsa.finalize_sign`). It is **perfectly blind**: whatever the signer
was asked to sign, for every other message there is a factor under which it would
have been asked exactly the same (`BlindRsa.exists_reblind`).
-/

namespace BlindRsa

/-- A string of octets. -/
abbrev Octets := List UInt8

/-! ### Octets and integers -/

/-- The integer of a string of octets, the first the most significant. -/
def os2ip (bs : Octets) : ℕ := Nat.ofDigits 256 (bs.reverse.map UInt8.toNat)

theorem os2ip_cons (b : UInt8) (bs : Octets) :
    os2ip (b :: bs) = b.toNat * 256 ^ bs.length + os2ip bs := by
  rw [os2ip, List.reverse_cons, List.map_append, Nat.ofDigits_append, List.length_map,
    List.length_reverse, List.map_singleton, Nat.ofDigits_singleton, os2ip, Nat.mul_comm,
    Nat.add_comm]

theorem os2ip_append (as bs : Octets) :
    os2ip (as ++ bs) = os2ip as * 256 ^ bs.length + os2ip bs := by
  rw [os2ip, List.reverse_append, List.map_append, Nat.ofDigits_append, List.length_map,
    List.length_reverse, os2ip, os2ip, Nat.mul_comm, Nat.add_comm]

/-- The string of `len` octets of an integer. -/
def i2osp : ℕ → ℕ → Octets
  | 0, _ => []
  | len + 1, n => i2osp len (n / 256) ++ [UInt8.ofNat n]

@[simp] theorem length_i2osp (len n : ℕ) : (i2osp len n).length = len := by
  induction len generalizing n with
  | zero => rfl
  | succ len ih => rw [i2osp, List.length_append, ih, List.length_singleton]

/-- Integers that fit are read back. -/
theorem os2ip_i2osp {len n : ℕ} (h : n < 256 ^ len) : os2ip (i2osp len n) = n := by
  induction len generalizing n with
  | zero =>
    rw [pow_zero, Nat.lt_one_iff] at h
    exact h.symm
  | succ len ih =>
    have hrest : os2ip (i2osp len (n / 256)) = n / 256 := by
      refine ih (Nat.div_lt_of_lt_mul ?_)
      rwa [pow_succ, Nat.mul_comm] at h
    have hlow : (UInt8.ofNat n).toNat = n % 256 := UInt8.toNat_ofNat'
    rw [os2ip, i2osp, List.reverse_append, List.reverse_singleton, List.singleton_append,
      List.map_cons, Nat.ofDigits_cons, hlow]
    have hdigits : Nat.ofDigits 256 ((i2osp len (n / 256)).reverse.map UInt8.toNat) = n / 256 :=
      hrest
    rw [hdigits]
    exact Nat.mod_add_div n 256

/-- The integer of a string fits in its length. -/
theorem os2ip_lt (bs : Octets) : os2ip bs < 256 ^ bs.length := by
  have h : os2ip bs < 256 ^ (bs.reverse.map UInt8.toNat).length := by
    refine Nat.ofDigits_lt_base_pow_length (by norm_num) fun d hd => ?_
    obtain ⟨b, -, rfl⟩ := List.mem_map.mp hd
    exact b.toNat_lt
  rwa [List.length_map, List.length_reverse] at h

/-- Strings of one length are told apart by their integers. -/
theorem os2ip_inj {bs bs' : Octets} (hlen : bs.length = bs'.length) (h : os2ip bs = os2ip bs') :
    bs = bs' := by
  have hsmall : ∀ cs : Octets, ∀ d ∈ cs.reverse.map UInt8.toNat, d < 256 := by
    intro cs d hd
    obtain ⟨b, -, rfl⟩ := List.mem_map.mp hd
    exact b.toNat_lt
  have hdigits : bs.reverse.map UInt8.toNat = bs'.reverse.map UInt8.toNat :=
    Nat.ofDigits_inj_of_len_eq (by norm_num) (by simpa using hlen) (hsmall bs) (hsmall bs') h
  have hinj : Function.Injective UInt8.toNat := fun a b => UInt8.toNat_inj.mp
  exact List.reverse_injective (List.map_injective_iff.mpr hinj hdigits)

/-- A string is written back. -/
theorem i2osp_os2ip (bs : Octets) : i2osp bs.length (os2ip bs) = bs :=
  os2ip_inj (length_i2osp _ _) (os2ip_i2osp (os2ip_lt bs))

/-! ### Powers modulo a number -/

/-- The power `x ^ e` modulo `n` by squaring, for an exponent of at most `k` bits. -/
def powModBits (x n : ℕ) : ℕ → ℕ → ℕ
  | 0, _ => 1 % n
  | k + 1, e =>
    if e % 2 = 1 then powModBits x n k (e / 2) ^ 2 % n * x % n
    else powModBits x n k (e / 2) ^ 2 % n

/-- The power `x ^ e` modulo `n`. -/
def powMod (x e n : ℕ) : ℕ := powModBits x n (Nat.log2 e + 1) e

theorem powModBits_eq {k e : ℕ} (x n : ℕ) (h : e < 2 ^ k) : powModBits x n k e = x ^ e % n := by
  induction k generalizing e with
  | zero =>
    rw [pow_zero, Nat.lt_one_iff] at h
    rw [powModBits, h, pow_zero]
  | succ k ih =>
    have hhalf : powModBits x n k (e / 2) = x ^ (e / 2) % n := ih (by omega)
    have hsquare : powModBits x n k (e / 2) ^ 2 % n = x ^ (e / 2 * 2) % n := by
      rw [hhalf, ← Nat.pow_mod, pow_mul]
    rw [powModBits, hsquare]
    split
    next hodd =>
      have he : e / 2 * 2 + 1 = e := by omega
      rw [Nat.mod_mul_mod, ← pow_succ, he]
    next heven =>
      have he : e / 2 * 2 = e := by omega
      rw [he]

theorem powMod_eq (x e n : ℕ) : powMod x e n = x ^ e % n := powModBits_eq x n Nat.lt_log2_self

/-! ### Primes whose predecessor is smooth -/

/-- **Lucas' test**: a number is prime if the prime factors of the number before it take no
part of the order of some base away. -/
theorem prime_of_powMod {m a : ℕ} (hm : 0 < m) (factors : List ℕ)
    (hfactors : ∀ r : ℕ, r.Prime → r ∣ m → r ∈ factors) (hone : powMod a m (m + 1) = 1)
    (hne : ∀ r ∈ factors, powMod a (m / r) (m + 1) ≠ 1) : (m + 1).Prime := by
  have hcast : ∀ e, (a : ZMod (m + 1)) ^ e = 1 ↔ powMod a e (m + 1) = 1 := by
    intro e
    have hlt : 1 < m + 1 := Nat.succ_lt_succ hm
    rw [powMod_eq, ← Nat.cast_pow, ← Nat.cast_one (R := ZMod (m + 1)),
      ZMod.natCast_eq_natCast_iff', Nat.mod_eq_of_lt hlt]
  refine lucas_primality (m + 1) a ((hcast _).mpr hone) fun r hr hdvd hpow => ?_
  exact hne r (hfactors r hr hdvd) ((hcast _).mp hpow)

/-- A number whose prime factors are two, three and five. -/
def smooth (i j k : ℕ) : ℕ := 2 ^ i * 3 ^ j * 5 ^ k

theorem smooth_pos (i j k : ℕ) : 0 < smooth i j k := by
  rw [smooth]
  positivity

/-- The successor of a smooth number is prime if some base is a generator. -/
theorem prime_of_smooth {i j k a : ℕ} (hone : powMod a (smooth i j k) (smooth i j k + 1) = 1)
    (hne : ∀ r ∈ [2, 3, 5], powMod a (smooth i j k / r) (smooth i j k + 1) ≠ 1) :
    (smooth i j k + 1).Prime := by
  refine prime_of_powMod (smooth_pos i j k) [2, 3, 5] (fun r hr hdvd => ?_) hone hne
  have hpow : ∀ {b n : ℕ}, b.Prime → r ∣ b ^ n → r = b := fun hb hdvd =>
    (Nat.prime_dvd_prime_iff_eq hr hb).mp (hr.dvd_of_dvd_pow hdvd)
  rcases hr.dvd_mul.mp hdvd with hdvd | hdvd
  · rcases hr.dvd_mul.mp hdvd with hdvd | hdvd
    · rw [hpow Nat.prime_two hdvd]
      exact List.mem_cons_self
    · rw [hpow Nat.prime_three hdvd]
      exact List.mem_cons_of_mem _ List.mem_cons_self
  · rw [hpow Nat.prime_five hdvd]
    exact List.mem_cons_of_mem _ (List.mem_cons_of_mem _ List.mem_cons_self)

/-! ### Keys -/

/-- An RSA public key. -/
structure PublicKey where
  modulus : ℕ
  exponent : ℕ
  /-- The octets of a number below the modulus. -/
  size : ℕ
  one_lt : 1 < modulus
  le : modulus ≤ 256 ^ size

namespace PublicKey

variable (pk : PublicKey)

instance : NeZero pk.modulus := ⟨(Nat.zero_lt_of_lt pk.one_lt).ne'⟩

/-- The public operation. -/
def raise (x : ℕ) : ℕ := powMod x pk.exponent pk.modulus

theorem raise_eq (x : ℕ) : pk.raise x = x ^ pk.exponent % pk.modulus := powMod_eq _ _ _

theorem raise_lt (x : ℕ) : pk.raise x < pk.modulus := by
  rw [raise_eq]
  exact Nat.mod_lt _ (Nat.zero_lt_of_lt pk.one_lt)

@[simp] theorem raise_cast (x : ℕ) :
    (pk.raise x : ZMod pk.modulus) = (x : ZMod pk.modulus) ^ pk.exponent := by
  rw [raise_eq, ZMod.natCast_mod, Nat.cast_pow]

/-- The inverse of a number modulo the modulus. -/
def inv (x : ℕ) : ℕ := ((x : ZMod pk.modulus)⁻¹).val

@[simp] theorem inv_cast (x : ℕ) : (pk.inv x : ZMod pk.modulus) = (x : ZMod pk.modulus)⁻¹ :=
  ZMod.natCast_zmod_val _

variable {pk}

/-- Remainders are equal if they are in the ring of remainders. -/
theorem eq_of_cast {x y : ℕ} (hx : x < pk.modulus) (hy : y < pk.modulus)
    (h : (x : ZMod pk.modulus) = (y : ZMod pk.modulus)) : x = y := by
  rw [ZMod.natCast_eq_natCast_iff'] at h
  rwa [Nat.mod_eq_of_lt hx, Nat.mod_eq_of_lt hy] at h

end PublicKey

/-- An RSA secret key: the factors of the modulus, and an exponent that undoes the
public one. -/
structure SecretKey extends PublicKey where
  p : ℕ
  q : ℕ
  secret : ℕ
  prime_p : p.Prime
  prime_q : q.Prime
  ne : p ≠ q
  modulus_eq : modulus = p * q
  inverse_p : exponent * secret ≡ 1 [MOD p - 1]
  inverse_q : exponent * secret ≡ 1 [MOD q - 1]

/-- Fermat's little theorem, for a positive exponent that is one modulo `p - 1`. -/
theorem pow_modEq_self {p m : ℕ} (hp : p.Prime) (hm : 0 < m) (h : m ≡ 1 [MOD p - 1]) (x : ℕ) :
    x ^ m ≡ x [MOD p] := by
  have : Fact p.Prime := ⟨hp⟩
  obtain ⟨k, hk⟩ := (Nat.modEq_iff_dvd' hm).mp h.symm
  have hsplit : m = (p - 1) * k + 1 := by omega
  rw [← ZMod.natCast_eq_natCast_iff, Nat.cast_pow]
  by_cases hx : (x : ZMod p) = 0
  · rw [hx, zero_pow hm.ne']
  · rw [hsplit, pow_succ, pow_mul, ZMod.pow_card_sub_one_eq_one hx, one_pow, one_mul]

namespace SecretKey

variable (sk : SecretKey)

/-- The secret operation. -/
def lower (x : ℕ) : ℕ := powMod x sk.secret sk.modulus

theorem lower_eq (x : ℕ) : sk.lower x = x ^ sk.secret % sk.modulus := powMod_eq _ _ _

theorem lower_lt (x : ℕ) : sk.lower x < sk.modulus := by
  rw [lower_eq]
  exact Nat.mod_lt _ (Nat.zero_lt_of_lt sk.one_lt)

@[simp] theorem lower_cast (x : ℕ) :
    (sk.lower x : ZMod sk.modulus) = (x : ZMod sk.modulus) ^ sk.secret := by
  rw [lower_eq, ZMod.natCast_mod, Nat.cast_pow]

/-- The exponents are positive: one of the factors is odd. -/
theorem exponents_pos : 0 < sk.exponent * sk.secret := by
  refine Nat.pos_of_ne_zero fun hzero => sk.ne ?_
  have htwo : ∀ r : ℕ, r.Prime → 0 ≡ 1 [MOD r - 1] → r = 2 := by
    intro r hr h
    have hdvd : r - 1 ∣ 1 := (Nat.modEq_iff_dvd' (Nat.zero_le 1)).mp h
    have := Nat.le_of_dvd Nat.one_pos hdvd
    have := hr.two_le
    omega
  rw [htwo sk.p sk.prime_p (hzero ▸ sk.inverse_p), htwo sk.q sk.prime_q (hzero ▸ sk.inverse_q)]

/-- **The exponents undo each other**, on every number. -/
theorem pow_pow (x : ZMod sk.modulus) : x ^ (sk.exponent * sk.secret) = x := by
  have hcoprime : sk.p.Coprime sk.q := (Nat.coprime_primes sk.prime_p sk.prime_q).mpr sk.ne
  have hmod : ∀ n : ℕ, n ^ (sk.exponent * sk.secret) ≡ n [MOD sk.modulus] := by
    intro n
    rw [sk.modulus_eq]
    exact (Nat.modEq_and_modEq_iff_modEq_mul hcoprime).mp
      ⟨pow_modEq_self sk.prime_p sk.exponents_pos sk.inverse_p _,
        pow_modEq_self sk.prime_q sk.exponents_pos sk.inverse_q _⟩
  have hcast := (ZMod.natCast_eq_natCast_iff _ _ _).mpr (hmod x.val)
  rwa [Nat.cast_pow, ZMod.natCast_zmod_val] at hcast

/-- A number is recovered from its secret power. -/
theorem raise_lower {x : ℕ} (h : x < sk.modulus) : sk.raise (sk.lower x) = x := by
  refine PublicKey.eq_of_cast (sk.raise_lt _) h ?_
  rw [PublicKey.raise_cast, lower_cast, ← pow_mul, Nat.mul_comm, pow_pow]

end SecretKey

/-! ### Messages -/

/-- An encoding of messages as numbers below the modulus of a key, under a salt, and
the check that a number is an encoding of a message. -/
structure Encoding (pk : PublicKey) (S : Type) where
  encode : S → Octets → ℕ
  verify : Octets → ℕ → Bool
  encode_lt : ∀ salt msg, encode salt msg < pk.modulus
  verify_iff : ∀ msg m, verify msg m = true ↔ ∃ salt, m = encode salt msg

section Scheme

variable {S : Type} (pk : PublicKey) (sk : SecretKey) (enc : Encoding pk S)

/-- What a requester asks the signer to sign, and what it keeps: the inverse of the
factor. A factor or an encoding that shares a divisor with the modulus is refused. -/
def blind (salt : S) (factor : ℕ) (msg : Octets) : Option (Octets × ℕ) :=
  if (enc.encode salt msg).Coprime pk.modulus ∧ factor.Coprime pk.modulus then
    some (i2osp pk.size (enc.encode salt msg * pk.raise factor % pk.modulus), pk.inv factor)
  else none

/-- What the signer answers. The result is checked with the public key. -/
def blindSign (blinded : Octets) : Option Octets :=
  if blinded.length = sk.size ∧ os2ip blinded < sk.modulus ∧
      sk.raise (sk.lower (os2ip blinded)) = os2ip blinded then
    some (i2osp sk.size (sk.lower (os2ip blinded)))
  else none

/-- Whether a signature is one of a message. -/
def verify (msg sig : Octets) : Bool :=
  sig.length = pk.size ∧ os2ip sig < pk.modulus ∧ enc.verify msg (pk.raise (os2ip sig)) = true

/-- What a requester makes of the answer. The signature is checked. -/
def finalize (blindSig : Octets) (inverse : ℕ) (msg : Octets) : Option Octets :=
  if blindSig.length = pk.size ∧
      verify pk enc msg (i2osp pk.size (os2ip blindSig * inverse % pk.modulus)) = true then
    some (i2osp pk.size (os2ip blindSig * inverse % pk.modulus))
  else none

variable {pk enc}

/-- What is unblinded was checked. -/
theorem verify_of_finalize {blindSig msg sig : Octets} {inverse : ℕ}
    (h : finalize pk enc blindSig inverse msg = some sig) : verify pk enc msg sig = true := by
  rw [finalize] at h
  split at h
  · next hcheck =>
    obtain rfl := Option.some.inj h
    exact hcheck.2
  · exact absurd h (by simp)

end Scheme

/-- The signature of a message under a salt. -/
def signature {S : Type} (sk : SecretKey) (enc : Encoding sk.toPublicKey S) (salt : S)
    (msg : Octets) : Octets :=
  i2osp sk.size (sk.lower (enc.encode salt msg))

section Correctness

variable {S : Type} {sk : SecretKey} {enc : Encoding sk.toPublicKey S} {salt salt' : S}
  {factor inverse : ℕ} {msg msg' blinded : Octets}

theorem blind_eq_some : blind sk.toPublicKey enc salt factor msg = some (blinded, inverse) ↔
    (enc.encode salt msg).Coprime sk.modulus ∧ factor.Coprime sk.modulus ∧
      blinded = i2osp sk.size (enc.encode salt msg * sk.raise factor % sk.modulus) ∧
      inverse = sk.inv factor := by
  rw [blind]
  split
  next h =>
    rw [Option.some.injEq, Prod.mk.injEq]
    constructor
    · rintro ⟨rfl, rfl⟩
      exact ⟨h.1, h.2, rfl, rfl⟩
    · rintro ⟨-, -, rfl, rfl⟩
      exact ⟨rfl, rfl⟩
  next h => exact ⟨fun heq => absurd heq (by simp), fun hr => absurd ⟨hr.1, hr.2.1⟩ h⟩

/-- The signer signs every number below the modulus. -/
theorem blindSign_i2osp {m : ℕ} (h : m < sk.modulus) :
    blindSign sk (i2osp sk.size m) = some (i2osp sk.size (sk.lower m)) := by
  have hread : os2ip (i2osp sk.size m) = m := os2ip_i2osp (h.trans_le sk.le)
  rw [blindSign, hread, if_pos ⟨length_i2osp _ _, h, sk.raise_lower h⟩]

/-- The signature of a message is accepted. -/
theorem verify_signature : verify sk.toPublicKey enc msg (signature sk enc salt msg) = true := by
  have hread : os2ip (signature sk enc salt msg) = sk.lower (enc.encode salt msg) :=
    os2ip_i2osp ((sk.lower_lt _).trans_le sk.le)
  rw [verify, hread, sk.raise_lower (enc.encode_lt salt msg), decide_eq_true_iff]
  exact ⟨length_i2osp _ _, sk.lower_lt _, (enc.verify_iff _ _).mpr ⟨salt, rfl⟩⟩

/-- **Correctness**: the signer signs what a requester asks it to, and the requester
unblinds the signature of its message, whatever the factor was. -/
theorem finalize_sign
    (h : blind sk.toPublicKey enc salt factor msg = some (blinded, inverse)) :
    ∃ blindSig, blindSign sk blinded = some blindSig ∧
      finalize sk.toPublicKey enc blindSig inverse msg = some (signature sk enc salt msg) := by
  obtain ⟨-, hfactor, rfl, rfl⟩ := blind_eq_some.mp h
  have hlt : enc.encode salt msg * sk.raise factor % sk.modulus < sk.modulus :=
    Nat.mod_lt _ (Nat.zero_lt_of_lt sk.one_lt)
  refine ⟨_, blindSign_i2osp hlt, ?_⟩
  generalize hm : enc.encode salt msg * sk.raise factor % sk.modulus = m
  have hread : os2ip (i2osp sk.size (sk.lower m)) = sk.lower m :=
    os2ip_i2osp ((sk.lower_lt _).trans_le sk.le)
  -- the factor comes back out
  have hunblind : sk.lower m * sk.inv factor % sk.modulus = sk.lower (enc.encode salt msg) := by
    refine PublicKey.eq_of_cast (Nat.mod_lt _ (Nat.zero_lt_of_lt sk.one_lt)) (sk.lower_lt _) ?_
    have hinv : (factor : ZMod sk.modulus) * (factor : ZMod sk.modulus)⁻¹ = 1 :=
      ZMod.coe_mul_inv_eq_one factor hfactor
    rw [ZMod.natCast_mod, Nat.cast_mul, SecretKey.lower_cast, SecretKey.lower_cast,
      PublicKey.inv_cast, ← hm, ZMod.natCast_mod, Nat.cast_mul, PublicKey.raise_cast, mul_pow,
      ← pow_mul, sk.pow_pow, mul_assoc, hinv, mul_one]
  rw [finalize, hread, hunblind, if_pos ⟨length_i2osp _ _, verify_signature⟩]
  rfl

/-- **Blindness**: whatever the signer was asked to sign, for every message there is a
factor under which it is asked the same. -/
theorem exists_reblind (h : blind sk.toPublicKey enc salt factor msg = some (blinded, inverse))
    (hmsg' : (enc.encode salt' msg').Coprime sk.modulus) :
    ∃ factor' inverse', factor' < sk.modulus ∧
      blind sk.toPublicKey enc salt' factor' msg' = some (blinded, inverse') := by
  obtain ⟨hmsg, hfactor, rfl, rfl⟩ := blind_eq_some.mp h
  let u := ZMod.unitOfCoprime _ hmsg
  let u' := ZMod.unitOfCoprime _ hmsg'
  let r := ZMod.unitOfCoprime _ hfactor
  -- the secret exponent makes the quotient of the encodings a power
  let r' : (ZMod sk.modulus)ˣ := r * (u * u'⁻¹) ^ sk.secret
  have hr' : ((r' : ZMod sk.modulus).val : ZMod sk.modulus) = r' := ZMod.natCast_zmod_val _
  have hcoprime : (r' : ZMod sk.modulus).val.Coprime sk.modulus := ZMod.val_coe_unit_coprime r'
  have hpow : (u * u'⁻¹) ^ (sk.exponent * sk.secret) = u * u'⁻¹ := Units.ext (by
    rw [Units.val_pow_eq_pow_val, sk.pow_pow])
  have hquotient : u' * r' ^ sk.exponent = u * r ^ sk.exponent := by
    calc u' * r' ^ sk.exponent
        = u' * (r ^ sk.exponent * (u * u'⁻¹) ^ (sk.exponent * sk.secret)) := by
          rw [mul_pow, ← pow_mul, Nat.mul_comm]
      _ = u * r ^ sk.exponent := by
          rw [hpow, mul_left_comm, mul_left_comm u' u, mul_inv_cancel, mul_one, mul_comm]
  refine ⟨_, _, ZMod.val_lt (r' : ZMod sk.modulus), blind_eq_some.mpr ⟨hmsg', hcoprime, ?_, rfl⟩⟩
  congr 1
  refine PublicKey.eq_of_cast (Nat.mod_lt _ (Nat.zero_lt_of_lt sk.one_lt))
    (Nat.mod_lt _ (Nat.zero_lt_of_lt sk.one_lt)) ?_
  rw [ZMod.natCast_mod, ZMod.natCast_mod, Nat.cast_mul, Nat.cast_mul, PublicKey.raise_cast,
    PublicKey.raise_cast, hr']
  exact (congrArg Units.val hquotient).symm

/-- Two factors below the modulus that hide an encoding as the same are the same. -/
theorem factor_inj {factor' inverse' : ℕ} (hlt : factor < sk.modulus) (hlt' : factor' < sk.modulus)
    (h : blind sk.toPublicKey enc salt factor msg = some (blinded, inverse))
    (h' : blind sk.toPublicKey enc salt factor' msg = some (blinded, inverse')) :
    factor = factor' := by
  obtain ⟨hmsg, -, hblinded, -⟩ := blind_eq_some.mp h
  obtain ⟨-, -, hblinded', -⟩ := blind_eq_some.mp h'
  have hpos : 0 < sk.modulus := Nat.zero_lt_of_lt sk.one_lt
  have hproduct := congrArg os2ip (hblinded.symm.trans hblinded')
  rw [os2ip_i2osp ((Nat.mod_lt _ hpos).trans_le sk.le),
    os2ip_i2osp ((Nat.mod_lt _ hpos).trans_le sk.le)] at hproduct
  -- the encoding is a unit, so the public powers are the same, and the secret exponent undoes them
  have hcast := congrArg (Nat.cast : ℕ → ZMod sk.modulus) hproduct
  rw [ZMod.natCast_mod, ZMod.natCast_mod, Nat.cast_mul, Nat.cast_mul, PublicKey.raise_cast,
    PublicKey.raise_cast] at hcast
  have hpowers : (factor : ZMod sk.modulus) ^ sk.exponent =
      (factor' : ZMod sk.modulus) ^ sk.exponent :=
    ((ZMod.isUnit_iff_coprime _ _).mpr hmsg).mul_left_cancel hcast
  refine PublicKey.eq_of_cast hlt hlt' ?_
  rw [← sk.pow_pow factor, ← sk.pow_pow factor', pow_mul, pow_mul, hpowers]

end Correctness

end BlindRsa
