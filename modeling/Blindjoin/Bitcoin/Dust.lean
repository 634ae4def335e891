import Blindjoin.Bitcoin.Weight

/-!
# Dust

A node with the default settings does not relay a transaction with an output that
is worth less than three times the virtual bytes it takes to create it and to
spend it. These depend on the script of the output
(`Blindjoin.Script.relayDustThreshold`), and range from 294 sats for P2WPKH to 546
for P2PKH (`Blindjoin.Script.relayDustThreshold_le`).
-/

namespace Blindjoin.Script

/-- `Script::is_p2pkh`: `OP_DUP OP_HASH160 OP_PUSHBYTES_20 <20 bytes> OP_EQUALVERIFY
OP_CHECKSIG`. -/
def isP2pkh (s : Script) : Bool :=
  s.length == 25 && s[0]? == some 0x76 && s[1]? == some 0xa9 && s[2]? == some 0x14 &&
    s[23]? == some 0x88 && s[24]? == some 0xac

/-- `Script::is_p2wsh`: `OP_0 OP_PUSHBYTES_32 <32 bytes>`. -/
def isP2wsh (s : Script) : Bool := s.length == 34 && s[0]? == some 0x00 && s[1]? == some 0x20

/-- `Script::is_witness_program`: a version and one push of two to forty bytes. -/
def isWitnessProgram (s : Script) : Bool :=
  match s with
  | version :: push :: program =>
    (version == 0x00 || (0x51 ≤ version.toNat && version.toNat ≤ 0x60)) &&
      (2 ≤ program.length && program.length ≤ 40) && push.toNat == program.length
  | _ => false

/-- The virtual bytes of the smallest input that spends an output with this script,
as the relay rule counts them. -/
def spendVbytes (s : Script) : ℕ := if s.isWitnessProgram then 67 else 148

/-- The value below which an output with this script is not relayed. -/
def relayDustThreshold (s : Script) : ℕ := 3 * (TxOut.size ⟨0, s⟩ + spendVbytes s)

/-- A script of an address: a hash of a key or of a script, or a witness program. -/
def IsAddressScript (s : Script) : Prop :=
  s.isP2pkh = true ∨ s.isP2sh = true ∨ s.isWitnessProgram = true

instance (s : Script) : Decidable s.IsAddressScript := inferInstanceAs (Decidable (_ ∨ _))

variable {s : Script}

/-- A script of fewer than 253 bytes has a count of one byte. -/
theorem relayDustThreshold_eq (h : s.length < 253) :
    relayDustThreshold s = 3 * (9 + s.length + spendVbytes s) := by
  have hcount : compactSize s.length = 1 := if_pos h
  have hsize : TxOut.size ⟨0, s⟩ = 8 + (compactSize s.length + s.length) := rfl
  rw [relayDustThreshold, hsize, hcount]
  omega

theorem isWitnessProgram_of_length {version push : UInt8} {program : Bytes}
    (hversion : version = 0x00 ∨ (0x51 ≤ version.toNat ∧ version.toNat ≤ 0x60))
    (hlen : 2 ≤ program.length ∧ program.length ≤ 40) (hpush : push.toNat = program.length) :
    isWitnessProgram (version :: push :: program) = true := by
  simp only [isWitnessProgram, Bool.and_eq_true, Bool.or_eq_true, beq_iff_eq, decide_eq_true_eq]
  exact ⟨⟨hversion, hlen⟩, hpush⟩

/-- A witness program of a version and a length. -/
theorem isWitnessProgram_of_getElem {version push : UInt8} {n : ℕ} (hlen : s.length = n + 2)
    (h0 : s[0]? = some version) (h1 : s[1]? = some push)
    (hversion : version = 0x00 ∨ (0x51 ≤ version.toNat ∧ version.toNat ≤ 0x60))
    (hn : 2 ≤ n ∧ n ≤ 40) (hpush : push.toNat = n) : s.isWitnessProgram = true := by
  obtain ⟨a, b, program, rfl⟩ : ∃ a b program, s = a :: b :: program := by
    match s, hlen with
    | a :: b :: program, _ => exact ⟨a, b, program, rfl⟩
  obtain rfl := Option.some.inj h0
  obtain rfl := Option.some.inj h1
  simp only [List.length_cons] at hlen
  obtain rfl : program.length = n := by omega
  exact isWitnessProgram_of_length hversion hn hpush

/-- A script that starts with an operation other than a version is no witness
program. -/
theorem isWitnessProgram_eq_false {version : UInt8} (h0 : s[0]? = some version)
    (hne : version ≠ 0x00) (hout : ¬(0x51 ≤ version.toNat ∧ version.toNat ≤ 0x60)) :
    s.isWitnessProgram = false := by
  match s with
  | [] => rfl
  | [_] => rfl
  | a :: b :: program =>
    obtain rfl := Option.some.inj h0
    rw [isWitnessProgram, ← Bool.not_eq_true]
    simp only [Bool.and_eq_true, Bool.or_eq_true, beq_iff_eq, decide_eq_true_eq]
    rintro ⟨⟨hversion | hversion, -⟩, -⟩
    · exact hne hversion
    · exact hout hversion

theorem relayDustThreshold_p2pkh (h : s.isP2pkh = true) : relayDustThreshold s = 546 := by
  simp only [isP2pkh, Bool.and_eq_true, beq_iff_eq] at h
  have hspend : spendVbytes s = 148 := by
    rw [spendVbytes, isWitnessProgram_eq_false h.1.1.1.1.2 (by decide) (by decide)]
    rfl
  rw [relayDustThreshold_eq (by omega), hspend]
  omega

theorem relayDustThreshold_p2sh (h : s.isP2sh = true) : relayDustThreshold s = 540 := by
  simp only [isP2sh, Bool.and_eq_true, beq_iff_eq] at h
  have hspend : spendVbytes s = 148 := by
    rw [spendVbytes, isWitnessProgram_eq_false h.1.1.2 (by decide) (by decide)]
    rfl
  rw [relayDustThreshold_eq (by omega), hspend]
  omega

theorem relayDustThreshold_p2wpkh (h : s.isP2wpkh = true) : relayDustThreshold s = 294 := by
  simp only [isP2wpkh, Bool.and_eq_true, beq_iff_eq] at h
  have hspend : spendVbytes s = 67 := if_pos
    (isWitnessProgram_of_getElem (n := 20) h.1.1 h.1.2 h.2 (.inl rfl) (by omega) rfl)
  rw [relayDustThreshold_eq (by omega), hspend]
  omega

theorem relayDustThreshold_p2wsh (h : s.isP2wsh = true) : relayDustThreshold s = 330 := by
  simp only [isP2wsh, Bool.and_eq_true, beq_iff_eq] at h
  have hspend : spendVbytes s = 67 := if_pos
    (isWitnessProgram_of_getElem (n := 32) h.1.1 h.1.2 h.2 (.inl rfl) (by omega) rfl)
  rw [relayDustThreshold_eq (by omega), hspend]
  omega

theorem relayDustThreshold_p2tr (h : s.isP2tr = true) : relayDustThreshold s = 330 := by
  simp only [isP2tr, Bool.and_eq_true, beq_iff_eq] at h
  have hspend : spendVbytes s = 67 := if_pos
    (isWitnessProgram_of_getElem (n := 32) h.1.1 h.1.2 h.2 (.inr (by decide)) (by omega) rfl)
  rw [relayDustThreshold_eq (by omega), hspend]
  omega

/-- **No script of an address has a threshold above that of P2PKH.** -/
theorem relayDustThreshold_le (h : s.IsAddressScript) : relayDustThreshold s ≤ 546 := by
  rcases h with hp2pkh | hp2sh | hprogram
  · exact (relayDustThreshold_p2pkh hp2pkh).le
  · rw [relayDustThreshold_p2sh hp2sh]
    omega
  · have hspend : spendVbytes s = 67 := if_pos hprogram
    match s, hprogram, hspend with
    | version :: push :: program, hprogram, hspend =>
      simp only [isWitnessProgram, Bool.and_eq_true, decide_eq_true_eq] at hprogram
      have hlen : (version :: push :: program).length = program.length + 2 := rfl
      rw [relayDustThreshold_eq (by omega), hspend, hlen]
      omega

end Blindjoin.Script
