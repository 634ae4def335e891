import Blindjoin.Client.Safety
import Blindjoin.Lib.Distinct

/-!
# What the anonymity floor counts

The floor is the number of participants a client wants to hide among, so what it
should count is recipients: different scripts that are paid the denomination, ours
among them and our change script not (`Blindjoin.HidesAmong`). What
`Blindjoin.verifyAnonymityFloor` counts is outputs. The two differ by the outputs
that bring no new recipient (`Blindjoin.idleOutputs`), and the client is hidden among
as many as it asked for exactly when the transaction has that many denomination
outputs to spare (`Blindjoin.hidesAmong_iff`).
-/

namespace Blindjoin

/-! ### Recipients -/

/-- The scripts that are paid the denomination, one for each output that pays it. -/
def denominationScripts (psbt : Psbt) (denominationSats : ℕ) : List Script :=
  (psbt.unsignedTx.output.filter fun o => o.value = denominationSats).map TxOut.scriptPubkey

/-- A script that may count as a recipient: ours, or one that is not our change. -/
def MayCount (ourScript changeScript s : Script) : Prop :=
  changeScript ≠ ourScript → s ≠ changeScript

instance (ourScript changeScript : Script) : DecidablePred (MayCount ourScript changeScript) :=
  fun s => inferInstanceAs (Decidable (changeScript ≠ ourScript → s ≠ changeScript))

/-- The client hides among `k` recipients: the transaction pays the denomination to
that many different scripts, ours among them, and our change script not, unless it is
ours as well. -/
def HidesAmong (psbt : Psbt) (ourScript changeScript : Script) (denominationSats k : ℕ) : Prop :=
  ∃ recipients : Finset Script, k ≤ recipients.card ∧
    (∀ s ∈ recipients, ⟨denominationSats, s⟩ ∈ psbt.unsignedTx.output) ∧
    ourScript ∈ recipients ∧ (changeScript ≠ ourScript → changeScript ∉ recipients)

/-- The denomination outputs that bring no new recipient: a later one pays the same
script, or they pay our change. -/
def idleOutputs (psbt : Psbt) (ourScript changeScript : Script) (denominationSats : ℕ) : ℕ :=
  Distinct.idle (MayCount ourScript changeScript) (denominationScripts psbt denominationSats)

section Floor

variable {psbt : Psbt} {ourScript changeScript s : Script} {denominationSats k : ℕ} {u v : Unit}

theorem mem_denominationScripts :
    s ∈ denominationScripts psbt denominationSats ↔
      ⟨denominationSats, s⟩ ∈ psbt.unsignedTx.output := by
  rw [denominationScripts, List.mem_map]
  constructor
  · rintro ⟨o, ho, rfl⟩
    obtain ⟨hmem, hvalue⟩ := List.mem_filter.mp ho
    obtain rfl := of_decide_eq_true hvalue
    exact hmem
  · intro hmem
    exact ⟨_, List.mem_filter.mpr ⟨hmem, decide_eq_true rfl⟩, rfl⟩

/-- The floor is compared with the count of outputs cast to 32 bits, which is no more
than the count. -/
theorem floor_le_length
    (hfloor : verifyAnonymityFloor psbt denominationSats k = .ok v) :
    k ≤ (denominationScripts psbt denominationSats).length := by
  have hk := verifyAnonymityFloor_eq_ok.mp hfloor
  rw [denominationScripts, List.length_map]
  exact hk.trans (Nat.mod_le _ _)

/-- Hiding among recipients is a matter of the denomination scripts alone. -/
theorem hidesAmong_iff_exists :
    HidesAmong psbt ourScript changeScript denominationSats k ↔
      ∃ recipients : Finset Script, k ≤ recipients.card ∧ ourScript ∈ recipients ∧
        ∀ s ∈ recipients, s ∈ denominationScripts psbt denominationSats ∧
          MayCount ourScript changeScript s := by
  simp only [HidesAmong, mem_denominationScripts]
  constructor
  · rintro ⟨recipients, hk, hpaid, hour, hchange⟩
    refine ⟨recipients, hk, hour, fun s hs => ⟨hpaid s hs, ?_⟩⟩
    rintro hne rfl
    exact hchange hne hs
  · rintro ⟨recipients, hk, hour, hall⟩
    refine ⟨recipients, hk, fun s hs => (hall s hs).1, hour, fun hne hmem => ?_⟩
    exact (hall changeScript hmem).2 hne rfl

theorem hidesAmong_iff_count (hour : ourScript ∈ denominationScripts psbt denominationSats) :
    HidesAmong psbt ourScript changeScript denominationSats k ↔
      k + idleOutputs psbt ourScript changeScript denominationSats ≤
        (denominationScripts psbt denominationSats).length := by
  have hcounts : MayCount ourScript changeScript ourScript := fun hne h => hne h.symm
  rw [hidesAmong_iff_exists, Distinct.exists_finset_iff hour hcounts, idleOutputs]

/-- **What the anonymity floor is worth**: a client whose two checks pass hides among
as many recipients as its floor asks for exactly when the denomination outputs beyond
the floor make up for the idle ones. -/
theorem hidesAmong_iff
    (hown : verifyOwnDenominationOutput psbt ourScript denominationSats = .ok u)
    (hfloor : verifyAnonymityFloor psbt denominationSats k = .ok v) :
    HidesAmong psbt ourScript changeScript denominationSats k ↔
      idleOutputs psbt ourScript changeScript denominationSats ≤
        (denominationScripts psbt denominationSats).length - k := by
  have hour : ourScript ∈ denominationScripts psbt denominationSats :=
    mem_denominationScripts.mpr (verifyOwnDenominationOutput_eq_ok.mp hown)
  have hle := floor_le_length hfloor
  rw [hidesAmong_iff_count hour]
  omega

/-- The first client of the session hides among two: every denomination output pays a
script of its own. -/
theorem hidesAmong_iff_session :
    HidesAmong sessionPsbt firstOutputScript firstChangeScript 1000000 2 := by
  have hown : verifyOwnDenominationOutput sessionPsbt firstOutputScript 1000000 = .ok () := by
    decide +kernel
  have hfloor : verifyAnonymityFloor sessionPsbt 1000000 2 = .ok () := by decide +kernel
  exact (hidesAmong_iff hown hfloor).mpr (by decide +kernel)

/-- In particular the floor counts recipients when no two denomination outputs pay the
same script, and none pays our change. -/
theorem idleOutputs_eq_zero (hnodup : (denominationScripts psbt denominationSats).Nodup)
    (hchange : changeScript ≠ ourScript →
      changeScript ∉ denominationScripts psbt denominationSats) :
    idleOutputs psbt ourScript changeScript denominationSats = 0 := by
  refine Distinct.idle_eq_zero hnodup fun s hs hne => ?_
  rintro rfl
  exact hchange hne hs

end Floor

/-! ### A coordinator with one script -/

/-- The transaction of a coordinator that is every participant but the first, and
pays itself twice to the same script. -/
def sybilPsbt : Psbt :=
  { sessionPsbt with
    unsignedTx := { sessionPsbt.unsignedTx with
      output := [⟨1000000, firstOutputScript⟩, ⟨1000000, secondOutputScript⟩,
        ⟨1000000, secondOutputScript⟩, ⟨19700, firstChangeScript⟩] } }

/-- **The floor is met by two recipients**: a client that asked for three signs, and
hides among two. -/
theorem sybil_meets_floor :
    verifyOwnDenominationOutput sybilPsbt firstOutputScript 1000000 = .ok () ∧
    verifyAnonymityFloor sybilPsbt 1000000 3 = .ok () ∧
    verifyPsbt firstWallet firstState 3 none sybilPsbt = .ok () ∧
    ¬HidesAmong sybilPsbt firstOutputScript firstChangeScript 1000000 3 := by
  refine ⟨by decide +kernel, by decide +kernel, by decide +kernel, ?_⟩
  have hour : firstOutputScript ∈ denominationScripts sybilPsbt 1000000 := by decide +kernel
  rw [hidesAmong_iff_count hour]
  decide +kernel

end Blindjoin
