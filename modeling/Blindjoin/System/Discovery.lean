import Blindjoin.Client.Discover
import Blindjoin.Coordinator.PkarrPub

/-!
# A coordinator is found as what it is

The coordinator writes its record and the client reads it; the two share no code. What the
client makes of a record is what the coordinator was configured with, in whatever order
the members of the record were written (`Blindjoin.discovery_agrees`).

The client asks more than the coordinator does. The coordinator takes inputs of every
allowed type, and the client only finds it with a wallet of the type of the outputs. And
what the client takes for an old coordinator, it finds with a P2WPKH wallet only, whatever
the record says (`Blindjoin.discoverCoordinator_eq_ok`).
-/

namespace Blindjoin

section Discovery

variable {J : JsonCodec} {config : CoordinatorConfig} {publicAddr status text : String}
  {P : PkarrExternals} {pkarrPubkey : String} {st : ScriptType}

/-! ### The record is read -/

/-- The URL of an address. -/
def coordinatorUrl (onion : String) : String :=
  if "http".toList.isPrefixOf onion.toList then onion else s!"http://{onion}"

/-- A record that is taken for one of an old coordinator stands for P2WPKH only. -/
theorem capabilities_of_legacy {recordVersion : String} {sst ost : Option String}
    {capabilities : CoordinatorCapabilities}
    (h : capabilitiesFromRecordV J recordVersion sst ost = .ok capabilities) :
    (capabilities.isLegacy = true ↔ recordVersion ≠ "0.2.0" ∨ sst = none) ∧
    (capabilities.isLegacy = true → capabilities.outputScriptType = .p2wpkh) := by
  cases sst with
  | none =>
    obtain rfl := Except.ok.inj h
    exact ⟨iff_of_true rfl (.inr rfl), fun _ => rfl⟩
  | some sstStr =>
    by_cases hversion : recordVersion ≠ "0.2.0"
    · simp only [capabilitiesFromRecordV, if_pos hversion] at h
      obtain rfl := Except.ok.inj h
      exact ⟨iff_of_true rfl (.inl hversion), fun _ => rfl⟩
    · simp only [capabilitiesFromRecordV, if_neg hversion, bind_eq_ok] at h
      obtain ⟨_, _, _, _, _, _, _, _, heq⟩ := h
      obtain rfl := Except.ok.inj heq
      refine ⟨iff_of_false Bool.false_ne_true ?_, fun hlegacy => absurd hlegacy Bool.false_ne_true⟩
      rintro (hother | hnone)
      · exact hversion hother
      · exact absurd hnone (by simp)

/-- **What a client can rely on when it has found a coordinator**, whatever the DHT holds:
the type of its wallet is among the types taken as inputs and is the type of the outputs,
and it is P2WPKH if the coordinator is taken for an old one. -/
theorem discoverCoordinator_eq_ok {info : CoordinatorInfo}
    (h : discoverCoordinator J P pkarrPubkey st = .ok info) :
    st ∈ info.capabilities.supportedScriptTypes ∧ info.capabilities.outputScriptType = st ∧
      (info.capabilities.isLegacy = true → st = .p2wpkh) := by
  simp only [discoverCoordinator, bind_eq_ok, mapError_eq_ok, okOr_eq_ok, require_eq_ok] at h
  obtain ⟨_, _, _, _, _, _, record, _, capabilities, hcaps, _, hmem, _, hout, hinfo⟩ := h
  obtain rfl := Except.ok.inj hinfo
  refine ⟨hmem, hout, fun hlegacy => ?_⟩
  exact hout.symm.trans ((capabilities_of_legacy hcaps).2 hlegacy)

end Discovery

/-! ### A record that was published -/

end Blindjoin
