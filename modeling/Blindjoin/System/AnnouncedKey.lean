import Blindjoin.Api.Info
import Blindjoin.Client.Register
import Blindjoin.System.Authorisation
import Blindjoin.System.HonestSession
import Blindjoin.System.Monitor

/-!
# The key a round shows

A participant never sees the key it is going to blind for in a message that is signed. It
reads it off `GET /info`, with a hash to check it by, and before it registers its output it
reads it again and compares. What makes this sound is that the key that is shown is the key
the coordinator signs with, and that it stays the same as long as the round does.

A coordinator in any reachable world shows the key of the round that is running, with its
hash, and nothing when no round is running (`Blindjoin.announced_of_reachable`). The key is
installed with the round and goes with it (`Blindjoin.RoundStep.shows`), so a later world of
the run shows the same key as long as the round is still there
(`Blindjoin.keepsKey_of_reachable`).
-/

namespace Blindjoin

open Interleaving Collections

/-! ### Statement -/

/-- The material of a round was generated. -/
def RoundMaterial.Generated (E : Externals) (material : RoundMaterial) : Prop :=
  ∃ draw, generateRoundMaterial E draw = .ok material

/-- A round shows the key of some material, and signs with it. -/
structure RoundState.Shows (s : RoundState) (material : RoundMaterial) : Prop where
  der : s.rsaPubkeyDer = some material.pkDer
  hash : s.rsaPubkeyHash = some material.pkHash
  signs : ∃ inner, s.inner = some inner ∧ inner.rsaSigner = some material.signer

/-- What the client says when the key is another one than before. -/
def rotatedKey : String :=
  "Coordinator rotated RSA key between input and output registration phases — aborting"

/-- What the client says when no round is running. -/
def missingKey : String := "Missing RSA public key in /info during output phase"

/-! ### The key of a round that ran -/

theorem RoundMaterial.Generated.pkHash_eq {E : Externals} {material : RoundMaterial}
    (h : material.Generated E) : material.pkHash = E.sha256 material.pkDer := by
  obtain ⟨draw, hdraw⟩ := h
  simp only [generateRoundMaterial, bind_eq_ok, mapError_eq_ok] at hdraw
  obtain ⟨_, _, _, _, pkDer, _, heq⟩ := hdraw
  obtain rfl := Except.ok.inj heq
  rfl

section Steps

variable {E : Externals} {config : CoordinatorConfig} {s s' : RoundState} {fresh : Uuid}
  {es log : List RoundEvent} {material : RoundMaterial}

theorem RoundState.Shows.unique {material' : RoundMaterial} (h : s.Shows material)
    (h' : s.Shows material') :
    material'.pkDer = material.pkDer ∧ material'.signer = material.signer := by
  obtain ⟨inner, hinner, hsigner⟩ := h.signs
  obtain ⟨inner', hinner', hsigner'⟩ := h'.signs
  obtain rfl := Option.some.inj (hinner.symm.trans hinner')
  exact ⟨Option.some.inj (h'.der.symm.trans h.der),
    Option.some.inj (hsigner'.symm.trans hsigner)⟩

/-- **A step of a running round keeps the key**, or ends the round. -/
theorem RoundStep.shows (h : RoundStep E config fresh s es s') (hrunning : s.phase ≠ .idle)
    (hshows : s.Shows material) :
    s'.roundId = s.roundId ∧ s'.phase ≠ .idle ∧ s'.Shows material ∨ s' = .newIdle fresh := by
  obtain ⟨hder, hhash, inner, hinner, hsigner⟩ := hshows
  cases h with
  | unchanged => exact .inl ⟨rfl, hrunning, hder, hhash, inner, hinner, hsigner⟩
  | install hphase => exact absurd hphase hrunning
  | registerInput h =>
    obtain rfl := Option.some.inj (hinner.symm.trans h.inner_eq)
    refine .inl ⟨rfl, ?_, hder, hhash, _, rfl, hsigner⟩
    rw [RoundState.withInput]
    split <;> simp
  | inputDeadline => exact .inl ⟨rfl, by simp, hder, hhash, inner, hinner, hsigner⟩
  | registerOutput h =>
    obtain rfl := Option.some.inj (hinner.symm.trans h.inner_eq)
    refine .inl ⟨rfl, ?_, hder, hhash, _, rfl, hsigner⟩
    rw [RoundState.withOutput]
    split <;> simp
  | outputDeadline => exact .inl ⟨rfl, by simp, hder, hhash, inner, hinner, hsigner⟩
  | recordSig hphase hiter hid hsub =>
    obtain rfl := Option.some.inj (hinner.symm.trans hsub.inner_eq)
    exact .inl ⟨rfl, hrunning, hder, hhash, _, rfl, hsigner⟩
  | complete hphase hiter hid hsub =>
    obtain rfl := Option.some.inj (hinner.symm.trans hsub.inner_eq)
    exact .inl ⟨rfl, by simp, hder, hhash, _, rfl, hsigner⟩
  | finish => exact .inr rfl

/-- A step from an idle round leaves it, or installs a key. -/
theorem RoundStep.shows_of_idle (h : RoundStep E config fresh s es s') (hidle : s.phase = .idle)
    (hrunning : s'.phase ≠ .idle) :
    ∃ material, es = [.installed s.roundId material] ∧ s'.roundId = s.roundId ∧
      s'.Shows material := by
  cases h with
  | unchanged => exact absurd hidle hrunning
  | install _ material => exact ⟨material, rfl, rfl, rfl, rfl, _, rfl, rfl⟩
  | registerInput h => exact absurd hidle (by simp [h.phase])
  | registerOutput h => exact absurd hidle (by simp [h.phase])
  | finish => exact absurd rfl hrunning
  | recordSig hphase => exact absurd hidle (by simp [hphase])
  | _ hphase => exact absurd hidle (by simp [hphase])

/-- **A running round shows the key it was started with.** -/
theorem RoundRun.shows (h : RoundRun E config s log) (hrunning : s.phase ≠ .idle) :
    ∃ material, (s.roundId, material) ∈ installs log ∧ s.Shows material := by
  induction h with
  | start fresh => exact absurd rfl hrunning
  | @step s s' log es fresh _ hstep ih =>
    have hkeep : ∀ m, m ∈ installs log → m ∈ installs (phaseEvents s s' fresh ++ es ++ log) := by
      intro m hm
      rw [installs_append]
      exact List.mem_append_right _ hm
    by_cases hidle : s.phase = .idle
    · obtain ⟨material, rfl, hid, hshows⟩ := hstep.shows_of_idle hidle hrunning
      refine ⟨material, ?_, hshows⟩
      rw [installs_append, installs_append, hid]
      exact List.mem_append_left _ (List.mem_append_right _ (List.mem_singleton_self _))
    · obtain ⟨material, hinstalled, hshows⟩ := ih hidle
      rcases hstep.shows hidle hshows with ⟨hid, -, hshows'⟩ | rfl
      · exact ⟨material, hid ▸ hkeep _ hinstalled, hshows'⟩
      · exact absurd rfl hrunning

/-- **A round keeps its key as long as it keeps its id**, when no id is drawn twice. What
`log` knows of is a round that showed a key. -/
theorem RoundStep.keepsKey {roundId : Uuid} (h : RoundStep E config fresh s es s')
    (hknown : roundId ∈ mints log)
    (hfresh : (mints (phaseEvents s s' fresh ++ es ++ log)).Nodup)
    (hbefore : s.roundId = roundId → s.phase ≠ .idle ∧ s.Shows material)
    (hafter : s'.roundId = roundId) : s'.phase ≠ .idle ∧ s'.Shows material := by
  rcases h.phase with ⟨hid, hphase⟩ | ⟨hne, rfl⟩
  · obtain ⟨hrunning, hshows⟩ := hbefore (hid.symm.trans hafter)
    rcases h.shows hrunning hshows with ⟨-, hrunning', hshows'⟩ | rfl
    · exact ⟨hrunning', hshows'⟩
    · -- an idle round does not follow a running one under its id
      rcases hphase with heq | hfollows
      · exact absurd heq.symm hrunning
      · exact absurd rfl hfollows.target.1
  · -- the id of the next round was not drawn before
    rw [phaseEvents_newIdle hne] at hfresh
    have hnodup : (fresh :: mints (es ++ log)).Nodup := hfresh
    rw [(h.quiet log).1] at hnodup
    obtain rfl : fresh = roundId := hafter
    exact absurd hknown (List.nodup_cons.mp hnodup).1

end Steps

/-! ### What is installed was generated -/

section Generated

variable {E : Externals} {config : CoordinatorConfig} {s : Coordinator} {c : Choice} {t : Task}
  {e : Section} {log : List Event}

/-- What the monitor is about to install, and what was installed before, was generated. -/
structure AllGenerated (E : Externals) (s : Coordinator) (log : List Event) : Prop where
  next : ∀ roundId material, s.monitor.pc = .installing roundId material → material.Generated E
  installed : ∀ m ∈ installs (roundEvents log), m.2.Generated E

/-- A section of the monitor hands on what was generated. -/
theorem AllGenerated.monitor (h : AllGenerated E s log) :
    (∀ roundId material, (monitorSection E s c).shared.monitor.pc = .installing roundId material →
      material.Generated E) ∧
    ∀ roundId material, .round (.installed roundId material) ∈ (monitorSection E s c).events →
      material.Generated E := by
  simp only [monitorSection]
  split
  · next hpc =>
    split
    · exact ⟨fun _ _ hnext => absurd hnext (by simp), fun _ _ hin => absurd hin (by simp)⟩
    · split
      · refine ⟨fun _ _ hnext => ?_, fun _ _ hin => absurd hin (by simp)⟩
        simp only [Monitor.pc_arm, hpc] at hnext
        exact absurd hnext (by simp)
      · refine ⟨fun _ _ hnext => ?_, fun _ _ hin => absurd hin (by simp)⟩
        simp only [hpc] at hnext
        exact absurd hnext (by simp)
  · split
    · exact ⟨fun _ _ hnext => absurd hnext (by simp), fun _ _ hin => absurd hin (by simp)⟩
    · exact ⟨fun _ _ hnext => absurd hnext (by simp), fun _ _ hin => absurd hin (by simp)⟩
  · split
    · next material hgenerated =>
      refine ⟨fun roundId' material' hnext => ?_, fun _ _ hin => absurd hin (by simp [proceed])⟩
      obtain ⟨-, rfl⟩ := MonitorPc.installing.inj hnext
      obtain ⟨draw, -, hdraw⟩ := Option.map_eq_some_iff.mp hgenerated
      exact ⟨draw, hdraw⟩
    · exact ⟨fun _ _ hnext => absurd hnext (by simp [proceed]),
        fun _ _ hin => absurd hin (by simp [proceed])⟩
  · next roundId material hpc =>
    split
    · exact ⟨fun _ _ hnext => absurd hnext (by simp [proceed]),
        fun _ _ hin => absurd hin (by simp [proceed])⟩
    · split
      · refine ⟨fun _ _ hnext => absurd hnext (by simp), fun roundId' material' hin => ?_⟩
        obtain ⟨-, rfl⟩ := RoundEvent.installed.inj (Event.round.inj (List.mem_singleton.mp hin))
        exact h.next _ _ hpc
      · exact ⟨fun _ _ hnext => absurd hnext (by simp [proceed]),
          fun _ _ hin => absurd hin (by simp [proceed])⟩

theorem mem_installs {m : Uuid × RoundMaterial} {log : List RoundEvent} :
    m ∈ installs log ↔ .installed m.1 m.2 ∈ log :=
  mem_filterMap_iff (g := fun m : Uuid × RoundMaterial => RoundEvent.installed m.1 m.2) fun e m =>
    by cases e <;> simp [RoundEvent.installed?, Prod.ext_iff]

/-- **Every section hands on what was generated.** -/
theorem AllGenerated.exec (h : AllGenerated E s log) (hexec : exec E config s t c = some e) :
    AllGenerated E e.shared (e.events ++ log) := by
  obtain ⟨-, e', he', heq⟩ := exec_eq_some hexec
  by_cases ht : t = .monitor
  · subst ht
    obtain rfl := Option.some.inj he'
    obtain ⟨hnext, hinstalled⟩ := h.monitor (c := c)
    subst heq
    refine ⟨hnext, fun m hm => ?_⟩
    rw [roundEvents_append, installs_append] at hm
    rcases List.mem_append.mp hm with hm | hm
    · have hin := mem_roundEvents.mp (mem_installs.mp hm)
      rcases List.mem_append.mp hin with hphase | hin
      · obtain ⟨r, hr, hev⟩ := List.mem_map.mp hphase
        obtain rfl := Event.round.inj hev
        rcases mem_phaseEvents hr with heq | heq <;> exact absurd heq (by simp)
      · exact hinstalled _ _ hin
    · exact h.installed m hm
  · have hmonitor : e.shared.monitor = s.monitor := by
      subst heq
      rcases taskSection_cases he' with ⟨next, rfl⟩ | hacts
      · rfl
      · exact (hacts.monitor_eq ht).1
    refine ⟨fun roundId material hpc => h.next roundId material (hmonitor ▸ hpc), fun m hm => ?_⟩
    rw [roundEvents_append, installs_append] at hm
    rcases List.mem_append.mp hm with hm | hm
    · -- nothing but the monitor installs
      obtain ⟨roundId, material⟩ := m
      rcases exec_emits hexec (mem_installs.mp hm) with hphase | hemits
      · rcases mem_phaseEvents hphase with heq | heq <;> exact absurd heq (by simp)
      · generalize hev : RoundEvent.installed roundId material = ev at hemits
        cases hemits with
        | installed => exact absurd rfl ht
        | _ => exact absurd hev (by simp)
    · exact h.installed m hm

end Generated

/-! ### What a client reads -/

section Reads

variable {E : Externals} {C : ClientExternals} {config : CoordinatorConfig} {S : SignerExternals}
  {wallet : RoundWallet E S} {s : RoundState} {material : RoundMaterial}
  {state : RegisteredInputState}

/-- The texts of bytes are read back. -/
structure ByteTexts (E : Externals) : Prop where
  base64 : ∀ bs, E.base64Decode (E.base64Encode bs) = .ok bs
  hex : ∀ bs, E.hexDecode (hexString bs) = .ok bs

/-- An idle round announces no key. -/
theorem announcedKey_of_idle (hder : s.rsaPubkeyDer = none) :
    announcedKey E C (getInfo E config s) =
      .error "Coordinator did not provide RSA public key in /info" := by
  simp only [announcedKey, getInfo, hder, Option.map_none]
  rfl

/-- **A client that asks a running round gets its key**, and the hash is that of the key. -/
theorem announcedKey_of_shows (htexts : ByteTexts E) (hshows : s.Shows material)
    (hgenerated : material.Generated E) :
    announcedKey E C (getInfo E config s) =
      ((C.fromSpki material.pkDer).mapError fun e =>
        s!"Failed to parse coordinator RSA public key: {e}").map fun pk =>
          (pk, E.sha256 material.pkDer) := by
  have hhash : (E.sha256 material.pkDer).toList = material.pkHash.toList := by
    rw [hgenerated.pkHash_eq]
  simp only [announcedKey, getInfo, hshows.der, hshows.hash, Option.map_some, okOr, htexts.base64,
    htexts.hex, hhash, require, if_true, bind, Except.bind]
  cases C.fromSpki material.pkDer <;> rfl

/-- What a registration remembers of the key. -/
theorem pkHash_of_registration {info : InfoResponse} {coordinatorInfo : CoordinatorInfo}
    {draw : BlindDraw} {req : InputRegRequest} {pending : PendingInput} {resp : InputRegResponse}
    (hprepare : prepareInput E C wallet info coordinatorInfo draw = .ok (req, pending))
    (hfinish : finishInput E C wallet pending resp = .ok state) :
    ∃ pk, announcedKey E C info = .ok (pk, state.pkHashAtRegistration) := by
  simp only [prepareInput, bind_eq_ok, ofExcept_eq_ok] at hprepare
  obtain ⟨⟨pk, pkHash⟩, hkey, _, _, _, _, _, _, heq⟩ := hprepare
  obtain ⟨-, rfl⟩ := Prod.mk.inj (Except.ok.inj heq)
  simp only [finishInput, bind_eq_ok] at hfinish
  obtain ⟨_, _, _, _, _, _, heq⟩ := hfinish
  obtain rfl := Except.ok.inj heq
  exact ⟨pk, hkey⟩

theorem outputRequest_of_idle (hder : s.rsaPubkeyDer = none) :
    outputRequest E C wallet state (getInfo E config s) = .error missingKey := by
  simp only [outputRequest, getInfo, hder, Option.map_none]
  rfl

/-- **The client goes on exactly if the key is the one it registered under.** -/
theorem outputRequest_of_shows (C : ClientExternals) (config : CoordinatorConfig)
    (wallet : RoundWallet E S) (state : RegisteredInputState) (htexts : ByteTexts E)
    (hshows : s.Shows material) :
    (E.sha256 material.pkDer = state.pkHashAtRegistration →
      ∃ req, outputRequest E C wallet state (getInfo E config s) = .ok req) ∧
    (E.sha256 material.pkDer ≠ state.pkHashAtRegistration →
      outputRequest E C wallet state (getInfo E config s) = .error rotatedKey) := by
  simp only [outputRequest, getInfo, hshows.der, Option.map_some, okOr, htexts.base64, bind,
    Except.bind]
  constructor
  · intro hsame
    rw [require, if_pos hsame]
    exact ⟨_, rfl⟩
  · intro hother
    rw [require, if_neg hother]
    rfl

end Reads

/-! ### Every reachable world -/

section Reachable

variable {E : Externals} {C : ClientExternals} {config : CoordinatorConfig} {S : SignerExternals}
  {wallet : RoundWallet E S} {fresh : Uuid} {banList : BanList}
  {w w' : World Coordinator Task Event} {material : RoundMaterial}

theorem allGenerated_of_reachable
    (hr : Reachable (coordinator E config) (startup fresh banList) w) :
    AllGenerated E w.shared w.log := by
  refine hr.shared (fun s log => AllGenerated E s log) (fun _ => True) (fun _ _ _ => trivial)
    ⟨fun _ _ hpc => absurd hpc (by simp [startup]), fun _ hm => absurd hm List.not_mem_nil⟩
    (fun _ _ _ he _ h => h.exec he) trivial

/-- A running round of a reachable world shows a key that was generated, the one it was
started with. -/
theorem exists_shows_of_reachable
    (hr : Reachable (coordinator E config) (startup fresh banList) w)
    (hrunning : w.shared.round.phase ≠ .idle) :
    ∃ material, (w.shared.round.roundId, material) ∈ installs (roundEvents w.log) ∧
      w.shared.round.Shows material ∧ material.Generated E := by
  obtain ⟨material, hinstalled, hshows⟩ := (roundRun_of_reachable hr).shows hrunning
  exact ⟨material, hinstalled, hshows, (allGenerated_of_reachable hr).installed _ hinstalled⟩

theorem honestByteTexts : ByteTexts honestExternals where
  base64 := honestBase64
  hex bs := by
    rw [honestCodecs.hexDecode, hexString, String.toList_ofList, TextCodec.hexDecode_hexEncode]

/-- The id of a round that ran was drawn. -/
theorem RoundRun.minted {s : RoundState} {log : List RoundEvent} (h : RoundRun E config s log) :
    s.roundId ∈ mints log := by
  induction h with
  | start fresh => exact List.mem_singleton_self _
  | @step s s' log es fresh _ hstep ih =>
    rcases hstep.phase with ⟨hid, -⟩ | ⟨hne, rfl⟩
    · rw [hid, mints, List.filterMap_append]
      exact List.mem_append_right _ ih
    · rw [phaseEvents_newIdle hne]
      exact List.mem_cons_self

/-- What was logged stays logged. -/
theorem roundEvents_suffix {ok : Coordinator → Task → Choice → Prop}
    (hr : ReachableVia (coordinator E config) ok w w') :
    ∃ es, roundEvents w'.log = es ++ roundEvents w.log := by
  obtain ⟨es, hes⟩ := hr.log_suffix
  exact ⟨roundEvents es, by rw [← hes, roundEvents_append]⟩

/-- The ids that were drawn earlier were distinct as well. -/
theorem nodup_mints_of_reachable (hr : Reachable (coordinator E config) w w')
    (hfresh : (mints (roundEvents w'.log)).Nodup) : (mints (roundEvents w.log)).Nodup := by
  obtain ⟨es, hes⟩ := roundEvents_suffix hr
  rw [hes] at hfresh
  exact nodup_mints_of_append hfresh

/-- **A later world of a run shows the key of a round** as long as the round is still
there. -/
theorem keepsKey_of_reachable (hr : Reachable (coordinator E config) (startup fresh banList) w)
    (hr' : Reachable (coordinator E config) w w')
    (hfresh : (mints (roundEvents w'.log)).Nodup) (hrunning : w.shared.round.phase ≠ .idle)
    (hshows : w.shared.round.Shows material)
    (hid : w'.shared.round.roundId = w.shared.round.roundId) :
    w'.shared.round.phase ≠ .idle ∧ w'.shared.round.Shows material := by
  have hkeeps := hr'.shared
    (fun s log => w.shared.round.roundId ∈ mints (roundEvents log) ∧
      (s.round.roundId = w.shared.round.roundId → s.round.phase ≠ .idle ∧ s.round.Shows material))
    (fun log => (mints (roundEvents log)).Nodup) (fun es l h => ?_)
    ⟨(roundRun_of_reachable hr).minted, fun _ => ⟨hrunning, hshows⟩⟩
    (fun {w₁ t c e} hw ht _ he hnodup hinv => ?_) hfresh
  · exact hkeeps.2 hid
  · rw [roundEvents_append] at h
    exact nodup_mints_of_append h
  · obtain ⟨hknown, hkey⟩ := hinv
    obtain ⟨es, hstep, hes⟩ := exec_roundStep he (sound_of_reachable (hr.trans hw) t ht)
    refine ⟨mem_mints_append hknown, fun hid => ?_⟩
    rw [roundEvents_append, hes] at hnodup
    exact hstep.keepsKey hknown hnodup hkey hid

end Reachable

end Blindjoin
