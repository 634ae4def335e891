import Blindjoin.System.Signatures

/-!
# The log of a round

The log remembers what the state forgets: which request an input came from, what
was signed for it, and how a submission was answered. `Blindjoin.Ledger` says
that the two agree: the state of a running round is what its events since it was
started make of it, in order. It is kept by every step
(`Blindjoin.RoundStep.ledger`), so it holds of every round that ran
(`Blindjoin.RoundRun.ledger`).
-/

namespace Blindjoin

open Interleaving Collections

/-! ### Reading the log -/

/-- The round an event is about. -/
def RoundEvent.roundId : RoundEvent → Uuid
  | .minted roundId => roundId
  | .visible roundId _ => roundId
  | .installed roundId _ => roundId
  | .inputRegistered r => r.roundId
  | .outputRegistered r => r.roundId
  | .sigRecorded sub => sub.roundId
  | .signingTimedOut roundId _ => roundId
  | .broadcastFailed roundId _ => roundId
  | .broadcastSucceeded roundId => roundId

/-- The start of a round, if an event is one. -/
def RoundEvent.installed? : RoundEvent → Option (Uuid × RoundMaterial)
  | .installed roundId material => some (roundId, material)
  | _ => none

/-- The registration of an input, if an event is one. -/
def RoundEvent.registration? : RoundEvent → Option Registration
  | .inputRegistered r => some r
  | _ => none

/-- The redemption of a token, if an event is one. -/
def RoundEvent.redemption? : RoundEvent → Option Redemption
  | .outputRegistered r => some r
  | _ => none

/-- The recording of a signature, if an event is one. -/
def RoundEvent.submission? : RoundEvent → Option Submission
  | .sigRecorded sub => some sub
  | _ => none

/-- The registrations of a log, newest first. -/
def registrations (log : List RoundEvent) : List Registration :=
  log.filterMap RoundEvent.registration?

/-- The redemptions of a log, newest first. -/
def redemptions (log : List RoundEvent) : List Redemption :=
  log.filterMap RoundEvent.redemption?

/-- The submissions of a log, newest first. -/
def submissions (log : List RoundEvent) : List Submission :=
  log.filterMap RoundEvent.submission?

/-- The events since the last round was started. -/
def currentEvents (log : List RoundEvent) : List RoundEvent :=
  log.takeWhile fun e => e.installed?.isNone

theorem mem_registrations {log : List RoundEvent} {r : Registration} :
    r ∈ registrations log ↔ .inputRegistered r ∈ log :=
  mem_filterMap_iff fun e r => by cases e <;> simp [RoundEvent.registration?]

theorem mem_redemptions {log : List RoundEvent} {r : Redemption} :
    r ∈ redemptions log ↔ .outputRegistered r ∈ log :=
  mem_filterMap_iff fun e r => by cases e <;> simp [RoundEvent.redemption?]

theorem mem_submissions {log : List RoundEvent} {sub : Submission} :
    sub ∈ submissions log ↔ .sigRecorded sub ∈ log :=
  mem_filterMap_iff fun e sub => by cases e <;> simp [RoundEvent.submission?]

theorem currentEvents_cons {e : RoundEvent} (h : e.installed? = none) (log : List RoundEvent) :
    currentEvents (e :: log) = e :: currentEvents log := by
  rw [currentEvents, List.takeWhile_cons_of_pos (by simp [h]), currentEvents]

theorem currentEvents_append {es : List RoundEvent} (h : ∀ e ∈ es, e.installed? = none)
    (log : List RoundEvent) : currentEvents (es ++ log) = es ++ currentEvents log :=
  List.takeWhile_append_of_pos fun e he => by simp [h e he]

theorem currentEvents_installed (roundId : Uuid) (material : RoundMaterial)
    (log : List RoundEvent) : currentEvents (.installed roundId material :: log) = [] := rfl

/-- No round was started since the last one was. -/
theorem installed?_of_mem_currentEvents {log : List RoundEvent} {e : RoundEvent}
    (h : e ∈ currentEvents log) : e.installed? = none := by
  have hall := List.all_eq_true.mp
    (List.all_takeWhile (p := fun e : RoundEvent => e.installed?.isNone) (l := log)) e h
  simpa using hall

theorem mem_of_mem_currentEvents {log : List RoundEvent} {e : RoundEvent}
    (h : e ∈ currentEvents log) : e ∈ log := (List.takeWhile_sublist _).mem h

/-! ### The ledger -/

/-- The entry of a registration in the map of inputs. -/
def Registration.entry (r : Registration) : Sigma fun _ : String => RegisteredInput :=
  ⟨r.utxo.toText, r.registered⟩

/-- The entry of a submission in the map of signatures. -/
def Submission.entry (sub : Submission) : Sigma fun _ : String => Bytes :=
  ⟨sub.utxo.toText, sub.partialSig⟩

/-- The state of a running round agrees with its log. -/
structure Ledger (roundId : Uuid) (log : List RoundEvent) (inner : RoundStateInner) : Prop where
  started : ∃ material rest, log = currentEvents log ++ .installed roundId material :: rest ∧
    inner.rsaSigner = some material.signer ∧ inner.roundSecret = material.roundSecret
  roundIds : ∀ e ∈ currentEvents log, e.roundId = roundId
  inputs : inner.registeredInputs.entries =
    (registrations (currentEvents log)).map Registration.entry
  outputs : inner.registeredOutputs =
    ((redemptions (currentEvents log)).map Redemption.output).reverse
  tokens : inner.redeemedTokens =
    ((redemptions (currentEvents log)).map Redemption.tokenMsg).toFinset
  sigs : inner.partialSigs.entries = (submissions (currentEvents log)).map Submission.entry

section Steps

variable {E : Externals} {config : CoordinatorConfig} {s s' : RoundState}
  {inner : RoundStateInner} {roundId fresh : Uuid} {log es : List RoundEvent}

/-- The log of a round that has just started. -/
theorem ledger_install (roundId : Uuid) (material : RoundMaterial) (log : List RoundEvent) :
    Ledger roundId (.installed roundId material :: log) material.inner where
  started := ⟨material, log, rfl, rfl, rfl⟩
  roundIds _ h := absurd h (by simp [currentEvents_installed])
  inputs := rfl
  outputs := rfl
  tokens := rfl
  sigs := rfl

theorem Ledger.started_cons {e : RoundEvent} (h : Ledger roundId log inner)
    (he : e.installed? = none) :
    ∃ material rest, e :: log = currentEvents (e :: log) ++ .installed roundId material :: rest ∧
      inner.rsaSigner = some material.signer ∧ inner.roundSecret = material.roundSecret := by
  obtain ⟨material, rest, hlog, hsigner, hsecret⟩ := h.started
  refine ⟨material, rest, ?_, hsigner, hsecret⟩
  rw [currentEvents_cons he, List.cons_append, ← hlog]

theorem Ledger.roundIds_cons {e : RoundEvent} (h : Ledger roundId log inner)
    (he : e.installed? = none) (hid : e.roundId = roundId) :
    ∀ e' ∈ currentEvents (e :: log), e'.roundId = roundId := by
  intro e' he'
  rw [currentEvents_cons he] at he'
  rcases List.mem_cons.mp he' with rfl | he'
  · exact hid
  · exact h.roundIds e' he'

/-- An event that leaves the inner state alone. -/
theorem Ledger.visible (h : Ledger roundId log inner) (phase : Phase) :
    Ledger roundId (.visible roundId phase :: log) inner where
  started := h.started_cons rfl
  roundIds := h.roundIds_cons rfl rfl
  inputs := h.inputs
  outputs := h.outputs
  tokens := h.tokens
  sigs := h.sigs

theorem Ledger.inputRegistered {r : Registration} (h : Ledger roundId log inner)
    (hid : r.roundId = roundId) (hnew : r.utxo.toText ∉ inner.registeredInputs) :
    Ledger roundId (.inputRegistered r :: log) (inner.withInput r) where
  started := h.started_cons rfl
  roundIds := h.roundIds_cons rfl hid
  inputs := by
    rw [RoundStateInner.withInput, AList.entries_insert_of_notMem hnew, h.inputs]
    rfl
  outputs := h.outputs
  tokens := h.tokens
  sigs := h.sigs

theorem Ledger.outputRegistered {r : Redemption} (h : Ledger roundId log inner)
    (hid : r.roundId = roundId) : Ledger roundId (.outputRegistered r :: log) (inner.withOutput r)
    where
  started := h.started_cons rfl
  roundIds := h.roundIds_cons rfl hid
  inputs := h.inputs
  outputs := by
    rw [RoundStateInner.withOutput, h.outputs, ← List.reverse_cons]
    rfl
  tokens := by
    rw [RoundStateInner.withOutput, h.tokens, ← List.toFinset_cons]
    rfl
  sigs := h.sigs

theorem Ledger.sigRecorded {sub : Submission} (h : Ledger roundId log inner)
    (hid : sub.roundId = roundId) (hnew : sub.utxo.toText ∉ inner.partialSigs) :
    Ledger roundId (.sigRecorded sub :: log) (inner.withSig sub.utxo sub.partialSig) where
  started := h.started_cons rfl
  roundIds := h.roundIds_cons rfl hid
  inputs := h.inputs
  outputs := h.outputs
  tokens := h.tokens
  sigs := by
    rw [RoundStateInner.withSig, AList.entries_insert_of_notMem hnew, h.sigs]
    rfl

/-- A step that does not end a round shows the round and nothing else. -/
theorem phaseEvents_of_ne_idle (h : s'.phase ≠ .idle) :
    phaseEvents s s' fresh = [.visible s'.roundId s'.phase] := by
  rw [phaseEvents, if_neg (fun h' => h h'.2)]

/-- A round that ends shows a fresh idle round. -/
theorem phaseEvents_newIdle (h : s.phase ≠ .idle) :
    phaseEvents s (RoundState.newIdle fresh) fresh = [.visible fresh .idle, .minted fresh] := by
  rw [phaseEvents, if_pos ⟨h, rfl⟩]
  rfl

/-- **Every step keeps the state and the log in agreement.** -/
theorem RoundStep.ledger (h : RoundStep E config fresh s es s') (hround : RoundInv config s')
    (hinv : ∀ inner, s.inner = some inner → Ledger s.roundId log inner) :
    ∀ inner, s'.inner = some inner →
      Ledger s'.roundId (phaseEvents s s' fresh ++ es ++ log) inner := by
  intro inner' hinner'
  have hrunning : s'.phase ≠ .idle := fun hidle =>
    absurd hinner' (by simp [hround.idle_iff.mp hidle])
  rw [phaseEvents_of_ne_idle hrunning]
  cases h with
  | unchanged => exact (hinv inner' hinner').visible _
  | install hphase material =>
    obtain rfl := Option.some.inj hinner'
    exact (ledger_install s.roundId material log).visible _
  | registerInput h =>
    obtain rfl := Option.some.inj hinner'
    exact ((hinv _ h.inner_eq).inputRegistered h.roundId h.new).visible _
  | inputDeadline => exact (hinv inner' hinner').visible _
  | registerOutput h =>
    obtain rfl := Option.some.inj hinner'
    exact ((hinv _ h.inner_eq).outputRegistered h.roundId).visible _
  | outputDeadline => exact (hinv inner' hinner').visible _
  | recordSig hphase hiter hid hsub hout =>
    obtain rfl := Option.some.inj hinner'
    exact ((hinv _ hsub.inner_eq).sigRecorded hid hsub.fresh).visible _
  | complete hphase hiter hid hsub hout hdone =>
    obtain rfl := Option.some.inj hinner'
    exact ((hinv _ hsub.inner_eq).sigRecorded hid hsub.fresh).visible _
  | finish => exact absurd hinner' (by simp [RoundState.newIdle])

/-- **The state of a round that ran agrees with its log.** -/
theorem RoundRun.ledger (hv : config.Valid) (h : RoundRun E config s log) :
    ∀ inner, s.inner = some inner → Ledger s.roundId log inner := by
  induction h with
  | start fresh => exact fun inner hinner => absurd hinner (by simp [RoundState.newIdle])
  | step hrun hstep ih =>
    exact hstep.ledger (hstep.roundInv hv (hrun.roundInv hv)) ih

/-! ### Reading the state off the log -/

variable {r : Registration} {sub : Submission} {utxoStr : String}

/-- A text is a key of an association list made of a list. -/
theorem mem_alist_of_entries {α ν : Type} {m : HashMap String ν} {l : List α}
    {entry : α → Sigma fun _ : String => ν} (h : m.entries = l.map entry) {k : String} :
    k ∈ m ↔ ∃ a ∈ l, (entry a).1 = k := by
  rw [AList.mem_keys, AList.keys, List.keys, h, List.map_map]
  simp

/-- The registered outpoints are those of the registrations. -/
theorem Ledger.mem_registeredInputs (h : Ledger roundId log inner) :
    utxoStr ∈ inner.registeredInputs ↔
      ∃ r, .inputRegistered r ∈ currentEvents log ∧ r.utxo.toText = utxoStr := by
  rw [mem_alist_of_entries h.inputs]
  simp only [mem_registrations, Registration.entry]

/-- The outpoints with a signature are those of the submissions. -/
theorem Ledger.mem_partialSigs (h : Ledger roundId log inner) :
    utxoStr ∈ inner.partialSigs ↔
      ∃ sub, .sigRecorded sub ∈ currentEvents log ∧ sub.utxo.toText = utxoStr := by
  rw [mem_alist_of_entries h.sigs]
  simp only [mem_submissions, Submission.entry]

/-- Every signature in the log is recorded. -/
theorem Ledger.lookup_partialSigs (h : Ledger roundId log inner)
    (hsub : .sigRecorded sub ∈ currentEvents log) :
    inner.partialSigs.lookup sub.utxo.toText = some sub.partialSig := by
  refine AList.mem_lookup_iff.mpr ?_
  rw [h.sigs]
  exact List.mem_map_of_mem (f := Submission.entry) (mem_submissions.mpr hsub)

/-- Every registered input has its registration in the log. -/
theorem Ledger.exists_registration (h : Ledger roundId log inner) {reg : RegisteredInput}
    (hreg : inner.registeredInputs.lookup utxoStr = some reg) :
    ∃ r, .inputRegistered r ∈ currentEvents log ∧ r.utxo.toText = utxoStr ∧ r.registered = reg := by
  have hmem := AList.mem_lookup_iff.mp hreg
  rw [h.inputs, List.mem_map] at hmem
  obtain ⟨r, hr, hentry⟩ := hmem
  obtain ⟨htext, hreg'⟩ := Sigma.mk.inj hentry
  exact ⟨r, mem_registrations.mp hr, htext, eq_of_heq hreg'⟩

end Steps

end Blindjoin
