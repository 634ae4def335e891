import Blindjoin.System.Ledger
import Blindjoin.System.Recorded

/-!
# What authorises what

A signature is accepted with a session token, an output with a signed token. No
handler compares the round id of a request, so that a token authorises nothing in
another round, or for another coin, has to come from the secret and the keys of
the rounds alone.

Two promises of the cryptography are assumed of a run, on top of secrets and keys
being drawn afresh. `Blindjoin.HmacUnforgeable`: a token the outside holds
authenticates a message under a round secret only if the coordinator made one for
it. `Blindjoin.OneMoreUnforgeable`: a token that carries a signature under the
key of a round was unblinded from a blind signature made under this key, and one
blind signature gives one token. Then **no token authorises anything but what it
was issued for** (`Blindjoin.no_cross_authorisation`).

The argument is about the log: each of its events was right when it was logged
(`Blindjoin.RoundRun.allRight`), and what was issued under a fresh secret, or a
fresh key, was issued in the round that drew it (`Blindjoin.quiet_of_eq`).
-/

namespace Blindjoin

open Interleaving Collections

/-! ### Rounds, secrets and tokens in the log -/

/-- The rounds that were started, newest first. -/
def installs (log : List RoundEvent) : List (Uuid × RoundMaterial) :=
  log.filterMap RoundEvent.installed?

/-- The round that was started last. -/
def currentRound (log : List RoundEvent) : Option (Uuid × RoundMaterial) := (installs log).head?

/-- The round secrets, newest first. -/
def roundSecrets (log : List RoundEvent) : List Bytes32 :=
  (installs log).map fun m => m.2.roundSecret

/-- The public keys of the rounds, newest first. -/
def roundKeys (log : List RoundEvent) : List RsaPublicKey :=
  (installs log).map fun m => m.2.signer.publicKey

/-- The session tokens the outside holds: the ones it was given, and the ones it
presented. -/
def heldTokens (log : List RoundEvent) : List Bytes32 :=
  (registrations log).map Registration.sessionToken ++
    (submissions log).map Submission.sessionToken

/-- What the rounds issued, newest first: the registrations, each with the material
of its round. -/
def issued : List RoundEvent → List (RoundMaterial × Registration)
  | [] => []
  | .inputRegistered r :: log => match currentRound log with
    | some (_, material) => (material, r) :: issued log
    | none => issued log
  | _ :: log => issued log

/-- What session tokens were made for, and under which secret. -/
def macQueries (log : List RoundEvent) : List (Bytes32 × Bytes) :=
  (issued log).map fun q => (q.1.roundSecret, sessionMessage q.2.utxo)

/-- The registrations a blind signature was made for, and under which key. -/
def blindQueries (log : List RoundEvent) : List (RsaPublicKey × Registration) :=
  (issued log).map fun q => (q.1.signer.publicKey, q.2)

/-- An output carries a signature of its token under a key. -/
def Redemption.SignedUnder (E : Externals) (r : Redemption) (pk : RsaPublicKey) : Prop :=
  E.rsaVerify pk r.sigBytes r.msgRandomizer r.tokenMsg.toList = true

/-- **HMAC-SHA256 is unforgeable**, in a run: at any time, a token the outside
holds authenticates a message under a round secret only if the coordinator made a
token for this message under this secret. -/
def HmacUnforgeable (E : Externals) (log : List RoundEvent) : Prop :=
  ∀ newer older, log = newer ++ older → ∀ secret ∈ roundSecrets log, ∀ msg,
    E.hmacSha256 secret.toList msg ∈ heldTokens older → (secret, msg) ∈ macQueries older

/-- **Blind signatures are one-more unforgeable**, in a run: a presented token
that carries a signature under a round key was unblinded from a blind signature
that had been made under this key, its source, and no two tokens have the same
source. -/
structure OneMoreUnforgeable (E : Externals) (log : List RoundEvent)
    (source : Redemption → Registration) : Prop where
  unblinded : ∀ newer r older, log = newer ++ .outputRegistered r :: older →
    ∀ pk ∈ roundKeys log, r.SignedUnder E pk → (pk, source r) ∈ blindQueries older
  one : ∀ r ∈ redemptions log, ∀ r' ∈ redemptions log, ∀ pk ∈ roundKeys log,
    r.SignedUnder E pk → r'.SignedUnder E pk → source r = source r' → r.tokenMsg = r'.tokenMsg

/-- How many blind signatures were issued in a round: one for each registration. -/
def issuedIn (roundId : Uuid) (log : List RoundEvent) : ℕ :=
  (registrations log).countP fun r => r.roundId = roundId

/-- How many outputs were accepted in a round. -/
def redeemedIn (roundId : Uuid) (log : List RoundEvent) : ℕ :=
  (redemptions log).countP fun r => r.roundId = roundId

section Log

variable {log older newer : List RoundEvent} {r : Registration}

theorem installs_append : installs (newer ++ older) = installs newer ++ installs older :=
  List.filterMap_append

/-- The last round that was started, as the log tells it. -/
theorem currentRound_of_started {roundId : Uuid} {material : RoundMaterial}
    (h : log = currentEvents log ++ .installed roundId material :: older) :
    currentRound log = some (roundId, material) := by
  have hquiet : installs (currentEvents log) = [] :=
    List.filterMap_eq_nil_iff.mpr fun _ he => installed?_of_mem_currentEvents he
  rw [currentRound, h, installs_append, hquiet]
  rfl

/-- Events that start no round leave the current one. -/
theorem currentRound_append (h : ∀ e ∈ newer, e.installed? = none) :
    currentRound (newer ++ older) = currentRound older := by
  rw [currentRound, installs_append, installs, List.filterMap_eq_nil_iff.mpr h, List.nil_append]
  rfl

/-- **What is fresh belongs to one round**: if two moments have the same round
secret, or the same key, no round was started in between. -/
theorem quiet_of_eq {α : Type} (f : RoundMaterial → α) {roundId roundId' : Uuid}
    {material material' : RoundMaterial}
    (hfresh : ((installs (newer ++ older)).map fun m => f m.2).Nodup)
    (hnow : currentRound (newer ++ older) = some (roundId, material))
    (hthen : currentRound older = some (roundId', material')) (heq : f material = f material') :
    ∀ e ∈ newer, e.installed? = none := by
  refine List.filterMap_eq_nil_iff.mp ?_
  show installs newer = []
  by_contra hne
  rw [installs_append, List.map_append] at hfresh
  -- a round started in between would have drawn the same value again
  have hdisjoint := (List.nodup_append.mp hfresh).2.2
  rw [currentRound, installs_append, List.head?_append_of_ne_nil _ hne] at hnow
  exact hdisjoint _ (List.mem_map_of_mem (List.mem_of_mem_head? hnow)) _
    (List.mem_map_of_mem (List.mem_of_mem_head? hthen)) heq

/-- What a round issued: it was issued for a registration, while the round was the
current one. -/
theorem exists_of_mem_issued {material : RoundMaterial} (h : (material, r) ∈ issued log) :
    ∃ newer older roundId, log = newer ++ .inputRegistered r :: older ∧
      currentRound older = some (roundId, material) := by
  induction log with
  | nil => exact absurd h List.not_mem_nil
  | cons e log ih =>
    have hrest : (material, r) ∈ issued log → ∃ newer older roundId,
        e :: log = newer ++ .inputRegistered r :: older ∧
          currentRound older = some (roundId, material) := by
      intro h
      obtain ⟨newer, older, roundId, rfl, hcurrent⟩ := ih h
      exact ⟨e :: newer, older, roundId, rfl, hcurrent⟩
    cases e with
    | inputRegistered r' =>
      rw [issued] at h
      split at h
      · next roundId material' hcurrent =>
        rcases List.mem_cons.mp h with heq | h
        · obtain ⟨rfl, rfl⟩ := Prod.mk.inj heq
          exact ⟨[], log, roundId, rfl, hcurrent⟩
        · exact hrest h
      · exact hrest h
    | _ => exact hrest h

/-- **What was issued under what is fresh** was issued in the round that drew it. -/
theorem exists_of_mem_issued_of_eq {α : Type} (f : RoundMaterial → α) {front held : List RoundEvent}
    {roundId : Uuid} {material material' : RoundMaterial}
    (hfresh : ((installs (front ++ held)).map fun m => f m.2).Nodup)
    (hcurrent : currentRound (front ++ held) = some (roundId, material))
    (h : (material', r) ∈ issued held) (heq : f material = f material') :
    ∃ front' rest, held = front' ++ .inputRegistered r :: rest ∧
      currentRound rest = some (roundId, material) ∧
      ∀ e ∈ front ++ front', e.installed? = none := by
  obtain ⟨front', rest, roundId', rfl, hthen⟩ := exists_of_mem_issued h
  have hsplit : front ++ (front' ++ .inputRegistered r :: rest) =
      (front ++ front' ++ [.inputRegistered r]) ++ rest := by simp
  rw [hsplit] at hcurrent hfresh
  have hquiet := quiet_of_eq f hfresh hcurrent hthen heq
  refine ⟨front', rest, rfl, ?_, fun e he => hquiet e (List.mem_append_left _ he)⟩
  rw [← hcurrent, currentRound_append hquiet]

/-- The rounds of the older part of a log are among all. -/
theorem nodup_installs_of_append {α : Type} (f : RoundMaterial → α)
    (h : ((installs (newer ++ older)).map fun m => f m.2).Nodup) :
    ((installs older).map fun m => f m.2).Nodup := by
  rw [installs_append, List.map_append] at h
  exact (List.nodup_append.mp h).2.1

theorem mem_installs_of_currentRound {roundId : Uuid} {material : RoundMaterial}
    (h : currentRound older = some (roundId, material)) :
    (roundId, material) ∈ installs (newer ++ older) := by
  rw [installs_append]
  exact List.mem_append_right _ (List.mem_of_mem_head? h)

end Log

/-! ### Events are right when they are logged -/

/-- What was checked of an event, after the events before it. -/
def RoundEvent.RightAfter (E : Externals) (log : List RoundEvent) : RoundEvent → Prop
  | .inputRegistered r => ∃ material, currentRound log = some (r.roundId, material) ∧
      r.sessionToken = generateSessionToken E material.roundSecret r.utxo ∧
      ∀ r', .inputRegistered r' ∈ currentEvents log → r'.utxo ≠ r.utxo
  | .outputRegistered r => ∃ material, currentRound log = some (r.roundId, material) ∧
      r.SignedUnder E material.signer.publicKey ∧
      ∀ r', .outputRegistered r' ∈ currentEvents log → r'.tokenMsg ≠ r.tokenMsg
  | .sigRecorded sub => ∃ material, currentRound log = some (sub.roundId, material) ∧
      generateSessionToken E material.roundSecret sub.utxo = sub.sessionToken ∧
      ∃ r, .inputRegistered r ∈ currentEvents log ∧ r.utxo = sub.utxo
  | _ => True

/-- Every event of a log was right when it was logged. -/
def AllRight (E : Externals) : List RoundEvent → Prop
  | [] => True
  | e :: log => e.RightAfter E log ∧ AllRight E log

section Right

variable {E : Externals} {config : CoordinatorConfig} {s s' : RoundState}
  {inner : RoundStateInner} {log older newer es : List RoundEvent} {fresh roundId : Uuid}

theorem AllRight.of_append (h : AllRight E (newer ++ older)) : AllRight E older := by
  induction newer with
  | nil => exact h
  | cons e newer ih => exact ih h.2

/-- An event in the middle of the log. -/
theorem AllRight.rightAfter {e : RoundEvent} (h : AllRight E (newer ++ e :: older)) :
    e.RightAfter E older := h.of_append.1

/-- An event of the current round was right when it was logged, in this round. -/
theorem AllRight.of_mem_currentEvents {e : RoundEvent} (h : AllRight E log)
    (he : e ∈ currentEvents log) :
    ∃ older, e.RightAfter E older ∧ currentRound older = currentRound log := by
  induction log with
  | nil => exact absurd he List.not_mem_nil
  | cons a log ih =>
    have hquiet : a.installed? = none := by
      by_contra hne
      rw [currentEvents, List.takeWhile_cons_of_neg (by simpa using hne)] at he
      exact absurd he List.not_mem_nil
    have hsame : currentRound ([a] ++ log) = currentRound log :=
      currentRound_append (by simpa using hquiet)
    rw [currentEvents_cons hquiet] at he
    rcases List.mem_cons.mp he with rfl | he
    · exact ⟨log, h.1, hsame.symm⟩
    · obtain ⟨older, hright, heq⟩ := ih h.2 he
      exact ⟨older, hright, heq.trans hsame.symm⟩

/-- The round events every section has are right whatever happened before. -/
theorem allRight_phaseEvents (h : AllRight E log) : AllRight E (phaseEvents s s' fresh ++ log) := by
  rw [phaseEvents]
  split
  · exact ⟨trivial, trivial, h⟩
  · exact ⟨trivial, h⟩

theorem Ledger.currentRound (h : Ledger roundId log inner) :
    ∃ material, currentRound log = some (roundId, material) ∧
      inner.rsaSigner = some material.signer ∧ inner.roundSecret = material.roundSecret := by
  obtain ⟨material, rest, hlog, hsigner, hsecret⟩ := h.started
  exact ⟨material, currentRound_of_started hlog, hsigner, hsecret⟩

theorem Registers.rightAfter {r : Registration} (h : Registers E config s inner r)
    (hledger : Ledger s.roundId log inner) : (RoundEvent.inputRegistered r).RightAfter E log := by
  obtain ⟨material, hcurrent, -, hsecret⟩ := hledger.currentRound
  refine ⟨material, h.roundId ▸ hcurrent, hsecret ▸ h.session, fun r' hr' heq => ?_⟩
  exact h.new (hledger.mem_registeredInputs.mpr ⟨r', hr', congrArg _ heq⟩)

theorem Redeems.rightAfter {r : Redemption} (h : Redeems E config s inner r)
    (hledger : Ledger s.roundId log inner) : (RoundEvent.outputRegistered r).RightAfter E log := by
  obtain ⟨material, hcurrent, hsigner, -⟩ := hledger.currentRound
  obtain ⟨signer, hsigner', hsig⟩ := h.signed
  obtain rfl := Option.some.inj (hsigner.symm.trans hsigner')
  refine ⟨material, h.roundId ▸ hcurrent, hsig, fun r' hr' heq => h.unredeemed ?_⟩
  rw [hledger.tokens, List.mem_toFinset, ← heq]
  exact List.mem_map_of_mem (mem_redemptions.mpr hr')

theorem Submissible.rightAfter {sub : Submission} {roundIdStr : String}
    {values : List RegisteredInput}
    (h : Submissible E s config sub.utxo sub.partialSig sub.sessionToken roundIdStr values inner)
    (hid : sub.roundId = s.roundId) (hledger : Ledger s.roundId log inner) :
    (RoundEvent.sigRecorded sub).RightAfter E log := by
  obtain ⟨material, hcurrent, -, hsecret⟩ := hledger.currentRound
  obtain ⟨r, hr, htext⟩ := hledger.mem_registeredInputs.mp h.mem_registeredInputs
  exact ⟨material, hid ▸ hcurrent, hsecret ▸ h.session, r, hr, OutPoint.toText_injective htext⟩

/-- **Every step logs what is right.** -/
theorem RoundStep.allRight (h : RoundStep E config fresh s es s')
    (hledger : ∀ inner, s.inner = some inner → Ledger s.roundId log inner)
    (hlog : AllRight E log) : AllRight E (es ++ log) := by
  cases h with
  | registerInput h => exact ⟨h.rightAfter (hledger _ h.inner_eq), hlog⟩
  | registerOutput h => exact ⟨h.rightAfter (hledger _ h.inner_eq), hlog⟩
  | recordSig _ _ hid hsub => exact ⟨hsub.rightAfter hid (hledger _ hsub.inner_eq), hlog⟩
  | complete _ _ hid hsub => exact ⟨hsub.rightAfter hid (hledger _ hsub.inner_eq), hlog⟩
  | finish h => cases h <;> first | exact hlog | exact ⟨trivial, hlog⟩
  | install => exact ⟨trivial, hlog⟩
  | _ => exact hlog

/-- **The log of a round that ran is right.** -/
theorem RoundRun.allRight (hv : config.Valid) (h : RoundRun E config s log) : AllRight E log := by
  induction h with
  | start fresh => exact ⟨trivial, trivial, trivial⟩
  | step hrun hstep ih =>
    rw [List.append_assoc]
    exact allRight_phaseEvents (hstep.allRight (hrun.ledger hv) ih)

end Right

/-! ### Session tokens -/

section Sessions

variable {E : Externals} {log older newer front held : List RoundEvent} {r : Registration}
  {sub : Submission} {roundId : Uuid} {material : RoundMaterial}

/-- A registration of the current round was given the token its round secret
makes for its coin. -/
theorem AllRight.session (h : AllRight E log)
    (hcurrent : currentRound log = some (roundId, material))
    (hr : .inputRegistered r ∈ currentEvents log) :
    r.roundId = roundId ∧ r.sessionToken = generateSessionToken E material.roundSecret r.utxo := by
  obtain ⟨older, ⟨material', hthen, htoken, -⟩, heq⟩ := h.of_mem_currentEvents hr
  obtain ⟨rfl, rfl⟩ := Prod.mk.inj (Option.some.inj (hthen.symm.trans (heq.trans hcurrent)))
  exact ⟨rfl, htoken⟩

/-- **A held token that authenticates a coin was made for it**, in the round
that has the secret. -/
theorem HmacUnforgeable.exists_registration (h : HmacUnforgeable E log)
    (hfresh : (roundSecrets log).Nodup) (hlog : log = newer ++ (front ++ held))
    (hcurrent : currentRound (front ++ held) = some (roundId, material)) (utxo : OutPoint)
    (hheld : generateSessionToken E material.roundSecret utxo ∈ heldTokens held) :
    ∃ front' r rest, held = front' ++ .inputRegistered r :: rest ∧ r.utxo = utxo ∧
      currentRound rest = some (roundId, material) ∧
      ∀ e ∈ front ++ front', e.installed? = none := by
  have hsecret : material.roundSecret ∈ roundSecrets log := by
    rw [hlog]
    exact List.mem_map_of_mem (f := fun m : Uuid × RoundMaterial => m.2.roundSecret)
      (mem_installs_of_currentRound hcurrent)
  -- a token nobody can forge was asked for, and its secret names the round
  have hquery := h (newer ++ front) held (by rw [hlog, List.append_assoc]) material.roundSecret
    hsecret (sessionMessage utxo) hheld
  obtain ⟨⟨material', r⟩, hissued, heq⟩ := List.mem_map.mp hquery
  obtain ⟨hsecret', hmsg⟩ := Prod.mk.inj heq
  rw [hlog] at hfresh
  obtain ⟨front', rest, rfl, hthen, hquiet⟩ := exists_of_mem_issued_of_eq RoundMaterial.roundSecret
    (nodup_installs_of_append _ hfresh) hcurrent hissued hsecret'.symm
  exact ⟨front', r, rest, rfl, sessionMessage_injective hmsg, hthen, hquiet⟩

/-- A registration is given a token that no registration before it in the round
was given. -/
theorem HmacUnforgeable.sessionToken_ne (h : HmacUnforgeable E log)
    (hfresh : (roundSecrets log).Nodup) (hright : AllRight E log) {r₁ : Registration}
    (hlog : log = newer ++ .inputRegistered r :: (front ++ .inputRegistered r₁ :: older)) :
    r.sessionToken ≠ r₁.sessionToken := by
  intro heq
  obtain ⟨material, hcurrent, htoken, hnew⟩ := (hlog ▸ hright).rightAfter
  have hlog' : log =
      (newer ++ [.inputRegistered r]) ++ (front ++ .inputRegistered r₁ :: older) := by
    rw [hlog]
    simp
  obtain ⟨front', r₂, rest, hsplit, hutxo, -, hquiet⟩ :=
    h.exists_registration hfresh hlog' hcurrent r.utxo (by
      rw [← htoken, heq]
      exact List.mem_append_left _ List.mem_cons_self)
  refine hnew r₂ ?_ hutxo
  rw [hsplit, ← List.append_assoc, currentEvents_append hquiet, currentEvents_cons rfl]
  exact List.mem_append_right _ List.mem_cons_self

/-- **A token of another coin, or of another round, authorises nothing**: a
registration whose token was presented with an accepted signature is the one of
this coin in this round. -/
theorem HmacUnforgeable.authorises (h : HmacUnforgeable E log) (hfresh : (roundSecrets log).Nodup)
    (hright : AllRight E log) (hlog : log = newer ++ .sigRecorded sub :: older)
    (hr : .inputRegistered r ∈ older) (htoken : r.sessionToken = sub.sessionToken) :
    .inputRegistered r ∈ currentEvents older ∧ r.utxo = sub.utxo := by
  obtain ⟨material, hcurrent, hsession, -⟩ := (hlog ▸ hright).rightAfter
  obtain ⟨front, before, rfl⟩ := List.append_of_mem hr
  have hlog' : log = (newer ++ [.sigRecorded sub]) ++ (front ++ .inputRegistered r :: before) := by
    rw [hlog]
    simp
  -- the token was made for the presented coin, in this round, no later than for `r`
  obtain ⟨front', r₁, rest, hsplit, hutxo, hthen, hquiet⟩ :=
    h.exists_registration hfresh hlog' hcurrent sub.utxo (by
      rw [hsession, ← htoken]
      exact List.mem_append_left _ List.mem_cons_self)
  have htoken₁ : r₁.sessionToken = sub.sessionToken := by
    have hright₁ : AllRight E (.inputRegistered r₁ :: rest) :=
      (hsplit ▸ (hlog' ▸ hright).of_append.of_append).of_append
    obtain ⟨material₁, hthen₁, htoken₁, -⟩ := hright₁.1
    obtain ⟨-, rfl⟩ := Prod.mk.inj (Option.some.inj (hthen.symm.trans hthen₁))
    rw [htoken₁, hutxo, hsession]
  constructor
  · rw [currentEvents_append fun e he => hquiet e (List.mem_append_left _ he),
      currentEvents_cons rfl]
    exact List.mem_append_right _ List.mem_cons_self
  · cases front' with
    | nil =>
      obtain ⟨heq, -⟩ := List.cons.inj hsplit
      -- the two registrations are one, or a later one was given the same token
      rw [RoundEvent.inputRegistered.inj heq, hutxo]
    | cons e front' =>
      rw [List.cons_append] at hsplit
      obtain ⟨rfl, rfl⟩ := List.cons.inj hsplit
      rw [← List.append_assoc] at hlog'
      exact absurd (htoken.trans htoken₁.symm) (h.sessionToken_ne hfresh hright hlog')

end Sessions

/-! ### Outputs and blind signatures -/

section Outputs

variable {E : Externals} {config : CoordinatorConfig} {s s' : RoundState}
  {inner : RoundStateInner} {log es : List RoundEvent} {fresh : Uuid}

theorem issuedIn_append (roundId : Uuid) :
    issuedIn roundId (es ++ log) = issuedIn roundId es + issuedIn roundId log := by
  rw [issuedIn, registrations, List.filterMap_append, List.countP_append]
  rfl

theorem redeemedIn_append (roundId : Uuid) :
    redeemedIn roundId (es ++ log) = redeemedIn roundId es + redeemedIn roundId log := by
  rw [redeemedIn, redemptions, List.filterMap_append, List.countP_append]
  rfl

/-- What is issued and redeemed in a round, and what is still to be redeemed in
the running one. -/
structure Balanced (s : RoundState) (log : List RoundEvent) : Prop where
  total : ∀ roundId, redeemedIn roundId log ≤ issuedIn roundId log
  running : ∀ inner, s.inner = some inner →
    redeemedIn s.roundId log + HashMap.len inner.registeredInputs ≤
      issuedIn s.roundId log + inner.registeredOutputs.length

/-- **Every step keeps the balance.** -/
theorem RoundStep.balanced (h : RoundStep E config fresh s es s') (hinv : Balanced s log)
    (hle : ∀ inner, s'.inner = some inner →
      inner.registeredOutputs.length ≤ HashMap.len inner.registeredInputs) :
    Balanced s' (es ++ log) := by
  cases h with
  | unchanged => exact hinv
  | install hphase material =>
    refine ⟨hinv.total, fun inner hinner => ?_⟩
    obtain rfl := Option.some.inj hinner
    exact hinv.total s.roundId
  | @registerInput inner r h =>
    have hrunning := hinv.running inner h.inner_eq
    constructor
    · intro roundId
      have htotal := hinv.total roundId
      rw [issuedIn_append, redeemedIn_append]
      exact Nat.add_le_add (Nat.zero_le _) htotal
    · intro inner' hinner
      obtain rfl := Option.some.inj hinner
      have hissued : issuedIn s.roundId [.inputRegistered r] = 1 := by
        simp [issuedIn, registrations, RoundEvent.registration?, h.roundId]
      show redeemedIn s.roundId log + HashMap.len (inner.registeredInputs.insert _ _) ≤
        -- one more input, and one more blind signature for it
        issuedIn s.roundId ([.inputRegistered r] ++ log) + inner.registeredOutputs.length
      rw [issuedIn_append, hissued, HashMap.len_insert _ h.new]
      omega
  | @registerOutput inner r h =>
    have hrunning := hinv.running inner h.inner_eq
    have hlen : (inner.withOutput r).registeredOutputs.length =
        inner.registeredOutputs.length + 1 := List.length_append
    -- the outputs never outnumber the inputs, which leaves room for this one
    have hroom := hle _ rfl
    have hinputs : (inner.withOutput r).registeredInputs = inner.registeredInputs := rfl
    rw [hlen, hinputs] at hroom
    have hredeemed : ∀ roundId, redeemedIn roundId [.outputRegistered r] =
        if s.roundId = roundId then 1 else 0 := by
      intro roundId
      simp [redeemedIn, redemptions, RoundEvent.redemption?, h.roundId, List.countP_singleton]
    constructor
    · intro roundId
      have htotal := hinv.total roundId
      have hissued : issuedIn roundId [.outputRegistered r] = 0 := rfl
      rw [issuedIn_append, redeemedIn_append, hissued, hredeemed]
      split
      · next heq =>
        subst heq
        omega
      · omega
    · intro inner' hinner
      obtain rfl := Option.some.inj hinner
      have hissued : issuedIn s.roundId [.outputRegistered r] = 0 := rfl
      show redeemedIn s.roundId ([.outputRegistered r] ++ log) +
          HashMap.len inner.registeredInputs ≤
        issuedIn s.roundId ([.outputRegistered r] ++ log) +
          (inner.withOutput r).registeredOutputs.length
      rw [issuedIn_append, redeemedIn_append, hissued, hredeemed, if_pos rfl, hlen]
      omega
  | inputDeadline => exact ⟨hinv.total, hinv.running⟩
  | outputDeadline => exact ⟨hinv.total, hinv.running⟩
  | recordSig hphase hiter hid hsub =>
    refine ⟨hinv.total, fun inner hinner => ?_⟩
    obtain rfl := Option.some.inj hinner
    have hrunning := hinv.running _ hsub.inner_eq
    exact hrunning
  | complete hphase hiter hid hsub =>
    refine ⟨hinv.total, fun inner hinner => ?_⟩
    obtain rfl := Option.some.inj hinner
    have hrunning := hinv.running _ hsub.inner_eq
    exact hrunning
  | finish h =>
    refine ⟨?_, fun inner hinner => absurd hinner (by simp [RoundState.newIdle])⟩
    cases h <;> exact hinv.total

/-- **No more outputs are accepted than blind signatures issued**, round by
round. -/
theorem RoundRun.balanced (hv : config.Valid) (h : RoundRun E config s log) : Balanced s log := by
  induction h with
  | start fresh =>
    exact ⟨fun _ => Nat.le_refl _, fun inner hinner => absurd hinner (by simp [RoundState.newIdle])⟩
  | @step s s' log es fresh hrun hstep ih =>
    have hstepped := hstep.balanced ih fun inner hinner =>
      (hrun.step hstep).outputs_le_inputs hv hinner
    have hzero : ∀ roundId, issuedIn roundId (phaseEvents s s' fresh) = 0 ∧
        redeemedIn roundId (phaseEvents s s' fresh) = 0 := by
      intro roundId
      rw [phaseEvents]
      split <;> exact ⟨rfl, rfl⟩
    rw [List.append_assoc]
    constructor
    · intro roundId
      rw [issuedIn_append, redeemedIn_append, (hzero roundId).1, (hzero roundId).2]
      simpa using hstepped.total roundId
    · intro inner hinner
      rw [issuedIn_append, redeemedIn_append, (hzero _).1, (hzero _).2]
      simpa using hstepped.running inner hinner

/-- An output accepted in the current round carries a signature under its key. -/
theorem AllRight.signedUnder {r : Redemption} {roundId : Uuid} {material : RoundMaterial}
    (h : AllRight E log) (hcurrent : currentRound log = some (roundId, material))
    (hr : .outputRegistered r ∈ currentEvents log) : r.SignedUnder E material.signer.publicKey := by
  obtain ⟨older, ⟨material', hthen, hsigned, -⟩, heq⟩ := h.of_mem_currentEvents hr
  obtain ⟨-, rfl⟩ := Prod.mk.inj (Option.some.inj (hthen.symm.trans (heq.trans hcurrent)))
  exact hsigned

/-- **An accepted output was paid for in its round**: its token was unblinded from
a blind signature issued in this round, and from none that an output accepted
before it was unblinded from. -/
theorem OneMoreUnforgeable.paid {newer older : List RoundEvent} {source : Redemption → Registration}
    {r : Redemption} (h : OneMoreUnforgeable E log source) (hfresh : (roundKeys log).Nodup)
    (hright : AllRight E log) (hlog : log = newer ++ .outputRegistered r :: older) :
    .inputRegistered (source r) ∈ currentEvents older ∧ (source r).roundId = r.roundId ∧
      ∀ r', .outputRegistered r' ∈ currentEvents older → source r' ≠ source r := by
  have holder : AllRight E older := (hlog ▸ hright).of_append.2
  obtain ⟨material, hcurrent, hsigned, hnew⟩ := (hlog ▸ hright).rightAfter
  have hlog' : log = (newer ++ [.outputRegistered r]) ++ older := by simp [hlog]
  have hkey : material.signer.publicKey ∈ roundKeys log := by
    rw [hlog']
    exact List.mem_map_of_mem (f := fun m : Uuid × RoundMaterial => m.2.signer.publicKey)
      (mem_installs_of_currentRound hcurrent)
  -- the token came from a blind signature made under this key, hence in this round
  have hquery := h.unblinded newer r older hlog _ hkey hsigned
  obtain ⟨⟨material', reg⟩, hissued, heq⟩ := List.mem_map.mp hquery
  obtain ⟨hkey', rfl⟩ := Prod.mk.inj heq
  have hnodup : ((installs ([] ++ older)).map fun m => m.2.signer.publicKey).Nodup := by
    rw [hlog'] at hfresh
    exact nodup_installs_of_append (fun m => m.signer.publicKey) hfresh
  obtain ⟨front, rest, rfl, -, hquiet⟩ :=
    exists_of_mem_issued_of_eq (fun m => m.signer.publicKey) hnodup hcurrent hissued hkey'.symm
  rw [List.nil_append] at hquiet
  have hmem : .inputRegistered (source r) ∈
      currentEvents (front ++ .inputRegistered (source r) :: rest) := by
    rw [currentEvents_append hquiet, currentEvents_cons rfl]
    exact List.mem_append_right _ List.mem_cons_self
  refine ⟨hmem, (holder.session hcurrent hmem).1, fun r' hr' heq => hnew r' hr' ?_⟩
  refine h.one r' ?_ r ?_ _ hkey (holder.signedUnder hcurrent hr') hsigned heq
  · rw [mem_redemptions, hlog']
    exact List.mem_append_right _ (mem_of_mem_currentEvents hr')
  · rw [mem_redemptions, hlog]
    exact List.mem_append_right _ List.mem_cons_self

end Outputs

/-! ### Every reachable world -/

section Reachable

variable {E : Externals} {config : CoordinatorConfig} {fresh : Uuid} {banList : BanList}
  {w : World Coordinator Task Event}

/-- **Nothing authorises across rounds or participants**, when round secrets and
keys are drawn afresh, session tokens cannot be forged, and blind signatures give
one token each. A signature is recorded only with the session token that the
registration of this coin in this round was given, and no registration of another
coin or in another round was given this token. In no round are more outputs
accepted than blind signatures issued, and an accepted output was paid for with a
blind signature issued in this round, which paid for no output before. -/
theorem no_cross_authorisation (hvalid : config.validate = .ok ())
    (hr : Reachable (coordinator E config) (startup fresh banList) w)
    (hsecrets : (roundSecrets (roundEvents w.log)).Nodup)
    (hkeys : (roundKeys (roundEvents w.log)).Nodup)
    (hhmac : HmacUnforgeable E (roundEvents w.log)) {source : Redemption → Registration}
    (hblind : OneMoreUnforgeable E (roundEvents w.log) source) :
    (∀ newer sub older, roundEvents w.log = newer ++ .sigRecorded sub :: older →
      (∃ r, .inputRegistered r ∈ currentEvents older ∧ r.roundId = sub.roundId ∧
        r.utxo = sub.utxo ∧ r.sessionToken = sub.sessionToken) ∧
      ∀ r, .inputRegistered r ∈ older → r.sessionToken = sub.sessionToken →
        .inputRegistered r ∈ currentEvents older ∧ r.roundId = sub.roundId ∧
          r.utxo = sub.utxo) ∧
    (∀ roundId, redeemedIn roundId (roundEvents w.log) ≤ issuedIn roundId (roundEvents w.log)) ∧
    ∀ newer r older, roundEvents w.log = newer ++ .outputRegistered r :: older →
      .inputRegistered (source r) ∈ currentEvents older ∧ (source r).roundId = r.roundId ∧
        ∀ r', .outputRegistered r' ∈ currentEvents older → source r' ≠ source r := by
  have hv := CoordinatorConfig.valid_of_validate hvalid
  have hrun := roundRun_of_reachable hr
  have hright := hrun.allRight hv
  refine ⟨fun newer sub older hlog => ?_, (hrun.balanced hv).total,
    fun newer r older hlog => hblind.paid hkeys hright hlog⟩
  obtain ⟨material, hcurrent, hsession, r₀, hr₀, hutxo⟩ := (hlog ▸ hright).rightAfter
  have holder : AllRight E older := (hlog ▸ hright).of_append.2
  constructor
  · obtain ⟨hid, htoken⟩ := holder.session hcurrent hr₀
    exact ⟨r₀, hr₀, hid, hutxo, by rw [htoken, hutxo, hsession]⟩
  · intro r hmem htoken
    obtain ⟨hmem', hutxo'⟩ := hhmac.authorises hsecrets hright hlog hmem htoken
    exact ⟨hmem', (holder.session hcurrent hmem').1, hutxo'⟩

end Reachable

/-! ### A session in which nothing was forged -/

instance (E : Externals) (r : Redemption) (pk : RsaPublicKey) : Decidable (r.SignedUnder E pk) :=
  inferInstanceAs (Decidable (_ = true))

/-- A token that was held is held for good. -/
theorem heldTokens_subset {older log : List RoundEvent} (h : older <:+ log) :
    heldTokens older ⊆ heldTokens log :=
  (((h.sublist.filterMap _).map _).append ((h.sublist.filterMap _).map _)).subset

/-- No session token of a recording was forged, when every one that is held had
been asked for. -/
theorem Recording.hmacUnforgeable {R : Recording} {log : List RoundEvent}
    (hzeros : List.Vector.replicate 32 0 ∉ heldTokens log)
    (hasked : ∀ older ∈ log.tails, ∀ entry ∈ R.hmacSha256, entry.2 ∈ heldTokens older →
      ∀ secret ∈ roundSecrets log, secret.toList = entry.1.1 →
        (secret, entry.1.2) ∈ macQueries older) :
    HmacUnforgeable R.externals log := by
  intro newer older hlog secret hsecret msg hheld
  have hsuffix : older <:+ log := ⟨newer, hlog.symm⟩
  -- what was not recorded answers zeros, which nobody holds
  have hne : R.externals.hmacSha256 secret.toList msg ≠ List.Vector.replicate 32 0 := fun heq =>
    hzeros (heldTokens_subset hsuffix (heq ▸ hheld))
  exact hasked older ((List.mem_tails _ _).mpr hsuffix) _ (R.mem_hmacSha256 hne) hheld secret
    hsecret rfl

/-- Whether the output that was accepted last has a source: a blind signature that
had been made under the key that signed it. -/
def hasSource (E : Externals) (keys : List RsaPublicKey) (source : Redemption → Registration) :
    List RoundEvent → Bool
  | .outputRegistered r :: older =>
    keys.all fun pk => r.SignedUnder E pk → (pk, source r) ∈ blindQueries older
  | _ => true

theorem unblinded_of_hasSource {E : Externals} {log : List RoundEvent}
    {source : Redemption → Registration}
    (h : ∀ older ∈ log.tails, hasSource E (roundKeys log) source older = true) :
    ∀ newer r older, log = newer ++ .outputRegistered r :: older →
      ∀ pk ∈ roundKeys log, r.SignedUnder E pk → (pk, source r) ∈ blindQueries older := by
  intro newer r older hlog pk hpk
  have hcheck := h (.outputRegistered r :: older) ((List.mem_tails _ _).mpr ⟨newer, hlog.symm⟩)
  exact of_decide_eq_true (List.all_eq_true.mp hcheck pk hpk)

/-- The registration of the first participant. -/
def firstRegistration : Registration where
  roundId := firstRound
  utxo := firstCoin
  changeAddress := firstInput.changeAddress
  ownershipProof := ⟨1, [firstProof, firstKey], none, none⟩
  proofRoundId := firstRound.toText
  details := ⟨1020000, firstScript, .p2wpkh⟩
  blindedToken := blindedToken
  blindSignature := blindedToken
  sessionToken := firstSession

/-- The registration of the second participant. -/
def secondRegistration : Registration where
  roundId := firstRound
  utxo := secondCoin
  changeAddress := secondInput.changeAddress
  ownershipProof := ⟨1, [secondProof, secondKey], none, none⟩
  proofRoundId := firstRound.toText
  details := ⟨1030000, secondScript, .p2shP2wpkh⟩
  blindedToken := blindedToken
  blindSignature := blindedToken
  sessionToken := secondSession

/-- Where the two tokens come from. -/
def sessionSource (r : Redemption) : Registration :=
  if r.tokenMsg = firstToken then firstRegistration else secondRegistration

/-- The events of the session up to the first signature. -/
def sessionLog : List RoundEvent := roundEvents (worldAfter oneSignedMoves).log

theorem no_cross_authorisation_session :
    (submissions sessionLog).map Submission.sessionToken = [firstSession] ∧
    (∀ newer sub older, sessionLog = newer ++ .sigRecorded sub :: older →
      (∃ r, .inputRegistered r ∈ currentEvents older ∧ r.roundId = sub.roundId ∧
        r.utxo = sub.utxo ∧ r.sessionToken = sub.sessionToken) ∧
      ∀ r, .inputRegistered r ∈ older → r.sessionToken = sub.sessionToken →
        .inputRegistered r ∈ currentEvents older ∧ r.roundId = sub.roundId ∧
          r.utxo = sub.utxo) ∧
    (∀ roundId, redeemedIn roundId sessionLog ≤ issuedIn roundId sessionLog) ∧
    ∀ newer r older, sessionLog = newer ++ .outputRegistered r :: older →
      .inputRegistered (sessionSource r) ∈ currentEvents older ∧
        (sessionSource r).roundId = r.roundId ∧
        ∀ r', .outputRegistered r' ∈ currentEvents older → sessionSource r' ≠ sessionSource r := by
  have hrun : (submissions sessionLog).map Submission.sessionToken = [firstSession] ∧
      (roundSecrets sessionLog).Nodup ∧ (roundKeys sessionLog).Nodup ∧
      List.Vector.replicate 32 0 ∉ heldTokens sessionLog ∧
      (∀ older ∈ sessionLog.tails, ∀ entry ∈ session.hmacSha256, entry.2 ∈ heldTokens older →
        ∀ secret ∈ roundSecrets sessionLog, secret.toList = entry.1.1 →
          (secret, entry.1.2) ∈ macQueries older) ∧
      (∀ older ∈ sessionLog.tails,
        hasSource session.externals (roundKeys sessionLog) sessionSource older = true) ∧
      ∀ r ∈ redemptions sessionLog, ∀ r' ∈ redemptions sessionLog, ∀ pk ∈ roundKeys sessionLog,
        r.SignedUnder session.externals pk → r'.SignedUnder session.externals pk →
          sessionSource r = sessionSource r' → r.tokenMsg = r'.tokenMsg := by
    decide +kernel
  obtain ⟨hsigned, hsecrets, hkeys, hzeros, hasked, hsource, hone⟩ := hrun
  exact ⟨hsigned, no_cross_authorisation configOfTwo_validate (worldAfter_reachable oneSignedMoves)
    hsecrets hkeys (Recording.hmacUnforgeable hzeros hasked)
    ⟨unblinded_of_hasSource hsource, hone⟩⟩

end Blindjoin
