import Blindjoin.Client.Outpoint
import Blindjoin.System.Recorded
import Blindjoin.System.Requests

/-!
# One outpoint, many spellings

A text of an outpoint may have leading zeros, a plus sign, or hexadecimal in upper case.
Bans, registrations and signatures are kept under the text the outpoint is printed as, so
the spelling of a request does not matter: a request that spells its outpoint differently
lives the same life, section by section and whatever happens in between
(`Blindjoin.sections_respell`), and the keys it is looked up and recorded under are made
from the outpoint alone (`Blindjoin.InputKeys`, `Blindjoin.SignKeys`).
-/

namespace Blindjoin

open Interleaving

/-! ### Statement -/

/-- The same task, its request with another spelling of its outpoint. -/
def Task.respell (text : String) : Task → Task
  | .postInput req stage => .postInput { req with utxoOutpoint := text } stage
  | .postSign req stage => .postSign { req with utxoOutpoint := text } stage
  | t => t

/-- The text is another spelling of what the request of the task says, or both are no
outpoints. -/
def Task.Spells (text : String) : Task → Prop
  | .postInput req _ => parseOutpoint text = parseOutpoint req.utxoOutpoint
  | .postSign req _ => parseOutpoint text = parseOutpoint req.utxoOutpoint
  | _ => True

/-- The keys of a registration of a coin are its canonical text. -/
structure InputKeys (E : Externals) (config : CoordinatorConfig) (req : InputRegRequest)
    (utxo : OutPoint) : Prop where
  /-- The ban key. -/
  ban : ∀ banList now, (do let o ← postInputOutpoint req; postInputBanCheck E banList o now) =
    .ok () ↔ banList.isBanned E utxo.toText now = false
  /-- The registration key: free before, taken after, and the only one that is. -/
  registration : ∀ s s' o token details result, postInputOutpoint req = .ok o →
    postInputRegister E config s req o token details = .ok (s', result) →
    ∃ inner inner' reg, s.inner = some inner ∧ s'.inner = some inner' ∧
      utxo.toText ∉ inner.registeredInputs ∧
      inner'.registeredInputs = inner.registeredInputs.insert utxo.toText reg

/-- The session token of a submission for a coin is made from the coin, and its signature
is kept under the canonical text. -/
structure SignKeys (E : Externals) (config : CoordinatorConfig) (req : SignRequest)
    (utxo : OutPoint) : Prop where
  /-- The coin the submission is processed for. -/
  decoded : ∀ d, postSignDecode E req = .ok d → d.utxo = utxo
  /-- A signature is recorded for the session token of the coin, under its canonical text:
  free before, taken after, and the only key that is. -/
  signature : ∀ d, postSignDecode E req = .ok d → ∀ s iter,
    (postSignProcess E config s d iter).1 = s ∨ ∃ inner inner', s.inner = some inner ∧
      (postSignProcess E config s d iter).1.inner = some inner' ∧
      generateSessionToken E inner.roundSecret utxo = d.sessionToken ∧
      utxo.toText ∉ inner.partialSigs ∧
      inner'.partialSigs = inner.partialSigs.insert utxo.toText d.partialSig

/-! ### The keys -/

/-- Moving on to another phase keeps the participants and the keys. -/
theorem RoundState.inner_tryTransitionTo {s : RoundState} {next : Phase} {fresh : Uuid}
    (h : next ≠ .idle) : (s.tryTransitionTo next fresh).inner = s.inner := by
  rw [tryTransitionTo, transitionTo, if_neg h]
  by_cases hedge : s.phase.canTransitionTo next = true
  · rw [if_pos hedge]
  · rw [if_neg hedge]

section Keys

variable {E : Externals} {config : CoordinatorConfig} {utxo : OutPoint}

theorem inputKeys {req : InputRegRequest} (h : parseOutpoint req.utxoOutpoint = some utxo) :
    InputKeys E config req utxo := by
  have hoption : postInputOutpoint req = .ok utxo := okOr_eq_ok.mpr h
  constructor
  · intro banList now
    rw [hoption]
    exact require_eq_ok
  · intro s s' o token details result ho hreg
    obtain rfl := Except.ok.inj (hoption.symm.trans ho)
    simp only [postInputRegister, registerInput, bind_eq_ok, ofExcept_eq_ok, checkPhase_eq_ok,
      require_eq_ok, mapErr_eq_ok, okOr_eq_ok, expect_eq_ok] at hreg
    obtain ⟨_, _, _, _, _, -, ⟨s₁, result₁⟩, ⟨inner, hinner, _, hnew, _, _, _, _, heq₁⟩, heq⟩ :=
      hreg
    obtain ⟨rfl, rfl⟩ := Prod.mk.inj (Except.ok.inj heq₁)
    obtain ⟨rfl, rfl⟩ := Prod.mk.inj (Except.ok.inj heq)
    let reg : RegisteredInput := ⟨utxo.toText, req.changeAddress, details.scriptPubkey,
      details.valueSats, details.scriptType⟩
    refine ⟨inner, { inner with
      registeredInputs := inner.registeredInputs.insert utxo.toText reg }, reg, hinner, ?_, hnew,
      rfl⟩
    -- a full round moves on, with the participants it has
    split
    · exact RoundState.inner_tryTransitionTo (by decide)
    · rfl

theorem signKeys {req : SignRequest} (h : parseOutpoint req.utxoOutpoint = some utxo) :
    SignKeys E config req utxo := by
  have hutxo : ∀ d, postSignDecode E req = .ok d → d.utxo = utxo := by
    intro d hd
    simp only [postSignDecode, bind_eq_ok, okOr_eq_ok] at hd
    obtain ⟨o, ho, _, _, _, _, heq⟩ := hd
    obtain rfl := Except.ok.inj heq
    exact Option.some.inj (ho.symm.trans h)
  refine ⟨hutxo, fun d hd s iter => ?_⟩
  obtain rfl := hutxo d hd
  rw [postSignProcess]
  cases hphase : checkPhase .signing s with
  | error e => exact Or.inl rfl
  | ok _ =>
    rcases processSign_cases E config d.utxo d.partialSig d.sessionToken s.roundId.toText iter
        (checkPhase_eq_ok.mp hphase) with
      ⟨e, he⟩ | ⟨inner, hsub, outcome, -, he⟩ | ⟨inner, hsub, prepared, -, he⟩
    · exact Or.inl (by simp only [he])
    · exact Or.inr ⟨inner, inner.withSig d.utxo d.partialSig, hsub.inner_eq, by simp only [he],
        hsub.session, hsub.fresh, rfl⟩
    · exact Or.inr ⟨inner, inner.withSig d.utxo d.partialSig, hsub.inner_eq, by simp only [he],
        hsub.session, hsub.fresh, rfl⟩

end Keys

/-! ### The sections -/

section Sections

variable {E : Externals} {config : CoordinatorConfig} {s : Coordinator} {c : Choice} {t : Task}
  {text : String}

theorem attempt_rename {α : Type} {respond : HttpError → Response} {r : Res HttpError α}
    {k : α → Section} :
    (attempt s respond r k).rename (Task.respell text) =
      attempt s respond r fun a => (k a).rename (Task.respell text) := by
  rcases r with (e | m) | a
  · rfl
  · rfl
  · rfl

/-- What a task goes on as is respelled along. -/
theorem Task.GoesOn.spells {u : Task} (h : t.GoesOn u) (ht : t.Spells text) : u.Spells text := by
  cases h with
  | postInput req stage stage' => exact ht
  | postSign req stage stage' => exact ht
  | ended hended =>
    cases u with
    | postInput req stage => exact hended.elim
    | postSign req stage => exact hended.elim
    | _ => exact trivial
  | _ => exact trivial

/-- A task that ended has no spelling. -/
theorem Task.Ended.respell (h : t.Ended) : t.respell text = t := by
  cases t with
  | postInput req stage => exact h.elim
  | postSign req stage => exact h.elim
  | _ => rfl

/-- What a task without another spelling goes on as has none. -/
theorem Task.GoesOn.respell {u : Task} (h : t.GoesOn u) (ht : t.respell text = t) :
    u.respell text = u := by
  cases h with
  | postInput req stage stage' =>
    obtain ⟨hreq, -⟩ := Task.postInput.inj ht
    exact congrArg (Task.postInput · stage') hreq
  | postSign req stage stage' =>
    obtain ⟨hreq, -⟩ := Task.postSign.inj ht
    exact congrArg (Task.postSign · stage') hreq
  | ended hended => exact hended.respell
  | _ => rfl

theorem taskSection_rename (ht : t.respell text = t) :
    (taskSection E config s c t).map (Effect.rename (Task.respell text)) =
      taskSection E config s c t := by
  cases hsec : taskSection E config s c t with
  | none => rfl
  | some e =>
    have hnext := (taskSection_goesOn hsec).respell ht
    rw [Option.map_some, Effect.rename, hnext]

/-- **One section of a respelled request** is the section of the request, respelled. -/
theorem taskSection_respell (ht : t.Spells text) :
    taskSection E config s c (t.respell text) =
      (taskSection E config s c t).map (Effect.rename (Task.respell text)) := by
  cases t with
  | postInput req stage =>
    have houtpoint : postInputOutpoint { req with utxoOutpoint := text } =
        postInputOutpoint req := by
      rw [postInputOutpoint, postInputOutpoint]
      exact congrArg _ ht
    simp only [Task.respell, taskSection, Option.map_some, Option.some.injEq]
    cases stage with
    | received =>
      simp only [postInputSection, attempt_rename, houtpoint]
      rfl
    | parsed utxo =>
      simp only [postInputSection, attempt_rename]
      rfl
    | decoded utxo token proof => rfl
    | snapshotted utxo token proof snapshot =>
      simp only [postInputSection, attempt_rename]
      rfl
    | validated utxo token proof snapshot details =>
      simp only [postInputSection, attempt_rename]
      rfl
  | postSign req stage =>
    have hdecode : postSignDecode E { req with utxoOutpoint := text } = postSignDecode E req := by
      simp only [postSignDecode]
      rw [show parseOutpoint text = parseOutpoint req.utxoOutpoint from ht]
    simp only [Task.respell, taskSection, Option.map_some, Option.some.injEq]
    cases stage with
    | received =>
      simp only [postSignSection, attempt_rename, hdecode]
      rfl
    | decoded d =>
      -- a submission that was processed has ended
      have hended : (submissionNext (postSignProcess E config s.round d c.iter).2).Ended := by
        rcases (postSignProcess E config s.round d c.iter).2 with (e | m) | (_ | prepared)
        · exact trivial
        · exact trivial
        · exact trivial
        · exact trivial
      have hnext : (submissionNext (postSignProcess E config s.round d c.iter).2).respell text =
          submissionNext (postSignProcess E config s.round d c.iter).2 := hended.respell
      simp only [postSignSection, processedSection, Effect.rename, hnext]
  | _ => exact (taskSection_rename rfl).symm

theorem iterates_respell : c.Iterates s.round (t.respell text) ↔ c.Iterates s.round t := by
  cases t with
  | _ => exact Iff.rfl

/-- The same of a section with its entries in the log. -/
theorem exec_respell (ht : t.Spells text) :
    exec E config s (t.respell text) c =
      (exec E config s t c).map (Effect.rename (Task.respell text)) := by
  rw [exec, exec, taskSection_respell ht]
  by_cases hiter : c.Iterates s.round t
  · rw [if_pos hiter, if_pos (iterates_respell.mpr hiter)]
    cases taskSection E config s c t with
    | none => rfl
    | some e => rfl
  · rw [if_neg hiter, if_neg fun h => hiter (iterates_respell.mp h)]
    rfl

/-- **The life of a respelled request**: the same sections on the same states. -/
theorem sections_respell (ht : t.Spells text) (ms : List (Coordinator × Choice)) :
    (coordinator E config).sections ms (t.respell text) =
      ((coordinator E config).sections ms t).map (Effect.rename (Task.respell text)) :=
  Program.sections_rename (I := Task.Spells text) (fun _ _ _ hu => exec_respell hu)
    (fun _ _ _ _ hu he => (exec_goesOn he).spells hu) ht ms

theorem served_respell (ht : t.Spells text) (ms : List (Coordinator × Choice)) :
    (coordinator E config).served ms (t.respell text) =
      ((coordinator E config).served ms t).respell text :=
  Program.served_rename (I := Task.Spells text) (fun _ _ _ hu => exec_respell hu)
    (fun _ _ _ _ hu he => (exec_goesOn he).spells hu) ht ms

end Sections

/-- **Outpoint text is canonicalised the same way everywhere**: the parsers of the
coordinator and of the client agree on every text and read the canonical text back; the
keys of a request are made from its outpoint; and a request with another spelling of its
outpoint gets the same answers and leaves the same states, bans, registrations and
signatures, whatever happens between its sections. -/
theorem outpoint_text_canonical (E : Externals) (config : CoordinatorConfig) :
    (∀ text, (walletParseOutpoint E text).toOption = parseOutpoint text) ∧
    (∀ o : OutPoint, parseOutpoint o.toText = some o ∧ walletParseOutpoint E o.toText = .ok o) ∧
    (∀ (req : InputRegRequest) utxo, parseOutpoint req.utxoOutpoint = some utxo →
      InputKeys E config req utxo) ∧
    (∀ (req : SignRequest) utxo, parseOutpoint req.utxoOutpoint = some utxo →
      SignKeys E config req utxo) ∧
    ∀ (t : Task) text (ms : List (Coordinator × Choice)), t.Spells text →
      (coordinator E config).served ms (t.respell text) =
        ((coordinator E config).served ms t).respell text ∧
      (coordinator E config).sections ms (t.respell text) =
        ((coordinator E config).sections ms t).map (Effect.rename (Task.respell text)) := by
  refine ⟨toOption_walletParseOutpoint, fun o => ⟨parseOutpoint_toText o,
    walletParseOutpoint_toText o⟩, fun req utxo h => inputKeys h, fun req utxo h => signKeys h,
    fun t text ms ht => ⟨served_respell ht ms, sections_respell ht ms⟩⟩

/-- The first coin, with another zero behind the colon. -/
def respelledCoin : String :=
  "1111111111111111111111111111111111111111111111111111111111111111:00"

/-- The two spellings have one life: the same keys, and the same answers. -/
theorem outpoint_text_canonical_session :
    respelledCoin ≠ firstInput.utxoOutpoint ∧
    (walletParseOutpoint session.externals respelledCoin).toOption = some firstCoin ∧
    InputKeys session.externals configOfTwo { firstInput with utxoOutpoint := respelledCoin }
      firstCoin ∧
    SignKeys session.externals configOfTwo { firstSign with utxoOutpoint := respelledCoin }
      firstCoin ∧
    ∀ ms, (coordinator session.externals configOfTwo).served ms
        (.postInput { firstInput with utxoOutpoint := respelledCoin } .received) =
      ((coordinator session.externals configOfTwo).served ms
        (.postInput firstInput .received)).respell respelledCoin := by
  have hparse : parseOutpoint respelledCoin = some firstCoin := by decide
  obtain ⟨hparsers, -, hinput, hsign, hlife⟩ :=
    outpoint_text_canonical session.externals configOfTwo
  refine ⟨by decide, by rw [hparsers, hparse], hinput _ _ hparse, hsign _ _ hparse, fun ms => ?_⟩
  have hspells : (Task.postInput firstInput .received).Spells respelledCoin :=
    hparse.trans (parseOutpoint_toText firstCoin).symm
  exact (hlife _ _ ms hspells).1

end Blindjoin
