import Mathlib.Tactic.TypeStar

/-!
# Errors

A request can fail with an error the client is told about, or a task can die in
a panic: an `expect` on a value that is missing. Both are outcomes of the same
computation, so a fallible function of this development returns `Res`, and a
theorem that says a panic cannot happen says that the outcome is never
`Fault.panic`.
-/

namespace Blindjoin

/-- Error codes used in API responses. -/
inductive ErrorCode
  | utxoSpent
  | utxoNotFound
  | utxoInsufficientValue
  | utxoAlreadyRegistered
  | invalidOwnershipProof
  | wrongPhase
  | tokenAlreadyUsed
  | invalidToken
  | wrongDenomination
  | roundFull
  | rpcUnavailable
  | broadcastRejected
  | sessionInvalid
  | dustOutput
  | utxoBanned
  | invalidSignature
deriving DecidableEq, Repr

/-- The wire form of an error code. -/
def ErrorCode.asStr : ErrorCode → String
  | .utxoSpent => "UTXO_SPENT"
  | .utxoNotFound => "UTXO_NOT_FOUND"
  | .utxoInsufficientValue => "UTXO_INSUFFICIENT_VALUE"
  | .utxoAlreadyRegistered => "UTXO_ALREADY_REGISTERED"
  | .invalidOwnershipProof => "INVALID_OWNERSHIP_PROOF"
  | .wrongPhase => "WRONG_PHASE"
  | .tokenAlreadyUsed => "TOKEN_ALREADY_USED"
  | .invalidToken => "INVALID_TOKEN"
  | .wrongDenomination => "WRONG_DENOMINATION"
  | .roundFull => "ROUND_FULL"
  | .rpcUnavailable => "RPC_UNAVAILABLE"
  | .broadcastRejected => "BROADCAST_REJECTED"
  | .sessionInvalid => "SESSION_INVALID"
  | .dustOutput => "DUST_OUTPUT"
  | .utxoBanned => "UTXO_BANNED"
  | .invalidSignature => "INVALID_SIGNATURE"

/-- The error of a round operation. -/
structure ApiError where
  code : ErrorCode
  message : String
  roundId : Option String
deriving DecidableEq

/-- The HTTP status codes the handlers answer with. -/
inductive StatusCode
  | badRequest
  | unauthorized
  | forbidden
  | conflict
  | internalServerError
  | serviceUnavailable
deriving DecidableEq, Repr

/-- The error response of a handler. -/
structure HttpError where
  status : StatusCode
  code : String
  message : String
  roundId : Option String
deriving DecidableEq

/-- Why a computation did not return a value: an error it reports, or a panic. -/
inductive Fault (ε : Type)
  | err (e : ε)
  | panic (message : String)
deriving DecidableEq

/-- A computation that may report an error or panic. -/
abbrev Res (ε α : Type) := Except (Fault ε) α

variable {ε ε' α : Type}

/-- Report an error. -/
def fail (e : ε) : Res ε α := .error (.err e)

/-- Return early with an error unless a condition holds. -/
def require {ε : Type} (c : Prop) [Decidable c] (e : ε) : Except ε Unit :=
  if c then .ok () else .error e

/-- `Option::expect`. -/
def expect (message : String) : Option α → Res ε α
  | some a => .ok a
  | none => .error (.panic message)

/-- `Option::unwrap`, and indexing that may be out of bounds. -/
def unwrap (o : Option α) : Res ε α := expect "called `Option::unwrap()` on a `None` value" o

/-- `Option::ok_or_else`. -/
def okOr (e : ε) : Option α → Except ε α
  | some a => .ok a
  | none => .error e

/-- `Result::map_err`: translate the reported error, let a panic through. -/
def Res.mapErr (f : ε → ε') : Res ε α → Res ε' α
  | .ok a => .ok a
  | .error (.err e) => fail (f e)
  | .error (.panic m) => .error (.panic m)

/-- `map_err` on a plain result. -/
def ofExcept (f : ε → ε') : Except ε α → Res ε' α
  | .ok a => .ok a
  | .error e => fail (f e)

@[simp] theorem require_eq_ok {c : Prop} [Decidable c] {e : ε} {u : Unit} :
    require c e = .ok u ↔ c := by
  by_cases h : c <;> simp [require, h]

@[simp] theorem expect_eq_ok {m : String} {o : Option α} {a : α} :
    (expect m o : Res ε α) = .ok a ↔ o = some a := by
  cases o <;> simp [expect]

@[simp] theorem unwrap_eq_ok {o : Option α} {a : α} :
    (unwrap o : Res ε α) = .ok a ↔ o = some a := expect_eq_ok

@[simp] theorem okOr_eq_ok {e : ε} {o : Option α} {a : α} : okOr e o = .ok a ↔ o = some a := by
  cases o <;> simp [okOr]

@[simp] theorem mapError_eq_ok {f : ε → ε'} {r : Except ε α} {a : α} :
    r.mapError f = .ok a ↔ r = .ok a := by
  cases r with
  | ok b =>
    have hmapped : (Except.ok b : Except ε α).mapError f = .ok b := rfl
    rw [hmapped, Except.ok.injEq, Except.ok.injEq]
  | error e =>
    have hmapped : (Except.error e : Except ε α).mapError f = .error (f e) := rfl
    simp [hmapped]

theorem toOption_eq_some {r : Except ε α} {a : α} : r.toOption = some a ↔ r = .ok a := by
  cases r <;> simp [Except.toOption]

@[simp] theorem ofExcept_eq_ok {f : ε → ε'} {r : Except ε α} {a : α} :
    ofExcept f r = .ok a ↔ r = .ok a := by
  cases r <;> simp [ofExcept, fail]

@[simp] theorem mapErr_eq_ok {f : ε → ε'} {r : Res ε α} {a : α} :
    r.mapErr f = .ok a ↔ r = .ok a := by
  rcases r with (e | m) | a <;> simp [Res.mapErr, fail]

/-- **A computation in two stages succeeds when both do.** -/
theorem bind_eq_ok {β : Type} {r : Except ε α} {f : α → Except ε β} {b : β} :
    (r >>= f) = .ok b ↔ ∃ a, r = .ok a ∧ f a = .ok b := by
  cases r <;> simp [bind, Except.bind]

/-! ### Computations that do not panic -/

/-- A computation that did not panic. -/
def NoPanic (r : Res ε α) : Prop := ∀ m, r ≠ .error (.panic m)

theorem noPanic_ok {a : α} : NoPanic (.ok a : Res ε α) := fun _ h => absurd h (by simp)

theorem noPanic_fail {e : ε} : NoPanic (fail e : Res ε α) := fun _ h => absurd h (by simp [fail])

theorem noPanic_require {c : Prop} [Decidable c] {e : ε} : NoPanic (require c (.err e)) := by
  by_cases h : c <;> simp [NoPanic, require, h]

theorem noPanic_okOr {e : ε} {o : Option α} : NoPanic (okOr (.err e) o) := by
  cases o <;> simp [NoPanic, okOr]

theorem noPanic_ofExcept {f : ε → ε'} {r : Except ε α} : NoPanic (ofExcept f r) := by
  cases r <;> simp [NoPanic, ofExcept, fail]

/-- An `expect` does not panic on a value that is there. -/
theorem noPanic_expect {m : String} {o : Option α} (h : ∃ a, o = some a) :
    NoPanic (expect m o : Res ε α) := by
  obtain ⟨a, rfl⟩ := h
  exact noPanic_ok

theorem noPanic_unwrap {o : Option α} (h : ∃ a, o = some a) : NoPanic (unwrap o : Res ε α) :=
  noPanic_expect h

theorem NoPanic.mapErr {f : ε → ε'} {r : Res ε α} (h : NoPanic r) : NoPanic (r.mapErr f) := by
  rcases r with (e | m) | a
  · exact noPanic_fail
  · exact absurd rfl (h m)
  · exact noPanic_ok

/-- A failure that is passed on is no panic if it was none. -/
theorem NoPanic.error {β : Type} {e : Fault ε} (h : NoPanic (.error e : Res ε α)) :
    NoPanic (.error e : Res ε β) := fun m he => h m (congrArg _ (Except.error.inj he))

/-- **A computation in two stages does not panic** when neither stage does. -/
theorem NoPanic.bind {β : Type} {r : Res ε α} {f : α → Res ε β} (h : NoPanic r)
    (hf : ∀ a, r = .ok a → NoPanic (f a)) : NoPanic (r >>= f) := by
  rcases r with (e | m) | a
  · exact noPanic_fail
  · exact absurd rfl (h m)
  · exact hf a rfl

end Blindjoin
