import Mathlib.Algebra.Order.Ring.Nat
import Blindjoin.Shared.Errors

/-!
# Arithmetic in sixty-four bits

The amounts and times of the program are `u64`. What an operation does when its
result does not fit depends on how the program was built: a debug build panics, a
release build wraps around. Both are here (`Blindjoin.Build`), so that a function
written over a build says what either of them computes.

An operation whose exact result fits gives it in both builds, and the debug build
tells the operations that do not fit from the ones that do
(`Blindjoin.Build.noPanic_add_iff`, `Blindjoin.Build.noPanic_mul_iff`).
-/

namespace Blindjoin

/-- How the program was built. -/
inductive Build
  | debug
  | release
deriving DecidableEq, Repr

namespace Build

variable {ε : Type}

/-- An operation that overflowed. -/
def overflow (b : Build) (message : String) (wrapped : ℕ) : Res ε ℕ :=
  match b with
  | .debug => .error (.panic message)
  | .release => .ok wrapped

/-- Addition of two `u64`. -/
def add (b : Build) (x y : ℕ) : Res ε ℕ :=
  if x + y < 2 ^ 64 then .ok (x + y)
  else b.overflow "attempt to add with overflow" ((x + y) % 2 ^ 64)

/-- Subtraction of two `u64`. -/
def sub (b : Build) (x y : ℕ) : Res ε ℕ :=
  if y ≤ x then .ok (x - y)
  else b.overflow "attempt to subtract with overflow" (x + 2 ^ 64 - y)

/-- Multiplication of two `u64`. -/
def mul (b : Build) (x y : ℕ) : Res ε ℕ :=
  if x * y < 2 ^ 64 then .ok (x * y)
  else b.overflow "attempt to multiply with overflow" (x * y % 2 ^ 64)

/-- `Iterator::sum` of several `u64`. -/
def sum (b : Build) (xs : List ℕ) : Res ε ℕ := xs.foldlM b.add 0

variable (b : Build) {x y : ℕ}

theorem add_of_lt (h : x + y < 2 ^ 64) : (b.add x y : Res ε ℕ) = .ok (x + y) := if_pos h

/-- **The sum of two machine integers is theirs**, unless the build stops at an
overflow. -/
theorem add_toNat {x y : UInt64} (h : b = .release ∨ x.toNat + y.toNat < 2 ^ 64) :
    (b.add x.toNat y.toNat : Res ε ℕ) = .ok (x + y).toNat := by
  rw [UInt64.toNat_add]
  by_cases hfits : x.toNat + y.toNat < 2 ^ 64
  · rw [b.add_of_lt hfits, Nat.mod_eq_of_lt hfits]
  · obtain rfl := h.resolve_right hfits
    exact if_neg hfits

theorem sub_of_le (h : y ≤ x) : (b.sub x y : Res ε ℕ) = .ok (x - y) := if_pos h

theorem mul_of_lt (h : x * y < 2 ^ 64) : (b.mul x y : Res ε ℕ) = .ok (x * y) := if_pos h

theorem sum_of_lt {xs : List ℕ} (h : xs.sum < 2 ^ 64) : (b.sum xs : Res ε ℕ) = .ok xs.sum := by
  -- the accumulator and what is still to be added stay below the bound together
  have hfold : ∀ (xs : List ℕ) (acc : ℕ), acc + xs.sum < 2 ^ 64 →
      (xs.foldlM b.add acc : Res ε ℕ) = .ok (acc + xs.sum) := by
    intro xs
    induction xs with
    | nil => exact fun acc _ => rfl
    | cons x xs ih =>
      intro acc hacc
      rw [List.sum_cons] at hacc ⊢
      rw [List.foldlM_cons, b.add_of_lt (by omega)]
      have hrest := ih (acc + x) (by omega)
      rw [Nat.add_assoc] at hrest
      exact hrest
  rw [sum, hfold xs 0 (by omega), Nat.zero_add]

/-- **The debug build adds without a panic exactly when the sum fits.** -/
theorem noPanic_add_iff : NoPanic (debug.add x y : Res ε ℕ) ↔ x + y < 2 ^ 64 := by
  constructor
  · intro h
    by_contra hfits
    exact h "attempt to add with overflow" (if_neg hfits)
  · intro h
    rw [debug.add_of_lt h]
    exact noPanic_ok

/-- **The debug build multiplies without a panic exactly when the product fits.** -/
theorem noPanic_mul_iff : NoPanic (debug.mul x y : Res ε ℕ) ↔ x * y < 2 ^ 64 := by
  constructor
  · intro h
    by_contra hfits
    exact h "attempt to multiply with overflow" (if_neg hfits)
  · intro h
    rw [debug.mul_of_lt h]
    exact noPanic_ok

end Build

/-- A first stage that panics makes the whole computation panic. -/
theorem NoPanic.of_bind {ε α β : Type} {r : Res ε α} {f : α → Res ε β} (h : NoPanic (r >>= f)) :
    NoPanic r := by
  rintro m rfl
  exact h m rfl

/-- A computation whose first stage succeeds goes on with the second. -/
theorem ok_bind {ε α β : Type} (a : α) (f : α → Res ε β) :
    ((.ok a : Res ε α) >>= f) = f a := rfl

end Blindjoin
