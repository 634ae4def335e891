import Mathlib.Data.List.Basic

/-!
# Interleaved atomic sections

Several tasks share one state and each of them advances by *atomic sections*:
what a task does while it holds a lock, or between two suspension points. A
section reads the shared state, its own local state and whatever the outside
world answers (a clock, a random value, a reply of another process), and it
leaves a new shared state, a new local state, the tasks it spawned and the
events it wants remembered.

A *world* is the shared state, the pool of tasks and the log of all events,
newest first. New tasks of the kinds in `Program.arrives` may join at any
moment. A task is never removed from the pool, and a task that is never
scheduled again is a task that was dropped.

The two rules at the end are the ones an invariant proof needs: a property of
the local states is kept when every section keeps it, of its own task and of the
others (`Interleaving.ReachableVia.threads`), and a property of the shared state and
the log is kept when every section of a reachable world keeps it
(`Interleaving.ReachableVia.shared`). Both rules may be used under a hypothesis
on the log as a whole, provided the hypothesis is inherited by the shorter logs
the world went through.
-/

namespace Interleaving

variable {σ τ κ ε : Type}

/-- What an atomic section leaves behind. -/
structure Effect (σ τ ε : Type) where
  /-- The shared state after the section. -/
  shared : σ
  /-- What the task will do next. -/
  next : τ
  /-- The tasks the section spawned. -/
  spawned : List τ := []
  /-- The events of the section, newest first. -/
  events : List ε := []

/-- The atomic sections of a system, and the tasks that may join it. -/
structure Program (σ τ κ ε : Type) where
  /-- Run the next section of a task, under the given outside answers. -/
  exec : σ → τ → κ → Option (Effect σ τ ε)
  /-- The tasks that may join the pool from outside. -/
  arrives : τ → Bool

/-- A shared state, a pool of tasks, and the events so far, newest first. -/
structure World (σ τ ε : Type) where
  shared : σ
  threads : List τ
  log : List ε

/-- One move of the scheduler: admit a task, or run a section of the task at a
given place of the pool. -/
inductive Action (τ κ : Type) where
  | arrive (t : τ) : Action τ κ
  | run (i : ℕ) (c : κ) : Action τ κ

/-- The world after a section of the task at place `i`. -/
def World.after (w : World σ τ ε) (i : ℕ) (e : Effect σ τ ε) : World σ τ ε where
  shared := e.shared
  threads := w.threads.set i e.next ++ e.spawned
  log := e.events ++ w.log

/-- One move, if it is possible and its section meets `ok`. -/
def Program.act (P : Program σ τ κ ε) (ok : σ → τ → κ → Bool) (w : World σ τ ε) :
    Action τ κ → Option (World σ τ ε)
  | .arrive t => if P.arrives t then some { w with threads := w.threads ++ [t] } else none
  | .run i c => match w.threads[i]? with
      | none => none
      | some t => if ok w.shared t c then (P.exec w.shared t c).map (w.after i) else none

/-- A list of moves, one after the other. -/
def Program.run (P : Program σ τ κ ε) (ok : σ → τ → κ → Bool) :
    World σ τ ε → List (Action τ κ) → Option (World σ τ ε)
  | w, [] => some w
  | w, a :: as => match P.act ok w a with
      | none => none
      | some w' => P.run ok w' as

/-- The worlds a run can reach when every section it takes meets `ok`. -/
inductive ReachableVia (P : Program σ τ κ ε) (ok : σ → τ → κ → Prop) (w₀ : World σ τ ε) :
    World σ τ ε → Prop
  | refl : ReachableVia P ok w₀ w₀
  | arrive {w : World σ τ ε} {t : τ} : ReachableVia P ok w₀ w → P.arrives t = true →
      ReachableVia P ok w₀ { w with threads := w.threads ++ [t] }
  | advance {w : World σ τ ε} {i : ℕ} {t : τ} {c : κ} {e : Effect σ τ ε} :
      ReachableVia P ok w₀ w → w.threads[i]? = some t → ok w.shared t c →
      P.exec w.shared t c = some e → ReachableVia P ok w₀ (w.after i e)

/-- The worlds a run can reach. -/
abbrev Reachable (P : Program σ τ κ ε) (w₀ w : World σ τ ε) : Prop :=
  ReachableVia P (fun _ _ _ => True) w₀ w

variable {P : Program σ τ κ ε} {ok : σ → τ → κ → Prop} {w₀ w : World σ τ ε}

theorem ReachableVia.mono {ok' : σ → τ → κ → Prop} (h : ∀ s t c, ok s t c → ok' s t c)
    (hr : ReachableVia P ok w₀ w) : ReachableVia P ok' w₀ w := by
  induction hr with
  | refl => exact .refl
  | arrive _ ha ih => exact ih.arrive ha
  | advance _ ht hok he ih => exact ih.advance ht (h _ _ _ hok) he

theorem ReachableVia.reachable (hr : ReachableVia P ok w₀ w) : Reachable P w₀ w :=
  hr.mono fun _ _ _ _ => trivial

/-- Runs are put together. -/
theorem ReachableVia.trans {w₁ : World σ τ ε} (h : ReachableVia P ok w₀ w₁)
    (hr : ReachableVia P ok w₁ w) : ReachableVia P ok w₀ w := by
  induction hr with
  | refl => exact h
  | arrive _ ha ih => exact ih.arrive ha
  | advance _ ht hok he ih => exact ih.advance ht hok he

/-- The log only grows. -/
theorem ReachableVia.log_suffix (hr : ReachableVia P ok w₀ w) : w₀.log <:+ w.log := by
  induction hr with
  | refl => exact List.suffix_rfl
  | arrive _ _ ih => exact ih
  | advance _ _ _ _ ih => exact ih.trans (List.suffix_append _ _)

/-- A move that was computed is one the world can make. -/
theorem ReachableVia.of_act {check : σ → τ → κ → Bool} {w' : World σ τ ε} {a : Action τ κ}
    (hr : ReachableVia P (fun s t c => check s t c = true) w₀ w) (h : P.act check w a = some w') :
    ReachableVia P (fun s t c => check s t c = true) w₀ w' := by
  cases a with
  | arrive t =>
    simp only [Program.act] at h
    split at h
    · next ha =>
      obtain rfl := Option.some.inj h
      exact hr.arrive ha
    · exact absurd h (by simp)
  | run i c =>
    simp only [Program.act] at h
    split at h
    · exact absurd h (by simp)
    · next t ht =>
      split at h
      · next hok =>
        obtain ⟨e, he, rfl⟩ := Option.map_eq_some_iff.mp h
        exact hr.advance ht hok he
      · exact absurd h (by simp)

/-- **A run that was computed is a run**: the way concrete worlds are shown to
be reachable. -/
theorem ReachableVia.of_run {check : σ → τ → κ → Bool} {w' : World σ τ ε} {as : List (Action τ κ)}
    (hr : ReachableVia P (fun s t c => check s t c = true) w₀ w) (h : P.run check w as = some w') :
    ReachableVia P (fun s t c => check s t c = true) w₀ w' := by
  induction as generalizing w with
  | nil =>
    obtain rfl : w = w' := Option.some.inj h
    exact hr
  | cons a as ih =>
    rw [Program.run] at h
    split at h
    · exact absurd h (by simp)
    · next w'' hact => exact ih (hr.of_act hact) h

/-! ### Invariants -/

/-- A task in the pool after a section was there before, is what the section
left, or was spawned by it. -/
theorem World.mem_after {i : ℕ} {e : Effect σ τ ε} {u : τ} (h : u ∈ (w.after i e).threads) :
    u ∈ w.threads ∨ u = e.next ∨ u ∈ e.spawned := by
  rcases List.mem_append.mp h with h | h
  · rcases List.mem_or_eq_of_mem_set h with h | h
    · exact Or.inl h
    · exact Or.inr (Or.inl h)
  · exact Or.inr (Or.inr h)

/-- **The rule for local states**: what holds of every task that joins, is not
disturbed by the sections of other tasks, and is handed on by every section,
holds of every task of every reachable world. It may speak of the shared state. -/
theorem ReachableVia.threads (J : σ → τ → Prop) (h₀ : ∀ t ∈ w₀.threads, J w₀.shared t)
    (harr : ∀ {s t}, P.arrives t = true → J s t)
    (hstable : ∀ {w t c e u}, ReachableVia P ok w₀ w → t ∈ w.threads →
      P.exec w.shared t c = some e → J w.shared u → J e.shared u)
    (hsec : ∀ {w t c e}, ReachableVia P ok w₀ w → t ∈ w.threads → ok w.shared t c →
      J w.shared t → P.exec w.shared t c = some e →
      J e.shared e.next ∧ ∀ u ∈ e.spawned, J e.shared u)
    (hr : ReachableVia P ok w₀ w) : ∀ t ∈ w.threads, J w.shared t := by
  induction hr with
  | refl => exact h₀
  | arrive _ ha ih =>
    intro t ht
    rcases List.mem_append.mp ht with ht | ht
    · exact ih t ht
    · obtain rfl := List.mem_singleton.mp ht
      exact harr ha
  | advance hw ht hok he ih =>
    have hmem := List.mem_of_getElem? ht
    have hkeep := hsec hw hmem hok (ih _ hmem) he
    intro u hu
    rcases World.mem_after hu with hu | rfl | hu
    · exact hstable hw hmem he (ih u hu)
    · exact hkeep.1
    · exact hkeep.2 u hu

/-- **The rule for the shared state and the log**: a property the first world
has, and every section of a reachable world keeps, holds in every reachable
world. `H` is a hypothesis on the whole log, `hH` the reason why the shorter
logs met on the way satisfy it too. -/
theorem ReachableVia.shared (I : σ → List ε → Prop) (H : List ε → Prop)
    (hH : ∀ es l, H (es ++ l) → H l) (h₀ : I w₀.shared w₀.log)
    (hsec : ∀ {w t c e}, ReachableVia P ok w₀ w → t ∈ w.threads → ok w.shared t c →
      P.exec w.shared t c = some e → H (e.events ++ w.log) →
      I w.shared w.log → I e.shared (e.events ++ w.log))
    (hr : ReachableVia P ok w₀ w) : H w.log → I w.shared w.log := by
  induction hr with
  | refl => exact fun _ => h₀
  | arrive _ _ ih => exact ih
  | advance hw ht hok he ih =>
    exact fun hlog => hsec hw (List.mem_of_getElem? ht) hok he hlog (ih (hH _ _ hlog))

end Interleaving
