import Blindjoin.Lib.Interleaving

/-!
# Runs with their history

What a log says is what the sections chose to tell. A statement about a run that
speaks of two of its sections, and of what came between them, needs the sections
themselves: an `Interleaving.Taken` is one section with the world it was taken
in, and `Interleaving.Ran` is a run with all its sections, newest first.

Cutting a history cuts the run (`Interleaving.Ran.split`): the part before a
section is a run to the world of this section, and the part after it is a run
from the world it left. The two rules are those of
`Interleaving.ReachableVia`, for the shared state and for the tasks in their
places, with the history beside them.
-/

namespace Interleaving

variable {σ τ κ ε : Type}

/-- A section that was taken: in which world, by the task at which place, under
which outside answers, and what it left. -/
structure Taken (σ τ κ ε : Type) where
  world : World σ τ ε
  place : ℕ
  task : τ
  choice : κ
  effect : Effect σ τ ε

/-- The world a section left. -/
def Taken.after (x : Taken σ τ κ ε) : World σ τ ε := x.world.after x.place x.effect

/-- A run, with the sections it took, newest first. -/
inductive Ran (P : Program σ τ κ ε) (w₀ : World σ τ ε) : List (Taken σ τ κ ε) → World σ τ ε → Prop
  | refl : Ran P w₀ [] w₀
  | arrive {h : List (Taken σ τ κ ε)} {w : World σ τ ε} {t : τ} : Ran P w₀ h w →
      P.arrives t = true → Ran P w₀ h { w with threads := w.threads ++ [t] }
  | advance {h : List (Taken σ τ κ ε)} {w : World σ τ ε} {i : ℕ} {t : τ} {c : κ}
      {e : Effect σ τ ε} : Ran P w₀ h w → w.threads[i]? = some t →
      P.exec w.shared t c = some e → Ran P w₀ (⟨w, i, t, c, e⟩ :: h) (w.after i e)

/-- One move, recorded. -/
def Program.recordAct (P : Program σ τ κ ε) (r : List (Taken σ τ κ ε) × World σ τ ε) :
    Action τ κ → Option (List (Taken σ τ κ ε) × World σ τ ε)
  | .arrive t =>
    if P.arrives t then some (r.1, { r.2 with threads := r.2.threads ++ [t] }) else none
  | .run i c => match r.2.threads[i]? with
      | none => none
      | some t => (P.exec r.2.shared t c).map fun e => (⟨r.2, i, t, c, e⟩ :: r.1, r.2.after i e)

/-- A list of moves, recorded. -/
def Program.record (P : Program σ τ κ ε) :
    List (Taken σ τ κ ε) × World σ τ ε → List (Action τ κ) →
    Option (List (Taken σ τ κ ε) × World σ τ ε)
  | r, [] => some r
  | r, a :: as => match P.recordAct r a with
      | none => none
      | some r' => P.record r' as

variable {P : Program σ τ κ ε} {w₀ w : World σ τ ε} {h h₁ h₂ : List (Taken σ τ κ ε)}
  {x : Taken σ τ κ ε}

theorem Ran.reachable (hr : Ran P w₀ h w) : Reachable P w₀ w := by
  induction hr with
  | refl => exact .refl
  | arrive _ ha ih => exact ih.arrive ha
  | advance _ ht he ih => exact ih.advance ht trivial he

/-- **A run that was recorded is a run.** -/
theorem Ran.of_record {r r' : List (Taken σ τ κ ε) × World σ τ ε} {as : List (Action τ κ)}
    (hr : Ran P w₀ r.1 r.2) (hrec : P.record r as = some r') : Ran P w₀ r'.1 r'.2 := by
  induction as generalizing r with
  | nil =>
    obtain rfl : r = r' := Option.some.inj hrec
    exact hr
  | cons a as ih =>
    rw [Program.record] at hrec
    split at hrec
    · exact absurd hrec (by simp)
    · next r'' hact =>
      refine ih ?_ hrec
      cases a with
      | arrive t =>
        simp only [Program.recordAct] at hact
        split at hact
        · next ha =>
          obtain rfl := Option.some.inj hact
          exact hr.arrive ha
        · exact absurd hact (by simp)
      | run i c =>
        simp only [Program.recordAct] at hact
        split at hact
        · exact absurd hact (by simp)
        · next t ht =>
          obtain ⟨e, he, rfl⟩ := Option.map_eq_some_iff.mp hact
          exact hr.advance ht he

/-! ### Cutting a history -/

/-- **The history of a run can be cut at a section**: what came before it led to
its world, it was possible there, and what came after it started from the world
it left. -/
theorem Ran.split (hr : Ran P w₀ (h₂ ++ x :: h₁) w) :
    Ran P w₀ h₁ x.world ∧ x.world.threads[x.place]? = some x.task ∧
      P.exec x.world.shared x.task x.choice = some x.effect ∧ Ran P x.after h₂ w := by
  generalize hh : h₂ ++ x :: h₁ = h at hr
  induction hr generalizing h₂ with
  | refl => exact absurd hh (by simp)
  | arrive _ ha ih =>
    obtain ⟨hbefore, ht, he, hafter⟩ := ih hh
    exact ⟨hbefore, ht, he, hafter.arrive ha⟩
  | advance hr ht he ih =>
    cases h₂ with
    | nil =>
      obtain ⟨rfl, rfl⟩ := List.cons.inj hh
      -- the section is the newest one, or it is further back
      exact ⟨hr, ht, he, .refl⟩
    | cons y h₂ =>
      rw [List.cons_append] at hh
      obtain ⟨rfl, htail⟩ := List.cons.inj hh
      obtain ⟨hbefore, ht', he', hafter⟩ := ih htail
      exact ⟨hbefore, ht', he', hafter.advance ht he⟩

/-- A section of the history was possible in its world. -/
theorem Ran.exec_of_mem (hr : Ran P w₀ h w) (hx : x ∈ h) :
    P.exec x.world.shared x.task x.choice = some x.effect := by
  obtain ⟨h₂, h₁, rfl⟩ := List.append_of_mem hx
  exact hr.split.2.2.1

/-- It was possible in a reachable world. -/
theorem Ran.of_mem (hr : Ran P w₀ h w) (hx : x ∈ h) :
    Reachable P w₀ x.world ∧ x.world.threads[x.place]? = some x.task ∧
      P.exec x.world.shared x.task x.choice = some x.effect := by
  obtain ⟨h₂, h₁, rfl⟩ := List.append_of_mem hx
  obtain ⟨hbefore, ht, -⟩ := hr.split
  exact ⟨hbefore.reachable, ht, hr.exec_of_mem hx⟩

/-- The log of a run is what its sections told. -/
theorem Ran.log_eq (hr : Ran P w₀ h w) :
    w.log = h.flatMap (fun x => x.effect.events) ++ w₀.log := by
  induction hr with
  | refl => rfl
  | arrive _ _ ih => exact ih
  | advance _ _ _ ih => rw [List.flatMap_cons, List.append_assoc, ← ih]; rfl

/-- What a section told, and what was told before it, is the end of the log. -/
theorem Ran.exists_log_eq (hr : Ran P w₀ h w) (hx : x ∈ h) :
    ∃ es, w.log = es ++ (x.effect.events ++ x.world.log) := by
  obtain ⟨h₂, h₁, rfl⟩ := List.append_of_mem hx
  exact ⟨_, hr.split.2.2.2.log_eq⟩

/-! ### Invariants with the history -/

/-- **The rule for the shared state and the history.** -/
theorem Ran.shared (I : List (Taken σ τ κ ε) → σ → Prop) (h₀ : I [] w₀.shared)
    (hsec : ∀ {h x}, Ran P w₀ h x.world → x.world.threads[x.place]? = some x.task →
      P.exec x.world.shared x.task x.choice = some x.effect → I h x.world.shared →
      I (x :: h) x.effect.shared)
    (hr : Ran P w₀ h w) : I h w.shared := by
  induction hr with
  | refl => exact h₀
  | arrive _ _ ih => exact ih
  | @advance h w i t c e hr ht he ih => exact hsec (x := ⟨w, i, t, c, e⟩) hr ht he ih

/-- What every section of a history keeps is kept by the run. -/
theorem Ran.keeps (I : σ → Prop) (hr : Ran P w₀ h w)
    (hsec : ∀ x ∈ h, P.exec x.world.shared x.task x.choice = some x.effect →
      I x.world.shared → I x.effect.shared) (h₀ : I w₀.shared) : I w.shared := by
  induction hr with
  | refl => exact h₀
  | arrive _ _ ih => exact ih hsec
  | advance _ _ he ih =>
    exact hsec _ List.mem_cons_self he (ih fun x hx => hsec x (List.mem_cons_of_mem _ hx))

/-- What is at a place after a section was there before, is what the section
left, or was spawned by it. -/
theorem World.getElem?_after {i j : ℕ} {e : Effect σ τ ε} {u : τ}
    (hu : (w.after i e).threads[j]? = some u) :
    (j ≠ i ∧ w.threads[j]? = some u) ∨ (j = i ∧ u = e.next) ∨ u ∈ e.spawned := by
  have hlen : (w.threads.set i e.next).length = w.threads.length := List.length_set
  change (w.threads.set i e.next ++ e.spawned)[j]? = some u at hu
  by_cases hj : j < w.threads.length
  · rw [List.getElem?_append_left (by omega)] at hu
    by_cases hij : j = i
    · subst hij
      rw [List.getElem?_set_self hj] at hu
      exact Or.inr (Or.inl ⟨rfl, (Option.some.inj hu).symm⟩)
    · rw [List.getElem?_set_ne (Ne.symm hij)] at hu
      exact Or.inl ⟨hij, hu⟩
  · rw [List.getElem?_append_right (by omega)] at hu
    exact Or.inr (Or.inr (List.mem_of_getElem? hu))

/-- **The rule for the tasks in their places**: what is known of every task that
joins or is spawned, stays known while others run, and is handed on by every
section, is known of every task of the pool. -/
theorem Ran.places (J : List (Taken σ τ κ ε) → ℕ → τ → Prop)
    (h₀ : ∀ i t, w₀.threads[i]? = some t → J [] i t)
    (harr : ∀ {h i t}, P.arrives t = true → J h i t)
    (hstable : ∀ {h i t x}, J h i t → J (x :: h) i t)
    (hsec : ∀ {h x}, Ran P w₀ h x.world → x.world.threads[x.place]? = some x.task →
      P.exec x.world.shared x.task x.choice = some x.effect → J h x.place x.task →
      J (x :: h) x.place x.effect.next ∧ ∀ i, ∀ u ∈ x.effect.spawned, J (x :: h) i u)
    (hr : Ran P w₀ h w) : ∀ i t, w.threads[i]? = some t → J h i t := by
  induction hr with
  | refl => exact h₀
  | @arrive h w t _ ha ih =>
    intro i u hu
    by_cases hi : i < w.threads.length
    · rw [List.getElem?_append_left hi] at hu
      exact ih i u hu
    · rw [List.getElem?_append_right (by omega)] at hu
      obtain rfl := List.mem_singleton.mp (List.mem_of_getElem? hu)
      exact harr ha
  | @advance h w i t c e hr ht he ih =>
    obtain ⟨hnext, hspawned⟩ := hsec (x := ⟨w, i, t, c, e⟩) hr ht he (ih i t ht)
    intro j u hu
    rcases World.getElem?_after hu with ⟨-, hu⟩ | ⟨rfl, rfl⟩ | hu
    · exact hstable (ih j u hu)
    · exact hnext
    · exact hspawned j u hu

end Interleaving
