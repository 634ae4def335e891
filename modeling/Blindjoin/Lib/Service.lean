import Mathlib.Data.List.Infix
import Blindjoin.Lib.Interleaving

/-!
# One task and what it meets

The life of a single task, whatever the other tasks do in between: it runs its
sections one by one, each on the shared state it finds and under the outside answers
of that moment. `Program.sections` are the sections it runs on a list of such moments,
`Program.served` is the task after them.

Two rules compare two lives. If a renaming of tasks commutes with every section, it
commutes with the whole life (`Program.sections_rename`). If two states look alike to a
task at every moment, the task goes the same way on both
(`Program.sections_unwind`): the unwinding rule of noninterference.
-/

namespace Interleaving

variable {σ τ κ ε : Type}

/-- The same section, with what the task does next renamed. -/
def Effect.rename (f : τ → τ) (e : Effect σ τ ε) : Effect σ τ ε := { e with next := f e.next }

@[simp] theorem Effect.rename_next (f : τ → τ) (e : Effect σ τ ε) :
    (e.rename f).next = f e.next := rfl

namespace Program

variable (P : Program σ τ κ ε)

/-- The sections a task runs, on the shared states and under the answers of a list of
moments, as long as it has one to run. -/
def sections : List (σ × κ) → τ → List (Effect σ τ ε)
  | [], _ => []
  | (s, c) :: ms, t => match P.exec s t c with
    | none => []
    | some e => e :: sections ms e.next

/-- The task after its sections. -/
def served : List (σ × κ) → τ → τ
  | [], t => t
  | (s, c) :: ms, t => match P.exec s t c with
    | none => t
    | some e => served ms e.next

variable {P}

/-- The task after its sections is what the last of them said it will do next. -/
theorem served_eq_getLastD (ms : List (σ × κ)) (t : τ) :
    P.served ms t = ((P.sections ms t).map Effect.next).getLastD t := by
  induction ms generalizing t with
  | nil => rfl
  | cons m ms ih =>
    obtain ⟨s, c⟩ := m
    rw [served, sections]
    cases he : P.exec s t c with
    | none => rfl
    | some e =>
      simp only [List.map_cons, List.getLastD_cons]
      exact ih e.next

/-- **What every section keeps is kept**: it holds of the task after its sections. -/
theorem served_keeps {J : τ → Prop} {ms : List (σ × κ)}
    (hstep : ∀ m ∈ ms, ∀ t e, J t → P.exec m.1 t m.2 = some e → J e.next) {t : τ} (ht : J t) :
    J (P.served ms t) := by
  induction ms generalizing t with
  | nil => exact ht
  | cons m ms ih =>
    obtain ⟨s, c⟩ := m
    rw [served]
    cases he : P.exec s t c with
    | none => exact ht
    | some e =>
      exact ih (fun m hm => hstep m (List.mem_cons_of_mem _ hm))
        (hstep (s, c) List.mem_cons_self t e ht he)

/-- **Renaming a task**: what commutes with one section commutes with all. -/
theorem sections_rename {f : τ → τ} {I : τ → Prop}
    (hstep : ∀ s c t, I t → P.exec s (f t) c = (P.exec s t c).map (Effect.rename f))
    (hinv : ∀ s c t e, I t → P.exec s t c = some e → I e.next) {t : τ} (ht : I t)
    (ms : List (σ × κ)) : P.sections ms (f t) = (P.sections ms t).map (Effect.rename f) := by
  induction ms generalizing t with
  | nil => rfl
  | cons m ms ih =>
    obtain ⟨s, c⟩ := m
    rw [sections, sections, hstep s c t ht]
    cases he : P.exec s t c with
    | none => rfl
    | some e =>
      simp only [Option.map_some, List.map_cons, Effect.rename_next]
      rw [ih (hinv s c t e ht he)]

/-- The task after its sections is renamed along. -/
theorem served_rename {f : τ → τ} {I : τ → Prop}
    (hstep : ∀ s c t, I t → P.exec s (f t) c = (P.exec s t c).map (Effect.rename f))
    (hinv : ∀ s c t e, I t → P.exec s t c = some e → I e.next) {t : τ} (ht : I t)
    (ms : List (σ × κ)) : P.served ms (f t) = f (P.served ms t) := by
  induction ms generalizing t with
  | nil => rfl
  | cons m ms ih =>
    obtain ⟨s, c⟩ := m
    rw [served, served, hstep s c t ht]
    cases he : P.exec s t c with
    | none => rfl
    | some e =>
      simp only [Option.map_some, Effect.rename_next]
      exact ih (hinv s c t e ht he)

/-- **Unwinding**: a task of a kind `I` goes the same way through moments that look
alike to it, if one section does. -/
theorem sections_unwind {R : σ × κ → σ × κ → Prop} {I : τ → Prop}
    (hstep : ∀ m m' t, I t → R m m' →
      (P.exec m.1 t m.2).map Effect.next = (P.exec m'.1 t m'.2).map Effect.next)
    (hinv : ∀ m m' t e, I t → R m m' → P.exec m.1 t m.2 = some e → I e.next)
    {ms ms' : List (σ × κ)} (hms : List.Forall₂ R ms ms') {t : τ} (ht : I t) :
    (P.sections ms t).map Effect.next = (P.sections ms' t).map Effect.next := by
  induction hms generalizing t with
  | nil => rfl
  | @cons m m' ms ms' hm _ ih =>
    obtain ⟨s, c⟩ := m
    obtain ⟨s', c'⟩ := m'
    have hnext := hstep _ _ t ht hm
    rw [sections, sections]
    cases he : P.exec s t c with
    | none =>
      have he' : P.exec s' t c' = none := by
        rw [he, Option.map_none] at hnext
        exact Option.map_eq_none_iff.mp hnext.symm
      simp only [he', List.map_nil]
    | some e =>
      rw [he, Option.map_some] at hnext
      obtain ⟨e', he', heq⟩ := Option.map_eq_some_iff.mp hnext.symm
      simp only [he', List.map_cons, heq]
      rw [ih (hinv _ _ t e ht hm he)]

/-- **A task that only reads** leaves every shared state it meets as it is. -/
theorem shared_prefix_of_reads {M : σ × κ → Prop} {I : τ → Prop}
    (hread : ∀ m t e, I t → M m → P.exec m.1 t m.2 = some e → e.shared = m.1 ∧ I e.next)
    {ms : List (σ × κ)} (hms : ∀ m ∈ ms, M m) {t : τ} (ht : I t) :
    (P.sections ms t).map Effect.shared <+: ms.map Prod.fst := by
  induction ms generalizing t with
  | nil => exact List.prefix_rfl
  | cons m ms ih =>
    obtain ⟨s, c⟩ := m
    rw [sections]
    cases he : P.exec s t c with
    | none => exact List.nil_prefix
    | some e =>
      obtain ⟨hshared, hnext⟩ := hread (s, c) t e ht (hms _ List.mem_cons_self) he
      rw [List.map_cons, List.map_cons, List.cons_prefix_cons]
      exact ⟨hshared, ih (fun m hm => hms m (List.mem_cons_of_mem _ hm)) hnext⟩

end Program

end Interleaving
