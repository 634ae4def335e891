import Mathlib.Data.List.Nodup

/-!
# Marking elements of a list around a step

Before a step some elements of a list are changed, and after it the change is taken
back. What the step does in between is not known, except that it leaves the changed
elements alone; then they are as they were before
(`Marking.getElem?_unmark_of_mem`), while the other elements are what the step made of
them (`Marking.getElem?_modifyEach_of_notMem`).
-/

namespace Marking

variable {α : Type*} {f mark unmark : α → α} {places : List ℕ} {l l' : List α} {i : ℕ}

/-- Change the elements at the given places, one after the other. -/
def modifyEach (f : α → α) (places : List ℕ) (l : List α) : List α :=
  places.foldl (fun l i => l.modify i f) l

@[simp] theorem modifyEach_cons :
    modifyEach f (i :: places) l = modifyEach f places (l.modify i f) := rfl

@[simp] theorem length_modifyEach : (modifyEach f places l).length = l.length := by
  induction places generalizing l with
  | nil => rfl
  | cons j places ih => rw [modifyEach_cons, ih, List.length_modify]

/-- **The other elements are untouched.** -/
theorem getElem?_modifyEach_of_notMem (h : i ∉ places) : (modifyEach f places l)[i]? = l[i]? := by
  induction places generalizing l with
  | nil => rfl
  | cons j places ih =>
    obtain ⟨hne, hrest⟩ := not_or.mp (mt List.mem_cons.mpr h)
    rw [modifyEach_cons, ih hrest, List.getElem?_modify_ne _ _ (Ne.symm hne)]

/-- **The elements at the places are changed**, each once. -/
theorem getElem?_modifyEach_of_mem (hnd : places.Nodup) (h : i ∈ places) :
    (modifyEach f places l)[i]? = l[i]?.map f := by
  induction places generalizing l with
  | nil => exact absurd h List.not_mem_nil
  | cons j places ih =>
    obtain ⟨hj, hnd⟩ := List.nodup_cons.mp hnd
    rw [modifyEach_cons]
    rcases List.mem_cons.mp h with rfl | hmem
    · rw [getElem?_modifyEach_of_notMem hj, List.getElem?_modify_eq]
      rfl
    · have hne : j ≠ i := by
        rintro rfl
        exact hj hmem
      rw [ih hnd hmem, List.getElem?_modify_ne _ _ hne]

/-- **An element that is marked around a step is as it was before**: the step made `l'`
of the marked list and left the marked element alone, and unmarking takes the mark
back. -/
theorem getElem?_unmark_of_mem (hnd : places.Nodup) (h : i ∈ places)
    (hkeeps : l'[i]? = (modifyEach mark places l)[i]?)
    (hundo : ∀ a, l[i]? = some a → unmark (mark a) = a) :
    (modifyEach unmark places l')[i]? = l[i]? := by
  rw [getElem?_modifyEach_of_mem hnd h, hkeeps, getElem?_modifyEach_of_mem hnd h]
  cases ha : l[i]? with
  | none => rfl
  | some a => exact congrArg some (hundo a ha)

end Marking
