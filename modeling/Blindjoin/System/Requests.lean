import Blindjoin.Lib.Service
import Blindjoin.System.Sections

/-!
# The life of a request

Most sections of a request only go on: they change nothing, and what they say about the
request depends on what some part of its handler returned (`Blindjoin.Task.settle`).
A request whose sections all go on is a reader of the states it meets; what it comes to
is `Program.served`, and two lives of it can be compared section by section.
-/

namespace Blindjoin

open Interleaving

/-- What becomes of a task whose section only goes on: it continues with a value, is
answered with an error, or dies in a panic. -/
def Task.settle {α : Type} (respond : HttpError → Response) (k : α → Task) : Res HttpError α → Task
  | .ok a => k a
  | .error (.err e) => .answered (respond e)
  | .error (.panic m) => .panicked m

theorem attempt_proceed {α : Type} (s : Coordinator) (respond : HttpError → Response)
    (r : Res HttpError α) (k : α → Task) :
    attempt s respond r (fun a => proceed s (k a)) = proceed s (Task.settle respond k r) := by
  rcases r with (e | m) | a
  · rfl
  · rfl
  · rfl

/-- A failure only goes on, whatever would have followed a success. -/
theorem attempt_fault {α β : Type} (s : Coordinator) (respond : HttpError → Response)
    (fault : Fault HttpError) (k : α → Section) (k' : β → Task) :
    attempt s respond (.error fault) k = proceed s (Task.settle respond k' (.error fault)) := by
  cases fault with
  | err e => rfl
  | panic m => rfl

section Exec

variable {E : Externals} {config : CoordinatorConfig} {s : Coordinator} {c : Choice} {t : Task}

/-- **A section that only goes on**, of a task that iterates no hash map. -/
theorem exec_proceed {next : Task} (hiter : c.Iterates s.round t)
    (hsec : taskSection E config s c t = some (proceed s next)) :
    ∃ e, exec E config s t c = some e ∧ e.next = next ∧ e.shared = s := by
  rw [exec, if_pos hiter, hsec]
  exact ⟨_, rfl, rfl, rfl⟩

/-- A task that has ended has no section to run. -/
theorem exec_none (hsec : taskSection E config s c t = none) : exec E config s t c = none := by
  rw [exec]
  split
  · rw [hsec, Option.map_none]
  · rfl

end Exec

end Blindjoin
