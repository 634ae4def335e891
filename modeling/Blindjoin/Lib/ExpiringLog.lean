import Mathlib.Data.List.Induction
import Blindjoin.Lib.Collections

/-!
# A map of expiring entries, and its log

A map whose entries expire is kept in two forms: in memory, where an entry for a
key replaces the one before it, and as a log, to which entries are appended. The
memory is rebuilt by replaying the log (`ExpiringLog.replay`), and a log may be
cut down to the entries that are live at a time (`ExpiringLog.live`).

Replaying a log that was cut down is not the same map. But as long as a later
entry for a key never expires before an earlier one (`ExpiringLog.Refreshing`),
nobody who asks at that time or later can tell the difference
(`ExpiringLog.active_replay_live`).
-/

namespace ExpiringLog

open Collections

variable {κ ν : Type}

section Defs

variable [DecidableEq κ] (expiry : ν → ℕ)

/-- Insert the entries of a log, in order. -/
def replay (m : HashMap κ ν) (log : List (κ × ν)) : HashMap κ ν :=
  log.foldl (fun m e => m.insert e.1 e.2) m

/-- Whether a key has an entry that is live at a time. -/
def active (m : HashMap κ ν) (k : κ) (t : ℕ) : Bool :=
  match m.lookup k with
  | some v => t < expiry v
  | none => false

omit [DecidableEq κ] in
/-- The entries of a log that are live at a time. -/
def live (now : ℕ) (log : List (κ × ν)) : List (κ × ν) := log.filter fun e => now < expiry e.2

omit [DecidableEq κ] in
/-- An entry never expires before an earlier one for its key. -/
def Refreshing (log : List (κ × ν)) : Prop :=
  log.Pairwise fun e e' => e.1 = e'.1 → expiry e.2 ≤ expiry e'.2

end Defs

variable {expiry : ν → ℕ} {log log' : List (κ × ν)} {k : κ} {r t : ℕ}

/-- A part of a refreshing log is refreshing. -/
theorem Refreshing.sublist (h : Refreshing expiry log) (hs : List.Sublist log' log) :
    Refreshing expiry log' := List.Pairwise.sublist hs h

/-- What is live later is live now. -/
theorem live_live (h : r ≤ t) (log : List (κ × ν)) :
    live expiry t (live expiry r log) = live expiry t log := by
  rw [live, live, List.filter_filter]
  refine List.filter_congr fun e _ => ?_
  have himp : t < expiry e.2 → r < expiry e.2 := fun ht => lt_of_le_of_lt h ht
  simpa using himp

theorem live_append (log log' : List (κ × ν)) :
    live expiry t (log ++ log') = live expiry t log ++ live expiry t log' :=
  List.filter_append _ _

variable [DecidableEq κ]

/-- A key that is active has a live entry in the log. -/
theorem exists_of_active (h : active expiry (replay ∅ log) k t = true) :
    ∃ v, (k, v) ∈ log ∧ t < expiry v := by
  -- the entry that counts is the last one for the key, so the induction is from the right
  induction log using List.reverseRecOn with
  | nil => exact absurd h (by simp [replay, active])
  | append_singleton log e ih =>
    by_cases hk : k = e.1
    · obtain rfl := hk
      have hlookup : (replay ∅ (log ++ [e])).lookup e.1 = some e.2 := by
        rw [replay, List.foldl_append]
        exact AList.lookup_insert _
      refine ⟨e.2, by simp, ?_⟩
      simpa [active, hlookup] using h
    · have hlookup : (replay ∅ (log ++ [e])).lookup k = (replay ∅ log).lookup k := by
        rw [replay, List.foldl_append]
        exact AList.lookup_insert_ne hk
      have hbefore : active expiry (replay ∅ log) k t = true := by
        rw [active, hlookup] at h
        exact h
      obtain ⟨v, hmem, hv⟩ := ih hbefore
      exact ⟨v, List.mem_append_left _ hmem, hv⟩

/-- **Cutting a log down is invisible from then on**: the live entries of a
refreshing log answer every later question as the whole log does. -/
theorem active_replay_live (h : Refreshing expiry log) (hrt : r ≤ t) (k : κ) :
    active expiry (replay ∅ (live expiry r log)) k t = active expiry (replay ∅ log) k t := by
  induction log using List.reverseRecOn with
  | nil => rfl
  | append_singleton log e ih =>
    have hpre : Refreshing expiry log := h.sublist (List.sublist_append_left _ _)
    have hinsert : ∀ l : List (κ × ν), replay ∅ (l ++ [e]) = (replay ∅ l).insert e.1 e.2 :=
      fun l => by
        rw [replay, List.foldl_append]
        rfl
    rw [live_append]
    by_cases hlive : r < expiry e.2
    · have hkeep : live expiry r [e] = [e] := by simp [live, hlive]
      rw [hkeep, hinsert, hinsert]
      by_cases hk : k = e.1
      · obtain rfl := hk
        simp only [active, AList.lookup_insert]
      · have hne := ih hpre
        simp only [active, AList.lookup_insert_ne hk] at hne ⊢
        exact hne
    · have hdrop : live expiry r [e] = [] := by simp [live, hlive]
      rw [hdrop, List.append_nil, ih hpre, hinsert]
      by_cases hk : k = e.1
      · -- the dropped entry is the last one for its key: no entry before it is live either
        obtain rfl := hk
        have hexpired : active expiry (replay ∅ log) e.1 t = false := by
          rw [← Bool.not_eq_true]
          intro hactive
          obtain ⟨v, hmem, hv⟩ := exists_of_active hactive
          have hle : expiry v ≤ expiry e.2 :=
            (List.pairwise_append.mp h).2.2 (e.1, v) hmem e (by simp) rfl
          omega
        rw [hexpired, active, AList.lookup_insert]
        simp only [Bool.false_eq, decide_eq_false_iff_not]
        omega
      · simp only [active, AList.lookup_insert_ne hk]

end ExpiringLog
