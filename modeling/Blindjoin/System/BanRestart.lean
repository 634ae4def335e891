import Blindjoin.Lib.ExpiringLog
import Blindjoin.Round.BanFile
import Blindjoin.System.Recorded

/-!
# Bans survive a restart

The ban list overwrites: a second ban of an outpoint replaces the first. The file
only grows, until a restart drops the expired records from it. A coordinator that
records bans and restarts at any times (`Blindjoin.BanStore.run`) nevertheless
answers every question about the time after its last restart as one that never
stopped (`Blindjoin.bans_survive_restarts`), as long as the end of every ban fits in
sixty-four bits (`Blindjoin.BanOp.Fits`).

The reason is that bans last one configured duration and the clock does not go
back, so a later ban of an outpoint never expires before an earlier one: the log
of bans is *refreshing*, and dropping what has expired from it is invisible from
then on (`ExpiringLog.active_replay_live`).

Nothing bounds the configured duration. Where the sum with the clock does not fit, a
debug build panics, and in a release build the end wraps around: a second ban may
then expire before the first, and a restart brings the first one back
(`Blindjoin.wrapped_ban_returns`).
-/

namespace Blindjoin

open Collections ExpiringLog

/-- What happens to the bans of a coordinator. -/
inductive BanOp
  /-- An outpoint is banned, in the list and in the file. -/
  | ban (utxoStr : String) (now : UInt64)
  /-- The process stops, and starts again at a time. -/
  | restart (now : UInt64)

/-- The time of an operation. -/
def BanOp.time : BanOp → UInt64
  | .ban _ now => now
  | .restart now => now

/-- The end of a ban fits in sixty-four bits. -/
def BanOp.Fits (banDuration : UInt64) : BanOp → Prop
  | .ban _ now => now.toNat + banDuration.toNat < 2 ^ 64
  | .restart _ => True

/-- The ban list of a process, and its file. -/
structure BanStore where
  list : BanList
  file : Option Bytes

namespace BanStore

variable (b : Build) (E : Externals) (R : BanRecordReader) (banDuration : UInt64)

/-- Before the first start there is no file. -/
def init : BanStore := ⟨BanList.new, none⟩

/-- One operation. A ban is recorded in the list and then appended to the file, as an
entry that is made from another sum of the same two numbers. -/
def step (s : BanStore) : BanOp → Res Unit BanStore
  | .ban utxoStr now => do
    let list ← s.list.banU64 b E utxoStr now.toNat banDuration.toNat
    let expiresAt ← b.add now.toNat banDuration.toNat
    pure ⟨list, appendBanEntry E s.file utxoStr ⟨now, UInt64.ofNat expiresAt⟩⟩
  | .restart now => pure ⟨(startBanList R s.file now).1, (startBanList R s.file now).2⟩

/-- Operations, in order. -/
def run (s : BanStore) (ops : List BanOp) : Res Unit BanStore :=
  ops.foldlM (step b E R banDuration) s

end BanStore

section Uninterrupted

variable (b : Build) (E : Externals) (banDuration : UInt64)

/-- One operation of a process that never stops: only a ban counts. -/
def uninterruptedStep (l : BanList) : BanOp → Res Unit BanList
  | .ban utxoStr now => l.banU64 b E utxoStr now.toNat banDuration.toNat
  | .restart _ => pure l

/-- The list of a process that never stops: it records the bans. -/
def uninterrupted (ops : List BanOp) : Res Unit BanList :=
  ops.foldlM (uninterruptedStep b E banDuration) BanList.new

end Uninterrupted

/-! ### The logs -/

section Logs

variable (E : Externals) (banDuration : UInt64)

/-- The end of a ban. -/
def BanEntry.endsAt (entry : BanEntry UInt64) : ℕ := entry.expiresAt.toNat

/-- The entry a ban makes; its end is a sum of machine integers. -/
def banEntryOf (utxoStr : String) (now : UInt64) : String × BanEntry UInt64 :=
  (hashUtxoStr E utxoStr, ⟨now, now + banDuration⟩)

/-- The log of all bans. -/
def banLog (ops : List BanOp) : List (String × BanEntry UInt64) :=
  ops.filterMap fun op => match op with
    | .ban utxoStr now => some (banEntryOf E banDuration utxoStr now)
    | .restart _ => none

/-- The log a file of records keeps: a restart drops what has expired. -/
def fileLog (ops : List BanOp) : List (String × BanEntry UInt64) :=
  ops.foldl (fun log op => match op with
    | .ban utxoStr now => log ++ [banEntryOf E banDuration utxoStr now]
    | .restart now => live BanEntry.endsAt now.toNat log) []

end Logs

section Append

variable {b : Build} {E : Externals} {R : BanRecordReader} {banDuration : UInt64}
  {ops : List BanOp} {op : BanOp}

theorem BanStore.run_append (s : BanStore) :
    s.run b E R banDuration (ops ++ [op]) =
      s.run b E R banDuration ops >>= fun s => s.step b E R banDuration op := by
  rw [run, run, List.foldlM_append]
  refine bind_congr fun s' => ?_
  rw [List.foldlM_cons]
  exact bind_pure _

theorem uninterrupted_append :
    uninterrupted b E banDuration (ops ++ [op]) =
      uninterrupted b E banDuration ops >>= fun l => uninterruptedStep b E banDuration l op := by
  rw [uninterrupted, uninterrupted, List.foldlM_append]
  refine bind_congr fun l => ?_
  rw [List.foldlM_cons]
  exact bind_pure _

theorem banLog_append_ban (utxoStr : String) (now : UInt64) :
    banLog E banDuration (ops ++ [.ban utxoStr now]) =
      banLog E banDuration ops ++ [banEntryOf E banDuration utxoStr now] := List.filterMap_append

theorem banLog_append_restart (now : UInt64) :
    banLog E banDuration (ops ++ [.restart now]) = banLog E banDuration ops := by
  rw [banLog, List.filterMap_append]
  exact List.append_nil _

theorem fileLog_append_ban (utxoStr : String) (now : UInt64) :
    fileLog E banDuration (ops ++ [.ban utxoStr now]) =
      fileLog E banDuration ops ++ [banEntryOf E banDuration utxoStr now] := List.foldl_append

theorem fileLog_append_restart (now : UInt64) :
    fileLog E banDuration (ops ++ [.restart now]) =
      live BanEntry.endsAt now.toNat (fileLog E banDuration ops) := List.foldl_append

theorem banFileOf_append (log : List (String × BanEntry UInt64))
    (e : String × BanEntry UInt64) :
    banFileOf (log ++ [e]) = banFileOf log ++ banFileOf [e] := by
  rw [banFileOf, List.map_append, Lines.join_append]
  rfl

theorem banListOf_append (log : List (String × BanEntry UInt64))
    (e : String × BanEntry UInt64) :
    banListOf (log ++ [e]) = (banListOf log).loadEntry e.1 e.2 := List.foldl_append

/-- The unexpired entries of a file are the live ones of its log. -/
theorem filter_eq_live (log : List (String × BanEntry UInt64)) (now : UInt64) :
    (log.filter fun e => now < e.2.expiresAt) = live BanEntry.endsAt now.toNat log := by
  refine List.filter_congr fun e _ => ?_
  rw [decide_eq_decide, UInt64.lt_iff_toNat_lt]
  rfl

end Append

variable {b : Build} {E : Externals} {R : BanRecordReader} {banDuration : UInt64}
  {ops : List BanOp}

/-- The list answers as the replay of its log does. -/
theorem isBanned_banListOf (log : List (String × BanEntry UInt64)) (utxoStr : String) (t : ℕ) :
    (banListOf log).isBanned E utxoStr t =
      active BanEntry.endsAt (replay ∅ log) (hashUtxoStr E utxoStr) t := by
  have hlookup : ∀ key, (banListOf log).entries.lookup key =
      ((replay ∅ log).lookup key).map BanEntry.toNat := by
    intro key
    induction log using List.reverseRecOn with
    | nil => rfl
    | append_singleton log e ih =>
      have hreplay : replay ∅ (log ++ [e]) = (replay ∅ log).insert e.1 e.2 := by
        rw [replay, replay, List.foldl_append]
        rfl
      rw [banListOf_append, BanList.loadEntry, hreplay]
      by_cases hkey : key = e.1
      · obtain rfl := hkey
        rw [AList.lookup_insert, AList.lookup_insert]
        rfl
      · rw [AList.lookup_insert_ne hkey, AList.lookup_insert_ne hkey, ih]
  rw [BanList.isBanned, hlookup, active]
  cases (replay ∅ log).lookup (hashUtxoStr E utxoStr) with
  | none => rfl
  | some entry => rfl

/-! ### What a run leaves -/

/-- A ban in the list and its entry for the file are made from one sum. -/
theorem banU64_toNat {now : UInt64} (h : b = .release ∨ now.toNat + banDuration.toNat < 2 ^ 64)
    (log : List (String × BanEntry UInt64)) (utxoStr : String) :
    ((banListOf log).banU64 b E utxoStr now.toNat banDuration.toNat : Res Unit BanList) =
      .ok (banListOf (log ++ [banEntryOf E banDuration utxoStr now])) := by
  rw [BanList.banU64, b.add_toNat h, banListOf_append]
  rfl

/-- The end of each ban is a sum the build computes. -/
def Sums (b : Build) (banDuration : UInt64) (ops : List BanOp) : Prop :=
  b = .release ∨ ∀ op ∈ ops, op.Fits banDuration

theorem Sums.of_append {op : BanOp} (h : Sums b banDuration (ops ++ [op])) :
    Sums b banDuration ops :=
  h.imp_right fun hfits op' hmem => hfits op' (List.mem_append_left _ hmem)

theorem Sums.last {utxoStr : String} {now : UInt64}
    (h : Sums b banDuration (ops ++ [.ban utxoStr now])) :
    b = .release ∨ now.toNat + banDuration.toNat < 2 ^ 64 :=
  h.imp_right fun hfits => hfits (.ban utxoStr now) (by simp)

/-- **What a run leaves**: the list and the file of one log. -/
theorem BanStore.exists_run_init (hR : R.ReadsBack) (h : Sums b banDuration ops) :
    ∃ s : BanStore, BanStore.init.run b E R banDuration ops = .ok s ∧
      s.list = banListOf (fileLog E banDuration ops) ∧
      ((s.file = none ∧ fileLog E banDuration ops = []) ∨
        s.file = some (banFileOf (fileLog E banDuration ops))) := by
  induction ops using List.reverseRecOn with
  | nil => exact ⟨_, rfl, rfl, .inl ⟨rfl, rfl⟩⟩
  | append_singleton ops op ih =>
    obtain ⟨⟨list, file⟩, hrun, rfl, hfile⟩ := ih h.of_append
    rw [BanStore.run_append, hrun, ok_bind]
    cases op with
    | ban utxoStr now =>
      rw [fileLog_append_ban, BanStore.step, banU64_toNat h.last, ok_bind, b.add_toNat h.last,
        ok_bind]
      refine ⟨_, rfl, rfl, .inr ?_⟩
      rw [UInt64.ofNat_toNat, banFileOf_append]
      rcases hfile with ⟨rfl, hnil⟩ | rfl
      · rw [hnil]
        rfl
      · rfl
    | restart now =>
      rw [fileLog_append_restart]
      rcases hfile with ⟨rfl, hnil⟩ | rfl
      -- before the first ban there is no file, and a restart makes none
      · rw [hnil]
        exact ⟨_, rfl, rfl, .inl ⟨rfl, rfl⟩⟩
      -- the list is filled with what the file is cut down to
      · have hload : loadUnexpiredEntries R (some (banFileOf (fileLog E banDuration ops))) now =
            .ok (live BanEntry.endsAt now.toNat (fileLog E banDuration ops)) := by
          rw [loadUnexpiredEntries_banFileOf hR, filter_eq_live]
        rw [BanStore.step, startBanList, compactBanFile, hload]
        exact ⟨_, rfl, rfl, .inr rfl⟩

theorem uninterrupted_eq (h : Sums b banDuration ops) :
    uninterrupted b E banDuration ops = .ok (banListOf (banLog E banDuration ops)) := by
  induction ops using List.reverseRecOn with
  | nil => rfl
  | append_singleton ops op ih =>
    rw [uninterrupted_append, ih h.of_append, ok_bind]
    cases op with
    | ban utxoStr now => rw [banLog_append_ban, uninterruptedStep, banU64_toNat h.last]
    | restart now =>
      rw [banLog_append_restart]
      rfl

/-- From the last restart on, the two logs are live together. -/
theorem live_fileLog {t : ℕ} (h : ∀ now, .restart now ∈ ops → now.toNat ≤ t) :
    live BanEntry.endsAt t (fileLog E banDuration ops) =
      live BanEntry.endsAt t (banLog E banDuration ops) := by
  induction ops using List.reverseRecOn with
  | nil => rfl
  | append_singleton ops op ih =>
    have hprefix := ih fun now hmem => h now (List.mem_append_left _ hmem)
    cases op with
    | ban utxoStr now =>
      rw [fileLog_append_ban, banLog_append_ban, live_append, live_append, hprefix]
    | restart now =>
      have hle : now.toNat ≤ t := h now (by simp)
      rw [fileLog_append_restart, banLog_append_restart, live_live hle, hprefix]

/-- What a restart leaves of the log is a part of it. -/
theorem fileLog_sublist : List.Sublist (fileLog E banDuration ops) (banLog E banDuration ops) := by
  induction ops using List.reverseRecOn with
  | nil => exact List.Sublist.refl _
  | append_singleton ops op ih =>
    cases op with
    | ban utxoStr now =>
      rw [fileLog_append_ban, banLog_append_ban]
      exact ih.append (List.Sublist.refl _)
    | restart now =>
      rw [fileLog_append_restart, banLog_append_restart]
      exact List.filter_sublist.trans ih

/-- The end of a ban that fits is the exact sum. -/
theorem endsAt_banEntryOf {now : UInt64} (h : now.toNat + banDuration.toNat < 2 ^ 64)
    (utxoStr : String) :
    (banEntryOf E banDuration utxoStr now).2.endsAt = now.toNat + banDuration.toNat := by
  rw [banEntryOf, BanEntry.endsAt, UInt64.toNat_add, Nat.mod_eq_of_lt h]

/-- **Bans are refreshed, never shortened**: the clock does not go back, every ban
lasts as long, and no end wraps around. -/
theorem refreshing_banLog (hfits : ∀ op ∈ ops, op.Fits banDuration)
    (h : (ops.map BanOp.time).Pairwise (· ≤ ·)) :
    Refreshing BanEntry.endsAt (banLog E banDuration ops) := by
  rw [List.pairwise_map] at h
  have hpairs := List.Pairwise.and_mem.mp h
  refine List.Pairwise.filterMap _ ?_ hpairs
  rintro op op' ⟨hmem, hmem', hle⟩ e he e' he'
  cases op with
  | restart now => exact absurd he (by simp)
  | ban utxoStr now =>
    cases op' with
    | restart now' => exact absurd he' (by simp)
    | ban utxoStr' now' =>
      obtain rfl := Option.some.inj he
      obtain rfl := Option.some.inj he'
      intro _
      rw [endsAt_banEntryOf (hfits _ hmem), endsAt_banEntryOf (hfits _ hmem')]
      exact Nat.add_le_add_right (UInt64.le_iff_toNat_le.mp hle) _

/-- At every time from the last restart on, the list of a process that was
restarted at any points bans the outpoints that the list of one that never stopped
does. -/
theorem isBanned_fileLog (hfits : ∀ op ∈ ops, op.Fits banDuration)
    (hclock : (ops.map BanOp.time).Pairwise (· ≤ ·)) (utxoStr : String) {t : ℕ}
    (ht : ∀ now, .restart now ∈ ops → now.toNat ≤ t) :
    (banListOf (fileLog E banDuration ops)).isBanned E utxoStr t =
      (banListOf (banLog E banDuration ops)).isBanned E utxoStr t := by
  have hall : Refreshing BanEntry.endsAt (banLog E banDuration ops) :=
    refreshing_banLog hfits hclock
  -- at this time both logs answer as their live entries do, which are the same
  have hfile := hall.sublist fileLog_sublist
  rw [isBanned_banListOf, isBanned_banListOf, ← active_replay_live hfile (le_refl t),
    live_fileLog ht, active_replay_live hall (le_refl t)]

/-! ### Compaction -/

/-- What is unexpired later is what is unexpired now, and still is later. -/
theorem unexpiredRecord_filter {now t : UInt64} (h : now ≤ t) (line : String) :
    (unexpiredRecord R now line).filter (fun e => t < e.2.expiresAt) =
      unexpiredRecord R t line := by
  rw [unexpiredRecord, unexpiredRecord]
  by_cases hempty : trim line = ""
  · rw [if_pos hempty, if_pos hempty]
    rfl
  · rw [if_neg hempty, if_neg hempty]
    cases R.fromStr (trim line) with
    | none => rfl
    | some record =>
      by_cases hlate : t < record.expiresAt
      · have hnow : now < record.expiresAt := UInt64.lt_of_le_of_lt h hlate
        simp [hlate, hnow]
      · by_cases hnow : now < record.expiresAt
        · simpa [hlate, hnow] using UInt64.not_lt.mp hlate
        · simp [hlate, hnow]

theorem validEntries_filter {now t : UInt64} (h : now ≤ t) (content : Bytes) :
    (validEntries R content now).filter (fun e => t < e.2.expiresAt) =
      validEntries R content t := by
  rw [validEntries, validEntries, List.filter_filterMap]
  refine List.filterMap_congr fun line _ => ?_
  cases decodeLine line with
  | none => rfl
  | some text => rw [Option.bind_some, Option.bind_some, unexpiredRecord_filter h]

/-- What compaction leaves of a file. -/
theorem compactBanFile_some (R : BanRecordReader) (content : Bytes) (now : UInt64) :
    ((∀ t, loadUnexpiredEntries R (some content) t = .ok (validEntries R content t)) ∧
      (compactBanFile R (some content) now).2 =
        some (banFileOf (validEntries R content now))) ∨
    (compactBanFile R (some content) now).2 = some content := by
  rcases loadUnexpiredEntries_some R content now with ⟨hall, hok⟩ | ⟨-, herr⟩
  · refine .inl ⟨fun t => ?_, by rw [compactBanFile, hok]⟩
    rcases loadUnexpiredEntries_some R content t with ⟨-, hokt⟩ | ⟨⟨line, hmem, hnone⟩, -⟩
    · exact hokt
    · have hsome := hall line hmem
      rw [hnone] at hsome
      exact absurd hsome (by simp)
  · exact .inr (by rw [compactBanFile, herr])

/-- Compaction is invisible to every later load, and compacting again at the same
time changes nothing. -/
theorem load_compactBanFile (hR : R.ReadsBack) (file : Option Bytes) (now : UInt64) :
    (∀ t, now ≤ t → loadUnexpiredEntries R (compactBanFile R file now).2 t =
      loadUnexpiredEntries R file t) ∧
    (compactBanFile R (compactBanFile R file now).2 now).2 = (compactBanFile R file now).2 := by
  cases file with
  | none => exact ⟨fun t _ => rfl, rfl⟩
  | some content =>
    rcases compactBanFile_some R content now with ⟨hload, hcompact⟩ | hsame
    · have hreload : ∀ t, now ≤ t →
          loadUnexpiredEntries R (some (banFileOf (validEntries R content now))) t =
            .ok (validEntries R content t) := by
        intro t ht
        rw [loadUnexpiredEntries_banFileOf hR, validEntries_filter ht]
      rw [hcompact]
      refine ⟨fun t ht => by rw [hreload t ht, hload t], ?_⟩
      rw [compactBanFile, hreload now UInt64.le_rfl]
    · rw [hsame]
      exact ⟨fun t _ => rfl, hsame⟩

/-! ### Restarts -/

/-- **Bans survive restarts**, in either build and whatever the points and times of
the restarts, when the end of each ban fits: no operation fails, and the list answers
every question about a time from the last restart on as the list of a process that
never stopped. And compacting a file, whatever it holds, is idempotent and changes
nothing that is loaded from it then or later. -/
theorem bans_survive_restarts (b : Build) (E : Externals) (hR : R.ReadsBack)
    (banDuration : UInt64) (ops : List BanOp) (hclock : (ops.map BanOp.time).Pairwise (· ≤ ·))
    (hfits : ∀ op ∈ ops, op.Fits banDuration) :
    (∃ s l, BanStore.init.run b E R banDuration ops = .ok s ∧
      uninterrupted b E banDuration ops = .ok l ∧
      ∀ utxoStr t, (∀ now, .restart now ∈ ops → now.toNat ≤ t) →
        s.list.isBanned E utxoStr t = l.isBanned E utxoStr t) ∧
    ∀ file now,
      (∀ t, now ≤ t → loadUnexpiredEntries R (compactBanFile R file now).2 t =
        loadUnexpiredEntries R file t) ∧
      (compactBanFile R (compactBanFile R file now).2 now).2 = (compactBanFile R file now).2 := by
  refine ⟨?_, load_compactBanFile hR⟩
  obtain ⟨s, hrun, hlist, -⟩ := BanStore.exists_run_init (E := E) hR (Or.inr hfits)
  refine ⟨s, _, hrun, uninterrupted_eq (Or.inr hfits), fun utxoStr t ht => ?_⟩
  rw [hlist]
  exact isBanned_fileLog hfits hclock utxoStr ht

/-- A coin that is banned twice around a restart. -/
def twiceBanned : List BanOp :=
  [.ban firstCoin.toText 1000, .restart 2000, .ban firstCoin.toText 3000, .restart 5000]

/-- It is still banned after another restart, when the first ban has expired. -/
theorem bans_survive_restarts_session :
    ∃ s l, BanStore.init.run .release session.externals compactReader 3600 twiceBanned = .ok s ∧
      uninterrupted .release session.externals 3600 twiceBanned = .ok l ∧
      s.list.isBanned session.externals firstCoin.toText 6000 = true := by
  have hfits : ∀ op ∈ twiceBanned, op.Fits 3600 := by
    simp [twiceBanned, BanOp.Fits]
  obtain ⟨⟨s, l, hrun, hl, hsame⟩, -⟩ := bans_survive_restarts .release session.externals
    readsBack_compactReader 3600 twiceBanned (by decide) hfits
  refine ⟨s, l, hrun, hl, ?_⟩
  rw [hsame firstCoin.toText 6000 (by simp [twiceBanned])]
  obtain rfl := Except.ok.inj ((uninterrupted_eq (Or.inr hfits)).symm.trans hl)
  rw [isBanned_banListOf]
  decide +kernel

/-! ### An end that wraps around -/

/-- The default configuration, with bans that are to last for ever. -/
def lastingBans : CoordinatorConfig :=
  { CoordinatorConfig.withDefaults with
    coordinator := { CoordinatorConfig.withDefaults.coordinator with
      blameBanDurationSecs := 2 ^ 64 - 1500 } }

/-- Its duration. -/
def lastingDuration : UInt64 := UInt64.ofNat lastingBans.coordinator.blameBanDurationSecs

/-- A coin that is banned twice before a restart. -/
def wrappedRun : List BanOp :=
  [.ban firstCoin.toText 1000, .ban firstCoin.toText 2000, .restart 2500]

/-- **A ban that was replaced comes back with a restart**: the end of the second ban
wraps around and has passed, that of the first one has not. The list that never
stopped holds the second ban only, and the file both. -/
theorem wrapped_ban_returns :
    lastingBans.validate = .ok () ∧ (wrappedRun.map BanOp.time).Pairwise (· ≤ ·) ∧
    ∃ s l, BanStore.init.run .release session.externals compactReader lastingDuration wrappedRun =
        .ok s ∧
      uninterrupted .release session.externals lastingDuration wrappedRun = .ok l ∧
      s.list.isBanned session.externals firstCoin.toText 2500 = true ∧
      l.isBanned session.externals firstCoin.toText 2500 = false := by
  have hsums : Sums .release lastingDuration wrappedRun := Or.inl rfl
  obtain ⟨s, hrun, hlist, -⟩ :=
    BanStore.exists_run_init (E := session.externals) readsBack_compactReader hsums
  refine ⟨by decide, by decide, s, _, hrun, uninterrupted_eq hsums, ?_, ?_⟩
  · rw [hlist, isBanned_banListOf]
    decide +kernel
  · rw [isBanned_banListOf]
    decide +kernel

end Blindjoin
