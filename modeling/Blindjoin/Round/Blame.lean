import Blindjoin.Round.State
import Blindjoin.Shared.MachineInt

/-!
# Bans

The ban list maps the hash of an outpoint's text to the time its ban expires;
every use of the list hashes the text it is given
(`Blindjoin.hashUtxoStr`), so a ban is found again exactly under the text it was
recorded with. At the signing deadline the participants who did not sign are
banned (`Blindjoin.onSigningTimeout`).

The source adds the duration of a ban to the clock in `u64`
(`Blindjoin.BanList.banU64`). The coordinator's bans are those of exact numbers
(`Blindjoin.BanList.ban`), which are the same ones in either build while the sum
fits (`Blindjoin.BanList.banU64_of_lt`).
-/

namespace Blindjoin

open Collections

/-- A ban, in seconds of Unix time. -/
structure BanEntry (τ : Type) where
  bannedAt : τ
  expiresAt : τ
deriving DecidableEq

/-- The numbers of an entry of machine integers. -/
def BanEntry.toNat (entry : BanEntry UInt64) : BanEntry ℕ :=
  ⟨entry.bannedAt.toNat, entry.expiresAt.toNat⟩

/-- The bans in force, under the hash of the outpoint text. -/
structure BanList where
  entries : HashMap String (BanEntry ℕ)
deriving DecidableEq

/-- The key of an outpoint text: its hash in hexadecimal. -/
def hashUtxoStr (E : Externals) (utxoStr : String) : String :=
  String.ofList (TextCodec.hexEncode (E.sha256 (utf8 utxoStr)).toList)

namespace BanList

/-- An empty list. -/
def new : BanList := ⟨∅⟩

/-- Record a ban that ends at the exact sum of the clock and the duration. -/
def ban (E : Externals) (l : BanList) (utxoStr : String) (nowSecs banDuration : ℕ) : BanList :=
  ⟨l.entries.insert (hashUtxoStr E utxoStr) ⟨nowSecs, nowSecs + banDuration⟩⟩

/-- Record a ban, in sixty-four bits. -/
def banU64 {ε : Type} (b : Build) (E : Externals) (l : BanList) (utxoStr : String)
    (nowSecs banDuration : ℕ) : Res ε BanList := do
  let expiresAt ← b.add nowSecs banDuration
  pure ⟨l.entries.insert (hashUtxoStr E utxoStr) ⟨nowSecs, expiresAt⟩⟩

/-- Whether an outpoint text is banned at a time. -/
def isBanned (E : Externals) (l : BanList) (utxoStr : String) (nowSecs : ℕ) : Bool :=
  match l.entries.lookup (hashUtxoStr E utxoStr) with
  | some entry => nowSecs < entry.expiresAt
  | none => false

/-- Record a ban for each of several texts, in order. -/
def banAll (E : Externals) (l : BanList) (utxoStrs : List String) (nowSecs banDuration : ℕ) :
    BanList :=
  utxoStrs.foldl (fun l utxoStr => l.ban E utxoStr nowSecs banDuration) l

/-! ### What a ban does -/

variable {E : Externals} {l : BanList} {utxoStr utxoStr' : String} {utxoStrs : List String}
  {nowSecs banDuration t : ℕ}

/-- A ban whose end fits is the exact one, in either build. -/
theorem banU64_of_lt {ε : Type} {b : Build} (h : nowSecs + banDuration < 2 ^ 64) (l : BanList)
    (utxoStr : String) :
    (l.banU64 b E utxoStr nowSecs banDuration : Res ε BanList) =
      .ok (l.ban E utxoStr nowSecs banDuration) := by
  rw [banU64, b.add_of_lt h]
  rfl

/-- Nobody is banned before the first ban. -/
theorem isBanned_of_entries_eq_nil (h : l.entries.entries = []) :
    l.isBanned E utxoStr t = false := by
  have hempty : l.entries = ∅ := AList.ext h
  rw [isBanned, hempty, AList.lookup_empty]

/-- A text is banned until its ban expires. -/
theorem isBanned_ban_self (ht : t < nowSecs + banDuration) :
    (l.ban E utxoStr nowSecs banDuration).isBanned E utxoStr t = true := by
  simp [ban, isBanned, ht]

/-- A ban is not lifted by another one that expires no sooner than is asked for. -/
theorem isBanned_ban (ht : t < nowSecs + banDuration) (h : l.isBanned E utxoStr t = true) :
    (l.ban E utxoStr' nowSecs banDuration).isBanned E utxoStr t = true := by
  by_cases hkey : hashUtxoStr E utxoStr = hashUtxoStr E utxoStr'
  · simp only [ban, isBanned]
    rw [hkey, AList.lookup_insert]
    simpa using ht
  · simpa only [ban, isBanned, AList.lookup_insert_ne hkey] using h

theorem isBanned_banAll_of_isBanned (utxoStrs : List String) (ht : t < nowSecs + banDuration)
    (h : l.isBanned E utxoStr t = true) :
    (l.banAll E utxoStrs nowSecs banDuration).isBanned E utxoStr t = true := by
  induction utxoStrs generalizing l with
  | nil => exact h
  | cons utxoStr' utxoStrs ih => exact ih (isBanned_ban ht h)

/-- **Each of several texts is banned.** -/
theorem isBanned_banAll (hmem : utxoStr ∈ utxoStrs) (ht : t < nowSecs + banDuration) :
    (l.banAll E utxoStrs nowSecs banDuration).isBanned E utxoStr t = true := by
  induction utxoStrs generalizing l with
  | nil => exact absurd hmem (by simp)
  | cons utxoStr' utxoStrs ih =>
    rcases List.mem_cons.mp hmem with rfl | hmem
    · have hself : (l.ban E utxoStr nowSecs banDuration).isBanned E utxoStr t = true :=
        isBanned_ban_self ht
      have hkept := isBanned_banAll_of_isBanned utxoStrs ht hself
      exact hkept
    · exact ih hmem

/-- **No other text is banned**: what is found under another hash is what was
found before. -/
theorem isBanned_banAll_of_ne (h : ∀ utxoStr' ∈ utxoStrs,
    hashUtxoStr E utxoStr ≠ hashUtxoStr E utxoStr') :
    (l.banAll E utxoStrs nowSecs banDuration).isBanned E utxoStr t = l.isBanned E utxoStr t := by
  induction utxoStrs generalizing l with
  | nil => rfl
  | cons utxoStr' utxoStrs ih =>
    refine (ih fun u hu => h u (by simp [hu])).trans ?_
    simp only [ban, isBanned, AList.lookup_insert_ne (h utxoStr' (by simp))]

end BanList

/-- The registered outpoints, in the order `keys` they are iterated, that have
no signature. -/
def detectNonSigners (keys : List String) (partialSigs : HashMap String Bytes) : List String :=
  keys.filter fun utxoStr => utxoStr ∉ partialSigs

/-- The participants who did not sign; nobody without an inner state. -/
def RoundState.nonSigners (s : RoundState) (keys : List String) : List String :=
  match s.inner with
  | some inner => detectNonSigners keys inner.partialSigs
  | none => []

/-- Cap on consecutive unproductive rounds before the re-armer is paused. -/
def consecutiveBlameCap : ℕ := 2

/-- What follows a signing deadline. -/
inductive BlameOutcome
  | fullAbort
  | restartWithout (bannedUtxos : List String)
deriving DecidableEq

/-- What the signing deadline does: the state and the ban list it leaves, the
outpoint texts it banned, and what follows. -/
structure SigningTimeout where
  round : RoundState
  banList : BanList
  banned : List String
  outcome : BlameOutcome

/-- The signing deadline: ban the participants who did not sign and end the
round. The registered outpoints are iterated in the order `keys`. -/
def onSigningTimeout (E : Externals) (s : RoundState) (banList : BanList)
    (banDurationSecs blameRoundCount now : ℕ) (fresh : Uuid) (keys : List String) :
    SigningTimeout :=
  let nonSigners := s.nonSigners keys
  { round := (s.tryTransitionTo .blame fresh).tryTransitionTo .idle fresh
    banList := banList.banAll E nonSigners now banDurationSecs
    banned := nonSigners
    outcome :=
      if consecutiveBlameCap ≤ blameRoundCount then .fullAbort
      else if nonSigners.isEmpty then .fullAbort
      else .restartWithout nonSigners }

end Blindjoin
