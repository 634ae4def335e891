import Blindjoin.Lib.FromStr
import Blindjoin.Shared.Errors
import Blindjoin.Externals

/-!
# The outpoint text of the client

The client reads the text of its own outpoint with a parser of its own, which cuts at the
first colon where the coordinator cuts at the last, and reads the transaction id before
the index. **The two accept the same texts**, as the same outpoints
(`Blindjoin.toOption_walletParseOutpoint`): a text with more than one colon is refused by
both, each finding a colon where it cannot be.
-/

namespace Blindjoin

open TextCodec

/-- `str::parse::<u32>`. -/
def parseU32 (cs : List Char) : Except ParseIntError ℕ := fromStrRadix (2 ^ 32) cs

/-- The client's `parse_outpoint`. The first part of a split is always there, so that the
error for a missing transaction id is never reported. -/
def walletParseOutpoint (E : Externals) (s : String) : Except String OutPoint := do
  let (txidStr, voutStr) ← okOr "Missing vout" (splitOnce ':' s.toList)
  let txid ← okOr (E.txidParseError (String.ofList txidStr)) (Txid.fromChars txidStr)
  let vout ← (parseU32 voutStr).mapError ParseIntError.toText
  pure ⟨txid, UInt32.ofNat vout⟩

variable {E : Externals}

/-- A transaction id has no colon in it. -/
theorem txid_fromChars_eq_none {cs : List Char} (h : ':' ∈ cs) : Txid.fromChars cs = none := by
  rw [Txid.fromChars, hexDecode_eq_none (by decide) h]

theorem toOption_parseU32 (cs : List Char) :
    (parseU32 cs).toOption = parseUnsigned (2 ^ 32) cs :=
  toOption_fromStrRadix (by decide) cs

theorem parseU32_eq_ok {cs : List Char} {n : ℕ} :
    parseU32 cs = .ok n ↔ parseUnsigned (2 ^ 32) cs = some n := by
  rw [← toOption_parseU32, toOption_eq_some]

/-- What the client accepts: an id before the first colon, and an index after it. -/
theorem walletParseOutpoint_eq_ok {s : String} {o : OutPoint} :
    walletParseOutpoint E s = .ok o ↔ ∃ txidStr voutStr txid vout,
      splitOnce ':' s.toList = some (txidStr, voutStr) ∧ Txid.fromChars txidStr = some txid ∧
        parseUnsigned (2 ^ 32) voutStr = some vout ∧ o = ⟨txid, UInt32.ofNat vout⟩ := by
  simp only [walletParseOutpoint, bind_eq_ok, okOr_eq_ok, mapError_eq_ok, parseU32_eq_ok]
  constructor
  · rintro ⟨⟨txidStr, voutStr⟩, hsplit, txid, htxid, vout, hvout, ho⟩
    exact ⟨txidStr, voutStr, txid, vout, hsplit, htxid, hvout, (Except.ok.inj ho).symm⟩
  · rintro ⟨txidStr, voutStr, txid, vout, hsplit, htxid, hvout, rfl⟩
    exact ⟨(txidStr, voutStr), hsplit, txid, htxid, vout, hvout, rfl⟩

/-- What the coordinator accepts: an id before the last colon, and an index after it. -/
theorem parseOutpoint_eq_some {s : String} {o : OutPoint} :
    parseOutpoint s = some o ↔ ∃ txidStr voutStr txid vout,
      rsplitOnce ':' s.toList = some (txidStr, voutStr) ∧ Txid.fromChars txidStr = some txid ∧
        parseUnsigned (2 ^ 32) voutStr = some vout ∧ o = ⟨txid, UInt32.ofNat vout⟩ := by
  rw [parseOutpoint]
  constructor
  · intro h
    split at h
    · exact absurd h (by simp)
    · next txidStr voutStr hsplit =>
      split at h
      · exact absurd h (by simp)
      · next vout hvout =>
        split at h
        · exact absurd h (by simp)
        · next txid htxid =>
          exact ⟨txidStr, voutStr, txid, vout, hsplit, htxid, hvout, (Option.some.inj h).symm⟩
  · rintro ⟨txidStr, voutStr, txid, vout, hsplit, htxid, hvout, rfl⟩
    simp only [hsplit, hvout, htxid]

/-- **The two parsers agree** on every text. -/
theorem toOption_walletParseOutpoint (s : String) :
    (walletParseOutpoint E s).toOption = parseOutpoint s := by
  ext o
  rw [toOption_eq_some, walletParseOutpoint_eq_ok, parseOutpoint_eq_some]
  constructor
  · rintro ⟨txidStr, voutStr, txid, vout, hsplit, htxid, hvout, rfl⟩
    rcases rsplitOnce_of_splitOnce hsplit with ⟨hlast, -⟩ | ⟨hcolon, -⟩
    · exact ⟨txidStr, voutStr, txid, vout, hlast, htxid, hvout, rfl⟩
    · -- with a second colon the client finds one in the index
      rw [parseUnsigned_eq_none hcolon (by decide) (by decide)] at hvout
      exact absurd hvout (by simp)
  · rintro ⟨txidStr, voutStr, txid, vout, hlast, htxid, hvout, rfl⟩
    cases hsplit : splitOnce ':' s.toList with
    | none =>
      rw [rsplitOnce_eq_none (splitOnce_eq_none hsplit)] at hlast
      exact absurd hlast (by simp)
    | some parts =>
      rcases rsplitOnce_of_splitOnce hsplit with ⟨hlast', -⟩ | ⟨-, a, b, hlast', hcolon⟩
      · obtain ⟨rfl, rfl⟩ := Prod.mk.inj (Option.some.inj (hlast'.symm.trans hlast))
        exact ⟨parts.1, parts.2, txid, vout, rfl, htxid, hvout, rfl⟩
      · -- with a second colon the coordinator finds one in the id
        obtain ⟨rfl, rfl⟩ := Prod.mk.inj (Option.some.inj (hlast'.symm.trans hlast))
        rw [txid_fromChars_eq_none hcolon] at htxid
        exact absurd htxid (by simp)

/-- The canonical text is read back by the client as well. -/
theorem walletParseOutpoint_toText (o : OutPoint) : walletParseOutpoint E o.toText = .ok o := by
  have hagree := toOption_walletParseOutpoint (E := E) o.toText
  rw [parseOutpoint_toText] at hagree
  exact toOption_eq_some.mp hagree

end Blindjoin
