import Mathlib.Data.Vector.Basic
import Mathlib.Data.List.Lex
import Mathlib.Order.Basic
import Blindjoin.Lib.Text

/-!
# Outpoints and their text

An outpoint names an output of a transaction: a transaction id and an index.
The coordinator keys every map by the *text* of an outpoint, `"txid:vout"`, and
reads the same text back from requests. The two directions are
`Blindjoin.OutPoint.toText`, which is what `format!("{}:{}", txid, vout)`
prints, and `Blindjoin.parseOutpoint`, which accepts more texts than the one it
prints: either case of the hexadecimal digits, leading zeros and a leading `+`
in the index.

The printed text is canonical: it is read back
(`Blindjoin.parseOutpoint_toText`), so it determines the outpoint
(`Blindjoin.OutPoint.toText_injective`).
-/

namespace Blindjoin

open TextCodec

/-- A byte string. -/
abbrev Bytes := List UInt8

/-- Thirty-two bytes: a hash, a session token, a round secret. -/
abbrev Bytes32 := List.Vector UInt8 32

/-! ### Round identifiers -/

/-- A `uuid::Uuid`. -/
abbrev Uuid := List.Vector UInt8 16

/-- The hyphenated lower-case text of a `Uuid`. -/
def Uuid.toText (u : Uuid) : String :=
  let h := hexEncode u.toList
  String.ofList (h.take 8 ++ '-' :: (h.drop 8).take 4 ++ '-' :: (h.drop 12).take 4 ++
    '-' :: (h.drop 16).take 4 ++ '-' :: h.drop 20)

/-! ### Transaction ids -/

/-- A `bitcoin::Txid`, in internal byte order. -/
structure Txid where
  bytes : Bytes32
deriving DecidableEq

/-- The text of a transaction id: the bytes reversed, in lower-case hexadecimal. -/
def Txid.toChars (t : Txid) : List Char := hexEncode t.bytes.toList.reverse

/-- `Txid::from_str`: sixty-four hexadecimal digits of either case. -/
def Txid.fromChars (cs : List Char) : Option Txid :=
  match hexDecode cs with
  | none => none
  | some bs => if h : bs.length = 32 then some ⟨⟨bs.reverse, by simpa using h⟩⟩ else none

theorem Txid.fromChars_toChars (t : Txid) : Txid.fromChars t.toChars = some t := by
  rw [Txid.fromChars, Txid.toChars, hexDecode_hexEncode]
  have hlen : t.bytes.toList.reverse.length = 32 := by simp
  simp only [dif_pos hlen, List.reverse_reverse]
  rfl

/-! ### Outpoints -/

/-- A `bitcoin::OutPoint`. -/
structure OutPoint where
  txid : Txid
  vout : UInt32
deriving DecidableEq

/-- The canonical text of an outpoint, `format!("{}:{}", txid, vout)`. -/
def OutPoint.toText (o : OutPoint) : String :=
  String.ofList (o.txid.toChars ++ ':' :: Nat.toDigits 10 o.vout.toNat)

/-- Parse a `"txid:vout"` text. The index is read first, as in the source; both
failures give `none`, so the order does not show. -/
def parseOutpoint (s : String) : Option OutPoint :=
  match rsplitOnce ':' s.toList with
  | none => none
  | some (txidStr, voutStr) =>
    match parseUnsigned (2 ^ 32) voutStr with
    | none => none
    | some vout =>
      match Txid.fromChars txidStr with
      | none => none
      | some txid => some ⟨txid, UInt32.ofNat vout⟩

/-- **The canonical text is read back.** -/
@[simp] theorem parseOutpoint_toText (o : OutPoint) : parseOutpoint o.toText = some o := by
  have hcolon : ':' ∉ Nat.toDigits 10 o.vout.toNat := fun h =>
    absurd (Nat.isDigit_of_mem_toDigits (by decide) (by decide) h) (by decide)
  rw [parseOutpoint, OutPoint.toText, String.toList_ofList, rsplitOnce_append _ hcolon]
  simp only [parseUnsigned_toDigits o.vout.toNat_lt, Txid.fromChars_toChars, UInt32.ofNat_toNat]

/-- **The canonical text determines the outpoint.** -/
theorem OutPoint.toText_injective : Function.Injective OutPoint.toText := by
  intro a b h
  have hparse := congrArg parseOutpoint h
  simpa using hparse

/-! ### The order of outpoints -/

/-- What `OutPoint`'s derived order compares: the id, byte by byte in internal
order, then the index. -/
def OutPoint.sortKey (o : OutPoint) : List ℕ :=
  o.txid.bytes.toList.map UInt8.toNat ++ [o.vout.toNat]

theorem OutPoint.sortKey_injective : Function.Injective OutPoint.sortKey := by
  rintro ⟨⟨a⟩, i⟩ ⟨⟨b⟩, j⟩ h
  obtain ⟨hbytes, hvout⟩ := List.append_inj h (by simp)
  have hbs : a.toList = b.toList :=
    List.map_injective_iff.mpr (fun _ _ => UInt8.toNat_inj.mp) hbytes
  have hij : i = j := UInt32.toNat_inj.mp (List.singleton_inj.mp hvout)
  rw [List.Vector.toList_injective hbs, hij]

instance : LinearOrder OutPoint := LinearOrder.lift' OutPoint.sortKey OutPoint.sortKey_injective

end Blindjoin
