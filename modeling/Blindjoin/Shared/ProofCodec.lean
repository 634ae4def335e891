import Blindjoin.Lib.Collections
import Blindjoin.Shared.Json
import Blindjoin.Shared.Protocol

/-!
# The two wire shapes of an ownership proof

An ownership proof travels as the text of a JSON value. A proof of version 1
without a script type and without PSBT data is written in the legacy shape, an
array of hexadecimal strings; every other one is written as an object
(`Blindjoin.OwnershipProof.toJsonHexStr`). The reader tries an array of strings
first and the derived reader second, which takes an object, with defaults for the
fields that are missing, and also an array of the four fields in their order
(`Blindjoin.OwnershipProof.ofValue`).

The shapes overlap in the arrays. They do not in what is written: an object is no
array, so what is written is read back (`Blindjoin.proof_wire_roundTrip`).
-/

namespace Blindjoin

open Collections TextCodec

/-! ### The derived codec -/

/-- The text of a script type on the wire. -/
def ScriptType.wireName : ScriptType → String
  | .p2wpkh => "p2wpkh"
  | .p2tr => "p2tr"
  | .p2shP2wpkh => "p2sh-p2wpkh"

/-- The script type with a text. -/
def ScriptType.ofWireName (s : String) : Option ScriptType :=
  if s = "p2wpkh" then some .p2wpkh
  else if s = "p2tr" then some .p2tr
  else if s = "p2sh-p2wpkh" then some .p2shP2wpkh
  else none

/-- A variant without fields is read from its name, or from an object that holds
nothing under it. -/
def ScriptType.ofValue : Value → Option ScriptType
  | .string s => ScriptType.ofWireName s
  | .object [(s, .null)] => ScriptType.ofWireName s
  | _ => none

/-- A byte is written as a number. -/
def byteToValue (b : UInt8) : Value := .number (String.ofList (Nat.toDigits 10 b.toNat))

/-- Read a `u8`. No number of a JSON text begins with the `+` that `parseUnsigned`
lets pass, and one with a fraction or an exponent is no `u8`. -/
def byteOfValue : Value → Option UInt8
  | .number text => (parseUnsigned 256 text.toList).map UInt8.ofNat
  | _ => none

/-- Read a `Vec<u8>`. -/
def bytesOfValue : Value → Option Bytes
  | .array items => items.mapM byteOfValue
  | _ => none

/-- Read a `Vec<Vec<u8>>`. -/
def witnessOfValue : Value → Option Witness
  | .array items => items.mapM bytesOfValue
  | _ => none

/-- Read an `Option`: `null` is nothing. -/
def optionOfValue {α : Type} (read : Value → Option α) : Value → Option (Option α)
  | .null => some none
  | v => (read v).map some

/-- `default_proof_version`. -/
def defaultProofVersion : UInt8 := 1

/-- The fields an object has shown so far. -/
structure ProofFields where
  version : Option UInt8 := none
  witnessStack : Option Witness := none
  psbtInputB64 : Option (Option String) := none
  scriptType : Option (Option ScriptType) := none

/-- One member of an object: a field that was shown before is an error, a name
that is no field's is passed over. -/
def ProofFields.visit (f : ProofFields) (member : String × Value) : Option ProofFields :=
  if member.1 = "version" then
    if f.version.isSome then none
    else (byteOfValue member.2).map fun x => { f with version := some x }
  else if member.1 = "witness_stack" then
    if f.witnessStack.isSome then none
    else (witnessOfValue member.2).map fun x => { f with witnessStack := some x }
  else if member.1 = "psbt_input_b64" then
    if f.psbtInputB64.isSome then none
    else (optionOfValue Value.asStr member.2).map fun x => { f with psbtInputB64 := some x }
  else if member.1 = "script_type" then
    if f.scriptType.isSome then none
    else (optionOfValue ScriptType.ofValue member.2).map fun x => { f with scriptType := some x }
  else some f

namespace OwnershipProof

/-- The proof of the fields shown: what is missing has its default. -/
def ofFields (f : ProofFields) : OwnershipProof where
  version := f.version.getD defaultProofVersion
  witnessStack := f.witnessStack.getD []
  psbtInputB64 := f.psbtInputB64.getD none
  scriptType := f.scriptType.getD none

/-- The derived reader. In an array the optional fields have no default, so that
one of fewer than four items is an error, as is one of more. -/
def ofValue : Value → Option OwnershipProof
  | .object members => (members.foldlM ProofFields.visit {}).map ofFields
  | .array [version, witnessStack, psbtInputB64, scriptType] => do
    let version ← byteOfValue version
    let witnessStack ← witnessOfValue witnessStack
    let psbtInputB64 ← optionOfValue Value.asStr psbtInputB64
    let scriptType ← optionOfValue ScriptType.ofValue scriptType
    return ⟨version, witnessStack, psbtInputB64, scriptType⟩
  | _ => none

/-- The derived writer: an optional field that holds nothing is left out. -/
def toValue (p : OwnershipProof) : Value :=
  .object ([("version", byteToValue p.version),
      ("witness_stack", .array (p.witnessStack.map fun item => .array (item.map byteToValue)))] ++
    (p.psbtInputB64.map fun s => ("psbt_input_b64", Value.string s)).toList ++
    (p.scriptType.map fun t => ("script_type", Value.string t.wireName)).toList)

/-- A proof the legacy shape has room for. -/
def IsLegacy (p : OwnershipProof) : Prop :=
  p.version = 1 ∧ p.psbtInputB64 = none ∧ p.scriptType = none

end OwnershipProof

/-- `serde_json`, as the text of a value and the value of a text. -/
structure JsonCodec where
  toText : Value → String
  fromText : String → Option Value

/-- An array of strings. -/
def stringArray (items : List String) : Value := .array (items.map Value.string)

/-- `hex::encode`. -/
def hexString (bs : Bytes) : String := String.ofList (hexEncode bs)

/-- Encode to the wire: the legacy array when the proof has nothing that is not in
it, else the object. -/
def OwnershipProof.toJsonHexStr (J : JsonCodec) (p : OwnershipProof) : String :=
  if p.version = 1 ∧ p.psbtInputB64.isNone ∧ p.scriptType.isNone then
    J.toText (stringArray (p.witnessStack.map hexString))
  else J.toText p.toValue

/-- **The codecs are correct**: a value that is written is read back, a list of
strings is read from the arrays of strings, a proof is read from the values the
derived reader takes, and hexadecimal is read in either case. -/
structure CorrectCodecs (E : Externals) (J : JsonCodec) : Prop where
  fromText_toText : ∀ v : Value, v.Plain → J.fromText (J.toText v) = some v
  jsonStringArray : ∀ s items,
    E.jsonStringArray s = some items ↔ J.fromText s = some (stringArray items)
  jsonOwnershipProof : ∀ s v, J.fromText s = some v →
    (E.jsonOwnershipProof s).toOption =
      (OwnershipProof.ofValue v).map fun p =>
        (p.version, p.witnessStack, p.psbtInputB64, p.scriptType)
  hexDecode : ∀ s bs, E.hexDecode s = .ok bs ↔ TextCodec.hexDecode s.toList = some bs

/-- A text in the legacy shape. -/
def LegacyShape (J : JsonCodec) (s : String) : Prop :=
  ∃ items, J.fromText s = some (stringArray items)

/-! ### What the derived writer writes -/

theorem ScriptType.ofWireName_wireName (t : ScriptType) :
    ScriptType.ofWireName t.wireName = some t := by
  cases t <;> decide

theorem byteOfValue_byteToValue (b : UInt8) : byteOfValue (byteToValue b) = some b := by
  rw [byteToValue, byteOfValue, String.toList_ofList, parseUnsigned_toDigits b.toNat_lt,
    Option.map_some, UInt8.ofNat_toNat]

theorem bytesOfValue_map (bs : Bytes) :
    bytesOfValue (.array (bs.map byteToValue)) = some bs := by
  rw [bytesOfValue, mapM_eq_some, List.map_map]
  exact List.map_congr_left fun b _ => byteOfValue_byteToValue b

theorem witnessOfValue_map (w : Witness) :
    witnessOfValue (.array (w.map fun item => .array (item.map byteToValue))) = some w := by
  rw [witnessOfValue, mapM_eq_some, List.map_map]
  exact List.map_congr_left fun item _ => bytesOfValue_map item

namespace OwnershipProof

/-- **What the derived writer writes is read by the derived reader**, whichever of
the optional fields are left out. -/
theorem ofValue_toValue (p : OwnershipProof) : ofValue p.toValue = some p := by
  obtain ⟨version, witnessStack, psbtInputB64, scriptType⟩ := p
  have hversion : ({} : ProofFields).visit ("version", byteToValue version) =
      some { version := some version } := by
    simp [ProofFields.visit, byteOfValue_byteToValue]
  have hwitness : ProofFields.visit { version := some version }
      ("witness_stack", .array (witnessStack.map fun item => .array (item.map byteToValue))) =
      some { version := some version, witnessStack := some witnessStack } := by
    simp [ProofFields.visit, witnessOfValue_map]
  have hpsbt : ∀ s : String, ProofFields.visit
      { version := some version, witnessStack := some witnessStack }
      ("psbt_input_b64", .string s) =
      some { version := some version, witnessStack := some witnessStack,
             psbtInputB64 := some (some s) } := by
    intro s
    simp [ProofFields.visit, optionOfValue, Value.asStr]
  have htype : ∀ (q : Option (Option String)) (t : ScriptType), ProofFields.visit
      { version := some version, witnessStack := some witnessStack, psbtInputB64 := q }
      ("script_type", .string t.wireName) =
      some { version := some version, witnessStack := some witnessStack, psbtInputB64 := q,
             scriptType := some (some t) } := by
    intro q t
    simp [ProofFields.visit, optionOfValue, ScriptType.ofValue, ScriptType.ofWireName_wireName]
  rw [toValue, ofValue, List.append_assoc, List.cons_append, List.singleton_append,
    List.foldlM_cons, hversion, Option.bind_eq_bind, Option.bind_some, List.foldlM_cons, hwitness,
    Option.bind_eq_bind, Option.bind_some]
  cases psbtInputB64 with
  | none => cases scriptType with
    | none => rfl
    | some t =>
      rw [Option.map_none, Option.toList_none, List.nil_append, Option.map_some, Option.toList_some,
        List.foldlM_cons, htype none t]
      rfl
  | some s =>
    rw [Option.map_some, Option.toList_some, List.singleton_append, List.foldlM_cons, hpsbt s,
      Option.bind_eq_bind, Option.bind_some]
    cases scriptType with
    | none => rfl
    | some t =>
      rw [Option.map_some, Option.toList_some, List.foldlM_cons, htype (some (some s)) t]
      rfl

theorem plain_toValue (p : OwnershipProof) : p.toValue.Plain := by
  have hbytes : ∀ item : Bytes, (Value.array (item.map byteToValue)).Plain := by
    intro item
    refine .array fun v hv => ?_
    obtain ⟨b, -, rfl⟩ := List.mem_map.mp hv
    exact .number b.toNat
  refine .object fun member hmember => ?_
  simp only [List.mem_append, List.mem_cons, List.not_mem_nil, or_false, Option.mem_toList,
    Option.map_eq_some_iff] at hmember
  rcases hmember with (((rfl | rfl) | ⟨s, -, rfl⟩) | ⟨t, -, rfl⟩)
  · exact .number p.version.toNat
  · refine .array fun v hv => ?_
    obtain ⟨item, -, rfl⟩ := List.mem_map.mp hv
    exact hbytes item
  · exact .string s
  · exact .string t.wireName

end OwnershipProof

theorem plain_stringArray (items : List String) : (stringArray items).Plain := by
  refine .array fun v hv => ?_
  obtain ⟨s, -, rfl⟩ := List.mem_map.mp hv
  exact .string s

/-! ### The two shapes -/

theorem OwnershipProof.toJsonHexStr_of_isLegacy {J : JsonCodec} {p : OwnershipProof}
    (h : p.IsLegacy) :
    p.toJsonHexStr J = J.toText (stringArray (p.witnessStack.map hexString)) := by
  obtain ⟨hversion, hpsbt, htype⟩ := h
  exact if_pos ⟨hversion, by rw [hpsbt, Option.isNone_none], by rw [htype, Option.isNone_none]⟩

theorem OwnershipProof.toJsonHexStr_of_not_isLegacy {J : JsonCodec} {p : OwnershipProof}
    (h : ¬p.IsLegacy) : p.toJsonHexStr J = J.toText p.toValue := by
  refine if_neg ?_
  rintro ⟨hversion, hpsbt, htype⟩
  exact h ⟨hversion, Option.isNone_iff_eq_none.mp hpsbt, Option.isNone_iff_eq_none.mp htype⟩

section Wire

variable {E : Externals} {J : JsonCodec} (hE : CorrectCodecs E J)

include hE

/-- The shape that is written, by the proof it is written for. -/
theorem legacyShape_iff (p : OwnershipProof) :
    LegacyShape J (p.toJsonHexStr J) ↔ p.IsLegacy := by
  constructor
  · intro h
    by_contra hlegacy
    rw [OwnershipProof.toJsonHexStr_of_not_isLegacy hlegacy] at h
    obtain ⟨items, hitems⟩ := h
    -- an object is not an array
    rw [hE.fromText_toText _ p.plain_toValue] at hitems
    exact Value.noConfusion (Option.some.inj hitems)
  · intro hlegacy
    rw [OwnershipProof.toJsonHexStr_of_isLegacy hlegacy]
    exact ⟨_, hE.fromText_toText _ (plain_stringArray _)⟩

theorem decode_strings {s : String} {items : List String} {witnessStack : Witness}
    (hs : J.fromText s = some (stringArray items))
    (hitems : items.mapM E.hexDecode = .ok witnessStack) :
    OwnershipProof.fromJsonHexStr E s = .ok ⟨1, witnessStack, none, none⟩ := by
  rw [OwnershipProof.fromJsonHexStr, (hE.jsonStringArray s items).mpr hs]
  simp only [hitems]

/-- An array of strings is decoded as the legacy shape or not at all. -/
theorem isLegacy_of_decode {s : String} {p : OwnershipProof}
    (h : OwnershipProof.fromJsonHexStr E s = .ok p) (hs : LegacyShape J s) : p.IsLegacy := by
  obtain ⟨items, hitems⟩ := hs
  rw [OwnershipProof.fromJsonHexStr, (hE.jsonStringArray s items).mpr hitems] at h
  cases hstack : items.mapM E.hexDecode with
  | error e => simp [hstack] at h
  | ok witnessStack =>
    simp only [hstack] at h
    obtain rfl := Except.ok.inj h
    exact ⟨rfl, rfl, rfl⟩

theorem mapM_hexDecode_hexString (w : Witness) :
    (w.map hexString).mapM E.hexDecode = .ok w := by
  rw [mapM_eq_ok, List.map_map]
  refine List.map_congr_left fun item _ => ?_
  rw [Function.comp_apply, hE.hexDecode, hexString, String.toList_ofList, hexDecode_hexEncode]

theorem decode_encode (p : OwnershipProof) :
    OwnershipProof.fromJsonHexStr E (p.toJsonHexStr J) = .ok p := by
  by_cases hlegacy : p.IsLegacy
  · rw [OwnershipProof.toJsonHexStr_of_isLegacy hlegacy]
    obtain ⟨version, witnessStack, psbtInputB64, scriptType⟩ := p
    obtain ⟨rfl, rfl, rfl⟩ := hlegacy
    exact decode_strings hE (hE.fromText_toText _ (plain_stringArray _))
      (mapM_hexDecode_hexString hE witnessStack)
  · have hshape := mt (legacyShape_iff hE p).mp hlegacy
    have htext := OwnershipProof.toJsonHexStr_of_not_isLegacy (J := J) hlegacy
    -- the first attempt fails
    have hstrings : E.jsonStringArray (p.toJsonHexStr J) = none := by
      rw [Option.eq_none_iff_forall_ne_some]
      intro items hitems
      exact hshape ⟨items, (hE.jsonStringArray _ _).mp hitems⟩
    have hread := hE.jsonOwnershipProof _ _ (hE.fromText_toText _ p.plain_toValue)
    rw [p.ofValue_toValue, Option.map_some, ← htext] at hread
    rw [OwnershipProof.fromJsonHexStr, hstrings]
    cases hproof : E.jsonOwnershipProof (p.toJsonHexStr J) with
    | error e => simp [hproof, Except.toOption] at hread
    | ok fields =>
      rw [hproof] at hread
      obtain rfl := Option.some.inj hread
      rfl

end Wire

/-! ### Codecs that are correct -/

/-- The codec that knows the compact form only. -/
def compactJson : JsonCodec := ⟨Value.print, Value.parse⟩

/-- The strings of an array of strings. -/
def stringsOfValue : Value → Option (List String)
  | .array items => items.mapM Value.asStr
  | _ => none

/-- Third-party functions whose readers are those of the compact form. -/
def Externals.withCompactJson (E : Externals) : Externals :=
  { E with
    hexDecode := fun s => match TextCodec.hexDecode s.toList with
      | some bs => .ok bs
      | none => .error "Invalid character"
    jsonStringArray := fun s => (Value.parse s).bind stringsOfValue
    jsonOwnershipProof := fun s => match (Value.parse s).bind OwnershipProof.ofValue with
      | some p => .ok (p.version, p.witnessStack, p.psbtInputB64, p.scriptType)
      | none => .error "expected value" }

theorem asStr_eq_some {v : Value} {s : String} (h : v.asStr = some s) : v = .string s := by
  cases v with
  | string t => exact congrArg Value.string (Option.some.inj h)
  | _ => simp [Value.asStr] at h

theorem eq_map_string_of_mapM {vs : List Value} {items : List String}
    (h : vs.mapM Value.asStr = some items) : vs = items.map Value.string := by
  rw [mapM_eq_some] at h
  induction vs generalizing items with
  | nil => rw [List.map_eq_nil_iff.mp h.symm, List.map_nil]
  | cons v vs ih =>
    cases items with
    | nil => exact absurd h (by simp)
    | cons s items =>
      obtain ⟨hs, hitems⟩ := List.cons.inj h
      rw [asStr_eq_some hs, ih hitems, List.map_cons]

theorem stringsOfValue_eq_some {v : Value} {items : List String} :
    stringsOfValue v = some items ↔ v = stringArray items := by
  constructor
  · intro h
    cases v with
    | array vs =>
      rw [stringsOfValue] at h
      rw [stringArray, eq_map_string_of_mapM h]
    | _ => simp [stringsOfValue] at h
  · rintro rfl
    rw [stringArray, stringsOfValue, mapM_eq_some, List.map_map]
    rfl

theorem correctCodecs_withCompactJson (E : Externals) :
    CorrectCodecs E.withCompactJson compactJson where
  fromText_toText := fun v hv => Value.parse_print hv
  jsonStringArray := by
    intro s items
    rw [Externals.withCompactJson, compactJson, Option.bind_eq_some_iff]
    simp only [stringsOfValue_eq_some, exists_eq_right]
  jsonOwnershipProof := by
    intro s v hv
    have hparse : Value.parse s = some v := hv
    simp only [Externals.withCompactJson, hparse, Option.bind_some]
    cases OwnershipProof.ofValue v <;> rfl
  hexDecode := by
    intro s bs
    simp only [Externals.withCompactJson]
    cases TextCodec.hexDecode s.toList <;> simp

/-! ### The round trip -/

/-- **The codec of ownership proofs over both wire shapes.** Every proof is read
back from its text, and so is every proof that was read from any text; an array
of hexadecimal strings is read as a proof of version 1 with these bytes in order
and nothing else; the legacy shape is written exactly for the proofs it has room
for, and whatever is read from it is such a proof. -/
theorem proof_wire_roundTrip {E : Externals} {J : JsonCodec} (hE : CorrectCodecs E J) :
    (∀ p : OwnershipProof, OwnershipProof.fromJsonHexStr E (p.toJsonHexStr J) = .ok p) ∧
    (∀ s p, OwnershipProof.fromJsonHexStr E s = .ok p →
      OwnershipProof.fromJsonHexStr E (p.toJsonHexStr J) = .ok p) ∧
    (∀ s items witnessStack, J.fromText s = some (stringArray items) →
      items.Forall₂ (fun item bs => hexDecode item.toList = some bs) witnessStack →
      OwnershipProof.fromJsonHexStr E s = .ok ⟨1, witnessStack, none, none⟩) ∧
    (∀ p : OwnershipProof, LegacyShape J (p.toJsonHexStr J) ↔
      p.version = 1 ∧ p.psbtInputB64 = none ∧ p.scriptType = none) ∧
    ∀ s p, OwnershipProof.fromJsonHexStr E s = .ok p → LegacyShape J s →
      p.version = 1 ∧ p.psbtInputB64 = none ∧ p.scriptType = none := by
  refine ⟨decode_encode hE, fun s p _ => decode_encode hE p, ?_, legacyShape_iff hE, ?_⟩
  · intro s items witnessStack hs hitems
    refine decode_strings hE hs (mapM_eq_ok_iff_forall₂.mpr ?_)
    exact hitems.imp fun item bs h => (hE.hexDecode item bs).mpr h
  · intro s p h hs
    exact isLegacy_of_decode hE h hs

deriving instance Inhabited for Externals

/-- A proof of version 2, with a script type and PSBT data. -/
def wireProof : OwnershipProof := ⟨2, [], some "cHNidP8BAAA=", some .p2wpkh⟩

theorem proof_wire_roundTrip_wireProof :
    wireProof.toJsonHexStr compactJson =
      "\x7b\"version\":2,\"witness_stack\":[],\"psbt_input_b64\":\"cHNidP8BAAA=\"," ++
        "\"script_type\":\"p2wpkh\"\x7d" ∧
    OwnershipProof.fromJsonHexStr (default : Externals).withCompactJson
      (wireProof.toJsonHexStr compactJson) = .ok wireProof ∧
    OwnershipProof.fromJsonHexStr (default : Externals).withCompactJson "[\"30\",\"0aFF\"]" =
      .ok ⟨1, [[0x30], [0x0a, 0xff]], none, none⟩ := by
  obtain ⟨hback, -, hstrings, -⟩ :=
    proof_wire_roundTrip (correctCodecs_withCompactJson (default : Externals))
  have hparse : compactJson.fromText "[\"30\",\"0aFF\"]" = some (stringArray ["30", "0aFF"]) :=
    rfl
  refine ⟨by decide, hback wireProof, hstrings _ ["30", "0aFF"] _ hparse ?_⟩
  exact .cons (by decide) (.cons (by decide) .nil)

end Blindjoin
