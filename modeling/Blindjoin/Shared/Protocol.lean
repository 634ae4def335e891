import Blindjoin.Shared.Bip322

/-!
# Requests and responses

What the three registration requests carry and what the coordinator answers,
and the wire form of an ownership proof: either the legacy array of hexadecimal
strings or the versioned envelope.
-/

namespace Blindjoin

/-- Register a coin for the round. -/
structure InputRegRequest where
  utxoOutpoint : String
  ownershipProof : String
  blindedToken : String
  changeAddress : String
deriving DecidableEq

/-- The blind signature and session token of a registration. -/
structure InputRegResponse where
  blindSignature : String
  roundId : Uuid
  sessionToken : String
deriving DecidableEq

/-- Register an output with an unblinded token. -/
structure OutputRegRequest where
  unblindedToken : String
  signature : String
  outputAddress : String
  amountSats : ℕ
  msgRandomizer : Option String
deriving DecidableEq

/-- The answer to an accepted output. -/
structure OutputRegResponse where
  accepted : Bool
  roundId : Uuid
deriving DecidableEq

/-- Submit the signature of one input. No handler reads `roundId`. -/
structure SignRequest where
  roundId : Uuid
  utxoOutpoint : String
  partialSignature : String
  sessionToken : String
deriving DecidableEq

/-- The transaction to sign. -/
structure RoundTxResponse where
  roundId : Uuid
  psbt : String
  feeTotalSats : ℕ
  feePerParticipantSats : ℕ
deriving DecidableEq

/-- Wire representation of an ownership proof. -/
structure OwnershipProof where
  version : UInt8
  witnessStack : Witness
  psbtInputB64 : Option String
  scriptType : Option ScriptType
deriving DecidableEq

/-- Decode the wire form: first as an array of hexadecimal strings, then as the
flat envelope. -/
def OwnershipProof.fromJsonHexStr (E : Externals) (s : String) : Except String OwnershipProof :=
  match E.jsonStringArray s with
  | some items =>
    match items.mapM E.hexDecode with
    | .error e => .error s!"OwnershipProof: hex decode error: {e}"
    | .ok witnessStack => .ok ⟨1, witnessStack, none, none⟩
  | none =>
    match E.jsonOwnershipProof s with
    | .error e => .error s!"OwnershipProof: JSON parse error: {e}"
    | .ok (version, witnessStack, psbtInputB64, scriptType) =>
      .ok ⟨version, witnessStack, psbtInputB64, scriptType⟩

end Blindjoin
