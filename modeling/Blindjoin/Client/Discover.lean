import Blindjoin.Lib.Members
import Blindjoin.Shared.Errors
import Blindjoin.Shared.ProofCodec

/-!
# Finding a coordinator

The client is given the public key of a coordinator and looks up the text records that
were published under it (`Blindjoin.discoverCoordinator`). From the first record it can
read it learns the address of the coordinator and which script types the coordinator
deals in (`Blindjoin.capabilitiesFromRecordV`). A record of another version than the
current one, or one without a list of types, is taken for one of an old coordinator, which
knows P2WPKH only. Before anything is sent, the client compares the types with the one of
its wallet.
-/

namespace Blindjoin

/-- What a coordinator offers. -/
structure CoordinatorCapabilities where
  recordVersion : String
  isLegacy : Bool
  supportedScriptTypes : List ScriptType
  outputScriptType : ScriptType
deriving DecidableEq

/-- A coordinator that was found. -/
structure CoordinatorInfo where
  coordinatorUrl : String
  capabilities : CoordinatorCapabilities
deriving DecidableEq

/-- Why no coordinator was found. -/
inductive DiscoveryError
  | invalidPubkey (reason : String)
  | notFound (pubkey : String)
  | missingOnion (pubkey : String)
  | malformedRecord (reason : String)
  | unsupportedScriptType (pubkey : String) (required : ScriptType) (supported : List ScriptType)
  | unsupportedOutputScriptType (pubkey : String) (advertised wanted : ScriptType)
deriving DecidableEq

/-- The `Display` text of an error. -/
def DiscoveryError.toText : DiscoveryError → String
  | .invalidPubkey reason => s!"Invalid PKARR public key: {reason}"
  | .notFound pubkey => s!"Coordinator not found in DHT for key '{pubkey}'"
  | .missingOnion pubkey => s!"No 'onion' field found in PKARR record for key '{pubkey}'"
  | .malformedRecord reason => s!"Malformed PKARR record: {reason}"
  | .unsupportedScriptType pubkey required supported =>
    let names := ", ".intercalate (supported.map ScriptType.debug)
    s!"coordinator {pubkey} does not support {required.debug} ownership proofs " ++
      s!"(supports: [{names}])"
  | .unsupportedOutputScriptType pubkey advertised wanted =>
    s!"coordinator {pubkey} CoinJoin output is {advertised.debug} but wallet requires " ++
      s!"{wanted.debug}"

/-! ### The record -/

/-- The fields of a record the client reads. -/
structure BlindjoinRecord where
  version : String
  onion : String
  sst : Option String
  ost : Option String
deriving DecidableEq

/-- `default_legacy_version`. -/
def defaultLegacyVersion : String := "0.1.0"

/-- The derived reader of a record. An array holds the fields in their order, and what
has a default may be missing at its end. -/
def BlindjoinRecord.ofValue : Value → Option BlindjoinRecord
  | .object members => do
    let version ← Members.field Value.asStr members "v"
    let onion ← Members.field Value.asStr members "onion"
    let sst ← Members.field (optionOfValue Value.asStr) members "sst"
    let ost ← Members.field (optionOfValue Value.asStr) members "ost"
    return ⟨version.getD defaultLegacyVersion, ← onion, sst.getD none, ost.getD none⟩
  | .array (version :: onion :: rest) => do
    let version ← version.asStr
    let onion ← onion.asStr
    match rest with
    | [] => return ⟨version, onion, none, none⟩
    | [sst] => return ⟨version, onion, ← optionOfValue Value.asStr sst, none⟩
    | [sst, ost] =>
      return ⟨version, onion, ← optionOfValue Value.asStr sst, ← optionOfValue Value.asStr ost⟩
    | _ => none
  | _ => none

section Discover

variable (J : JsonCodec)

/-- The record in a resource record: nothing in what is no text. -/
def parseBlindjoinRecord (rr : Option String) : Option BlindjoinRecord :=
  rr.bind fun s => (J.fromText s).bind BlindjoinRecord.ofValue

/-- Read the name of a script type, as the JSON string it would be. -/
def parseScriptTypeToken (s : String) : Except DiscoveryError ScriptType :=
  okOr (.malformedRecord s!"invalid sst/ost token '{s}'")
    ((J.fromText ("\"" ++ s ++ "\"")).bind ScriptType.ofValue)

/-- `str::split` at commas. -/
def splitComma (s : String) : List String := (s.toList.splitOn ',').map String.ofList

/-- The capabilities a record stands for. -/
def capabilitiesFromRecordV (recordVersion : String) (sst ost : Option String) :
    Except DiscoveryError CoordinatorCapabilities :=
  match sst with
  | none => .ok ⟨recordVersion, true, [.p2wpkh], .p2wpkh⟩
  | some sstStr =>
    if recordVersion ≠ "0.2.0" then .ok ⟨recordVersion, true, [.p2wpkh], .p2wpkh⟩
    else do
      let supportedScriptTypes ← (splitComma sstStr).mapM (parseScriptTypeToken J)
      require (supportedScriptTypes ≠ [])
        (.malformedRecord "v=0.2.0 record has empty sst CSV")
      let ostStr ← okOr (.malformedRecord "v=0.2.0 record missing ost field") ost
      let outputScriptType ← parseScriptTypeToken J ostStr
      pure ⟨recordVersion, false, supportedScriptTypes, outputScriptType⟩

/-- The third-party functions discovery calls. -/
structure PkarrExternals where
  /-- `PublicKey::try_from`. -/
  publicKey : String → Except String Bytes
  /-- `Client::builder().build()`. -/
  build : Except String Unit
  /-- `resolve_most_recent`, then the records under the label `_blindjoin`: the text of
  each that is one. -/
  resolve : Bytes → Option (List (Option String))

/-- Find the coordinator with a public key, for a wallet of a script type. -/
def discoverCoordinator (P : PkarrExternals) (pkarrPubkey : String)
    (requiredScriptType : ScriptType) : Except DiscoveryError CoordinatorInfo := do
  let publicKey ← (P.publicKey pkarrPubkey).mapError fun e =>
    .invalidPubkey s!"'{pkarrPubkey}': {e}"
  P.build.mapError fun e => .malformedRecord s!"Failed to build PKARR client: {e}"
  let packet ← okOr (.notFound pkarrPubkey) (P.resolve publicKey)
  let record ← okOr (.missingOnion pkarrPubkey) (packet.findSome? (parseBlindjoinRecord J))
  let capabilities ← capabilitiesFromRecordV J record.version record.sst record.ost
  require (requiredScriptType ∈ capabilities.supportedScriptTypes)
    (.unsupportedScriptType pkarrPubkey requiredScriptType capabilities.supportedScriptTypes)
  require (capabilities.outputScriptType = requiredScriptType)
    (.unsupportedOutputScriptType pkarrPubkey capabilities.outputScriptType requiredScriptType)
  let coordinatorUrl :=
    if "http".toList.isPrefixOf record.onion.toList then record.onion
    else s!"http://{record.onion}"
  pure ⟨coordinatorUrl, capabilities⟩

end Discover

end Blindjoin
