import Blindjoin.Shared.Protocol

/-!
# What a coordinator says of its round

The answer to `GET /info`: the terms of the rounds of a coordinator, and the state and the
keys of the current one.
-/

namespace Blindjoin

/-- The status of a coordinator and the parameters of its round. -/
structure InfoResponse where
  version : String
  network : String
  denominationSats : ℕ
  minParticipants : ℕ
  maxParticipants : ℕ
  roundState : String
  participantsRegistered : ℕ
  rsaPubkeyHash : Option String
  rsaPubkeyDerB64 : Option String
  roundId : Option Uuid
  supportedScriptTypes : List ScriptType
  outputScriptType : ScriptType
deriving DecidableEq

end Blindjoin
