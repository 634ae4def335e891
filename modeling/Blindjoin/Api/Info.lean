import Blindjoin.Coordinator.PkarrPub
import Blindjoin.Round.State
import Blindjoin.Shared.Info

/-!
# The status of the round

`GET /info` reads the round under the read lock and answers with the configured terms, the
phase, the number of participants, and the public key of the round with its hash
(`Blindjoin.getInfo`).
-/

namespace Blindjoin

/-- The handler of `GET /info`. -/
def getInfo (E : Externals) (config : CoordinatorConfig) (s : RoundState) : InfoResponse where
  version := "0.1.0"
  network := config.network.bitcoinNetwork
  denominationSats := config.coordinator.denominationSats
  minParticipants := config.coordinator.minParticipants
  maxParticipants := config.coordinator.maxParticipants
  roundState := s.phase.asStr
  participantsRegistered := s.participantCount
  rsaPubkeyHash := s.rsaPubkeyHash.map fun hash => hexString hash.toList
  rsaPubkeyDerB64 := s.rsaPubkeyDer.map E.base64Encode
  roundId := some s.roundId
  supportedScriptTypes := config.bip.supported
  outputScriptType := config.bip.outputScriptType

end Blindjoin
