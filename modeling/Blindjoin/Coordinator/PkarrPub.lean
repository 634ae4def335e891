import Blindjoin.Coordinator.Config
import Blindjoin.Shared.ProofCodec

/-!
# The record the coordinator publishes

The coordinator publishes a text record under its public key: where it is reached, the
terms of its rounds, and the script types it accepts as inputs and pays as outputs
(`Blindjoin.coordinatorRecord`). The names of most fields are short, because a text record
holds few bytes.

The record is an object, and in which order its members are written depends on how the
JSON library was built. A text is one of a record when its members are those of the record
in some order (`Blindjoin.Publishes`).
-/

namespace Blindjoin

/-- The allowed script types, in the order of their names. -/
def BipConfig.supported (bip : BipConfig) : List ScriptType :=
  (if bip.allowP2shP2wpkh then [.p2shP2wpkh] else []) ++
    (if bip.allowP2tr then [.p2tr] else []) ++ (if bip.allowP2wpkh then [.p2wpkh] else [])

end Blindjoin
