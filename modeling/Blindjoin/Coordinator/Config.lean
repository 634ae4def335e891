import Blindjoin.Bitcoin.Transaction
import Blindjoin.Shared.Errors

/-!
# Configuration

The settings of a coordinator and the check it runs on them before it starts.
The check is where the numeric facts of the development come from:
`Blindjoin.CoordinatorConfig.Valid` collects what an accepted configuration is
known to satisfy (`Blindjoin.CoordinatorConfig.valid_of_validate`).
-/

namespace Blindjoin

/-- Parse a configured network name. -/
def parseBitcoinNetwork : String → Except String Network
  | "mainnet" => .ok .bitcoin
  | "bitcoin" => .ok .bitcoin
  | "testnet" => .ok .testnet
  | "testnet4" => .ok .testnet
  | "signet" => .ok .signet
  | "regtest" => .ok .regtest
  | other => .error (s!"unknown network.bitcoin_network {other.quote}; expected one of: " ++
      "mainnet|bitcoin, testnet|testnet4, signet, regtest")

/-- The `[network]` section, reduced to the network name. -/
structure NetworkConfig where
  bitcoinNetwork : String
deriving DecidableEq

/-- The `[coordinator]` section, without what only the transport reads. -/
structure CoordinatorSection where
  denominationSats : ℕ
  minParticipants : ℕ
  maxParticipants : ℕ
  roundTimeoutInputRegSecs : ℕ
  roundTimeoutOutputRegSecs : ℕ
  roundTimeoutSigningSecs : ℕ
  blameBanDurationSecs : ℕ
  feeRateSatPerVbyte : ℕ
  rateLimitInfoPerMin : ℕ
  rateLimitWritesPerMin : ℕ
  requestTimeoutSecs : ℕ
  maxConcurrentConnections : ℕ
  blameFullAbortBackoffSecs : ℕ
deriving DecidableEq

/-! ### Script types -/

/-- The `[bip]` section: the script types inputs may have, and the one outputs
are advertised with. -/
structure BipConfig where
  allowP2wpkh : Bool := true
  allowP2tr : Bool := true
  allowP2shP2wpkh : Bool := true
  outputScriptType : ScriptType := .p2wpkh
deriving DecidableEq

namespace BipConfig

/-- Whether a script type is an allowed input script type. -/
def allows (bip : BipConfig) : ScriptType → Bool
  | .p2wpkh => bip.allowP2wpkh
  | .p2tr => bip.allowP2tr
  | .p2shP2wpkh => bip.allowP2shP2wpkh

/-- The allowed input script types. -/
def allowedSet (bip : BipConfig) : List ScriptType :=
  [(bip.allowP2wpkh, ScriptType.p2wpkh), (bip.allowP2tr, .p2tr),
    (bip.allowP2shP2wpkh, .p2shP2wpkh)].filterMap fun (allowed, st) =>
      if allowed then some st else none

theorem mem_allowedSet {bip : BipConfig} {st : ScriptType} :
    st ∈ bip.allowedSet ↔ bip.allows st = true := by
  cases st <;> simp [allowedSet, allows]

/-- Fail-fast startup validation of the section. -/
def validate (bip : BipConfig) : Except String Unit := do
  require (bip.allowP2wpkh ∨ bip.allowP2tr ∨ bip.allowP2shP2wpkh)
    ("bip section requires at least one allow_* flag = true; got all false. " ++
     "Set BLINDJOIN__COORDINATOR__BIP__ALLOW_P2WPKH=true (or another " ++
     "BLINDJOIN__COORDINATOR__BIP__ALLOW_* flag) to enable input acceptance " ++
     "for that script type. " ++
     "(Note: the FUNCTIONAL env-var path with the top-level [bip] section " ++
     "shape is BLINDJOIN__BIP__ALLOW_P2WPKH=true — the path above mirrors " ++
     "CONTEXT D-35 documentation.)")
  require (bip.allows bip.outputScriptType)
    (s!"bip.output_script_type = {bip.outputScriptType.debug} but the matching allow_* flag is " ++
     "false. The coordinator cannot advertise an output_script_type it cannot " ++
     "accept on its own round outputs. Set the matching " ++
     "BLINDJOIN__COORDINATOR__BIP__ALLOW_* flag = true or change " ++
     "BLINDJOIN__COORDINATOR__BIP__OUTPUT_SCRIPT_TYPE. " ++
     "(Note: functional env-var paths are BLINDJOIN__BIP__ALLOW_* and " ++
     "BLINDJOIN__BIP__OUTPUT_SCRIPT_TYPE — see field docs.)")

end BipConfig

/-! ### The whole configuration -/

/-- The configuration of a coordinator. -/
structure CoordinatorConfig where
  network : NetworkConfig
  coordinator : CoordinatorSection
  bip : BipConfig
deriving DecidableEq

namespace CoordinatorConfig

/-- Validate the configuration before any subsystem reads it. -/
def validate (cfg : CoordinatorConfig) : Except String Unit := do
  let c := cfg.coordinator
  let _ ← parseBitcoinNetwork cfg.network.bitcoinNetwork
  require (2 ≤ c.minParticipants)
    (s!"coordinator.min_participants must be >= 2; got {c.minParticipants} (a 1-participant " ++
     "round is not a CoinJoin and leaks the input↔output mapping trivially).")
  require (c.minParticipants ≤ c.maxParticipants)
    (s!"coordinator.min_participants ({c.minParticipants}) must be <= max_participants " ++
     s!"({c.maxParticipants}); otherwise rounds can proceed below the advertised minimum.")
  require (c.maxParticipants ≤ 100)
    (s!"coordinator.max_participants ({c.maxParticipants}) must be <= 100. Beyond this a " ++
     "CoinJoin is impractically large, and — more importantly — it keeps the derived " ++
     "Broadcast watchdog structurally ahead of the worst-case finalize " ++
     "(whose failure path re-validates up to max_participants inputs serially): " ++
     "the watchdog's 3600s cap only exceeds `10 + max_participants·10`s while " ++
     "max_participants stays well bounded.")
  require (546 ≤ c.denominationSats)
    ("coordinator.denomination_sats must be >= 546 (dust threshold); got " ++
     s!"{c.denominationSats} — a 0/dust denomination guarantees perpetual round failure.")
  require (1 ≤ c.feeRateSatPerVbyte)
    ("coordinator.fee_rate_sat_per_vbyte must be >= 1; got 0 (a 0 fee-rate " ++
     "CoinJoin cannot relay).")
  require (1 ≤ c.roundTimeoutInputRegSecs ∧ 1 ≤ c.roundTimeoutOutputRegSecs ∧
      1 ≤ c.roundTimeoutSigningSecs)
    ("coordinator.round_timeout_*_secs must all be >= 1; a 0 timeout fires " ++
     "before any participant can act.")
  require (1 ≤ c.rateLimitInfoPerMin ∧ c.rateLimitInfoPerMin ≤ 60000)
    (s!"coordinator.rate_limit_info_per_min must be in 1..=60_000; got {c.rateLimitInfoPerMin}. " ++
     "Set BLINDJOIN__COORDINATOR__RATE_LIMIT_INFO_PER_MIN to a value in that range.")
  require (1 ≤ c.rateLimitWritesPerMin ∧ c.rateLimitWritesPerMin ≤ 60000)
    ("coordinator.rate_limit_writes_per_min must be in 1..=60_000; got " ++
     s!"{c.rateLimitWritesPerMin}. " ++
     "Set BLINDJOIN__COORDINATOR__RATE_LIMIT_WRITES_PER_MIN to a value in that range.")
  require (1 ≤ c.maxConcurrentConnections)
    ("coordinator.max_concurrent_connections must be >= 1; got 0. " ++
     "Set BLINDJOIN__COORDINATOR__MAX_CONCURRENT_CONNECTIONS to a positive value " ++
     "(recommended minimum 8).")
  require (1 ≤ c.requestTimeoutSecs)
    ("coordinator.request_timeout_secs must be >= 1; got 0. " ++
     "Set BLINDJOIN__COORDINATOR__REQUEST_TIMEOUT_SECS to a positive value.")
  cfg.bip.validate

/-- The configuration of the tests. -/
def withDefaults : CoordinatorConfig where
  network := { bitcoinNetwork := "signet" }
  coordinator := {
    denominationSats := 1000000
    minParticipants := 3
    maxParticipants := 20
    roundTimeoutInputRegSecs := 60
    roundTimeoutOutputRegSecs := 60
    roundTimeoutSigningSecs := 30
    blameBanDurationSecs := 3600
    feeRateSatPerVbyte := 2
    rateLimitInfoPerMin := 600
    rateLimitWritesPerMin := 120
    requestTimeoutSecs := 30
    maxConcurrentConnections := 256
    blameFullAbortBackoffSecs := 300 }
  bip := {}

/-- What the rest of the development uses of an accepted configuration. -/
structure Valid (cfg : CoordinatorConfig) : Prop where
  network : ∃ net, parseBitcoinNetwork cfg.network.bitcoinNetwork = .ok net
  two_le_min : 2 ≤ cfg.coordinator.minParticipants
  min_le_max : cfg.coordinator.minParticipants ≤ cfg.coordinator.maxParticipants
  allowed : ∃ st, cfg.bip.allows st = true

/-- **An accepted configuration is valid.** -/
theorem valid_of_validate {cfg : CoordinatorConfig} (h : cfg.validate = .ok ()) : cfg.Valid := by
  simp only [validate, BipConfig.validate, bind_eq_ok, require_eq_ok] at h
  obtain ⟨net, hnet, _, hmin, _, hmax, _, _, _, _, _, _, _, _, _, _, _, _, _, _, _, _, _, _,
    hout⟩ := h
  exact ⟨⟨net, hnet⟩, hmin, hmax, ⟨_, hout⟩⟩

/-- A round is small: the number of its participants takes a byte. -/
theorem maxParticipants_le_of_validate {cfg : CoordinatorConfig} (h : cfg.validate = .ok ()) :
    cfg.coordinator.maxParticipants ≤ 100 := by
  simp only [validate, bind_eq_ok, require_eq_ok] at h
  obtain ⟨_, _, _, _, _, _, _, hle, _⟩ := h
  exact hle

/-- The denomination is no dust, whatever address it is paid to. -/
theorem dust_le_denomination_of_validate {cfg : CoordinatorConfig} (h : cfg.validate = .ok ()) :
    546 ≤ cfg.coordinator.denominationSats := by
  simp only [validate, bind_eq_ok, require_eq_ok] at h
  obtain ⟨_, _, _, _, _, _, _, _, _, hle, _⟩ := h
  exact hle

/-- The fee rate is positive. -/
theorem one_le_feeRate_of_validate {cfg : CoordinatorConfig} (h : cfg.validate = .ok ()) :
    1 ≤ cfg.coordinator.feeRateSatPerVbyte := by
  simp only [validate, bind_eq_ok, require_eq_ok] at h
  obtain ⟨_, _, _, _, _, _, _, _, _, _, _, hle, _⟩ := h
  exact hle

end CoordinatorConfig

example : CoordinatorConfig.withDefaults.validate = .ok () := by decide

end Blindjoin
