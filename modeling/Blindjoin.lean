import Blindjoin.Api.Handlers
import Blindjoin.Api.Info
import Blindjoin.Bitcoin.Dust
import Blindjoin.Bitcoin.OutPoint
import Blindjoin.Bitcoin.Rpc
import Blindjoin.Bitcoin.Transaction
import Blindjoin.Bitcoin.Weight
import Blindjoin.Client.BlindSigning
import Blindjoin.Client.Discover
import Blindjoin.Client.Floor
import Blindjoin.Client.Honest
import Blindjoin.Client.Outpoint
import Blindjoin.Client.Register
import Blindjoin.Client.Safety
import Blindjoin.Client.Sign
import Blindjoin.Client.WalletProof
import Blindjoin.Client.WalletSign
import Blindjoin.Coordinator.Accounting
import Blindjoin.Coordinator.Config
import Blindjoin.Coordinator.Fee
import Blindjoin.Coordinator.PkarrPub
import Blindjoin.Coordinator.SigVerify
import Blindjoin.Coordinator.Tx
import Blindjoin.Coordinator.Utxo
import Blindjoin.Externals
import Blindjoin.Lib.AdjacentPair
import Blindjoin.Lib.Base64
import Blindjoin.Lib.BlindRsa
import Blindjoin.Lib.Collections
import Blindjoin.Lib.Distinct
import Blindjoin.Lib.ExpiringLog
import Blindjoin.Lib.FromStr
import Blindjoin.Lib.Interleaving
import Blindjoin.Lib.JsonText
import Blindjoin.Lib.Lines
import Blindjoin.Lib.Marking
import Blindjoin.Lib.Members
import Blindjoin.Lib.Pss
import Blindjoin.Lib.Service
import Blindjoin.Lib.Text
import Blindjoin.Lib.Trace
import Blindjoin.Round.BanFile
import Blindjoin.Round.Blame
import Blindjoin.Round.Broadcast
import Blindjoin.Round.Canonical
import Blindjoin.Round.InputReg
import Blindjoin.Round.Manager
import Blindjoin.Round.OutputReg
import Blindjoin.Round.Revalidation
import Blindjoin.Round.Signing
import Blindjoin.Round.State
import Blindjoin.Shared.Bip322
import Blindjoin.Shared.Bip322Sign
import Blindjoin.Shared.Errors
import Blindjoin.Shared.Info
import Blindjoin.Shared.Json
import Blindjoin.Shared.MachineInt
import Blindjoin.Shared.ProofCodec
import Blindjoin.Shared.Protocol
import Blindjoin.Shared.Token
import Blindjoin.System.AcceptedInput
import Blindjoin.System.AcceptedOutput
import Blindjoin.System.AnnouncedKey
import Blindjoin.System.Anonymity
import Blindjoin.System.Attribution
import Blindjoin.System.Authorisation
import Blindjoin.System.Backoff
import Blindjoin.System.BanRestart
import Blindjoin.System.BanWindow
import Blindjoin.System.Binding
import Blindjoin.System.BlameCap
import Blindjoin.System.Broadcasts
import Blindjoin.System.CoinChecks
import Blindjoin.System.Completion
import Blindjoin.System.Discovery
import Blindjoin.System.DisplayedFee
import Blindjoin.System.Dust
import Blindjoin.System.FeeRate
import Blindjoin.System.HighFee
import Blindjoin.System.History
import Blindjoin.System.HonestSession
import Blindjoin.System.InputOracle
import Blindjoin.System.Invariant
import Blindjoin.System.KeyBinding
import Blindjoin.System.Ledger
import Blindjoin.System.Monitor
import Blindjoin.System.NoPanic
import Blindjoin.System.OutputOracle
import Blindjoin.System.OutputType
import Blindjoin.System.Overflow
import Blindjoin.System.Program
import Blindjoin.System.Recorded
import Blindjoin.System.Registered
import Blindjoin.System.Requests
import Blindjoin.System.Respelling
import Blindjoin.System.RoundStep
import Blindjoin.System.Sections
import Blindjoin.System.SighashAll
import Blindjoin.System.SignVerify
import Blindjoin.System.Signatures
import Blindjoin.System.Tasks
import Blindjoin.System.TornAppend
import Blindjoin.System.Transaction
