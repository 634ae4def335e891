import Blindjoin.Bitcoin.Weight
import Blindjoin.System.Recorded

/-!
# A session at an absurd fee rate

Nothing bounds the configured fee rate from above. The participants of the
session recorded here are those of `Blindjoin.session`, with coins that can pay
their share at 30,000 sats for a virtual byte. Their signatures are accepted, and
the final transaction is refused when it is extracted, because it pays more than
25,000.
-/

namespace Blindjoin

open Interleaving

/-- A configuration for rounds of two at 30,000 sats for a virtual byte. -/
def highFeeConfig : CoordinatorConfig :=
  { configOfTwo with
    coordinator := { configOfTwo.coordinator with feeRateSatPerVbyte := 30000 } }

/-! ### What was recorded -/

/-- The signatures of the two participants, in DER. -/
def highFeeFirstSig : Bytes := beWords [
    0x30440220172e8bb1b6965f0fd62713c334960fa53e2ea5c14b60f30c475bd630,
    0x559c75b202203257c2d5b1639f3c072c4259d86a0fe1e21b1d309f8e5277004b] ++
  beBytes 6 0xc8fc3e6922cb

def highFeeSecondSig : Bytes := beWords [
    0x30450221008ca1951ae005f026f4962d32055c4d5c2f8ca33da103176f018117,
    0x0cc456e5c902204585b2e221a6576a1737e805a411aa8addfc9f5c9ac3864c85] ++
  beBytes 7 0x750865660bc3f8

/-- The transaction of the two participants, without signatures. -/
def highFeeTx : Transaction where
  version := 2
  lockTime := 0
  input := [⟨firstCoin, [], sequenceEnableRbfNoLocktime, []⟩,
    ⟨secondCoin, [], sequenceEnableRbfNoLocktime, []⟩]
  output := [⟨1000000, firstOutputScript⟩, ⟨1000000, secondOutputScript⟩,
    ⟨365000, firstChangeScript⟩, ⟨375000, secondChangeScript⟩]

/-- What was recorded. -/
def highFee : Recording :=
  { session with
    base64Texts := session.base64Texts ++
      [encodeWitness [highFeeFirstSig ++ [0x01], firstKey],
        encodeWitness [highFeeSecondSig ++ [0x01], secondKey]]
    witnesses := [[highFeeFirstSig ++ [0x01], firstKey], [highFeeSecondSig ++ [0x01], secondKey]]
    sighashes := [
      ((highFeeTx, 0, firstScript, 5760000), beVector 32
        0x8bd1ca1d2a4afcde82259814afb1ce5cf36d4abdec11e9775309b0e13f1ebae8),
      ((highFeeTx, 1, secondRedeem, 5770000), beVector 32
        0x4550f79b58da8e3dc52d4bc9ae73c9f281de18de8d85451be883e5e3643fb69c)]
    signatures := [
      (beVector 32 0x8bd1ca1d2a4afcde82259814afb1ce5cf36d4abdec11e9775309b0e13f1ebae8,
        highFeeFirstSig, firstKey),
      (beVector 32 0x4550f79b58da8e3dc52d4bc9ae73c9f281de18de8d85451be883e5e3643fb69c,
        highFeeSecondSig, secondKey)] }

/-- The functions of a recording, extraction refusing what the crate refuses. -/
def Recording.externalsWithLimit (R : Recording) : Externals :=
  { R.externals with extractTx := Psbt.extractTx }

/-! ### The session -/

/-- The submission of the first participant. -/
def highFeeFirstSign : SignRequest :=
  { firstSign with
    partialSignature := base64 (encodeWitness [highFeeFirstSig ++ [0x01], firstKey]) }

/-- The submission of the second participant. -/
def highFeeSecondSign : SignRequest :=
  { secondSign with
    partialSignature := base64 (encodeWitness [highFeeSecondSig ++ [0x01], secondKey]) }

/-- The registered inputs, in the order they are iterated. -/
def highFeeValues : List RegisteredInput :=
  [⟨secondCoin.toText, secondInput.changeAddress, secondScript, 5770000, .p2shP2wpkh⟩,
    ⟨firstCoin.toText, firstInput.changeAddress, firstScript, 5760000, .p2wpkh⟩]

/-- The orders the registered inputs are iterated in while they are signed for. -/
def highFeeIteration : SignIteration :=
  ⟨highFeeValues, highFeeValues, [firstCoin.toText, secondCoin.toText]⟩

/-- A signature submission. -/
def highFeeSignMoves (i : ℕ) (req : SignRequest) : List Move :=
  [.arrive (.postSign req .received), .run i { iter := highFeeIteration },
    .run i { iter := highFeeIteration }]

/-- The session up to the first signature. -/
def highFeeOneSignedMoves : List Move :=
  startMoves firstKeys ++ inputMoves 1 firstInput (unspentAnswer "0.05760000" firstScript) ++
    inputMoves 2 secondInput (unspentAnswer "0.05770000" secondScript) ++
    outputMoves 3 firstOutput ++ outputMoves 4 secondOutput ++ highFeeSignMoves 5 highFeeFirstSign

/-- The session up to the second signature. -/
def highFeeSignedMoves : List Move :=
  highFeeOneSignedMoves ++ highFeeSignMoves 6 highFeeSecondSign

theorem highFeeConfig_validate : highFeeConfig.validate = .ok () := by decide +kernel

end Blindjoin
