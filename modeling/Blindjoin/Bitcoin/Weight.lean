import Mathlib.Algebra.BigOperators.Group.List.Basic
import Mathlib.Algebra.Ring.Nat
import Blindjoin.Bitcoin.Transaction

/-!
# The weight of a transaction

The size of a transaction on the wire, and its BIP-141 weight: every byte counts
four times, except the witnesses and the two bytes that announce them, which count
once (`Blindjoin.Transaction.weight`). Relay fees are paid by the virtual byte,
four units of weight, rounded up (`Blindjoin.Transaction.vsize`).

Extracting the transaction from a `Psbt` is refused when its fee rate is absurd
(`Blindjoin.Psbt.extractTx`).
-/

namespace Blindjoin

/-- The size of the `CompactSize` encoding of a count. -/
def compactSize (n : ℕ) : ℕ :=
  if n < 253 then 1 else if n < 2 ^ 16 then 3 else if n < 2 ^ 32 then 5 else 9

/-- The size of bytes with their count. -/
def varBytesSize (bs : Bytes) : ℕ := compactSize bs.length + bs.length

/-- The size of an input, less its witness: outpoint, script and sequence. -/
def TxIn.baseSize (i : TxIn) : ℕ := 36 + varBytesSize i.scriptSig + 4

/-- The size of an output: value and script. -/
def TxOut.size (o : TxOut) : ℕ := 8 + varBytesSize o.scriptPubkey

/-- The size of a witness stack. -/
def Witness.size (w : Witness) : ℕ := compactSize w.length + (w.map varBytesSize).sum

namespace Transaction

/-- The size of a transaction without witnesses: version, inputs, outputs and lock
time. -/
def baseSize (tx : Transaction) : ℕ :=
  4 + (compactSize tx.input.length + (tx.input.map TxIn.baseSize).sum) +
    (compactSize tx.output.length + (tx.output.map TxOut.size).sum) + 4

/-- Whether the transaction is written with a marker, a flag and witnesses. -/
def usesSegwit (tx : Transaction) : Bool :=
  tx.input.isEmpty || tx.input.any fun i => !i.witness.isEmpty

/-- What the marker, the flag and the witnesses add to the size. -/
def witnessSize (tx : Transaction) : ℕ :=
  if tx.usesSegwit then 2 + (tx.input.map fun i => Witness.size i.witness).sum else 0

/-- `Transaction::weight`. -/
def weight (tx : Transaction) : ℕ := 4 * tx.baseSize + tx.witnessSize

/-- `Transaction::vsize`: the weight over four, rounded up. -/
def vsize (tx : Transaction) : ℕ := (tx.weight + 3) / 4

/-- What an input adds to the weight. -/
def inputWeight (i : TxIn) : ℕ := 4 * i.baseSize + Witness.size i.witness

/-- **The weight of a transaction with witnesses**, by its parts. -/
theorem weight_eq {tx : Transaction} (h : tx.usesSegwit = true) :
    tx.weight = 34 + 4 * (compactSize tx.input.length + compactSize tx.output.length) +
      (tx.input.map inputWeight).sum + 4 * (tx.output.map TxOut.size).sum := by
  have hinputs : (tx.input.map inputWeight).sum =
      4 * (tx.input.map TxIn.baseSize).sum +
        (tx.input.map fun i => Witness.size i.witness).sum := by
    induction tx.input with
    | nil => rfl
    | cons i is ih =>
      simp only [List.map_cons, List.sum_cons, inputWeight, ih]
      omega
  rw [weight, baseSize, witnessSize, if_pos h, hinputs]
  omega

end Transaction

/-! ### The sizes the fee is computed from -/

theorem compactSize_of_lt {n : ℕ} (h : n < 253) : compactSize n = 1 := if_pos h

/-! ### The limit on the fee rate -/

/-- `DEFAULT_MAX_FEE_RATE`: 25,000 sats for a virtual byte, which is so many for a
thousand units of weight. -/
def defaultMaxFeeRate : ℕ := 6250000

/-- The fee rate of a transaction that pays `fee`, in sats for a thousand units of
weight, rounded down. -/
def Transaction.feeRate (tx : Transaction) (fee : ℕ) : ℕ := fee * 1000 / tx.weight

namespace Psbt

/-- What the inputs spend, if all of them say so. -/
def spentValue (psbt : Psbt) : Option ℕ :=
  (psbt.inputs.mapM PsbtInput.witnessUtxo).map fun utxos => (utxos.map TxOut.value).sum

/-- What the outputs pay. -/
def paidValue (psbt : Psbt) : ℕ := (psbt.unsignedTx.output.map TxOut.value).sum

/-- The extracted transaction pays more than the limit. -/
def AbsurdFeeRate (psbt : Psbt) (spent : ℕ) : Prop :=
  defaultMaxFeeRate < psbt.extracted.feeRate (spent - psbt.paidValue)

instance (psbt : Psbt) (spent : ℕ) : Decidable (psbt.AbsurdFeeRate spent) :=
  inferInstanceAs (Decidable (_ < _))

/-- The error `Psbt::extract_tx` reports, if it does. -/
def extractTxError (psbt : Psbt) : Option String :=
  match psbt.spentValue with
  | none => some "One of the inputs lacked value information (witness_utxo or non_witness_utxo)"
  | some spent =>
    if spent < psbt.paidValue then
      some "Transaction would be invalid due to output value being greater than input value."
    else if psbt.AbsurdFeeRate spent then
      let feeRate := psbt.extracted.feeRate (spent - psbt.paidValue)
      some s!"An absurdly high fee rate of {feeRate}"
    else none

/-- `Psbt::extract_tx`. -/
def extractTx (psbt : Psbt) : Except String Transaction :=
  match psbt.extractTxError with
  | some e => .error e
  | none => .ok psbt.extracted

/-- The extraction gives the one transaction there is, or fails. -/
theorem extractTx_eq_ok {psbt : Psbt} {tx : Transaction} :
    psbt.extractTx = .ok tx ↔ psbt.extractTxError = none ∧ tx = psbt.extracted := by
  rw [extractTx]
  cases psbt.extractTxError with
  | some e => simp
  | none => simp [eq_comm]

end Psbt

end Blindjoin
