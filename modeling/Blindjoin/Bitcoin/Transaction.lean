import Blindjoin.Bitcoin.OutPoint

/-!
# Scripts, transactions and partially signed transactions

The data of the `bitcoin` crate the coordinator works on, reduced to the fields
it reads or writes. Amounts are natural numbers: the arithmetic of this
development is exact.
-/

namespace Blindjoin

/-- Twenty bytes: a `HASH160`. -/
abbrev Bytes20 := List.Vector UInt8 20

/-- A `bitcoin::Network`. -/
inductive Network
  | bitcoin
  | testnet
  | signet
  | regtest
deriving DecidableEq, Repr

/-! ### Scripts -/

/-- Script type of an input or output, `shared::bip322::ScriptType`. -/
inductive ScriptType
  | p2wpkh
  | p2tr
  | p2shP2wpkh
deriving DecidableEq, Repr

/-- The derived `Debug` text of a script type. -/
def ScriptType.debug : ScriptType → String
  | .p2wpkh => "P2wpkh"
  | .p2tr => "P2tr"
  | .p2shP2wpkh => "P2shP2wpkh"

/-- A `bitcoin::Script`, as its bytes. -/
abbrev Script := Bytes

namespace Script

/-- `Script::is_p2wpkh`: `OP_0 OP_PUSHBYTES_20 <20 bytes>`. -/
def isP2wpkh (s : Script) : Bool := s.length == 22 && s[0]? == some 0x00 && s[1]? == some 0x14

/-- `Script::is_p2tr`: `OP_1 OP_PUSHBYTES_32 <32 bytes>`. -/
def isP2tr (s : Script) : Bool := s.length == 34 && s[0]? == some 0x51 && s[1]? == some 0x20

/-- `Script::is_p2sh`: `OP_HASH160 OP_PUSHBYTES_20 <20 bytes> OP_EQUAL`. -/
def isP2sh (s : Script) : Bool :=
  s.length == 23 && s[0]? == some 0xa9 && s[1]? == some 0x14 && s[22]? == some 0x87

/-- `ScriptBuf::new_p2wpkh`. -/
def newP2wpkh (hash : Bytes20) : Script := 0x00 :: 0x14 :: hash.toList

/-- `ScriptBuf::new_p2sh`. -/
def newP2sh (hash : Bytes20) : Script := 0xa9 :: 0x14 :: (hash.toList ++ [0x87])

/-- `Builder::push_slice` on fewer than 76 bytes: the length, then the bytes. -/
def pushSlice (bs : Bytes) : Script := UInt8.ofNat bs.length :: bs

@[simp] theorem length_newP2wpkh (hash : Bytes20) : (newP2wpkh hash).length = 22 := by
  simp [newP2wpkh]

@[simp] theorem isP2sh_newP2sh (hash : Bytes20) : isP2sh (newP2sh hash) = true := by
  simp [isP2sh, newP2sh]

/-- A P2WPKH script is one byte too short to be a P2SH script. -/
@[simp] theorem isP2sh_newP2wpkh (hash : Bytes20) : isP2sh (newP2wpkh hash) = false := by
  simp [isP2sh]

end Script

/-! ### Transactions -/

/-- A witness stack. -/
abbrev Witness := List Bytes

/-- A `bitcoin::TxOut`. -/
structure TxOut where
  value : ℕ
  scriptPubkey : Script
deriving DecidableEq

/-- A `bitcoin::TxIn`. -/
structure TxIn where
  previousOutput : OutPoint
  scriptSig : Script
  sequence : UInt32
  witness : Witness
deriving DecidableEq

/-- A `bitcoin::Transaction`. -/
structure Transaction where
  version : Int
  lockTime : UInt32
  input : List TxIn
  output : List TxOut
deriving DecidableEq

/-- `Sequence::ENABLE_RBF_NO_LOCKTIME`. -/
def sequenceEnableRbfNoLocktime : UInt32 := 0xFFFFFFFD

/-! ### Partially signed transactions -/

/-- A `bitcoin::psbt::Input`, reduced to the fields used here. -/
structure PsbtInput where
  witnessUtxo : Option TxOut := none
  finalScriptSig : Option Script := none
  finalScriptWitness : Option Witness := none
deriving DecidableEq

/-- A `bitcoin::Psbt`: a transaction without signatures, and one record for
each of its inputs. -/
structure Psbt where
  unsignedTx : Transaction
  inputs : List PsbtInput
deriving DecidableEq

/-- `Psbt::from_unsigned_tx`: the transaction must carry no signature data. -/
def Psbt.fromUnsignedTx (tx : Transaction) : Except String Psbt :=
  if tx.input.any fun i => !i.scriptSig.isEmpty then
    .error "the unsigned transaction has script sigs"
  else if tx.input.any fun i => !i.witness.isEmpty then
    .error "the unsigned transaction has script witnesses"
  else .ok { unsignedTx := tx, inputs := tx.input.map fun _ => {} }

/-- Fill the final script and witness of one input into the transaction. -/
def PsbtInput.finalize (txin : TxIn) (input : PsbtInput) : TxIn :=
  { txin with
    scriptSig := input.finalScriptSig.getD []
    witness := input.finalScriptWitness.getD [] }

/-- The transaction `Psbt::extract_tx` extracts: each input of the unsigned
transaction with its final script and witness filled in. -/
def Psbt.extracted (psbt : Psbt) : Transaction :=
  { psbt.unsignedTx with
    input := List.zipWith PsbtInput.finalize psbt.unsignedTx.input psbt.inputs }

end Blindjoin
