import Blindjoin.System.NoPanic

/-!
# What an accepted partial signature commits to

A participant submits the serialized witness of their input. The verifier takes
three shapes of witness, one for each script type, and each of them is a
signature of the key path over the whole transaction: `Blindjoin.KeyPathAll` says
which bytes the signature is, which key it is checked against, and which message
is signed. The messages are those of BIP-143 and of BIP-341
(`Blindjoin.SegwitMessage`, `Blindjoin.TaprootMessage`), with the lists that are
hashed before they enter the digest written out.

The digests are a parameter. Nothing is assumed of them on all messages: for two
signatures that verify, `Blindjoin.Binding` says that one signature verifies for
one digest only and that the two messages do not collide. Then bytes accepted for
a transaction are accepted for no transaction that differs from it.
-/

namespace Blindjoin

open Interleaving Collections

/-! ### The encoding of a witness -/

/-- The bytes of a `CompactSize`: one, or a marker and two, four or eight. -/
def encodeCompactSize (n : ℕ) : Bytes :=
  if n < 253 then [UInt8.ofNat n]
  else if n < 2 ^ 16 then 253 :: (List.range 2).map fun i => UInt8.ofNat (n / 256 ^ i)
  else if n < 2 ^ 32 then 254 :: leBytes32 (UInt32.ofNat n)
  else 255 :: leBytes64 n

/-- The consensus encoding of a witness. -/
def consensusEncode (w : Witness) : Bytes :=
  encodeCompactSize w.length ++ w.flatMap fun item => encodeCompactSize item.length ++ item

/-! ### The messages -/

/-- What a BIP-143 digest with `SIGHASH_ALL` is taken of. -/
structure SegwitMessage where
  version : Int
  prevouts : List OutPoint
  sequences : List UInt32
  outpoint : OutPoint
  scriptCode : Script
  value : ℕ
  sequence : UInt32
  outputs : List TxOut
  lockTime : UInt32
deriving DecidableEq

/-- What a BIP-341 key path digest is taken of, when the hash type covers every
input and output. -/
structure TaprootMessage where
  hashType : TapSighashType
  version : Int
  lockTime : UInt32
  prevouts : List OutPoint
  spent : List TxOut
  sequences : List UInt32
  outputs : List TxOut
  inputIndex : ℕ
deriving DecidableEq

/-- The script code of a P2WPKH program: the P2PKH script of its hash. -/
def scriptCode (spk : Script) : Script := [0x76, 0xa9, 0x14] ++ spk.drop 2 ++ [0x88, 0xac]

/-- The BIP-143 message of an input. -/
def segwitMessage (tx : Transaction) (i : ℕ) (spk : Script) (value : ℕ) : Option SegwitMessage :=
  if spk.isP2wpkh then
    tx.input[i]?.map fun txin =>
      { version := tx.version
        prevouts := tx.input.map TxIn.previousOutput
        sequences := tx.input.map TxIn.sequence
        outpoint := txin.previousOutput
        scriptCode := scriptCode spk
        value := value
        sequence := txin.sequence
        outputs := tx.output
        lockTime := tx.lockTime }
  else none

/-- The BIP-341 message of an input. -/
def taprootMessage (tx : Transaction) (i : ℕ) (spent : List TxOut) (hashType : TapSighashType) :
    Option TaprootMessage :=
  if spent.length = tx.input.length ∧ i < tx.input.length then
    some
      { hashType := hashType
        version := tx.version
        lockTime := tx.lockTime
        prevouts := tx.input.map TxIn.previousOutput
        spent := spent
        sequences := tx.input.map TxIn.sequence
        outputs := tx.output
        inputIndex := i }
  else none

/-- All that an unsigned transaction says: the version, the lock time, the outpoint
and the sequence number of each input, and the outputs. -/
structure TxScope where
  version : Int
  lockTime : UInt32
  prevouts : List OutPoint
  sequences : List UInt32
  outputs : List TxOut
deriving DecidableEq

def Transaction.scope (tx : Transaction) : TxScope where
  version := tx.version
  lockTime := tx.lockTime
  prevouts := tx.input.map TxIn.previousOutput
  sequences := tx.input.map TxIn.sequence
  outputs := tx.output

def SegwitMessage.scope (m : SegwitMessage) : TxScope :=
  ⟨m.version, m.lockTime, m.prevouts, m.sequences, m.outputs⟩

def TaprootMessage.scope (m : TaprootMessage) : TxScope :=
  ⟨m.version, m.lockTime, m.prevouts, m.sequences, m.outputs⟩

/-- The digests of the two kinds of message. -/
structure Digests where
  segwit : SegwitMessage → Bytes32
  taproot : TaprootMessage → Bytes32

/-- **The third-party functions are what they say**: what is deserialized is the
whole of the bytes, in the one encoding there is, and a digest is the digest of
the message of BIP-143 or BIP-341. -/
structure ConsensusLaws (E : Externals) (D : Digests) : Prop where
  deserialize : ∀ bytes w, E.deserializeWitness bytes = .ok w → bytes = consensusEncode w
  segwit : ∀ tx i spk value d, E.p2wpkhSignatureHash tx i spk value = some d →
    ∃ m, segwitMessage tx i spk value = some m ∧ d = D.segwit m
  taproot : ∀ tx i spent hashType d, E.taprootSignatureHash tx i spent hashType = some d →
    ∃ m, taprootMessage tx i spent hashType = some m ∧ d = D.taproot m

/-! ### Signatures -/

/-- A signature of a message under a key. -/
inductive KeySignature
  | ecdsa (m : SegwitMessage) (sig : Bytes) (key : CompressedPublicKey)
  | schnorr (m : TaprootMessage) (sig : Bytes) (key : Bytes)

namespace KeySignature

/-- The bytes of the signature. -/
def sig : KeySignature → Bytes
  | .ecdsa _ sig _ => sig
  | .schnorr _ sig _ => sig

/-- The message. -/
def message : KeySignature → SegwitMessage ⊕ TaprootMessage
  | .ecdsa m _ _ => .inl m
  | .schnorr m _ _ => .inr m

/-- The digest of the message. -/
def digest (D : Digests) : KeySignature → Bytes32
  | .ecdsa m _ _ => D.segwit m
  | .schnorr m _ _ => D.taproot m

/-- The signature verifies over the digest. -/
def Verifies (E : Externals) (D : Digests) : KeySignature → Prop
  | .ecdsa m sig key => E.verifyEcdsa (D.segwit m) sig key = true
  | .schnorr m sig key => E.verifySchnorr (D.taproot m) sig key = true

/-- What of a transaction the message covers. -/
def scope (a : KeySignature) : TxScope :=
  a.message.elim SegwitMessage.scope TaprootMessage.scope

end KeySignature

/-- The signature a witness of the given type is: its elements, its hash type, the
key the script of the input commits to, which an ECDSA witness presents in one form or
another, and the message of this transaction at this index with the values the inputs
store. -/
def KeyPathAll (E : Externals) (psbt : Psbt) (i : ℕ) (scriptType : ScriptType) (w : Witness)
    (a : KeySignature) : Prop :=
  ∃ utxo, psbt.inputs[i]?.bind PsbtInput.witnessUtxo = some utxo ∧
  match scriptType with
  | .p2wpkh => ∃ m der keyBytes key, a = .ecdsa m der key ∧ w = [der ++ [sighashAll], keyBytes] ∧
      E.compressedPublicKey keyBytes = some key ∧ E.isDerSignature der = true ∧
      utxo.scriptPubkey = Script.newP2wpkh (E.wpubkeyHash key) ∧
      segwitMessage psbt.unsignedTx i utxo.scriptPubkey utxo.value = some m
  | .p2shP2wpkh => ∃ m der keyBytes key, a = .ecdsa m der key ∧
      w = [der ++ [sighashAll], keyBytes] ∧
      E.compressedPublicKey keyBytes = some key ∧ E.isDerSignature der = true ∧
      utxo.scriptPubkey = Script.newP2sh (E.scriptHash (Script.newP2wpkh (E.wpubkeyHash key))) ∧
      segwitMessage psbt.unsignedTx i (Script.newP2wpkh (E.wpubkeyHash key)) utxo.value = some m
  | .p2tr => ∃ m sig spent, a = .schnorr m sig ((utxo.scriptPubkey.drop 2).take 32) ∧
      sig.length = 64 ∧
      (w = [sig] ∧ m.hashType = .default ∨ w = [sig ++ [sighashAll]] ∧ m.hashType = .all) ∧
      utxo.scriptPubkey.isP2tr = true ∧
      psbt.inputs.mapM PsbtInput.witnessUtxo = some spent ∧
      taprootMessage psbt.unsignedTx i spent m.hashType = some m

/-- Of two signatures that verify: one signature verifies for one digest only, and
the digests of two messages differ. -/
def Binding (E : Externals) (D : Digests) (a b : KeySignature) : Prop :=
  a.Verifies E D → b.Verifies E D →
    (a.sig = b.sig → a.digest D = b.digest D) ∧
    (a.digest D = b.digest D → a.message = b.message)

section Proof

variable {E : Externals} {D : Digests} {psbt : Psbt} {i : ℕ} {w : Witness} {a b : KeySignature}

/-! ### What the three verifiers accept -/

/-- An ECDSA signature element is a DER signature and the byte of `SIGHASH_ALL`. -/
theorem parseEcdsaSig_eq_ok {sigElem der : Bytes} (h : parseEcdsaSig E sigElem = .ok der) :
    sigElem = der ++ [sighashAll] ∧ E.isDerSignature der = true := by
  simp only [parseEcdsaSig, bind_eq_ok, okOr_eq_ok, require_eq_ok, pure, Except.pure,
    Except.ok.injEq] at h
  obtain ⟨flag, hflag, _, rfl, _, hder, rfl⟩ := h
  exact ⟨(List.dropLast_append_getLast? _ hflag).symm, hder⟩

/-- A taproot signature element is a signature of 64 bytes, or one with the byte of
`SIGHASH_ALL` after it. -/
theorem splitTaprootSig_eq_ok {sigElem sig : Bytes} {hashType : TapSighashType}
    (h : splitTaprootSig sigElem = .ok (sig, hashType)) :
    sig.length = 64 ∧
      (sigElem = sig ∧ hashType = .default ∨ sigElem = sig ++ [sighashAll] ∧ hashType = .all) := by
  rw [splitTaprootSig] at h
  split at h
  · next hlen =>
    obtain ⟨rfl, rfl⟩ := Prod.mk.inj (Except.ok.inj h)
    exact ⟨hlen, .inl ⟨rfl, rfl⟩⟩
  · split at h
    · next hlen =>
      simp only [bind_eq_ok, unwrap_eq_ok, require_eq_ok, pure, Except.pure, Except.ok.injEq,
        Prod.mk.injEq] at h
      obtain ⟨flag, hflag, _, rfl, rfl, rfl⟩ := h
      refine ⟨by rw [List.length_take]; omega, .inr ⟨?_, rfl⟩⟩
      have hlast : sigElem.drop 64 = [sighashAll] := by
        rw [List.drop_eq_getElem_cons (by omega), List.drop_eq_nil_of_le (by omega)]
        rw [List.getElem?_eq_getElem (by omega)] at hflag
        rw [Option.some.inj hflag]
      rw [← hlast, List.take_append_drop]
    · exact absurd h (by simp [fail])

theorem eq_pair {w : Witness} {x y : Bytes} (hlen : w.length = 2) (hx : w[0]? = some x)
    (hy : w[1]? = some y) : w = [x, y] := by
  obtain ⟨x', y', rfl⟩ := List.length_eq_two.mp hlen
  obtain rfl : x' = x := by simpa using hx
  obtain rfl : y' = y := by simpa using hy
  rfl

variable (hE : ConsensusLaws E D)

include hE

/-- What the two ECDSA verifiers have in common: the witness is a signature and a key,
and the signature verifies over the message of a script. -/
theorem exists_segwitMessage_of_ecdsa {tx : Transaction} {spk : Script} {value : ℕ}
    {sigElem der keyBytes : Bytes} {d : Bytes32}
    (hlen : w.length = 2) (hget0 : w[0]? = some sigElem)
    (hparse : parseEcdsaSig E sigElem = .ok der) (hget1 : w[1]? = some keyBytes)
    (hd : E.p2wpkhSignatureHash tx i spk value = some d) :
    ∃ m, segwitMessage tx i spk value = some m ∧ d = D.segwit m ∧
      w = [der ++ [sighashAll], keyBytes] ∧ E.isDerSignature der = true := by
  obtain ⟨rfl, hder⟩ := parseEcdsaSig_eq_ok hparse
  obtain ⟨m, hm, hdigest⟩ := hE.segwit _ _ _ _ _ hd
  exact ⟨m, hm, hdigest, eq_pair hlen hget0 hget1, hder⟩

theorem keyPathAll_of_verifyP2wpkh {utxo : TxOut}
    (hutxo : psbt.inputs[i]?.bind PsbtInput.witnessUtxo = some utxo)
    (h : verifyP2wpkh E psbt i w utxo.scriptPubkey utxo.value = .ok ()) :
    ∃ a, KeyPathAll E psbt i .p2wpkh w a ∧ a.Verifies E D := by
  simp only [verifyP2wpkh, bind_eq_ok, require_eq_ok, unwrap_eq_ok, okOr_eq_ok, verifyEcdsa] at h
  obtain ⟨_, hlen, sigElem, hget0, der, hparse, keyBytes, hget1, key, hkey, _, hspk, d, hd,
    hverify⟩ := h
  obtain ⟨m, hm, rfl, hw, hder⟩ := exists_segwitMessage_of_ecdsa hE hlen hget0 hparse hget1 hd
  exact ⟨.ecdsa m der key, ⟨utxo, hutxo, m, der, keyBytes, key, rfl, hw, hkey, hder, hspk.symm, hm⟩,
    hverify⟩

theorem keyPathAll_of_verifyP2shP2wpkh {utxo : TxOut}
    (hutxo : psbt.inputs[i]?.bind PsbtInput.witnessUtxo = some utxo)
    (h : verifyP2shP2wpkh E psbt i w utxo.scriptPubkey utxo.value = .ok ()) :
    ∃ a, KeyPathAll E psbt i .p2shP2wpkh w a ∧ a.Verifies E D := by
  simp only [verifyP2shP2wpkh, bind_eq_ok, require_eq_ok, unwrap_eq_ok, okOr_eq_ok,
    verifyEcdsa] at h
  obtain ⟨_, hlen, sigElem, hget0, der, hparse, keyBytes, hget1, key, hkey, _, hspk, d, hd,
    hverify⟩ := h
  obtain ⟨m, hm, rfl, hw, hder⟩ := exists_segwitMessage_of_ecdsa hE hlen hget0 hparse hget1 hd
  exact ⟨.ecdsa m der key, ⟨utxo, hutxo, m, der, keyBytes, key, rfl, hw, hkey, hder, hspk.symm, hm⟩,
    hverify⟩

theorem keyPathAll_of_verifyP2tr {utxo : TxOut}
    (hutxo : psbt.inputs[i]?.bind PsbtInput.witnessUtxo = some utxo)
    (h : verifyP2tr E psbt i w = .ok ()) :
    ∃ a, KeyPathAll E psbt i .p2tr w a ∧ a.Verifies E D := by
  simp only [verifyP2tr, bind_eq_ok, require_eq_ok, unwrap_eq_ok, okOr_eq_ok] at h
  obtain ⟨_, hlen, sigElem, hget, ⟨sig, hashType⟩, hsplit, spent, hspent, prevout, hprevout, _,
    htr, _, _, d, hd, hverify⟩ := h
  -- the list of all previous outputs holds at `i` what the input itself holds
  rw [getElem?_of_mapM_eq_some hspent, hutxo] at hprevout
  obtain rfl : utxo = prevout := Option.some.inj hprevout
  obtain ⟨hsig, helem⟩ := splitTaprootSig_eq_ok hsplit
  obtain ⟨m, hm, rfl⟩ := hE.taproot _ _ _ _ _ hd
  obtain ⟨sigElem', rfl⟩ := List.length_eq_one_iff.mp hlen
  obtain rfl : sigElem' = sigElem := by simpa using hget
  have htype : m.hashType = hashType := by
    rw [taprootMessage] at hm
    split at hm
    · exact (congrArg TaprootMessage.hashType (Option.some.inj hm)).symm
    · exact absurd hm (by simp)
  refine ⟨.schnorr m sig ((utxo.scriptPubkey.drop 2).take 32),
    ⟨utxo, hutxo, m, sig, spent, rfl, hsig, ?_, htr, hspent, by rw [htype]; exact hm⟩, hverify⟩
  rcases helem with ⟨rfl, rfl⟩ | ⟨rfl, rfl⟩
  · exact .inl ⟨rfl, htype⟩
  · exact .inr ⟨rfl, htype⟩

/-- **What accepted bytes are**: the whole encoding of a witness that is a
signature of the key path over the whole transaction, and it verifies. -/
theorem keyPathAll_of_verifyInputSignature {st : ScriptType} {bytes : Bytes}
    (h : verifyInputSignature E psbt i st bytes = .ok ()) :
    ∃ w a, E.deserializeWitness bytes = .ok w ∧ bytes = consensusEncode w ∧
      KeyPathAll E psbt i st w a ∧ a.Verifies E D := by
  simp only [verifyInputSignature, bind_eq_ok, ofExcept_eq_ok, okOr_eq_ok] at h
  obtain ⟨w, hw, utxo, hutxo, h⟩ := h
  have hkey : ∃ a, KeyPathAll E psbt i st w a ∧ a.Verifies E D := by
    cases st with
    | p2wpkh => exact keyPathAll_of_verifyP2wpkh hE hutxo h
    | p2shP2wpkh => exact keyPathAll_of_verifyP2shP2wpkh hE hutxo h
    | p2tr => exact keyPathAll_of_verifyP2tr hE hutxo h
  obtain ⟨a, ha, hverify⟩ := hkey
  exact ⟨w, a, hw, hE.deserialize _ _ hw, ha, hverify⟩

omit hE

/-! ### What a signature covers -/

theorem scope_segwitMessage {tx : Transaction} {spk : Script} {value : ℕ} {m : SegwitMessage}
    (h : segwitMessage tx i spk value = some m) : m.scope = tx.scope := by
  rw [segwitMessage] at h
  split at h
  · obtain ⟨txin, -, rfl⟩ := Option.map_eq_some_iff.mp h
    rfl
  · exact absurd h (by simp)

theorem scope_taprootMessage {tx : Transaction} {spent : List TxOut} {hashType : TapSighashType}
    {m : TaprootMessage} (h : taprootMessage tx i spent hashType = some m) :
    m.scope = tx.scope := by
  rw [taprootMessage] at h
  split at h
  · obtain rfl := Option.some.inj h
    rfl
  · exact absurd h (by simp)

/-- **A signature of the key path covers the whole transaction.** -/
theorem KeyPathAll.scope_eq {st : ScriptType} (h : KeyPathAll E psbt i st w a) :
    a.scope = psbt.unsignedTx.scope := by
  obtain ⟨utxo, -, h⟩ := h
  cases st with
  | p2wpkh =>
    obtain ⟨m, der, keyBytes, key, rfl, -, -, -, -, hm⟩ := h
    exact scope_segwitMessage hm
  | p2shP2wpkh =>
    obtain ⟨m, der, keyBytes, key, rfl, -, -, -, -, hm⟩ := h
    exact scope_segwitMessage hm
  | p2tr =>
    obtain ⟨m, sig, spent, rfl, -, -, -, -, hm⟩ := h
    exact scope_taprootMessage hm

/-- **One witness is one signature**: the number of elements tells the two kinds
apart, and the length of a taproot element tells the hash type. -/
theorem KeyPathAll.sig_eq {psbt' : Psbt} {i' : ℕ} {st st' : ScriptType}
    (ha : KeyPathAll E psbt i st w a) (hb : KeyPathAll E psbt' i' st' w b) : a.sig = b.sig := by
  have hpair : ∀ {psbt : Psbt} {i : ℕ} {st : ScriptType} {a : KeySignature},
      KeyPathAll E psbt i st w a → (∃ key : Bytes, w = [a.sig ++ [sighashAll], key]) ∨
        a.sig.length = 64 ∧ (w = [a.sig] ∨ w = [a.sig ++ [sighashAll]]) := by
    rintro psbt i st a ⟨utxo, -, h⟩
    cases st with
    | p2wpkh =>
      obtain ⟨m, der, keyBytes, key, rfl, hw, -⟩ := h
      exact .inl ⟨keyBytes, hw⟩
    | p2shP2wpkh =>
      obtain ⟨m, der, keyBytes, key, rfl, hw, -⟩ := h
      exact .inl ⟨keyBytes, hw⟩
    | p2tr =>
      obtain ⟨m, sig, spent, rfl, hlen, hw, -⟩ := h
      exact .inr ⟨hlen, hw.imp And.left And.left⟩
  rcases hpair ha with ⟨key, rfl⟩ | ⟨hlen, hw⟩
  · rcases hpair hb with ⟨key', hw'⟩ | ⟨-, hw' | hw'⟩
    · exact List.append_cancel_right (List.cons.inj hw').1
    · exact absurd (congrArg List.length hw') (by simp)
    · exact absurd (congrArg List.length hw') (by simp)
  · rcases hpair hb with ⟨key', rfl⟩ | ⟨hlen', hw'⟩
    · rcases hw with hw | hw <;> exact absurd (congrArg List.length hw) (by simp)
    · -- two taproot elements: the lengths tell which of them carry a hash type
      rcases hw with rfl | rfl
      · rcases hw' with hw' | hw'
        · exact List.singleton_inj.mp hw'
        · have := congrArg List.length (List.singleton_inj.mp hw')
          simp only [List.length_append, List.length_singleton] at this
          omega
      · rcases hw' with hw' | hw'
        · have := congrArg List.length (List.singleton_inj.mp hw')
          simp only [List.length_append, List.length_singleton] at this
          omega
        · exact List.append_cancel_right (List.singleton_inj.mp hw')

end Proof

/-! ### The session -/

/-- The inputs of the session with a transaction. -/
def psbtOf (tx : Transaction) : Psbt where
  unsignedTx := tx
  inputs := [{ witnessUtxo := some ⟨1020000, firstScript⟩ },
    { witnessUtxo := some ⟨1030000, secondScript⟩ }]

/-- The messages of the session with their digests. -/
def sessionDigests : List (SegwitMessage × Bytes32) :=
  session.sighashes.filterMap fun e =>
    (segwitMessage e.1.1 e.1.2.1 e.1.2.2.1 e.1.2.2.2).map fun m => (m, e.2)

/-- The digests of the session, and zeros for every other message. -/
def recordedDigests : Digests where
  segwit := answer sessionDigests (List.Vector.replicate 32 0)
  taproot _ := List.Vector.replicate 32 0

theorem consensusLaws_session : ConsensusLaws session.externals recordedDigests where
  deserialize := by
    intro bytes w h
    have hcanonical : ∀ v ∈ session.witnesses, encodeWitness v = consensusEncode v := by decide
    simp only [Recording.externals] at h
    split at h
    · next v hfind =>
      obtain rfl := Except.ok.inj h
      have hbytes : encodeWitness v = bytes := by simpa using List.find?_some hfind
      rw [← hbytes]
      exact hcanonical v (List.mem_of_find?_eq_some hfind)
    · exact absurd h (by simp)
  segwit := by
    intro tx i spk value d h
    have htable : ∀ e ∈ session.sighashes, ∃ m,
        segwitMessage e.1.1 e.1.2.1 e.1.2.2.1 e.1.2.2.2 = some m ∧
          e.2 = recordedDigests.segwit m := by
      intro e he
      simp only [session, List.mem_cons, List.not_mem_nil, or_false] at he
      rcases he with rfl | rfl
      · exact ⟨_, rfl, by decide⟩
      · exact ⟨_, rfl, by decide⟩
    have hmem := mem_of_answer_ne (show session.externals.p2wpkhSignatureHash tx i spk value ≠ none
      by rw [h]; simp)
    obtain ⟨e, he, heq⟩ := List.mem_map.mp hmem
    obtain ⟨m, hm, hd⟩ := htable e he
    obtain ⟨hquestion, hanswer⟩ := Prod.mk.inj heq
    rw [hquestion] at hm
    exact ⟨m, hm, (Option.some.inj (hanswer.trans h)).symm.trans hd⟩
  taproot := by
    intro tx i spent hashType d h
    exact absurd h (by simp [Recording.externals])

/-- A signature of the session verifies over the digest it was recorded for. -/
theorem verifies_session {a : KeySignature} (h : a.Verifies session.externals recordedDigests) :
    (a.digest recordedDigests, a.sig) ∈ session.signatures.map (fun e => (e.1, e.2.1)) ∧
      ∃ m, a.message = .inl m ∧ (m, a.digest recordedDigests) ∈ sessionDigests := by
  cases a with
  | schnorr m sig key => exact absurd h (by simp [KeySignature.Verifies, Recording.externals])
  | ecdsa m sig key =>
    have hmem : (recordedDigests.segwit m, sig, key.toList) ∈ session.signatures := by
      simpa [KeySignature.Verifies, Recording.externals] using h
    refine ⟨List.mem_map.mpr ⟨_, hmem, rfl⟩, m, rfl, ?_⟩
    refine mem_of_answer_ne ?_
    have hzero : ∀ e ∈ session.signatures, e.1 ≠ List.Vector.replicate 32 0 := by decide
    exact hzero _ hmem

theorem binding_session (a b : KeySignature) : Binding session.externals recordedDigests a b := by
  intro ha hb
  obtain ⟨hsigA, m, hm, hmA⟩ := verifies_session ha
  obtain ⟨hsigB, m', hm', hmB⟩ := verifies_session hb
  constructor
  · intro hsig
    have hone : ∀ e ∈ session.signatures.map (fun e => (e.1, e.2.1)),
        ∀ e' ∈ session.signatures.map (fun e => (e.1, e.2.1)), e.2 = e'.2 → e.1 = e'.1 := by decide
    exact hone _ hsigA _ hsigB hsig
  · intro hdigest
    have hone : ∀ e ∈ sessionDigests, ∀ e' ∈ sessionDigests, e.2 = e'.2 → e.1 = e'.1 := by decide
    exact hm.trans ((congrArg Sum.inl (hone _ hmA _ hmB hdigest)).trans hm'.symm)

/-- **An accepted partial signature is a key path signature with `SIGHASH_ALL`.**
Verification never panics; what it accepts is the whole encoding of a witness of
the shape of the script type, whose signature verifies over the digest of this
transaction at this index; and bytes it accepts for one transaction it rejects
for every other, whatever the index, the script type and the values stored with
it, where one signature verifies for one digest only and messages do not
collide. -/
theorem accepted_is_sighashAll {E : Externals} {D : Digests} (hE : ConsensusLaws E D) :
    (∀ psbt i st bytes, NoPanic (verifyInputSignature E psbt i st bytes)) ∧
    (∀ psbt i st bytes, verifyInputSignature E psbt i st bytes = .ok () →
      ∃ w a, bytes = consensusEncode w ∧ KeyPathAll E psbt i st w a ∧ a.Verifies E D) ∧
    ∀ psbt i st psbt' i' st' bytes,
      (∀ w a b, bytes = consensusEncode w → KeyPathAll E psbt i st w a →
        KeyPathAll E psbt' i' st' w b → Binding E D a b) →
      psbt.unsignedTx.scope ≠ psbt'.unsignedTx.scope →
      verifyInputSignature E psbt i st bytes = .ok () →
      verifyInputSignature E psbt' i' st' bytes ≠ .ok () := by
  refine ⟨verifyInputSignature_noPanic, ?_, ?_⟩
  · intro psbt i st bytes h
    obtain ⟨w, a, -, hbytes, hkey, hverify⟩ := keyPathAll_of_verifyInputSignature hE h
    exact ⟨w, a, hbytes, hkey, hverify⟩
  · intro psbt i st psbt' i' st' bytes hbinding hdiffer h h'
    obtain ⟨w, a, hw, hbytes, ha, hverify⟩ := keyPathAll_of_verifyInputSignature hE h
    obtain ⟨w', b, hw', -, hb, hverify'⟩ := keyPathAll_of_verifyInputSignature hE h'
    obtain rfl : w = w' := Except.ok.inj (hw.symm.trans hw')
    obtain ⟨hdigest, hmessage⟩ := hbinding w a b hbytes ha hb hverify hverify'
    -- the same signature, so the same digest, so the same message
    have hsame : a.message = b.message := hmessage (hdigest (ha.sig_eq hb))
    have hscope : a.scope = b.scope := by
      rw [KeySignature.scope, hsame, KeySignature.scope]
    exact hdiffer (ha.scope_eq.symm.trans (hscope.trans hb.scope_eq))

/-- The first participant's signature for the joint transaction is accepted for it,
and for no other lock time. -/
theorem accepted_is_sighashAll_session :
    verifyInputSignature session.externals (psbtOf (jointTx [] [] [])) 0 .p2wpkh
      (encodeWitness [firstSig ++ [0x01], firstKey]) = .ok () ∧
    ∀ i st, verifyInputSignature session.externals
      (psbtOf { jointTx [] [] [] with lockTime := 1 }) i st
      (encodeWitness [firstSig ++ [0x01], firstKey]) ≠ .ok () := by
  have haccepted : verifyInputSignature session.externals (psbtOf (jointTx [] [] [])) 0 .p2wpkh
      (encodeWitness [firstSig ++ [0x01], firstKey]) = .ok () := by decide +kernel
  refine ⟨haccepted, fun i st => ?_⟩
  exact (accepted_is_sighashAll consensusLaws_session).2.2 _ _ _ _ _ _ _
    (fun w a b _ _ _ => binding_session a b) (by decide) haccepted

end Blindjoin
