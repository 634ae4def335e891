import Blindjoin.Bitcoin.Dust
import Blindjoin.System.Recorded

/-!
# The key of an ownership proof

The guard before the third-party verifier is there so that a proof does not rest on
the verifier alone: the key in the witness has to be related to the address. The
relation compares bytes and does not look at the kind of the address: the bytes the
address commits to are the hash of the key, or the key, or the hash of its P2WPKH
script (`Blindjoin.relatedToPubkey`).

So the guard binds the key to the script unless the script carries the hash of the
other kind (`Blindjoin.CommitsToOtherKind`): a P2SH script with the hash of the key,
or a P2WPKH script with the hash of the key's P2WPKH script
(`Blindjoin.key_bound_iff`). This holds whatever the verifier behind the guard
does.
-/

namespace Blindjoin

/-! ### What an address commits to -/

/-- The bytes an address commits to, `Address::payload_as_bytes`. -/
def payload (spk : Script) : Bytes :=
  if spk.isP2pkh then (spk.drop 3).take 20
  else if spk.isP2sh then (spk.drop 2).take 20
  else spk.drop 2

/-- `Address::is_related_to_pubkey`: the payload is the hash of the key, the x-only
key, or the hash of the key's P2WPKH script. -/
def relatedToPubkey (E : Externals) (address : Address) (key : PublicKey) : Bool :=
  payload address.scriptPubkey = (E.hash160 key.bytes).toList ||
    payload address.scriptPubkey = (key.bytes.drop 1).take 32 ||
    payload address.scriptPubkey =
      (E.hash160 (Script.newP2wpkh (E.hash160 key.bytes))).toList

/-- What is assumed of the `bitcoin` crate: it reads keys as documented, an address made
of a script has this script, and is related to a key as `relatedToPubkey` says. -/
structure AddressLaws (E : Externals) : Prop extends E.ReadsKeys where
  scriptPubkey : ∀ spk network address, E.addressFromScript spk network = .ok address →
    address.scriptPubkey = spk
  related : ∀ address key, E.isRelatedToPubkey address key = relatedToPubkey E address key

section Payload

variable {spk : Script} {hash : Bytes20}

theorem payload_newP2wpkh : payload (Script.newP2wpkh hash) = hash.toList := by
  have hlen : (Script.newP2wpkh hash).length = 22 := Script.length_newP2wpkh hash
  have hp2pkh : (Script.newP2wpkh hash).isP2pkh = false := by simp [Script.isP2pkh]
  rw [payload, hp2pkh, Script.isP2sh_newP2wpkh]
  rfl

theorem payload_newP2sh : payload (Script.newP2sh hash) = hash.toList := by
  have hp2pkh : (Script.newP2sh hash).isP2pkh = false := by simp [Script.isP2pkh, Script.newP2sh]
  rw [payload, hp2pkh, Script.isP2sh_newP2sh, if_neg Bool.false_ne_true, if_pos rfl]
  have htake : (hash.toList ++ [0x87]).take 20 = hash.toList :=
    List.take_left' (List.Vector.toList_length hash)
  exact htake

/-- A P2WPKH script is the one of its payload. -/
theorem exists_eq_newP2wpkh (h : spk.isP2wpkh = true) : ∃ hash, spk = Script.newP2wpkh hash := by
  simp only [Script.isP2wpkh, Bool.and_eq_true, beq_iff_eq] at h
  obtain ⟨⟨hlen, h0⟩, h1⟩ := h
  rcases spk with _ | ⟨a, _ | ⟨b, hash⟩⟩
  · exact absurd hlen (by simp)
  · exact absurd hlen (by simp)
  · obtain rfl := Option.some.inj h0
    obtain rfl := Option.some.inj h1
    have hlen' : hash.length = 20 := by
      simp only [List.length_cons] at hlen
      omega
    exact ⟨⟨hash, hlen'⟩, rfl⟩

/-- A P2SH script is the one of its payload. -/
theorem exists_eq_newP2sh (h : spk.isP2sh = true) : ∃ hash, spk = Script.newP2sh hash := by
  simp only [Script.isP2sh, Bool.and_eq_true, beq_iff_eq] at h
  obtain ⟨⟨⟨hlen, h0⟩, h1⟩, hlast⟩ := h
  rcases spk with _ | ⟨a, _ | ⟨b, rest⟩⟩
  · exact absurd hlen (by simp)
  · exact absurd hlen (by simp)
  · obtain rfl := Option.some.inj h0
    obtain rfl := Option.some.inj h1
    have hlen' : rest.length = 21 := by
      simp only [List.length_cons] at hlen
      omega
    rcases List.eq_nil_or_concat rest with rfl | ⟨hash, last, rfl⟩
    · exact absurd hlen' (by decide)
    · rw [List.concat_eq_append, List.length_append, List.length_singleton] at hlen'
      have hhash : hash.length = 20 := by omega
      have hget : (0xa9 :: 0x14 :: hash.concat last)[22]? = some last := by
        simp [List.concat_eq_append, hhash]
      obtain rfl := Option.some.inj (hget.symm.trans hlast)
      exact ⟨⟨hash, hhash⟩, by rw [List.concat_eq_append]; rfl⟩

end Payload

/-! ### The guard -/

section Guard

variable {E : Externals} {spk : Script} {witness : Witness} {message : Bytes} {network : Network}
  {st : ScriptType} {key : CompressedPublicKey}

/-- The script a key is to be proven for: its P2WPKH script, or the P2SH script that
wraps it. -/
def boundScript (E : Externals) (spk : Script) (key : CompressedPublicKey) : Script :=
  if spk.isP2wpkh then Script.newP2wpkh (E.wpubkeyHash key)
  else Script.newP2sh (E.scriptHash (Script.newP2wpkh (E.wpubkeyHash key)))

/-- The hash that script carries. -/
def boundHash (E : Externals) (spk : Script) (key : CompressedPublicKey) : Bytes20 :=
  if spk.isP2wpkh then E.wpubkeyHash key
  else E.scriptHash (Script.newP2wpkh (E.wpubkeyHash key))

/-- The hash of the other kind. -/
def otherHash (E : Externals) (spk : Script) (key : CompressedPublicKey) : Bytes20 :=
  if spk.isP2wpkh then E.scriptHash (Script.newP2wpkh (E.wpubkeyHash key))
  else E.wpubkeyHash key

/-- The script carries the hash of the other kind of the key that is presented, and
that is not the hash it should carry. -/
def CommitsToOtherKind (E : Externals) (spk : Script) (witness : Witness) : Prop :=
  ∃ key : CompressedPublicKey, witness[1]? = some key.toList ∧
    payload spk = (otherHash E spk key).toList ∧ otherHash E spk key ≠ boundHash E spk key

/-- What an accepted proof is to show: a witness of two elements, the second of which
is a compressed key whose script this is. -/
def KeyBound (E : Externals) (spk : Script) (witness : Witness) : Prop :=
  ∃ sig, ∃ key : CompressedPublicKey, witness = [sig, key.toList] ∧
    E.compressedPublicKey key.toList = some key ∧ spk = boundScript E spk key

/-- A script is the one of a key when its payload is the hash. -/
theorem eq_boundScript_iff (hspk : spk.isP2wpkh = true ∨ spk.isP2sh = true) :
    spk = boundScript E spk key ↔ payload spk = (boundHash E spk key).toList := by
  by_cases hp2wpkh : spk.isP2wpkh = true
  · obtain ⟨hash, hhash⟩ := exists_eq_newP2wpkh hp2wpkh
    rw [boundScript, boundHash, if_pos hp2wpkh, if_pos hp2wpkh, hhash, payload_newP2wpkh]
    constructor
    · intro h
      have hpayload := congrArg payload h
      rwa [payload_newP2wpkh, payload_newP2wpkh] at hpayload
    · intro h
      rw [List.Vector.toList_injective h]
  · obtain ⟨hash, hhash⟩ := exists_eq_newP2sh (hspk.resolve_left hp2wpkh)
    rw [boundScript, boundHash, if_neg hp2wpkh, if_neg hp2wpkh, hhash, payload_newP2sh]
    constructor
    · intro h
      have hpayload := congrArg payload h
      rwa [payload_newP2sh, payload_newP2sh] at hpayload
    · intro h
      rw [List.Vector.toList_injective h]

/-- The payload of these scripts has twenty bytes. -/
theorem length_payload (hspk : spk.isP2wpkh = true ∨ spk.isP2sh = true) :
    (payload spk).length = 20 := by
  rcases hspk with h | h
  · obtain ⟨hash, rfl⟩ := exists_eq_newP2wpkh h
    rw [payload_newP2wpkh, List.Vector.toList_length]
  · obtain ⟨hash, rfl⟩ := exists_eq_newP2sh h
    rw [payload_newP2sh, List.Vector.toList_length]

/-- Neither kind of script is a taproot script. -/
theorem isP2tr_eq_false (hspk : spk.isP2wpkh = true ∨ spk.isP2sh = true) :
    spk.isP2tr = false := by
  rcases hspk with h | h
  · obtain ⟨hash, rfl⟩ := exists_eq_newP2wpkh h
    simp [Script.isP2tr, Script.newP2wpkh]
  · obtain ⟨hash, rfl⟩ := exists_eq_newP2sh h
    simp [Script.isP2tr, Script.newP2sh]

/-- **When an address is related to a key**: its script carries one of the two hashes.
The x-only key has thirty-two bytes, so it is neither. -/
theorem relatedToPubkey_eq_true_iff {address : Address}
    (hspk : spk.isP2wpkh = true ∨ spk.isP2sh = true) (haddress : address.scriptPubkey = spk) :
    relatedToPubkey E address ⟨key.toList, true⟩ = true ↔
      payload spk = (boundHash E spk key).toList ∨ payload spk = (otherHash E spk key).toList := by
  have hxonly : payload spk ≠ (key.toList.drop 1).take 32 := by
    intro heq
    have hlen := congrArg List.length heq
    rw [length_payload hspk, List.length_take, List.length_drop, key.toList_length] at hlen
    omega
  simp only [relatedToPubkey, haddress, Bool.or_eq_true, decide_eq_true_eq, hxonly, or_false]
  rw [boundHash, otherHash, Externals.scriptHash, Externals.wpubkeyHash]
  by_cases hp2wpkh : spk.isP2wpkh = true
  · rw [if_pos hp2wpkh, if_pos hp2wpkh]
  · rw [if_neg hp2wpkh, if_neg hp2wpkh]
    exact or_comm

/-- **What the guard lets through**: a signature and a compressed key, one of whose
two hashes the script carries. -/
theorem exists_key_of_keyBindingGuard {address : Address} (hlaws : AddressLaws E)
    (hspk : spk.isP2wpkh = true ∨ spk.isP2sh = true) (haddress : address.scriptPubkey = spk)
    (h : keyBindingGuard E spk address witness = .ok ()) :
    ∃ sig, ∃ key : CompressedPublicKey, witness = [sig, key.toList] ∧
      E.compressedPublicKey key.toList = some key ∧
      (payload spk = (boundHash E spk key).toList ∨
        payload spk = (otherHash E spk key).toList) := by
  rw [keyBindingGuard, if_neg (by simp [isP2tr_eq_false hspk])] at h
  split at h
  · exact absurd h (by simp)
  · next hlen =>
    obtain ⟨sig, pkBytes, rfl⟩ := List.length_eq_two.mp (not_not.mp hlen)
    simp only [List.getElem?_cons_succ, List.getElem?_cons_zero] at h
    cases hkey : E.publicKey pkBytes with
    | none =>
      rw [hkey] at h
      exact absurd h (by simp)
    | some pubkey =>
      rw [hkey] at h
      simp only [Bool.or_eq_true, Bool.not_eq_true', hlaws.related] at h
      split_ifs at h with hrefused
      obtain ⟨hcompressed, hrelated⟩ := not_or.mp hrefused
      -- an uncompressed key is refused, so the key is the bytes that were presented
      rw [Bool.not_eq_false] at hcompressed hrelated
      obtain ⟨key, rfl, rfl, hread⟩ := hlaws.exists_of_compressed hkey hcompressed
      exact ⟨sig, key, rfl, hread, (relatedToPubkey_eq_true_iff hspk haddress).mp hrelated⟩

/-- **When the key is bound**: an accepted proof shows a key whose script this is,
unless the script carries the hash of the other kind. -/
theorem key_bound_iff (hlaws : AddressLaws E) (hspk : spk.isP2wpkh = true ∨ spk.isP2sh = true)
    (h : verifySimple E st spk witness message network = .ok ()) :
    KeyBound E spk witness ↔ ¬CommitsToOtherKind E spk witness := by
  obtain ⟨address, hfrom, hguard, -⟩ := exists_of_verifySimple h
  obtain ⟨sig, key, rfl, hkey, hpayload⟩ :=
    exists_key_of_keyBindingGuard hlaws hspk (hlaws.scriptPubkey _ _ _ hfrom) hguard
  constructor
  · rintro ⟨sig', key', hwitness, -, hscript⟩ ⟨key'', hget, hother, hne⟩
    obtain ⟨-, hkeys⟩ := List.cons.inj hwitness
    obtain rfl := List.Vector.toList_injective (List.cons.inj hkeys).1
    obtain rfl := List.Vector.toList_injective (Option.some.inj hget)
    have hbound := (eq_boundScript_iff hspk).mp hscript
    exact hne (List.Vector.toList_injective (hother.symm.trans hbound))
  · intro hkind
    refine ⟨sig, key, rfl, hkey, (eq_boundScript_iff hspk).mpr ?_⟩
    rcases hpayload with hbound | hother
    · exact hbound
    · by_contra hne
      refine hkind ⟨key, rfl, hother, fun heq => hne ?_⟩
      rw [hother, heq]

end Guard

/-! ### The recorded session -/

/-- A recording, with the relation of addresses and keys computed. -/
def Recording.relating (R : Recording) : Externals :=
  { R.externals with isRelatedToPubkey := relatedToPubkey R.externals }

theorem Recording.addressLaws (R : Recording) : AddressLaws R.relating where
  toReadsKeys := readsKeys_of_known rfl rfl
  scriptPubkey := by
    intro spk network address h
    by_cases hspk : spk.isP2wpkh ∨ spk.isP2tr ∨ spk.isP2sh
    · have hok : (Except.ok ⟨network, spk⟩ : Except String Address) = .ok address :=
        (if_pos hspk).symm.trans h
      rw [← Except.ok.inj hok]
    · have herror : (Except.error "unrecognized script" : Except String Address) = .ok address :=
        (if_neg hspk).symm.trans h
      exact absurd herror (by simp)
  related := by
    intro address key
    rfl

theorem key_bound_iff_session :
    KeyBound session.relating secondScript [secondProof, secondKey] ↔
      ¬CommitsToOtherKind session.relating secondScript [secondProof, secondKey] := by
  have haccepted : verifySimple session.relating .p2shP2wpkh secondScript [secondProof, secondKey]
      (utf8 (ownershipMessage firstRound.toText secondCoin)) .signet = .ok () := by
    decide +kernel
  exact key_bound_iff session.addressLaws (by decide) haccepted

/-! ### A script with the hash of the key -/

/-- The P2SH script that carries the hash of the first key itself: the script it
commits to is the thirty-three bytes of the key. -/
def bareKeyScript : Script := beBytes 23 0xa914751e76e8199196d454941c45d1b3a323f1433bd687

/-- The redeem script of the first key. -/
def firstRedeem : Script := 0x00 :: 0x14 :: beBytes 20 0x751e76e8199196d454941c45d1b3a323f1433bd6

/-- The session, in which the hash of this redeem script was recorded as well, with a
verifier that accepts everything. -/
def regressed : Externals :=
  { ({ session with hash160 := (firstRedeem, beVector 20
        0xbcfeb728b584253d5f3f70bcb780e9ef218a68f4) :: session.hash160 }).relating with
    bip322VerifySimple := fun _ _ _ => .ok () }

/-- **The guard lets a script with the hash of the other kind through**: the proof is
accepted for a P2SH script that does not commit to the redeem script of the key. -/
theorem other_kind_accepted :
    AddressLaws regressed ∧
    verifySimple regressed .p2shP2wpkh bareKeyScript [firstProof, firstKey]
      (utf8 (ownershipMessage firstRound.toText firstCoin)) .signet = .ok () ∧
    ¬KeyBound regressed bareKeyScript [firstProof, firstKey] := by
  have hlaws := Recording.addressLaws { session with hash160 := (firstRedeem, beVector 20
    0xbcfeb728b584253d5f3f70bcb780e9ef218a68f4) :: session.hash160 }
  have haccepted : verifySimple regressed .p2shP2wpkh bareKeyScript [firstProof, firstKey]
      (utf8 (ownershipMessage firstRound.toText firstCoin)) .signet = .ok () := by
    decide +kernel
  refine ⟨⟨readsKeys_of_known rfl rfl, hlaws.scriptPubkey, hlaws.related⟩, haccepted, ?_⟩
  rintro ⟨sig, key, hwitness, -, hscript⟩
  obtain ⟨-, hkeys⟩ := List.cons.inj hwitness
  have hkey : (⟨firstKey, by decide⟩ : CompressedPublicKey) = key :=
    List.Vector.toList_injective (List.cons.inj hkeys).1
  rw [← hkey] at hscript
  exact absurd hscript (by decide +kernel)

end Blindjoin
