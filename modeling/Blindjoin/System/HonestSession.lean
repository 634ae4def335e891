import Blindjoin.Client.BlindSigning
import Blindjoin.Lib.Base64
import Blindjoin.Lib.Pss
import Blindjoin.System.Authorisation
import Blindjoin.System.History
import Blindjoin.System.SignVerify

/-!
# The session, with third parties that keep their promises

The recorded session answers what was asked in it, and nothing else. Some theorems ask for
more of the third-party functions: that every byte string is read back from its text, that
JSON is read and written, that blind signatures are RSA signatures under a key whose factors
are prime. Here are such functions, with the key of a round and the wallets of its two
participants.

The factors of the key are successors of smooth numbers, so that Lucas' test is quickly made
(`BlindRsa.prime_of_smooth`). The hash function of the encoding is SHA-384 where the session
needs it.
-/

namespace Blindjoin

open Interleaving

/-! ### Texts -/

/-- What is recorded need not be read, if it was recorded as it is read. -/
theorem answer_of_reads {α β : Type} [DecidableEq α] {table : List (α × β)} {read : α → β}
    (h : ∀ e ∈ table, read e.1 = e.2) (a : α) : answer table (read a) a = read a := by
  rw [answer]
  split
  · next e hfind =>
    obtain rfl : e.1 = a := by simpa using List.find?_some hfind
    exact (h _ (List.mem_of_find?_eq_some hfind)).symm
  · rfl

theorem toList_textOf (cs : List Char) : (textOf cs).toList = cs := by
  have hchars : textOf cs = String.ofList cs :=
    String.toByteArray_inj.mp (ByteArray.ext List.data_toByteArray.symm)
  rw [hchars, String.toList_ofList]

/-- The digits the session was recorded with are those of base64. -/
theorem base64Chars_eq (bs : Bytes) : base64Chars bs = Base64.encode bs := by
  fun_induction Base64.encode bs with
  | case1 a b c rest n ih => rw [base64Chars, ih]; rfl
  | case2 a b n => rfl
  | case3 a n => rfl
  | case4 => rfl

/-- Third-party functions that read and write all of base64. -/
def Externals.withBase64 (E : Externals) : Externals :=
  { E with
    base64Encode := base64
    base64Decode := fun text => okOr "Invalid symbol" (Base64.decode text.toList) }

theorem base64Decode_withBase64 (E : Externals) (bs : Bytes) :
    E.withBase64.base64Decode (base64 bs) = .ok bs := by
  show okOr _ (Base64.decode (base64 bs).toList) = _
  rw [base64, toList_textOf, base64Chars_eq, Base64.decode_encode]
  rfl

/-- A hexadecimal digit is not escaped. -/
theorem escape_hexEncode (bs : Bytes) :
    (TextCodec.hexEncode bs).flatMap JsonText.escape = TextCodec.hexEncode bs := by
  have hdigit : ∀ n, n < 16 → JsonText.escape (TextCodec.hexDigit n) = [TextCodec.hexDigit n] := by
    decide
  rw [TextCodec.hexEncode, List.flatMap_assoc]
  refine List.flatMap_congr fun b _ => ?_
  have hb : b.toNat < 256 := b.toNat_lt
  rw [TextCodec.hexByte, List.flatMap_cons, List.flatMap_cons, List.flatMap_nil,
    hdigit _ (by omega), hdigit _ (by omega)]
  rfl

/-- The ownership proofs of the session are texts of arrays. -/
theorem parse_proofText (sig key : Bytes) :
    Value.parse (proofText sig key) = some (stringArray [hexText sig, hexText key]) := by
  have hprint : proofText sig key = (stringArray [hexText sig, hexText key]).print := by
    refine String.toList_inj.mp ?_
    rw [proofText, toList_textOf, Value.print, String.toList_ofList]
    simp only [stringArray, List.map_cons, List.map_nil, Value.printChars, Value.printItems,
      JsonText.quoted, hexText, toList_textOf, escape_hexEncode]
    simp
  rw [hprint]
  exact Value.parse_print (plain_stringArray _)

/-- Third-party functions that look up the texts of the session, before they read them. -/
def Externals.recalling (E : Externals) : Externals :=
  { E with
    base64Decode := fun text => answer (session.base64Texts.map fun bs => (base64 bs, .ok bs))
      (E.base64Decode text) text
    hexDecode := fun text => answer (session.hexTexts.map fun bs => (hexText bs, .ok bs))
      (E.hexDecode text) text
    jsonStringArray := fun text => answer (session.jsonStringArrays.map fun e => (e.1, some e.2))
      (E.jsonStringArray text) text }

/-- What they look up is what they would read. -/
theorem recalling_eq {E : Externals} (hbase64 : ∀ bs, E.base64Decode (base64 bs) = .ok bs)
    (hhex : ∀ bs, E.hexDecode (hexText bs) = .ok bs)
    (hjson : ∀ sig key, E.jsonStringArray (proofText sig key) = some [hexText sig, hexText key]) :
    E.recalling = E := by
  have hbase64' : E.recalling.base64Decode = E.base64Decode := by
    funext text
    refine answer_of_reads (fun e he => ?_) text
    obtain ⟨bs, -, rfl⟩ := List.mem_map.mp he
    exact hbase64 bs
  have hhex' : E.recalling.hexDecode = E.hexDecode := by
    funext text
    refine answer_of_reads (fun e he => ?_) text
    obtain ⟨bs, -, rfl⟩ := List.mem_map.mp he
    exact hhex bs
  have hjson' : E.recalling.jsonStringArray = E.jsonStringArray := by
    funext text
    refine answer_of_reads (fun e he => ?_) text
    obtain ⟨array, harray, rfl⟩ := List.mem_map.mp he
    rcases List.mem_pair.mp harray with rfl | rfl
    · exact hjson _ _
    · exact hjson _ _
  calc E.recalling
      = { E with
          base64Decode := E.recalling.base64Decode
          hexDecode := E.recalling.hexDecode
          jsonStringArray := E.recalling.jsonStringArray } := rfl
    _ = E := by rw [hbase64', hhex', hjson']

/-- Third-party functions that open the envelopes they sealed. -/
def Externals.withEnvelopes (E : Externals) (table : List (Psbt × Bytes)) : Externals :=
  { E with
    psbtSerialize := answer table []
    psbtDeserialize := fun bs => okOr "invalid magic"
      ((table.find? fun e => e.2 = bs).map Prod.fst) }

/-! ### The world after some moves -/

/-- The world after some moves from another one, when they are possible. -/
def worldFrom (E : Externals) (config : CoordinatorConfig) (w : World Coordinator Task Event)
    (moves : List Move) : World Coordinator Task Event :=
  ((coordinator E config).run (fun _ _ _ => true) w moves).getD w

theorem worldFrom_reachable (E : Externals) (config : CoordinatorConfig)
    (w : World Coordinator Task Event) (moves : List Move) :
    Reachable (coordinator E config) w (worldFrom E config w moves) := by
  rw [worldFrom]
  cases hrun : (coordinator E config).run (fun _ _ _ => true) w moves with
  | none => exact .refl
  | some w' => exact (ReachableVia.refl.of_run hrun).reachable

/-! ### The key -/

/-- The factors of the modulus. -/
def honestP : ℕ := BlindRsa.smooth 832 118 2 + 1

def honestQ : ℕ := BlindRsa.smooth 653 231 2 + 1

theorem honestP_prime : honestP.Prime := by
  refine BlindRsa.prime_of_smooth (a := 7) ?_ ?_
  · decide +kernel
  · decide +kernel

theorem honestQ_prime : honestQ.Prime := by
  refine BlindRsa.prime_of_smooth (a := 7) ?_ ?_
  · decide +kernel
  · decide +kernel

/-- The secret exponent. -/
def honestD : ℕ := BlindRsa.os2ip (beWords [
    0x9d5e2b48cc12c0ae3c436c7ff7c7afa902ea1cd63753dd2faf5484abfd79dc41,
    0x308b584b65955e3a10bb8b232071c26fee56350500ae63cd1a8393d4252ed41a,
    0x1644030735a16000ffff0000ffff0000ffff0000ffff0000ffff0000ffff0000,
    0xffff0000ffff0000ffff0000ffff0000ffff0000ffff0000ffff0000ffff0000,
    0xffff0000ffff0000ffff0000ffff0000ffff0000ffff0000ffff0000ffff0000,
    0xffff0000ffff0000ffff0000ffff0000ffff0000ffff0000ffff0000ffff0000,
    0xffff0000ffff0000ffff0000ffff0000ffff0000ffff0000ffff0000ffff0000,
    0xffff0000ffff0000ffff0000ffff0000ffff0000ffff0000ffff0000ffff0001])

/-- The key. -/
def honestKey : BlindRsa.SecretKey where
  modulus := honestP * honestQ
  exponent := 65537
  size := 256
  one_lt := by decide +kernel
  le := by decide +kernel
  p := honestP
  q := honestQ
  secret := honestD
  prime_p := honestP_prime
  prime_q := honestQ_prime
  ne := by decide +kernel
  modulus_eq := rfl
  inverse_p := by decide +kernel
  inverse_q := by decide +kernel

/-- Its public part, serialized. -/
def honestPublicKey : Bytes := beWords [
    0x30820152303d06092a864886f70d01010a3030a00d300b060960864801650304,
    0x0202a11a301806092a864886f70d010108300b0609608648016503040202a203,
    0x0201300382010f003082010a0282010100ad99a95273bb6fc97362342106b766,
    0xe8ad60ac80f6bb401664723e4069c9bd0ee43448210ce4502a0d6cedf182ce90,
    0xbbac7b3ce149a4f7c1260e83ba748e9a475c47b123d0dc600000000000000000,
    0x0000000000000000000000000000000000000000000000000000000000000000,
    0x0000000000000000000000000000000001a5e18503a97e0b341d3609ab83c935,
    0x221a26e08932a58614a75c6f0ca85f7753b4bcb074f98813d45a9a23eae9c260,
    0x0000000000000000000000000000000000000000000000000000000000000000,
    0x0000000000000000000000000000000000000000000000000000000000000000] ++
  beBytes 22 0x00000000000000000000000000000000010203010001

/-- The key, serialized. -/
def honestSecretKey : Bytes := beWords [
    0x308204be020100300d06092a864886f70d0101010500048204a8308204a40201,
    0x000282010100ad99a95273bb6fc97362342106b766e8ad60ac80f6bb40166472,
    0x3e4069c9bd0ee43448210ce4502a0d6cedf182ce90bbac7b3ce149a4f7c1260e,
    0x83ba748e9a475c47b123d0dc6000000000000000000000000000000000000000,
    0x0000000000000000000000000000000000000000000000000000000000000000,
    0x000000000001a5e18503a97e0b341d3609ab83c935221a26e08932a58614a75c,
    0x6f0ca85f7753b4bcb074f98813d45a9a23eae9c2600000000000000000000000,
    0x0000000000000000000000000000000000000000000000000000000000000000,
    0x0000000000000000000000000000000000000000000000000000000000000000,
    0x000000000001020301000102820101009d5e2b48cc12c0ae3c436c7ff7c7afa9,
    0x02ea1cd63753dd2faf5484abfd79dc41308b584b65955e3a10bb8b232071c26f,
    0xee56350500ae63cd1a8393d4252ed41a1644030735a16000ffff0000ffff0000,
    0xffff0000ffff0000ffff0000ffff0000ffff0000ffff0000ffff0000ffff0000,
    0xffff0000ffff0000ffff0000ffff0000ffff0000ffff0000ffff0000ffff0000,
    0xffff0000ffff0000ffff0000ffff0000ffff0000ffff0000ffff0000ffff0000,
    0xffff0000ffff0000ffff0000ffff0000ffff0000ffff0000ffff0000ffff0000,
    0xffff0000ffff0000ffff0000ffff0000ffff0000ffff0000ffff0000ffff0000,
    0xffff0000ffff0000ffff0000ffff000102818100cb93bafb394bae46b75dc5d6,
    0x28fd37949b80f77240cebdf10000000000000000000000000000000000000000,
    0x0000000000000000000000000000000000000000000000000000000000000000,
    0x0000000000000000000000000000000000000000000000000000000000000000,
    0x000000000000000000000000000000000000000102818100da4dca0870325ced,
    0x65d843d55acbfd8d7ea5e916f1d6c823a75c6f0ca85f7753b4bcb074f98813d4,
    0x5a9a23eae9c26000000000000000000000000000000000000000000000000000,
    0x0000000000000000000000000000000000000000000000000000000000000000,
    0x000000000000000000000000000000000000000000000001028181008548e7b6,
    0xebc05d0df7a7f18b51b2d7dcf822ebdf6606f5dcffff0000ffff0000ffff0000,
    0xffff0000ffff0000ffff0000ffff0000ffff0000ffff0000ffff0000ffff0000,
    0xffff0000ffff0000ffff0000ffff0000ffff0000ffff0000ffff0000ffff0000,
    0xffff0000ffff0000ffff0000ffff0000ffff0000ffff0000ffff000102818007,
    0x9762ea2e34a224a3410502db5872a5c3fcb301584196ce1e98c947d067197830,
    0xb5cb111648542033525ee36163a000ffff0000ffff0000ffff0000ffff0000ff,
    0xff0000ffff0000ffff0000ffff0000ffff0000ffff0000ffff0000ffff0000ff,
    0xff0000ffff0000ffff0000ffff0000ffff0000ffff0000ffff0000ffff000102,
    0x818022e53399274c646b07f09ac8722fadba820af18fa8a12089d1dcb9921aa3,
    0x7b9067d014ceb0c8b57919e9d699a804dcafbcbc4a4e80625561c57ad3c13e43,
    0x57aea1907632985c1fbd4b917bcc58b6221fc8540bb5e9169cca9b50bca96c81,
    0xa48d54f496d5617ace823b6205fbd82d277bc9569026ee40315c7a08539591da] ++
  beBytes 2 0xfaa8

/-- The signer of the round. -/
def honestSigner : RsaBlindSigner := ⟨⟨honestPublicKey⟩, ⟨honestSecretKey⟩⟩

/-- The key generator. -/
def honestKeys : KeyGenDraw where
  keypair := .ok honestSigner
  skDer := .ok honestSecretKey
  pkDer := .ok honestPublicKey
  roundSecret := List.Vector.replicate 32 0xa1

/-! ### The encoding of messages -/

/-- Forty-eight bytes, as two numbers. -/
def bytes384 (high low : ℕ) : Bytes := beBytes 24 high ++ beBytes 24 low

/-- What is drawn to blind the message of the first output. -/
def honestDraw : BlindDraw where
  msgRandomizer := List.Vector.replicate 32 0xb1
  salt := ⟨(List.range 48).map fun i => UInt8.ofNat (0x40 + i), by decide⟩
  factor := 0x10001000100010001

/-- The message behind its randomizer, and its hash. -/
def honestPrepared : Bytes := List.replicate 32 0xb1 ++ firstToken.toList

def honestHash : Bytes := bytes384 0x17f16a8104610c9260165817add74623f12e04c310c9ec89
      0xac183c215f4e363de2cf2e33123654d7ea81a6424e86ece1

/-- The hash of the salted message. -/
def honestSalted : Bytes := bytes384 0xf30af4d249ad1f300c0ec04c384083b79fefdfbe8fb86c14
      0x7be7e75d4cf9c09ac2091dc7db6525ffc8b70c11337bf546

/-- The same for the second output. -/
def secondDraw : BlindDraw where
  msgRandomizer := List.Vector.replicate 32 0xb2
  salt := ⟨(List.range 48).map fun i => UInt8.ofNat (0x70 + i), by decide⟩
  factor := 0x10001000100010003

def secondPrepared : Bytes := List.replicate 32 0xb2 ++ secondToken.toList

def secondHash : Bytes := bytes384 0x56dbb60049f2c225ff338f03541070b2d93af8ed6eef6f0b
      0x0d72f544991bc7dea2e87bb0ce2d16dad5d780aae8e21aca

def secondSalted : Bytes := bytes384 0xfb111b85b6ab07bf20f583ede240cc302d8f61d1b8c0f61c
      0xf0d916f13c41c62b89c4f62b0c74eb702bdae0bc95bb7b80

/-- The hash function where it is needed: SHA-384 of the messages, of the salted messages, and
of the seeds of their masks. -/
def honestSha384 : Bytes → Bytes := answer [
    (honestPrepared, honestHash),
    (List.replicate 8 0 ++ honestHash ++ honestDraw.salt.toList, honestSalted),
    (honestSalted ++ [0, 0, 0, 0], bytes384 0x7db8041d2b7d72333f61fcf5772c1ad1b6751ba54610b804
      0x0b89ba3a794fea49cc482f68a6c7fb66d17eb571baf27cf6),
    (honestSalted ++ [0, 0, 0, 1], bytes384 0x9bdcea29e12c8d964fadcc50651167bf5edcebd6cb0877b1
      0x9543a466df212d07baa9a010b8da4e240605d257597970ba),
    (honestSalted ++ [0, 0, 0, 2], bytes384 0x9ab4b2bb8d53cf5eeb58799a2a4660ca0eb305d94b94010b
      0x7771b344ec2e89f2b622a985ff79eb23d1a2273457184058),
    (honestSalted ++ [0, 0, 0, 3], bytes384 0x02007d5eaacd081bcc34d2fb09d209276a65cf5c666cfd3c
      0xa8729b2663cb4dfa8c6b2c36231f0c51467c105767b1cf13),
    (honestSalted ++ [0, 0, 0, 4], bytes384 0x92553a12e1c152bb1f1e11e19b3c5a23c0a65eaa137d8216
      0xb9d6819e9b0f1116ecbe3143d499f24b41d257543cc73973),
    (secondPrepared, secondHash),
    (List.replicate 8 0 ++ secondHash ++ secondDraw.salt.toList, secondSalted),
    (secondSalted ++ [0, 0, 0, 0], bytes384 0x3f9f3650c73bb422515a6ceb7e6b6d9d6c31c5ab03167646
      0x076dc1f7e91c8a28cef39c7674bb0eb705639e823e50f3d7),
    (secondSalted ++ [0, 0, 0, 1], bytes384 0xf1943b8898422158ff3353e9a428565667300959a461697a
      0xb7efa993b47dcbc24b43f61c5ed5e0df4aec0273c5048a9c),
    (secondSalted ++ [0, 0, 0, 2], bytes384 0x1b7165728f661aefdaa9465e851d9c1851e883c8c46bb7af
      0x5bf8b6bbd55ab485e735e30aabf37fd9655eb220759360d0),
    (secondSalted ++ [0, 0, 0, 3], bytes384 0x06f4f1a402677d0f35e5e10b3289072e6096c6471c57ed83
      0x179c9491583d29e0fca2abc1e89ce8a814b4d18159ac33ed),
    (secondSalted ++ [0, 0, 0, 4], bytes384 0x584b630d8f68c5122cef496ca44e1011c48d0cffea385324
      0x47c65eb3ea1ceca28d03f0a923e094e9aa7ed91f745c3437)]
  (List.replicate 48 0)

theorem length_honestSha384 (bs : Bytes) : (honestSha384 bs).length = 48 := by
  refine forall_answer (P := fun (_ : Bytes) (hash : Bytes) => hash.length = 48) ?_ ?_ bs
  · decide +kernel
  · intro _
    exact List.length_replicate

/-- PSS for a modulus of 2048 bits, with a salt as long as the hash. -/
def honestPss : Pss.Params where
  hash := honestSha384
  hLen := 48
  sLen := 48
  emLen := 256
  zeroBits := 1
  hLen_pos := by decide
  length_hash := length_honestSha384
  fits := by decide
  zeroBits_lt := by decide

def honestEncoding : BlindRsa.Encoding honestKey.toPublicKey (List.Vector UInt8 48) :=
  honestPss.encoding honestKey.toPublicKey (by decide +kernel)

/-- The messages can be blinded with these draws. -/
theorem honestDraw_blinds : (BlindRsa.blind honestKey.toPublicKey honestEncoding honestDraw.salt
    honestDraw.factor honestPrepared).isSome := by
  decide +kernel

theorem secondDraw_blinds : (BlindRsa.blind honestKey.toPublicKey honestEncoding secondDraw.salt
    secondDraw.factor secondPrepared).isSome := by
  decide +kernel

/-! ### The third parties -/

/-- The bytes of the envelope of a proof. -/
def proofEnvelopeBytes (witness : Witness) (finalScriptSig : Option Script) : Bytes :=
  [0x70, 0x73, 0x62, 0x74, 0xff, 0x01, 0x00] ++
    Script.pushSlice (leBytes32 2 ++ 1 :: encodeTxIn ⟨OutPoint.null, [], 0, []⟩ ++
      0 :: leBytes32 0) ++ [0x00] ++
    finalScriptSig.elim [] (fun scriptSig => [0x01, 0x07] ++ Script.pushSlice scriptSig) ++
    [0x01, 0x08] ++ Script.pushSlice (encodeWitness witness) ++ [0x00]

/-- The third-party functions of the coordinator. -/
def honestExternals : Externals :=
  let E := { proofExternals with
    sha256 := answer (session.sha256 ++ proofRecording.sha256 ++ [(honestPublicKey, beVector 32
      0x037232e20a0d66b4fded4fb2a5355822577a96207f260c7d66184c9d56d50486)])
        (List.Vector.replicate 32 0) }
  let E := (E.following proofSigner proofDigests).withCompactJson.withBase64.recalling.withEnvelopes
    ([([firstProof, firstKey], none), ([secondProof, secondKey], some (0x16 :: secondRedeem))].map
      fun e => (v2Envelope e.1 e.2, proofEnvelopeBytes e.1 e.2))
  E.withBlindRsa honestSigner honestKey honestEncoding

/-- The addresses of the two participants. -/
def honestOutputAddress : Address := ⟨.signet, firstOutputScript⟩

def honestChangeAddress : Address := ⟨.signet, firstChangeScript⟩

def secondOutputAddress : Address := ⟨.signet, secondOutputScript⟩

def secondChangeAddress : Address := ⟨.signet, secondChangeScript⟩

/-- The third-party functions of the client. -/
def honestClient : ClientExternals :=
  blindRsaClient honestSigner honestKey honestEncoding honestPublicKey (answer [
    (honestOutputAddress, "tb1q0ht9tyks4vh7p5p904t340cr9nvahy7um9zdem"),
    (honestChangeAddress, "tb1qgar7sarvmkenkrmljk5slz0cn7ec0jakunmw9h"),
    (secondOutputAddress, "tb1qcsh8a7f0mdsr47zy6pj04tv4mwdumlfa6erhuq"),
    (secondChangeAddress, "tb1q0ldfeupqc9k2eaffep7cm6yml3ct3jwtyymc99")] "")

theorem honestLaws : SigningLaws honestExternals proofSigner proofDigests where
  toReadsKeys := readsKeys_of_known rfl rfl
  scriptPubkey := provingLaws.scriptPubkey
  related := provingLaws.related
  address := provingLaws.address
  segwit := provingLaws.segwit
  taproot := provingLaws.taproot
  publicKey := provingLaws.publicKey
  isXOnlyKey := provingLaws.isXOnlyKey
  ecdsa := provingLaws.ecdsa
  ecdsaWithNoncedata := provingLaws.ecdsaWithNoncedata
  schnorr := provingLaws.schnorr
  verifier := following_bip322VerifySimple _ _ _

/-- The readers of the session read what is compact JSON, hexadecimal and base64. -/
theorem recalling_withBase64 (E : Externals) :
    E.withCompactJson.withBase64.recalling = E.withCompactJson.withBase64 := by
  have hcodecs := correctCodecs_withCompactJson E
  refine recalling_eq (base64Decode_withBase64 _) (fun bs => ?_) fun sig key => ?_
  · refine (hcodecs.hexDecode _ _).mpr ?_
    rw [hexText, toList_textOf, TextCodec.hexDecode_hexEncode]
  · exact (hcodecs.jsonStringArray _ _).mpr (parse_proofText sig key)

theorem honestCodecs : CorrectCodecs honestExternals honestClient.json where
  fromText_toText := (correctCodecs_withCompactJson default).fromText_toText
  jsonStringArray s items := by
    show Externals.jsonStringArray (Externals.recalling _) s = _ ↔ _
    rw [recalling_withBase64]
    exact (correctCodecs_withCompactJson default).jsonStringArray s items
  jsonOwnershipProof := (correctCodecs_withCompactJson default).jsonOwnershipProof
  hexDecode s bs := by
    show Externals.hexDecode (Externals.recalling _) s = _ ↔ _
    rw [recalling_withBase64]
    exact (correctCodecs_withCompactJson default).hexDecode s bs

theorem honestBase64 (bs : Bytes) :
    honestExternals.base64Decode (honestExternals.base64Encode bs) = .ok bs := by
  show Externals.base64Decode (Externals.recalling _) (base64 bs) = _
  rw [recalling_withBase64]
  exact base64Decode_withBase64 _ bs

theorem honestRsa : ImplementsBlindRsa honestExternals honestClient honestSigner honestKey
    honestEncoding :=
  implementsBlindRsa_withBlindRsa honestSigner honestKey honestEncoding _ honestPublicKey _
    (.inl rfl)

/-! ### The wallets -/

/-- The wallet of the first participant, made of its key. -/
def honestWallet : RoundWallet honestExternals proofSigner where
  utxoOutpoint := firstCoin
  changeScript := firstChangeScript
  signPsbtInput _ := .error "not asked"
  utxoScriptPubkey := firstScript
  scriptType := .p2wpkh
  wifKey := some firstSecret
  externalLeafSk := none
  signToSign _ := .error "not asked"
  wif sk hsk := by
    obtain rfl := Option.some.inj hsk
    exact ⟨rfl, by decide +kernel⟩
  leaf sk hsk := absurd hsk (by simp)
  coinjoinOutputAddress := honestOutputAddress
  changeAddress := honestChangeAddress
  change := rfl

/-- The wallet of the second participant, made of a descriptor. -/
def secondWallet : RoundWallet honestExternals proofSigner where
  utxoOutpoint := secondCoin
  changeScript := secondChangeScript
  signPsbtInput _ := .error "not asked"
  utxoScriptPubkey := secondScript
  scriptType := .p2shP2wpkh
  wifKey := none
  externalLeafSk := some secondSecret
  signToSign _ := .error "not asked"
  wif sk hsk := absurd hsk (by simp)
  leaf sk hsk := by
    obtain rfl := Option.some.inj hsk
    decide +kernel
  coinjoinOutputAddress := secondOutputAddress
  changeAddress := secondChangeAddress
  change := rfl

/-! ### The round -/

/-- The material of the round. -/
def honestMaterial : RoundMaterial where
  signer := honestSigner
  skDer := honestSecretKey
  pkDer := honestPublicKey
  pkHash := honestExternals.sha256 honestPublicKey
  roundSecret := honestKeys.roundSecret

/-- The world in which the round has started. -/
def honestStart : World Coordinator Task Event :=
  worldFrom honestExternals configOfTwo (startup firstRound .new) (startMoves honestKeys)

theorem honestStart_reachable : Reachable (coordinator honestExternals configOfTwo)
    (startup firstRound .new) honestStart := worldFrom_reachable ..

theorem honestStart_round : honestStart.shared.round.phase = .inputReg ∧
    honestStart.shared.round.roundId = firstRound ∧
    honestStart.shared.round.participantCount = 0 ∧
    honestStart.shared.round.rsaPubkeyDer = some honestMaterial.pkDer ∧
    honestStart.shared.round.rsaPubkeyHash = some honestMaterial.pkHash ∧
    (honestStart.shared.round.inner.any fun inner =>
      inner.rsaSigner = some honestSigner ∧ inner.registeredInputs.entries.isEmpty) ∧
    honestStart.shared.banList.entries.entries.isEmpty := by
  decide +kernel

theorem honestStart_nodup : (mints (roundEvents honestStart.log)).Nodup := by
  decide +kernel

/-- Two participants register, and outputs are collected. -/
theorem exists_outputs : ∃ w, Reachable (coordinator honestExternals configOfTwo) honestStart w ∧
    w.shared.round.phase = .outputReg ∧ w.shared.round.roundId = firstRound ∧
    (w.shared.round.inner.any fun inner => inner.redeemedTokens = ∅) ∧
    (mints (roundEvents w.log)).Nodup := by
  refine ⟨_, worldFrom_reachable honestExternals configOfTwo honestStart
    (inputMoves 1 firstInput (unspentAnswer "0.01020000" firstScript) ++
      inputMoves 2 secondInput (unspentAnswer "0.01030000" secondScript)), ?_⟩
  decide +kernel

/-- The world in which the round ended, and another one began. -/
def honestRestart : World Coordinator Task Event :=
  worldFrom honestExternals configOfTwo honestStart
    ([.run 0 {}, .run 1 { fresh := secondRound }] ++ startMoves secondKeys)

theorem honestRestart_reachable :
    Reachable (coordinator honestExternals configOfTwo) honestStart honestRestart :=
  worldFrom_reachable ..

theorem honestRestart_round : honestRestart.shared.round.phase = .inputReg ∧
    honestRestart.shared.round.roundId = secondRound ∧
    (mints (roundEvents honestRestart.log)).Nodup ∧
    ((installs (roundEvents honestRestart.log)).map fun m =>
      honestExternals.sha256 m.2.pkDer).Nodup := by
  decide +kernel

end Blindjoin
