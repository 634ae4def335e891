import Blindjoin.Lib.Trace
import Blindjoin.System.Program

/-!
# Recorded sessions

The third-party functions are parameters of this development, so a run on
concrete inputs needs their answers. A `Blindjoin.Recording` is a list of such
answers, and `Blindjoin.Recording.externals` gives them again; what was not
recorded is answered with a refusal, or with zeros
(`Blindjoin.mem_of_answer_ne`).

The session recorded here has two participants on signet: one with a P2WPKH
coin, one with a P2SH-P2WPKH coin. It is used to show that the theorems about
all runs speak of runs that exist.
-/

namespace Blindjoin

open Interleaving TextCodec

/-! ### Answering from a table -/

/-- The recorded answer to a question, or a default. -/
def answer {α β : Type} [DecidableEq α] (table : List (α × β)) (default : β) (a : α) : β :=
  match table.find? fun entry => entry.1 = a with
  | some entry => entry.2
  | none => default

/-- **An answer that is not the default was recorded.** -/
theorem mem_of_answer_ne {α β : Type} [DecidableEq α] {table : List (α × β)} {default : β} {a : α}
    (h : answer table default a ≠ default) : (a, answer table default a) ∈ table := by
  rw [answer] at h ⊢
  split
  · next entry hfind =>
    obtain rfl : entry.1 = a := by simpa using List.find?_some hfind
    exact List.mem_of_find?_eq_some hfind
  · next hfind => simp [hfind] at h

/-- The `n` bytes of a number, most significant first. -/
def beBytes (n x : ℕ) : Bytes := (List.range n).map fun i => UInt8.ofNat (x / 256 ^ (n - 1 - i))

/-- The bytes of several numbers, thirty-two for each. -/
def beWords (xs : List ℕ) : Bytes := xs.flatMap (beBytes 32)

/-- The `n` bytes of a number, as a vector. -/
def beVector (n x : ℕ) : List.Vector UInt8 n := ⟨beBytes n x, by simp [beBytes]⟩

/-- The text of some characters, as `String.ofList` but with its bytes at hand. -/
def textOf (cs : List Char) : String where
  toByteArray := ⟨⟨cs.flatMap String.utf8EncodeChar⟩⟩
  isValidUTF8 := .intro cs (ByteArray.ext List.data_toByteArray.symm)

/-- The base64 digit of a number below sixty-four, standard alphabet. -/
def base64Digit (n : ℕ) : Char :=
  if n < 26 then Char.ofNat ('A'.toNat + n)
  else if n < 52 then Char.ofNat ('a'.toNat + (n - 26))
  else if n < 62 then Char.ofNat ('0'.toNat + (n - 52))
  else if n = 62 then '+' else '/'

/-- Base64 encoding, three bytes at a time. -/
def base64Chars : Bytes → List Char
  | a :: b :: c :: rest =>
    let n := a.toNat * 65536 + b.toNat * 256 + c.toNat
    base64Digit (n / 262144) :: base64Digit (n / 4096 % 64) :: base64Digit (n / 64 % 64) ::
      base64Digit (n % 64) :: base64Chars rest
  | [a, b] =>
    let n := a.toNat * 65536 + b.toNat * 256
    [base64Digit (n / 262144), base64Digit (n / 4096 % 64), base64Digit (n / 64 % 64), '=']
  | [a] =>
    let n := a.toNat * 65536
    [base64Digit (n / 262144), base64Digit (n / 4096 % 64), '=', '=']
  | [] => []

/-- Base64 encoding. -/
def base64 (bs : Bytes) : String := textOf (base64Chars bs)

/-- Hexadecimal encoding. -/
def hexText (bs : Bytes) : String := textOf (hexEncode bs)

/-- The consensus encoding of a witness with short elements. -/
def encodeWitness (w : Witness) : Bytes := UInt8.ofNat w.length :: w.flatMap Script.pushSlice

/-- The consensus encoding of an input, less its witness. -/
def encodeTxIn (i : TxIn) : Bytes :=
  i.previousOutput.txid.bytes.toList ++ leBytes32 i.previousOutput.vout ++
    Script.pushSlice i.scriptSig ++ leBytes32 i.sequence

/-- The consensus encoding of an output. -/
def encodeTxOut (out : TxOut) : Bytes := leBytes64 out.value ++ Script.pushSlice out.scriptPubkey

/-- The consensus encoding of a transaction with witnesses, where every length is
a single byte. -/
def encodeTransaction (tx : Transaction) : Bytes :=
  leBytes32 (UInt32.ofNat tx.version.toNat) ++ [0x00, 0x01] ++
    UInt8.ofNat tx.input.length :: tx.input.flatMap encodeTxIn ++
    UInt8.ofNat tx.output.length :: tx.output.flatMap encodeTxOut ++
    tx.input.flatMap (fun i => encodeWitness i.witness) ++ leBytes32 tx.lockTime

/-- A transaction with witnesses in hexadecimal. -/
def transactionHex (tx : Transaction) : String := hexText (encodeTransaction tx)

/-- The answer of the node to `gettxout`, for amounts written with eight decimals. -/
def txOutFromJson (v : Value) : Except String GetTxOut :=
  match v.get "value", v.get "confirmations", v.get "coinbase",
      (v.get "scriptPubKey").bind (Value.get "hex") with
  | some (.number value), some (.number confirmations), some (.bool coinbase), some (.string hex) =>
    match parseUnsigned (2 ^ 64) (value.toList.filter fun c => c ≠ '.'),
        parseUnsigned (2 ^ 32) confirmations.toList with
    | some sats, some n => .ok ⟨.ok sats, hex, n, coinbase⟩
    | _, _ => .error "invalid number"
  | _, _, _, _ => .error "missing field"

/-! ### Reading keys -/

/-- `CompressedPublicKey::from_slice` where some keys are known, and the compressed form
of some longer ones. -/
def readCompressedKey (known : List Bytes) (expanded : List (Bytes × CompressedPublicKey))
    (bs : Bytes) : Option CompressedPublicKey :=
  if h : bs.length = 33 then if known.any (· = bs) then some ⟨bs, h⟩ else none
  else answer (expanded.map fun e => (e.1, some e.2)) none bs

/-- `PublicKey::from_slice` where some keys are known. -/
def readKey (known : List Bytes) (expanded : List (Bytes × CompressedPublicKey)) (bs : Bytes) :
    Option PublicKey :=
  if bs.length = 33 then if known.any (· = bs) then some ⟨bs, true⟩ else none
  else if bs.length = 65 ∧ bs.head? = some 0x04 ∧ expanded.any fun e => e.1 = bs then
    some ⟨bs, false⟩
  else none

section ReadKey

variable {known : List Bytes} {expanded : List (Bytes × CompressedPublicKey)}

theorem readKey_toList {pubkey : CompressedPublicKey} (h : pubkey.toList ∈ known) :
    readKey known expanded pubkey.toList = some ⟨pubkey.toList, true⟩ := by
  have hknown : known.any (· = pubkey.toList) = true := by simpa using h
  rw [readKey, if_pos pubkey.toList_length, if_pos hknown]

/-- **Keys that are known are read as documented.** -/
theorem readsKeys_of_known {E : Externals}
    (hcompressed : E.compressedPublicKey = readCompressedKey known expanded)
    (hkey : E.publicKey = readKey known expanded) : E.ReadsKeys where
  compressed := by
    intro bs key h hlen
    rw [hcompressed, readCompressedKey, dif_pos hlen] at h
    split_ifs at h
    obtain rfl := Option.some.inj h
    rfl
  bytes := by
    intro bs key h
    rw [hkey, readKey] at h
    split_ifs at h with hlen hknown hlong
    · obtain rfl := Option.some.inj h
      exact ⟨rfl, fun _ => hlen, fun _ => rfl⟩
    · obtain rfl := Option.some.inj h
      exact ⟨rfl, fun h => absurd h (by simp), fun h => absurd h hlen⟩
  agree := by
    intro bs key h hlen
    rw [hkey, readKey, if_pos hlen] at h
    split_ifs at h with hknown
    exact ⟨⟨bs, hlen⟩, by rw [hcompressed, readCompressedKey, dif_pos hlen, if_pos hknown]⟩

end ReadKey

/-! ### Recordings -/

/-- What the third-party functions answered: the digests, the byte strings that
were exchanged in base64 and in hexadecimal, the texts that are JSON arrays, the blind signatures
that were made, the addresses of signet, and everything that was found valid. -/
structure Recording where
  sha256 : List (Bytes × Bytes32) := []
  hash160 : List (Bytes × Bytes20) := []
  hmacSha256 : List ((Bytes × Bytes) × Bytes32) := []
  base64Texts : List Bytes := []
  hexTexts : List Bytes := []
  jsonStringArrays : List (String × List String) := []
  blindSignatures : List ((RsaSecretKey × Bytes) × Bytes) := []
  tokens : List (RsaPublicKey × Bytes × Option Bytes32 × Bytes) := []
  addresses : List (String × Script) := []
  keys : List (Script × PublicKey) := []
  expandedKeys : List (Bytes × CompressedPublicKey) := []
  proofs : List (Script × Bytes × Witness) := []
  witnesses : List Witness := []
  sighashes : List ((Transaction × ℕ × Script × ℕ) × Bytes32) := []
  signatures : List (Bytes32 × Bytes × Bytes) := []
  transactions : List Transaction := []

/-- The third-party functions of a recording. -/
def Recording.externals (R : Recording) : Externals where
  sha256 := answer R.sha256 (List.Vector.replicate 32 0)
  hash160 := answer R.hash160 (List.Vector.replicate 20 0)
  hmacSha256 key msg := answer R.hmacSha256 (List.Vector.replicate 32 0) (key, msg)
  base64Encode := base64
  base64Decode text := match R.base64Texts.find? fun bs => base64 bs = text with
    | some bs => .ok bs
    | none => .error "Invalid symbol"
  hexDecode text := match R.hexTexts.find? fun bs => hexText bs = text with
    | some bs => .ok bs
    | none => .error "Invalid character"
  jsonStringArray text := answer (R.jsonStringArrays.map fun e => (e.1, some e.2)) none text
  jsonOwnershipProof _ := .error "expected value"
  txOutFromJson := txOutFromJson
  txidParseError _ := "bad hex string length"
  blindSign sk m := answer (R.blindSignatures.map fun e => (e.1, .ok e.2))
    (.error "message out of range") (sk, m)
  rsaVerify pk sig rand msg := (pk, sig, rand, msg) ∈ R.tokens
  addressToScript text network := if network = .signet then
      answer (R.addresses.map fun e => (e.1, .ok e.2)) (.error "base58 error") text
    else .error "wrong network"
  addressFromScript spk network := if spk.isP2wpkh ∨ spk.isP2tr ∨ spk.isP2sh then .ok ⟨network, spk⟩
    else .error "unrecognized script"
  isRelatedToPubkey address key := (address.scriptPubkey, key) ∈ R.keys
  bip322VerifySimple address msg w := if (address.scriptPubkey, msg, w) ∈ R.proofs then .ok ()
    else .error "invalid"
  compressedPublicKey := readCompressedKey (R.keys.map fun e => e.2.bytes) R.expandedKeys
  publicKey := readKey (R.keys.map fun e => e.2.bytes) R.expandedKeys
  isDerSignature sig := R.signatures.any fun e => e.2.1 = sig
  verifyEcdsa sighash sig key := (sighash, sig, key.toList) ∈ R.signatures
  isXOnlyKey _ := false
  verifySchnorr _ _ _ := false
  p2wpkhSignatureHash tx i spk value :=
    answer (R.sighashes.map fun e => (e.1, some e.2)) none (tx, i, spk, value)
  taprootSignatureHash _ _ _ _ := none
  deserializeWitness bs := match R.witnesses.find? fun w => encodeWitness w = bs with
    | some w => .ok w
    | none => .error "unexpected end of file"
  psbtDeserialize _ := .error "invalid magic"
  psbtSerialize _ := []
  extractTx psbt := .ok psbt.extracted
  serializeHex := transactionHex
  spentOutpoints text := match R.transactions.find? fun tx => transactionHex tx = text with
    | some tx => tx.input.map TxIn.previousOutput
    | none => []

/-- A session token that is not all zeros was recorded. -/
theorem Recording.mem_hmacSha256 {R : Recording} {key msg : Bytes}
    (h : R.externals.hmacSha256 key msg ≠ List.Vector.replicate 32 0) :
    ((key, msg), R.externals.hmacSha256 key msg) ∈ R.hmacSha256 := mem_of_answer_ne h

/-! ### The keys of two rounds -/

/-- The public key of the first round. -/
def firstPublicKey : Bytes := beWords [
    0x30820152303d06092a864886f70d01010a3030a00d300b060960864801650304,
    0x0202a11a301806092a864886f70d010108300b0609608648016503040202a203,
    0x0201300382010f003082010a0282010100acc60104057b95c1c09705c34b1688,
    0x7b51bd9fee9f2e7e65591d56b4f1df2ea0c2119eb9d796f3e88d84d43fc53077,
    0xe5d9f0272ab0a35e9ea8df6e032c113f02c27e5f5fae95a14de734f3b42f2e9e,
    0x13a8aa86aa33640f17b708d99ffdce78739044b2236470f4bedf1afe9aa9af05,
    0x490cecb4afadf3416b4d7aed8ce1a85f2eef544d4a1395fa9303f874fcb095e8,
    0x96b79daea12339b1b086176313d08450205b56d15c9d7e93f830db94b03a7806,
    0x5ffea0d8d776718bc0ab6b439eff07c2afba61304f7f82c2fe8ffe1cc0bc324f,
    0x7db4a64b245e8599e3f867249ba66b5f29ac6b82d59e12b53060069260a0785a] ++
  beBytes 22 0xe73f964bb4df26243ff8867cf5a9a90ef90203010001

/-- The secret key of the first round. -/
def firstSecretKey : Bytes := beWords [
    0x308204bd020100300d06092a864886f70d0101010500048204a7308204a30201,
    0x000282010100acc60104057b95c1c09705c34b16887b51bd9fee9f2e7e65591d,
    0x56b4f1df2ea0c2119eb9d796f3e88d84d43fc53077e5d9f0272ab0a35e9ea8df,
    0x6e032c113f02c27e5f5fae95a14de734f3b42f2e9e13a8aa86aa33640f17b708,
    0xd99ffdce78739044b2236470f4bedf1afe9aa9af05490cecb4afadf3416b4d7a,
    0xed8ce1a85f2eef544d4a1395fa9303f874fcb095e896b79daea12339b1b08617,
    0x6313d08450205b56d15c9d7e93f830db94b03a78065ffea0d8d776718bc0ab6b,
    0x439eff07c2afba61304f7f82c2fe8ffe1cc0bc324f7db4a64b245e8599e3f867,
    0x249ba66b5f29ac6b82d59e12b53060069260a0785ae73f964bb4df26243ff886,
    0x7cf5a9a90ef90203010001028201004d83ac52fc8ebcdaa7a85a1a8b66b9a6f2,
    0x3e6c31a7d3393c0926438f7cf0cfbfaa32338f576d4f52e7a34f82a8da9d004f,
    0xae123471f969eb2f02c71dbf38a197806128330a65f16fbd2aa1a8167f08c6f3,
    0x2646b2b7c9cd87ab43da3790ac809800830195256c14324a70970816d7023d0b,
    0x026bf261cdc06cfedf0712ecef187c7c9ca334901cf6058b398a02df29c4f0f3,
    0xeb150f3a6e294c607fbc747c5ba04ef5e958b7fb1f8d2d7eeb8e406ef9b0c981,
    0xd1831a6717282e3f761cce09d0652e7c0b193be1ee8a1326cf79b626b9f809e7,
    0x070186483bd626e40e29c2066c763e387425c3a88712c014028a214531920ec2,
    0x1d83d2314df4974f6de8e09a34857102818100f2801b4d7d079995df53867c8b,
    0x0a8e13e3900ba0e2bd8895494e3259a7fa5f15837e574487b8dbc12f83f6c2b2,
    0x5c96e70ea7b107dd6349aaa5b13d3f00a107871f71681702df946bcde0e3aecb,
    0xb07314e0a680c2c03a6576e005e3e2df36ad47d43c53455bd58c67a1352606a3,
    0xb9c6198e164a2fdeb7e40a87d6fac3e330851d02818100b664366f1a69b911ae,
    0x0ad4e1d782a0eeb20ffa9f173ad1e7b8e7f7f3156d48493956e1ead8d250beca,
    0xdd59448b1c20157e7dc8a3cf8b9f3e394d27c3719ca471b42e421abc2835bdd2,
    0x7372d0c212eeab17eb8d3709571eea1ec0adc0b9c6a9ef93d122a0904bbd8d6b,
    0xb54ef5af3b24f26f05d5e6ec74d9f053b9bc745a98568d0281803ef1b7a48666,
    0x999c084ad2e6b2e47b7a781fe494cf25e934eec1285a933a6ec1d3ced0720e54,
    0x925df3aa6a3ba1365d48fe49d2aebaed51aac4b55bb365c36683d14a8b7d2596,
    0xc91cae64c8548fb46e3aa61131ecdb1e8d45ace27a8361f2fc495fb284dec4f6,
    0x8a2a3ff2debaec7685100f0c841726d54e90d92f99098d8803950281800d2ee7,
    0x2456b36796188f5dddc916ff0ce1bff7ec81e05585bb3ec11447eb333b5fb2a0,
    0xf7b99e5209c85e0172cbdf478e662b2f526fd0f6bca7a5a5072272210cbaea51,
    0x0adfa8c461a911812e07a918a9333c6a639d003812d210393ee1eeb31fc6fe69,
    0xd3533ab643bf924657c9c7ab9efe595ca1a95bb4d903243cb3e84c748d028181,
    0x00f1dfda9f8c0575cdba46df88ed34e9d59df9f367303b454b06c85cf9e059e7,
    0x2f97db8284c3669efcafdadc32757e6618557bbbd8d47a78240cb779ba5007e6,
    0x700dc8f955a9666a5d6c8e5583c906a1d13680ee51250acf5fc4870fc6f82ef0,
    0xe726568b9680d888d2b58c0a9f4ea7db4a95ccbee7b0d679e903b4dfe6cdb16a] ++
  beBytes 1 0x46

/-- The public key of the second round. -/
def secondPublicKey : Bytes := beWords [
    0x30820152303d06092a864886f70d01010a3030a00d300b060960864801650304,
    0x0202a11a301806092a864886f70d010108300b0609608648016503040202a203,
    0x0201300382010f003082010a028201010091222b1f703a3eb2a8fe1b59acc407,
    0x535250763782362286fe534c0f68d8699595a05300f29addd2f19e6665df3419,
    0x59653be7707a764ad9f28f377adba1485af5960d302a4cf9f2dae5b80665ca76,
    0x934da7685d6763c4871e2607207465e271c6786916560e01298a28ae1a7b251e,
    0x21ae88eff9504db16a51a0b7b15ad650f8bce1e3e3d56948330545026b63ff01,
    0x35b17d9bd841334f1e9a3afab3f62446241d202d5e874a8a293f21324f76b0ba,
    0xf4bed0430b0a92b5252ae69d8a74874c39b445ce3d0045b9ec51a92d860476e8,
    0x0881812ad791be5e118b6b2751ff4b114924537b2426ae741880243260e6203c] ++
  beBytes 22 0xe283a269612bfeac972152466321c3c13d0203010001

/-- The secret key of the second round. -/
def secondSecretKey : Bytes := beWords [
    0x308204bc020100300d06092a864886f70d0101010500048204a6308204a20201,
    0x00028201010091222b1f703a3eb2a8fe1b59acc407535250763782362286fe53,
    0x4c0f68d8699595a05300f29addd2f19e6665df341959653be7707a764ad9f28f,
    0x377adba1485af5960d302a4cf9f2dae5b80665ca76934da7685d6763c4871e26,
    0x07207465e271c6786916560e01298a28ae1a7b251e21ae88eff9504db16a51a0,
    0xb7b15ad650f8bce1e3e3d56948330545026b63ff0135b17d9bd841334f1e9a3a,
    0xfab3f62446241d202d5e874a8a293f21324f76b0baf4bed0430b0a92b5252ae6,
    0x9d8a74874c39b445ce3d0045b9ec51a92d860476e80881812ad791be5e118b6b,
    0x2751ff4b114924537b2426ae741880243260e6203ce283a269612bfeac972152,
    0x466321c3c13d0203010001028201004be96a52d459b2c7b23acf45756747499e,
    0xa9755c0d609168b8880b25983a71e78acec3fb9fe9bf1301cc4f55038d75a0db,
    0xa19ca9a9744c2c7981cd8c166ae2b4a8f5e64a0626232a92b24b321575f3d592,
    0x6d78da3a24e5fba29a5369f757ff3c718a33b53a27b315ee2cdefbfce36a4245,
    0xcf5c6db4421f053452f321f2185d5b232f33b92873faef3ccba81a23c7bb1e71,
    0xd826760a2401a5ec0eda16ca27f0235a74f4ec1e4732341ab08ba53def033ddd,
    0xa08bd79e8108dfff9bc31a7e2b38a2108888463af1b5a5ce4bedbab867bbc9bc,
    0x1fb4b946dab104ea17911faae198e62c074e00bbcb3f7ae0bd9263eb9066fcf7,
    0x9375c369cc21ce06dd2dbfed6f234102818100cd31aef3080007a24d0267007c,
    0x0f04a5b42428c91a3203db3f89ed129d11a1d0894932c53274d12bed9a30df89,
    0xf510c71e81a2d120335f678a5946099fa9d4ea8fa11bae8f885a4ce052e74a57,
    0xa2ea10b4ec9f544471db5eedd129a15bebd918a19f5f6e3cbc28fde1fa25d9f1,
    0x75e2d897c02544210dcc9a615d77f3a562eb1102818100b511846803cb03bc5b,
    0xa9e4601214c0bfb7fef4b27042747af1162407a500d9c23e466c473b952fd99b,
    0x4ec0cf4230601865319dbcf4c91a6bcf68b0bceed7655c71506db5a1a9f59dc9,
    0x03cbcf891cb3487e3104b2c7ade92bbd8a03d9757c5c9d0028370b2dd30d595d,
    0x0805eddc02bf721ae6669fe70f590f36a920939f6cfb6d028180284fa96a0f59,
    0x4a26a5706261e2fd645155698125b8e2b8853b1f5296c48ab13a71ae12ae50f2,
    0x482194252592d4dc73365b14e6b2a4dbd2d359879e4dc7b32aa406218579aeb2,
    0xffe278737102d6e2a78f2eac09c5194930ea9e57e810ce293056397240e23c46,
    0x4edb49a8c604e1fde1d9e13e1b541e1642ead553f27bc832fdb10281805af115,
    0x6378a43a981c21d4463c4e9810b2c526f98850985837463b8a6b6165fd9d7199,
    0x689d906c9c0ad91f15f9d47a2f46840909a2986ee0bf2781bd22e8a44c2dcd8b,
    0x8cb249bec724f2f726a162fcd8e8288e878caad875d398c21e3257e7dc22fc0f,
    0xc95996ab19bb1410864afe465175194b69fc8f44d7d34856c84e465a71028180,
    0x7a2a4dca330623ce7d478fc54f85b84ee7f9599e70e6d6d05c673f7ce9ce2c3f,
    0xd8cf53bd58c1946137e447e1b47f6961cbe7d12e79b4f5507db2ee72d79a54d4,
    0x4b70f395c7489fb21b5f929c5670fea3e44859043a525cf508ad362472d17b0c,
    0x809bd4346cdf64efc561aea90b2bef17a66c26b1d324fd0a13df5dcbb1ef2c56]

/-- The signature of the first token, unblinded. -/
def firstTokenSig : Bytes := beWords [
    0x96e2efd679123da3e1c64930f4cc03d9126580863c328ac164ecd070f6f7ffbd,
    0x3796822e388047ef48268debe2f384d0243c77e78240a25b4d4154b56b85cfb8,
    0xd236a67a6f68472591b36f207c861d01e93f128bb02acd9cb93eda90c3c0628a,
    0xf0d84ec0bdee0de14708a7da918e8aa573a2178c7ba07c23ef1a568541d46edb,
    0x1b3fc376d7d03b38aa1d0025aba134b31001e317ce557cb184465b088bc63537,
    0xdc8e0b55ac02d4ba8426e973282b3ab752006ec2b7397f50f543717253ceae44,
    0xda62053ccd95f13603cc7e3c8c9afcc1c5e2e83d974c1313b26e18229473891b,
    0x969ef894a21dedeb92ba8053f717dc5bac7797870153da9d16f2f674b5efe162]

/-- The signature of the second token, unblinded. -/
def secondTokenSig : Bytes := beWords [
    0x34cfcaae518fab2e893dbc833292b737f92a61710cfe5218d1e39a5330e18a40,
    0x8a231d7b0d8f99b40766cf16b169aead3f5c785393f32091fee89cf3887c64be,
    0x95360feb35f0854952f0154452ce4cf8b7369ce6d6724cc2df4f3c8bc03dbbf9,
    0xe81e69d232eed3586bb0ea5e508f3e1d9219df41e6c0d0f2d8e9c743c777284b,
    0x70a444cf3a69921a469760a6b04c23d9a3edab3dd061049fcbc6549da3f09394,
    0x9d428d6fcaf36ae7063e5463b8fc1ab5ccfb78d84cbabdfad473c4b4f48761c6,
    0x5875f650955b6c508323bbf9d32b5071b91e8b6837fc95d53e8d33c41491a616,
    0xca58bb1358fd7d8f786623fe02ff4fb1c7b6219698762ff50425315b8e1ab2cf]

/-- The key generator in the first round. -/
def firstKeys : KeyGenDraw where
  keypair := .ok ⟨⟨firstPublicKey⟩, ⟨firstSecretKey⟩⟩
  skDer := .ok firstSecretKey
  pkDer := .ok firstPublicKey
  roundSecret := List.Vector.replicate 32 0xa1

/-- The key generator in the second round. -/
def secondKeys : KeyGenDraw where
  keypair := .ok ⟨⟨secondPublicKey⟩, ⟨secondSecretKey⟩⟩
  skDer := .ok secondSecretKey
  pkDer := .ok secondPublicKey
  roundSecret := List.Vector.replicate 32 0xa2

/-- The id of the first round. -/
def firstRound : Uuid := beVector 16 0x11111111111141118111111111111111

/-- The id of the second round. -/
def secondRound : Uuid := beVector 16 0x22222222222242228222222222222222

/-! ### Two participants -/

/-- The coin of the participant with a P2WPKH coin. -/
def firstCoin : OutPoint := ⟨⟨List.Vector.replicate 32 0x11⟩, 0⟩

/-- The coin of the participant with a P2SH-P2WPKH coin. -/
def secondCoin : OutPoint := ⟨⟨List.Vector.replicate 32 0x22⟩, 1⟩

/-- The public keys of the two participants. -/
def firstKey : Bytes := beWords [
    0x0279be667ef9dcbbac55a06295ce870b07029bfcdb2dce28d959f2815b16f817] ++
  beBytes 1 0x98

def secondKey : Bytes := beWords [
    0x02c6047f9441ed7d6d3045406e95c07cd85c778e4b8cef3ca7abac09b95c709e] ++
  beBytes 1 0xe5

theorem length_secondKey : secondKey.length = 33 := by decide

/-- The script of the first coin. -/
def firstScript : Script := beBytes 22 0x0014751e76e8199196d454941c45d1b3a323f1433bd6

/-- The script of the second coin, and the redeem script it commits to. -/
def secondScript : Script := beBytes 23 0xa914978a0121f9a24de65a13bab0c43c3a48be074eae87

def secondRedeem : Script := 0x00 :: 0x14 :: beBytes 20 0x06afd46bcdfd22ef94ac122aa11f241244a37ecc

/-- The ownership proofs of the two participants, for the first round. -/
def firstProof : Bytes := beWords [
    0x3044022021268a65c6d414c76aef0ff92c73db81061445a4fb8f54c2e46ed418,
    0xa8caef7b022019b47baafcb8acb77cf81448394ea11e30e75d3383c61e0587df] ++
  beBytes 7 0xaf1d528aa6c901

def secondProof : Bytes := beWords [
    0x304502210095556a0da157df916c9ee5714bb1a118ec1d1b7518b7cbb8ec187e,
    0x48463232be022041b3745831a1060d26f1790b1c65d283e8756794c58936c415] ++
  beBytes 8 0xd237bec1fedecb01

/-- The signatures of the two participants, in DER. -/
def firstSig : Bytes := beWords [
    0x3045022100ad82fe06ea47092c9b1e47411fb4365072dcc841cc57b1cb710837,
    0xf52cd5c9eb022002d1b5f6607a9fd9ac5bbc3c1b66d00b95ad5a719f22bbeceb] ++
  beBytes 7 0x3769fd3ebf2993

def secondSig : Bytes := beWords [
    0x304402201219dfe928ea27ab6e6b11926b507257662c6688916da172ac32b893,
    0x8dea63aa0220286b1a90af5a3faf8cfa5576837c74f4a4b5a55ed8807305ea7e] ++
  beBytes 6 0x60ba34870614

/-- A blinded token. Its blind signature is itself, under every key. -/
def blindedToken : Bytes := List.replicate 255 0 ++ [1]

/-- An ownership proof on the wire. -/
def proofText (sig key : Bytes) : String :=
  textOf (['[', '"'] ++ hexEncode sig ++ ['"', ',', '"'] ++ hexEncode key ++ ['"', ']'])

/-- The registration of the first participant. -/
def firstInput : InputRegRequest where
  utxoOutpoint := firstCoin.toText
  ownershipProof := proofText firstProof firstKey
  blindedToken := base64 blindedToken
  changeAddress := "tb1qgar7sarvmkenkrmljk5slz0cn7ec0jakunmw9h"

/-- The registration of the second participant. -/
def secondInput : InputRegRequest where
  utxoOutpoint := secondCoin.toText
  ownershipProof := proofText secondProof secondKey
  blindedToken := base64 blindedToken
  changeAddress := "tb1q0ldfeupqc9k2eaffep7cm6yml3ct3jwtyymc99"

/-- The messages of the two tokens. -/
def firstToken : Bytes32 := beVector 32
  0x5d0c45e6aabae879589f85de1031f7b5d93459af03534c37204713fc7bc89f98

def secondToken : Bytes32 := beVector 32
  0x9168db61aa9ee1d49671cbb7d768c8e45f62df62bccc8041d55a4e604c733b7c

/-- The first output. -/
def firstOutput : OutputRegRequest where
  unblindedToken := base64 firstToken.toList
  signature := base64 firstTokenSig
  outputAddress := "tb1q0ht9tyks4vh7p5p904t340cr9nvahy7um9zdem"
  amountSats := 1000000
  msgRandomizer := some (base64 (List.replicate 32 0xb1))

/-- The second output. -/
def secondOutput : OutputRegRequest where
  unblindedToken := base64 secondToken.toList
  signature := base64 secondTokenSig
  outputAddress := "tb1qcsh8a7f0mdsr47zy6pj04tv4mwdumlfa6erhuq"
  amountSats := 1000000
  msgRandomizer := some (base64 (List.replicate 32 0xb2))

/-- The session tokens of the two participants in the first round. -/
def firstSession : Bytes32 := beVector 32
  0x79b45abb69706515cadcdf2e0945db854c6ed0368fb1436bed8bd543971e1fd1

def secondSession : Bytes32 := beVector 32
  0x961ec393c700bdada6c544393739acc530db7fa00a2378463f70de1e96515bf2

/-- The submission of the first participant. -/
def firstSign : SignRequest where
  roundId := firstRound
  utxoOutpoint := firstCoin.toText
  partialSignature := base64 (encodeWitness [firstSig ++ [0x01], firstKey])
  sessionToken := base64 firstSession.toList

/-- The submission of the second participant. -/
def secondSign : SignRequest where
  roundId := firstRound
  utxoOutpoint := secondCoin.toText
  partialSignature := base64 (encodeWitness [secondSig ++ [0x01], secondKey])
  sessionToken := base64 secondSession.toList

/-! ### The transaction -/

/-- The scripts of the two outputs. -/
def firstOutputScript : Script := beBytes 22 0x00147dd65592d0ab2fe0d0257d571abf032cd9db93dc

def secondOutputScript : Script := beBytes 22 0x0014c42e7ef92fdb603af844d064faad95db9bcdfd3d

/-- The scripts of the two change outputs. -/
def firstChangeScript : Script := beBytes 22 0x00144747e8746cddb33b0f7f95a90f89f89fb387cbb6

def secondChangeScript : Script := beBytes 22 0x00147fda9cf020c16cacf529c87d8de89bfc70b8c9cb

/-- The transaction of the two participants, with the given scripts and witnesses. -/
def jointTx (firstWitness secondWitness : Witness) (secondScriptSig : Script) : Transaction where
  version := 2
  lockTime := 0
  input := [⟨firstCoin, [], sequenceEnableRbfNoLocktime, firstWitness⟩,
    ⟨secondCoin, secondScriptSig, sequenceEnableRbfNoLocktime, secondWitness⟩]
  output := [⟨1000000, firstOutputScript⟩, ⟨1000000, secondOutputScript⟩,
    ⟨19707, firstChangeScript⟩, ⟨29707, secondChangeScript⟩]

/-- The final transaction. -/
def finalTx : Transaction :=
  jointTx [firstSig ++ [0x01], firstKey] [secondSig ++ [0x01], secondKey] (0x16 :: secondRedeem)

/-- Another signature of the first participant. -/
def otherSig : Bytes := beWords [
    0x3044022075c04b17b0c21eb813cab44edcc7fc92e41a5ea6f64e18dd9413dcd8,
    0x24c81a5902206f28ff42205f8ad43e196ab752e98f33895de34c3b499532f894] ++
  beBytes 7 0xcc519872e06501

/-- Another transaction that spends the first coin. -/
def otherTx : Transaction where
  version := 2
  lockTime := 0
  input := [⟨firstCoin, [], sequenceEnableRbfNoLocktime, [otherSig, firstKey]⟩]
  output := [⟨1019000, firstChangeScript⟩]

/-! ### The session -/

/-- What was recorded. -/
def session : Recording where
  sha256 := [
    (firstPublicKey, beVector 32
      0xa9615e89d1235ff6b9b95ac8fd8608a009d7eaf046d6ee5b9a1d40606b4b0da1),
    (secondPublicKey, beVector 32
      0xb62d7cb6d5f8304f9222ae43853cdfb3d4f42db64af2be180273d9adc1bbb2a5),
    (utf8 firstCoin.toText, beVector 32
      0x482b1359cc2263f8ae50f1a76a93e2675d6857ec7a7ee0da858e48a00308105c),
    (utf8 secondCoin.toText, beVector 32
      0x85d68e1dd53a1ea470103ef451a9028d1012f6b6baebefd7f8b4f820dd467e99),
    (utf8 "blindjoin-v1" ++ firstOutputScript ++ leBytes64 1000000, firstToken),
    (utf8 "blindjoin-v1" ++ secondOutputScript ++ leBytes64 1000000, secondToken)]
  hash160 := [
    (firstKey, beVector 20 0x751e76e8199196d454941c45d1b3a323f1433bd6),
    (secondKey, beVector 20 0x06afd46bcdfd22ef94ac122aa11f241244a37ecc),
    (secondRedeem, beVector 20 0x978a0121f9a24de65a13bab0c43c3a48be074eae)]
  hmacSha256 := [
    ((List.replicate 32 0xa1, sessionMessage firstCoin), firstSession),
    ((List.replicate 32 0xa1, sessionMessage secondCoin), secondSession),
    ((List.replicate 32 0xa2, sessionMessage firstCoin), beVector 32
      0x819aef2f42a378778248b86413b57f10e70c0c655d490460cc3cb800c2b00222)]
  base64Texts := [blindedToken, firstToken.toList, secondToken.toList, firstTokenSig,
    secondTokenSig, List.replicate 32 0xb1, List.replicate 32 0xb2, firstSession.toList,
    secondSession.toList, encodeWitness [firstSig ++ [0x01], firstKey],
    encodeWitness [secondSig ++ [0x01], secondKey]]
  hexTexts := [firstScript, secondScript, firstProof, firstKey, secondProof, secondKey]
  jsonStringArrays := [
    (proofText firstProof firstKey,
      [hexText firstProof, hexText firstKey]),
    (proofText secondProof secondKey,
      [hexText secondProof, hexText secondKey])]
  blindSignatures := [
    ((⟨firstSecretKey⟩, blindedToken), blindedToken),
    ((⟨secondSecretKey⟩, blindedToken), blindedToken)]
  tokens := [
    (⟨firstPublicKey⟩, firstTokenSig, some (List.Vector.replicate 32 0xb1), firstToken.toList),
    (⟨firstPublicKey⟩, secondTokenSig, some (List.Vector.replicate 32 0xb2), secondToken.toList)]
  addresses := [
    ("tb1q0ht9tyks4vh7p5p904t340cr9nvahy7um9zdem", firstOutputScript),
    ("tb1qcsh8a7f0mdsr47zy6pj04tv4mwdumlfa6erhuq", secondOutputScript),
    ("tb1qgar7sarvmkenkrmljk5slz0cn7ec0jakunmw9h", firstChangeScript),
    ("tb1q0ldfeupqc9k2eaffep7cm6yml3ct3jwtyymc99", secondChangeScript)]
  keys := [(firstScript, ⟨firstKey, true⟩), (secondScript, ⟨secondKey, true⟩)]
  proofs := [
    (firstScript, utf8 (ownershipMessage firstRound.toText firstCoin), [firstProof, firstKey]),
    (secondScript, utf8 (ownershipMessage firstRound.toText secondCoin), [secondProof, secondKey])]
  witnesses := [[firstSig ++ [0x01], firstKey], [secondSig ++ [0x01], secondKey]]
  sighashes := [
    ((jointTx [] [] [], 0, firstScript, 1020000), beVector 32
      0x0ceb489c77ed28059ef94337a7331e1d312889ea391886c3919ae9eb3f9a2dc5),
    ((jointTx [] [] [], 1, secondRedeem, 1030000), beVector 32
      0x28f26850bdc62ad5d9f48498dd08a40d9a139c91e837ed863766a4845b7dfffd)]
  signatures := [
    (beVector 32 0x0ceb489c77ed28059ef94337a7331e1d312889ea391886c3919ae9eb3f9a2dc5,
      firstSig, firstKey),
    (beVector 32 0x28f26850bdc62ad5d9f48498dd08a40d9a139c91e837ed863766a4845b7dfffd,
      secondSig, secondKey)]
  transactions := [finalTx, otherTx]

/-- A configuration for rounds of two. -/
def configOfTwo : CoordinatorConfig :=
  { CoordinatorConfig.withDefaults with
    coordinator := { CoordinatorConfig.withDefaults.coordinator with
      minParticipants := 2
      maxParticipants := 2 } }

/-- The moves of a session. -/
abbrev Move := Action Task Choice

/-- The answer of the node to `gettxout` for an unspent output. -/
def unspentAnswer (value : String) (spk : Script) : HttpAnswer :=
  .response (.object [("value", .number value), ("confirmations", .number "6"),
    ("coinbase", .bool false),
    ("scriptPubKey", .object [("hex", .string (hexText spk))])]) none

/-- The answer of the node to `gettxout` for a spent one. -/
def spentAnswer : HttpAnswer := .response .null none

/-- The monitor starts a round. -/
def startMoves (draw : KeyGenDraw) : List Move :=
  [.run 0 {}, .run 0 { now := 1760000000 }, .run 0 { keygen := some draw }, .run 0 {}]

/-- A registration, up to the point where it takes the write lock. -/
def validateMoves (i : ℕ) (req : InputRegRequest) (a : HttpAnswer) : List Move :=
  [.arrive (.postInput req .received), .run i {}, .run i { now := 1760000001 }, .run i {},
    .run i { answer := a }]

/-- A registration. -/
def inputMoves (i : ℕ) (req : InputRegRequest) (a : HttpAnswer) : List Move :=
  validateMoves i req a ++ [.run i {}]

/-- An output registration. -/
def outputMoves (i : ℕ) (req : OutputRegRequest) : List Move :=
  [.arrive (.postOutput req .received), .run i {}, .run i {}]

/-- The registered inputs of the session, in the order they are iterated. -/
def sessionValues : List RegisteredInput :=
  [⟨secondCoin.toText, secondInput.changeAddress, secondScript, 1030000, .p2shP2wpkh⟩,
    ⟨firstCoin.toText, firstInput.changeAddress, firstScript, 1020000, .p2wpkh⟩]

/-- The orders the registered inputs are iterated in while they are signed for. -/
def sessionIteration : SignIteration :=
  ⟨sessionValues, sessionValues, [firstCoin.toText, secondCoin.toText]⟩

/-- A signature submission. -/
def signMoves (i : ℕ) (req : SignRequest) : List Move :=
  [.arrive (.postSign req .received), .run i { iter := sessionIteration },
    .run i { iter := sessionIteration }]

/-- The session up to signing. -/
def signingMoves : List Move :=
  startMoves firstKeys ++ inputMoves 1 firstInput (unspentAnswer "0.01020000" firstScript) ++
    inputMoves 2 secondInput (unspentAnswer "0.01030000" secondScript) ++
    outputMoves 3 firstOutput ++ outputMoves 4 secondOutput

/-- The session up to the first signature. -/
def oneSignedMoves : List Move := signingMoves ++ signMoves 5 firstSign

/-- The session up to broadcast. -/
def broadcastMoves : List Move := oneSignedMoves ++ signMoves 6 secondSign

/-- A round ends with too few participants, and the next one begins. -/
def restartMoves : List Move :=
  startMoves firstKeys ++ [.run 0 {}, .run 1 { fresh := secondRound }] ++ startMoves secondKeys

/-- The broadcast the session makes ready. -/
def sessionBroadcast : PreparedBroadcast :=
  ⟨transactionHex finalTx, [firstCoin.toText, secondCoin.toText]⟩

/-- The answer of the node to `testmempoolaccept` for a transaction it would take. -/
def allowedAnswer : HttpAnswer := .response (.array [.object [("allowed", .bool true)]]) none

/-- The answer of the node to `testmempoolaccept` for a transaction it would not take. -/
def rejectedAnswer (reason : String) : HttpAnswer :=
  .response (.array [.object [("allowed", .bool false), ("reject-reason", .string reason)]]) none

/-- The world after some moves, when they are possible and every section they run meets
`ok`. -/
def worldBy (E : Externals) (config : CoordinatorConfig) (moves : List Move)
    (ok : Coordinator → Task → Choice → Bool) : World Coordinator Task Event :=
  ((coordinator E config).run ok (startup firstRound .new) moves).getD (startup firstRound .new)

theorem worldBy_reachableVia (E : Externals) (config : CoordinatorConfig) (moves : List Move)
    (ok : Coordinator → Task → Choice → Bool) :
    ReachableVia (coordinator E config) (fun s t c => ok s t c = true) (startup firstRound .new)
      (worldBy E config moves ok) := by
  rw [worldBy]
  cases hrun : (coordinator E config).run ok (startup firstRound .new) moves with
  | none => exact .refl
  | some w => exact ReachableVia.refl.of_run hrun

/-- The world after some moves of the session, when they are possible and every
section they run meets `ok`. -/
def worldAfter (moves : List Move) (ok : Coordinator → Task → Choice → Bool := fun _ _ _ => true) :
    World Coordinator Task Event :=
  ((coordinator session.externals configOfTwo).run ok (startup firstRound .new) moves).getD
    (startup firstRound .new)

theorem worldAfter_reachableVia (moves : List Move) (ok : Coordinator → Task → Choice → Bool) :
    ReachableVia (coordinator session.externals configOfTwo) (fun s t c => ok s t c = true)
      (startup firstRound .new) (worldAfter moves ok) :=
  worldBy_reachableVia session.externals configOfTwo moves ok

theorem worldAfter_reachable (moves : List Move) :
    Reachable (coordinator session.externals configOfTwo) (startup firstRound .new)
      (worldAfter moves) :=
  (worldAfter_reachableVia moves _).reachable

/-- The world after some moves of the session, under another configuration. -/
def worldWith (config : CoordinatorConfig) (moves : List Move) : World Coordinator Task Event :=
  ((coordinator session.externals config).run (fun _ _ _ => true) (startup firstRound .new)
    moves).getD (startup firstRound .new)

theorem worldWith_reachable (config : CoordinatorConfig) (moves : List Move) :
    Reachable (coordinator session.externals config) (startup firstRound .new)
      (worldWith config moves) :=
  (worldBy_reachableVia session.externals config moves _).reachable

/-- A section of a run of the coordinator. -/
abbrev Step := Taken Coordinator Task Choice Event

/-- The run some moves make from the start, with its sections. -/
def recorded (E : Externals) (config : CoordinatorConfig) (moves : List Move) :
    List Step × World Coordinator Task Event :=
  ((coordinator E config).record ([], startup firstRound .new) moves).getD
    ([], startup firstRound .new)

theorem recorded_ran (E : Externals) (config : CoordinatorConfig) (moves : List Move) :
    Ran (coordinator E config) (startup firstRound .new) (recorded E config moves).1
      (recorded E config moves).2 := by
  rw [recorded]
  cases hrec : (coordinator E config).record ([], startup firstRound .new) moves with
  | none => exact .refl
  | some r => exact Ran.refl.of_record hrec

/-- What a round is built into, its inputs iterated in the order `values`, passes a test. -/
def RoundState.buildPasses {ε α : Type} (s : RoundState) (values : List RegisteredInput)
    (build : RoundStateInner → Except ε α) (test : α → Bool) : Bool :=
  s.inner.any fun inner =>
    decide (values.Perm inner.registeredInputs.values) && (build inner).toOption.any test

theorem RoundState.exists_of_buildPasses {ε α : Type} {s : RoundState}
    {values : List RegisteredInput} {build : RoundStateInner → Except ε α} {test : α → Bool}
    (h : s.buildPasses values build test = true) :
    ∃ inner a, s.inner = some inner ∧ values.Perm inner.registeredInputs.values ∧
      build inner = .ok a ∧ test a = true := by
  obtain ⟨inner, hinner, hboth⟩ := (Option.any_eq_true _ _).mp h
  obtain ⟨hperm, hbuilt⟩ := Bool.and_eq_true_iff.mp hboth
  obtain ⟨a, ha, htest⟩ := (Option.any_eq_true _ _).mp hbuilt
  exact ⟨inner, a, hinner, of_decide_eq_true hperm, toOption_eq_some.mp ha, htest⟩

theorem configOfTwo_validate : configOfTwo.validate = .ok () := by decide +kernel

/-- The session reaches signing. -/
theorem signing_reached : (worldAfter signingMoves).shared.round.phase = .signing := by
  decide +kernel

end Blindjoin
