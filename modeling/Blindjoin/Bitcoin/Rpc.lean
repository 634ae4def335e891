import Blindjoin.Bitcoin.Transaction

/-!
# The answers of the Bitcoin node

A call of the node's JSON-RPC interface comes back as one of the
`Blindjoin.HttpAnswer`s: it timed out, could not be sent, had a body that is no
response, or had a response with a result or an error. What a caller sees of it
is fixed by `Blindjoin.rpcCall` and the four calls built on it. In particular a
call whose answer is an error for the caller may nevertheless have been executed
by the node.
-/

namespace Blindjoin

/-- A JSON value. A number is kept as the text it was written as. -/
inductive Value
  | null
  | bool (b : Bool)
  | number (text : String)
  | string (s : String)
  | array (items : List Value)
  | object (fields : List (String × Value))

namespace Value

def isNull : Value → Bool
  | .null => true
  | _ => false

def asBool : Value → Option Bool
  | .bool b => some b
  | _ => none

def asStr : Value → Option String
  | .string s => some s
  | _ => none

def asArray : Value → Option (List Value)
  | .array items => some items
  | _ => none

/-- The member of an object under a key. -/
def get (key : String) : Value → Option Value
  | .object fields => (fields.find? fun f => f.1 == key).map Prod.snd
  | _ => none

end Value

/-- Why a call of the node failed, for its caller. -/
inductive RpcError
  | http (message : String)
  | rpc (code : Int) (message : String)
  | parse (message : String)
  | broadcastRejected (reason : String)
  | unreachable (message : String)
deriving DecidableEq

/-- The `Display` text of a failed call. -/
def RpcError.toText : RpcError → String
  | .http m => s!"HTTP error: {m}"
  | .rpc code m => s!"RPC error code {code}: {m}"
  | .parse m => s!"Parse error: {m}"
  | .broadcastRejected reason => s!"Broadcast rejected: {reason}"
  | .unreachable m => s!"Bitcoin Core unreachable: {m}"

/-- What comes back from one HTTP request to the node. -/
inductive HttpAnswer
  | timedOut
  | sendFailed (message : String)
  | badBody (message : String)
  | response (result : Value) (error : Option (Int × String))

/-- `BitcoinRpc::call`: the result of a call, or why there is none. -/
def rpcCall (method : String) : HttpAnswer → Except RpcError Value
  | .timedOut => .error (.unreachable s!"Bitcoin Core RPC timed out after 10s ({method})")
  | .sendFailed m => .error (.unreachable m)
  | .badBody m => .error (.http m)
  | .response _ (some (code, m)) =>
    -- missing inputs or rejected, below the minimum fee, already in the mempool
    if code = -25 ∨ code = -26 ∨ code = -27 then .error (.broadcastRejected m)
    else .error (.rpc code m)
  | .response result none => .ok result

/-- A call has a result exactly when a response came back with this one and no error. -/
theorem rpcCall_eq_ok {method : String} {answer : HttpAnswer} {result : Value} :
    rpcCall method answer = .ok result ↔ answer = .response result none := by
  constructor
  · intro h
    match answer, h with
    | .response result' none, h =>
      obtain rfl := Except.ok.inj h
      rfl
    | .response result' (some (code, m)), h =>
      rw [rpcCall] at h
      split_ifs at h
  · rintro rfl
    rfl

/-- What `gettxout` says of an unspent output. The amount arrives as a floating
point number of bitcoins; `value` is what `Amount::from_btc` makes of it. -/
structure GetTxOut where
  value : Except String ℕ
  scriptPubkeyHex : String
  confirmations : ℕ
  coinbase : Bool

/-- `BitcoinRpc::gettxout`: `none` if the output is spent or does not exist. -/
def gettxout (fromJson : Value → Except String GetTxOut) (answer : HttpAnswer) :
    Except RpcError (Option GetTxOut) :=
  match rpcCall "gettxout" answer with
  | .error e => .error e
  | .ok result =>
    if result.isNull then .ok none
    else match fromJson result with
      | .error e => .error (.parse e)
      | .ok txout => .ok (some txout)

/-- `BitcoinRpc::is_output_unspent_including_mempool`. -/
def isOutputUnspentIncludingMempool (answer : HttpAnswer) : Except RpcError Bool :=
  match rpcCall "gettxout" answer with
  | .error e => .error e
  | .ok result => .ok (!result.isNull)

/-- An output is found spent exactly when the result is null. -/
theorem isOutputUnspentIncludingMempool_eq_false {answer : HttpAnswer} :
    isOutputUnspentIncludingMempool answer = .ok false ↔ answer = .response .null none := by
  rw [isOutputUnspentIncludingMempool]
  constructor
  · intro h
    split at h
    · exact absurd h (by simp)
    · next result hresult =>
      obtain rfl := rpcCall_eq_ok.mp hresult
      cases result <;> first | rfl | exact absurd h (by simp [Value.isNull])
  · rintro rfl
    rfl

/-- Whether an output is unspent is not known exactly when no result came back. -/
theorem exists_isOutputUnspentIncludingMempool_eq_error {answer : HttpAnswer} :
    (∃ e, isOutputUnspentIncludingMempool answer = .error e) ↔
      ∀ result, answer ≠ .response result none := by
  rw [isOutputUnspentIncludingMempool]
  constructor
  · rintro ⟨e, h⟩ result rfl
    exact absurd h (by simp [rpcCall])
  · intro h
    split
    · exact ⟨_, rfl⟩
    · next result hresult => exact absurd (rpcCall_eq_ok.mp hresult) (h result)

/-- `BitcoinRpc::sendrawtransaction`: the id of the transaction the node took.
`parseError` is the text of a failed `Txid::from_str`. -/
def sendrawtransaction (parseError : String → String) (answer : HttpAnswer) :
    Except RpcError Txid :=
  match rpcCall "sendrawtransaction" answer with
  | .error e => .error e
  | .ok result => match result.asStr with
    | none => .error (.parse "expected txid string")
    | some s => match Txid.fromChars s.toList with
      | none => .error (.parse (parseError s))
      | some txid => .ok txid

/-- `BitcoinRpc::testmempoolaccept`. -/
def testmempoolaccept (answer : HttpAnswer) : Except RpcError Value :=
  rpcCall "testmempoolaccept" answer

end Blindjoin
