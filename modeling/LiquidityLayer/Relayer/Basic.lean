import LiquidityLayer.Buffer

/-! What the two off-chain relayers share: the `LogMessagePublished` event they handle, the
configuration they read, the SDK and network calls they make, and the way their
`handleRelayerEvent` ends. The body of a handler runs in `Except Outcome`: a `return`, an
exception that reaches the `catch`, an `await` that never resolves, and the submission of a
settlement transaction each end it. -/

namespace LiquidityLayer.Relayer

/-- `CHAIN_ID_ETH` of the Wormhole SDK. -/
def chainIdEth : Nat := 2

/-- `CHAIN_ID_AVAX` of the Wormhole SDK. -/
def chainIdAvax : Nat := 6

/-- `CIRCLE_DOMAIN_TO_WORMHOLE_CHAIN`, with `domain in ...` as the `some` case. -/
def circleDomainToWormholeChain : Nat → Option Nat
  | 0 => some chainIdEth
  | 1 => some chainIdAvax
  | _ => none

/-- `CIRCLE_EMITTER_ADDRESSES`, with an `undefined` entry as `none`. -/
def circleEmitterAddresses (chain : Nat) : Option String :=
  if chain = chainIdEth then some "0x26413e8157CD32011E726065a5462e97dD4d03D9"
  else if chain = chainIdAvax then some "0xa9fB1b3009DCb79E2fe346c16a604B8Fa8aE0a79"
  else none

/-- The fields of a route of `executionRoutes` in `cfg/relayer.json` that the handlers read. -/
structure ExecutionRoute where
  router : String
  bridge : String
  cctp : String
  nativeSwap : String
  deriving DecidableEq, Repr

/-- `cfg/relayer.json`. A key of `executionRoutes` is the decimal text of a chain id; it is
kept here as that id. -/
structure RelayerConfig where
  /-- The routes in the order `Object.keys` lists them, which for keys that are the decimal text
  of an integer is ascending chain id: a `for ... of` over the keys, as `getBridgeChainId`'s,
  visits them in this order, so its last match is the one of the highest chain id. -/
  executionRoutes : List (Nat × ExecutionRoute)
  matchingEngineChain : Nat
  matchingEngineAddress : String
  deriving DecidableEq, Repr

/-- `ROUTES[chain.toString()].field`, which throws a `TypeError` naming the field when no
route is configured for `chain`. -/
def routeField (config : RelayerConfig) (chain : Nat) (name : String)
    (field : ExecutionRoute → String) : Except String String :=
  match config.executionRoutes.lookup chain with
  | some route => .ok (field route)
  | none => .error ("TypeError: Cannot read properties of undefined (reading \x27" ++ name ++ "\x27)")

/-- A log of a transaction receipt: the emitting contract and the topics. -/
structure Log where
  address : String
  topics : List String
  data : String
  deriving DecidableEq, Repr

/-- The `ethers.ContractReceipt` of the transaction that emitted the event. -/
structure ContractReceipt where
  logs : List Log
  transactionHash : String
  deriving DecidableEq, Repr

/-- The arguments of a `LogMessagePublished` event that the handlers read. -/
structure LogMessagePublished where
  sender : String
  sequence : Nat
  payload : Bytes
  deriving DecidableEq, Repr

/-- The functions of `ethers` and of the Wormhole SDK that the handlers call; any of them may
throw. -/
structure Sdk where
  /-- `ethers.utils.getAddress`: the checksummed form of an address. -/
  getAddress : String → Except String String
  /-- `tryUint8ArrayToNative(bytes, chain)`, with a `null` chain as `none`. -/
  tryUint8ArrayToNative : Bytes → Option Nat → Except String String
  getEmitterAddressEth : String → Except String String
  /-- `parseVaa(vaaBytes).hash`. -/
  parseVaaHash : Bytes → Except String Bytes
  /-- `ethers.utils.keccak256` of a hex string. -/
  keccak256 : String → Except String String
  /-- `new Interface(["event MessageSent(bytes message)"]).parseLog(log).args.message`. -/
  parseMessageSent : Log → Except String String

/-- What the guardians, the Circle attestation service and the chains answer to one handler.
An RPC that retries until it succeeds gives `none` when it never does. -/
structure Network where
  /-- `getSignedVAAWithRetry` for a chain, an emitter address and a sequence. -/
  getSignedVAAWithRetry : Nat → String → Nat → Option Bytes
  /-- `typedEvent.getTransactionReceipt()`. -/
  getTransactionReceipt : Except String ContractReceipt
  /-- The attestation `getCircleAttestation` polls for until its status is `complete`. -/
  getCircleAttestation : String → Option String
  /-- `isMessageConsumed(vaaHash)` of the contract at an address on a chain. -/
  isMessageConsumed : Nat → String → String → Except String Bool
  /-- `isTransferCompleted(vaaHash)` of the contract at an address on a chain. -/
  isTransferCompleted : Nat → String → String → Except String Bool

/-- The lowercase hex digit of a number below 16. -/
def hexDigit (n : Nat) : Char := if n < 10 then Char.ofNat (48 + n) else Char.ofNat (87 + n)

/-- `uint8ArrayToHex`, that is `Buffer.toString("hex")`: two lowercase digits a byte. -/
def uint8ArrayToHex (bytes : Bytes) : String :=
  String.mk (bytes.flatMap fun b => [hexDigit (b.toNat / 16), hexDigit (b.toNat % 16)])

/-- `getBridgeChainId`: the chain whose route's bridge has the address of `sender`, the last
one in key order if several do, or `null`. Both relayers have this same function. -/
def getBridgeChainId (sdk : Sdk) (config : RelayerConfig) (sender : String) :
    Except String (Option Nat) :=
  config.executionRoutes.foldlM
    (fun senderChainId entry => do
      let bridgeAddress ← sdk.getAddress sender
      let configBridgeAddress ← sdk.getAddress entry.2.bridge
      return if configBridgeAddress = bridgeAddress then some entry.1 else senderChainId)
    none

/-- The three byte strings of a redeem: the `OrderResponse` of the native-swap relayer and the
`redeemParameters` of the EVM one. -/
structure OrderResponse where
  encodedWormholeMessage : String
  circleBridgeMessage : String
  circleAttestation : String
  deriving DecidableEq, Repr

/-- A settlement transaction a handler sends, with the contract it calls. -/
inductive Submission where
  /-- `MATCHING_ENGINE["executeOrder((bytes,bytes,bytes))"](redeemParameters, { value })`. -/
  | executeOrderCctp (matchingEngine : String) (redeemParameters : OrderResponse) (value : Nat)
  /-- `MATCHING_ENGINE["executeOrder(bytes)"](vaa, { value })`. -/
  | executeOrderTokenBridge (matchingEngine : String) (vaa : String) (value : Nat)
  /-- `nativeSwap.recvAndSwapExactNativeIn(response)` on a chain. -/
  | recvAndSwapExactNativeIn (chain : Nat) (nativeSwap : String) (response : OrderResponse)
  /-- `nativeSwap.handleOrderRevert(response)` on a chain. -/
  | handleOrderRevert (chain : Nat) (nativeSwap : String) (response : OrderResponse)
  deriving DecidableEq, Repr

/-- How a `handleRelayerEvent` ends. After a submission a handler only waits for the receipt
and logs, so its run is cut there. -/
inductive Outcome where
  | returned
  | caught (error : String)
  | blocked
  | submitted (submission : Submission)
  deriving DecidableEq, Repr

/-- The body of a handler: it goes on with a value, or ends with an outcome. -/
abbrev Handler := Except Outcome

namespace Handler

variable {α β : Type}

/-- A call that may throw; its exception goes to the handler's `catch`. -/
def call : Except String α → Handler α
  | .ok a => .ok a
  | .error e => .error (.caught e)

/-- An `await` that may never resolve. -/
def wait : Option α → Handler α
  | some a => .ok a
  | none => .error .blocked

/-- A bare `return;` in the body. -/
def returnEarly : Handler α := .error .returned

def submit (submission : Submission) : Handler Unit := .error (.submitted submission)

/-- `try { body } catch (e) { throw Error(prefix + e) }`. -/
def rethrowAs (pre : String) (body : Handler α) : Handler α :=
  match body with
  | .error (.caught e) => .error (.caught ("Error: " ++ pre ++ e))
  | other => other

/-- `(async () => { try { body } catch (e) { console.error(e) } })()`: how the handler ends. -/
def settle (body : Handler Unit) : Outcome :=
  match body with
  | .ok () => .returned
  | .error outcome => outcome

/-- The body never submits. -/
def NoSubmit (body : Handler α) : Prop := ∀ submission, body ≠ .error (.submitted submission)

@[simp] theorem call_ok (a : α) : call (.ok a) = .ok a := rfl

@[simp] theorem call_eq_ok {x : Except String α} {a : α} : call x = .ok a ↔ x = .ok a := by
  cases x <;> simp [call]

@[simp] theorem wait_eq_ok {x : Option α} {a : α} : wait x = .ok a ↔ x = some a := by
  cases x <;> simp [wait]

@[simp] theorem returnEarly_bind (f : α → Handler β) : (returnEarly >>= f) = returnEarly := rfl

@[simp] theorem returnEarly_ne_submitted {submission : Submission} :
    (returnEarly : Handler α) ≠ .error (.submitted submission) := by
  simp [returnEarly]

theorem noSubmit_call (x : Except String α) : NoSubmit (call x) := by
  cases x <;> simp [NoSubmit, call]

theorem noSubmit_wait (x : Option α) : NoSubmit (wait x) := by
  cases x <;> simp [NoSubmit, wait]

theorem noSubmit_returnEarly : NoSubmit (returnEarly : Handler α) := by
  simp [NoSubmit, returnEarly]

theorem noSubmit_pure (a : α) : NoSubmit (pure a : Handler α) := by
  simp [NoSubmit, pure, Except.pure]

theorem settle_eq_submitted {body : Handler Unit} {submission : Submission} :
    settle body = .submitted submission ↔ body = .error (.submitted submission) := by
  rcases body with outcome | ⟨⟩ <;> simp [settle]

theorem rethrowAs_eq_submitted {pre : String} {body : Handler α} {submission : Submission} :
    rethrowAs pre body = .error (.submitted submission) ↔
      body = .error (.submitted submission) := by
  unfold rethrowAs
  split <;> simp_all

/-- A body that submits, after a first part that does not, got a value from the first part
and submitted in the rest. -/
theorem bind_submitted {x : Handler α} {f : α → Handler β} {submission : Submission}
    (hx : NoSubmit x) (h : (x >>= f) = .error (.submitted submission)) :
    ∃ a, x = .ok a ∧ f a = .error (.submitted submission) := by
  rcases x with outcome | a
  · cases h
    exact absurd rfl (hx submission)
  · exact ⟨a, rfl, h⟩

/-- A body that submits passed each of its `if (c) return;` guards. -/
theorem guard_submitted {c : Prop} [Decidable c] {k : Unit → Handler β} {submission : Submission}
    (h : (if c then returnEarly >>= k else pure () >>= k) = .error (.submitted submission)) :
    ¬c ∧ k () = .error (.submitted submission) := by
  by_cases hc : c
  · simp [hc] at h
  · simpa [hc] using h

theorem noSubmit_bind {x : Handler α} {f : α → Handler β} (hx : NoSubmit x)
    (hf : ∀ a, NoSubmit (f a)) : NoSubmit (x >>= f) := by
  intro submission h
  obtain ⟨a, -, ha⟩ := bind_submitted hx h
  exact hf a submission ha

end Handler

open Handler

/-- `handleCircleMessageInLogs`, the same in both relayers around each one's own
`findCircleMessageInLogs`: the Circle message of the receipt and its attestation, or two
`null`s when the receipt has no message. -/
def handleCircleMessageInLogsWith
    (findCircleMessageInLogs : List Log → Option String → Except String (Option String))
    (sdk : Sdk) (network : Network) (logs : List Log) (circleEmitterAddress : Option String) :
    Handler (Option String × Option String) := do
  match ← call (findCircleMessageInLogs logs circleEmitterAddress) with
  | none => return (none, none)
  | some circleMessage =>
    let circleMessageHash ← call (sdk.keccak256 circleMessage)
    let signature ← wait (network.getCircleAttestation circleMessageHash)
    return (some circleMessage, some signature)

theorem handleCircleMessageInLogsWith_noSubmit
    (findCircleMessageInLogs : List Log → Option String → Except String (Option String))
    (sdk : Sdk) (network : Network) (logs : List Log) (circleEmitterAddress : Option String) :
    NoSubmit (handleCircleMessageInLogsWith findCircleMessageInLogs sdk network logs
      circleEmitterAddress) := by
  unfold handleCircleMessageInLogsWith
  refine noSubmit_bind (noSubmit_call _) fun circleMessage => ?_
  split
  · exact noSubmit_pure _
  · exact noSubmit_bind (noSubmit_call _) fun _ =>
      noSubmit_bind (noSubmit_wait _) fun _ => noSubmit_pure _

/-- A Circle message and attestation that the lookup returns are the message found in the
logs and the attestation of its hash. -/
theorem handleCircleMessageInLogsWith_eq_ok
    {findCircleMessageInLogs : List Log → Option String → Except String (Option String)}
    {sdk : Sdk} {network : Network} {logs : List Log} {circleEmitterAddress : Option String}
    {circleMessage attestation : String}
    (h : handleCircleMessageInLogsWith findCircleMessageInLogs sdk network logs
      circleEmitterAddress = .ok (some circleMessage, some attestation)) :
    ∃ circleMessageHash,
      findCircleMessageInLogs logs circleEmitterAddress = .ok (some circleMessage) ∧
      sdk.keccak256 circleMessage = .ok circleMessageHash ∧
      network.getCircleAttestation circleMessageHash = some attestation := by
  unfold handleCircleMessageInLogsWith at h
  obtain ⟨found, hFound, h⟩ := bind_eq_ok h
  rw [call_eq_ok] at hFound
  cases found with
  | none => cases h
  | some found =>
      obtain ⟨circleMessageHash, hHash, h⟩ := bind_eq_ok h
      obtain ⟨signature, hSignature, h⟩ := bind_eq_ok h
      cases h
      exact ⟨circleMessageHash, hFound, call_eq_ok.mp hHash, wait_eq_ok.mp hSignature⟩

/-- The source chain and the 32 sender bytes a relayer takes from an event: the chain of the
CCTP domain at byte 65 and the bytes 81 to 113 of a type-1 payload, or the chain whose bridge
route has the emitter's address and the bytes 101 to 133 of a type-3 payload. -/
def SenderSource (sdk : Sdk) (config : RelayerConfig) (sender : String) (payload : Bytes)
    (fromChain : Nat) (senderBytes : Bytes) : Prop :=
  (readUInt8 payload 0 = .ok 1 ∧
      (∃ fromDomain, readUInt32BE payload 65 = .ok fromDomain ∧
        circleDomainToWormholeChain fromDomain = some fromChain) ∧
      senderBytes = subarray payload 81 113) ∨
    (readUInt8 payload 0 = .ok 3 ∧ getBridgeChainId sdk config sender = .ok (some fromChain) ∧
      senderBytes = subarray payload 101 133)

/-- The sender bytes are, on `fromChain`, the address `expected`, as `getAddress` compares
addresses. -/
def ConvertsTo (sdk : Sdk) (fromChain : Nat) (senderBytes : Bytes) (expected : String) : Prop :=
  ∃ native address, sdk.tryUint8ArrayToNative senderBytes (some fromChain) = .ok native ∧
    sdk.getAddress native = .ok address ∧ sdk.getAddress expected = .ok address

/-- The sender bytes are the router registered for `fromChain`. -/
def RegisteredRouter (sdk : Sdk) (config : RelayerConfig) (fromChain : Nat)
    (senderBytes : Bytes) : Prop :=
  ∃ route, config.executionRoutes.lookup fromChain = some route ∧
    ConvertsTo sdk fromChain senderBytes route.router

theorem routeField_eq_ok {config : RelayerConfig} {chain : Nat} {name : String}
    {field : ExecutionRoute → String} {value : String}
    (h : routeField config chain name field = .ok value) :
    ∃ route, config.executionRoutes.lookup chain = some route ∧ field route = value := by
  unfold routeField at h
  split at h
  · rename_i route hRoute
    cases h
    exact ⟨route, hRoute, rfl⟩
  · cases h

/-- When `getAddress` checksums the sender and the bridge of every route, `getBridgeChainId`
returns the chain of the last route, in the routes' order, whose bridge is the sender, and
`null` when no route's is. -/
theorem getBridgeChainId_eq_last {sdk : Sdk} {config : RelayerConfig} {sender bridgeAddress : String}
    (hSender : sdk.getAddress sender = .ok bridgeAddress)
    (hRoutes : ∀ entry ∈ config.executionRoutes, ∃ address, sdk.getAddress entry.2.bridge = .ok address) :
    getBridgeChainId sdk config sender =
      .ok ((config.executionRoutes.filter fun entry =>
        (sdk.getAddress entry.2.bridge).toOption = some bridgeAddress).getLast?.map Prod.fst) := by
  rcases config with ⟨routes, matchingEngineChain, matchingEngineAddress⟩
  unfold getBridgeChainId
  induction routes using List.reverseRecOn with
  | nil => rfl
  | append_singleton routes entry ih =>
      obtain ⟨address, hAddress⟩ := hRoutes entry (List.mem_append_right _ (List.mem_singleton_self _))
      rw [List.foldlM_append, ih fun e he => hRoutes e (List.mem_append_left _ he)]
      simp only [List.foldlM_cons, List.foldlM_nil, hSender, hAddress, bind, Except.bind, pure,
        Except.pure, List.filter_append, List.filter_singleton, Except.toOption]
      by_cases hSame : address = bridgeAddress <;> simp [hSame]

/-- Chains 2 and 6 share a bridge address: the sender gets chain 6, the later one. -/
theorem getBridgeChainId_eq_last_sample :
    let sdk : Sdk := ⟨.ok, fun _ _ => .ok "", .ok, .ok, .ok, fun log => .ok log.data⟩
    let config : RelayerConfig :=
      ⟨[(2, ⟨"router2", "bridge", "cctp2", "swap2"⟩), (5, ⟨"router5", "other", "cctp5", "swap5"⟩),
        (6, ⟨"router6", "bridge", "cctp6", "swap6"⟩)], 6, "engine"⟩
    getBridgeChainId sdk config "bridge" = .ok (some 6) ∧
      getBridgeChainId sdk config "bridge" = .ok ((config.executionRoutes.filter fun entry =>
        (sdk.getAddress entry.2.bridge).toOption = some "bridge").getLast?.map Prod.fst) :=
  ⟨rfl, getBridgeChainId_eq_last rfl (by simp)⟩

end LiquidityLayer.Relayer
