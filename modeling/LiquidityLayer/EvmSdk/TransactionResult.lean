import LiquidityLayer.Relayer.Basic

/-! `LiquidityLayerTransactionResult.fromEthersTransactionReceipt` of the EVM SDK: it parses
the core bridge's `LogMessagePublished` logs of a receipt, keeps for each emitter it knows the
observation of its last message, and pairs the Wormhole CCTP message with the Circle
`MessageSent` log of the receipt. The SDK's message decoders live in a module that is not
among the sources; like the `ethers` and Wormhole SDK calls, they are parameters here. -/

namespace LiquidityLayer.EvmSdk

open Relayer

/-- The header field of a `CoreBridgeLiquidityLayerMessage` that the SDK reads:
`header.wormholeCctp?.targetDomain`, absent when the message has no Wormhole CCTP header. -/
structure CoreBridgeLiquidityLayerMessage where
  wormholeCctpTargetDomain : Option Nat
  deriving DecidableEq, Repr

/-- The parsed arguments of a `LogMessagePublished` log. -/
structure PublishedMessage where
  sender : String
  sequence : Nat
  nonce : Nat
  payload : Bytes
  consistencyLevel : Nat
  deriving DecidableEq, Repr

/-- `LiquidityLayerObservation`. -/
structure LiquidityLayerObservation where
  emitterAddress : Bytes
  sequence : Nat
  nonce : Nat
  consistencyLevel : Nat
  message : CoreBridgeLiquidityLayerMessage
  deriving DecidableEq, Repr

/-- `LiquidityLayerTransactionResult`. -/
structure LiquidityLayerTransactionResult where
  wormhole : LiquidityLayerObservation
  circleMessage : Option Bytes
  fastMessage : Option LiquidityLayerObservation
  deriving DecidableEq, Repr

/-- The calls of `ethers`, of the Wormhole SDK and of the message decoders that the parser
makes; any of them may throw. -/
structure Calls where
  /-- `new Interface([LogMessagePublished]).parseLog(txLog).args`. -/
  parseLogMessagePublished : Log → Except String PublishedMessage
  /-- `bufferfy` of `new Interface([MessageSent]).parseLog(txLog).args.message`. -/
  parseMessageSent : Log → Except String Bytes
  /-- `tryNativeToUint8Array(address, chain)`. -/
  tryNativeToUint8Array : String → Nat → Except String Bytes
  /-- `MessageDecoder.unsafeDecodeWormholeCctpPayload`. -/
  unsafeDecodeWormholeCctpPayload : Bytes → Except String CoreBridgeLiquidityLayerMessage
  /-- `MessageDecoder.unsafeDecodeFastMarketOrderPayload`. -/
  unsafeDecodeFastMarketOrderPayload : Bytes → Except String CoreBridgeLiquidityLayerMessage

/-- `parseEvmEvents`: the arguments of every log the contract emitted, in order; throws when
the contract emitted none. -/
def parseEvmEvents {α : Type} (parseLog : Log → Except String α) (txReceipt : ContractReceipt)
    (contractAddress : String) : Except String (List α) := do
  let wormholeLogs ←
    (txReceipt.logs.filter fun txLog => txLog.address = contractAddress).mapM parseLog
  if wormholeLogs.length = 0 then
    throw "contract address not found"
  return wormholeLogs

/-- `parseEvmEvent`: the arguments of the first log the contract emitted. -/
def parseEvmEvent {α : Type} (parseLog : Log → Except String α) (txReceipt : ContractReceipt)
    (contractAddress : String) : Except String α :=
  match txReceipt.logs.find? fun txLog => txLog.address = contractAddress with
  | some txLog => parseLog txLog
  | none => throw "contract address not found"

/-- `CIRCLE_DOMAINS`. -/
def circleDomains : List Nat := [0, 1, 2, 3, 6]

def tryCircleDomain (value : Nat) : Except String Nat :=
  if value ∈ circleDomains then .ok value else throw "unrecognized domain"

def circleDomainToChain : Nat → Except String String
  | 0 => .ok "ethereum"
  | 1 => .ok "avalanche"
  | 2 => .ok "optimism"
  | 3 => .ok "arbitrum"
  | 6 => .ok "base"
  | _ => throw "unrecognized domain"

/-- `LiquidityLayerTransactionResult.targetChain`. -/
def LiquidityLayerTransactionResult.targetChain (result : LiquidityLayerTransactionResult) :
    Except String String :=
  match result.wormhole.message.wormholeCctpTargetDomain with
  | some targetDomain => tryCircleDomain targetDomain >>= circleDomainToChain
  | none => throw "Bad liquidity layer header"

/-- The three variables the loop of `fromEthersTransactionReceipt` assigns. -/
structure Assigned where
  circleMessage : Option Bytes
  fastMessage : Option LiquidityLayerObservation
  wormhole : Option LiquidityLayerObservation
  deriving DecidableEq, Repr

/-- One pass of the loop of `fromEthersTransactionReceipt`, over one published message. -/
def recordMessage (calls : Calls) (chain : Nat) (contractAddress wormholeCctpAddress : String)
    (txReceipt : ContractReceipt) (circleTransmitterAddress : Option String)
    (assigned : Assigned) (message : PublishedMessage) : Except String Assigned := do
  let emitterAddress ← calls.tryNativeToUint8Array message.sender chain
  if message.sender = wormholeCctpAddress then
    let some circleTransmitterAddress := circleTransmitterAddress
      | throw "Circle transmitter address is undefined"
    let decoded ← calls.unsafeDecodeWormholeCctpPayload message.payload
    let circleMessage ← parseEvmEvent calls.parseMessageSent txReceipt circleTransmitterAddress
    return { assigned with
      wormhole :=
        some ⟨emitterAddress, message.sequence, message.nonce, message.consistencyLevel, decoded⟩
      circleMessage := some circleMessage }
  else if message.sender = contractAddress then
    let decoded ← calls.unsafeDecodeFastMarketOrderPayload message.payload
    return { assigned with
      fastMessage :=
        some ⟨emitterAddress, message.sequence, message.nonce, message.consistencyLevel, decoded⟩ }
  else throw "Unrecognized emitter address."

/-- `LiquidityLayerTransactionResult.fromEthersTransactionReceipt`. -/
def fromEthersTransactionReceipt (calls : Calls) (chain : Nat)
    (contractAddress coreBridgeAddress wormholeCctpAddress : String) (txReceipt : ContractReceipt)
    (circleTransmitterAddress : Option String) : Except String LiquidityLayerTransactionResult := do
  let publishedMessages ← parseEvmEvents calls.parseLogMessagePublished txReceipt coreBridgeAddress
  let assigned ← publishedMessages.foldlM
    (recordMessage calls chain contractAddress wormholeCctpAddress txReceipt circleTransmitterAddress)
    ⟨none, none, none⟩
  let some wormhole := assigned.wormhole | throw "Wormhole message not found"
  return ⟨wormhole, assigned.circleMessage, assigned.fastMessage⟩

/-- `observation` is what the loop builds from `message` with the payload decoder `decode`. -/
def Observes (calls : Calls) (chain : Nat)
    (decode : Bytes → Except String CoreBridgeLiquidityLayerMessage) (message : PublishedMessage)
    (observation : LiquidityLayerObservation) : Prop :=
  ∃ emitterAddress decoded, calls.tryNativeToUint8Array message.sender chain = .ok emitterAddress ∧
    decode message.payload = .ok decoded ∧
    observation = ⟨emitterAddress, message.sequence, message.nonce, message.consistencyLevel, decoded⟩

/-- `circleMessage` is the message of the first `MessageSent` log of the Circle transmitter in
the receipt, whichever Wormhole message it is paired with. -/
def PairedCircleMessage (calls : Calls) (txReceipt : ContractReceipt)
    (circleTransmitterAddress : Option String) (circleMessage : Bytes) : Prop :=
  ∃ transmitter, circleTransmitterAddress = some transmitter ∧
    parseEvmEvent calls.parseMessageSent txReceipt transmitter = .ok circleMessage

/-- `slot` holds what the last of `messages` gives, as `gives` relates them, and nothing when
`messages` is empty. -/
def LastOf {β : Type} (gives : PublishedMessage → β → Prop) (messages : List PublishedMessage)
    (slot : Option β) : Prop :=
  match messages.getLast? with
  | none => slot = none
  | some last => ∃ value, slot = some value ∧ gives last value

section LastOf

variable {β : Type} {gives : PublishedMessage → β → Prop} {keep : PublishedMessage → Bool}
  {messages : List PublishedMessage} {message : PublishedMessage}

theorem lastOf_append_of_keep {value : β} (hKeep : keep message = true)
    (hGives : gives message value) :
    LastOf gives ((messages ++ [message]).filter keep) (some value) := by
  simp [LastOf, List.filter_append, hKeep, hGives]

theorem lastOf_append_of_not_keep {slot : Option β} (hKeep : keep message = false)
    (hBefore : LastOf gives (messages.filter keep) slot) :
    LastOf gives ((messages ++ [message]).filter keep) slot := by
  rwa [List.filter_append, List.filter_singleton, hKeep, cond_false, List.append_nil]

end LastOf

/-- What the loop's variables hold after it has gone over `messages`: each message came from
one of the two emitters the parser knows; `wormhole` and `circleMessage` hold what the last
Wormhole CCTP message gave, and `fastMessage` what the last message of the contract gave,
each nothing when there was none. -/
structure Records (calls : Calls) (chain : Nat) (contractAddress wormholeCctpAddress : String)
    (txReceipt : ContractReceipt) (circleTransmitterAddress : Option String)
    (messages : List PublishedMessage) (assigned : Assigned) : Prop where
  recognized : ∀ message ∈ messages,
    message.sender = wormholeCctpAddress ∨ message.sender = contractAddress
  wormhole : LastOf (Observes calls chain calls.unsafeDecodeWormholeCctpPayload)
    (messages.filter fun message => message.sender = wormholeCctpAddress) assigned.wormhole
  circleMessage : LastOf (fun _ => PairedCircleMessage calls txReceipt circleTransmitterAddress)
    (messages.filter fun message => message.sender = wormholeCctpAddress) assigned.circleMessage
  fastMessage : LastOf (Observes calls chain calls.unsafeDecodeFastMarketOrderPayload)
    (messages.filter fun message => message.sender ≠ wormholeCctpAddress ∧
      message.sender = contractAddress) assigned.fastMessage

section Loop

variable {calls : Calls} {chain : Nat} {contractAddress wormholeCctpAddress : String}
  {txReceipt : ContractReceipt} {circleTransmitterAddress : Option String}

/-- What one pass can do: record a Wormhole CCTP message with the paired Circle message, or a
message of the contract; any other emitter throws. -/
theorem recordMessage_cases {assigned assigned' : Assigned} {message : PublishedMessage}
    (h : recordMessage calls chain contractAddress wormholeCctpAddress txReceipt
      circleTransmitterAddress assigned message = .ok assigned') :
    (message.sender = wormholeCctpAddress ∧ ∃ observation circleMessage,
        Observes calls chain calls.unsafeDecodeWormholeCctpPayload message observation ∧
        PairedCircleMessage calls txReceipt circleTransmitterAddress circleMessage ∧
        assigned' = { assigned with
          wormhole := some observation, circleMessage := some circleMessage }) ∨
      (message.sender ≠ wormholeCctpAddress ∧ message.sender = contractAddress ∧
        ∃ observation, Observes calls chain calls.unsafeDecodeFastMarketOrderPayload message observation ∧
          assigned' = { assigned with fastMessage := some observation }) := by
  obtain ⟨emitterAddress, hEmitter, h⟩ := bind_eq_ok h
  split at h
  · rename_i hCctp
    cases circleTransmitterAddress with
    | none => cases h
    | some transmitter =>
        obtain ⟨decoded, hDecoded, h⟩ := bind_eq_ok h
        obtain ⟨circleMessage, hCircle, h⟩ := bind_eq_ok h
        cases h
        exact .inl ⟨hCctp, _, _, ⟨_, _, hEmitter, hDecoded, rfl⟩, ⟨transmitter, rfl, hCircle⟩, rfl⟩
  · rename_i hNotCctp
    split at h
    · rename_i hContract
      obtain ⟨decoded, hDecoded, h⟩ := bind_eq_ok h
      cases h
      exact .inr ⟨hNotCctp, hContract, _, ⟨_, _, hEmitter, hDecoded, rfl⟩, rfl⟩
    · cases h

/-- A whole run of the loop from its initial `null`s records the messages it went over. -/
theorem foldlM_recordMessage_records (messages : List PublishedMessage) {assigned : Assigned}
    (h : messages.foldlM (recordMessage calls chain contractAddress wormholeCctpAddress txReceipt
      circleTransmitterAddress) ⟨none, none, none⟩ = .ok assigned) :
    Records calls chain contractAddress wormholeCctpAddress txReceipt circleTransmitterAddress
      messages assigned := by
  induction messages using List.reverseRecOn generalizing assigned with
  | nil =>
      cases h
      exact ⟨by simp, rfl, rfl, rfl⟩
  | append_singleton messages message ih =>
      rw [List.foldlM_append] at h
      obtain ⟨before, hBefore, h⟩ := bind_eq_ok h
      obtain ⟨hRecognized, hWormhole, hCircle, hFast⟩ := ih hBefore
      have hRecord : recordMessage calls chain contractAddress wormholeCctpAddress txReceipt
          circleTransmitterAddress before message = .ok assigned := by
        simpa only [List.foldlM_cons, List.foldlM_nil, bind_pure] using h
      rcases recordMessage_cases hRecord with
        ⟨hCctp, observation, circleMessage, hObserves, hPaired, rfl⟩ |
        ⟨hNotCctp, hContract, observation, hObserves, rfl⟩
      · exact ⟨List.forall_mem_append.mpr ⟨hRecognized, List.forall_mem_singleton.mpr (.inl hCctp)⟩,
          lastOf_append_of_keep (decide_eq_true hCctp) hObserves,
          lastOf_append_of_keep (decide_eq_true hCctp) hPaired,
          lastOf_append_of_not_keep (decide_eq_false fun hFast => hFast.1 hCctp) hFast⟩
      · exact ⟨List.forall_mem_append.mpr ⟨hRecognized, List.forall_mem_singleton.mpr (.inr hContract)⟩,
          lastOf_append_of_not_keep (decide_eq_false hNotCctp) hWormhole,
          lastOf_append_of_not_keep (decide_eq_false hNotCctp) hCircle,
          lastOf_append_of_keep (decide_eq_true ⟨hNotCctp, hContract⟩) hObserves⟩

end Loop

/-- Every receipt the SDK accepts: each `LogMessagePublished` of the core bridge in it came
from the Wormhole CCTP emitter or from the contract, at least one from the former; the result
holds the observation of the last Wormhole CCTP message, the first `MessageSent` of the Circle
transmitter, and the observation of the last message of the contract, if any. -/
theorem fromEthersTransactionReceipt_records {calls : Calls} {chain : Nat}
    {contractAddress coreBridgeAddress wormholeCctpAddress : String} {txReceipt : ContractReceipt}
    {circleTransmitterAddress : Option String} {result : LiquidityLayerTransactionResult}
    (h : fromEthersTransactionReceipt calls chain contractAddress coreBridgeAddress
      wormholeCctpAddress txReceipt circleTransmitterAddress = .ok result) :
    ∃ publishedMessages,
      parseEvmEvents calls.parseLogMessagePublished txReceipt coreBridgeAddress =
        .ok publishedMessages ∧
      Records calls chain contractAddress wormholeCctpAddress txReceipt circleTransmitterAddress
        publishedMessages ⟨result.circleMessage, result.fastMessage, some result.wormhole⟩ := by
  obtain ⟨publishedMessages, hParsed, h⟩ := bind_eq_ok h
  obtain ⟨assigned, hLoop, h⟩ := bind_eq_ok h
  refine ⟨publishedMessages, hParsed, ?_⟩
  rcases assigned with ⟨circleMessage, fastMessage, _ | wormhole⟩
  · cases h
  · cases h
    exact foldlM_recordMessage_records publishedMessages hLoop

/-- Calls for the sample: a published message's sender is its log's data and its sequence the
number of its topics; the message of a `MessageSent` log is `[1]` for the log `first` and `[2]`
for any other. -/
def sampleCalls : Calls where
  parseLogMessagePublished log := .ok ⟨log.data, log.topics.length, 0, [], 1⟩
  parseMessageSent log := .ok (if log.data = "first" then [1] else [2])
  tryNativeToUint8Array _ _ := .ok []
  unsafeDecodeWormholeCctpPayload _ := .ok ⟨some 1⟩
  unsafeDecodeFastMarketOrderPayload _ := .ok ⟨none⟩

/-- A receipt of two transfers: Wormhole CCTP messages of sequences 1 and 2, each followed by
its Circle `MessageSent`. -/
def twoTransfersReceipt : ContractReceipt :=
  ⟨[⟨"core", ["t"], "cctp"⟩, ⟨"transmitter", [], "first"⟩,
    ⟨"core", ["t", "t"], "cctp"⟩, ⟨"transmitter", [], "second"⟩], "0xreceipt"⟩

/-- On the receipt of two transfers the result pairs the message of sequence 2 with the Circle
message of the first transfer. -/
theorem fromEthersTransactionReceipt_records_sample :
    fromEthersTransactionReceipt sampleCalls 2 "router" "core" "cctp" twoTransfersReceipt
        (some "transmitter") = .ok ⟨⟨[], 2, 0, 1, ⟨some 1⟩⟩, some [1], none⟩ ∧
      ∃ publishedMessages,
        parseEvmEvents sampleCalls.parseLogMessagePublished twoTransfersReceipt "core" =
          .ok publishedMessages ∧
        Records sampleCalls 2 "router" "cctp" twoTransfersReceipt (some "transmitter")
          publishedMessages ⟨some [1], none, some ⟨[], 2, 0, 1, ⟨some 1⟩⟩⟩ :=
  have hOk : fromEthersTransactionReceipt sampleCalls 2 "router" "core" "cctp" twoTransfersReceipt
      (some "transmitter") = .ok ⟨⟨[], 2, 0, 1, ⟨some 1⟩⟩, some [1], none⟩ := rfl
  ⟨hOk, fromEthersTransactionReceipt_records hOk⟩

end LiquidityLayer.EvmSdk
