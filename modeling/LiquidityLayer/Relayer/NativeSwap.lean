import LiquidityLayer.Relayer.Basic

/-! `handleRelayerEvent` of the native-swap example relayer. It derives the source and target
chains and the sender from the payload, returns unless the sender is the registered router
(or the matching engine on its own chain) and the response is a fill or a revert, fetches the
VAA, asks the target chain whether the VAA has been redeemed, and only then builds the order
response and calls the native-swap contract. -/

namespace LiquidityLayer.Relayer.NativeSwap

open Handler

def typeFill : Nat := 16

def typeRevert : Nat := 32

def circleBurnMessageTopic : String :=
  "0x8c5261668696ce22758910d05bab8f186d6eb247ceac2af2e82c7dc17669b036"

def circleIntegrationPayloadLen : Nat := 147

def tokenBridgePayloadLen : Nat := 133

/-- `parseMessageType`: the byte after the fixed part of the payload. -/
def parseMessageType (payload : Bytes) (isCCTP : Bool) : Except String Nat :=
  if isCCTP then readUInt8 payload circleIntegrationPayloadLen
  else readUInt8 payload tokenBridgePayloadLen

/-- What the payload-type branch derives: the source and target chains, the sender's native
address, and whether the payload is a CCTP one. -/
structure Origin where
  fromChain : Nat
  toChain : Nat
  fromAddress : String
  isCCTP : Bool
  deriving DecidableEq, Repr

/-- `isValidSender`: the matching engine on its own chain, or the router registered for the
source chain. The matching engine's address is read only on its chain. -/
def isValidSender (sdk : Sdk) (config : RelayerConfig) (fromChain : Nat) (fromAddress : String) :
    Except String Bool := do
  let validFromAddress ← sdk.getAddress fromAddress
  let isMatchingEngine ←
    (if fromChain = config.matchingEngineChain then
      (fun address => decide (validFromAddress = address)) <$>
        sdk.getAddress config.matchingEngineAddress
    else pure false)
  if isMatchingEngine then return true
  else
    let router ← routeField config fromChain "router" ExecutionRoute.router
    let router ← sdk.getAddress router
    return decide (validFromAddress = router)

/-- `findCircleMessageInLogs`: it throws on a receipt without logs, and takes the first log of
the Circle emitter whose first topic is the burn-message topic. -/
def findCircleMessageInLogs (sdk : Sdk) (logs : List Log) (circleEmitterAddress : Option String) :
    Except String (Option String) :=
  if logs.length = 0 then .error "Error: No logs found"
  else
    match logs.find? fun log =>
        some log.address = circleEmitterAddress ∧ log.topics.head? = some circleBurnMessageTopic with
    | none => .ok none
    | some log => some <$> sdk.parseMessageSent log

def handleCircleMessageInLogs (sdk : Sdk) (network : Network) (logs : List Log)
    (circleEmitterAddress : Option String) : Handler (Option String × Option String) :=
  handleCircleMessageInLogsWith (findCircleMessageInLogs sdk) sdk network logs circleEmitterAddress

def getRedeemParameters (sdk : Sdk) (network : Network) (receipt : ContractReceipt)
    (circleEmitterAddress : Option String) (vaa : Bytes) : Handler OrderResponse := do
  let (circleBridgeMessage, circleAttestation) ←
    handleCircleMessageInLogs sdk network receipt.logs circleEmitterAddress
  match circleBridgeMessage, circleAttestation with
  | some circleBridgeMessage, some circleAttestation =>
    return ⟨"0x" ++ uint8ArrayToHex vaa, circleBridgeMessage, circleAttestation⟩
  | _, _ => call (.error ("Error: Error parsing receipt, txhash: " ++ receipt.transactionHash))

def getOrderResponseFromVaa (sdk : Sdk) (network : Network) (vaa : Bytes) (fromChain : Nat)
    (isCCTP : Bool) (receipt : ContractReceipt) : Handler OrderResponse :=
  if isCCTP then getRedeemParameters sdk network receipt (circleEmitterAddresses fromChain) vaa
  else return ⟨"0x" ++ uint8ArrayToHex vaa, "0x", "0x"⟩

/-- `isTransferRedeemed`: `isMessageConsumed` of the chain's CCTP contract, or
`isTransferCompleted` of its token bridge. -/
def isTransferRedeemed (sdk : Sdk) (config : RelayerConfig) (network : Network) (chainId : Nat)
    (isCCTP : Bool) (vaaHash : String) : Handler Bool :=
  if isCCTP then do
    let cctp ← call (routeField config chainId "cctp" ExecutionRoute.cctp)
    let circleIntegration ← call (sdk.getAddress cctp)
    call (network.isMessageConsumed chainId circleIntegration vaaHash)
  else do
    let bridge ← call (routeField config chainId "bridge" ExecutionRoute.bridge)
    let tokenBridge ← call (sdk.getAddress bridge)
    call (network.isTransferCompleted chainId tokenBridge vaaHash)

/-- `handleOrderResponse`: a fill or a revert on the target chain's native-swap contract. -/
def handleOrderResponse (sdk : Sdk) (config : RelayerConfig) (response : OrderResponse)
    (toChain responseType : Nat) : Handler Unit :=
  rethrowAs "Error executing order: " do
    let nativeSwap ← call (routeField config toChain "nativeSwap" ExecutionRoute.nativeSwap)
    let nativeSwap ← call (sdk.getAddress nativeSwap)
    if responseType = typeFill then submit (.recvAndSwapExactNativeIn toChain nativeSwap response)
    else if responseType = typeRevert then submit (.handleOrderRevert toChain nativeSwap response)
    else pure ()

/-- The "Only parse necessary fields" branch on the payload type. A type-3 payload's address
is converted before the `null` check of its chain. -/
def parseOrigin (sdk : Sdk) (config : RelayerConfig) (sender : String) (payloadArray : Bytes) :
    Handler Origin := do
  let payloadType ← call (readUInt8 payloadArray 0)
  if payloadType = 1 then
    let fromDomain ← call (readUInt32BE payloadArray 65)
    match circleDomainToWormholeChain fromDomain with
    | none => returnEarly
    | some fromChain =>
      let toDomain ← call (readUInt32BE payloadArray 69)
      match circleDomainToWormholeChain toDomain with
      | none => returnEarly
      | some toChain =>
        let fromAddress ←
          call (sdk.tryUint8ArrayToNative (subarray payloadArray 81 113) (some fromChain))
        return ⟨fromChain, toChain, fromAddress, true⟩
  else if payloadType = 3 then
    let fromChain ← call (getBridgeChainId sdk config sender)
    let toChain ← call (readUInt16BE payloadArray 99)
    let fromAddress ← call (sdk.tryUint8ArrayToNative (subarray payloadArray 101 133) fromChain)
    match fromChain with
    | none => returnEarly
    | some fromChain => return ⟨fromChain, toChain, fromAddress, false⟩
  else returnEarly

/-- `handleRelayerEvent` of the native-swap relayer. -/
def handleRelayerEvent (sdk : Sdk) (config : RelayerConfig) (network : Network)
    (event : LogMessagePublished) : Outcome :=
  settle do
    let origin ← parseOrigin sdk config event.sender event.payload
    let validSender ← call (isValidSender sdk config origin.fromChain origin.fromAddress)
    if !validSender then returnEarly
    let responseType ← call (parseMessageType event.payload origin.isCCTP)
    if responseType ≠ typeFill ∧ responseType ≠ typeRevert then returnEarly
    let emitterAddress ← call (sdk.getEmitterAddressEth event.sender)
    let vaaBytes ← wait (network.getSignedVAAWithRetry origin.fromChain emitterAddress event.sequence)
    let vaaHash ← call (sdk.parseVaaHash vaaBytes)
    let isRedeemed ← isTransferRedeemed sdk config network origin.toChain origin.isCCTP
      ("0x" ++ uint8ArrayToHex vaaHash)
    if isRedeemed then returnEarly
    let receipt ← call network.getTransactionReceipt
    let orderResponse ←
      getOrderResponseFromVaa sdk network vaaBytes origin.fromChain origin.isCCTP receipt
    handleOrderResponse sdk config orderResponse origin.toChain responseType

section

variable {sdk : Sdk} {config : RelayerConfig} {network : Network}

theorem parseOrigin_noSubmit {sender : String} {payloadArray : Bytes} :
    NoSubmit (parseOrigin sdk config sender payloadArray) := by
  unfold parseOrigin
  refine noSubmit_bind (noSubmit_call _) fun payloadType => ?_
  split
  · refine noSubmit_bind (noSubmit_call _) fun fromDomain => ?_
    split
    · exact noSubmit_returnEarly
    · refine noSubmit_bind (noSubmit_call _) fun toDomain => ?_
      split
      · exact noSubmit_returnEarly
      · exact noSubmit_bind (noSubmit_call _) fun _ => noSubmit_pure _
  · split
    · refine noSubmit_bind (noSubmit_call _) fun fromChain => noSubmit_bind (noSubmit_call _)
        fun _ => noSubmit_bind (noSubmit_call _) fun _ => ?_
      split
      · exact noSubmit_returnEarly
      · exact noSubmit_pure _
    · exact noSubmit_returnEarly

/-- What a derived origin says: its source chain and sender come from the payload as
`SenderSource` describes, and its address is the conversion of the sender bytes. -/
theorem parseOrigin_source {sender : String} {payloadArray : Bytes} {origin : Origin}
    (h : parseOrigin sdk config sender payloadArray = .ok origin) :
    ∃ senderBytes, SenderSource sdk config sender payloadArray origin.fromChain senderBytes ∧
      sdk.tryUint8ArrayToNative senderBytes (some origin.fromChain) = .ok origin.fromAddress := by
  unfold parseOrigin at h
  obtain ⟨payloadType, hType, h⟩ := bind_eq_ok h
  rw [call_eq_ok] at hType
  split at h
  · subst payloadType
    obtain ⟨fromDomain, hDomain, h⟩ := bind_eq_ok h
    rw [call_eq_ok] at hDomain
    split at h
    · cases h
    · rename_i fromChain hChain
      obtain ⟨toDomain, -, h⟩ := bind_eq_ok h
      split at h
      · cases h
      · obtain ⟨fromAddress, hAddress, h⟩ := bind_eq_ok h
        cases h
        exact ⟨_, .inl ⟨hType, ⟨fromDomain, hDomain, hChain⟩, rfl⟩, call_eq_ok.mp hAddress⟩
  · split at h
    · subst payloadType
      obtain ⟨fromChain, hChain, h⟩ := bind_eq_ok h
      obtain ⟨toChain, -, h⟩ := bind_eq_ok h
      obtain ⟨fromAddress, hAddress, h⟩ := bind_eq_ok h
      rw [call_eq_ok] at hChain hAddress
      split at h
      · cases h
      · cases h
        exact ⟨_, .inr ⟨hType, hChain, rfl⟩, hAddress⟩
    · cases h

/-- A valid sender is the matching engine on its chain or the router of its chain, as
`getAddress` compares addresses. -/
theorem isValidSender_eq_true {fromChain : Nat} {fromAddress : String}
    (h : isValidSender sdk config fromChain fromAddress = .ok true) :
    (fromChain = config.matchingEngineChain ∧ ∃ address, sdk.getAddress fromAddress = .ok address ∧
        sdk.getAddress config.matchingEngineAddress = .ok address) ∨
      ∃ route address, config.executionRoutes.lookup fromChain = some route ∧
        sdk.getAddress fromAddress = .ok address ∧ sdk.getAddress route.router = .ok address := by
  unfold isValidSender at h
  obtain ⟨validFromAddress, hValid, h⟩ := bind_eq_ok h
  obtain ⟨isMatchingEngine, hMatching, h⟩ := bind_eq_ok h
  cases isMatchingEngine with
  | true =>
      split at hMatching
      · rename_i hChain
        cases hEngine : sdk.getAddress config.matchingEngineAddress with
        | error e => simp [hEngine, Functor.map, Except.map] at hMatching
        | ok address =>
            simp only [hEngine, Functor.map, Except.map, Except.ok.injEq, decide_eq_true_eq] at hMatching
            exact .inl ⟨hChain, address, hMatching ▸ hValid, rfl⟩
      · cases hMatching
  | false =>
      simp only [Bool.false_eq_true, if_false] at h
      obtain ⟨router, hRouter, h⟩ := bind_eq_ok h
      obtain ⟨route, hRoute, rfl⟩ := routeField_eq_ok hRouter
      obtain ⟨router', hRouter', h⟩ := bind_eq_ok h
      simp only [pure, Except.pure, Except.ok.injEq, decide_eq_true_eq] at h
      exact .inr ⟨route, validFromAddress, hRoute, hValid, h ▸ hRouter'⟩

theorem isTransferRedeemed_noSubmit {chainId : Nat} {isCCTP : Bool} {vaaHash : String} :
    NoSubmit (isTransferRedeemed sdk config network chainId isCCTP vaaHash) := by
  unfold isTransferRedeemed
  split <;> exact noSubmit_bind (noSubmit_call _) fun _ =>
    noSubmit_bind (noSubmit_call _) fun _ => noSubmit_call _

/-- The answer of `isTransferRedeemed` is what the chain answered at the address `getAddress`
gives for the CCTP contract registered for it, for a CCTP payload, or else for its token
bridge. -/
theorem isTransferRedeemed_eq_ok {chainId : Nat} {isCCTP : Bool} {vaaHash : String}
    {redeemed : Bool} (h : isTransferRedeemed sdk config network chainId isCCTP vaaHash = .ok redeemed) :
    ∃ route contract, config.executionRoutes.lookup chainId = some route ∧
      if isCCTP then sdk.getAddress route.cctp = .ok contract ∧
          network.isMessageConsumed chainId contract vaaHash = .ok redeemed
        else sdk.getAddress route.bridge = .ok contract ∧
          network.isTransferCompleted chainId contract vaaHash = .ok redeemed := by
  unfold isTransferRedeemed at h
  split at h <;> rename_i hCCTP
  all_goals
    obtain ⟨_, hConfigured, h⟩ := bind_eq_ok h
    obtain ⟨route, hRoute, rfl⟩ := routeField_eq_ok (call_eq_ok.mp hConfigured)
    obtain ⟨contract, hContract, h⟩ := bind_eq_ok h
    exact ⟨route, contract, hRoute, by simpa [hCCTP] using And.intro hContract h⟩

theorem getOrderResponseFromVaa_noSubmit {vaa : Bytes} {fromChain : Nat} {isCCTP : Bool}
    {receipt : ContractReceipt} :
    NoSubmit (getOrderResponseFromVaa sdk network vaa fromChain isCCTP receipt) := by
  unfold getOrderResponseFromVaa getRedeemParameters handleCircleMessageInLogs
  split
  · refine noSubmit_bind (handleCircleMessageInLogsWith_noSubmit _ _ _ _ _) fun _ => ?_
    split
    split
    · exact noSubmit_pure _
    · exact noSubmit_call _
  · exact noSubmit_pure _

/-- `handleOrderResponse` submits to the native-swap contract of the chain it is given a fill
for a response of type `TYPE_FILL` and a revert for one of type `TYPE_REVERT`. -/
theorem handleOrderResponse_submitted {response : OrderResponse} {toChain responseType : Nat}
    {submission : Submission}
    (h : handleOrderResponse sdk config response toChain responseType =
      .error (.submitted submission)) :
    ∃ nativeSwap, (∃ route, config.executionRoutes.lookup toChain = some route ∧
        sdk.getAddress route.nativeSwap = .ok nativeSwap) ∧
      ((responseType = typeFill ∧ submission = .recvAndSwapExactNativeIn toChain nativeSwap response) ∨
        (responseType = typeRevert ∧ submission = .handleOrderRevert toChain nativeSwap response)) := by
  rw [handleOrderResponse, rethrowAs_eq_submitted] at h
  obtain ⟨configured, hConfigured, h⟩ := bind_submitted (noSubmit_call _) h
  obtain ⟨route, hRoute, rfl⟩ := routeField_eq_ok (call_eq_ok.mp hConfigured)
  obtain ⟨nativeSwap, hNativeSwap, h⟩ := bind_submitted (noSubmit_call _) h
  refine ⟨nativeSwap, ⟨route, hRoute, call_eq_ok.mp hNativeSwap⟩, ?_⟩
  split at h
  · rename_i hFill
    simp only [submit, Except.error.injEq, Outcome.submitted.injEq] at h
    exact .inl ⟨hFill, h.symm⟩
  · split at h
    · rename_i hRevert
      simp only [submit, Except.error.injEq, Outcome.submitted.injEq] at h
      exact .inr ⟨hRevert, h.symm⟩
    · cases h

/-- The order response is the hex of the VAA with, for a CCTP order, the Circle message that the
receipt's logs hold and the attestation of its hash, and otherwise `0x` twice. -/
theorem getOrderResponseFromVaa_eq_ok {vaa : Bytes} {fromChain : Nat} {isCCTP : Bool}
    {receipt : ContractReceipt} {response : OrderResponse}
    (h : getOrderResponseFromVaa sdk network vaa fromChain isCCTP receipt = .ok response) :
    ∃ circleBridgeMessage circleAttestation,
      response = ⟨"0x" ++ uint8ArrayToHex vaa, circleBridgeMessage, circleAttestation⟩ ∧
      ((isCCTP = true ∧ ∃ circleMessageHash,
          findCircleMessageInLogs sdk receipt.logs (circleEmitterAddresses fromChain) =
            .ok (some circleBridgeMessage) ∧
          sdk.keccak256 circleBridgeMessage = .ok circleMessageHash ∧
          network.getCircleAttestation circleMessageHash = some circleAttestation) ∨
        (isCCTP = false ∧ circleBridgeMessage = "0x" ∧ circleAttestation = "0x")) := by
  unfold getOrderResponseFromVaa at h
  split at h
  · rename_i hCctp
    unfold getRedeemParameters handleCircleMessageInLogs at h
    obtain ⟨⟨circleMessage, attestation⟩, hFound, h⟩ := bind_eq_ok h
    rcases circleMessage with _ | circleMessage
    · cases h
    rcases attestation with _ | attestation
    · cases h
    cases h
    exact ⟨circleMessage, attestation, rfl, .inl ⟨hCctp, handleCircleMessageInLogsWith_eq_ok hFound⟩⟩
  · rename_i hCctp
    cases h
    exact ⟨"0x", "0x", rfl, .inr ⟨by simpa using hCctp, rfl, rfl⟩⟩

/-- What a run of the handler that submits went through: the origin, the sender check, the
response type, the VAA and its hash, the redeemed-status query, the receipt, the order
response, and then an order response that submitted. -/
theorem handleRelayerEvent_cases {event : LogMessagePublished} {submission : Submission}
    (h : handleRelayerEvent sdk config network event = .submitted submission) :
    ∃ origin responseType emitterAddress vaa vaaHash receipt response,
      parseOrigin sdk config event.sender event.payload = .ok origin ∧
      isValidSender sdk config origin.fromChain origin.fromAddress = .ok true ∧
      parseMessageType event.payload origin.isCCTP = .ok responseType ∧
      sdk.getEmitterAddressEth event.sender = .ok emitterAddress ∧
      network.getSignedVAAWithRetry origin.fromChain emitterAddress event.sequence = some vaa ∧
      sdk.parseVaaHash vaa = .ok vaaHash ∧
      isTransferRedeemed sdk config network origin.toChain origin.isCCTP
        ("0x" ++ uint8ArrayToHex vaaHash) = .ok false ∧
      network.getTransactionReceipt = .ok receipt ∧
      getOrderResponseFromVaa sdk network vaa origin.fromChain origin.isCCTP receipt = .ok response ∧
      handleOrderResponse sdk config response origin.toChain responseType =
        .error (.submitted submission) := by
  rw [handleRelayerEvent, settle_eq_submitted] at h
  obtain ⟨origin, hOrigin, h⟩ := bind_submitted parseOrigin_noSubmit h
  obtain ⟨validSender, hValid, h⟩ := bind_submitted (noSubmit_call _) h
  obtain ⟨hTrue, h⟩ := guard_submitted h
  obtain ⟨responseType, hType, h⟩ := bind_submitted (noSubmit_call _) h
  obtain ⟨-, h⟩ := guard_submitted h
  obtain ⟨emitterAddress, hEmitter, h⟩ := bind_submitted (noSubmit_call _) h
  obtain ⟨vaa, hVaa, h⟩ := bind_submitted (noSubmit_wait _) h
  obtain ⟨vaaHash, hHash, h⟩ := bind_submitted (noSubmit_call _) h
  obtain ⟨isRedeemed, hRedeemed, h⟩ := bind_submitted isTransferRedeemed_noSubmit h
  obtain ⟨hFalse, h⟩ := guard_submitted h
  obtain ⟨receipt, hReceipt, h⟩ := bind_submitted (noSubmit_call _) h
  obtain ⟨response, hResponse, h⟩ := bind_submitted getOrderResponseFromVaa_noSubmit h
  rw [Bool.not_eq_true', Bool.not_eq_false] at hTrue
  rw [Bool.not_eq_true] at hFalse
  rw [call_eq_ok] at hValid hType hEmitter hHash hReceipt
  rw [wait_eq_ok] at hVaa
  exact ⟨origin, responseType, emitterAddress, vaa, vaaHash, receipt, response, hOrigin,
    hTrue ▸ hValid, hType, hEmitter, hVaa, hHash, hFalse ▸ hRedeemed, hReceipt, hResponse, h⟩

/-- A submission of the native-swap relayer comes from an event whose sender bytes, on the
chain it derived, are the registered router, or the matching engine on its own chain. -/
theorem handleRelayerEvent_sender {event : LogMessagePublished} {submission : Submission}
    (h : handleRelayerEvent sdk config network event = .submitted submission) :
    ∃ fromChain senderBytes, SenderSource sdk config event.sender event.payload fromChain senderBytes ∧
      (RegisteredRouter sdk config fromChain senderBytes ∨
        fromChain = config.matchingEngineChain ∧
          ConvertsTo sdk fromChain senderBytes config.matchingEngineAddress) := by
  obtain ⟨origin, _, _, _, _, _, _, hOrigin, hValid, -⟩ := handleRelayerEvent_cases h
  obtain ⟨senderBytes, hSource, hNative⟩ := parseOrigin_source hOrigin
  refine ⟨origin.fromChain, senderBytes, hSource, ?_⟩
  rcases isValidSender_eq_true hValid with
    ⟨hChain, address, hFrom, hEngine⟩ | ⟨route, address, hRoute, hFrom, hRouter⟩
  · exact .inr ⟨hChain, origin.fromAddress, address, hNative, hFrom, hEngine⟩
  · exact .inl ⟨route, hRoute, origin.fromAddress, address, hNative, hFrom, hRouter⟩

/-- The native-swap relayer submits to a chain only after that chain answered that the VAA the
relayer fetched has not been redeemed, at the CCTP contract registered for the chain, for a CCTP
payload, or else at its token bridge; and it submits to the native-swap contract of the same
route. -/
theorem handleRelayerEvent_queries_redeemed {event : LogMessagePublished}
    {submission : Submission}
    (h : handleRelayerEvent sdk config network event = .submitted submission) :
    ∃ origin emitterAddress vaaBytes vaaHash route contract,
      parseOrigin sdk config event.sender event.payload = .ok origin ∧
      sdk.getEmitterAddressEth event.sender = .ok emitterAddress ∧
      network.getSignedVAAWithRetry origin.fromChain emitterAddress event.sequence = some vaaBytes ∧
      sdk.parseVaaHash vaaBytes = .ok vaaHash ∧
      config.executionRoutes.lookup origin.toChain = some route ∧
      (if origin.isCCTP then sdk.getAddress route.cctp = .ok contract ∧
          network.isMessageConsumed origin.toChain contract ("0x" ++ uint8ArrayToHex vaaHash) =
            .ok false
        else sdk.getAddress route.bridge = .ok contract ∧
          network.isTransferCompleted origin.toChain contract ("0x" ++ uint8ArrayToHex vaaHash) =
            .ok false) ∧
      ∃ nativeSwap response, sdk.getAddress route.nativeSwap = .ok nativeSwap ∧
        (submission = .recvAndSwapExactNativeIn origin.toChain nativeSwap response ∨
          submission = .handleOrderRevert origin.toChain nativeSwap response) := by
  obtain ⟨origin, _, emitterAddress, vaa, vaaHash, _, response, hOrigin, -, -, hEmitter, hVaa,
    hHash, hRedeemed, -, -, h⟩ := handleRelayerEvent_cases h
  obtain ⟨route, contract, hRoute, hContract⟩ := isTransferRedeemed_eq_ok hRedeemed
  obtain ⟨nativeSwap, ⟨route', hRoute', hNativeSwap⟩, hSubmission⟩ := handleOrderResponse_submitted h
  obtain rfl : route' = route := Option.some.inj (hRoute'.symm.trans hRoute)
  exact ⟨origin, emitterAddress, vaa, vaaHash, _, contract, hOrigin, hEmitter, hVaa, hHash,
    hRoute, hContract, nativeSwap, response, hNativeSwap, hSubmission.imp And.right And.right⟩

/-- What the native-swap relayer submits for an event: to the native-swap contract registered
for the target chain, `recvAndSwapExactNativeIn` for a response of type `TYPE_FILL` and
`handleOrderRevert` for one of type `TYPE_REVERT`, with the hex of the VAA it fetched for the
event's emitter and sequence; for a CCTP payload, with the Circle message of the event's receipt
and the attestation of its hash, and otherwise with `0x` for both. -/
theorem handleRelayerEvent_submits_fill_or_revert {event : LogMessagePublished} {submission : Submission}
    (h : handleRelayerEvent sdk config network event = .submitted submission) :
    ∃ origin responseType emitterAddress vaa nativeSwap circleBridgeMessage circleAttestation,
      parseOrigin sdk config event.sender event.payload = .ok origin ∧
      parseMessageType event.payload origin.isCCTP = .ok responseType ∧
      sdk.getEmitterAddressEth event.sender = .ok emitterAddress ∧
      network.getSignedVAAWithRetry origin.fromChain emitterAddress event.sequence = some vaa ∧
      (∃ route, config.executionRoutes.lookup origin.toChain = some route ∧
        sdk.getAddress route.nativeSwap = .ok nativeSwap) ∧
      ((origin.isCCTP = true ∧ ∃ receipt circleMessageHash,
          network.getTransactionReceipt = .ok receipt ∧
          findCircleMessageInLogs sdk receipt.logs (circleEmitterAddresses origin.fromChain) =
            .ok (some circleBridgeMessage) ∧
          sdk.keccak256 circleBridgeMessage = .ok circleMessageHash ∧
          network.getCircleAttestation circleMessageHash = some circleAttestation) ∨
        (origin.isCCTP = false ∧ circleBridgeMessage = "0x" ∧ circleAttestation = "0x")) ∧
      ((responseType = typeFill ∧ submission = .recvAndSwapExactNativeIn origin.toChain nativeSwap
          ⟨"0x" ++ uint8ArrayToHex vaa, circleBridgeMessage, circleAttestation⟩) ∨
        (responseType = typeRevert ∧ submission = .handleOrderRevert origin.toChain nativeSwap
          ⟨"0x" ++ uint8ArrayToHex vaa, circleBridgeMessage, circleAttestation⟩)) := by
  obtain ⟨origin, responseType, emitterAddress, vaa, _, receipt, response, hOrigin, -, hType,
    hEmitter, hVaa, -, -, hReceipt, hResponse, h⟩ := handleRelayerEvent_cases h
  obtain ⟨nativeSwap, hNativeSwap, hSubmission⟩ := handleOrderResponse_submitted h
  obtain ⟨circleBridgeMessage, circleAttestation, rfl, hCircle⟩ := getOrderResponseFromVaa_eq_ok hResponse
  refine ⟨origin, responseType, emitterAddress, vaa, nativeSwap, circleBridgeMessage,
    circleAttestation, hOrigin, hType, hEmitter, hVaa, hNativeSwap, ?_, hSubmission⟩
  exact hCircle.imp_left fun ⟨hCctp, hash, hFacts⟩ => ⟨hCctp, receipt, hash, hReceipt, hFacts⟩

end

end LiquidityLayer.Relayer.NativeSwap
