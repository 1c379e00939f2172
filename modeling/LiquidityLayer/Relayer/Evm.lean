import LiquidityLayer.Relayer.Basic

/-! `handleRelayerEvent` of the EVM relayer. It derives the source chain and the sender of an
order from the payload, returns unless the sender is the router registered for that chain,
fetches the VAA and calls the matching engine's `executeOrder`. It never asks a chain whether
the VAA has already been redeemed. -/

namespace LiquidityLayer.Relayer.Evm

open Handler

/-- `WORMHOLE_FEE`. -/
def wormholeFee : Nat := 0

/-- What the payload-type branch derives: the source chain, the sender's native address, and
whether the payload is a CCTP one. -/
structure Origin where
  fromChain : Nat
  fromAddress : String
  isCCTP : Bool
  deriving DecidableEq, Repr

/-- `findCircleMessageInLogs`: the message of the first log that the Circle emitter emitted. -/
def findCircleMessageInLogs (sdk : Sdk) (logs : List Log) (circleEmitterAddress : Option String) :
    Except String (Option String) :=
  match logs.find? fun log => some log.address = circleEmitterAddress with
  | none => .ok none
  | some log => some <$> sdk.parseMessageSent log

def handleCircleMessageInLogs (sdk : Sdk) (network : Network) (logs : List Log)
    (circleEmitterAddress : Option String) : Handler (Option String × Option String) :=
  handleCircleMessageInLogsWith (findCircleMessageInLogs sdk) sdk network logs circleEmitterAddress

/-- `executeCCTPOrder`: the redeem parameters from the receipt, then `executeOrder` with them. -/
def executeCCTPOrder (sdk : Sdk) (config : RelayerConfig) (network : Network)
    (receipt : ContractReceipt) (circleEmitterAddress : Option String) (vaa : Bytes) :
    Handler Unit :=
  rethrowAs "Failed to execute CCTP order: " do
    let (circleBridgeMessage, circleAttestation) ←
      handleCircleMessageInLogs sdk network receipt.logs circleEmitterAddress
    match circleBridgeMessage, circleAttestation with
    | some circleBridgeMessage, some circleAttestation =>
      submit (.executeOrderCctp config.matchingEngineAddress
        ⟨"0x" ++ uint8ArrayToHex vaa, circleBridgeMessage, circleAttestation⟩ wormholeFee)
    | _, _ => call (.error ("Error: Error parsing receipt, txhash: " ++ receipt.transactionHash))

def executeTokenBridgeOrder (config : RelayerConfig) (vaa : Bytes) : Handler Unit :=
  rethrowAs "Failed to execute token bridge order: "
    (submit (.executeOrderTokenBridge config.matchingEngineAddress ("0x" ++ uint8ArrayToHex vaa)
      wormholeFee))

/-- The "Parse the fromChain." branch on the payload type. A type-3 payload's address is
converted before the `null` check of its chain. -/
def parseOrigin (sdk : Sdk) (config : RelayerConfig) (sender : String) (payloadArray : Bytes) :
    Handler Origin := do
  let payloadType ← call (readUInt8 payloadArray 0)
  if payloadType = 1 then
    let fromDomain ← call (readUInt32BE payloadArray 65)
    match circleDomainToWormholeChain fromDomain with
    | none => returnEarly
    | some fromChain =>
      let fromAddress ←
        call (sdk.tryUint8ArrayToNative (subarray payloadArray 81 113) (some fromChain))
      return ⟨fromChain, fromAddress, true⟩
  else if payloadType = 3 then
    let fromChain ← call (getBridgeChainId sdk config sender)
    let fromAddress ← call (sdk.tryUint8ArrayToNative (subarray payloadArray 101 133) fromChain)
    match fromChain with
    | none => returnEarly
    | some fromChain => return ⟨fromChain, fromAddress, false⟩
  else returnEarly

/-- `handleRelayerEvent` of `evm/ts/relayer`. -/
def handleRelayerEvent (sdk : Sdk) (config : RelayerConfig) (network : Network)
    (event : LogMessagePublished) : Outcome :=
  settle do
    let origin ← parseOrigin sdk config event.sender event.payload
    let fromAddress ← call (sdk.getAddress origin.fromAddress)
    let router ← call (routeField config origin.fromChain "router" ExecutionRoute.router)
    let router ← call (sdk.getAddress router)
    if fromAddress ≠ router then returnEarly
    let emitterAddress ← call (sdk.getEmitterAddressEth event.sender)
    let vaaBytes ← wait (network.getSignedVAAWithRetry origin.fromChain emitterAddress event.sequence)
    if origin.isCCTP then
      let receipt ← call network.getTransactionReceipt
      executeCCTPOrder sdk config network receipt (circleEmitterAddresses origin.fromChain) vaaBytes
    else executeTokenBridgeOrder config vaaBytes

section

variable {sdk : Sdk} {config : RelayerConfig} {sender : String} {payloadArray : Bytes}

theorem parseOrigin_noSubmit : NoSubmit (parseOrigin sdk config sender payloadArray) := by
  unfold parseOrigin
  refine noSubmit_bind (noSubmit_call _) fun payloadType => ?_
  split
  · refine noSubmit_bind (noSubmit_call _) fun fromDomain => ?_
    split
    · exact noSubmit_returnEarly
    · exact noSubmit_bind (noSubmit_call _) fun _ => noSubmit_pure _
  · split
    · refine noSubmit_bind (noSubmit_call _) fun fromChain =>
        noSubmit_bind (noSubmit_call _) fun _ => ?_
      split
      · exact noSubmit_returnEarly
      · exact noSubmit_pure _
    · exact noSubmit_returnEarly

/-- What a derived origin can be: from a type-1 payload, a CCTP origin whose chain is that of
the domain at byte 65 and whose address is the conversion of bytes 81 to 113; from a type-3
payload, a token-bridge origin whose chain is the one of the emitter's bridge and whose address
is the conversion of bytes 101 to 133. -/
theorem parseOrigin_cases {origin : Origin}
    (h : parseOrigin sdk config sender payloadArray = .ok origin) :
    (readUInt8 payloadArray 0 = .ok 1 ∧ origin.isCCTP = true ∧
        (∃ fromDomain, readUInt32BE payloadArray 65 = .ok fromDomain ∧
          circleDomainToWormholeChain fromDomain = some origin.fromChain) ∧
        sdk.tryUint8ArrayToNative (subarray payloadArray 81 113) (some origin.fromChain) =
          .ok origin.fromAddress) ∨
      (readUInt8 payloadArray 0 = .ok 3 ∧ origin.isCCTP = false ∧
        getBridgeChainId sdk config sender = .ok (some origin.fromChain) ∧
        sdk.tryUint8ArrayToNative (subarray payloadArray 101 133) (some origin.fromChain) =
          .ok origin.fromAddress) := by
  unfold parseOrigin at h
  obtain ⟨payloadType, hType, h⟩ := bind_eq_ok h
  rw [call_eq_ok] at hType
  split at h
  · subst payloadType
    obtain ⟨fromDomain, hDomain, h⟩ := bind_eq_ok h
    split at h
    · cases h
    · rename_i fromChain hChain
      obtain ⟨fromAddress, hAddress, h⟩ := bind_eq_ok h
      cases h
      exact .inl ⟨hType, rfl, ⟨fromDomain, call_eq_ok.mp hDomain, hChain⟩, call_eq_ok.mp hAddress⟩
  · split at h
    · subst payloadType
      obtain ⟨fromChain, hChain, h⟩ := bind_eq_ok h
      obtain ⟨fromAddress, hAddress, h⟩ := bind_eq_ok h
      rw [call_eq_ok] at hChain hAddress
      split at h
      · cases h
      · cases h
        exact .inr ⟨hType, rfl, hChain, hAddress⟩
    · cases h

/-- What a derived origin says: its chain and sender come from the payload as
`SenderSource` describes, and its address is the conversion of the sender bytes. -/
theorem parseOrigin_source {origin : Origin}
    (h : parseOrigin sdk config sender payloadArray = .ok origin) :
    ∃ senderBytes, SenderSource sdk config sender payloadArray origin.fromChain senderBytes ∧
      sdk.tryUint8ArrayToNative senderBytes (some origin.fromChain) = .ok origin.fromAddress := by
  rcases parseOrigin_cases h with ⟨hType, -, hDomain, hAddress⟩ | ⟨hType, -, hChain, hAddress⟩
  · exact ⟨_, .inl ⟨hType, hDomain, rfl⟩, hAddress⟩
  · exact ⟨_, .inr ⟨hType, hChain, rfl⟩, hAddress⟩

end

section

variable {sdk : Sdk} {config : RelayerConfig} {network : Network} {submission : Submission}

/-- What a run of the handler that submits went through: the origin, the router check, the
emitter address and the VAA, and then an order that submitted. -/
theorem handleRelayerEvent_cases {event : LogMessagePublished}
    (h : handleRelayerEvent sdk config network event = .submitted submission) :
    ∃ origin fromAddress router emitterAddress vaa,
      parseOrigin sdk config event.sender event.payload = .ok origin ∧
      sdk.getAddress origin.fromAddress = .ok fromAddress ∧
      routeField config origin.fromChain "router" ExecutionRoute.router = .ok router ∧
      sdk.getAddress router = .ok fromAddress ∧
      sdk.getEmitterAddressEth event.sender = .ok emitterAddress ∧
      network.getSignedVAAWithRetry origin.fromChain emitterAddress event.sequence = some vaa ∧
      (if origin.isCCTP then do
          let receipt ← call network.getTransactionReceipt
          executeCCTPOrder sdk config network receipt (circleEmitterAddresses origin.fromChain) vaa
        else executeTokenBridgeOrder config vaa) = .error (.submitted submission) := by
  rw [handleRelayerEvent, settle_eq_submitted] at h
  obtain ⟨origin, hOrigin, h⟩ := bind_submitted parseOrigin_noSubmit h
  obtain ⟨fromAddress, hFrom, h⟩ := bind_submitted (noSubmit_call _) h
  obtain ⟨router, hRouter, h⟩ := bind_submitted (noSubmit_call _) h
  obtain ⟨router', hRouter', h⟩ := bind_submitted (noSubmit_call _) h
  obtain ⟨hSame, h⟩ := guard_submitted h
  obtain ⟨emitterAddress, hEmitter, h⟩ := bind_submitted (noSubmit_call _) h
  obtain ⟨vaa, hVaa, h⟩ := bind_submitted (noSubmit_wait _) h
  rw [call_eq_ok] at hFrom hRouter hRouter' hEmitter
  rw [wait_eq_ok] at hVaa
  exact ⟨origin, fromAddress, router, emitterAddress, vaa, hOrigin, hFrom, hRouter,
    not_not.mp hSame ▸ hRouter', hEmitter, hVaa, h⟩

/-- A submission of the EVM relayer comes from an event whose sender bytes, on the chain it
derived, are the registered router. -/
theorem handleRelayerEvent_router {event : LogMessagePublished}
    (h : handleRelayerEvent sdk config network event = .submitted submission) :
    ∃ fromChain senderBytes, SenderSource sdk config event.sender event.payload fromChain senderBytes ∧
      RegisteredRouter sdk config fromChain senderBytes := by
  obtain ⟨origin, fromAddress, router, _, _, hOrigin, hFrom, hRouter, hRouter', -⟩ :=
    handleRelayerEvent_cases h
  obtain ⟨senderBytes, hSource, hNative⟩ := parseOrigin_source hOrigin
  obtain ⟨route, hRoute, rfl⟩ := routeField_eq_ok hRouter
  exact ⟨origin.fromChain, senderBytes, hSource,
    route, hRoute, origin.fromAddress, fromAddress, hNative, hFrom, hRouter'⟩

/-- A CCTP order submits the VAA with the Circle message that the receipt's logs hold and the
attestation of its hash. -/
theorem executeCCTPOrder_submitted {receipt : ContractReceipt} {circleEmitterAddress : Option String}
    {vaa : Bytes}
    (h : executeCCTPOrder sdk config network receipt circleEmitterAddress vaa =
      .error (.submitted submission)) :
    ∃ circleMessage attestation circleMessageHash,
      findCircleMessageInLogs sdk receipt.logs circleEmitterAddress = .ok (some circleMessage) ∧
      sdk.keccak256 circleMessage = .ok circleMessageHash ∧
      network.getCircleAttestation circleMessageHash = some attestation ∧
      submission = .executeOrderCctp config.matchingEngineAddress
        ⟨"0x" ++ uint8ArrayToHex vaa, circleMessage, attestation⟩ wormholeFee := by
  rw [executeCCTPOrder, rethrowAs_eq_submitted] at h
  obtain ⟨⟨circleMessage, attestation⟩, hFound, h⟩ :=
    bind_submitted (handleCircleMessageInLogsWith_noSubmit _ _ _ _ _) h
  rcases circleMessage with _ | circleMessage
  · exact absurd h (noSubmit_call _ _)
  rcases attestation with _ | attestation
  · exact absurd h (noSubmit_call _ _)
  cases h
  obtain ⟨circleMessageHash, hFind, hHash, hAttestation⟩ := handleCircleMessageInLogsWith_eq_ok hFound
  exact ⟨circleMessage, attestation, circleMessageHash, hFind, hHash, hAttestation, rfl⟩

/-- What the EVM relayer submits for an event: the hex of the VAA it fetched for the event's
emitter and sequence, to the matching engine's `executeOrder` with fee `WORMHOLE_FEE`; over
CCTP for a type-1 payload, with the Circle message of the event's receipt and the attestation
of its hash, and over the token bridge for a type-3 payload. -/
theorem handleRelayerEvent_submits_executeOrder {event : LogMessagePublished}
    (h : handleRelayerEvent sdk config network event = .submitted submission) :
    ∃ origin emitterAddress vaa,
      parseOrigin sdk config event.sender event.payload = .ok origin ∧
      sdk.getEmitterAddressEth event.sender = .ok emitterAddress ∧
      network.getSignedVAAWithRetry origin.fromChain emitterAddress event.sequence = some vaa ∧
      ((readUInt8 event.payload 0 = .ok 1 ∧
          ∃ receipt circleMessage attestation circleMessageHash,
            network.getTransactionReceipt = .ok receipt ∧
            findCircleMessageInLogs sdk receipt.logs (circleEmitterAddresses origin.fromChain) =
              .ok (some circleMessage) ∧
            sdk.keccak256 circleMessage = .ok circleMessageHash ∧
            network.getCircleAttestation circleMessageHash = some attestation ∧
            submission = .executeOrderCctp config.matchingEngineAddress
              ⟨"0x" ++ uint8ArrayToHex vaa, circleMessage, attestation⟩ wormholeFee) ∨
        (readUInt8 event.payload 0 = .ok 3 ∧
          submission = .executeOrderTokenBridge config.matchingEngineAddress
            ("0x" ++ uint8ArrayToHex vaa) wormholeFee)) := by
  obtain ⟨origin, _, _, emitterAddress, vaa, hOrigin, -, -, -, hEmitter, hVaa, h⟩ :=
    handleRelayerEvent_cases h
  refine ⟨origin, emitterAddress, vaa, hOrigin, hEmitter, hVaa, ?_⟩
  rcases parseOrigin_cases hOrigin with ⟨hType, hCctp, -⟩ | ⟨hType, hCctp, -⟩
  · rw [hCctp, if_pos rfl] at h
    obtain ⟨receipt, hReceipt, h⟩ := bind_submitted (noSubmit_call _) h
    obtain ⟨circleMessage, attestation, circleMessageHash, hCircle⟩ := executeCCTPOrder_submitted h
    exact .inl ⟨hType, receipt, circleMessage, attestation, circleMessageHash,
      call_eq_ok.mp hReceipt, hCircle⟩
  · rw [hCctp, if_neg Bool.false_ne_true, executeTokenBridgeOrder, rethrowAs_eq_submitted] at h
    cases h
    exact .inr ⟨hType, rfl⟩

end

end LiquidityLayer.Relayer.Evm
