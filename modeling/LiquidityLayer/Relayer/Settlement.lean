import LiquidityLayer.Relayer.Evm
import LiquidityLayer.Relayer.NativeSwap

/-! The two relayers side by side. Both submit a settlement only for an event whose sender
bytes are the registered router of the chain they derived (the native-swap relayer also takes
the matching engine on its own chain). Only the native-swap relayer asks the target chain
whether the VAA has already been redeemed; the EVM relayer submits again for a redeemed one. -/

namespace LiquidityLayer.Relayer

/-- For every event, configuration, SDK and network: a settlement that either relayer submits
comes from a type-1 payload with a known CCTP domain or a type-3 payload whose emitter
resolves to a chain, and its sender bytes convert to that chain's registered router, or, in
the native-swap relayer, to the matching engine on the matching engine's chain. -/
theorem handleRelayerEvent_submits_only_from_router (sdk : Sdk) (config : RelayerConfig)
    (network : Network) (event : LogMessagePublished) (submission : Submission) :
    (Evm.handleRelayerEvent sdk config network event = .submitted submission →
      ∃ fromChain senderBytes, SenderSource sdk config event.sender event.payload fromChain senderBytes ∧
        RegisteredRouter sdk config fromChain senderBytes) ∧
    (NativeSwap.handleRelayerEvent sdk config network event = .submitted submission →
      ∃ fromChain senderBytes, SenderSource sdk config event.sender event.payload fromChain senderBytes ∧
        (RegisteredRouter sdk config fromChain senderBytes ∨
          fromChain = config.matchingEngineChain ∧
            ConvertsTo sdk fromChain senderBytes config.matchingEngineAddress)) :=
  ⟨Evm.handleRelayerEvent_router, NativeSwap.handleRelayerEvent_sender⟩

/-- An SDK for the samples: addresses are their own checksummed form, and 32 address bytes
convert to the hex of their last 20. -/
def sampleSdk : Sdk where
  getAddress address := .ok address
  tryUint8ArrayToNative bytes _ := .ok ("0x" ++ uint8ArrayToHex (bytes.drop 12))
  getEmitterAddressEth address := .ok address
  parseVaaHash vaa := .ok vaa
  keccak256 message := .ok message
  parseMessageSent log := .ok log.data

/-- Routes on chains 2 and 6, the router of chain 2 being the address of twenty `0x11` bytes;
the matching engine is on chain 6. -/
def sampleConfig : RelayerConfig where
  executionRoutes :=
    [(2, ⟨"0x" ++ uint8ArrayToHex (List.replicate 20 17), "0xbridge2", "0xcctp2", "0xswap2"⟩),
     (6, ⟨"0xrouter6", "0xbridge6", "0xcctp6", "0xswap6"⟩)]
  matchingEngineChain := 6
  matchingEngineAddress := "0xengine"

/-- A fill order from chain 2 to chain 6 through the token bridge of chain 2, sent by its
router. -/
def sampleEvent : LogMessagePublished where
  sender := "0xbridge2"
  sequence := 1
  payload := [3] ++ List.replicate 98 0 ++ [0, 6] ++ List.replicate 12 0 ++ List.replicate 20 17 ++ [16]

/-- A network that gives the VAA `[1, 2]` and answers every redeemed-status query with
`redeemed`. -/
def sampleNetwork (redeemed : Bool) : Network where
  getSignedVAAWithRetry _ _ _ := some [1, 2]
  getTransactionReceipt := .ok ⟨[], "0xreceipt"⟩
  getCircleAttestation _ := none
  isMessageConsumed _ _ _ := .ok redeemed
  isTransferCompleted _ _ _ := .ok redeemed

set_option maxRecDepth 2000 in
/-- The native-swap relayer fills `sampleEvent` on chain 6, whose network has not redeemed it. -/
theorem sampleEvent_nativeSwap_submitted :
    NativeSwap.handleRelayerEvent sampleSdk sampleConfig (sampleNetwork false) sampleEvent =
      .submitted (.recvAndSwapExactNativeIn 6 "0xswap6" ⟨"0x0102", "0x", "0x"⟩) := by
  decide

set_option maxRecDepth 2000 in
/-- Both relayers submit for `sampleEvent`, whose sender bytes are the router of chain 2. -/
theorem handleRelayerEvent_submits_only_from_router_sample :
    Evm.handleRelayerEvent sampleSdk sampleConfig (sampleNetwork false) sampleEvent =
        .submitted (.executeOrderTokenBridge "0xengine" "0x0102" 0) ∧
      NativeSwap.handleRelayerEvent sampleSdk sampleConfig (sampleNetwork false) sampleEvent =
        .submitted (.recvAndSwapExactNativeIn 6 "0xswap6" ⟨"0x0102", "0x", "0x"⟩) ∧
      (∃ fromChain senderBytes,
        SenderSource sampleSdk sampleConfig sampleEvent.sender sampleEvent.payload fromChain senderBytes ∧
        RegisteredRouter sampleSdk sampleConfig fromChain senderBytes) ∧
      ∃ fromChain senderBytes,
        SenderSource sampleSdk sampleConfig sampleEvent.sender sampleEvent.payload fromChain senderBytes ∧
        (RegisteredRouter sampleSdk sampleConfig fromChain senderBytes ∨
          fromChain = sampleConfig.matchingEngineChain ∧
            ConvertsTo sampleSdk fromChain senderBytes sampleConfig.matchingEngineAddress) :=
  have hEvm : Evm.handleRelayerEvent sampleSdk sampleConfig (sampleNetwork false) sampleEvent =
      .submitted (.executeOrderTokenBridge "0xengine" "0x0102" 0) := by
    decide
  ⟨hEvm, sampleEvent_nativeSwap_submitted,
    (handleRelayerEvent_submits_only_from_router _ _ _ _ _).1 hEvm,
    (handleRelayerEvent_submits_only_from_router _ _ _ _ _).2 sampleEvent_nativeSwap_submitted⟩

set_option maxRecDepth 2000 in
/-- The order of `sampleEvent` already redeemed on chain 6: the native-swap relayer asks chain 6
and returns, while the EVM relayer, which never asks, submits `executeOrder` with the VAA. -/
theorem handleRelayerEvent_resubmits_redeemed :
    NativeSwap.handleRelayerEvent sampleSdk sampleConfig (sampleNetwork true) sampleEvent =
        .returned ∧
      Evm.handleRelayerEvent sampleSdk sampleConfig (sampleNetwork true) sampleEvent =
        .submitted (.executeOrderTokenBridge "0xengine" "0x0102" 0) := by
  decide

theorem handleRelayerEvent_queries_redeemed_sample :
    NativeSwap.handleRelayerEvent sampleSdk sampleConfig (sampleNetwork false) sampleEvent =
        .submitted (.recvAndSwapExactNativeIn 6 "0xswap6" ⟨"0x0102", "0x", "0x"⟩) ∧
      ∃ origin emitterAddress vaaBytes vaaHash route contract,
        NativeSwap.parseOrigin sampleSdk sampleConfig sampleEvent.sender sampleEvent.payload =
          .ok origin ∧
        sampleSdk.getEmitterAddressEth sampleEvent.sender = .ok emitterAddress ∧
        (sampleNetwork false).getSignedVAAWithRetry origin.fromChain emitterAddress
          sampleEvent.sequence = some vaaBytes ∧
        sampleSdk.parseVaaHash vaaBytes = .ok vaaHash ∧
        sampleConfig.executionRoutes.lookup origin.toChain = some route ∧
        (if origin.isCCTP then sampleSdk.getAddress route.cctp = .ok contract ∧
            (sampleNetwork false).isMessageConsumed origin.toChain contract
              ("0x" ++ uint8ArrayToHex vaaHash) = .ok false
          else sampleSdk.getAddress route.bridge = .ok contract ∧
            (sampleNetwork false).isTransferCompleted origin.toChain contract
              ("0x" ++ uint8ArrayToHex vaaHash) = .ok false) ∧
        ∃ nativeSwap response, sampleSdk.getAddress route.nativeSwap = .ok nativeSwap ∧
          (Submission.recvAndSwapExactNativeIn 6 "0xswap6" ⟨"0x0102", "0x", "0x"⟩ =
              .recvAndSwapExactNativeIn origin.toChain nativeSwap response ∨
            Submission.recvAndSwapExactNativeIn 6 "0xswap6" ⟨"0x0102", "0x", "0x"⟩ =
              .handleOrderRevert origin.toChain nativeSwap response) :=
  ⟨sampleEvent_nativeSwap_submitted,
    NativeSwap.handleRelayerEvent_queries_redeemed sampleEvent_nativeSwap_submitted⟩

set_option maxRecDepth 2000 in
theorem handleRelayerEvent_submits_executeOrder_sample :
    Evm.handleRelayerEvent sampleSdk sampleConfig (sampleNetwork false) sampleEvent =
        .submitted (.executeOrderTokenBridge "0xengine" "0x0102" 0) ∧
      ∃ origin emitterAddress vaa,
        Evm.parseOrigin sampleSdk sampleConfig sampleEvent.sender sampleEvent.payload = .ok origin ∧
        sampleSdk.getEmitterAddressEth sampleEvent.sender = .ok emitterAddress ∧
        (sampleNetwork false).getSignedVAAWithRetry origin.fromChain emitterAddress
          sampleEvent.sequence = some vaa ∧
        ((readUInt8 sampleEvent.payload 0 = .ok 1 ∧
            ∃ receipt circleMessage attestation circleMessageHash,
              (sampleNetwork false).getTransactionReceipt = .ok receipt ∧
              Evm.findCircleMessageInLogs sampleSdk receipt.logs
                (circleEmitterAddresses origin.fromChain) = .ok (some circleMessage) ∧
              sampleSdk.keccak256 circleMessage = .ok circleMessageHash ∧
              (sampleNetwork false).getCircleAttestation circleMessageHash = some attestation ∧
              Submission.executeOrderTokenBridge "0xengine" "0x0102" 0 =
                .executeOrderCctp sampleConfig.matchingEngineAddress
                  ⟨"0x" ++ uint8ArrayToHex vaa, circleMessage, attestation⟩ Evm.wormholeFee) ∨
          (readUInt8 sampleEvent.payload 0 = .ok 3 ∧
            Submission.executeOrderTokenBridge "0xengine" "0x0102" 0 =
              .executeOrderTokenBridge sampleConfig.matchingEngineAddress
                ("0x" ++ uint8ArrayToHex vaa) Evm.wormholeFee)) :=
  have hSubmitted : Evm.handleRelayerEvent sampleSdk sampleConfig (sampleNetwork false) sampleEvent =
      .submitted (.executeOrderTokenBridge "0xengine" "0x0102" 0) := by
    decide
  ⟨hSubmitted, Evm.handleRelayerEvent_submits_executeOrder hSubmitted⟩

set_option maxRecDepth 2000 in
theorem handleRelayerEvent_submits_fill_or_revert_sample :
    NativeSwap.handleRelayerEvent sampleSdk sampleConfig (sampleNetwork false) sampleEvent =
        .submitted (.recvAndSwapExactNativeIn 6 "0xswap6" ⟨"0x0102", "0x", "0x"⟩) ∧
      ∃ origin responseType emitterAddress vaa nativeSwap circleBridgeMessage circleAttestation,
        NativeSwap.parseOrigin sampleSdk sampleConfig sampleEvent.sender sampleEvent.payload =
          .ok origin ∧
        NativeSwap.parseMessageType sampleEvent.payload origin.isCCTP = .ok responseType ∧
        sampleSdk.getEmitterAddressEth sampleEvent.sender = .ok emitterAddress ∧
        (sampleNetwork false).getSignedVAAWithRetry origin.fromChain emitterAddress
          sampleEvent.sequence = some vaa ∧
        (∃ route, sampleConfig.executionRoutes.lookup origin.toChain = some route ∧
          sampleSdk.getAddress route.nativeSwap = .ok nativeSwap) ∧
        ((origin.isCCTP = true ∧ ∃ receipt circleMessageHash,
            (sampleNetwork false).getTransactionReceipt = .ok receipt ∧
            NativeSwap.findCircleMessageInLogs sampleSdk receipt.logs
              (circleEmitterAddresses origin.fromChain) = .ok (some circleBridgeMessage) ∧
            sampleSdk.keccak256 circleBridgeMessage = .ok circleMessageHash ∧
            (sampleNetwork false).getCircleAttestation circleMessageHash = some circleAttestation) ∨
          (origin.isCCTP = false ∧ circleBridgeMessage = "0x" ∧ circleAttestation = "0x")) ∧
        ((responseType = NativeSwap.typeFill ∧
            Submission.recvAndSwapExactNativeIn 6 "0xswap6" ⟨"0x0102", "0x", "0x"⟩ =
              .recvAndSwapExactNativeIn origin.toChain nativeSwap
                ⟨"0x" ++ uint8ArrayToHex vaa, circleBridgeMessage, circleAttestation⟩) ∨
          (responseType = NativeSwap.typeRevert ∧
            Submission.recvAndSwapExactNativeIn 6 "0xswap6" ⟨"0x0102", "0x", "0x"⟩ =
              .handleOrderRevert origin.toChain nativeSwap
                ⟨"0x" ++ uint8ArrayToHex vaa, circleBridgeMessage, circleAttestation⟩)) :=
  have hSubmitted : NativeSwap.handleRelayerEvent sampleSdk sampleConfig (sampleNetwork false)
      sampleEvent = .submitted (.recvAndSwapExactNativeIn 6 "0xswap6" ⟨"0x0102", "0x", "0x"⟩) := by
    decide
  ⟨hSubmitted, NativeSwap.handleRelayerEvent_submits_fill_or_revert hSubmitted⟩

end LiquidityLayer.Relayer
