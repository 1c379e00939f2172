import LiquidityLayer.Buffer

/-! The matching engine's account data as the TypeScript client holds it: auction
parameters, the `AuctionInfo` of one auction, and the entries of an `AuctionHistory`.
Unsigned integers of every width (`number`, `BN`) are natural numbers here. -/

namespace LiquidityLayer.MatchingEngine

/-- A Solana `PublicKey`, by its 32-byte big-endian form (`toBytes()`). -/
structure PublicKey where
  bytes : Bytes
  length_bytes : bytes.length = 32
  deriving DecidableEq, Repr

/-- `new PublicKey(bytes)` for at most 32 bytes: web3.js reads them as one big-endian
number, so the key is the bytes padded on the left with zeros. Longer inputs throw there;
the decoders below only pass `subarray`s of 32 bytes or fewer. -/
def PublicKey.new (bytes : Bytes) : PublicKey where
  bytes := List.replicate (32 - bytes.length) 0 ++ bytes.take 32
  length_bytes := by
    simp only [List.length_append, List.length_replicate, List.length_take]
    omega

@[simp] theorem PublicKey.new_bytes (key : PublicKey) : PublicKey.new key.bytes = key := by
  cases key with
  | mk bytes hLength => simp [PublicKey.new, hLength, List.take_of_length_le]

/-- The parameters of one auction configuration that the client's arithmetic reads. -/
structure AuctionParameters where
  userPenaltyRewardBps : Nat
  initialPenaltyBps : Nat
  duration : Nat
  gracePeriod : Nat
  penaltyPeriod : Nat
  minOfferDeltaBps : Nat
  securityDepositBase : Nat
  securityDepositBps : Nat
  deriving DecidableEq, Repr

/-- The destination-asset part of an auction's info, present for swaps. -/
structure AuctionDestinationAssetInfo where
  custodyTokenBump : Nat
  amountOut : Nat
  deriving DecidableEq, Repr

/-- `AuctionInfo`: the state of one auction, also kept in each history entry. -/
structure AuctionInfo where
  configId : Nat
  custodyTokenBump : Nat
  vaaSequence : Nat
  sourceChain : Nat
  bestOfferToken : PublicKey
  initialOfferToken : PublicKey
  startSlot : Nat
  amountIn : Nat
  securityDeposit : Nat
  offerPrice : Nat
  redeemerMessageLen : Nat
  destinationAssetInfo : Option AuctionDestinationAssetInfo
  deriving DecidableEq, Repr

/-- One settled auction in an `AuctionHistory`. -/
structure AuctionEntry where
  vaaHash : Bytes
  vaaTimestamp : Nat
  info : AuctionInfo
  deriving DecidableEq, Repr

structure AuctionHistoryHeader where
  id : Nat
  minTimestamp : Option Nat
  maxTimestamp : Option Nat
  deriving DecidableEq, Repr

/-- An `AuctionHistory` account: its header and its entries, in order. -/
structure AuctionHistory where
  header : AuctionHistoryHeader
  data : List AuctionEntry
  deriving DecidableEq, Repr

end LiquidityLayer.MatchingEngine
