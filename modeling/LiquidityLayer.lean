import LiquidityLayer.Buffer
import LiquidityLayer.MatchingEngine.State
import LiquidityLayer.MatchingEngine.Economics
import LiquidityLayer.MatchingEngine.AuctionHistory
import LiquidityLayer.MatchingEngine.EventCpi.Listener
import LiquidityLayer.MatchingEngine.EventCpi.Dedup
import LiquidityLayer.MatchingEngine.EventCpi.Queue
import LiquidityLayer.MatchingEngine.EventCpi.Delivery
import LiquidityLayer.MatchingEngine.EventCpi.SlotChange
import LiquidityLayer.Relayer.Basic
import LiquidityLayer.Relayer.Attestation
import LiquidityLayer.Relayer.Evm
import LiquidityLayer.Relayer.NativeSwap
import LiquidityLayer.Relayer.Settlement
import LiquidityLayer.EvmSdk.TransactionResult
