import LiquidityLayer.MatchingEngine.State
import Mathlib.Algebra.Order.Group.Int
import Mathlib.Tactic.Linarith

/-! The auction arithmetic of the matching engine client: the penalty on a late executor's
security deposit, the minimum bid increment and the notional security deposit. Each is
`bigint` arithmetic, where division truncates and a zero divisor throws. -/

namespace LiquidityLayer.MatchingEngine

/-- `FEE_PRECISION_MAX`: a basis-point field of one million is 100%. -/
def feePrecisionMax : Int := 1000000

/-- The `bigint` quotient `a / b`: truncated toward zero, and a `RangeError` when `b` is zero. -/
def bigIntDiv (a b : Int) : Except String Int :=
  if b = 0 then .error "RangeError: Division by zero" else .ok (a.tdiv b)

/-- What `computeDepositPenalty` returns. -/
structure DepositPenalty where
  penalty : Int
  userReward : Int
  deriving DecidableEq, Repr

/-- `MatchingEngineProgram.computeDepositPenalty`, with the auction parameters that it
fetches for `configId` passed in. -/
def computeDepositPenalty (auctionInfo : AuctionInfo) (currentSlot : Nat)
    (auctionParams : AuctionParameters) : Except String DepositPenalty := do
  let gracePeriod : Int := auctionParams.gracePeriod
  let slotsElapsed : Int :=
    (currentSlot : Int) - auctionInfo.startSlot - auctionParams.duration
  if slotsElapsed ≤ gracePeriod then
    return ⟨0, 0⟩
  let amount : Int := auctionInfo.securityDeposit
  let penaltyPeriod := slotsElapsed - gracePeriod
  let auctionPenaltySlots : Int := auctionParams.penaltyPeriod
  let initialPenaltyBps : Int := auctionParams.initialPenaltyBps
  let userPenaltyRewardBps : Int := auctionParams.userPenaltyRewardBps
  if penaltyPeriod ≥ auctionPenaltySlots ∨ initialPenaltyBps = feePrecisionMax then
    let userReward ← bigIntDiv (amount * userPenaltyRewardBps) feePrecisionMax
    return ⟨amount - userReward, userReward⟩
  else
    let basePenalty ← bigIntDiv (amount * initialPenaltyBps) feePrecisionMax
    let ramp ← bigIntDiv ((amount - basePenalty) * penaltyPeriod) auctionPenaltySlots
    let penalty := basePenalty + ramp
    let userReward ← bigIntDiv (penalty * userPenaltyRewardBps) feePrecisionMax
    return ⟨penalty - userReward, userReward⟩

/-- `MatchingEngineProgram.computeMinOfferDelta`, for the current configuration's parameters. -/
def computeMinOfferDelta (offerPrice : Nat) (auctionParams : AuctionParameters) :
    Except String Int := do
  let delta ← bigIntDiv (offerPrice * auctionParams.minOfferDeltaBps) feePrecisionMax
  return delta + 1

/-- `MatchingEngineProgram.computeNotionalSecurityDeposit`. -/
def computeNotionalSecurityDeposit (amountIn : Nat) (auctionParams : AuctionParameters) :
    Except String Int := do
  let share ← bigIntDiv (amountIn * auctionParams.securityDepositBps) feePrecisionMax
  return auctionParams.securityDepositBase + share

example : computeNotionalSecurityDeposit 1000000 ⟨0, 0, 0, 0, 0, 0, 0, 10000⟩ = .ok 10000 := rfl

/-- The slots past the end of the grace period, zero before it ends. -/
def lateSlots (auctionInfo : AuctionInfo) (currentSlot : Nat) (auctionParams : AuctionParameters) :
    Nat :=
  currentSlot - (auctionInfo.startSlot + auctionParams.duration + auctionParams.gracePeriod)

/-- The part of the security deposit a late executor forfeits, before the user's share is
taken out of it: nothing through the grace period, then `initialPenaltyBps` of it rising
linearly to all of it over `penaltyPeriod` slots. Stated on natural numbers;
`computeDepositPenalty_eq_carve` shows that the client computes exactly this. -/
def forfeited (auctionInfo : AuctionInfo) (currentSlot : Nat) (auctionParams : AuctionParameters) :
    Nat :=
  let late := lateSlots auctionInfo currentSlot auctionParams
  let amount := auctionInfo.securityDeposit
  if late = 0 then 0
  else if auctionParams.penaltyPeriod ≤ late ∨ auctionParams.initialPenaltyBps = 1000000 then amount
  else
    let basePenalty := amount * auctionParams.initialPenaltyBps / 1000000
    basePenalty + (amount - basePenalty) * late / auctionParams.penaltyPeriod

/-- Split a forfeited amount into the penalty and the user's reward, rounding the reward down. -/
def carve (auctionParams : AuctionParameters) (forfeit : Nat) : DepositPenalty :=
  let userReward := forfeit * auctionParams.userPenaltyRewardBps / 1000000
  ⟨((forfeit - userReward : Nat) : Int), (userReward : Int)⟩

theorem feePrecisionMax_eq : feePrecisionMax = ((1000000 : Nat) : Int) := rfl

theorem bigIntDiv_natCast (a b : Nat) (hb : 0 < b) :
    bigIntDiv a b = .ok ((a / b : Nat) : Int) := by
  have hNonzero : (b : Int) ≠ 0 := by omega
  rw [bigIntDiv, if_neg hNonzero, Int.tdiv_eq_ediv (by omega) (by omega)]
  rfl

theorem bigIntDiv_mul_natCast (a b c : Nat) (hc : 0 < c) :
    bigIntDiv ((a : Int) * b) c = .ok ((a * b / c : Nat) : Int) := by
  rw [← bigIntDiv_natCast _ _ hc, Nat.cast_mul]

/-- A share of at most 100% of an amount is at most the amount. -/
theorem mul_bps_div_le (amount bps : Nat) (h : bps ≤ 1000000) :
    amount * bps / 1000000 ≤ amount :=
  Nat.div_le_of_le_mul (by nlinarith)

/-- With both basis-point fields at most 100%, `computeDepositPenalty` divides only by
nonzero numbers, every intermediate value is nonnegative so truncation is floor division, and
its result is the forfeited amount with the user's share carved out. -/
theorem computeDepositPenalty_eq_carve (auctionInfo : AuctionInfo) (currentSlot : Nat)
    (auctionParams : AuctionParameters) (hInit : auctionParams.initialPenaltyBps ≤ 1000000)
    (hReward : auctionParams.userPenaltyRewardBps ≤ 1000000) :
    computeDepositPenalty auctionInfo currentSlot auctionParams =
      .ok (carve auctionParams (forfeited auctionInfo currentSlot auctionParams)) := by
  unfold computeDepositPenalty
  by_cases hGrace : lateSlots auctionInfo currentSlot auctionParams = 0
  · have hLe : (currentSlot : Int) - auctionInfo.startSlot - auctionParams.duration ≤
        auctionParams.gracePeriod := by
      unfold lateSlots at hGrace; omega
    simp [hLe, forfeited, hGrace, carve]
    rfl
  have hNotLe : ¬ (currentSlot : Int) - auctionInfo.startSlot - auctionParams.duration ≤
      auctionParams.gracePeriod := by
    unfold lateSlots at hGrace; omega
  have hElapsed : (currentSlot : Int) - auctionInfo.startSlot - auctionParams.duration -
      auctionParams.gracePeriod = (lateSlots auctionInfo currentSlot auctionParams : Int) := by
    unfold lateSlots at *; omega
  rw [if_neg hNotLe, hElapsed, feePrecisionMax_eq]
  simp only [forfeited, if_neg hGrace]
  by_cases hFull : auctionParams.penaltyPeriod ≤ lateSlots auctionInfo currentSlot auctionParams ∨
      auctionParams.initialPenaltyBps = 1000000
  · have hFullInt : (lateSlots auctionInfo currentSlot auctionParams : Int) ≥
        auctionParams.penaltyPeriod ∨
        (auctionParams.initialPenaltyBps : Int) = ((1000000 : Nat) : Int) := by omega
    simp only [if_pos hFull, if_pos hFullInt, bigIntDiv_mul_natCast _ _ _ (by norm_num : 0 < 1000000),
      carve, Nat.cast_sub (mul_bps_div_le _ _ hReward)]
    rfl
  · have hRampInt : ¬ ((lateSlots auctionInfo currentSlot auctionParams : Int) ≥
        auctionParams.penaltyPeriod ∨
        (auctionParams.initialPenaltyBps : Int) = ((1000000 : Nat) : Int)) := by omega
    have hBase := mul_bps_div_le auctionInfo.securityDeposit _ hInit
    have hPeriod : 0 < auctionParams.penaltyPeriod := by omega
    simp only [if_neg hFull, if_neg hRampInt, bigIntDiv_mul_natCast _ _ _ (by norm_num : 0 < 1000000),
      bind, Except.bind, pure, Except.pure, ← Nat.cast_sub hBase,
      bigIntDiv_mul_natCast _ _ _ hPeriod, ← Nat.cast_add, carve,
      Nat.cast_sub (mul_bps_div_le _ _ hReward)]

theorem computeDepositPenalty_eq_carve_sample :
    (250000 ≤ 1000000 ∧ 100000 ≤ 1000000) ∧
    computeDepositPenalty
        ⟨0, 0, 0, 1, PublicKey.new [], PublicKey.new [], 100, 5000000, 400000, 0, 0, none⟩ 160
        ⟨100000, 250000, 10, 2, 100, 0, 0, 0⟩ =
      .ok (carve ⟨100000, 250000, 10, 2, 100, 0, 0, 0⟩ (forfeited
        ⟨0, 0, 0, 1, PublicKey.new [], PublicKey.new [], 100, 5000000, 400000, 0, 0, none⟩ 160
        ⟨100000, 250000, 10, 2, 100, 0, 0, 0⟩)) :=
  ⟨⟨by decide, by decide⟩, computeDepositPenalty_eq_carve _ 160 _ (by decide) (by decide)⟩

section Forfeit

variable {auctionInfo : AuctionInfo} {auctionParams : AuctionParameters}

theorem lateSlots_mono {currentSlot currentSlot' : Nat} (h : currentSlot ≤ currentSlot') :
    lateSlots auctionInfo currentSlot auctionParams ≤
      lateSlots auctionInfo currentSlot' auctionParams := by
  unfold lateSlots; omega

/-- The ramp never passes the deposit: its linear part is below 100% before the penalty
period ends. -/
theorem forfeited_le_securityDeposit (currentSlot : Nat)
    (hInit : auctionParams.initialPenaltyBps ≤ 1000000) :
    forfeited auctionInfo currentSlot auctionParams ≤ auctionInfo.securityDeposit := by
  dsimp only [forfeited]
  split_ifs with hGrace hFull
  · exact Nat.zero_le _
  · exact le_rfl
  · have hBase := mul_bps_div_le auctionInfo.securityDeposit _ hInit
    have hRamp : (auctionInfo.securityDeposit - auctionInfo.securityDeposit *
          auctionParams.initialPenaltyBps / 1000000) *
        lateSlots auctionInfo currentSlot auctionParams / auctionParams.penaltyPeriod ≤
        auctionInfo.securityDeposit - auctionInfo.securityDeposit *
          auctionParams.initialPenaltyBps / 1000000 :=
      Nat.div_le_of_le_mul (by rw [Nat.mul_comm]; exact Nat.mul_le_mul_right _ (by omega))
    omega

/-- The forfeited amount never decreases as the current slot advances: across the grace
period, along the ramp, and into the full forfeit. -/
theorem forfeited_mono {currentSlot currentSlot' : Nat} (h : currentSlot ≤ currentSlot')
    (hInit : auctionParams.initialPenaltyBps ≤ 1000000) :
    forfeited auctionInfo currentSlot auctionParams ≤
      forfeited auctionInfo currentSlot' auctionParams := by
  have hLate : lateSlots auctionInfo currentSlot auctionParams ≤
      lateSlots auctionInfo currentSlot' auctionParams := lateSlots_mono h
  have hBound : forfeited auctionInfo currentSlot auctionParams ≤ auctionInfo.securityDeposit :=
    forfeited_le_securityDeposit currentSlot hInit
  dsimp only [forfeited] at hBound ⊢
  by_cases hGrace : lateSlots auctionInfo currentSlot auctionParams = 0
  · rw [if_pos hGrace]
    exact Nat.zero_le _
  have hGrace' : lateSlots auctionInfo currentSlot' auctionParams ≠ 0 := by omega
  by_cases hFull' : auctionParams.penaltyPeriod ≤ lateSlots auctionInfo currentSlot' auctionParams ∨
      auctionParams.initialPenaltyBps = 1000000
  · rwa [if_neg hGrace', if_pos hFull']
  have hFull : ¬ (auctionParams.penaltyPeriod ≤ lateSlots auctionInfo currentSlot auctionParams ∨
      auctionParams.initialPenaltyBps = 1000000) := by omega
  rw [if_neg hGrace, if_neg hFull, if_neg hGrace', if_neg hFull']
  exact Nat.add_le_add_left (Nat.div_le_div_right (Nat.mul_le_mul_left _ hLate)) _

end Forfeit

section Carve

variable {auctionParams : AuctionParameters}

theorem carve_add (forfeit : Nat) (hReward : auctionParams.userPenaltyRewardBps ≤ 1000000) :
    (carve auctionParams forfeit).penalty + (carve auctionParams forfeit).userReward = forfeit := by
  have hShare := mul_bps_div_le forfeit _ hReward
  simp only [carve]
  omega

theorem carve_userReward (forfeit : Nat) :
    (carve auctionParams forfeit).userReward =
      ((forfeit * auctionParams.userPenaltyRewardBps / 1000000 : Nat) : Int) := rfl

/-- Rounding the reward down never makes the penalty shrink as the forfeit grows: the
reward grows by at most what the forfeit grows by. -/
theorem carve_penalty_mono {forfeit forfeit' : Nat} (h : forfeit ≤ forfeit')
    (hReward : auctionParams.userPenaltyRewardBps ≤ 1000000) :
    (carve auctionParams forfeit).penalty ≤ (carve auctionParams forfeit').penalty := by
  have hShare := mul_bps_div_le forfeit _ hReward
  have hShare' := mul_bps_div_le forfeit' _ hReward
  have hGrowth : forfeit' * auctionParams.userPenaltyRewardBps / 1000000 ≤
      forfeit * auctionParams.userPenaltyRewardBps / 1000000 + (forfeit' - forfeit) := by
    calc forfeit' * auctionParams.userPenaltyRewardBps / 1000000
        ≤ (forfeit * auctionParams.userPenaltyRewardBps + (forfeit' - forfeit) * 1000000) /
            1000000 := Nat.div_le_div_right (by
              have hSplit : forfeit' = forfeit + (forfeit' - forfeit) := by omega
              rw [hSplit, Nat.add_mul, Nat.add_sub_cancel_left]
              exact Nat.add_le_add_left (Nat.mul_le_mul_left _ hReward) _)
      _ = forfeit * auctionParams.userPenaltyRewardBps / 1000000 + (forfeit' - forfeit) :=
            Nat.add_mul_div_right _ _ (by norm_num)
  simp only [carve]
  omega

theorem carve_userReward_mono {forfeit forfeit' : Nat} (h : forfeit ≤ forfeit') :
    (carve auctionParams forfeit).userReward ≤ (carve auctionParams forfeit').userReward := by
  simp only [carve_userReward, Nat.cast_le]
  exact Nat.div_le_div_right (Nat.mul_le_mul_right _ h)

end Carve

/-- With both basis-point fields at most 100%, the penalty computation never divides by
zero, and the deposit is split into a nonnegative penalty and a nonnegative user reward that
together never exceed it, the reward being the rounded-down share of their sum. -/
theorem computeDepositPenalty_within_deposit (auctionInfo : AuctionInfo) (currentSlot : Nat)
    (auctionParams : AuctionParameters) (hInit : auctionParams.initialPenaltyBps ≤ 1000000)
    (hReward : auctionParams.userPenaltyRewardBps ≤ 1000000) :
    ∃ result, computeDepositPenalty auctionInfo currentSlot auctionParams = .ok result ∧
      0 ≤ result.penalty ∧ 0 ≤ result.userReward ∧
      result.penalty + result.userReward ≤ auctionInfo.securityDeposit ∧
      result.userReward = (result.penalty + result.userReward) *
        auctionParams.userPenaltyRewardBps / 1000000 := by
  refine ⟨_, computeDepositPenalty_eq_carve _ _ _ hInit hReward, Int.natCast_nonneg _,
    Int.natCast_nonneg _, ?_, ?_⟩
  · rw [carve_add _ hReward]
    exact_mod_cast forfeited_le_securityDeposit currentSlot hInit
  · rw [carve_add _ hReward, carve_userReward]
    push_cast
    rfl

theorem computeDepositPenalty_within_deposit_sample :
    (250000 ≤ 1000000 ∧ 100000 ≤ 1000000) ∧
    ∃ result, computeDepositPenalty
        ⟨0, 0, 0, 1, PublicKey.new [], PublicKey.new [], 100, 5000000, 400000, 0, 0, none⟩ 160
        ⟨100000, 250000, 10, 2, 100, 0, 0, 0⟩ = .ok result ∧
      0 ≤ result.penalty ∧ 0 ≤ result.userReward ∧ result.penalty + result.userReward ≤ 400000 ∧
      result.userReward = (result.penalty + result.userReward) * 100000 / 1000000 :=
  ⟨⟨by decide, by decide⟩, computeDepositPenalty_within_deposit _ 160 _ (by decide) (by decide)⟩

/-- For fixed parameters, a later slot never gives a smaller penalty or a smaller user
reward: across the end of the grace period, along the ramp, into the full forfeit and under
the 100% shortcut, although the reward is rounded down and subtracted from the penalty. -/
theorem computeDepositPenalty_mono (auctionInfo : AuctionInfo) (auctionParams : AuctionParameters)
    (hInit : auctionParams.initialPenaltyBps ≤ 1000000)
    (hReward : auctionParams.userPenaltyRewardBps ≤ 1000000) {currentSlot currentSlot' : Nat}
    (h : currentSlot ≤ currentSlot') :
    ∃ result result', computeDepositPenalty auctionInfo currentSlot auctionParams = .ok result ∧
      computeDepositPenalty auctionInfo currentSlot' auctionParams = .ok result' ∧
      result.penalty ≤ result'.penalty ∧ result.userReward ≤ result'.userReward := by
  have hForfeit : forfeited auctionInfo currentSlot auctionParams ≤
      forfeited auctionInfo currentSlot' auctionParams := forfeited_mono h hInit
  exact ⟨_, _, computeDepositPenalty_eq_carve _ _ _ hInit hReward,
    computeDepositPenalty_eq_carve _ _ _ hInit hReward, carve_penalty_mono hForfeit hReward,
    carve_userReward_mono hForfeit⟩

theorem computeDepositPenalty_mono_sample :
    (250000 ≤ 1000000 ∧ 100000 ≤ 1000000 ∧ 130 ≤ 260) ∧
    ∃ result result', computeDepositPenalty
        ⟨0, 0, 0, 1, PublicKey.new [], PublicKey.new [], 100, 5000000, 400000, 0, 0, none⟩ 130
        ⟨100000, 250000, 10, 2, 100, 0, 0, 0⟩ = .ok result ∧
      computeDepositPenalty
        ⟨0, 0, 0, 1, PublicKey.new [], PublicKey.new [], 100, 5000000, 400000, 0, 0, none⟩ 260
        ⟨100000, 250000, 10, 2, 100, 0, 0, 0⟩ = .ok result' ∧
      result.penalty ≤ result'.penalty ∧ result.userReward ≤ result'.userReward :=
  ⟨⟨by decide, by decide, by decide⟩,
    computeDepositPenalty_mono _ _ (by decide) (by decide) (by decide : 130 ≤ 260)⟩

end LiquidityLayer.MatchingEngine
