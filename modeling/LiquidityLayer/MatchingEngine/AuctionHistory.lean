import LiquidityLayer.MatchingEngine.State

/-! The manual deserialization of an `AuctionHistory` account in `fetchAuctionHistory` and
`fetchAuctionHistoryHeader`, and the account layout it is meant to read back. The decoder
walks one offset through the buffer, as the client does; its reads throw past the end. -/

namespace LiquidityLayer.MatchingEngine

open Bytes

/-- The Anchor discriminator of an `AuctionHistory` account. -/
def auctionHistoryDiscriminator : Bytes := [149, 208, 45, 154, 47, 248, 102, 245]

/-- One pass of the entry loop of `fetchAuctionHistory`: the entry read at `offset`, and
the offset the next entry is read at. -/
def readAuctionEntry (data : Bytes) (offset : Nat) : Except String (AuctionEntry × Nat) := do
  let vaaHash := subarray data offset (offset + 32)
  let offset := offset + 32
  let vaaTimestamp ← readUInt32LE data offset
  let offset := offset + 4
  let configId ← readUInt32LE data offset
  let offset := offset + 4
  let custodyTokenBump ← readUInt8 data offset
  let offset := offset + 1
  let vaaSequence ← readBigUInt64LE data offset
  let offset := offset + 8
  let sourceChain ← readUInt16LE data offset
  let offset := offset + 2
  let bestOfferToken := PublicKey.new (subarray data offset (offset + 32))
  let offset := offset + 32
  let initialOfferToken := PublicKey.new (subarray data offset (offset + 32))
  let offset := offset + 32
  let startSlot ← readBigUInt64LE data offset
  let offset := offset + 8
  let amountIn ← readBigUInt64LE data offset
  let offset := offset + 8
  let securityDeposit ← readBigUInt64LE data offset
  let offset := offset + 8
  let offerPrice ← readBigUInt64LE data offset
  let offset := offset + 8
  let redeemerMessageLen ← readUInt16LE data offset
  let offset := offset + 2
  let hasDestinationAssetInfo := data[offset]? == some 1
  let offset := offset + 1
  let destinationAssetInfo ← if hasDestinationAssetInfo then do
      let custodyTokenBump ← readUInt8 data offset
      let amountOut ← readBigUInt64LE data offset
      pure (some ⟨custodyTokenBump, amountOut⟩)
    else pure none
  return (⟨vaaHash, vaaTimestamp, ⟨configId, custodyTokenBump, vaaSequence, sourceChain,
    bestOfferToken, initialOfferToken, startSlot, amountIn, securityDeposit, offerPrice,
    redeemerMessageLen, destinationAssetInfo⟩⟩, offset)

/-- The entry loop of `fetchAuctionHistory`: `numEntries` passes from `offset`. -/
def readAuctionEntries (data : Bytes) : Nat → Nat → Except String (List AuctionEntry)
  | 0, _ => .ok []
  | numEntries + 1, offset => do
      let (entry, offset) ← readAuctionEntry data offset
      let entries ← readAuctionEntries data numEntries offset
      return entry :: entries

/-- The header reads that `fetchAuctionHistory` and `fetchAuctionHistoryHeader` both make:
the discriminator check, `id`, the two optional timestamps and the entry count, which end
at offset 30. -/
def readAuctionHistoryHeader (data : Bytes) : Except String (AuctionHistoryHeader × Nat) := do
  let offset := 0
  let disc := subarray data offset (offset + 8)
  let offset := offset + 8
  if disc ≠ auctionHistoryDiscriminator then
    throw "Invalid account history discriminator"
  let id ← readBigUInt64LE data offset
  let offset := offset + 8
  let hasMinTimestamp := data[offset]? == some 1
  let offset := offset + 1
  let minTimestamp ← (if hasMinTimestamp then some <$> readUInt32LE data offset else pure none)
  let offset := offset + 4
  let hasMaxTimestamp := data[offset]? == some 1
  let offset := offset + 1
  let maxTimestamp ← (if hasMaxTimestamp then some <$> readUInt32LE data offset else pure none)
  let offset := offset + 4
  let numEntries ← readUInt32LE data offset
  return (⟨id, minTimestamp, maxTimestamp⟩, numEntries)

/-- `MatchingEngineProgram.fetchAuctionHistory`, given what `getAccountInfo` returned for the
history's address: the account data, or `null`. -/
def fetchAuctionHistory (accInfo : Option Bytes) : Except String AuctionHistory := do
  let some data := accInfo | throw "Auction history not found"
  let (header, numEntries) ← readAuctionHistoryHeader data
  let entries ← readAuctionEntries data numEntries 30
  return ⟨header, entries⟩

/-- `MatchingEngineProgram.fetchAuctionHistoryHeader`, given the slice of the first 30 bytes
of the account data that it asks `getAccountInfo` for: the header and the entry count. -/
def fetchAuctionHistoryHeader (accInfo : Option Bytes) :
    Except String (AuctionHistoryHeader × Nat) := do
  let some data := accInfo | throw "Auction history not found"
  readAuctionHistoryHeader data

/-- Modelled from the spec: an optional timestamp of the history header as the program
serializes it, a tag byte (1 present, 0 absent) and then four bytes, zero when absent. -/
def timestampLayout : Option Nat → Bytes
  | none => 0 :: toLE 4 0
  | some timestamp => 1 :: toLE 4 timestamp

/-- Modelled from the spec: a Borsh `Option` of the destination-asset info. -/
def destinationAssetInfoLayout : Option AuctionDestinationAssetInfo → Bytes
  | none => [0]
  | some info => 1 :: (toLE 1 info.custodyTokenBump ++ toLE 8 info.amountOut)

/-- Modelled from the spec: one history entry as the program serializes it. -/
def AuctionEntry.layout (entry : AuctionEntry) : Bytes :=
  entry.vaaHash ++ toLE 4 entry.vaaTimestamp ++ toLE 4 entry.info.configId ++
    toLE 1 entry.info.custodyTokenBump ++ toLE 8 entry.info.vaaSequence ++
    toLE 2 entry.info.sourceChain ++ entry.info.bestOfferToken.bytes ++
    entry.info.initialOfferToken.bytes ++ toLE 8 entry.info.startSlot ++
    toLE 8 entry.info.amountIn ++ toLE 8 entry.info.securityDeposit ++
    toLE 8 entry.info.offerPrice ++ toLE 2 entry.info.redeemerMessageLen ++
    destinationAssetInfoLayout entry.info.destinationAssetInfo

/-- Modelled from the spec: the first 30 bytes of an `AuctionHistory` account, the
discriminator, the header and the entry count. -/
def AuctionHistory.headerLayout (history : AuctionHistory) : Bytes :=
  auctionHistoryDiscriminator ++ toLE 8 history.header.id ++
    timestampLayout history.header.minTimestamp ++ timestampLayout history.header.maxTimestamp ++
    toLE 4 history.data.length

/-- Modelled from the spec: the account data of an `AuctionHistory`, its entries after the
header. -/
def AuctionHistory.layout (history : AuctionHistory) : Bytes :=
  history.headerLayout ++ history.data.flatMap AuctionEntry.layout

/-- Every field of an entry fits the width the layout gives it. -/
structure AuctionEntry.Fits (entry : AuctionEntry) : Prop where
  vaaHash : entry.vaaHash.length = 32
  vaaTimestamp : entry.vaaTimestamp < 2 ^ 32
  configId : entry.info.configId < 2 ^ 32
  custodyTokenBump : entry.info.custodyTokenBump < 2 ^ 8
  vaaSequence : entry.info.vaaSequence < 2 ^ 64
  sourceChain : entry.info.sourceChain < 2 ^ 16
  startSlot : entry.info.startSlot < 2 ^ 64
  amountIn : entry.info.amountIn < 2 ^ 64
  securityDeposit : entry.info.securityDeposit < 2 ^ 64
  offerPrice : entry.info.offerPrice < 2 ^ 64
  redeemerMessageLen : entry.info.redeemerMessageLen < 2 ^ 16
  destinationAssetInfo : ∀ info ∈ entry.info.destinationAssetInfo,
    info.custodyTokenBump < 2 ^ 8 ∧ info.amountOut < 2 ^ 64

/-- Every field of a history fits the width the layout gives it. -/
structure AuctionHistory.Fits (history : AuctionHistory) : Prop where
  id : history.header.id < 2 ^ 64
  minTimestamp : ∀ timestamp ∈ history.header.minTimestamp, timestamp < 2 ^ 32
  maxTimestamp : ∀ timestamp ∈ history.header.maxTimestamp, timestamp < 2 ^ 32
  numEntries : history.data.length < 2 ^ 32
  entries : ∀ entry ∈ history.data, entry.Fits

/-- What the decoder makes of an entry: every field as laid out, except `amountOut`, which
it reads at the bump's offset, so that it is the bump followed by the seven low bytes of the
amount. Entries without destination-asset info come back unchanged. -/
def AuctionEntry.asRead (entry : AuctionEntry) : AuctionEntry :=
  { entry with info := { entry.info with destinationAssetInfo :=
      entry.info.destinationAssetInfo.map fun info =>
        ⟨info.custodyTokenBump, info.custodyTokenBump + 256 * (info.amountOut % 2 ^ 56)⟩ } }

theorem AuctionEntry.asRead_of_none {entry : AuctionEntry}
    (h : entry.info.destinationAssetInfo = none) : entry.asRead = entry := by
  rcases entry with ⟨vaaHash, vaaTimestamp, ⟨_, _, _, _, _, _, _, _, _, _, _, info⟩⟩
  cases h
  rfl

theorem AuctionEntry.length_layout_of_none {entry : AuctionEntry} (hFits : entry.Fits)
    (h : entry.info.destinationAssetInfo = none) : entry.layout.length = 150 := by
  simp [AuctionEntry.layout, h, destinationAssetInfoLayout, hFits.vaaHash,
    entry.info.bestOfferToken.length_bytes, entry.info.initialOfferToken.length_bytes]

/-- One pass of the entry loop over a laid-out entry returns `asRead` of it, and moves the
offset by 150 bytes, also past an entry whose layout is 159 bytes long: the loop never steps
over the nine bytes of destination-asset info. -/
theorem readAuctionEntry_layout {data rest : Bytes} {offset : Nat} {entry : AuctionEntry}
    (hFits : entry.Fits) (h : data.drop offset = entry.layout ++ rest) :
    readAuctionEntry data offset = .ok (entry.asRead, offset + 150) := by
  simp only [AuctionEntry.layout, List.append_assoc] at h
  obtain ⟨hHash, h⟩ := subarray_cursor hFits.vaaHash h
  obtain ⟨hTimestamp, h⟩ := readUIntLE_cursor (by decide) (hFits.vaaTimestamp.trans_eq (by norm_num)) h
  obtain ⟨hConfig, h⟩ := readUIntLE_cursor (by decide) (hFits.configId.trans_eq (by norm_num)) h
  obtain ⟨hBump, h⟩ := readUIntLE_cursor (by decide) (hFits.custodyTokenBump.trans_eq (by norm_num)) h
  obtain ⟨hSequence, h⟩ := readUIntLE_cursor (by decide) (hFits.vaaSequence.trans_eq (by norm_num)) h
  obtain ⟨hChain, h⟩ := readUIntLE_cursor (by decide) (hFits.sourceChain.trans_eq (by norm_num)) h
  obtain ⟨hBest, h⟩ := subarray_cursor entry.info.bestOfferToken.length_bytes h
  obtain ⟨hInitial, h⟩ := subarray_cursor entry.info.initialOfferToken.length_bytes h
  obtain ⟨hStart, h⟩ := readUIntLE_cursor (by decide) (hFits.startSlot.trans_eq (by norm_num)) h
  obtain ⟨hAmount, h⟩ := readUIntLE_cursor (by decide) (hFits.amountIn.trans_eq (by norm_num)) h
  obtain ⟨hDeposit, h⟩ := readUIntLE_cursor (by decide) (hFits.securityDeposit.trans_eq (by norm_num)) h
  obtain ⟨hPrice, h⟩ := readUIntLE_cursor (by decide) (hFits.offerPrice.trans_eq (by norm_num)) h
  obtain ⟨hLen, h⟩ := readUIntLE_cursor (by decide) (hFits.redeemerMessageLen.trans_eq (by norm_num)) h
  simp only [readAuctionEntry, readUInt32LE, readUInt8, readBigUInt64LE, readUInt16LE, hTimestamp,
    hConfig, hBump, hSequence, hChain, hStart, hAmount, hDeposit, hPrice, hLen, hHash, hBest, hInitial,
    PublicKey.new_bytes, bind, Except.bind, pure, Except.pure]
  cases hDest : entry.info.destinationAssetInfo with
  | none =>
      simp only [hDest, destinationAssetInfoLayout] at h
      rw [(getElem?_cursor h).1]
      refine congrArg Except.ok (Prod.ext ?_ (by omega))
      simp only [AuctionEntry.asRead, hDest]
      rfl
  | some info =>
      simp only [hDest, destinationAssetInfoLayout, List.cons_append, List.append_assoc] at h
      obtain ⟨hTag, h⟩ := getElem?_cursor h
      have hInfo := hFits.destinationAssetInfo info hDest
      have hOutBump := (readUIntLE_cursor (by decide) (hInfo.1.trans_eq (by norm_num)) h).1
      have hWindow : data.drop (offset + 32 + 4 + 4 + 1 + 8 + 2 + 32 + 32 + 8 + 8 + 8 + 8 + 2 + 1) =
          (toLE 1 info.custodyTokenBump ++ toLE 7 info.amountOut) ++
            ((toLE 8 info.amountOut).drop 7 ++ rest) := by
        rw [h, ← take_toLE info.amountOut (by decide : 7 ≤ 8), List.append_assoc,
          ← List.append_assoc (List.take 7 _), List.take_append_drop]
      have hValue : ofLE (toLE 1 info.custodyTokenBump ++ toLE 7 info.amountOut) =
          info.custodyTokenBump + 256 * (info.amountOut % 2 ^ 56) := by
        rw [ofLE_append, ofLE_toLE, ofLE_toLE, length_toLE, Nat.mod_eq_of_lt (hInfo.1.trans_eq (by norm_num))]
        norm_num
      have hOut := readUIntLE_of_drop_eq (by simp) hWindow
      simp only [List.length_append, length_toLE, hValue] at hOut
      rw [hTag]
      simp only [show (some (1 : UInt8) == some 1) = true from rfl, if_true, hOutBump, hOut]
      refine congrArg Except.ok (Prod.ext ?_ (by omega))
      simp only [AuctionEntry.asRead, hDest]
      rfl

/-- Over laid-out entries without destination-asset info, the loop reads each entry back and
moves 150 bytes per entry; the passes after them start where those entries end. -/
theorem readAuctionEntries_append {data rest : Bytes} {offset : Nat} (entries : List AuctionEntry)
    (numEntries : Nat) (hFits : ∀ entry ∈ entries, entry.Fits)
    (hNone : ∀ entry ∈ entries, entry.info.destinationAssetInfo = none)
    (h : data.drop offset = entries.flatMap AuctionEntry.layout ++ rest) :
    readAuctionEntries data (entries.length + numEntries) offset =
      (readAuctionEntries data numEntries (offset + 150 * entries.length)).map (entries ++ ·) := by
  induction entries generalizing offset with
  | nil =>
      simp only [List.length_nil, Nat.zero_add, Nat.mul_zero, Nat.add_zero]
      cases readAuctionEntries data numEntries offset <;> rfl
  | cons entry entries ih =>
      rw [List.flatMap_cons, List.append_assoc] at h
      have hEntry := readAuctionEntry_layout (hFits entry (List.mem_cons_self _ _)) h
      rw [AuctionEntry.asRead_of_none (hNone entry (List.mem_cons_self _ _))] at hEntry
      have hNext : data.drop (offset + 150) = entries.flatMap AuctionEntry.layout ++ rest := by
        have hDrop := drop_add_of_drop_eq h
        rwa [AuctionEntry.length_layout_of_none (hFits entry (List.mem_cons_self _ _))
          (hNone entry (List.mem_cons_self _ _))] at hDrop
      have hRest := ih (fun e he => hFits e (List.mem_cons_of_mem _ he))
        (fun e he => hNone e (List.mem_cons_of_mem _ he)) hNext
      rw [List.length_cons, Nat.add_right_comm, readAuctionEntries]
      simp only [hEntry, bind, Except.bind, hRest, Nat.mul_succ, Nat.add_assoc, Nat.add_comm 150]
      cases readAuctionEntries data numEntries (offset + (150 * entries.length + 150)) <;> rfl

theorem length_auctionHistoryDiscriminator : auctionHistoryDiscriminator.length = 8 := rfl

@[simp] theorem length_timestampLayout (timestamp : Option Nat) :
    (timestampLayout timestamp).length = 5 := by
  cases timestamp <;> rfl

theorem AuctionHistory.length_headerLayout (history : AuctionHistory) :
    history.headerLayout.length = 30 := by
  simp [AuctionHistory.headerLayout, length_auctionHistoryDiscriminator]

/-- An optional timestamp at the cursor reads back, and the cursor moves past its five
bytes; an absent one is read as absent whatever its four bytes hold. -/
theorem timestamp_cursor {data rest : Bytes} {offset : Nat} {timestamp : Option Nat}
    (hFits : ∀ t ∈ timestamp, t < 2 ^ 32) (h : data.drop offset = timestampLayout timestamp ++ rest) :
    (if (data[offset]? == some 1) = true then some <$> readUInt32LE data (offset + 1)
      else pure none) = Except.ok timestamp ∧ data.drop (offset + 1 + 4) = rest := by
  cases timestamp with
  | none =>
      obtain ⟨hTag, h⟩ := getElem?_cursor h
      exact ⟨by rw [hTag]; rfl, (readUIntLE_cursor (by decide) (by decide) h).2⟩
  | some timestamp =>
      obtain ⟨hTag, h⟩ := getElem?_cursor h
      obtain ⟨hRead, h⟩ := readUIntLE_cursor (by decide)
        ((hFits timestamp rfl).trans_eq (by norm_num)) h
      exact ⟨by rw [hTag, readUInt32LE, hRead]; rfl, h⟩

/-- The header of a history whose fields fit reads back, whatever bytes follow it. -/
theorem readAuctionHistoryHeader_headerLayout {history : AuctionHistory} (hFits : history.Fits)
    (rest : Bytes) :
    readAuctionHistoryHeader (history.headerLayout ++ rest) =
      .ok (history.header, history.data.length) := by
  have h : (history.headerLayout ++ rest).drop 0 = auctionHistoryDiscriminator ++
      (toLE 8 history.header.id ++ (timestampLayout history.header.minTimestamp ++
        (timestampLayout history.header.maxTimestamp ++ (toLE 4 history.data.length ++ rest)))) := by
    simp only [AuctionHistory.headerLayout, List.drop_zero, List.append_assoc]
  obtain ⟨hDisc, h⟩ := subarray_cursor length_auctionHistoryDiscriminator h
  obtain ⟨hId, h⟩ := readUIntLE_cursor (by decide) (hFits.id.trans_eq (by norm_num)) h
  obtain ⟨hMin, h⟩ := timestamp_cursor hFits.minTimestamp h
  obtain ⟨hMax, h⟩ := timestamp_cursor hFits.maxTimestamp h
  obtain ⟨hCount, -⟩ := readUIntLE_cursor (by decide) (hFits.numEntries.trans_eq (by norm_num)) h
  dsimp only [readAuctionHistoryHeader]
  rw [hDisc, if_neg (not_not.mpr rfl), readBigUInt64LE, hId, hMin, hMax, readUInt32LE, hCount]
  rfl

/-- `fetchAuctionHistoryHeader` on the first 30 bytes of a laid-out history returns its
header and its entry count, for every history whose fields fit. -/
theorem fetchAuctionHistoryHeader_layout (history : AuctionHistory) (hFits : history.Fits) :
    fetchAuctionHistoryHeader (some (history.layout.take 30)) =
      .ok (history.header, history.data.length) := by
  have hTake : history.layout.take 30 = history.headerLayout ++ [] := by
    rw [AuctionHistory.layout, List.take_left' history.length_headerLayout, List.append_nil]
  rw [fetchAuctionHistoryHeader, hTake, readAuctionHistoryHeader_headerLayout hFits]

theorem fetchAuctionHistoryHeader_layout_sample :
    let history : AuctionHistory := ⟨⟨7, some 5, none⟩, [⟨List.replicate 32 0, 0,
      ⟨0, 0, 0, 1, PublicKey.new [], PublicKey.new [], 0, 0, 0, 0, 0, none⟩⟩]⟩
    history.Fits ∧ fetchAuctionHistoryHeader (some (history.layout.take 30)) =
      .ok (history.header, history.data.length) := by
  intro history
  have hFits : history.Fits := ⟨by decide, by simp [history], by simp [history], by decide,
    by simpa [history] using ⟨rfl, by decide, by decide, by decide, by decide, by decide, by decide,
      by decide, by decide, by decide, by decide, by simp⟩⟩
  exact ⟨hFits, fetchAuctionHistoryHeader_layout history hFits⟩

/-- After the header, `fetchAuctionHistory` is its entry loop over the layout from offset 30. -/
theorem fetchAuctionHistory_layout_eq (history : AuctionHistory) (hFits : history.Fits) :
    fetchAuctionHistory (some history.layout) =
      (readAuctionEntries history.layout history.data.length 30).map (⟨history.header, ·⟩) := by
  simp only [fetchAuctionHistory, AuctionHistory.layout, readAuctionHistoryHeader_headerLayout hFits,
    bind, Except.bind]
  cases readAuctionEntries (history.headerLayout ++ history.data.flatMap AuctionEntry.layout)
    history.data.length 30 <;> rfl

theorem AuctionHistory.drop_layout (history : AuctionHistory) :
    history.layout.drop 30 = history.data.flatMap AuctionEntry.layout ++ [] := by
  rw [AuctionHistory.layout, List.drop_left' history.length_headerLayout, List.append_nil]

/-- A history none of whose entries carries destination-asset info reads back as itself. -/
theorem fetchAuctionHistory_layout_of_none (history : AuctionHistory) (hFits : history.Fits)
    (hNone : ∀ entry ∈ history.data, entry.info.destinationAssetInfo = none) :
    fetchAuctionHistory (some history.layout) = .ok history := by
  have hLoop := readAuctionEntries_append history.data 0 hFits.entries hNone history.drop_layout
  rw [fetchAuctionHistory_layout_eq history hFits, Nat.add_zero] at *
  rw [hLoop]
  simp only [readAuctionEntries, Except.map, List.append_nil]

theorem fetchAuctionHistory_layout_of_none_sample :
    let history : AuctionHistory := ⟨⟨7, some 5, none⟩, [⟨List.replicate 32 0, 0,
      ⟨0, 0, 0, 1, PublicKey.new [], PublicKey.new [], 0, 0, 0, 0, 0, none⟩⟩]⟩
    history.Fits ∧ (∀ entry ∈ history.data, entry.info.destinationAssetInfo = none) ∧
      fetchAuctionHistory (some history.layout) = .ok history := by
  intro history
  have hFits : history.Fits := ⟨by decide, by simp [history], by simp [history], by decide,
    by simpa [history] using ⟨rfl, by decide, by decide, by decide, by decide, by decide, by decide,
      by decide, by decide, by decide, by decide, by simp⟩⟩
  have hNone : ∀ entry ∈ history.data, entry.info.destinationAssetInfo = none := by simp [history]
  exact ⟨hFits, hNone, fetchAuctionHistory_layout_of_none history hFits hNone⟩

theorem length_flatMap_layout_of_none (entries : List AuctionEntry)
    (hFits : ∀ entry ∈ entries, entry.Fits)
    (hNone : ∀ entry ∈ entries, entry.info.destinationAssetInfo = none) :
    (entries.flatMap AuctionEntry.layout).length = 150 * entries.length := by
  induction entries with
  | nil => rfl
  | cons entry entries ih =>
      rw [List.flatMap_cons, List.length_append, AuctionEntry.length_layout_of_none
        (hFits entry (List.mem_cons_self _ _)) (hNone entry (List.mem_cons_self _ _)),
        ih (fun e he => hFits e (List.mem_cons_of_mem _ he))
          (fun e he => hNone e (List.mem_cons_of_mem _ he)), List.length_cons]
      omega

/-- A history whose only entry with destination-asset info is its last one reads back with
that entry's `amountOut` misread, as `asRead` says. -/
theorem fetchAuctionHistory_layout_of_last (history : AuctionHistory) (hFits : history.Fits)
    (entries : List AuctionEntry) (last : AuctionEntry) (hData : history.data = entries ++ [last])
    (hNone : ∀ entry ∈ entries, entry.info.destinationAssetInfo = none) :
    fetchAuctionHistory (some history.layout) = .ok ⟨history.header, entries ++ [last.asRead]⟩ := by
  have hDrop := history.drop_layout
  rw [hData, List.flatMap_append, List.append_assoc] at hDrop
  have hEntries : ∀ entry ∈ entries, entry.Fits := fun entry hEntry =>
    hFits.entries entry (hData ▸ List.mem_append_left _ hEntry)
  have hAtLast : history.layout.drop (30 + 150 * entries.length) = last.layout ++ [] := by
    have hAfter := drop_add_of_drop_eq hDrop
    rwa [length_flatMap_layout_of_none entries hEntries hNone, List.flatMap_singleton] at hAfter
  have hLast := readAuctionEntry_layout (hFits.entries last (by simp [hData])) hAtLast
  rw [fetchAuctionHistory_layout_eq history hFits, hData, List.length_append, List.length_singleton,
    readAuctionEntries_append entries 1 hEntries hNone hDrop]
  simp only [readAuctionEntries, hLast, bind, Except.bind, Except.map]
  rfl

/-- One entry whose destination-asset info holds bump 1 and `amountOut` 0 is read back with
`amountOut` 1: the decoder reads the amount at the bump's offset. -/
theorem fetchAuctionHistory_amountOut_misread :
    let entry : AuctionEntry := ⟨List.replicate 32 0, 0,
      ⟨0, 0, 0, 1, PublicKey.new [], PublicKey.new [], 0, 0, 0, 0, 0, some ⟨1, 0⟩⟩⟩
    fetchAuctionHistory (some (AuctionHistory.layout ⟨⟨0, none, none⟩, [entry]⟩)) =
      .ok ⟨⟨0, none, none⟩,
        [{ entry with info := { entry.info with destinationAssetInfo := some ⟨1, 1⟩ } }]⟩ := by
  intro entry
  have hFits : entry.Fits := ⟨rfl, by decide, by decide, by decide, by decide, by decide,
    by decide, by decide, by decide, by decide, by decide, by simp [entry]⟩
  exact fetchAuctionHistory_layout_of_last ⟨⟨0, none, none⟩, [entry]⟩
    ⟨by decide, by simp, by simp, by decide, by simpa using hFits⟩ [] entry rfl (by simp)

/-- The header reads end at offset 30, so they read the same from the 30-byte slice. -/
theorem readAuctionHistoryHeader_take (data : Bytes) :
    readAuctionHistoryHeader (data.take 30) = readAuctionHistoryHeader data := by
  simp (disch := omega) only [readAuctionHistoryHeader, subarray_take, readBigUInt64LE,
    readUInt32LE, readUIntLE_take, List.getElem?_take_of_lt]

/-- The entry loop returns as many entries as it makes passes. -/
theorem length_of_readAuctionEntries {data : Bytes} {numEntries offset : Nat}
    {entries : List AuctionEntry} (h : readAuctionEntries data numEntries offset = .ok entries) :
    entries.length = numEntries := by
  induction numEntries generalizing offset entries with
  | zero => cases h; rfl
  | succ numEntries ih =>
      rw [readAuctionEntries] at h
      obtain ⟨⟨entry, next⟩, -, h⟩ := bind_eq_ok h
      obtain ⟨rest, hRest, h⟩ := bind_eq_ok h
      cases h
      rw [List.length_cons, ih hRest]

/-- On every account that `fetchAuctionHistory` reads, `fetchAuctionHistoryHeader` on the
slice of its first 30 bytes returns the same header, and an entry count equal to the number
of entries `fetchAuctionHistory` returns. -/
theorem fetchAuctionHistoryHeader_of_fetchAuctionHistory {data : Bytes} {history : AuctionHistory}
    (h : fetchAuctionHistory (some data) = .ok history) :
    fetchAuctionHistoryHeader (some (data.take 30)) = .ok (history.header, history.data.length) := by
  obtain ⟨⟨header, numEntries⟩, hHeader, h⟩ := bind_eq_ok h
  obtain ⟨entries, hEntries, h⟩ := bind_eq_ok h
  cases h
  rw [fetchAuctionHistoryHeader, readAuctionHistoryHeader_take, hHeader,
    length_of_readAuctionEntries hEntries]

set_option maxRecDepth 2000 in
theorem fetchAuctionHistoryHeader_of_fetchAuctionHistory_sample :
    let history : AuctionHistory := ⟨⟨7, some 5, none⟩, [⟨List.replicate 32 0, 0,
      ⟨0, 0, 0, 1, PublicKey.new [], PublicKey.new [], 0, 0, 0, 0, 0, none⟩⟩]⟩
    fetchAuctionHistory (some history.layout) = .ok history ∧
      fetchAuctionHistoryHeader (some (history.layout.take 30)) = .ok (history.header, 1) :=
  have hFetch : fetchAuctionHistory (some (AuctionHistory.layout ⟨⟨7, some 5, none⟩,
      [⟨List.replicate 32 0, 0, ⟨0, 0, 0, 1, PublicKey.new [], PublicKey.new [], 0, 0, 0, 0, 0, none⟩⟩]⟩)) =
      .ok ⟨⟨7, some 5, none⟩, [⟨List.replicate 32 0, 0,
        ⟨0, 0, 0, 1, PublicKey.new [], PublicKey.new [], 0, 0, 0, 0, 0, none⟩⟩]⟩ := by
    rfl
  ⟨hFetch, fetchAuctionHistoryHeader_of_fetchAuctionHistory hFetch⟩

end LiquidityLayer.MatchingEngine
