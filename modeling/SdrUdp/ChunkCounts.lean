import SdrUdp.ChunkCheck
import SdrUdp.Core.Blocks
import SdrUdp.RecvPost
import SdrUdp.SendPaths

/-!
# Chunks counted on both ends

The receiver divides the bytes into packets and the packets into chunks. The sender divides the
bytes into chunks at once, and `retransmit_range` goes back from chunks to packets. Both come to the
same chunks.
-/

namespace SdrUdp

open SdrUdp.Core

/-- The packets of chunk `c` in the sender's eyes. -/
def SRSender.rangePackets (s : SRSender) (c : ℕ) : Set ℕ :=
  {i | ∃ range ∈ s.packetRange c 1, range.1 ≤ i ∧ i < range.1 + range.2}

lemma SRSender.Serves.rangePackets_eq {s : SRSender} {p : ConnectionParams} {msgId : ℕ}
    {data : List U8} (hs : s.Serves p msgId data) (hmtu : 0 < p.mtuBytes.toNat) {c : ℕ}
    (hc : c * p.packetsPerChunk.toNat < data.length ⌈/⌉ p.mtuBytes.toNat)
    (hsmall : c * p.packetsPerChunk.toNat < 2 ^ 32) : s.rangePackets c
      = block p.packetsPerChunk.toNat (data.length ⌈/⌉ p.mtuBytes.toNat) c := by
  ext i
  rw [rangePackets, hs.packetRange_eq hmtu hc hsmall, block, blockStart_of_lt hc,
    blockStart_succ hc]
  simp

/-- The sender counts as many chunks as the receiver's message and its poller do. -/
structure SameTotal (s : SRSender) (msg : MessageContext) : Prop where
  message : msg.totalChunks % 2 ^ 32 = s.totalChunks
  poller : ∃ f, msg.frontendBitmap = some f ∧ f.totalChunks = s.totalChunks

/-- The sender's ranges follow one after the other, none of them empty, and divide the `packets`
packets of the message among the chunks; the receiver's check of a chunk, whatever `words` it has
received, is about just this range. -/
structure MatchingRanges (s : SRSender) (msg : MessageContext) (packets : ℕ) : Prop where
  nonempty : ∀ c < s.totalChunks, ∃ range, s.packetRange c 1 = some range ∧ 0 < range.2
  first : ∀ range, s.packetRange 0 1 = some range → range.1 = 0
  consecutive : ∀ c, c + 1 < s.totalChunks → ∀ range next, s.packetRange c 1 = some range →
    s.packetRange (c + 1) 1 = some next → next.1 = range.1 + range.2
  disjoint : {c | c < s.totalChunks}.PairwiseDisjoint s.rangePackets
  cover : ⋃ c < s.totalChunks, s.rangePackets c = Set.Iio packets
  tested : ∃ b, msg.backendBitmap = some b ∧ ∀ words, ∀ c < s.totalChunks, ∀ range,
    s.packetRange c 1 = some range →
      let b' := { b with packetBitmap := words }
      b'.chunkComplete c
          = BackendBitmap.checkChunkRange b'.loadWord range.1 (range.1 + range.2) ∧
        (b'.chunkComplete c = some true ↔
          ∀ i ∈ s.rangePackets c, i / 64 < b'.numWords ∧ i ∈ b'.received)

/-- Below 2^32 packets nothing is cut off from the count. -/
lemma lt_totalChunks_iff {n packetsPerChunk : ℕ} (hppc : 0 < packetsPerChunk) (hsmall : n < 2 ^ 32)
    (c : ℕ) : c < n ⌈/⌉ packetsPerChunk % 2 ^ 32 ↔ c * packetsPerChunk < n := by
  have hle : n ⌈/⌉ packetsPerChunk ≤ n :=
    (ceilDiv_le_iff_le_mul hppc).mpr (Nat.le_mul_of_pos_left _ hppc)
  rw [Nat.mod_eq_of_lt (hle.trans_lt hsmall), lt_ceilDiv_iff_mul_lt hppc]

/-- The receiver's check of a chunk is about the range of the sender. -/
lemma chunkComplete_range (words : ℕ → U64) {n packetsPerChunk c : ℕ} (hppc : 0 < packetsPerChunk)
    (hsmall : n + packetsPerChunk < 2 ^ 32) (hc : c * packetsPerChunk < n) :
    let b := BackendBitmap.withWords n packetsPerChunk words
    b.chunkComplete c = BackendBitmap.checkChunkRange b.loadWord (c * packetsPerChunk)
        (c * packetsPerChunk + min packetsPerChunk (n - c * packetsPerChunk)) ∧
      (b.chunkComplete c = some true ↔
        ∀ i ∈ block packetsPerChunk n c, i / 64 < b.numWords ∧ i ∈ b.received) := by
  intro b
  have hstart : b.chunkStart c = c * packetsPerChunk :=
    BackendBitmap.chunkStart_of_lt (b := b) hsmall hc
  have hstop : b.chunkStop c = blockStart packetsPerChunk n (c + 1) :=
    BackendBitmap.chunkStop_of_lt (b := b) hsmall hc
  constructor
  · rw [BackendBitmap.chunkComplete_eq, hstart, hstop, blockStart_succ hc]
  · rw [BackendBitmap.chunkComplete_eq_true (b := b) hsmall hc hppc, hstart, hstop, block,
      blockStart_of_lt hc]
    simp only [Set.mem_Ico, and_imp]

/-- With as many chunks as the packets make up, every range is a block of packets. -/
lemma matchingRanges {s : SRSender} {p : ConnectionParams} {msgId : ℕ} {data : List U8}
    {msg : MessageContext} (hs : s.Serves p msgId data) (hmtu : 0 < p.mtuBytes.toNat)
    (hppc : 0 < p.packetsPerChunk.toNat)
    (hsmall : data.length ⌈/⌉ p.mtuBytes.toNat + p.packetsPerChunk.toNat < 2 ^ 32)
    (hpos : 0 < data.length ⌈/⌉ p.mtuBytes.toNat)
    (htotal : s.totalChunks
      = data.length ⌈/⌉ p.mtuBytes.toNat ⌈/⌉ p.packetsPerChunk.toNat % 2 ^ 32)
    (hback : msg.backendBitmap = some (BackendBitmap.create (data.length ⌈/⌉ p.mtuBytes.toNat)
      p.packetsPerChunk.toNat)) :
    MatchingRanges s msg (data.length ⌈/⌉ p.mtuBytes.toNat) := by
  -- there is a chunk exactly when there is its first packet
  have hlt : ∀ c, c < s.totalChunks ↔
      c * p.packetsPerChunk.toNat < data.length ⌈/⌉ p.mtuBytes.toNat := by
    intro c
    rw [htotal, lt_totalChunks_iff hppc (by omega)]
  have hfits : ∀ c < s.totalChunks, c * p.packetsPerChunk.toNat < 2 ^ 32 := by
    intro c hc
    have := (hlt c).mp hc
    omega
  have hrange : ∀ c < s.totalChunks, _ := fun c hc =>
    hs.packetRange_eq hmtu ((hlt c).mp hc) (hfits c hc)
  have hpackets : ∀ c < s.totalChunks, _ := fun c hc =>
    hs.rangePackets_eq hmtu ((hlt c).mp hc) (hfits c hc)
  have hzero : 0 < s.totalChunks := (hlt 0).mpr (by rwa [Nat.zero_mul])
  constructor
  case nonempty =>
    intro c hc
    have := (hlt c).mp hc
    exact ⟨_, hrange c hc, by dsimp only; omega⟩
  case first =>
    intro range h
    rw [hrange 0 hzero, Option.some.injEq] at h
    rw [← h, Nat.zero_mul]
  case consecutive =>
    intro c hc range next h h'
    have := (hlt (c + 1)).mp hc
    rw [hrange c (by omega), Option.some.injEq] at h
    rw [hrange (c + 1) hc, Option.some.injEq] at h'
    rw [← h, ← h']
    dsimp only
    rw [Nat.succ_mul] at this ⊢
    omega
  case disjoint =>
    intro c hc c' hc' hne
    change Disjoint (s.rangePackets c) (s.rangePackets c')
    rw [hpackets c hc, hpackets c' hc']
    exact pairwiseDisjoint_block _ _ Set.univ (Set.mem_univ c) (Set.mem_univ c') hne
  case cover =>
    rw [← iUnion_block hppc]
    refine Set.iUnion_congr fun c => ?_
    have hiff : c < s.totalChunks ↔
        c < data.length ⌈/⌉ p.mtuBytes.toNat ⌈/⌉ p.packetsPerChunk.toNat := by
      rw [hlt, lt_ceilDiv_iff_mul_lt hppc]
    exact Set.iUnion_congr_Prop hiff fun hc => hpackets c (hiff.mpr hc)
  case tested =>
    refine ⟨_, hback, fun words c hc range h => ?_⟩
    rw [hrange c hc, Option.some.injEq] at h
    rw [← h, hpackets c hc]
    exact chunkComplete_range words hppc hsmall ((hlt c).mp hc)

/-- The receiver's sizes, with no wrap in 64 bits. -/
lemma calculateBitmapSizes_eq {totalBytes : ℕ} {mtuBytes : U32} {packetsPerChunk : U16}
    (hlength : totalBytes ≤ 2 ^ 63) (hmtu : 0 < mtuBytes.toNat) (hppc : 0 < packetsPerChunk.toNat) :
    ConnectionContext.calculateBitmapSizes totalBytes mtuBytes packetsPerChunk
      = (totalBytes ⌈/⌉ mtuBytes.toNat,
          totalBytes ⌈/⌉ mtuBytes.toNat ⌈/⌉ packetsPerChunk.toNat) := by
  have hmtu' := mtuBytes.isLt
  have hppc' := packetsPerChunk.isLt
  have hle : totalBytes ⌈/⌉ mtuBytes.toNat ≤ totalBytes :=
    (ceilDiv_le_iff_le_mul hmtu).mpr (Nat.le_mul_of_pos_left _ hmtu)
  rw [ConnectionContext.calculateBitmapSizes_of_pos _ hmtu hppc, ceilDiv_eq (by omega),
    ceilDiv_eq (by omega)]

section BothEnds

variable {cfg : SRConfig} {handle : SDRSendHandle} {params : ConnectionParams} {now : Clock}
  (hlength : handle.userBuffer.length ≤ 2 ^ 63) (hmtu : 0 < params.mtuBytes.toNat)
  (hmtu' : params.mtuBytes.toNat ≤ SDRPacket.maxPayloadSize)
  (hppc : 0 < params.packetsPerChunk.toNat)
include hlength hmtu hmtu' hppc

/-- The sender's count from the bytes is the receiver's from the packets. -/
lemma totalChunks_start : (SRSender.start cfg handle params now).totalChunks
    = handle.userBuffer.length ⌈/⌉ params.mtuBytes.toNat ⌈/⌉ params.packetsPerChunk.toNat
      % 2 ^ 32 := by
  have hppc' := params.packetsPerChunk.isLt
  have hmax : SDRPacket.maxPayloadSize = 65496 := rfl
  have hserves := SRSender.start_serves (ne_zero_of_toNat_pos hmtu) (ne_zero_of_toNat_pos hppc)
    cfg handle now
  -- a chunk has less than 4 GiB
  have hbytes : params.mtuBytes.toNat * params.packetsPerChunk.toNat ≤ 65496 * 2 ^ 16 :=
    Nat.mul_le_mul (hmax ▸ hmtu') hppc'.le
  rw [(SRSender.start_sent cfg handle params now).1, hserves.mtuBytes, hserves.packetsPerChunk,
    ceilDiv_eq (by omega), ceilDiv_ceilDiv hmtu hppc]

/-- Both ends count the same chunks, and below 2^32 packets they mean the same packets by a chunk,
the sender from `start_send` on. -/
theorem chunkCounts_agree {s : SRSender} (hs : (SRSender.start cfg handle params now).Continues s)
    (hpos : 0 < handle.userBuffer.length) (slot : MessageContext) (buffer : ℕ) :
    let msg := initMessage slot buffer handle.userBuffer.length params
    SameTotal s msg ∧
      (handle.userBuffer.length ⌈/⌉ params.mtuBytes.toNat + params.packetsPerChunk.toNat < 2 ^ 32 →
        MatchingRanges s msg (handle.userBuffer.length ⌈/⌉ params.mtuBytes.toNat)) := by
  have hserves := hs.serves (SRSender.start_serves (ne_zero_of_toNat_pos hmtu)
    (ne_zero_of_toNat_pos hppc) cfg handle now)
  have htotal := hs.totalChunks.trans (totalChunks_start hlength hmtu hmtu' hppc)
  have hsizes := calculateBitmapSizes_eq hlength hmtu hppc
  refine ⟨⟨?_, ?_⟩, fun hsmall => matchingRanges hserves hmtu hppc hsmall ?_ htotal ?_⟩
  · rw [htotal]
    exact congrArg (·.2 % 2 ^ 32) hsizes
  · rw [htotal]
    exact ⟨_, rfl, congrArg (·.2 % 2 ^ 32) hsizes⟩
  · rw [lt_ceilDiv_iff_mul_lt hmtu, Nat.zero_mul]
    exact hpos
  · simp only [initMessage, hsizes]
    rw [Nat.mod_eq_of_lt (by omega)]

end BothEnds

/-- Five bytes are three packets in two chunks. -/
theorem chunkCounts_agree_three :
    let p := { ConnectionParams.zero with mtuBytes := 2, packetsPerChunk := 2 }
    let handle : SDRSendHandle := ⟨3, 0, [1, 2, 3, 4, 5]⟩
    let s := SRSender.start .default handle p (.still 0)
    let msg := initMessage .fresh 0 5 p
    SameTotal s msg ∧ MatchingRanges s msg 3 := by
  intro p handle s msg
  have hs : (SRSender.start .default handle p (.still 0)).Continues s :=
    SRSender.transmits_continues.refl s
  have hpackets : handle.userBuffer.length ⌈/⌉ p.mtuBytes.toNat = 3 := by decide
  have h := chunkCounts_agree (by decide) (by decide) (by decide) (by decide) hs (by decide)
    .fresh 0
  rw [hpackets] at h
  exact ⟨h.1, h.2 (by decide)⟩

end SdrUdp
