import SdrUdp.SendPaths

/-!
# The first window of selective repeat

`start_send` counts the chunks of the message in 32 bits. When no window is configured, it takes
the low 16 bits of this number for the window.
-/

namespace SdrUdp

open SdrUdp.Core

/-- Number of bytes of a chunk. -/
def chunkBytes (p : ConnectionParams) : ℕ := p.mtuBytes.toNat * p.packetsPerChunk.toNat

/-- Number of chunks of a message of `length` bytes. -/
def messageChunks (p : ConnectionParams) (length : ℕ) : ℕ :=
  (length + chunkBytes p - 1) / chunkBytes p

/-- Number of chunks of the first window; a message without a configured window is sent as a
whole. -/
def firstWindow (cfg : SRConfig) (p : ConnectionParams) (length : ℕ) : ℕ :=
  if cfg.maxInflightChunks = 0 then messageChunks p length
  else min (messageChunks p length) cfg.maxInflightChunks.toNat

/-- `start_send` transmits each chunk of the first window once and no other chunk. -/
structure SendsFirstWindow (cfg : SRConfig) (handle : SDRSendHandle) (p : ConnectionParams)
    (now : Clock) : Prop where
  sent : (SRSender.start cfg handle p now).sent
    = (List.range (firstWindow cfg p handle.userBuffer.length)).flatMap fun c =>
        (chunkOffsets ((handle.userBuffer.length + p.mtuBytes.toNat - 1) / p.mtuBytes.toNat)
          p.packetsPerChunk.toNat c).filterMap (postPacket p handle.msgId handle.userBuffer)
  next : (SRSender.start cfg handle p now).nextChunkToSend
    = firstWindow cfg p handle.userBuffer.length
  nonempty : 0 < firstWindow cfg p handle.userBuffer.length
  window : 0 < (SRSender.start cfg handle p now).maxInflight

/-- The number of chunks fits the integers that count it. -/
def CountsChunks (cfg : SRConfig) (p : ConnectionParams) (length : ℕ) : Prop :=
  length + chunkBytes p ≤ 2 ^ 64 ∧
    if cfg.maxInflightChunks = 0 then messageChunks p length < 2 ^ 16
    else messageChunks p length < 2 ^ 32 ∨
      cfg.maxInflightChunks.toNat ≤ messageChunks p length % 2 ^ 32

namespace SRSender

lemma nextChunkToSend_openChunks (s : SRSender) (n : ℕ) (now : Clock) (hs : s.nextChunkToSend = 0) :
    ((List.range n).foldl (openChunk now) s).nextChunkToSend = n := by
  cases n with
  | zero => exact hs
  | succ n => rw [List.range_succ, List.foldl_append, List.foldl_cons, List.foldl_nil, openChunk]

lemma maxInflight_openChunks (s : SRSender) (chunks : List ℕ) (now : Clock) :
    (chunks.foldl (openChunk now) s).maxInflight = s.maxInflight := by
  refine foldl_keeps (P := fun s' : SRSender => s'.maxInflight = s.maxInflight)
    (fun s' c _ h => ?_) rfl
  exact (s'.maxInflight_retransmitRange c 1 now).trans h

variable (cfg : SRConfig) (handle : SDRSendHandle) {p : ConnectionParams}

/-- What `start_send` sets before it transmits the first chunk. -/
lemma exists_start (hmtu : 0 < p.mtuBytes.toNat) (hppc : 0 < p.packetsPerChunk.toNat)
    (now : Clock) : ∃ s : SRSender, start cfg handle p now
        = (List.range (min s.totalChunks s.maxInflight)).foldl (openChunk now) s ∧
      s.Serves p handle.msgId handle.userBuffer ∧ s.sent = [] ∧ s.nextChunkToSend = 0 ∧
      s.totalChunks = ceilDiv handle.userBuffer.length (chunkBytes p) % 2 ^ 32 ∧
      s.maxInflight = if cfg.maxInflightChunks = 0 then s.totalChunks % 2 ^ 16
        else cfg.maxInflightChunks.toNat := by
  have hmtu' : (if p.mtuBytes = 0 then SDRPacket.maxPayloadSize else p.mtuBytes.toNat)
      = p.mtuBytes.toNat := if_neg (ne_zero_of_toNat_pos hmtu)
  have hppc' : orDefault p.packetsPerChunk 1 = p.packetsPerChunk :=
    orDefault_of_ne (ne_zero_of_toNat_pos hppc)
  refine ⟨prepared cfg handle p now, rfl, ⟨rfl, rfl, rfl, hmtu', hppc'⟩, rfl, rfl, ?_, rfl⟩
  unfold prepared
  dsimp only
  rw [hmtu', hppc', chunkBytes]

end SRSender

section Window

variable {cfg : SRConfig} {p : ConnectionParams} {length : ℕ}

/-- The number of chunks that `start_send` transmits. -/
def sentChunks (cfg : SRConfig) (p : ConnectionParams) (length : ℕ) : ℕ :=
  let totalChunks := ceilDiv length (chunkBytes p) % 2 ^ 32
  min totalChunks (if cfg.maxInflightChunks = 0 then totalChunks % 2 ^ 16
    else cfg.maxInflightChunks.toNat)

lemma messageChunks_pos (hbytes : 0 < chunkBytes p) (hlen : 0 < length) :
    0 < messageChunks p length :=
  (lt_ceil_iff hbytes 0).mpr (by rwa [Nat.zero_mul])

lemma firstWindow_pos (hbytes : 0 < chunkBytes p) (hlen : 0 < length) :
    0 < firstWindow cfg p length := by
  have hpos := messageChunks_pos hbytes hlen
  unfold firstWindow
  split_ifs with hcfg
  · exact hpos
  · exact lt_min hpos (BitVec.toNat_pos_of_ne_zero hcfg)

lemma firstWindow_le : firstWindow cfg p length ≤ messageChunks p length := by
  unfold firstWindow
  split_ifs
  · exact le_rfl
  · exact min_le_left _ _

/-- The integers count the window right exactly when they are large enough. -/
lemma sentChunks_eq_iff (hbytes : 0 < chunkBytes p) (hlen : 0 < length) (hsize : length < 2 ^ 64) :
    sentChunks cfg p length = firstWindow cfg p length ↔ CountsChunks cfg p length := by
  have hpos : 0 < firstWindow cfg p _ := firstWindow_pos hbytes hlen
  unfold CountsChunks
  rcases Nat.lt_or_ge (2 ^ 64) (length + chunkBytes p) with hover | hfits
  · -- the 64-bit sum wraps around, and no chunk is counted
    have hzero : ceilDiv length (chunkBytes p) = 0 := by
      rw [ceilDiv, Nat.div_eq_zero_iff]
      omega
    refine iff_of_false (fun h => ?_) fun h => absurd h.1 hover.not_ge
    simp only [sentChunks, hzero] at h
    omega
  · have hcount : ceilDiv length (chunkBytes p) = messageChunks p length := by
      rw [ceilDiv, Nat.mod_eq_of_lt (by omega), messageChunks]
    rw [and_iff_right hfits]
    simp only [sentChunks, firstWindow, hcount]
    have := cfg.maxInflightChunks.isLt
    split_ifs with hcfg
    · omega
    · omega

/-- A window that is counted right is short. -/
lemma firstWindow_lt (h : CountsChunks cfg p length) : firstWindow cfg p length < 2 ^ 16 := by
  have := cfg.maxInflightChunks.isLt
  obtain ⟨-, h⟩ := h
  unfold firstWindow
  split_ifs at h ⊢
  · exact h
  · omega

end Window

/-- How far `start_send` gets. -/
lemma SRSender.nextChunkToSend_start (cfg : SRConfig) (handle : SDRSendHandle)
    {p : ConnectionParams}
    (hmtu : 0 < p.mtuBytes.toNat) (hppc : 0 < p.packetsPerChunk.toNat) (now : Clock) :
    (start cfg handle p now).nextChunkToSend = sentChunks cfg p handle.userBuffer.length := by
  obtain ⟨s, hstart, -, -, hnext, htotal, hmax⟩ := exists_start cfg handle hmtu hppc now
  rw [hstart, nextChunkToSend_openChunks _ _ _ hnext, sentChunks, hmax, htotal]

/-- The first window is sent as it should be exactly when the integers that count the chunks are
large enough. -/
theorem sendsFirstWindow_iff (cfg : SRConfig) (handle : SDRSendHandle) (p : ConnectionParams)
    (now : Clock)
    (hmtu : 0 < p.mtuBytes.toNat) (hppc : 0 < p.packetsPerChunk.toNat)
    (hlen : 0 < handle.userBuffer.length) (hsize : handle.userBuffer.length < 2 ^ 64) :
    SendsFirstWindow cfg handle p now ↔ CountsChunks cfg p handle.userBuffer.length := by
  have hbytes : 0 < chunkBytes p := Nat.mul_pos hmtu hppc
  obtain ⟨s, hstart, hserves, hsent, hnext, htotal, hmax⟩ :=
    SRSender.exists_start cfg handle hmtu hppc now
  have hlimit : min s.totalChunks s.maxInflight = sentChunks cfg p handle.userBuffer.length := by
    rw [sentChunks, hmax, htotal]
  have hnext' := SRSender.nextChunkToSend_start cfg handle hmtu hppc now
  constructor
  · intro h
    exact (sentChunks_eq_iff hbytes hlen hsize).mp (hnext'.symm.trans h.next)
  · intro hcounts
    have heq := (sentChunks_eq_iff hbytes hlen hsize).mpr hcounts
    have hpos : 0 < firstWindow cfg p _ := firstWindow_pos hbytes hlen
    refine ⟨?_, hnext'.trans heq, hpos, ?_⟩
    · have hmtuBytes : p.mtuBytes.toNat ≤ chunkBytes p := Nat.le_mul_of_pos_right _ hppc
      have hsum := hcounts.1
      have hcount : packetCount p handle.userBuffer
          = (handle.userBuffer.length + p.mtuBytes.toNat - 1) / p.mtuBytes.toNat := by
        rw [packetCount, ceilDiv, Nat.mod_eq_of_lt (by omega)]
      have hround : ∀ (s : SRSender), ∀ c ∈ List.range (firstWindow cfg p handle.userBuffer.length),
          s.Serves p handle.msgId handle.userBuffer → (s.openChunk now c).sent = s.sent ++
            (chunkOffsets (packetCount p handle.userBuffer) p.packetsPerChunk.toNat c).filterMap
              (postPacket p handle.msgId handle.userBuffer) := by
        intro s c hc hs
        have hc := List.mem_range.mp hc
        have hlt := firstWindow_lt hcounts
        have hpackets : c * p.packetsPerChunk.toNat ≤ 2 ^ 16 * (2 ^ 16 - 1) :=
          Nat.mul_le_mul (by omega) (by have := p.packetsPerChunk.isLt; omega)
        have hchunk : c * chunkBytes p < handle.userBuffer.length :=
          (lt_ceil_iff hbytes c).mp (hc.trans_le firstWindow_le)
        refine hs.sent_retransmitRange_of_lt hmtu (by omega) ?_ (by omega) now
        rw [hcount, lt_ceil_iff hmtu, Nat.mul_assoc, Nat.mul_comm p.packetsPerChunk.toNat]
        exact hchunk
      have hkeep : ∀ (s : SRSender) (c : ℕ), s.Serves p handle.msgId handle.userBuffer →
          (s.openChunk now c).Serves p handle.msgId handle.userBuffer := by
        intro s c hs
        have h := hs.retransmitRange c 1 now
        exact ⟨h.params, h.msgId, h.userBuffer, h.mtuBytes, h.packetsPerChunk⟩
      rw [hstart, hlimit, heq, foldl_appends SRSender.sent hkeep hround hserves, hsent,
        List.nil_append,
        hcount]
    · rw [hstart, SRSender.maxInflight_openChunks]
      omega

/-- Packets of one byte, each a chunk. -/
def bytewiseParams : ConnectionParams :=
  { ConnectionParams.zero with mtuBytes := 1, packetsPerChunk := 1 }

/-- Five chunks in a window of three. -/
theorem sendsFirstWindow_three : SendsFirstWindow { SRConfig.default with maxInflightChunks := 3 }
    ⟨0, 1, [1, 2, 3, 4, 5]⟩ bytewiseParams (.still 0) :=
  (sendsFirstWindow_iff _ _ _ (.still 0) (by decide) (by decide) (by decide) (by decide)).mpr
    ⟨by decide, by unfold messageChunks; decide⟩

/-- Of 65536 chunks without a configured window none is sent. -/
theorem not_sendsFirstWindow_large : ¬ SendsFirstWindow SRConfig.default
    ⟨0, 1, List.replicate 65536 0⟩ bytewiseParams (.still 0) := by
  intro h
  have hnext := SRSender.nextChunkToSend_start .default ⟨0, 1, List.replicate 65536 0⟩
    (p := bytewiseParams) (by decide) (by decide) (.still 0)
  rw [h.next, List.length_replicate] at hnext
  exact absurd hnext (by decide)

end SdrUdp
