import SdrUdp.EcSender
import SdrUdp.StreamPost

/-!
# The packets of all send paths

The loop of `sdr_send_post`, the retransmissions of `SRSender` and `ECSender` and
`sdr_send_stream_continue` compute the packets of a message each on their own.
-/

namespace SdrUdp

open SdrUdp.Core

/-! ### Blocks of packet numbers -/

/-- The packet numbers of chunk `c`. -/
def chunkOffsets (packets packetsPerChunk c : ℕ) : List ℕ :=
  List.range' (c * packetsPerChunk) (min packetsPerChunk (packets - c * packetsPerChunk))

/-- The chunks one after the other are all packets. -/
lemma flatMap_chunkOffsets (packets packetsPerChunk chunks : ℕ) :
    (List.range chunks).flatMap (chunkOffsets packets packetsPerChunk)
      = List.range (min packets (chunks * packetsPerChunk)) := by
  induction chunks with
  | zero => simp
  | succ c ih =>
    rw [List.range_succ, List.flatMap_append, ih, List.flatMap_singleton, chunkOffsets,
      List.range_eq_range', List.range_eq_range', Nat.succ_mul]
    rcases Nat.le_total packets (c * packetsPerChunk) with h | h
    · rw [Nat.min_eq_left h, Nat.sub_eq_zero_of_le h, Nat.min_zero, List.range'_zero,
        List.append_nil, Nat.min_eq_left (by omega)]
    · have happend := List.range'_append_1 (s := 0) (m := c * packetsPerChunk)
        (n := min packetsPerChunk (packets - c * packetsPerChunk))
      rw [Nat.zero_add] at happend
      rw [Nat.min_eq_right h, happend]
      congr 1
      omega

/-- A loop that leaves at the first number from `n` on. -/
lemma takeWhile_range' {p : ℕ → Bool} {n : ℕ} (hp : ∀ o, p o = true ↔ o < n) (start count : ℕ) :
    (List.range' start count).takeWhile p = List.range' start (min count (n - start)) := by
  induction count generalizing start with
  | zero => simp
  | succ count ih =>
    rw [List.range'_succ]
    by_cases h : start < n
    · have hcount : min (count + 1) (n - start) = min count (n - (start + 1)) + 1 := by omega
      rw [List.takeWhile_cons_of_pos ((hp start).mpr h), ih, hcount, List.range'_succ]
    · rw [List.takeWhile_cons_of_neg (by rw [hp]; exact h), Nat.sub_eq_zero_of_le (not_lt.mp h),
        Nat.min_zero, List.range'_zero]

/-- A loop whose rounds append to a log has appended all of it in the end. -/
lemma foldl_appends {σ α β : Type} {f : σ → α → σ} (log : σ → List β) {g : α → List β}
    {P : σ → Prop} (hkeep : ∀ s a, P s → P (f s a)) {l : List α}
    (hlog : ∀ s, ∀ a ∈ l, P s → log (f s a) = log s ++ g a) {s : σ} (hs : P s) :
    log (l.foldl f s) = log s ++ l.flatMap g := by
  induction l generalizing s with
  | nil => simp
  | cons a l ih =>
    rw [List.foldl_cons, ih (fun s b hb => hlog s b (List.mem_cons_of_mem a hb)) (hkeep s a hs),
      hlog s a List.mem_cons_self hs, List.flatMap_cons, List.append_assoc]

/-! ### Senders of one message -/

/-- A sender of the message `data` with the negotiated parameters `p`. -/
structure SRSender.Serves (p : ConnectionParams) (msgId : ℕ) (data : List U8) (s : SRSender) :
    Prop where
  params : s.params = p
  msgId : s.handle.msgId = msgId
  userBuffer : s.handle.userBuffer = data
  mtuBytes : s.mtuBytes = p.mtuBytes.toNat
  packetsPerChunk : s.packetsPerChunk = p.packetsPerChunk

structure ECSender.Serves (p : ConnectionParams) (msgId : ℕ) (data : List U8) (s : ECSender) :
    Prop where
  params : s.params = p
  msgId : s.handle.msgId = msgId
  userBuffer : s.handle.userBuffer = data

/-- An active stream over the message, as `sdr_send_stream_start` makes it. -/
structure SDRStreamHandle.Serves (p : ConnectionParams) (msgId : ℕ) (data : List U8)
    (h : SDRStreamHandle) : Prop where
  msgId : h.msgId = msgId
  userBuffer : h.userBuffer = data
  totalPackets : h.totalPackets = ceilDiv data.length p.mtuBytes.toNat
  isActive : h.isActive = true

lemma SRSender.Continues.serves {s s' : SRSender} (h : s.Continues s') {p : ConnectionParams}
    {msgId : ℕ} {data : List U8} (hs : s.Serves p msgId data) : s'.Serves p msgId data :=
  ⟨h.params.trans hs.params, by rw [h.handle]; exact hs.msgId,
    by rw [h.handle]; exact hs.userBuffer,
    h.mtuBytes.trans hs.mtuBytes, h.packetsPerChunk.trans hs.packetsPerChunk⟩

section Paths

variable {p : ConnectionParams} {msgId : ℕ} {data : List U8} {s : SRSender} {e : ECSender}
  {h : SDRStreamHandle}

lemma SRSender.Serves.retransmitRange (hs : s.Serves p msgId data) (startChunk count : ℕ)
    (now : Clock) : (s.retransmitRange startChunk count now).Serves p msgId data := by
  unfold SRSender.retransmitRange
  split
  · exact hs
  · exact ⟨hs.params, hs.msgId, hs.userBuffer, hs.mtuBytes, hs.packetsPerChunk⟩

/-- `start_send` makes such a sender. -/
lemma SRSender.start_serves (hmtu : p.mtuBytes ≠ 0) (hppc : p.packetsPerChunk ≠ 0)
    (cfg : SRConfig) (handle : SDRSendHandle) (now : Clock) :
    (SRSender.start cfg handle p now).Serves p handle.msgId handle.userBuffer := by
  unfold SRSender.start
  refine foldl_keeps (P := SRSender.Serves p handle.msgId handle.userBuffer)
    (fun s c _ hs => ?_) ⟨rfl, rfl, rfl, ?_, ?_⟩
  · have := hs.retransmitRange c 1 now
    exact ⟨this.params, this.msgId, this.userBuffer, this.mtuBytes, this.packetsPerChunk⟩
  · exact if_neg hmtu
  · exact if_neg hppc

lemma ECSender.Serves.retransmitChunk (he : e.Serves p msgId data) (c : ℕ) :
    (e.retransmitChunk c).Serves p msgId data :=
  ⟨he.params, he.msgId, he.userBuffer⟩

/-! ### Packets and chunks of a message -/

/-- Number of packets of a message. -/
def packetCount (p : ConnectionParams) (data : List U8) : ℕ :=
  ceilDiv data.length p.mtuBytes.toNat

/-- Number of its chunks. -/
def chunkCount (p : ConnectionParams) (data : List U8) : ℕ :=
  ceilDiv (packetCount p data) p.packetsPerChunk.toNat

/-- Packet `i` of the message, as the loop of `sdr_send_post` builds it. -/
def postPacket (p : ConnectionParams) (msgId : ℕ) (data : List U8) (i : ℕ) : Option SDRPacket :=
  dataPacket p.transferId msgId p.packetsPerChunk p.mtuBytes.toNat data i

lemma eq_of_lt_iff {a b : ℕ} (h : ∀ k, k < a ↔ k < b) : a = b :=
  le_antisymm (not_lt.mp fun hlt => lt_irrefl _ ((h b).mp hlt))
    (not_lt.mp fun hlt => lt_irrefl _ ((h a).mpr hlt))

/-- A negotiated transfer whose packets 18 bits can count. -/
structure Countable (p : ConnectionParams) (data : List U8) : Prop where
  mtu_pos : 0 < p.mtuBytes.toNat
  mtu_le : p.mtuBytes.toNat ≤ SDRPacket.maxPayloadSize
  ppc_pos : 0 < p.packetsPerChunk.toNat
  length_le : data.length ≤ 2 ^ 18 * p.mtuBytes.toNat

namespace Countable

variable (hc : Countable p data)
include hc

lemma length_add_le : data.length + p.mtuBytes.toNat ≤ 2 ^ 64 := by
  have hmtu := hc.mtu_le
  have hlen := hc.length_le
  simp only [SDRPacket.maxPayloadSize, SDRPacketHeader.size] at hmtu
  omega

lemma lt_packetCount_iff (k : ℕ) : k < packetCount p data ↔ k * p.mtuBytes.toNat < data.length :=
  lt_ceilDiv_iff hc.mtu_pos hc.length_add_le k

lemma packetCount_le : packetCount p data ≤ 2 ^ 18 := by
  by_contra h
  have := (hc.lt_packetCount_iff (2 ^ 18)).mp (not_le.mp h)
  have := hc.length_le
  omega

lemma lt_chunkCount_iff (c : ℕ) :
    c < chunkCount p data ↔ c * p.packetsPerChunk.toNat < packetCount p data := by
  have := hc.packetCount_le
  have := p.packetsPerChunk.isLt
  exact lt_ceilDiv_iff hc.ppc_pos (by omega) c

/-- `start_send` counts the chunks from the bytes. -/
lemma ceilDiv_chunkBytes :
    ceilDiv data.length (p.mtuBytes.toNat * p.packetsPerChunk.toNat) = chunkCount p data := by
  have hmtu := hc.mtu_le
  have hppc := p.packetsPerChunk.isLt
  have hlen := hc.length_le
  have hbytes : p.mtuBytes.toNat * p.packetsPerChunk.toNat ≤ 65496 * 2 ^ 16 :=
    Nat.mul_le_mul hmtu hppc.le
  have hmax : SDRPacket.maxPayloadSize = 65496 := rfl
  refine eq_of_lt_iff fun c => ?_
  rw [lt_ceilDiv_iff (Nat.mul_pos hc.mtu_pos hc.ppc_pos) (by omega), hc.lt_chunkCount_iff,
    hc.lt_packetCount_iff, Nat.mul_comm p.mtuBytes.toNat, Nat.mul_assoc]

/-- All chunks together are all packets. -/
lemma flatMap_chunks :
    (List.range (chunkCount p data)).flatMap
        (chunkOffsets (packetCount p data) p.packetsPerChunk.toNat)
      = List.range (packetCount p data) := by
  rw [flatMap_chunkOffsets]
  congr 1
  refine Nat.min_eq_left (not_lt.mp fun h => lt_irrefl (chunkCount p data) ?_)
  exact (hc.lt_chunkCount_iff _).mpr h

/-- Every packet is built. -/
lemma postPacket_eq_some (msgId i : ℕ) : ∃ q, postPacket p msgId data i = some q ∧
    q.header.packetOffset = BitVec.ofNat 18 i := by
  obtain ⟨q, hq, -, -, hoffset, -⟩ :=
    dataPacket_spec p.transferId msgId p.packetsPerChunk hc.mtu_le data i
  exact ⟨q, hq, hoffset⟩

lemma indices (msgId : ℕ) : ((List.range (packetCount p data)).filterMap
    (postPacket p msgId data)).map (fun q => q.header.packetOffset.toNat)
      = List.range (packetCount p data) := by
  rw [List.map_filterMap]
  have hone : ∀ i ∈ List.range (packetCount p data), (postPacket p msgId data i).map
      (fun q => q.header.packetOffset.toNat) = some i := by
    intro i hi
    obtain ⟨q, hq, hoffset⟩ := hc.postPacket_eq_some msgId i
    have hlt := (List.mem_range.mp hi).trans_le hc.packetCount_le
    rw [hq, Option.map_some, hoffset, BitVec.toNat_ofNat, Nat.mod_eq_of_lt hlt]
  rw [List.filterMap_congr hone, List.filterMap_some]

end Countable

/-! ### Retransmissions -/

/-- The range of a chunk within the message, when 32 bits can count up to it. Counted in bytes it
begins at a packet and ends where the message does. -/
lemma SRSender.Serves.packetRange_eq (hs : s.Serves p msgId data) (hmtu : 0 < p.mtuBytes.toNat)
    {c : ℕ} (hfirst : c * p.packetsPerChunk.toNat < data.length ⌈/⌉ p.mtuBytes.toNat)
    (hsmall : c * p.packetsPerChunk.toNat < 2 ^ 32) :
    s.packetRange c 1 = some (c * p.packetsPerChunk.toNat, min p.packetsPerChunk.toNat
      (data.length ⌈/⌉ p.mtuBytes.toNat - c * p.packetsPerChunk.toNat)) := by
  have hstart := (lt_ceilDiv_iff_mul_lt hmtu _ _).mp hfirst
  have hppc := p.packetsPerChunk.isLt
  have hcount := ceilDiv_min_sub hmtu p.packetsPerChunk.toNat data.length c
  rw [Nat.ceilDiv_eq_add_pred_div] at hcount
  unfold SRSender.packetRange
  dsimp only
  rw [hs.userBuffer, hs.mtuBytes, hs.packetsPerChunk, ← Nat.mul_assoc, if_neg hstart.not_ge,
    Nat.one_mul, hcount, Nat.mul_div_cancel _ hmtu, Nat.mod_eq_of_lt hsmall,
    Nat.mod_eq_of_lt (by omega)]

/-- `retransmit_range` of one chunk sends the packets of the chunk, when 32 bits can count up to
it. -/
lemma SRSender.Serves.sent_retransmitRange_of_lt (hs : s.Serves p msgId data)
    (hmtu : 0 < p.mtuBytes.toNat) (hlen : data.length + p.mtuBytes.toNat ≤ 2 ^ 64) {c : ℕ}
    (hfirst : c * p.packetsPerChunk.toNat < packetCount p data)
    (hsmall : c * p.packetsPerChunk.toNat < 2 ^ 32) (now : Clock) :
    (s.retransmitRange c 1 now).sent = s.sent ++
      (chunkOffsets (packetCount p data) p.packetsPerChunk.toNat c).filterMap
        (postPacket p msgId data) := by
  have hpackets : packetCount p data = data.length ⌈/⌉ p.mtuBytes.toNat := ceilDiv_eq hlen
  have hcount : ∀ k, decide (k * p.mtuBytes.toNat < data.length) = true ↔ k < packetCount p data :=
    fun k => decide_eq_true_iff.trans (lt_ceilDiv_iff hmtu hlen k).symm
  rw [s.retransmitRange_eq, hs.packetRange_eq hmtu (hpackets ▸ hfirst) hsmall, ← hpackets]
  simp only [Option.elim_some, SRSender.sendPacketsRange, hs.userBuffer, hs.mtuBytes,
    hs.packetsPerChunk, hs.params, hs.msgId, takeWhile_range' hcount, chunkOffsets,
    Nat.min_assoc, Nat.min_self]
  rfl

lemma SRSender.Serves.sent_retransmitRange (hs : s.Serves p msgId data) (hc : Countable p data)
    {c : ℕ} (hlt : c < chunkCount p data) (now : Clock) :
    (s.retransmitRange c 1 now).sent = s.sent ++
      (chunkOffsets (packetCount p data) p.packetsPerChunk.toNat c).filterMap
        (postPacket p msgId data) := by
  have hfirst := (hc.lt_chunkCount_iff c).mp hlt
  have hcount := hc.packetCount_le
  exact hs.sent_retransmitRange_of_lt hc.mtu_pos hc.length_add_le hfirst (by omega) now

/-- So does `retransmit_chunk`. -/
lemma ECSender.Serves.sent_retransmitChunk (he : e.Serves p msgId data) (hc : Countable p data)
    {c : ℕ} (hlt : c < chunkCount p data) :
    (e.retransmitChunk c).sent = e.sent ++
      (chunkOffsets (packetCount p data) p.packetsPerChunk.toNat c).filterMap
        (postPacket p msgId data) := by
  have hfirst := (hc.lt_chunkCount_iff c).mp hlt
  have hcount := hc.packetCount_le
  have hmtu : ecMtuBytes p = p.mtuBytes.toNat := by
    rw [ecMtuBytes, orDefault_of_ne (ne_zero_of_toNat_pos hc.mtu_pos), Nat.min_eq_left hc.mtu_le]
  have hppc : orDefault p.packetsPerChunk 32 = p.packetsPerChunk :=
    orDefault_of_ne (ne_zero_of_toNat_pos hc.ppc_pos)
  have hrange : (List.range p.packetsPerChunk.toNat).map
        (fun pkt => (c * p.packetsPerChunk.toNat + pkt) % 2 ^ 32)
      = List.range' (c * p.packetsPerChunk.toNat) p.packetsPerChunk.toNat := by
    have := p.packetsPerChunk.isLt
    rw [List.range'_eq_map_range]
    exact List.map_congr_left fun k hk => by
      rw [List.mem_range] at hk
      exact Nat.mod_eq_of_lt (by omega)
  have hloop : (List.range' (c * p.packetsPerChunk.toNat) p.packetsPerChunk.toNat).takeWhile
        (fun o => decide (o * p.mtuBytes.toNat < data.length))
      = chunkOffsets (packetCount p data) p.packetsPerChunk.toNat c :=
    takeWhile_range' (fun o => decide_eq_true_iff.trans (hc.lt_packetCount_iff o).symm) _ _
  simp only [ECSender.retransmitChunk, ECSender.chunkPackets, ecPacketsPerChunk, he.params,
    he.msgId, he.userBuffer, hmtu, hppc, hrange, hloop]
  rfl

/-- The retransmissions of all chunks send all packets. -/
lemma SRSender.Serves.sent_all (hs : s.Serves p msgId data) (hc : Countable p data) (now : Clock) :
    ((List.range (chunkCount p data)).foldl (fun s c => s.retransmitRange c 1 now) s).sent
      = s.sent ++ (List.range (packetCount p data)).filterMap (postPacket p msgId data) := by
  rw [foldl_appends SRSender.sent (P := SRSender.Serves p msgId data)
    (fun s c hs => hs.retransmitRange c 1 now)
    (fun s c hlt hs => hs.sent_retransmitRange hc (List.mem_range.mp hlt) now) hs,
    ← List.filterMap_flatMap, hc.flatMap_chunks]

lemma ECSender.Serves.sent_all (he : e.Serves p msgId data) (hc : Countable p data) :
    ((List.range (chunkCount p data)).foldl ECSender.retransmitChunk e).sent
      = e.sent ++ (List.range (packetCount p data)).filterMap (postPacket p msgId data) := by
  rw [foldl_appends ECSender.sent (P := ECSender.Serves p msgId data)
    (fun e c he => he.retransmitChunk c)
    (fun e c hlt he => he.sent_retransmitChunk hc (List.mem_range.mp hlt)) he,
    ← List.filterMap_flatMap, hc.flatMap_chunks]

/-! ### Streams -/

lemma SDRStreamHandle.Serves.lt_packetCount (hh : h.Serves p msgId data) {offset : U32}
    {length i : ℕ} (hi : i ∈ h.offsets p offset length) : i < packetCount p data := by
  simp only [SDRStreamHandle.offsets, List.mem_range'_1, hh.totalPackets] at hi
  rw [packetCount]
  omega

/-- Some range contains the packet, such as that of the whole message. -/
lemma SDRStreamHandle.Serves.mem_offsets (hh : h.Serves p msgId data) (hc : Countable p data)
    {i : ℕ} (hi : i < packetCount p data) : i ∈ h.offsets p 0 data.length := by
  have hcount := hc.packetCount_le
  have hstop : (streamRange p.mtuBytes.toNat 0 data.length).2 = packetCount p data := by
    have hzero : (0 : U32).toNat = 0 := rfl
    simp only [streamRange, hzero, Nat.zero_add]
    exact Nat.mod_eq_of_lt (hcount.trans_lt (by decide))
  have hfirst : (streamRange p.mtuBytes.toNat 0 data.length).1 = 0 := Nat.zero_div _
  simp only [SDRStreamHandle.offsets, List.mem_range'_1, hh.totalPackets, hstop, hfirst]
  exact ⟨Nat.zero_le _, by rw [← packetCount]; omega⟩

/-! ### Agreement -/

/-- All send paths produce the packets of `sdr_send_post`: each path on the chunk or the range of a
packet, and the retransmissions of all chunks together each packet once. -/
structure SendPathsAgree (p : ConnectionParams) (msgId : ℕ) (data : List U8) (s : SRSender)
    (e : ECSender) (h : SDRStreamHandle) : Prop where
  post : ∀ (conn : SDRConnection) (cts : ControlMessage), cts.params = p →
    conn.connectionCtx.autoSendData = true → ∃ handle, (sendPostOnCts conn msgId data cts true).1
      = .sent handle ((List.range (packetCount p data)).filterMap (postPacket p msgId data))
  indices : ((List.range (packetCount p data)).filterMap (postPacket p msgId data)).map
    (fun q => q.header.packetOffset.toNat) = List.range (packetCount p data)
  sr : ∀ c < chunkCount p data, ∀ now : Clock, (s.retransmitRange c 1 now).sent = s.sent ++
    (chunkOffsets (packetCount p data) p.packetsPerChunk.toNat c).filterMap
      (postPacket p msgId data)
  srAll : ∀ now : Clock,
    ((List.range (chunkCount p data)).foldl (fun s c => s.retransmitRange c 1 now) s).sent
      = s.sent ++ (List.range (packetCount p data)).filterMap (postPacket p msgId data)
  ec : ∀ c < chunkCount p data, (e.retransmitChunk c).sent = e.sent ++
    (chunkOffsets (packetCount p data) p.packetsPerChunk.toNat c).filterMap
      (postPacket p msgId data)
  ecAll : ((List.range (chunkCount p data)).foldl ECSender.retransmitChunk e).sent
    = e.sent ++ (List.range (packetCount p data)).filterMap (postPacket p msgId data)
  stream : ∀ offset length, ∀ i ∈ h.offsets p offset length, i < packetCount p data ∧
    (streamPacket p.transferId h.msgId p.packetsPerChunk p.mtuBytes.toNat h.userBuffer i).map
      SDRPacket.datagram = (postPacket p msgId data i).map SDRPacket.datagram

/-- The paths agree exactly when a 32-bit byte offset leads to the same bytes as the packet's place
in the buffer, as it does for every packet that starts below 4 GiB. -/
theorem sendPathsAgree_iff (hc : Countable p data) (hs : s.Serves p msgId data)
    (he : e.Serves p msgId data) (hh : h.Serves p msgId data) :
    SendPathsAgree p msgId data s e h ↔ ∀ i < packetCount p data,
      (data.drop (i * p.mtuBytes.toNat % 2 ^ 32)).take p.mtuBytes.toNat
        = (data.drop (i * p.mtuBytes.toNat)).take p.mtuBytes.toNat := by
  have hstream := fun i =>
    streamPacket_datagram_iff p.transferId msgId p.packetsPerChunk hc.mtu_le data i
  constructor
  · intro hagree i hi
    have hdatagram := (hagree.stream 0 data.length i (hh.mem_offsets hc hi)).2
    rw [hh.msgId, hh.userBuffer] at hdatagram
    exact (hstream i).mp hdatagram
  · intro hbytes
    refine ⟨fun conn cts hcts hauto => ?_, hc.indices msgId,
      fun c hlt now => hs.sent_retransmitRange hc hlt now, hs.sent_all hc,
      fun c hlt => he.sent_retransmitChunk hc hlt, he.sent_all hc, fun offset length i hi => ?_⟩
    · refine ⟨⟨msgId, p.transferId, data⟩, ?_⟩
      have hmtu : p.mtuBytes ≠ 0 := ne_zero_of_toNat_pos hc.mtu_pos
      have hppc : p.packetsPerChunk ≠ 0 := ne_zero_of_toNat_pos hc.ppc_pos
      simp only [sendPostOnCts, hcts, ConnectionContext.initializeContext, hmtu, hppc, hauto,
        Bool.true_eq_false, if_false]
      rfl
    · have hlt := hh.lt_packetCount hi
      rw [hh.msgId, hh.userBuffer]
      exact ⟨hlt, (hstream i).mpr (hbytes i hlt)⟩

/-- A packet that starts at 4 GiB takes the bytes at the start of the buffer. -/
lemma not_sendPathsAgree (hc : Countable p data) (hh : h.Serves p msgId data)
    (hmtu : p.mtuBytes.toNat = 2 ^ 15) (hlength : data.length = 2 ^ 32 + 1) :
    ¬ SendPathsAgree p msgId data s e h := by
  intro hagree
  have hlt : 2 ^ 17 < packetCount p data := by
    rw [hc.lt_packetCount_iff, hmtu, hlength]; decide
  have hdatagram := (hagree.stream 0 data.length (2 ^ 17) (hh.mem_offsets hc hlt)).2
  rw [hh.msgId, hh.userBuffer] at hdatagram
  have hbytes := congrArg List.length ((streamPacket_datagram_iff p.transferId msgId
    p.packetsPerChunk hc.mtu_le data (2 ^ 17)).mp hdatagram)
  simp only [packetBytes, List.length_take, List.length_drop, hlength, hmtu] at hbytes
  exact absurd hbytes (by decide)

end Paths

/-- The stream over a message. -/
def streamOf (p : ConnectionParams) (msgId : ℕ) (data : List U8) : SDRStreamHandle :=
  ⟨msgId, p.transferId, data, ceilDiv data.length p.mtuBytes.toNat, true⟩

/-- Three packets in two chunks. -/
theorem sendPathsAgree_three :
    let p := { ConnectionParams.zero with mtuBytes := 2, packetsPerChunk := 2 }
    let handle : SDRSendHandle := ⟨3, 0, [1, 2, 3, 4, 5]⟩
    SendPathsAgree p 3 [1, 2, 3, 4, 5] (SRSender.start .default handle p (.still 0))
      (ECSender.posted ⟨2, 1, 5, 1⟩ p p 5 handle) (streamOf p 3 [1, 2, 3, 4, 5]) := by
  intro p handle
  have hc : Countable p [1, 2, 3, 4, 5] := ⟨by decide, by decide, by decide, by decide⟩
  exact (sendPathsAgree_iff hc
    (SRSender.start_serves (by decide) (by decide) .default handle 0)
    ⟨rfl, rfl, rfl⟩ ⟨rfl, rfl, rfl, rfl⟩).mpr (by decide)

/-- A message of one byte more than 4 GiB: its last packet leaves the stream with 32768 bytes from
the start of the buffer. -/
theorem not_sendPathsAgree_large :
    let p := { ConnectionParams.zero with mtuBytes := 32768, packetsPerChunk := 64 }
    let data := List.replicate (2 ^ 32) (0 : U8) ++ [1]
    let handle : SDRSendHandle := ⟨3, 0, data⟩
    ¬ SendPathsAgree p 3 data (SRSender.start .default handle p (.still 0))
      (ECSender.posted ⟨2, 1, 5, 1⟩ p p 5 handle) (streamOf p 3 data) := by
  have hlength : (List.replicate (2 ^ 32) (0 : U8) ++ [1]).length = 2 ^ 32 + 1 := by
    rw [List.length_append, List.length_replicate, List.length_singleton]
  generalize List.replicate (2 ^ 32) (0 : U8) ++ [1] = data at hlength
  intro p data' handle
  have hc : Countable p data := ⟨by decide, by decide, by decide, by rw [hlength]; decide⟩
  exact not_sendPathsAgree hc ⟨rfl, rfl, rfl, rfl⟩ rfl hlength

end SdrUdp
